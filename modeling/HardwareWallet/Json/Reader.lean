import HardwareWallet.Bytes
import HardwareWallet.Value.Basic

namespace HardwareWallet.Json

def skipBlanks (cs : List Char) : List Char :=
  cs.dropWhile fun c => c = ' ' || c = '\n' || c = '\r' || c = '\t'

def unitValue? (cs : List Char) : Option Nat := do
  let ds ← cs.mapM Bytes.hexValue?
  return ds.foldl (fun n d => 16 * n + d) 0

def joinUnits? (high low : Nat) : Option Char :=
  if 0xd800 ≤ high ∧ high < 0xdc00 ∧ 0xdc00 ≤ low ∧ low < 0xe000 then
    some (Char.ofNat (0x10000 + (high - 0xd800) * 0x400 + (low - 0xdc00)))
  else none

def unescape (c : Char) : Char :=
  match c with
  | 'n' => '\n'
  | 'r' => '\r'
  | 't' => '\t'
  | 'b' => '\x08'
  | 'f' => '\x0c'
  | c => c

def readText : Nat → List Char → Option (List Char × List Char)
  | 0, _ => none
  | fuel + 1, cs =>
    match cs with
    | [] => none
    | '"' :: rest => some ([], rest)
    | '\\' :: 'u' :: a :: b :: c :: d :: rest => do
      let high ← unitValue? [a, b, c, d]
      let joined : Option (Char × List Char) := match rest with
        | '\\' :: 'u' :: e :: f :: g :: h :: rest => do
          let low ← unitValue? [e, f, g, h]
          let both ← joinUnits? high low
          return (both, rest)
        | _ => none
      let (char, rest) := joined.getD (Char.ofNat high, rest)
      let (chars, rest) ← readText fuel rest
      return (char :: chars, rest)
    | '\\' :: c :: rest => do
      let (chars, rest) ← readText fuel rest
      return (unescape c :: chars, rest)
    | c :: rest => do
      let (chars, rest) ← readText fuel rest
      return (c :: chars, rest)

def natOf (digits : List Char) : Nat :=
  digits.foldl (fun n c => 10 * n + (c.toNat - 48)) 0

def number? (cs : List Char) : Option Value :=
  let negative := cs.head? = some '-'
  let cs := if negative then cs.drop 1 else cs
  let whole := cs.takeWhile Char.isDigit
  let rest := cs.dropWhile Char.isDigit
  if whole = [] then none
  else if rest = [] then some (.int (Binary64.signed negative (natOf whole)))
  else
    let fraction := if rest.head? = some '.' then (rest.drop 1).takeWhile Char.isDigit else []
    let exponent := (rest.dropWhile fun c => c = '.' || c.isDigit).drop 1
    let power := Binary64.signed (exponent.head? = some '-') (natOf (exponent.filter Char.isDigit))
    some (.rounded (.ofDecimal negative (natOf (whole ++ fraction)) (power - fraction.length)))

def words : List (String × Value) :=
  [("true", .truth true), ("false", .truth false), ("null", .null), ("Infinity", .rounded (.infinite false)),
    ("-Infinity", .rounded (.infinite true)), ("NaN", .rounded .undefined)]

def readWord? (cs : List Char) : Option (Value × List Char) :=
  (words.find? fun w => w.1.toList.isPrefixOf cs).map fun w => (w.2, cs.drop w.1.length)

def isNumberPart (c : Char) : Bool :=
  c.isDigit || c = '-' || c = '+' || c = '.' || c = 'e' || c = 'E'

mutual

def readValue : Nat → List Char → Option (Value × List Char)
  | 0, _ => none
  | fuel + 1, cs =>
    match skipBlanks cs with
    | '"' :: rest => do
      let (s, rest) ← readText rest.length.succ rest
      return (.text (String.ofList s), rest)
    | '[' :: rest => do
      let (items, rest) ← readItems fuel rest
      return (.array items, rest)
    | '\x7b' :: rest => do
      let (fields, rest) ← readFields fuel rest
      return (.object fields, rest)
    | rest =>
      match readWord? rest with
      | some found => some found
      | none => (number? (rest.takeWhile isNumberPart)).map fun n => (n, rest.dropWhile isNumberPart)

def readItems : Nat → List Char → Option (List Value × List Char)
  | 0, _ => none
  | fuel + 1, cs =>
    match skipBlanks cs with
    | ']' :: rest => some ([], rest)
    | ',' :: rest => readItems fuel rest
    | rest => do
      let (item, rest) ← readValue fuel rest
      let (items, rest) ← readItems fuel rest
      return (item :: items, rest)

def readFields : Nat → List Char → Option (List (String × Value) × List Char)
  | 0, _ => none
  | fuel + 1, cs =>
    match skipBlanks cs with
    | '\x7d' :: rest => some ([], rest)
    | ',' :: rest => readFields fuel rest
    | '"' :: rest => do
      let (key, rest) ← readText rest.length.succ rest
      match skipBlanks rest with
      | ':' :: rest => do
        let (value, rest) ← readValue fuel rest
        let (fields, rest) ← readFields fuel rest
        return ((String.ofList key, value) :: fields, rest)
      | _ => none
    | _ => none

end

def parse? (s : String) : Option Value :=
  let cs := s.toList
  (readValue (2 * cs.length + 2) cs).map Prod.fst

end HardwareWallet.Json
