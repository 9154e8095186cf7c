import HardwareWallet.Number.Binary64
import HardwareWallet.Text.Numeral

namespace HardwareWallet.Binary64

def asciiDigit? (c : Char) : Option Char :=
  if c.toNat < 0x80 then some c
  else (Text.digitValue? c).map fun d => Char.ofNat (0x30 + d)

def isDigit (c : Char) : Bool :=
  '0' ≤ c && c ≤ '9'

def joinDigits? (before : Bool) : List Char → Option (List Char)
  | [] => some []
  | '_' :: c :: rest => if before && isDigit c then (joinDigits? true rest).map (c :: ·) else none
  | c :: rest => if c = '_' then none else (joinDigits? (isDigit c) rest).map (c :: ·)

def digitsValue (digits : List Char) : Nat :=
  digits.foldl (fun n c => 10 * n + (c.toNat - 0x30)) 0

def readSign : List Char → Bool × List Char
  | '-' :: rest => (true, rest)
  | '+' :: rest => (false, rest)
  | rest => (false, rest)

def readExponent? : List Char → Option Int
  | [] => some 0
  | c :: rest =>
    let (negative, digits) := readSign rest
    if (c = 'e' ∨ c = 'E') ∧ digits ≠ [] ∧ digits.all isDigit then some (signed negative (digitsValue digits))
    else none

def readPlaces (cs : List Char) : List Char × List Char × List Char :=
  let whole := cs.takeWhile isDigit
  match cs.dropWhile isDigit with
  | '.' :: rest => (whole, rest.takeWhile isDigit, rest.dropWhile isDigit)
  | rest => (whole, [], rest)

def readUnsigned? (negative : Bool) (cs : List Char) : Option Binary64 :=
  let word := String.ofList (cs.map Char.toLower)
  if word = "inf" ∨ word = "infinity" then some (infinite negative)
  else if word = "nan" then some undefined
  else
    let (whole, fraction, rest) := readPlaces cs
    if whole = [] ∧ fraction = [] then none
    else (readExponent? rest).map fun e => ofDecimal negative (digitsValue (whole ++ fraction)) (e - fraction.length)

def read? (text : String) : Option Binary64 := do
  let ascii ← (Text.trimBlanks text.toList).mapM asciiDigit?
  let plain ← joinDigits? false ascii
  let (negative, rest) := readSign plain
  readUnsigned? negative rest

end HardwareWallet.Binary64
