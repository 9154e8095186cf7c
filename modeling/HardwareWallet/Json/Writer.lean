import HardwareWallet.Value.Basic

namespace HardwareWallet.Json

def hexUnit (n : Nat) : List Char :=
  let digits := Nat.toDigits 16 n
  '\\' :: 'u' :: List.replicate (4 - digits.length) '0' ++ digits

def escape (c : Char) : List Char :=
  let n := c.toNat
  if c = '"' then ['\\', '"']
  else if c = '\\' then ['\\', '\\']
  else if c = '\n' then ['\\', 'n']
  else if c = '\r' then ['\\', 'r']
  else if c = '\t' then ['\\', 't']
  else if n = 8 then ['\\', 'b']
  else if n = 12 then ['\\', 'f']
  else if 0x20 ≤ n ∧ n < 0x7f then [c]
  else if n < 0x10000 then hexUnit n
  else hexUnit (0xd800 + (n - 0x10000) / 0x400) ++ hexUnit (0xdc00 + n % 0x400)

def quoted (s : String) : String :=
  String.ofList ('"' :: s.toList.flatMap escape ++ ['"'])

def roundedText : Binary64 → String
  | .infinite false => "Infinity"
  | .infinite true => "-Infinity"
  | .undefined => "NaN"
  | x => x.text

mutual

def render : Value → String
  | .null => "null"
  | .truth true => "true"
  | .truth false => "false"
  | .int n => toString n
  | .rounded x => roundedText x
  | .text s => quoted s
  | .array items => "[" ++ ", ".intercalate (renderItems items) ++ "]"
  | .object fields => "\x7b" ++ ", ".intercalate (renderFields fields) ++ "\x7d"

def renderItems : List Value → List String
  | [] => []
  | v :: vs => render v :: renderItems vs

def renderFields : List (String × Value) → List String
  | [] => []
  | (k, v) :: fields => (quoted k ++ ": " ++ render v) :: renderFields fields

end

end HardwareWallet.Json
