import HardwareWallet.Digest.Double
import HardwareWallet.Error

/-!
Base58 text. A byte string is read as a number and written in base 58, and each zero byte in front is
written as the digit zero. With a check sum, the first bytes of a double digest follow the payload.
-/

namespace HardwareWallet.Base58

@[irreducible] def alphabet : List Char :=
  "123456789ABCDEFGHJKLMNPQRSTUVWXYZabcdefghijkmnopqrstuvwxyz".toList

def digit (n : Nat) : Char :=
  alphabet.getD n '1'

def digitValue? (c : Char) : Option Nat :=
  alphabet.idxOf? c

def digits (n : Nat) : List Char :=
  if _h : n = 0 then [] else digits (n / 58) ++ [digit (n % 58)]
termination_by n
decreasing_by omega

def encode (bs : Bytes) : String :=
  String.ofList (List.replicate (bs.takeWhile (· = 0)).length '1' ++ digits (Bytes.toNat bs))

def value : Nat → List Char → Except Base58Fault Nat
  | n, [] => .ok n
  | n, c :: cs =>
    match digitValue? c with
    | some d => value (58 * n + d) cs
    | none => .error (.character c)

def numberBytes (n : Nat) : Bytes :=
  if n = 0 then [0] else Bytes.digits n

/-- The bytes of the number that a text spells, after a zero byte for each digit zero in front. The last character is not
    counted: its byte is there anyway. -/
def decode (text : String) : Except Base58Fault Bytes :=
  if text.isEmpty then .ok []
  else do
    let n ← value 0 text.toList
    return List.replicate (text.toList.dropLast.takeWhile (· = '1')).length 0 ++ numberBytes n

def checksum (payload : Bytes) : Bytes :=
  (hash256 payload).take 4

def encodeCheck (payload : Bytes) : String :=
  encode (payload ++ checksum payload)

def decodeCheck (text : String) : Except Base58Fault Bytes := do
  let data ← decode text
  let payload := data.take (data.length - 4)
  if checksum payload = data.drop (data.length - 4) then return payload
  else throw .checksum

/-- The last 33 bytes before the check sum, where an extended public key has its point. No check is made. -/
def publicKeyHex (text : String) : Except Base58Fault String := do
  let data ← decode text
  return Bytes.hex ((data.take (data.length - 4)).drop (data.length - 37))

end HardwareWallet.Base58
