namespace HardwareWallet

abbrev Bytes := List UInt8

namespace Bytes

def toNat (bs : Bytes) : Nat :=
  bs.foldl (fun n b => n * 256 + b.toNat) 0

def ofNat : Nat → Nat → Bytes
  | 0, _ => []
  | width + 1, n => ofNat width (n / 256) ++ [UInt8.ofNat (n % 256)]

@[simp] theorem length_ofNat (width n : Nat) : (ofNat width n).length = width := by
  induction width generalizing n with
  | zero => rfl
  | succ width ih => simp [ofNat, ih]

def digits (n : Nat) : Bytes :=
  if _h : n = 0 then [] else digits (n / 256) ++ [UInt8.ofNat (n % 256)]
termination_by n
decreasing_by omega

def xor (as bs : Bytes) : Bytes :=
  List.zipWith (· ^^^ ·) as bs

def chunks (size : Nat) (bs : Bytes) : List Bytes :=
  if _h : bs = [] ∨ size = 0 then []
  else bs.take size :: chunks size (bs.drop size)
termination_by bs.length
decreasing_by
  have : bs.length ≠ 0 := by simp_all
  simp only [List.length_drop]
  omega

def hexDigit (n : Nat) : Char :=
  if n < 10 then Char.ofNat (48 + n) else Char.ofNat (87 + n)

def hexChars : Bytes → List Char
  | [] => []
  | b :: bs => hexDigit (b.toNat / 16) :: hexDigit (b.toNat % 16) :: hexChars bs

def hex (bs : Bytes) : String :=
  String.ofList (hexChars bs)

def hexValue? (c : Char) : Option Nat :=
  if '0' ≤ c ∧ c ≤ '9' then some (c.toNat - 48)
  else if 'a' ≤ c ∧ c ≤ 'f' then some (c.toNat - 87)
  else if 'A' ≤ c ∧ c ≤ 'F' then some (c.toNat - 55)
  else none

def isHexBlank (c : Char) : Bool :=
  c = ' ' || (9 ≤ c.toNat && c.toNat ≤ 13)

/-- Reads pairs of hexadecimal digits. Blanks separate bytes and never the digits of one. -/
def ofHexChars? : List Char → Option Bytes
  | [] => some []
  | [c] => if isHexBlank c then some [] else none
  | c :: d :: rest =>
    if isHexBlank c then ofHexChars? (d :: rest)
    else do
      let high ← hexValue? c
      let low ← hexValue? d
      let bs ← ofHexChars? rest
      return UInt8.ofNat (16 * high + low) :: bs

def ofHex? (text : String) : Option Bytes :=
  ofHexChars? text.toList

def ofText (text : String) : Bytes :=
  text.toUTF8.toList

end Bytes

end HardwareWallet
