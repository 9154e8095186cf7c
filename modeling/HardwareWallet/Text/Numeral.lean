import HardwareWallet.Text.DecimalDigit

namespace HardwareWallet.Text

def trimBlanks (cs : List Char) : List Char :=
  ((cs.dropWhile isNumeralBlank).reverse.dropWhile isNumeralBlank).reverse

def readDigits? : List Char → Nat → Nat → Option (Nat × Nat)
  | [], value, count => some (value, count)
  | '_' :: c :: rest, value, count =>
    match digitValue? c with
    | some d => readDigits? rest (10 * value + d) (count + 1)
    | none => none
  | c :: rest, value, count =>
    match digitValue? c with
    | some d => readDigits? rest (10 * value + d) (count + 1)
    | none => none

/-- More digits than this are refused, in reading and in writing. -/
def maxDigits : Nat := 4300

def isWritable (n : Int) : Bool :=
  n.natAbs < Nat.pow 10 maxDigits

def readNat? : List Char → Option Nat
  | [] => none
  | '_' :: _ => none
  | cs =>
    match readDigits? cs 0 0 with
    | some (value, count) => if count ≤ maxDigits then some value else none
    | none => none

def readInt? (cs : List Char) : Option Int :=
  match trimBlanks cs with
  | '-' :: rest => (readNat? rest).map fun n => -(n : Int)
  | '+' :: rest => (readNat? rest).map Int.ofNat
  | rest => (readNat? rest).map Int.ofNat

end HardwareWallet.Text
