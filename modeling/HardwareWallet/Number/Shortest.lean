import HardwareWallet.Number.Binary64

/-!
The text of numbers of 64 bits: the fewest decimal digits that are read as the number, and of those the
nearest to it.
-/

namespace HardwareWallet.Binary64

/-- How many digits stand before the point. Zeros right behind the point count as less than none. -/
def order (units : Nat) : Int :=
  (Nat.toDigits 10 ((units * Nat.pow 10 340) >>> 1074)).length - 340

def neighbours (units : Nat) (exponent : Int) : List Nat :=
  let numerator := units * Nat.pow 10 (-exponent).toNat
  let denominator := Nat.pow 10 exponent.toNat <<< 1074
  let below := numerator / denominator
  if nearest numerator denominator = below then [below, below + 1] else [below + 1, below]

def candidates (units digits : Nat) : List (Nat × Int) :=
  (neighbours units (order units - digits)).map fun mantissa => (mantissa, order units - digits)

/-- A mantissa and its power of ten. Seventeen digits tell all numbers apart. -/
def shortest (units : Nat) : Nat × Int :=
  let decimals := (List.range' 1 17).flatMap (candidates units)
  (decimals.find? fun d => ofDecimal false d.1 d.2 = finite false units).getD (0, 0)

def stripZeros (digits : List Char) : List Char :=
  (digits.reverse.dropWhile (· = '0')).reverse

def side (digits : List Char) : List Char :=
  if digits = [] then ['0'] else digits

def positional (digits : List Char) (point : Int) : List Char :=
  let shown := digits ++ List.replicate (point - digits.length).toNat '0'
  side (shown.take point.toNat) ++ '.' :: side (List.replicate (-point).toNat '0' ++ shown.drop point.toNat)

def scientific (digits : List Char) (exponent : Int) : List Char :=
  let power := Nat.toDigits 10 exponent.natAbs
  let tail := if digits.length ≤ 1 then [] else '.' :: digits.drop 1
  side (digits.take 1) ++ tail ++ ['e', if exponent < 0 then '-' else '+']
    ++ List.replicate (2 - power.length) '0' ++ power

/-- Positional from one ten-thousandth up to sixteen digits before the point. -/
def decimalText (mantissa : Nat) (exponent : Int) : List Char :=
  let shown := Nat.toDigits 10 mantissa
  let point := shown.length + exponent
  if mantissa = 0 then ['0', '.', '0']
  else if -4 < point ∧ point ≤ 16 then positional (stripZeros shown) point
  else scientific (stripZeros shown) (point - 1)

def text : Binary64 → String
  | finite negative units =>
    let (mantissa, exponent) := shortest units
    String.ofList ((if negative then ['-'] else []) ++ decimalText mantissa exponent)
  | infinite false => "inf"
  | infinite true => "-inf"
  | undefined => "nan"

end HardwareWallet.Binary64
