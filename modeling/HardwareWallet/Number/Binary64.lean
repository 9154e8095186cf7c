/-!
Numbers of 64 bits with a binary point. Each finite one is a whole multiple of the least magnitude, which is
`2 ^ -1074`, and is not zero in its leading 53 bits only. They are compared exactly and reckoned with by
rounding the exact result to the nearest of them.
-/

namespace HardwareWallet

inductive Binary64 where
  /-- The number `units * 2 ^ -1074` with its sign. -/
  | finite (negative : Bool) (units : Nat)
  | infinite (negative : Bool)
  | undefined
  deriving DecidableEq

namespace Binary64

def signed (negative : Bool) (n : Nat) : Int :=
  if negative then -(n : Int) else n

def isZero : Binary64 → Bool
  | finite _ units => units = 0
  | _ => false

def nearest (numerator denominator : Nat) : Nat :=
  let below := numerator / denominator
  let twice := 2 * (numerator % denominator)
  if twice < denominator ∨ twice = denominator ∧ below % 2 = 0 then below else below + 1

def excess (n : Nat) : Nat :=
  n.log2 + 1 - 53

/-- From here on, whole multiples of the least magnitude are not told from infinity. -/
def limit : Nat :=
  1 <<< 2098

def ofUnits (negative : Bool) (numerator denominator : Nat) : Binary64 :=
  let bits := excess (numerator / denominator)
  let units := nearest numerator (denominator <<< bits) <<< bits
  if units < limit then finite negative units else infinite negative

def ofInt (n : Int) : Binary64 :=
  ofUnits (n < 0) (n.natAbs <<< 1074) 1

def ofInt? (n : Int) : Option Binary64 :=
  match ofInt n with
  | infinite _ => none
  | x => some x

def ofDecimal (negative : Bool) (mantissa : Nat) (exponent : Int) : Binary64 :=
  let order := (Nat.toDigits 10 mantissa).length + exponent
  if mantissa = 0 ∨ order < -330 then finite negative 0
  else if 330 < order then infinite negative
  else ofUnits negative (mantissa * Nat.pow 10 exponent.toNat <<< 1074) (Nat.pow 10 (-exponent).toNat)

def compare? : Binary64 → Binary64 → Option Ordering
  | undefined, _ => none
  | _, undefined => none
  | infinite a, infinite b => some (if a = b then .eq else if a then .lt else .gt)
  | infinite a, finite .. => some (if a then .lt else .gt)
  | finite .., infinite b => some (if b then .gt else .lt)
  | finite a m, finite b n => some (compare (signed a m) (signed b n))

def compareInt? (n : Int) : Binary64 → Option Ordering
  | undefined => none
  | infinite a => some (if a then .lt else .gt)
  | finite a m => some (compare (signed a m) (n * (1 <<< 1074 : Nat)))

def neg : Binary64 → Binary64
  | finite negative units => finite (!negative) units
  | infinite negative => infinite (!negative)
  | undefined => undefined

def add : Binary64 → Binary64 → Binary64
  | undefined, _ => undefined
  | _, undefined => undefined
  | infinite a, infinite b => if a = b then infinite a else undefined
  | infinite a, finite .. => infinite a
  | finite .., infinite b => infinite b
  | finite a m, finite b n =>
    let sum := signed a m + signed b n
    if sum = 0 then finite (a && b) 0 else ofUnits (sum < 0) sum.natAbs 1

def sub (a b : Binary64) : Binary64 :=
  add a b.neg

def times (k : Nat) : Binary64 → Binary64
  | finite negative units => ofUnits negative (k * units) 1
  | other => other

def floorQuotient (k : Nat) : Binary64 → Binary64
  | finite negative units =>
    let whole := signed negative units / ((k <<< 1074 : Nat) : Int)
    ofUnits negative (whole.natAbs <<< 1074) 1
  | _ => undefined

def truncated (negative : Bool) (units : Nat) : Int :=
  signed negative (units >>> 1074)

end Binary64

end HardwareWallet
