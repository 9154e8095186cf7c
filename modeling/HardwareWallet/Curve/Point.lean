/-!
The curve secp256k1: `y² = x³ + 7` over the integers modulo a prime. Points are added by the chord and
the tangent. Multiples of a point are computed in coordinates that need no division until the end.
-/

namespace HardwareWallet.Curve

def fieldPrime : Nat := 0xfffffffffffffffffffffffffffffffffffffffffffffffffffffffefffffc2f

def order : Nat := 0xfffffffffffffffffffffffffffffffebaaedce6af48a03bbfd25e8cd0364141

instance : @NeZero Nat (@Zero.ofOfNat0 Nat (instOfNatNat 0)) fieldPrime :=
  @NeZero.mk Nat (@Zero.ofOfNat0 Nat (instOfNatNat 0)) fieldPrime (Nat.ne_of_beq_eq_false rfl)

abbrev Coordinate := Fin fieldPrime

def Coordinate.powerFrom (a : Coordinate) (exponent : Nat) : Nat → Coordinate → Coordinate
  | 0, acc => acc
  | bits + 1, acc =>
    let square := acc * acc
    powerFrom a exponent bits (if exponent.testBit bits then square * a else square)

def Coordinate.power (a : Coordinate) (exponent : Nat) : Coordinate :=
  Coordinate.powerFrom a exponent 256 1

def Coordinate.inverse (a : Coordinate) : Coordinate :=
  Coordinate.power a (fieldPrime - 2)

def Coordinate.root (a : Coordinate) : Coordinate :=
  Coordinate.power a ((fieldPrime + 1) / 4)

inductive Point where
  | infinity
  | affine (x y : Coordinate)
  deriving DecidableEq

def onCurve (x y : Coordinate) : Bool :=
  y * y = x * x * x + 7

namespace Point

def add : Point → Point → Point
  | infinity, q => q
  | p, infinity => p
  | affine x₁ y₁, affine x₂ y₂ =>
    if x₁ = x₂ ∧ y₁ = -y₂ then infinity
    else
      let slope :=
        if x₁ = x₂ then 3 * x₁ * x₁ * Coordinate.inverse (2 * y₁)
        else (y₁ - y₂) * Coordinate.inverse (x₁ - x₂)
      let x := slope * slope - x₁ - x₂
      affine x (slope * (x₁ - x) - y₁)

end Point

/-- The point `(x / z², y / z³)`, or the point at infinity if `z` is zero. -/
structure Weighted where
  x : Coordinate
  y : Coordinate
  z : Coordinate

namespace Weighted

def infinity : Weighted := ⟨1, 1, 0⟩

def toPoint (p : Weighted) : Point :=
  if p.z = 0 then .infinity
  else
    let i := Coordinate.inverse p.z
    .affine (p.x * (i * i)) (p.y * (i * i * i))

def double (p : Weighted) : Weighted :=
  let yy := p.y * p.y
  let s := 4 * (p.x * yy)
  let m := 3 * (p.x * p.x)
  let x := m * m - 2 * s
  ⟨x, m * (s - x) - 8 * (yy * yy), 2 * (p.y * p.z)⟩

def addAffine (p : Weighted) (x₂ y₂ : Coordinate) : Weighted :=
  if p.z = 0 then ⟨x₂, y₂, 1⟩
  else
    let zz := p.z * p.z
    let h := x₂ * zz - p.x
    let r := y₂ * (zz * p.z) - p.y
    if h = 0 then if r = 0 then p.double else infinity
    else
      let hh := h * h
      let hhh := hh * h
      let v := p.x * hh
      let x := r * r - hhh - 2 * v
      ⟨x, r * (v - x) - p.y * hhh, h * p.z⟩

def multipleFrom (x y : Coordinate) (factor : Nat) : Nat → Weighted → Weighted
  | 0, acc => acc
  | bits + 1, acc =>
    let twice := acc.double
    multipleFrom x y factor bits (if factor.testBit bits then twice.addAffine x y else twice)

end Weighted

def generatorX : Coordinate := 0x79be667ef9dcbbac55a06295ce870b07029bfcdb2dce28d959f2815b16f81798
def generatorY : Coordinate := 0x483ada7726a3c4655da4fbfc0e1108a8fd17b448a68554199c47d08ffb10d4b8

def multiple (factor : Nat) : Point :=
  (Weighted.multipleFrom generatorX generatorY factor 256 .infinity).toPoint

end HardwareWallet.Curve
