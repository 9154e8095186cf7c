import HardwareWallet.Aes.Substitution
import HardwareWallet.Bytes

namespace HardwareWallet.Aes

structure Column where
  a : UInt8
  b : UInt8
  c : UInt8
  d : UInt8
  deriving DecidableEq

def double (b : UInt8) : UInt8 :=
  (b <<< 1) ^^^ ((b >>> 7) * 0x1b)

namespace Column

def map (f : UInt8 → UInt8) (k : Column) : Column :=
  ⟨f k.a, f k.b, f k.c, f k.d⟩

def add (k l : Column) : Column :=
  ⟨k.a ^^^ l.a, k.b ^^^ l.b, k.c ^^^ l.c, k.d ^^^ l.d⟩

def rotate (k : Column) : Column :=
  ⟨k.b, k.c, k.d, k.a⟩

def mix (k : Column) : Column :=
  let sum := k.a ^^^ k.b ^^^ k.c ^^^ k.d
  ⟨k.a ^^^ sum ^^^ double (k.a ^^^ k.b), k.b ^^^ sum ^^^ double (k.b ^^^ k.c),
    k.c ^^^ sum ^^^ double (k.c ^^^ k.d), k.d ^^^ sum ^^^ double (k.d ^^^ k.a)⟩

/-- The product with the circulant matrix of 14, 11, 13, 9: four times the opposite sums are added first. -/
def unmix (k : Column) : Column :=
  let u := double (double (k.a ^^^ k.c))
  let v := double (double (k.b ^^^ k.d))
  mix ⟨k.a ^^^ u, k.b ^^^ v, k.c ^^^ u, k.d ^^^ v⟩

def toBytes (k : Column) : Bytes :=
  [k.a, k.b, k.c, k.d]

end Column

structure Block where
  k0 : Column
  k1 : Column
  k2 : Column
  k3 : Column
  deriving DecidableEq

namespace Block

def map (f : Column → Column) (s : Block) : Block :=
  ⟨f s.k0, f s.k1, f s.k2, f s.k3⟩

def add (s t : Block) : Block :=
  ⟨s.k0.add t.k0, s.k1.add t.k1, s.k2.add t.k2, s.k3.add t.k3⟩

def shift (s : Block) : Block :=
  ⟨⟨s.k0.a, s.k1.b, s.k2.c, s.k3.d⟩, ⟨s.k1.a, s.k2.b, s.k3.c, s.k0.d⟩,
    ⟨s.k2.a, s.k3.b, s.k0.c, s.k1.d⟩, ⟨s.k3.a, s.k0.b, s.k1.c, s.k2.d⟩⟩

def unshift (s : Block) : Block :=
  ⟨⟨s.k0.a, s.k3.b, s.k2.c, s.k1.d⟩, ⟨s.k1.a, s.k0.b, s.k3.c, s.k2.d⟩,
    ⟨s.k2.a, s.k1.b, s.k0.c, s.k3.d⟩, ⟨s.k3.a, s.k2.b, s.k1.c, s.k0.d⟩⟩

def toBytes (s : Block) : Bytes :=
  s.k0.toBytes ++ s.k1.toBytes ++ s.k2.toBytes ++ s.k3.toBytes

def ofBytes? : Bytes → Option Block
  | [b0, b1, b2, b3, b4, b5, b6, b7, b8, b9, b10, b11, b12, b13, b14, b15] =>
    some ⟨⟨b0, b1, b2, b3⟩, ⟨b4, b5, b6, b7⟩, ⟨b8, b9, b10, b11⟩, ⟨b12, b13, b14, b15⟩⟩
  | _ => none

end Block

end HardwareWallet.Aes
