import HardwareWallet.Bytes

namespace HardwareWallet.Ripemd160

structure State where
  a : UInt32
  b : UInt32
  c : UInt32
  d : UInt32
  e : UInt32

structure Round where
  word : Nat
  shift : UInt32

structure Group where
  mix : UInt32 → UInt32 → UInt32 → UInt32
  constant : UInt32
  rounds : List Round

def rotate (x n : UInt32) : UInt32 :=
  (x <<< n) ||| (x >>> (32 - n))

def parity (x y z : UInt32) : UInt32 := x ^^^ y ^^^ z
def choose (x y z : UInt32) : UInt32 := (x &&& y) ||| (~~~x &&& z)
def orNot (x y z : UInt32) : UInt32 := (x ||| ~~~y) ^^^ z
def chooseLast (x y z : UInt32) : UInt32 := (x &&& z) ||| (y &&& ~~~z)
def orNotLast (x y z : UInt32) : UInt32 := x ^^^ (y ||| ~~~z)

def schedule (words : List Nat) (shifts : List UInt32) : List Round :=
  List.zipWith Round.mk words shifts

def left : List Group := [
  ⟨parity, 0x00000000, schedule [0, 1, 2, 3, 4, 5, 6, 7, 8, 9, 10, 11, 12, 13, 14, 15]
    [11, 14, 15, 12, 5, 8, 7, 9, 11, 13, 14, 15, 6, 7, 9, 8]⟩,
  ⟨choose, 0x5a827999, schedule [7, 4, 13, 1, 10, 6, 15, 3, 12, 0, 9, 5, 2, 14, 11, 8]
    [7, 6, 8, 13, 11, 9, 7, 15, 7, 12, 15, 9, 11, 7, 13, 12]⟩,
  ⟨orNot, 0x6ed9eba1, schedule [3, 10, 14, 4, 9, 15, 8, 1, 2, 7, 0, 6, 13, 11, 5, 12]
    [11, 13, 6, 7, 14, 9, 13, 15, 14, 8, 13, 6, 5, 12, 7, 5]⟩,
  ⟨chooseLast, 0x8f1bbcdc, schedule [1, 9, 11, 10, 0, 8, 12, 4, 13, 3, 7, 15, 14, 5, 6, 2]
    [11, 12, 14, 15, 14, 15, 9, 8, 9, 14, 5, 6, 8, 6, 5, 12]⟩,
  ⟨orNotLast, 0xa953fd4e, schedule [4, 0, 5, 9, 7, 12, 2, 10, 14, 1, 3, 8, 11, 6, 15, 13]
    [9, 15, 5, 11, 6, 8, 13, 12, 5, 12, 13, 14, 11, 8, 5, 6]⟩]

def right : List Group := [
  ⟨orNotLast, 0x50a28be6, schedule [5, 14, 7, 0, 9, 2, 11, 4, 13, 6, 15, 8, 1, 10, 3, 12]
    [8, 9, 9, 11, 13, 15, 15, 5, 7, 7, 8, 11, 14, 14, 12, 6]⟩,
  ⟨chooseLast, 0x5c4dd124, schedule [6, 11, 3, 7, 0, 13, 5, 10, 14, 15, 8, 12, 4, 9, 1, 2]
    [9, 13, 15, 7, 12, 8, 9, 11, 7, 7, 12, 7, 6, 15, 13, 11]⟩,
  ⟨orNot, 0x6d703ef3, schedule [15, 5, 1, 3, 7, 14, 6, 9, 11, 8, 12, 2, 10, 0, 4, 13]
    [9, 7, 15, 11, 8, 6, 6, 14, 12, 13, 5, 14, 13, 13, 7, 5]⟩,
  ⟨choose, 0x7a6d76e9, schedule [8, 6, 4, 1, 3, 11, 15, 0, 5, 12, 2, 13, 9, 7, 10, 14]
    [15, 5, 8, 11, 14, 14, 6, 14, 6, 9, 12, 9, 12, 5, 15, 8]⟩,
  ⟨parity, 0x00000000, schedule [12, 15, 10, 4, 1, 5, 8, 7, 6, 2, 13, 14, 0, 3, 9, 11]
    [8, 5, 12, 9, 12, 5, 14, 6, 8, 13, 6, 5, 15, 13, 11, 11]⟩]

def Group.step (g : Group) (block : List UInt32) (s : State) (r : Round) : State :=
  let t := rotate (s.a + g.mix s.b s.c s.d + block.getD r.word 0 + g.constant) r.shift + s.e
  ⟨s.e, t, s.b, rotate s.c 10, s.d⟩

def line (groups : List Group) (block : List UInt32) (s : State) : State :=
  groups.foldl (fun s g => g.rounds.foldl (g.step block) s) s

def compress (s : State) (block : List UInt32) : State :=
  let l := line left block s
  let r := line right block s
  ⟨s.b + l.c + r.d, s.c + l.d + r.e, s.d + l.e + r.a, s.e + l.a + r.b, s.a + l.b + r.c⟩

def initial : State :=
  ⟨0x67452301, 0xefcdab89, 0x98badcfe, 0x10325476, 0xc3d2e1f0⟩

def words : Bytes → List UInt32
  | b0 :: b1 :: b2 :: b3 :: rest =>
    (b0.toUInt32 ||| (b1.toUInt32 <<< 8) ||| (b2.toUInt32 <<< 16) ||| (b3.toUInt32 <<< 24)) :: words rest
  | _ => []

def padding (length : Nat) : Bytes :=
  0x80 :: List.replicate ((119 - length % 64) % 64) 0 ++ (Bytes.ofNat 8 (8 * length)).reverse

def wordBytes (w : UInt32) : Bytes :=
  [w.toUInt8, (w >>> 8).toUInt8, (w >>> 16).toUInt8, (w >>> 24).toUInt8]

def State.toBytes (s : State) : Bytes :=
  wordBytes s.a ++ wordBytes s.b ++ wordBytes s.c ++ wordBytes s.d ++ wordBytes s.e

def digest (message : Bytes) : Bytes :=
  let blocks := Bytes.chunks 64 (message ++ padding message.length)
  (blocks.foldl (fun s block => compress s (words block)) initial).toBytes

@[simp] theorem length_digest (message : Bytes) : (digest message).length = 20 := rfl

end HardwareWallet.Ripemd160
