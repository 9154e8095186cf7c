import HardwareWallet.Curve.Point
import HardwareWallet.Error

namespace HardwareWallet.Curve

def Point.compressed? : Point → Option Bytes
  | .infinity => none
  | .affine x y => some ((if y.val % 2 = 0 then 2 else 3) :: Bytes.ofNat 32 x.val)

def coordinate? (bs : Bytes) : Option Coordinate :=
  if h : Bytes.toNat bs < fieldPrime then some ⟨Bytes.toNat bs, h⟩ else none

def lift? (parity : Nat) (bs : Bytes) : Option Point := do
  let x ← coordinate? bs
  let y := Coordinate.root (x * x * x + 7)
  let point := if y.val % 2 = parity then y else -y
  if onCurve x point then some (.affine x point) else none

def pair? (bs : Bytes) : Option Point := do
  let x ← coordinate? (bs.take 32)
  let y ← coordinate? (bs.drop 32)
  if onCurve x y then some (.affine x y) else none

def hybrid? (parity : Nat) (bs : Bytes) : Option Point :=
  match pair? bs with
  | some (.affine x y) => if y.val % 2 = parity then some (.affine x y) else none
  | _ => none

def Point.ofBytes? (bs : Bytes) : Option Point :=
  match bs.length, bs with
  | 33, 2 :: rest => lift? 0 rest
  | 33, 3 :: rest => lift? 1 rest
  | 64, bs => pair? bs
  | 65, 4 :: rest => pair? rest
  | 65, 6 :: rest => hybrid? 0 rest
  | 65, 7 :: rest => hybrid? 1 rest
  | _, _ => none

def isPrivateKey (key : Bytes) : Bool :=
  key.length = 32 && 0 < Bytes.toNat key && Bytes.toNat key < order

def publicKey? (key : Bytes) : Option Bytes :=
  if isPrivateKey key then (multiple (Bytes.toNat key)).compressed? else none

def publicKey (key : Bytes) : Except Error Bytes :=
  match publicKey? key with
  | some point => .ok point
  | none => .error .malformedPoint

end HardwareWallet.Curve
