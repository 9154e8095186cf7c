import HardwareWallet.Digest.Hmac
import HardwareWallet.ExtendedKey.Basic

namespace HardwareWallet.ExtendedKey

def ofSeed (seed : Bytes) (testnet : Bool) : Except Error ExtendedKey := do
  let digest := Hmac.mac (Bytes.ofText "Bitcoin seed") seed
  let key := digest.take 32
  let point ← Curve.publicKey key
  let version := if testnet then testPrivate else mainPrivate
  return ⟨version, .int 0, [0, 0, 0, 0], .int 0, digest.drop 32, some key, point⟩

def nextDepth (k : ExtendedKey) : Except Error Value :=
  match k.depth.number? with
  | some n => .ok (.ofNumber n.succ)
  | none => .error (.operand "+" k.depth.kindName "int")

def privateSeed (k : ExtendedKey) (key : Bytes) (hardened : Bool) : Bytes :=
  if hardened then 0 :: key else k.publicKey

def derivePrivate (k : ExtendedKey) (i : Value) : Except Error ExtendedKey :=
  match k.privateKey with
  | none => .error .privateChildOfPublic
  | some key => do
    let hardened := Path.isHardened (← Path.bits i)
    let child ← packChild i
    let digest := Hmac.mac k.chainCode (k.privateSeed key hardened ++ child)
    let left := Bytes.toNat (digest.take 32)
    let secret := (left + Bytes.toNat key) % Curve.order
    if Curve.order ≤ left ∨ secret = 0 then throw .invalidChild
    let key' := Bytes.ofNat 32 secret
    let depth ← k.nextDepth
    let point ← Curve.publicKey key'
    return ⟨k.version, depth, k.fingerprint, i, digest.drop 32, some key', point⟩

def derivePublic (k : ExtendedKey) (i : Value) : Except Error ExtendedKey := do
  if Path.isHardened (← Path.bits i) then throw .hardenedChildOfPublic
  let child ← packChild i
  let digest := Hmac.mac k.chainCode (k.publicKey ++ child)
  match Curve.Point.ofBytes? k.publicKey with
  | none => throw .malformedPoint
  | some parent =>
    let sum := (Curve.multiple (Bytes.toNat (digest.take 32))).add parent
    match sum.compressed? with
    | none => throw .malformedPoint
    | some point =>
      let depth ← k.nextDepth
      return ⟨publicVersion k.isTestnet, depth, k.fingerprint, i, digest.drop 32, none, point⟩

def child (k : ExtendedKey) (i : Value) : Except Error ExtendedKey :=
  if k.isPrivate then k.derivePrivate i else k.derivePublic i

def derive (k : ExtendedKey) : Path → Except Error ExtendedKey
  | [] => .ok k
  | i :: path => do
    let next ← k.child i
    next.derive path

end HardwareWallet.ExtendedKey
