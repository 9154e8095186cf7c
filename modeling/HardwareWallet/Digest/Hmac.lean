import HardwareWallet.Digest.Sha512

/-!
Keyed digests over SHA-512 and the stretching of a pass phrase by many of them (PBKDF2).
-/

namespace HardwareWallet.Hmac

def block (key : Bytes) : Bytes :=
  let short := if key.length ≤ 128 then key else Sha512.digest key
  short ++ List.replicate (128 - short.length) 0

structure Prepared where
  inner : Sha512.State
  outer : Sha512.State

def prepare (key : Bytes) : Prepared :=
  let pad (b : UInt8) := Sha512.absorb Sha512.initial (Sha512.words ((block key).map (· ^^^ b)))
  ⟨pad 0x36, pad 0x5c⟩

def Prepared.mac (key : Prepared) (message : Bytes) : Bytes :=
  Sha512.finish key.outer 128 (Sha512.finish key.inner 128 message)

def mac (key message : Bytes) : Bytes :=
  (prepare key).mac message

@[simp] theorem length_mac (key message : Bytes) : (mac key message).length = 64 := rfl

/-- The exclusive or of `acc` with the next `rounds` links of the chain of keyed digests that starts at `last`. -/
def chain (key : Prepared) : Nat → Bytes → Bytes → Bytes
  | 0, _, acc => acc
  | rounds + 1, last, acc =>
    let next := key.mac last
    chain key rounds next (Bytes.xor acc next)

/-- The first 64 bytes that `rounds + 1` iterations derive from a pass phrase. -/
def stretch (phrase salt : Bytes) (rounds : Nat) : Bytes :=
  let key := prepare phrase
  let first := key.mac (salt ++ [0, 0, 0, 1])
  chain key rounds first first

end HardwareWallet.Hmac
