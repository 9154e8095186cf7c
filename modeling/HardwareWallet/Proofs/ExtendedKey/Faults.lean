import HardwareWallet.ExtendedKey.Derivation
import HardwareWallet.Proofs.Errors

namespace HardwareWallet

variable {P : ErrorKind → Prop}

theorem Path.errorsIn_bits (ht : P .type) (v : Value) : ErrorsIn P (bits v) := by
  rw [bits]
  split
  · exact errorsIn_ok _
  · exact errorsIn_error ht

theorem Curve.errorsIn_publicKey (hp : P .point) (key : Bytes) : ErrorsIn P (Curve.publicKey key) := by
  rw [Curve.publicKey]
  split
  · exact errorsIn_ok _
  · exact errorsIn_error hp

namespace ExtendedKey

theorem errorsIn_packChild (hp : P .packing) (v : Value) : ErrorsIn P (packChild v) := by
  rw [packChild]
  split
  · split
    · exact errorsIn_ok _
    · exact errorsIn_error hp
  · exact errorsIn_error hp

theorem errorsIn_nextDepth (ht : P .type) (k : ExtendedKey) : ErrorsIn P k.nextDepth := by
  rw [nextDepth]
  split
  · exact errorsIn_ok _
  · exact errorsIn_error ht

theorem errorsIn_ofSeed (hp : P .point) (seed : Bytes) (testnet : Bool) : ErrorsIn P (ofSeed seed testnet) :=
  errorsIn_bind (Curve.errorsIn_publicKey hp _) fun _ => errorsIn_ok _

section Child

variable (ht : P .type) (hv : P .value) (hp : P .point)

include ht hv hp

theorem errorsIn_derivePrivate (k : ExtendedKey) {v : Value} (h : ErrorsIn P (packChild v)) :
    ErrorsIn P (k.derivePrivate v) := by
  rw [derivePrivate]
  split
  · exact errorsIn_error hv
  · refine errorsIn_bind (Path.errorsIn_bits ht v) fun _ => errorsIn_bind h fun _ => ?_
    dsimp only
    split
    · exact errorsIn_error hv
    · exact errorsIn_bind (errorsIn_nextDepth ht k) fun _ => errorsIn_bind (Curve.errorsIn_publicKey hp _) fun _ =>
        errorsIn_ok _

theorem errorsIn_derivePublic (k : ExtendedKey) {v : Value} (h : ErrorsIn P (packChild v)) :
    ErrorsIn P (k.derivePublic v) := by
  rw [derivePublic]
  refine errorsIn_bind (Path.errorsIn_bits ht v) fun n => ?_
  by_cases hn : Path.isHardened n = true
  · rw [if_pos hn]
    exact errorsIn_error hv
  · rw [if_neg hn]
    refine errorsIn_bind h fun index => ?_
    dsimp only
    -- the multiple is hidden in a variable, so that no step below computes it
    obtain ⟨left, hl⟩ : ∃ left, Curve.multiple (Bytes.toNat
      ((Hmac.mac k.chainCode (k.publicKey ++ index)).take 32)) = left := ⟨_, rfl⟩
    rw [hl]
    cases Curve.Point.ofBytes? k.publicKey with
    | none => exact errorsIn_error hp
    | some parent =>
      dsimp only
      cases (left.add parent).compressed? with
      | none => exact errorsIn_error hp
      | some point => exact errorsIn_bind (errorsIn_nextDepth ht k) fun _ => errorsIn_ok _

theorem errorsIn_child (k : ExtendedKey) {v : Value} (h : ErrorsIn P (packChild v)) : ErrorsIn P (k.child v) := by
  rw [child]
  split
  · exact errorsIn_derivePrivate ht hv hp k h
  · exact errorsIn_derivePublic ht hv hp k h

theorem errorsIn_derive (k : ExtendedKey) {path : Path} (h : ∀ v ∈ path, ErrorsIn P (packChild v)) :
    ErrorsIn P (k.derive path) := by
  induction path generalizing k with
  | nil => exact errorsIn_ok k
  | cons v path ih =>
    obtain ⟨hc, h⟩ := List.forall_mem_cons.mp h
    exact errorsIn_bind (errorsIn_child ht hv hp k hc) fun next => ih next h

end Child

end ExtendedKey

end HardwareWallet
