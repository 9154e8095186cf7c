import HardwareWallet.Proofs.ExtendedKey.Faults
import HardwareWallet.Transport.Emulated

namespace HardwareWallet

namespace ExtendedKey

theorem faults_derive (k : ExtendedKey) (path : Path) : Faults (k.derive path) :=
  errorsIn_derive (by decide) (by decide) (by decide) k fun v _ => errorsIn_packChild (by decide) v

theorem faults_packDepth (v : Value) : Faults (packDepth v) := by
  rw [packDepth]
  split
  · split
    · exact errorsIn_ok _
    · exact faults_error rfl
  · exact faults_error rfl

theorem faults_keyMaterial (k : ExtendedKey) : Faults k.keyMaterial := by
  rw [keyMaterial]
  split
  · split
    · exact errorsIn_ok _
    · exact faults_error rfl
  · exact errorsIn_ok _

theorem faults_text (k : ExtendedKey) : Faults k.text :=
  errorsIn_bind (errorsIn_bind (faults_packDepth _) fun _ => errorsIn_bind (errorsIn_packChild (by decide) _) fun _ =>
    errorsIn_bind (faults_keyMaterial k) fun _ => errorsIn_ok _) fun _ => errorsIn_ok _

theorem faults_cipher (k : ExtendedKey) (r : CipherRequest) : Faults (k.cipher r) := by
  rw [cipher]
  split
  · exact faults_error rfl
  · dsimp only
    split
    · exact errorsIn_ok _
    · exact faults_error rfl

end ExtendedKey

namespace Device

variable {d : Device} {master : Except Error ExtendedKey}

theorem faults_master (h : d.master? = some master) : Faults master := by
  obtain ⟨seed, -, rfl⟩ := Option.map_eq_some_iff.mp h
  exact ExtendedKey.errorsIn_ofSeed (by decide) seed false

theorem faults_publicKey (d : Device) (address : Path) : Faults (d.publicKey address) := by
  rw [publicKey]
  split
  · exact errorsIn_ok _
  · rename_i master hm
    exact errorsIn_bind (faults_master hm) fun _ => errorsIn_bind (ExtendedKey.faults_derive _ _) fun _ =>
      errorsIn_bind (ExtendedKey.faults_text _) fun _ => errorsIn_ok _

theorem faults_cipherKeyValue (d : Device) (r : CipherRequest) : Faults (d.cipherKeyValue r) := by
  rw [cipherKeyValue]
  split
  · exact errorsIn_ok _
  · rename_i master hm
    refine errorsIn_bind (faults_master hm) fun _ => ?_
    split
    · exact errorsIn_ok _
    · split
      · exact errorsIn_ok _
      · exact errorsIn_bind (ExtendedKey.faults_derive _ _) fun _ => errorsIn_bind (ExtendedKey.faults_cipher _ _)
          fun _ => errorsIn_ok _

theorem faults_entropyAck (d : Device) (entropy : Bytes) : Faults (d.entropyAck entropy) := by
  rw [entropyAck]
  split
  · exact errorsIn_ok _
  · split
    · exact faults_error rfl
    · exact errorsIn_ok _

theorem faults_answer (d : Device) (m : Message) : Faults (d.answer m) := by
  cases m with
  | getPublicKey address => exact errorsIn_map (faults_publicKey d address) _
  | cipherKeyValue r => exact errorsIn_map (faults_cipherKeyValue d r) _
  | entropyAck entropy => exact faults_entropyAck d entropy
  | _ => exact errorsIn_ok _

theorem faults_process (m : Message) (d : Device) : Faults (process m d).1 := by
  rw [process]
  split
  · exact errorsIn_ok _
  · have ha := faults_answer d m
    cases hr : d.answer m with
    | error e => exact errorsIn_error (ha e hr)
    | ok result => exact errorsIn_ok _

end Device

theorem Timeout.await_eq_error {α : Type} {timeout : Timeout} {front : Option α} {e : Error}
    (h : timeout.await front = .error e) :
    e.kind.IsFault ∨ e = .endless ∧ front = none ∧ timeout.isEndless = true := by
  unfold await at h
  split at h
  · exact .inl (faults_error rfl e h)
  · split at h
    · exact .inl (faults_error rfl e h)
    · split at h
      · exact .inl (faults_error rfl e h)
      · split at h
        · exact .inl (faults_error rfl e h)
        · split at h
          · rename_i hf
            rw [Bool.and_eq_true, Option.isNone_iff_eq_none] at hf
            exact .inr ⟨(Except.error.inj h).symm, hf⟩
          · cases h

namespace EmulatedLink

variable {l : EmulatedLink} {e : Error}

theorem kind_of_fault (h : l.fault? = some e) : e.kind = .transport := by
  rw [fault?] at h
  split at h
  · rw [← Option.some.inj h]
    rfl
  · split at h
    · rw [← Option.some.inj h]
      rfl
    · cases h

theorem faults_of_fault {α : Type} (h : l.fault? = some e) : Faults (.error e : Except Error α) :=
  faults_error (by rw [kind_of_fault h]; rfl)

theorem faults_write (m : Message) (l : EmulatedLink) : Faults (write m l).1 := by
  rw [write]
  split
  · rename_i e hf
    exact faults_of_fault hf
  · have hp := Device.faults_process m l.device
    dsimp only
    split
    · exact errorsIn_ok ()
    · rename_i e d hd
      exact errorsIn_error (hp e (congrArg Prod.fst hd))

theorem read_eq_error {timeout : Timeout} (h : (read timeout l).1 = .error e) :
    e.kind.IsFault ∨ e = .endless ∧ l.replies.head? = none ∧ timeout.isEndless = true := by
  rw [read] at h
  split at h
  · rename_i e' hf
    exact .inl (faults_of_fault (α := Unit) hf e (congrArg Except.error (Except.error.inj h)))
  · split at h
    · cases h
    · rename_i e' he
      exact Timeout.await_eq_error (Except.error.inj h ▸ he)

end EmulatedLink

end HardwareWallet
