import HardwareWallet.Proofs.Device.WellFormed
import HardwareWallet.Proofs.ExtendedKey.Cipher
import HardwareWallet.Proofs.ExtendedKey.Network

namespace HardwareWallet

namespace Message

def isFailure : Message → Bool
  | failure .. => true
  | _ => false

def isQuery : Message → Bool
  | getFeatures => true
  | ping .. => true
  | buttonAck => true
  | getPublicKey .. => true
  | cipherKeyValue _ => true
  | _ => false

def HasWholeStrength (m : Message) : Prop :=
  ∀ r, m = .resetDevice r → r.strength.int?.isSome

end Message

namespace Device

inductive KeyFault (d : Device) : Message → Error → Prop where
  | underived {seed : Bytes} {address : Path} {shown : Value} {e : Error} (hs : d.seed = some seed)
      (he : ExtendedKey.ofPath seed false address = .error e) : KeyFault d (.getPublicKey address shown) e
  | unwritten {seed : Bytes} {address : Path} {shown : Value} {node : ExtendedKey} (hs : d.seed = some seed)
      (hn : ExtendedKey.ofPath seed false address = .ok node) (hl : 255 < address.length) :
      KeyFault d (.getPublicKey address shown) .depthRange
  | unciphered {seed : Bytes} {r : CipherRequest} {e : Error} (hs : d.seed = some seed)
      (he : ExtendedKey.ofPath seed false r.address = .error e) : KeyFault d (.cipherKeyValue r) e

variable {d d' : Device} {m reply : Message} {e : Error} {address : Path} {r : CipherRequest}

theorem publicKey_error (h : d.publicKey address = .error e) (shown : Value) :
    d.KeyFault (.getPublicKey address shown) e := by
  unfold publicKey master? at h
  cases hs : d.seed with
  | none =>
    rw [hs] at h
    cases h
  | some seed =>
    simp only [hs, Option.map_some] at h
    rcases cases_of_bind_eq_error h with hm | ⟨master, hm, h⟩
    · exact .underived hs (by rw [ExtendedKey.ofPath, hm]; rfl)
    have hp : ExtendedKey.ofPath seed false address = master.derive address := by rw [ExtendedKey.ofPath, hm, ok_bind]
    rcases cases_of_bind_eq_error h with hn | ⟨node, hn, h⟩
    · exact .underived hs (hp.trans hn)
    have hk := ExtendedKey.inTree_of_ofPath (hp.trans hn)
    -- a key of the tree can be written unless it is too deep
    rcases cases_of_bind_eq_error h with ht | ⟨_, -, h⟩
    · by_cases hl : 255 < address.length
      · rw [ExtendedKey.text_of_deep (k := node.neuter) hk.depth hl] at ht
        exact Except.error.inj ht ▸ .unwritten hs (hp.trans hn) hl
      · obtain ⟨_, htext⟩ := hk.exists_neuter_text (Nat.not_lt.mp hl)
        rw [htext] at ht
        cases ht
    · cases h

theorem cipherKeyValue_error (h : d.cipherKeyValue r = .error e) : d.KeyFault (.cipherKeyValue r) e := by
  unfold cipherKeyValue master? at h
  cases hs : d.seed with
  | none =>
    rw [hs] at h
    cases h
  | some seed =>
    simp only [hs, Option.map_some] at h
    rcases cases_of_bind_eq_error h with hm | ⟨master, hm, h⟩
    · exact .unciphered hs (by rw [ExtendedKey.ofPath, hm]; rfl)
    have hp : ExtendedKey.ofPath seed false r.address = master.derive r.address := by
      rw [ExtendedKey.ofPath, hm, ok_bind]
    split at h
    · cases h
    split at h
    · cases h
    rename_i hr
    rcases cases_of_bind_eq_error h with hn | ⟨node, hn, h⟩
    · exact .unciphered hs (hp.trans hn)
    -- a derived key has its secret, and the value has whole blocks: nothing else can fail
    obtain ⟨-, key, hk, -⟩ := (ExtendedKey.inTree_of_ofPath (hp.trans hn)).paired
    obtain ⟨value, hv⟩ := ExtendedKey.exists_cipher hk (Nat.eq_zero_of_not_pos hr)
    rw [hv] at h
    cases h

theorem entropyAck_ne_error (h : d.strength.whole?.isSome) (entropy : Bytes) : d.entropyAck entropy ≠ .error e := by
  obtain ⟨strength, hs⟩ := Option.isSome_iff_exists.mp h
  unfold entropyAck
  split
  · nofun
  · rw [hs]
    nofun

theorem keyFault_of_answer (hd : d.strength.whole?.isSome) (h : d.answer m = .error e) : d.KeyFault m e := by
  cases m with
  | getPublicKey address shown =>
    cases hp : d.publicKey address with
    | error e' =>
      rw [answer, hp] at h
      exact Except.error.inj h ▸ publicKey_error hp shown
    | ok told =>
      rw [answer, hp] at h
      cases h
  | cipherKeyValue r =>
    cases hp : d.cipherKeyValue r with
    | error e' =>
      rw [answer, hp] at h
      exact Except.error.inj h ▸ cipherKeyValue_error hp
    | ok told =>
      rw [answer, hp] at h
      cases h
  | entropyAck entropy => exact absurd h (entropyAck_ne_error hd entropy)
  | _ => cases h

theorem Reaction.unmoved_of_failure (h : d.Reaction m reply d') (hf : reply.isFailure = true) (hm : m ≠ .cancel) :
    d' = d := by
  cases h with
  | unmoved | cancelledIdle => rfl
  | cancelled => exact absurd rfl hm
  | _ => cases hf

theorem Reaction.unmoved_of_query (h : d.Reaction m reply d') (hm : m.isQuery = true) : d' = d := by
  cases h with
  | unmoved | cancelledIdle => rfl
  | _ => cases hm

theorem Reaction.wholeStrength (h : d.Reaction m reply d') (hm : m.HasWholeStrength) (hd : d.strength.whole?.isSome) :
    d'.strength.whole?.isSome := by
  have hw {r : ResetRequest} {strength : Number} (hr : r.strength.number? = some strength)
      (hr' : r.strength.int?.isSome) : strength.whole?.isSome := by
    rwa [Value.int?, hr] at hr'
  cases h with
  | resetWithPin _ hr => exact hw hr (hm _ rfl)
  | resetWithoutPin _ hr => exact hw hr (hm _ rfl)
  | _ => exact hd

theorem wholeStrength_run (hd : d.strength.whole?.isSome) {stimuli : List Stimulus}
    (hw : ∀ m, .request m ∈ stimuli → m.HasWholeStrength) : (d.run stimuli).strength.whole?.isSome := by
  induction stimuli generalizing d with
  | nil => exact hd
  | cons s stimuli ih =>
    refine ih ?_ fun m hm => hw m (List.mem_cons_of_mem s hm)
    cases s with
    | stall | plug => exact hd
    | request m =>
      rcases d.act_request m with ⟨-, ha⟩ | ⟨reply, d', -, ha, hr⟩
      · rwa [ha]
      · rw [ha]
        exact hr.wholeStrength (hw m (List.mem_cons_self ..)) hd

/-- A stalled device does nothing with a request. Any other gives one reply, unless a key cannot be derived or written.
    It stays as it was if it does not reply, if it refuses, unless it was to cancel, and if it was only asked. -/
theorem answered_or_untouched (profile : Profile) (pin : Value) (mnemonic : String) (entropy : Bytes) (label : Value)
    (stimuli : List Stimulus) (hw : ∀ m, .request m ∈ stimuli → m.HasWholeStrength) (m : Message) :
    let d := (fresh profile pin mnemonic entropy label).run stimuli
    (d.stalled = true → process m d = (.ok none, d)) ∧
    (d.stalled = false →
      (∃ reply d', process m d = (.ok (some reply), d') ∧ (EventKind.ofReply? reply).isSome ∧
        ((reply.isFailure = true ∧ m ≠ .cancel) ∨ m.isQuery = true → d' = d)) ∨
      ∃ e, process m d = (.error e, d) ∧ d.KeyFault m e) := by
  intro d
  have hd : d.strength.whole?.isSome := wholeStrength_run (by cases profile <;> rfl) hw
  refine ⟨fun hs => by rw [process, if_pos hs], fun hs => ?_⟩
  cases ha : d.answer m with
  | error e => exact .inr ⟨e, by simp [process, hs, ha], keyFault_of_answer hd ha⟩
  | ok result =>
    have hr : d.Reaction m result.1 result.2 := reaction_of_answer ha
    refine .inl ⟨_, _, process_of_ok hs ha, hr.ofReply?_isSome, ?_⟩
    rintro (⟨hf, hm⟩ | hm)
    · exact hr.unmoved_of_failure hf hm
    · exact hr.unmoved_of_query hm

theorem early_word_refused :
    let stimuli := [Stimulus.request (.resetDevice {})]
    let d := (ofProfile .wiped).run stimuli
    (∀ m, .request m ∈ stimuli → m.HasWholeStrength) ∧ d.stalled = false ∧ d.phase = some .pinFirst ∧
      process (.wordAck (.text "alcohol")) d = (.ok (some notInReset), d) := by
  intro stimuli d
  have hw : ∀ m, .request m ∈ stimuli → m.HasWholeStrength := by
    intro m hm r hr
    obtain rfl := Stimulus.request.inj (List.mem_singleton.mp hm)
    cases hr
    rfl
  have hr : (process (.wordAck (.text "alcohol")) d).1 = .ok (some notInReset) := rfl
  obtain ⟨-, h⟩ := answered_or_untouched .wiped (.text defaultPin) defaultMnemonic defaultEntropy (.text defaultLabel)
    stimuli hw (.wordAck (.text "alcohol"))
  refine ⟨hw, rfl, rfl, ?_⟩
  rcases h rfl with ⟨reply, d', hp, -, hu⟩ | ⟨e, hp, hf⟩
  · obtain rfl : reply = notInReset := Option.some.inj (Except.ok.inj ((congrArg Prod.fst hp).symm.trans hr))
    exact hp.trans (congrArg (Prod.mk _) (hu (.inl ⟨rfl, by decide⟩)))
  · cases hf

end Device

end HardwareWallet
