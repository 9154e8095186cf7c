import HardwareWallet.Proofs.Device.Lock

namespace HardwareWallet

namespace Exchange

def opensWith (pin : Value) (x : Exchange) : Bool :=
  match x.request with
  | .pinMatrixAck given => given.agrees pin && x.opens
  | _ => false

def locks (x : Exchange) : Bool :=
  x.wipes || x.clears

theorem opensWith_iff {pin : Value} {x : Exchange} : x.opensWith pin = true ↔
    ∃ given code text, x = ⟨.pinMatrixAck given, .buttonRequest code text⟩ ∧ given.agrees pin = true := by
  obtain ⟨request, reply⟩ := x
  constructor
  · intro h
    cases request with
    | pinMatrixAck given =>
      obtain ⟨hg, ho⟩ := Bool.and_eq_true_iff.mp h
      cases reply with
      | buttonRequest code text => exact ⟨given, code, text, rfl, hg⟩
      | _ => cases ho
    | _ => cases h
  · rintro ⟨given, code, text, he, hg⟩
    cases he
    exact Bool.and_eq_true_iff.mpr ⟨hg, rfl⟩

theorem locks_eq_false_iff {x : Exchange} :
    x.locks = false ↔ x.request ≠ .wipeDevice ∧ x.request ≠ .clearSession := by
  obtain ⟨request, reply⟩ := x
  cases request <;> simp [locks, wipes, clears]

end Exchange

namespace Device

variable {past : List Exchange} {d d' : Device} {x : Exchange} {m reply : Message} {pin : Value}

def UnlockedWith (pin : Value) (past : List Exchange) : Prop :=
  Lasts (fun _ x => x.opensWith pin = true) Exchange.locks past

theorem unlockedWith_concat : UnlockedWith pin (past ++ [x]) ↔
    x.opensWith pin = true ∨ x.locks = false ∧ UnlockedWith pin past :=
  lasts_concat

theorem unlockedWith_iff : UnlockedWith pin past ↔
    ∃ before given code text after, past = before ++ ⟨.pinMatrixAck given, .buttonRequest code text⟩ :: after ∧
      given.agrees pin = true ∧ ∀ x ∈ after, x.request ≠ .wipeDevice ∧ x.request ≠ .clearSession := by
  constructor
  · rintro ⟨before, x, after, rfl, hx, ha⟩
    obtain ⟨given, code, text, rfl, hg⟩ := Exchange.opensWith_iff.mp hx
    exact ⟨before, given, code, text, after, rfl, hg, fun y hy => Exchange.locks_eq_false_iff.mp (ha y hy)⟩
  · rintro ⟨before, given, code, text, after, rfl, hg, ha⟩
    refine ⟨before, _, after, rfl, Exchange.opensWith_iff.mpr ⟨given, code, text, rfl, hg⟩, ?_⟩
    exact fun y hy => Exchange.locks_eq_false_iff.mpr (ha y hy)

theorem unlockedWith_aside (h : UnlockedWith pin past ↔ d.unlocked = true) (ho : x.opensWith pin = false)
    (hl : x.locks = false) (hu : d'.unlocked = d.unlocked) :
    UnlockedWith pin (past ++ [x]) ↔ d'.unlocked = true := by
  rw [unlockedWith_concat, hu, ← h]
  simp [ho, hl]

theorem unlockedWith_locked (ho : x.opensWith pin = false) (hl : x.locks = true) (hu : d'.unlocked = false) :
    UnlockedWith pin (past ++ [x]) ↔ d'.unlocked = true := by
  rw [unlockedWith_concat, hu]
  simp [ho, hl]

theorem unlockedWith_unmoved (h : UnlockedWith pin past ↔ d.unlocked = true) (hu : d.Unmoved m reply) :
    UnlockedWith pin (past ++ [⟨m, reply⟩]) ↔ d.unlocked = true := by
  cases hu with
  | wrongPin => exact unlockedWith_aside h (Bool.and_false _) rfl rfl
  | unknown hm =>
    cases m <;> first
      | exact Bool.noConfusion hm
      | exact unlockedWith_aside h rfl rfl rfl
  | _ => exact unlockedWith_aside h rfl rfl rfl

theorem unlockedWith_reaction (h : UnlockedWith d.pin past ↔ d.unlocked = true) (hr : d.Reaction m reply d') :
    UnlockedWith d.pin (past ++ [⟨m, reply⟩]) ↔ d'.unlocked = true := by
  cases hr with
  | unmoved hu => exact unlockedWith_unmoved h hu
  | locked => exact unlockedWith_locked rfl rfl rfl
  | wiped => exact unlockedWith_locked rfl rfl rfl
  | unlocked ha =>
    rw [unlockedWith_concat]
    exact ⟨fun _ => rfl, fun _ => .inl (Bool.and_eq_true_iff.mpr ⟨ha, rfl⟩)⟩
  | pinChosen | pinRepeated | pinKnown => exact unlockedWith_aside h (Bool.and_false _) rfl rfl
  | _ => exact unlockedWith_aside h rfl rfl rfl

theorem unlocked_run_iff (profile : Profile) (pin : Value) (mnemonic : String) (entropy : Bytes) (label : Value)
    (stimuli : List Stimulus) : let d := fresh profile pin mnemonic entropy label
    (d.run stimuli).unlocked = true ↔ UnlockedWith pin (d.exchanges stimuli) := by
  intro d
  have hd : d.pin = pin ∧ d.unlocked = false := by cases profile <;> exact ⟨rfl, rfl⟩
  have h := history_induction (d := d)
    (P := fun past d => d.pin = pin ∧ (UnlockedWith pin past ↔ d.unlocked = true))
    ⟨hd.1, by rw [hd.2]; exact ⟨fun h => absurd h not_lasts_nil, nofun⟩⟩
    (fun _ _ _ h => h) (fun _ _ _ h => h)
    (fun past d m reply d' h hr => by
      obtain ⟨rfl, hu⟩ := h
      exact ⟨hr.pin_eq, unlockedWith_reaction hu hr⟩) stimuli
  exact h.2.symm

def Ciphers (d : Device) (r : CipherRequest) (value : Bytes) : Prop :=
  ∃ seed master node, d.seed = some seed ∧ ExtendedKey.ofSeed seed false = .ok master ∧
    master.derive r.address = .ok node ∧ node.cipher r = .ok value

theorem ciphers_of_ciphered {r : CipherRequest} {value : Bytes}
    (h : d.cipherKeyValue r = .ok (.cipheredKeyValue value)) :
    d.unlocked = true ∧ r.value.length % 16 = 0 ∧ d.Ciphers r value := by
  unfold cipherKeyValue master? at h
  cases hs : d.seed with
  | none =>
    rw [hs] at h
    simp [noWallet, refusal] at h
  | some seed =>
    simp only [hs, Option.map_some] at h
    obtain ⟨master, hm, h⟩ := exists_of_bind_eq_ok h
    cases hl : d.unlocked with
    | false => simp [hl, pure, Except.pure] at h
    | true =>
      simp only [hl, Bool.not_true, Bool.false_eq_true, ↓reduceIte] at h
      split at h
      · simp [refusal, pure, Except.pure] at h
      · rename_i hr
        obtain ⟨node, hn, h⟩ := exists_of_bind_eq_ok h
        obtain ⟨told, hv, h⟩ := exists_of_bind_eq_ok h
        cases h
        exact ⟨rfl, Nat.eq_zero_of_not_pos hr, seed, master, node, hs, hm, hn, hv⟩

theorem ciphered_of_ciphers {r : CipherRequest} {value : Bytes} (hl : d.unlocked = true)
    (hr : r.value.length % 16 = 0) (h : d.Ciphers r value) :
    d.cipherKeyValue r = .ok (.cipheredKeyValue value) := by
  obtain ⟨seed, master, node, hs, hm, hn, hv⟩ := h
  unfold cipherKeyValue master?
  rw [hs]
  simp [hl, hr, hm, hn, hv, bind, Except.bind, pure, Except.pure]

theorem answer_ciphered {value : Bytes} (h : d.answer m = .ok (.cipheredKeyValue value, d')) :
    ∃ r, m = .cipherKeyValue r ∧ d.cipherKeyValue r = .ok (.cipheredKeyValue value) := by
  cases reaction_of_answer h with
  | unmoved hu =>
    cases hu with
    | ciphered =>
      rename_i r _ _ _
      refine ⟨r, rfl, ?_⟩
      change (d.cipherKeyValue r).map (fun m => (m, d)) = _ at h
      cases hc : d.cipherKeyValue r with
      | error e => rw [hc] at h; cases h
      | ok told =>
        rw [hc] at h
        cases h
        rfl

theorem process_ciphered_iff {value : Bytes} :
    (process m d).1 = .ok (some (.cipheredKeyValue value)) ↔
      d.stalled = false ∧ ∃ r, m = .cipherKeyValue r ∧ d.cipherKeyValue r = .ok (.cipheredKeyValue value) := by
  unfold process
  constructor
  · intro h
    cases hs : d.stalled with
    | true => simp [hs] at h
    | false =>
      simp only [hs, Bool.false_eq_true, ↓reduceIte] at h
      split at h
      · rename_i ha
        cases h
        exact ⟨rfl, answer_ciphered ha⟩
      · cases h
  · rintro ⟨hs, r, rfl, hc⟩
    simp [hs, answer, hc, Except.map]

/-- A device encrypts or decrypts a value exactly if it holds a wallet, the value has whole blocks, and the right PIN
    has unlocked it, with neither a wipe nor the end of a session since. -/
theorem ciphered_iff_after_pin (profile : Profile) (pin : Value) (mnemonic : String) (entropy : Bytes)
    (label : Value) (stimuli : List Stimulus) (m : Message) (value : Bytes) :
    let d := (fresh profile pin mnemonic entropy label).run stimuli
    let past := (fresh profile pin mnemonic entropy label).exchanges stimuli
    (process m d).1 = .ok (some (.cipheredKeyValue value)) ↔
      d.stalled = false ∧
      (∃ r, m = .cipherKeyValue r ∧ r.value.length % 16 = 0 ∧
        ∃ seed master node, d.seed = some seed ∧ ExtendedKey.ofSeed seed false = .ok master ∧
          master.derive r.address = .ok node ∧ node.cipher r = .ok value) ∧
      ∃ before given code text after, past = before ++ ⟨.pinMatrixAck given, .buttonRequest code text⟩ :: after ∧
        given.agrees pin = true ∧ ∀ x ∈ after, x.request ≠ .wipeDevice ∧ x.request ≠ .clearSession := by
  intro d past
  have hu : d.unlocked = true ↔ UnlockedWith pin past := unlocked_run_iff profile pin mnemonic entropy label stimuli
  rw [unlockedWith_iff] at hu
  rw [process_ciphered_iff, ← hu]
  constructor
  · rintro ⟨hs, r, rfl, hc⟩
    obtain ⟨hl, hr, hv⟩ := ciphers_of_ciphered hc
    exact ⟨hs, ⟨r, rfl, hr, hv⟩, hl⟩
  · rintro ⟨hs, ⟨r, rfl, hr, hv⟩, hl⟩
    exact ⟨hs, r, rfl, ciphered_of_ciphers hl hr hv⟩

end Device

end HardwareWallet
