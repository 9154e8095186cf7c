import HardwareWallet.Proofs.Device.Protected
import HardwareWallet.Proofs.Device.WellFormed

namespace HardwareWallet

namespace Exchange

def choosesPin (pin : Value) : Exchange → Bool
  | ⟨.pinMatrixAck given, .pinMatrixRequest _⟩ => given.agrees pin
  | _ => false

def dropsChoice : Exchange → Bool
  -- the PIN was repeated, or a reset without a PIN began
  | ⟨_, .entropyRequest⟩ => true
  -- a PIN is to be chosen anew
  | ⟨.resetDevice _, .pinMatrixRequest _⟩ => true
  | ⟨.cancel, _⟩ => true
  | ⟨.wipeDevice, _⟩ => true
  | _ => false

theorem choosesPin_iff {pin : Value} {x : Exchange} : x.choosesPin pin = true ↔
    ∃ given kind, x = ⟨.pinMatrixAck given, .pinMatrixRequest kind⟩ ∧ given.agrees pin = true := by
  constructor
  · intro h
    unfold choosesPin at h
    split at h
    · exact ⟨_, _, rfl, h⟩
    · cases h
  · rintro ⟨given, kind, rfl, h⟩
    exact h

end Exchange

namespace Device

def PinChosen (pin : Value) (past : List Exchange) : Prop :=
  Lasts (fun _ x => x.choosesPin pin = true) Exchange.dropsChoice past

variable {past : List Exchange} {d d' : Device} {x : Exchange} {m reply : Message} {pin : Value}

theorem pinChosen_concat : PinChosen pin (past ++ [x]) ↔
    x.choosesPin pin = true ∨ x.dropsChoice = false ∧ PinChosen pin past :=
  lasts_concat

theorem PinChosen.exists_agrees (h : PinChosen pin past) : ∃ given : Value, given.agrees pin = true := by
  obtain ⟨_, x, _, -, hx, -⟩ := h
  obtain ⟨given, _, -, hg⟩ := Exchange.choosesPin_iff.mp hx
  exact ⟨given, hg⟩

theorem Unmoved.choosesPin_eq (h : d.Unmoved m reply) : (⟨m, reply⟩ : Exchange).choosesPin pin = false := by
  cases h with
  | unknown hm => cases m <;> first | exact Bool.noConfusion hm | rfl
  | _ => rfl

theorem Unmoved.dropsChoice_eq (h : d.Unmoved m reply) : (⟨m, reply⟩ : Exchange).dropsChoice = false := by
  cases h with
  | unknown hm => cases m <;> first | exact Bool.noConfusion hm | rfl
  | _ => rfl

theorem Reaction.pinSecond_iff (h : d.Reaction m reply d') : d'.phase = some .pinSecond ↔
    (⟨m, reply⟩ : Exchange).choosesPin d.pin = true ∨
      (⟨m, reply⟩ : Exchange).dropsChoice = false ∧ d.phase = some .pinSecond := by
  cases h with
  | unmoved hu => simp [hu.choosesPin_eq, hu.dropsChoice_eq]
  | pinChosen ha => exact iff_of_true rfl (.inl ha)
  | abandoned hp => rcases hp with hp | hp <;> cases d.seed <;> simp [Exchange.choosesPin, hp]
  | cancelledIdle hp => rcases hp with hp | hp <;> simp [Exchange.choosesPin, hp]
  | entropyTaken hp | walletMade hp => simp [Exchange.choosesPin, hp]
  | wiped => simp [Exchange.choosesPin, Exchange.dropsChoice, confirmation, wipe]
  | _ => simp [Exchange.choosesPin, Exchange.dropsChoice, confirmation, done, refusal]

theorem pinChosen_reaction (h : PinChosen d.pin past ↔ d.phase = some .pinSecond) (hr : d.Reaction m reply d') :
    PinChosen d.pin (past ++ [⟨m, reply⟩]) ↔ d'.phase = some .pinSecond := by
  rw [pinChosen_concat, hr.pinSecond_iff, h]

theorem pinChosen_run_iff (profile : Profile) (pin : Value) (mnemonic : String) (entropy : Bytes) (label : Value)
    (stimuli : List Stimulus) : let d := fresh profile pin mnemonic entropy label
    (d.run stimuli).pin = pin ∧ (PinChosen pin (d.exchanges stimuli) ↔ (d.run stimuli).phase = some .pinSecond) := by
  intro d
  have hd : d.pin = pin ∧ d.phase ≠ some .pinSecond := by cases profile <;> exact ⟨rfl, by simp [d, fresh]⟩
  refine history_induction (d := d)
    (P := fun past d => d.pin = pin ∧ (PinChosen pin past ↔ d.phase = some .pinSecond))
    ⟨hd.1, iff_of_false not_lasts_nil hd.2⟩ (fun _ _ _ h => h) (fun _ _ _ h => h) ?_ stimuli
  rintro past d m reply d' ⟨rfl, h⟩ hr
  exact ⟨hr.pin_eq, pinChosen_reaction h hr⟩

def EntropyEarned (pin : Value) (past : List Exchange) (x : Exchange) : Prop :=
  (∃ r, x.request = .resetDevice r) ∨
    ∃ given, x.request = .pinMatrixAck given ∧ given.agrees pin = true ∧ PinChosen pin past

def NeedsBothPins (d : Device) : Prop :=
  ∀ stimuli, Throughout (fun before x => x.reply = .entropyRequest → EntropyEarned d.pin before x) (d.exchanges stimuli)

theorem entropyEarned_of_reaction (h : PinChosen d.pin past ↔ d.phase = some .pinSecond)
    (hr : d.Reaction m .entropyRequest d') : EntropyEarned d.pin past ⟨m, .entropyRequest⟩ := by
  cases hr with
  | unmoved hu => cases hu
  | pinRepeated ha hp => exact .inr ⟨_, rfl, ha, h.mpr hp⟩
  | resetWithoutPin => exact .inl ⟨_, rfl⟩

theorem needsBothPins_of_phase (h : d.phase ≠ some .pinSecond) : d.NeedsBothPins := by
  intro stimuli
  -- nothing is chosen when the run begins, so that its own exchanges tell at any time whether a PIN is
  let earned : List Exchange → Exchange → Prop :=
    fun before x => x.reply = .entropyRequest → EntropyEarned d.pin before x
  have hp := history_induction (d := d)
    (P := fun past d₁ => d₁.pin = d.pin ∧ (PinChosen d.pin past ↔ d₁.phase = some .pinSecond) ∧
      Throughout earned past)
    ⟨rfl, iff_of_false not_lasts_nil h, throughout_nil⟩ (fun _ _ _ h => h) (fun _ _ _ h => h)
    (fun past d₁ m reply d₂ h hr => by
      obtain ⟨hd, hc, he⟩ := h
      rw [← hd] at hc
      refine ⟨hr.pin_eq.trans hd, hd ▸ pinChosen_reaction hc hr, throughout_concat.mpr ⟨he, ?_⟩⟩
      rintro rfl
      exact hd ▸ entropyEarned_of_reaction hc hr) stimuli
  exact hp.2.2

theorem entropy_after_one_pin {given : Value} (hg : given.agrees d.pin = true) (h : d.phase = some .pinSecond) :
    d.exchanges [.stall false, .request (.pinMatrixAck given)] = [⟨.pinMatrixAck given, .entropyRequest⟩] := by
  simp [exchanges, exchange?, act, process, answer, pinMatrixAck, hg, h]

theorem needsBothPins_iff (hg : ∃ given : Value, given.agrees d.pin = true) :
    d.NeedsBothPins ↔ d.phase ≠ some .pinSecond := by
  refine ⟨fun h hp => ?_, needsBothPins_of_phase⟩
  obtain ⟨given, hg⟩ := hg
  rcases h _ [] _ [] (entropy_after_one_pin hg hp) rfl with ⟨r, hr⟩ | ⟨_, -, -, hc⟩
  · cases hr
  · exact not_lasts_nil hc

def startPhase (d : Device) : Option ResetPhase :=
  if d.seed.isSome then none else some .pinFirst

theorem startPhase_ne (d : Device) {phase : ResetPhase} (hp : phase ≠ .pinFirst) : d.startPhase ≠ some phase := by
  unfold startPhase
  split
  · nofun
  · simpa using hp.symm

theorem phase_initialise_of_chosen (hp : d.phase = some .pinSecond) : d.initialise.2.phase = some .pinSecond := by
  unfold initialise
  cases d.profile <;> simp [hp]

theorem WellFormed.phase_initialise (h : d.WellFormed) (hp : d.phase ≠ some .pinSecond) :
    d.initialise.2.phase = d.startPhase := by
  have hs := h.seed_iff
  unfold initialise startPhase
  rcases hd : d.phase with _ | (_ | _ | _ | _)
  case some.pinSecond => exact absurd hd hp
  all_goals cases d.profile <;> cases he : d.seed <;> simp [hd, he] at hs ⊢

theorem process_initialise (hs : d.stalled = false) :
    process .initialise d = (.ok (some (.features (d.featuresAs d.startsInitialised))), d.initialise.2) :=
  process_of_ok hs (by rw [← initialise_told]; rfl)

theorem process_entropyAck_refused (hs : d.stalled = false) (hp : d.phase ≠ some .entropy) (entropy : Bytes) :
    process (.entropyAck entropy) d = (.ok (some notInReset), d) :=
  process_of_ok hs (if_pos hp)

theorem process_wordAck_refused (hs : d.stalled = false) (hp : d.phase ≠ some .words) (word : Value) :
    process (.wordAck word) d = (.ok (some notInReset), d) :=
  process_of_ok hs (congrArg Except.ok (if_pos hp))

/-- The start of a session gives up whatever wallet is being created and asks for two right PINs again, exactly if no
    PIN was chosen that is to be repeated. Entropy and words are refused after it in any case. -/
theorem initialise_gives_up_iff (profile : Profile) (pin : Value) (mnemonic : String) (entropy : Bytes)
    (label : Value) (stimuli : List Stimulus)
    (hs : ((fresh profile pin mnemonic entropy label).run stimuli).stalled = false) :
    let d := (fresh profile pin mnemonic entropy label).run stimuli
    let past := (fresh profile pin mnemonic entropy label).exchanges stimuli
    ∃ f d', process .initialise d = (.ok (some (.features f)), d') ∧
      (d'.phase = (if d.seed.isSome then none else some .pinFirst) ↔ ¬ PinChosen pin past) ∧
      (d'.NeedsBothPins ↔ ¬ PinChosen pin past) ∧
      (PinChosen pin past → d'.phase = some .pinSecond) ∧
      (∀ entropy, process (.entropyAck entropy) d' = (.ok (some notInReset), d')) ∧
      ∀ word, process (.wordAck word) d' = (.ok (some notInReset), d') := by
  intro d past
  have hw : d.WellFormed := (wellFormed_fresh profile pin mnemonic entropy label).run stimuli
  obtain ⟨hn, hc⟩ : d.pin = pin ∧ (PinChosen pin past ↔ d.phase = some .pinSecond) :=
    pinChosen_run_iff profile pin mnemonic entropy label stimuli
  have hr := d.initialise_reaction
  have hk : d.initialise.2.stalled = false := hr.stalled_eq.trans hs
  refine ⟨_, _, process_initialise hs, ?_⟩
  by_cases h : PinChosen pin past
  · have hp := phase_initialise_of_chosen (hc.mp h)
    have hg : ∃ given : Value, given.agrees d.initialise.2.pin = true := by
      rw [hr.pin_eq, hn]
      exact h.exists_agrees
    refine ⟨iff_of_false ?_ (not_not_intro h), iff_of_false ?_ (not_not_intro h), fun _ => hp,
      process_entropyAck_refused hk (by simp [hp]), process_wordAck_refused hk (by simp [hp])⟩
    · exact fun he => d.startPhase_ne (by decide) (he.symm.trans hp)
    · exact fun hb => (needsBothPins_iff hg).mp hb hp
  · have hp := hw.phase_initialise (mt hc.mpr h)
    have hne {phase : ResetPhase} (hf : phase ≠ .pinFirst) : d.initialise.2.phase ≠ some phase :=
      hp ▸ d.startPhase_ne hf
    exact ⟨iff_of_true hp h, iff_of_true (needsBothPins_of_phase (hne (by decide))) h, fun h' => absurd h' h,
      process_entropyAck_refused hk (hne (by decide)), process_wordAck_refused hk (hne (by decide))⟩

theorem entropy_given_up :
    let d := (ofProfile .wiped).run [.request (.resetDevice { pinProtection := .truth false })]
    let d' := (process .initialise d).2
    d.stalled = false ∧ d.phase = some .entropy ∧ d'.phase = some .pinFirst ∧ d'.NeedsBothPins ∧
      ∀ entropy, process (.entropyAck entropy) d' = (.ok (some notInReset), d') := by
  intro d d'
  have hs : d.stalled = false := by decide +kernel
  have hf : d'.phase = some .pinFirst := by decide +kernel
  obtain ⟨f, d₁, hi, hp, hb, -, he, -⟩ := initialise_gives_up_iff .wiped (.text defaultPin) defaultMnemonic
    defaultEntropy (.text defaultLabel) [.request (.resetDevice { pinProtection := .truth false })] hs
  have hd : d₁ = d' := (congrArg Prod.snd hi).symm
  rw [hd] at hp hb he
  exact ⟨hs, by decide +kernel, hf, hb.mpr (hp.mp hf), he⟩

theorem chosen_pin_kept :
    let d := (ofProfile .wiped).run [.request (.pinMatrixAck (.text defaultPin))]
    let d' := (process .initialise d).2
    d.stalled = false ∧ d.seed = none ∧ d'.phase = some .pinSecond ∧
      d'.exchanges [.request (.pinMatrixAck (.text defaultPin))] =
        [⟨.pinMatrixAck (.text defaultPin), .entropyRequest⟩] := by
  decide +kernel

end Device

end HardwareWallet
