import HardwareWallet.Proofs.Client.Lifetime

namespace HardwareWallet

open Device

namespace ResetProgress

variable {d d' : Device} {m reply : Message} {progress : Option ResetProgress}

inductive Agrees (d : Device) : Option ResetProgress → Prop where
  | idle (he : d.phase ≠ some .entropy) (hw : d.phase ≠ some .words) : Agrees d none
  | choosingPin {state : ResetState} {steps count : Number} (hs : state = .wiped ∨ state = .pinRequested)
      (hp : d.phase = some .pinFirst ∨ d.phase = some .pinSecond) : Agrees d (some ⟨state, steps, count⟩)
  | entropy {steps count : Number} (hp : d.phase = some .entropy) :
      Agrees d (some ⟨.entropyRequested, steps, count⟩)
  | words {count : Number} (hp : d.phase = some .words) :
      Agrees d (some ⟨.confirmingWords, .whole d.wordStep, count⟩)

theorem agrees_fresh (profile : Profile) (pin : Value) (mnemonic : String) (entropy : Bytes) (label : Value) :
    Agrees (fresh profile pin mnemonic entropy label) none := by
  cases profile <;> exact .idle (by simp [fresh]) (by simp [fresh])

theorem Agrees.congr (h : Agrees d progress) (hp : d'.phase = d.phase) (hw : d'.wordStep = d.wordStep) :
    Agrees d' progress := by
  cases h with
  | idle he hn => exact .idle (hp ▸ he) (hp ▸ hn)
  | choosingPin hs hc => exact .choosingPin hs (hp ▸ hc)
  | entropy he => exact .entropy (hp ▸ he)
  | words hn => exact hw ▸ .words (hp.trans hn)

theorem Agrees.state_of_idle (h : Agrees d progress) (he : d.phase ≠ some .entropy) (hw : d.phase ≠ some .words) :
    ∀ p, progress = some p → p.state ≠ .entropyRequested ∧ p.state ≠ .confirmingWords := by
  rintro p rfl
  cases h with
  | choosingPin hs => rcases hs with rfl | rfl <;> exact ⟨nofun, nofun⟩
  | entropy hp => exact absurd hp he
  | words hp => exact absurd hp hw

theorem observe_unmoved (progress : Option ResetProgress) (h : d.Unmoved m reply) :
    ∃ notices, observe progress m reply = .ok (progress, notices) := by
  cases h with
  | unknown hm =>
    cases m <;> first
      | exact Bool.noConfusion hm
      | cases progress <;> exact ⟨_, rfl⟩
  | resetRefused hc => exact ⟨_, rfl⟩
  | _ => cases progress <;> exact ⟨_, rfl⟩

theorem observe_initialise_idle {f : Features}
    (h : ∀ p, progress = some p → p.state ≠ .entropyRequested ∧ p.state ≠ .confirmingWords) :
    observe progress .initialise (.features f) = .ok (progress, []) := by
  rcases progress with _ | ⟨state, steps, count⟩
  · rfl
  · obtain ⟨he, hw⟩ := h _ rfl
    cases state with
    | entropyRequested => exact absurd rfl he
    | confirmingWords => exact absurd rfl hw
    | _ => rfl

theorem observe_cancelled (progress : Option ResetProgress) (text : Value) :
    ∃ notices, observe progress .cancel (.failure .actionCancelled text) = .ok (none, notices) := by
  cases progress <;> exact ⟨_, rfl⟩

def wordsOf (strength : Number) : Number :=
  (strength.floorQuotient 32).times 3

theorem observe_resetDevice (progress : Option ResetProgress) {r : ResetRequest} {n : Number}
    (hn : r.strength.number? = some n) : ∃ notices,
      observe progress (.resetDevice r) (.pinMatrixRequest (some .newFirst)) =
        .ok (some ⟨.pinRequested, .whole 0, wordsOf n⟩, notices) ∧
      observe progress (.resetDevice r) .entropyRequest =
        .ok (some ⟨.entropyRequested, .whole 0, wordsOf n⟩, notices) := by
  have hw : wordCountOf r.strength = .ok (wordsOf n) := by simp only [wordCountOf, wordsOf, hn]
  simp only [observe, hw]
  exact ⟨_, rfl, rfl⟩

theorem Agrees.reaction (h : Agrees d progress) (hr : d.Reaction m reply d') :
    ∃ after notices, observe progress m reply = .ok (after, notices) ∧ Agrees d' after := by
  cases hr with
  | unmoved hu =>
    obtain ⟨notices, ho⟩ := observe_unmoved progress hu
    exact ⟨progress, notices, ho, h⟩
  | resumed he hw => exact ⟨progress, [], observe_initialise_idle (h.state_of_idle he hw), h.congr rfl rfl⟩
  | abandoned hp =>
    refine ⟨none, [.resetInterrupted], ?_, .idle (by cases d.seed <;> simp) (by cases d.seed <;> simp)⟩
    cases h with
    | idle he hw => exact (hp.elim he hw).elim
    | choosingPin _ hc => rcases hp with hp | hp <;> simp [hp] at hc
    | entropy => rfl
    | words => rfl
  | locked =>
    cases progress <;> exact ⟨_, [], rfl, h.congr rfl rfl⟩
  -- the host gives up what it has begun, and the device has nothing to give up
  | cancelledIdle hp =>
    obtain ⟨notices, ho⟩ := observe_cancelled progress (.text "Cancelled")
    refine ⟨none, notices, ho, .idle ?_ ?_⟩
    · rcases hp with hp | hp <;> simp [hp]
    · rcases hp with hp | hp <;> simp [hp]
  | cancelled =>
    obtain ⟨notices, ho⟩ := observe_cancelled progress (.text "Cancelled")
    exact ⟨none, notices, ho, .idle (by simp) (by simp)⟩
  | pinChosen _ hp =>
    cases progress with
    | none => exact ⟨none, [], rfl, .idle (by simp) (by simp)⟩
    | some p => exact ⟨_, [], rfl, .choosingPin (.inr rfl) (.inr rfl)⟩
  | pinRepeated =>
    cases progress with
    | none => exact ⟨_, [], rfl, .entropy rfl⟩
    | some p => exact ⟨_, [], rfl, .entropy rfl⟩
  | unlocked | pinKnown =>
    cases progress <;> exact ⟨_, [], rfl, h.congr rfl rfl⟩
  | wiped => exact ⟨_, _, rfl, .choosingPin (.inl rfl) (.inl rfl)⟩
  | resetWithPin _ hn =>
    obtain ⟨notices, ho, -⟩ := observe_resetDevice progress hn
    exact ⟨_, notices, ho, .choosingPin (.inr rfl) (.inl rfl)⟩
  | resetWithoutPin _ hn =>
    obtain ⟨notices, -, ho⟩ := observe_resetDevice progress hn
    exact ⟨_, notices, ho, .entropy rfl⟩
  | entropyTaken hp =>
    cases h with
    | idle he => exact absurd hp he
    | choosingPin _ hc => simp [hp] at hc
    | entropy => exact ⟨_, [], rfl, .words rfl⟩
    | words hw => simp [hp] at hw
  | wordShown hp =>
    cases h with
    | idle _ hw => exact absurd hp hw
    | choosingPin _ hc => simp [hp] at hc
    | entropy he => simp [hp] at he
    | words => exact ⟨_, [], rfl, .words hp⟩
  | walletMade hp =>
    refine ⟨none, ?_⟩
    cases h with
    | idle _ hw => exact absurd hp hw
    | choosingPin _ hc => simp [hp] at hc
    | entropy he => simp [hp] at he
    | words => exact ⟨_, rfl, .idle (by simp) (by simp)⟩

end ResetProgress

namespace Progress

theorem reset_observe {p : Progress} {m reply : Message} {after : Option ResetProgress} {notices : List Notice}
    (h : ResetProgress.observe p.reset m reply = .ok (after, notices)) : (p.observe m reply).1.reset = after := by
  simp only [observe, h]

theorem agrees_hear {p : Progress} {d : Device} (h : ResetProgress.Agrees d p.reset) (stimuli : List Stimulus) :
    ResetProgress.Agrees (d.run stimuli) (p.hear (d.exchanges stimuli)).reset :=
  history_induction (P := fun past d => ResetProgress.Agrees d (p.hear past).reset) h
    (fun _ _ _ h => h.congr rfl rfl) (fun _ _ _ h => h.congr rfl rfl)
    (fun past d m reply d' h hr => by
      obtain ⟨after, notices, ho, ha⟩ := h.reaction hr
      rw [hear_append]
      exact (reset_observe ho).symm ▸ ha) stimuli

end Progress

namespace Client

variable (path : Value) (chain : Chain) (capacity : Value) (policy : PinPolicy) (profile : Profile) (pin : Value)
  (mnemonic : String) (entropy : Bytes) (label : Value)

theorem reset_agrees {timeout : Timeout} (ht : timeout.isMeasurable = true) (happenings : List Happening) :
    let device := Device.fresh profile pin mnemonic entropy label
    let c := (fresh path chain device timeout capacity policy).lifetime happenings
    ResetProgress.Agrees c.device c.progress.reset := by
  intro device c
  have hc := fresh_tidy path chain device timeout capacity policy
  have hr : c.progress.reset = _ := Progress.reset_congr (lifetime_heard hc happenings ht)
  have hd : c.device = _ := lifetime_device hc happenings
  rw [hr, hd]
  exact Progress.agrees_hear (ResetProgress.agrees_fresh profile pin mnemonic entropy label) _

/-- Whatever is done with a client, it knows what step of creating a wallet its device is in. -/
theorem reset_in_step {timeout : Timeout} (ht : timeout.isMeasurable = true) (happenings : List Happening) :
    let device := Device.fresh profile pin mnemonic entropy label
    let c := (fresh path chain device timeout capacity policy).lifetime happenings
    ((∃ p, c.progress.reset = some p ∧ p.state = .entropyRequested) ↔ c.device.phase = some .entropy) ∧
      ((∃ p, c.progress.reset = some p ∧ p.state = .confirmingWords) ↔ c.device.phase = some .words) ∧
      (∀ p, c.progress.reset = some p → p.state = .confirmingWords → p.wordSteps = .whole c.device.wordStep) ∧
      (c.device.phase = none → c.progress.reset = none) ∧
      ∀ p, c.progress.reset = some p → p.state ≠ .success := by
  intro device c
  have h : ResetProgress.Agrees c.device c.progress.reset :=
    reset_agrees path chain capacity policy profile pin mnemonic entropy label ht happenings
  revert h
  generalize c.progress.reset = progress
  intro h
  cases h with
  | idle he hw => simp [he, hw]
  | choosingPin hs hp => rcases hs with rfl | rfl <;> rcases hp with hp | hp <;> simp [hp]
  | entropy hp => simp [hp]
  | words hp => simp [hp]

def startReset : List Happening :=
  [.operation .connect, .operation (.resetDevice { pinProtection := .truth false })]

def startingReset (timeout : Timeout) : Client EmulatedLink :=
  (fresh (.text "direct") .main (ofProfile .wiped) timeout (.int 100) .standard).lifetime startReset

theorem startingReset_in_step :
    (Timeout.seconds (.whole 5)).isMeasurable = true ∧
      (startingReset (.seconds (.whole 5))).device.phase = some .entropy ∧
      ∃ p, (startingReset (.seconds (.whole 5))).progress.reset = some p ∧ p.state = .entropyRequested := by
  have ht : (Timeout.seconds (.whole 5)).isMeasurable = true := by decide +kernel
  have hp : (startingReset (.seconds (.whole 5))).device.phase = some .entropy := by decide +kernel
  exact ⟨ht, hp, (reset_in_step (.text "direct") .main (.int 100) .standard .wiped (.text defaultPin)
    defaultMnemonic Device.defaultEntropy (.text defaultLabel) ht startReset).1.mpr hp⟩

def immeasurable : Timeout :=
  .seconds (.whole (Int.pow 2 1024))

theorem startingReset_unheard :
    immeasurable.isNegative = false ∧
      ¬ ((∃ p, (startingReset immeasurable).progress.reset = some p ∧ p.state = .entropyRequested) ↔
        (startingReset immeasurable).device.phase = some .entropy) := by
  have hp : (startingReset immeasurable).device.phase = some .entropy := by decide +kernel
  have hn : (startingReset immeasurable).progress.reset = none := by decide +kernel
  refine ⟨by decide +kernel, ?_⟩
  rw [hn, hp]
  simp

end Client

end HardwareWallet
