import HardwareWallet.Proofs.Client.ResetAgreement
import HardwareWallet.Proofs.Device.Creation
import HardwareWallet.Proofs.Device.WordCycle

namespace HardwareWallet

open Device

def GivesUp (before : List Exchange) (x : Exchange) : Prop :=
  x.request = .wipeDevice ∨ x.request = .cancel ∨ x.request = .initialise ∧ UnderWay before

def Restarted (past : List Exchange) : Prop :=
  Lasts GivesUp (fun x => x.strength?.isSome) past

section History

variable {past : List Exchange} {x : Exchange}

theorem restarted_concat :
    Restarted (past ++ [x]) ↔ GivesUp past x ∨ x.strength?.isSome = false ∧ Restarted past :=
  lasts_concat

theorem restarted_aside (hg : ¬ GivesUp past x) (hs : x.strength? = none) :
    Restarted (past ++ [x]) ↔ Restarted past := by
  rw [restarted_concat]
  simp [hg, hs]

theorem strengthInForce_aside (hs : x.strength? = none) :
    strengthInForce (past ++ [x]) = strengthInForce past := by
  rw [strengthInForce_concat, hs, Option.getD_none]

theorem restarted_of_givesUp (h : GivesUp past x) : Restarted (past ++ [x]) :=
  restarted_concat.mpr (.inl h)

end History

namespace ResetProgress

inductive Counts (past : List Exchange) (d : Device) : Option ResetProgress → Prop where
  -- what the host starts from if it has nothing in mind is right again, unless the device has a wallet
  | idle (h : Restarted past ∨ strengthInForce past = .whole 128 ∨ d.phase = none) : Counts past d none
  | restarted {state : ResetState} {steps : Number} (h : Restarted past) :
      Counts past d (some ⟨state, steps, .whole 12⟩)
  | agreed {state : ResetState} {steps : Number} (h : ¬ Restarted past) :
      Counts past d (some ⟨state, steps, wordsOf (strengthInForce past)⟩)

variable {past : List Exchange} {d d' : Device} {m reply : Message} {progress after : Option ResetProgress}
  {notices : List Notice} {x : Exchange} {state state' : ResetState} {steps steps' count : Number}

theorem counts_fresh (profile : Profile) (pin : Value) (mnemonic : String) (entropy : Bytes) (label : Value) :
    Counts [] (fresh profile pin mnemonic entropy label) none :=
  .idle (.inr (.inl rfl))

theorem Counts.congr (h : Counts past d progress) (hp : d'.phase = d.phase) : Counts past d' progress := by
  cases h with
  | idle hi => exact .idle (hp ▸ hi)
  | restarted hr => exact .restarted hr
  | agreed hr => exact .agreed hr

theorem Counts.onward (h : Counts past d (some ⟨state, steps, count⟩)) (hg : ¬ GivesUp past x)
    (hs : x.strength? = none) : Counts (past ++ [x]) d' (some ⟨state', steps', count⟩) := by
  cases h with
  | restarted hr => exact .restarted ((restarted_aside hg hs).mpr hr)
  | agreed hr =>
    rw [← strengthInForce_aside hs]
    exact .agreed (mt (restarted_aside hg hs).mp hr)

theorem Counts.waiting (h : Counts past d none) (hg : ¬ GivesUp past x) (hs : x.strength? = none)
    (hd : d.phase = none → d'.phase = none) : Counts (past ++ [x]) d' none := by
  cases h with
  | idle hi =>
    apply Counts.idle
    rw [restarted_aside hg hs, strengthInForce_aside hs]
    exact hi.imp_right fun hi => hi.imp_right hd

theorem Counts.same (h : Counts past d progress) (hg : ¬ GivesUp past x) (hs : x.strength? = none)
    (hp : d'.phase = d.phase) : Counts (past ++ [x]) d' progress := by
  cases progress with
  | none => exact h.waiting hg hs fun hd => hp.trans hd
  | some p => exact h.onward hg hs

theorem Counts.resumed (h : Counts past d none) (hd : d.phase ≠ none) (hg : ¬ GivesUp past x)
    (hs : x.strength? = none) : Counts (past ++ [x]) d' (some ⟨state, steps, .whole 12⟩) := by
  by_cases hr : Restarted (past ++ [x])
  · exact .restarted hr
  · cases h with
    | idle hi =>
      have hn := hi.resolve_left (mt (restarted_aside hg hs).mpr hr)
      have hf : strengthInForce (past ++ [x]) = .whole 128 :=
        (strengthInForce_aside hs).trans (hn.resolve_right hd)
      have hc : wordsOf (strengthInForce (past ++ [x])) = .whole 12 := by rw [hf]; rfl
      exact hc ▸ .agreed hr

theorem Counts.begun {r : ResetRequest} {strength : Number} (hn : r.strength.number? = some strength)
    (hx : Exchange.isRefused ⟨.resetDevice r, reply⟩ = false) :
    Counts (past ++ [⟨.resetDevice r, reply⟩]) d' (some ⟨state, steps, wordsOf strength⟩) := by
  have hs := Exchange.strength?_agreed hx hn
  have hf : strengthInForce (past ++ [⟨.resetDevice r, reply⟩]) = strength := by
    rw [strengthInForce_concat, hs, Option.getD_some]
  have hr : ¬ Restarted (past ++ [⟨.resetDevice r, reply⟩]) := by
    rw [restarted_concat]
    simp [GivesUp, hs]
  exact hf ▸ .agreed hr

theorem Counts.unmoved (h : Counts past d progress) (hu : d.Unmoved m reply) :
    Counts (past ++ [⟨m, reply⟩]) d progress := by
  cases hu with
  | unknown hm =>
    cases m <;> first
      | exact Bool.noConfusion hm
      | exact h.same (by simp [GivesUp]) rfl rfl
  | _ => exact h.same (by simp [GivesUp]) rfl rfl

theorem after_eq {result : Option ResetProgress} {told : List Notice}
    (hr : observe progress m reply = .ok (result, told)) (ho : observe progress m reply = .ok (after, notices)) :
    after = result :=
  (Prod.mk.inj (Except.ok.inj (ho.symm.trans hr))).1

theorem Agrees.exists_of_inCreation (h : Agrees d progress) (hd : d.InCreation) : ∃ p, progress = some p := by
  cases h with
  | idle he hw => exact (hd.elim he hw).elim
  | _ => exact ⟨_, rfl⟩

theorem Agrees.observe_abandoned {f : Features} (h : Agrees d progress) (hd : d.InCreation) :
    observe progress .initialise (.features f) = .ok (none, [.resetInterrupted]) := by
  cases h with
  | idle he hw => exact (hd.elim he hw).elim
  | choosingPin _ hp => rcases hd with hd | hd <;> simp [hd] at hp
  | entropy => rfl
  | words => rfl

theorem Counts.reaction (h : Counts past d progress) (ha : Agrees d progress) (hu : UnderWay past ↔ d.InCreation)
    (hr : d.Reaction m reply d') (ho : observe progress m reply = .ok (after, notices)) :
    Counts (past ++ [⟨m, reply⟩]) d' after := by
  cases hr with
  | unmoved hun =>
    obtain ⟨_, ho'⟩ := observe_unmoved progress hun
    obtain rfl := after_eq ho' ho
    exact h.unmoved hun
  | resumed he hw =>
    obtain rfl := after_eq (observe_initialise_idle (ha.state_of_idle he hw)) ho
    exact h.same (by simp [GivesUp, hu, InCreation, he, hw]) rfl rfl
  | abandoned hp =>
    obtain rfl := after_eq (ha.observe_abandoned hp) ho
    exact .idle (.inl (restarted_of_givesUp (.inr (.inr ⟨rfl, hu.mpr hp⟩))))
  | cancelledIdle | cancelled =>
    obtain ⟨_, ho'⟩ := observe_cancelled progress (.text "Cancelled")
    obtain rfl := after_eq ho' ho
    exact .idle (.inl (restarted_of_givesUp (.inr (.inl rfl))))
  | pinChosen _ hp =>
    cases progress with
    | none =>
      obtain rfl := after_eq rfl ho
      exact h.waiting (by simp [GivesUp]) rfl (by simp [hp])
    | some p =>
      obtain rfl := after_eq rfl ho
      exact h.onward (by simp [GivesUp]) rfl
  | pinRepeated _ hp =>
    cases progress with
    | none =>
      obtain rfl := after_eq rfl ho
      exact h.resumed (by simp [hp]) (by simp [GivesUp]) rfl
    | some p =>
      obtain rfl := after_eq rfl ho
      exact h.onward (by simp [GivesUp]) rfl
  | wiped =>
    obtain rfl := after_eq rfl ho
    exact .restarted (restarted_of_givesUp (.inl rfl))
  | resetWithPin _ hn =>
    obtain ⟨_, ho', -⟩ := observe_resetDevice progress hn
    obtain rfl := after_eq ho' ho
    exact .begun hn rfl
  | resetWithoutPin _ hn =>
    obtain ⟨_, -, ho'⟩ := observe_resetDevice progress hn
    obtain rfl := after_eq ho' ho
    exact .begun hn rfl
  | entropyTaken hp =>
    obtain ⟨p, rfl⟩ := ha.exists_of_inCreation (.inl hp)
    obtain rfl := after_eq rfl ho
    exact h.onward (by simp [GivesUp]) rfl
  | wordShown hp =>
    obtain ⟨p, rfl⟩ := ha.exists_of_inCreation (.inr hp)
    obtain rfl := after_eq rfl ho
    exact h.onward (by simp [GivesUp]) rfl
  | walletMade hp =>
    obtain ⟨p, rfl⟩ := ha.exists_of_inCreation (.inr hp)
    obtain rfl := after_eq rfl ho
    exact .idle (.inr (.inr rfl))
  | locked | unlocked | pinKnown =>
    have he : after = progress := by cases progress <;> exact after_eq rfl ho
    exact he ▸ h.same (by simp [GivesUp]) rfl rfl

theorem wordsOf_whole (strength : Int) : wordsOf (.whole strength) = .whole (3 * (strength / 32)) := rfl

theorem Agrees.of_confirming {p : ResetProgress} (h : Agrees d (some p)) (hp : p.state = .confirmingWords) :
    d.phase = some .words ∧ p.wordSteps = .whole d.wordStep := by
  cases h with
  | choosingPin hs => rcases hs with rfl | rfl <;> cases hp
  | entropy => cases hp
  | words hw => exact ⟨hw, rfl⟩

theorem Counts.wordCount_iff {internal : Bytes} {p : ResetProgress} (h : Counts past d (some p))
    (hf : Follows internal past d) (hw : d.phase = some .words) :
    p.wordCount = .whole d.words.length ↔ ¬ (Restarted past ∧ strengthInForce past ≠ .whole 128) := by
  obtain ⟨strength, hs, hl, -⟩ := hf.wellFormed.words hw
  have hv := ResetRequest.isStrength_whole.mp (hs ▸ hf.wellFormed.isStrength)
  rw [← hf.strength, hs]
  simp only [ne_eq, Number.whole.injEq]
  cases h with
  | restarted hr =>
    simp only [Number.whole.injEq, hr, true_and, Decidable.not_not]
    omega
  | agreed hr =>
    rw [← hf.strength, hs, wordsOf_whole]
    simp only [Number.whole.injEq, hr, false_and, not_false_eq_true, iff_true]
    omega

theorem stepsRemaining_eq {p : ResetProgress} {words step : Nat} (hc : p.wordCount = .whole words)
    (hs : p.wordSteps = .whole step) : p.stepsRemaining = .ok (.whole (2 * words - step)) := by
  rw [stepsRemaining, hc, hs]
  rfl

end ResetProgress

namespace Progress

theorem counts_hear {p : Progress} (hp : p.reset = none) (profile : Profile) (pin : Value) (mnemonic : String)
    (entropy : Bytes) (label : Value) (stimuli : List Stimulus) :
    let device := Device.fresh profile pin mnemonic entropy label
    let reset := (p.hear (device.exchanges stimuli)).reset
    ResetProgress.Agrees (device.run stimuli) reset ∧
      ResetProgress.Counts (device.exchanges stimuli) (device.run stimuli) reset := by
  intro device
  have hu : UnderWay [] ↔ device.InCreation := by
    constructor
    · exact fun h => absurd h not_lasts_nil
    · cases profile <;> simp [device, InCreation, Device.fresh]
  have h := history_induction (d := device)
    (P := fun past d => (UnderWay past ↔ d.InCreation) ∧ ResetProgress.Agrees d (p.hear past).reset ∧
      ResetProgress.Counts past d (p.hear past).reset)
    ⟨hu, hp ▸ ResetProgress.agrees_fresh profile pin mnemonic entropy label,
      hp ▸ ResetProgress.counts_fresh profile pin mnemonic entropy label⟩
    (fun _ _ _ h => ⟨h.1, h.2.1.congr rfl rfl, h.2.2.congr rfl⟩)
    (fun _ _ _ h => ⟨h.1, h.2.1.congr rfl rfl, h.2.2.congr rfl⟩)
    (fun past d m reply d' h hr => by
      obtain ⟨hu, ha, hc⟩ := h
      obtain ⟨after, notices, ho, ha'⟩ := ha.reaction hr
      rw [hear_append]
      have he : ((p.hear past).hear [⟨m, reply⟩]).reset = after := reset_observe ho
      rw [he]
      exact ⟨underWay_reaction hu hr, ha', hc.reaction ha hu hr ho⟩) stimuli
  exact h.2

end Progress

namespace Client

/-- A client that confirms words counts as many as its device shows, unless a wallet was given up and the device has
    not been told the strength of the next. Then it counts twelve, and the device goes by the strength before. -/
theorem wordCount_agrees_iff (path : Value) (chain : Chain) (capacity : Value) (policy : PinPolicy)
    (profile : Profile) (pin : Value) (mnemonic : String) (entropy : Bytes) (label : Value) (timeout : Timeout)
    (happenings : List Happening) :
    let c := fresh path chain (Device.fresh profile pin mnemonic entropy label) timeout capacity policy
    let past := c.exchanges happenings
    let device := (c.lifetime happenings).device
    ∀ p, (c.lifetime happenings).progress.reset = some p → p.state = .confirmingWords →
      (p.wordCount = .whole device.words.length ↔ ¬ (Restarted past ∧ strengthInForce past ≠ .whole 128)) ∧
      (p.wordCount = .whole device.words.length → ∃ n : Int, p.stepsRemaining = .ok (.whole n) ∧ 1 ≤ n ∧
        n ≤ 2 * device.words.length) ∧
      (Restarted past → p.wordCount = .whole 12) := by
  intro c past device p hp hs
  have hc : c.session.Tidy := fresh_tidy ..
  cases ht : timeout.isMeasurable with
  | false =>
    have hn : (c.lifetime happenings).progress.reset = none :=
      Progress.reset_congr (lifetime_unheard hc happenings ht)
    rw [hn] at hp
    cases hp
  | true =>
    obtain ⟨ha, hcounts⟩ := Progress.counts_hear (p := c.progress) rfl profile pin mnemonic entropy label
      (c.stimuli happenings)
    have hr : (c.lifetime happenings).progress.reset = _ := Progress.reset_congr (lifetime_heard hc happenings ht)
    have hd : device = (Device.fresh profile pin mnemonic entropy label).run (c.stimuli happenings) :=
      lifetime_device hc happenings
    have hf := follows_run profile pin mnemonic entropy label (c.stimuli happenings)
    have he : (c.progress.hear ((Device.fresh profile pin mnemonic entropy label).exchanges
        (c.stimuli happenings))).reset = some p := hr.symm.trans hp
    rw [he, ← hd] at ha hcounts
    rw [← hd] at hf
    obtain ⟨hw, hstep⟩ := ha.of_confirming hs
    refine ⟨hcounts.wordCount_iff hf hw, ?_, ?_⟩
    · intro hcount
      obtain ⟨-, -, -, hl⟩ := hf.wellFormed.words hw
      exact ⟨_, ResetProgress.stepsRemaining_eq hcount hstep, by omega, by omega⟩
    · intro hrest
      cases hcounts with
      | restarted => rfl
      | agreed hn => exact absurd hrest hn

def choosePinAndMix : List Happening :=
  [.operation (.pinMatrixAck (.text defaultPin)), .operation (.pinMatrixAck (.text defaultPin)),
    .operation (.entropyAck (.proper [0]))]

def blankLifetime (happenings : List Happening) : Client EmulatedLink :=
  (fresh (.text "direct") .main (ofProfile .wiped) (.seconds (.whole 5)) (.int 100) .standard).lifetime happenings

def resetAgain : List Happening :=
  [.operation .connect, .operation (.resetDevice { strength := .int 256, pinProtection := .truth false }),
    .operation .cancel, .operation (.resetDevice { strength := .int 192 })] ++ choosePinAndMix

theorem resetAgain_counts_words :
    ∃ p, (blankLifetime resetAgain).progress.reset = some p ∧ p.state = .confirmingWords ∧
      p.wordCount = .whole (blankLifetime resetAgain).device.words.length ∧
      ∃ n : Int, p.stepsRemaining = .ok (.whole n) ∧ 1 ≤ n ∧
        n ≤ 2 * (blankLifetime resetAgain).device.words.length := by
  have hp : (blankLifetime resetAgain).progress.reset = some ⟨.confirmingWords, .whole 0, .whole 18⟩ := by
    decide +kernel
  have hc : Number.whole 18 = .whole (blankLifetime resetAgain).device.words.length := by decide +kernel
  have h := wordCount_agrees_iff (.text "direct") .main (.int 100) .standard .wiped (.text defaultPin)
    defaultMnemonic Device.defaultEntropy (.text defaultLabel) (.seconds (.whole 5)) resetAgain _ hp rfl
  exact ⟨_, hp, rfl, hc, h.2.1 hc⟩

def resetAfterWipe : List Happening :=
  [.operation .connect, .operation (.resetDevice { strength := .int 256, pinProtection := .truth false }),
    .operation .wipeDevice] ++ choosePinAndMix

theorem resetAfterWipe_counts_twelve :
    ∃ p, (blankLifetime resetAfterWipe).progress.reset = some p ∧ p.state = .confirmingWords ∧
      p.wordCount = .whole 12 ∧ (blankLifetime resetAfterWipe).device.words.length = 24 := by
  have hp : (blankLifetime resetAfterWipe).progress.reset = some ⟨.confirmingWords, .whole 0, .whole 12⟩ := by
    decide +kernel
  exact ⟨_, hp, rfl, rfl, by decide +kernel⟩

end Client

end HardwareWallet
