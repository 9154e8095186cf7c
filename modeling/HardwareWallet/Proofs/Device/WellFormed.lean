import HardwareWallet.Proofs.Device.History

namespace HardwareWallet

theorem ResetRequest.isStrength_whole {n : Int} :
    isStrength (.whole n) = true ↔ n = 128 ∨ n = 192 ∨ n = 256 := by
  simp [isStrength, Number.agrees_whole, or_assoc]

theorem ResetRequest.eq_whole_of_isStrength {strength : Number} {n : Int} (hs : isStrength strength = true)
    (hn : strength.whole? = some n) : strength = .whole n := by
  cases strength with
  -- 0 and 1 are whole numbers, and no strengths
  | truth b => exact absurd hs (by cases b <;> decide)
  | whole m => exact congrArg Number.whole (Option.some.inj hn)
  | rounded x => cases hn

namespace Device

theorem length_walletEntropy (internal host : Bytes) (strength : Int) :
    (walletEntropy internal host strength).length = min (strength / 8).toNat 32 := by
  simp [walletEntropy]

theorem length_walletWords {strength : Int} (hs : strength = 128 ∨ strength = 192 ∨ strength = 256)
    (internal host : Bytes) :
    (Mnemonic.ofEntropy (walletEntropy internal host strength)).length = (strength / 32 * 3).toNat := by
  rw [Mnemonic.length_ofEntropy, length_walletEntropy]
  rcases hs with rfl | rfl | rfl <;> rfl

structure WellFormed (d : Device) : Prop where
  initialised_iff : d.initialised = true ↔ d.seed.isSome
  seed_iff : d.seed.isSome ↔ d.phase = none
  isStrength : ResetRequest.isStrength d.strength = true
  words : d.phase = some .words → ∃ strength, d.strength = .whole strength ∧
    d.words.length = (strength / 32 * 3).toNat ∧ d.wordStep < 2 * d.words.length

theorem wellFormed_fresh (profile : Profile) (pin : Value) (mnemonic : String) (entropy : Bytes) (label : Value) :
    (fresh profile pin mnemonic entropy label).WellFormed := by
  cases profile with
  | initialised => exact ⟨by simp [fresh], by simp [fresh], rfl, by simp [fresh]⟩
  | wiped => exact ⟨by simp [fresh], by simp [fresh], rfl, by simp [fresh]⟩

theorem WellFormed.inPhase {d : Device} (h : d.WellFormed) {phase : ResetPhase} (hp : phase ≠ .words)
    (hd : d.phase ≠ none) : WellFormed { d with phase := some phase } where
  initialised_iff := h.initialised_iff
  seed_iff := by simpa [hd] using h.seed_iff
  isStrength := h.isStrength
  words := by simp [hp]

theorem WellFormed.reaction {d d' : Device} {m reply : Message} (h : d.WellFormed)
    (hr : d.Reaction m reply d') : d'.WellFormed := by
  cases hr with
  | unmoved => exact h
  | resumed => exact ⟨h.initialised_iff, h.seed_iff, h.isStrength, h.words⟩
  | abandoned hp =>
    have hd : d.seed = none := by
      have := h.seed_iff
      rcases hp with hp | hp <;> simpa [hp] using this
    exact ⟨h.initialised_iff, by simp [hd], h.isStrength, by simp [hd]⟩
  | locked => exact ⟨h.initialised_iff, h.seed_iff, h.isStrength, h.words⟩
  | cancelledIdle => exact h
  | cancelled hp => exact h.inPhase (by decide) (by rcases hp with hp | hp | hp <;> simp [hp])
  | pinChosen _ hp => exact h.inPhase (by decide) (by simp [hp])
  | pinRepeated _ hp => exact h.inPhase (by decide) (by simp [hp])
  | unlocked => exact ⟨h.initialised_iff, h.seed_iff, h.isStrength, h.words⟩
  | pinKnown => exact ⟨h.initialised_iff, h.seed_iff, h.isStrength, h.words⟩
  | wiped => exact ⟨by simp [wipe], by simp [wipe], h.isStrength, by simp [wipe]⟩
  | resetWithPin hn _ hs => exact ⟨h.initialised_iff, by simp [prepared, hn], hs, by simp⟩
  | resetWithoutPin hn _ hs => exact ⟨h.initialised_iff, by simp [prepared, hn], hs, by simp⟩
  | @entropyTaken entropy strength _ hp hs =>
    have he := ResetRequest.eq_whole_of_isStrength h.isStrength hs
    have hv := ResetRequest.isStrength_whole.mp (he ▸ h.isStrength)
    have hl := length_walletWords hv d.internalEntropy entropy
    refine ⟨h.initialised_iff, by simpa [hp] using h.seed_iff, h.isStrength, fun _ => ⟨strength, he, hl, ?_⟩⟩
    show 0 < 2 * _
    rw [hl]
    rcases hv with rfl | rfl | rfl <;> decide
  | wordShown hp hw =>
    obtain ⟨strength, he, hl, _⟩ := h.words hp
    exact ⟨h.initialised_iff, h.seed_iff, h.isStrength, fun _ => ⟨strength, he, hl, hw⟩⟩
  | walletMade => exact ⟨by simp, by simp, h.isStrength, by simp⟩

theorem WellFormed.act {d : Device} (h : d.WellFormed) (s : Stimulus) : (d.act s).WellFormed := by
  cases s with
  | stall stalled => exact ⟨h.initialised_iff, h.seed_iff, h.isStrength, h.words⟩
  | plug plugged => exact ⟨h.initialised_iff, h.seed_iff, h.isStrength, h.words⟩
  | request m =>
    rcases d.act_request m with ⟨-, ha⟩ | ⟨reply, d', -, ha, hr⟩
    · rwa [ha]
    · rw [ha]
      exact h.reaction hr

theorem WellFormed.run {d : Device} (h : d.WellFormed) (stimuli : List Stimulus) : (d.run stimuli).WellFormed := by
  induction stimuli generalizing d with
  | nil => exact h
  | cons s stimuli ih => exact ih (h.act s)

theorem Reaction.seed_eq {d d' : Device} {m reply : Message} (hr : d.Reaction m reply d') (h : d.WellFormed)
    (hs : d.seed.isSome) (hm : m ≠ .wipeDevice) : d'.seed = d.seed := by
  cases hr with
  | wiped => exact absurd rfl hm
  -- a device that holds a wallet is not in the word steps
  | walletMade hp => simp [h.seed_iff.mp hs] at hp
  | _ => rfl

theorem seed_act {d : Device} (h : d.WellFormed) (hs : d.seed.isSome) {s : Stimulus}
    (hw : s ≠ .request .wipeDevice) : (d.act s).seed = d.seed := by
  cases s with
  | stall | plug => rfl
  | request m =>
    rcases d.act_request m with ⟨-, ha⟩ | ⟨reply, d', -, ha, hr⟩
    · rw [ha]
    · rw [ha]
      exact hr.seed_eq h hs fun hm => hw (hm ▸ rfl)

theorem seed_run {d : Device} (h : d.WellFormed) (hs : d.seed.isSome) {stimuli : List Stimulus}
    (hw : .request .wipeDevice ∉ stimuli) : (d.run stimuli).seed = d.seed := by
  induction stimuli generalizing d with
  | nil => rfl
  | cons s stimuli ih =>
    rw [List.mem_cons, not_or] at hw
    obtain ⟨hf, hr⟩ := hw
    have he := seed_act h hs (Ne.symm hf)
    rw [run_cons, ih (h.act s) (he ▸ hs) hr, he]

theorem publicKey_congr {d d' : Device} (h : d'.seed = d.seed) (address : Path) :
    d'.publicKey address = d.publicKey address := by
  simp only [publicKey, master?, h]

/-- A device is well formed at any time, and while it is not wiped its wallet and the public keys that it tells
    stay what they are. -/
theorem wellFormed_and_wallet_kept (profile : Profile) (pin : Value) (mnemonic : String) (entropy : Bytes)
    (label : Value) (stimuli : List Stimulus) :
    let d := (fresh profile pin mnemonic entropy label).run stimuli
    (d.initialised = true ↔ d.seed.isSome) ∧ (d.seed.isSome ↔ d.phase = none) ∧
      (d.strength.agrees (.whole 128) ∨ d.strength.agrees (.whole 192) ∨ d.strength.agrees (.whole 256)) ∧
      (d.phase = some .words → ∃ strength, d.strength = .whole strength ∧
        (d.words.length : Int) = strength / 32 * 3 ∧ d.wordStep < 2 * d.words.length) ∧
      (d.seed.isSome → ∀ more, .request .wipeDevice ∉ more → (d.run more).seed = d.seed ∧
        ∀ address shown, ((d.run more).answer (.getPublicKey address shown)).map Prod.fst =
          (d.answer (.getPublicKey address shown)).map Prod.fst) := by
  intro d
  have h : d.WellFormed := (wellFormed_fresh profile pin mnemonic entropy label).run stimuli
  refine ⟨h.initialised_iff, h.seed_iff, ?_, ?_, ?_⟩
  · simpa [ResetRequest.isStrength, or_assoc] using h.isStrength
  · intro hp
    obtain ⟨strength, he, hl, hw⟩ := h.words hp
    have hv := ResetRequest.isStrength_whole.mp (he ▸ h.isStrength)
    exact ⟨strength, he, by omega, hw⟩
  · intro hs more hm
    have he := seed_run h hs hm
    refine ⟨he, fun address shown => ?_⟩
    simp only [answer, publicKey_congr he]
    cases d.publicKey address <;> rfl

theorem wallet_kept_by_reset :
    (ofProfile .initialised).seed.isSome ∧
      .request .wipeDevice ∉ [Stimulus.request .cancel, .request (.resetDevice {}), .request (.entropyAck [])] ∧
      ((ofProfile .initialised).run
        [.request .cancel, .request (.resetDevice {}), .request (.entropyAck [])]).seed =
          (ofProfile .initialised).seed :=
  ⟨rfl, by decide, ((wellFormed_and_wallet_kept .initialised (.text defaultPin) defaultMnemonic defaultEntropy
    (.text defaultLabel) []).2.2.2.2 rfl _ (by decide)).1⟩

end Device

end HardwareWallet
