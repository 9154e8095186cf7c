import HardwareWallet.Device.Process
import HardwareWallet.Event
import HardwareWallet.Proofs.Attempt

/-!
What a device can do with a request, as a relation between the request, the reply and the device before and
after. Every reply that `answer` computes is one of these reactions, so that what all of them keep is kept.
-/

namespace HardwareWallet

def Message.isRequest : Message → Bool
  | plain => false
  | features _ => false
  | node _ => false
  | publicKey .. => false
  | pinMatrixRequest _ => false
  | buttonRequest .. => false
  | entropyRequest => false
  | cipheredKeyValue _ => false
  | success _ => false
  | failure .. => false
  | _ => true

namespace Device

inductive Unmoved (d : Device) : Message → Message → Prop where
  | features : Unmoved d .getFeatures (.features d.features)
  | pingLocked {text button pin : Value} (hl : d.unlocked = false) :
      Unmoved d (.ping text button pin) (.pinMatrixRequest (some .current))
  | pingButton {text button pin : Value} : Unmoved d (.ping text button pin) (confirmation .protectCall "")
  | pingEcho {text button pin : Value} : Unmoved d (.ping text button pin) (.success text)
  | buttonAck : Unmoved d .buttonAck (done "Confirmed")
  | keyRefused {address : Path} {shown : Value} (hs : d.seed = none) :
      Unmoved d (.getPublicKey address shown) noWallet
  | keyTold {address : Path} {shown xpub : Value} {node : PublicNode} :
      Unmoved d (.getPublicKey address shown) (.publicKey node xpub)
  | wrongPin {pin : Value} (hp : pin.agrees d.pin = false) :
      Unmoved d (.pinMatrixAck pin) (refusal .pinInvalid "Invalid PIN")
  | resetRefused {r : ResetRequest} {code : FailureCode} {text : String}
      (hc : code = .unexpectedMessage ∨ code = .dataError) : Unmoved d (.resetDevice r) (refusal code text)
  | entropyRefused {entropy : Bytes} (hp : d.phase ≠ some .entropy) : Unmoved d (.entropyAck entropy) notInReset
  | wordRefused {word : Value} (hp : d.phase ≠ some .words) : Unmoved d (.wordAck word) notInReset
  | cipherRefused {r : CipherRequest} (hs : d.seed = none) : Unmoved d (.cipherKeyValue r) noWallet
  | cipherLocked {r : CipherRequest} (hl : d.unlocked = false) :
      Unmoved d (.cipherKeyValue r) (.pinMatrixRequest (some .current))
  | cipherLength {r : CipherRequest} {text : String} (hr : 0 < r.value.length % 16) :
      Unmoved d (.cipherKeyValue r) (refusal .dataError text)
  | ciphered {r : CipherRequest} {value : Bytes} (hs : d.seed.isSome) (hl : d.unlocked = true)
      (hr : r.value.length % 16 = 0) : Unmoved d (.cipherKeyValue r) (.cipheredKeyValue value)
  | unknown {m : Message} (hm : m.isRequest = false) : Unmoved d m unexpected

def startsInitialised (d : Device) : Bool :=
  match d.profile with
  | .wiped => 0 < d.initialiseCalls
  | .initialised => d.initialised

/-- What a device can do with a request that it replies to. -/
inductive Reaction (d : Device) : Message → Message → Device → Prop where
  | unmoved {m reply : Message} (h : d.Unmoved m reply) : Reaction d m reply d
  | resumed (he : d.phase ≠ some .entropy) (hw : d.phase ≠ some .words) :
      Reaction d .initialise (.features (d.featuresAs d.startsInitialised))
        { d with initialiseCalls := d.initialiseCalls + 1 }
  | abandoned (hp : d.phase = some .entropy ∨ d.phase = some .words) :
      Reaction d .initialise (.features (d.featuresAs d.startsInitialised))
        { d with
          phase := if d.seed.isNone then some .pinFirst else none
          initialiseCalls := d.initialiseCalls + 1 }
  | locked : Reaction d .clearSession (done "Session cleared") { d with unlocked := false }
  | cancelledIdle (hp : d.phase = none ∨ d.phase = some .pinFirst) :
      Reaction d .cancel (refusal .actionCancelled "Cancelled") d
  | cancelled (hp : d.phase = some .pinSecond ∨ d.phase = some .entropy ∨ d.phase = some .words) :
      Reaction d .cancel (refusal .actionCancelled "Cancelled") { d with phase := some .pinFirst }
  | pinChosen {pin : Value} (ha : pin.agrees d.pin = true) (hp : d.phase = some .pinFirst) :
      Reaction d (.pinMatrixAck pin) (.pinMatrixRequest (some .newSecond)) { d with phase := some .pinSecond }
  | pinRepeated {pin : Value} (ha : pin.agrees d.pin = true) (hp : d.phase = some .pinSecond) :
      Reaction d (.pinMatrixAck pin) .entropyRequest { d with phase := some .entropy }
  | unlocked {pin : Value} (ha : pin.agrees d.pin = true) (hf : d.phase ≠ some .pinFirst)
      (hs : d.phase ≠ some .pinSecond) (hn : d.pinAcks = 0) :
      Reaction d (.pinMatrixAck pin) (confirmation .protectCall "") { d with pinAcks := 1, unlocked := true }
  | pinKnown {pin : Value} (ha : pin.agrees d.pin = true) (hf : d.phase ≠ some .pinFirst)
      (hs : d.phase ≠ some .pinSecond) (hn : d.pinAcks ≠ 0) :
      Reaction d (.pinMatrixAck pin) (done "PIN already accepted") { d with pinAcks := d.pinAcks + 1 }
  | wiped : Reaction d .wipeDevice (confirmation .wipeDevice "") d.wipe.2
  | resetWithPin {r : ResetRequest} {strength : Number} (hn : d.seed = none)
      (hr : r.strength.number? = some strength) (hs : ResetRequest.isStrength strength = true) :
      Reaction d (.resetDevice r) (.pinMatrixRequest (some .newFirst))
        { d.prepared strength r with phase := some .pinFirst }
  | resetWithoutPin {r : ResetRequest} {strength : Number} (hn : d.seed = none)
      (hr : r.strength.number? = some strength) (hs : ResetRequest.isStrength strength = true) :
      Reaction d (.resetDevice r) .entropyRequest { d.prepared strength r with phase := some .entropy }
  | entropyTaken {entropy : Bytes} {strength : Int} {text : String} (hp : d.phase = some .entropy)
      (hs : d.strength.whole? = some strength) :
      Reaction d (.entropyAck entropy) (confirmation .confirmWord text)
        { d with
          words := Mnemonic.ofEntropy (walletEntropy d.internalEntropy entropy strength)
          wordStep := 0
          phase := some .words }
  | wordShown {word : Value} {text : String} (hp : d.phase = some .words)
      (hw : d.wordStep + 1 < 2 * d.words.length) :
      Reaction d (.wordAck word) (confirmation .confirmWord text) { d with wordStep := d.wordStep + 1 }
  | walletMade {word : Value} (hp : d.phase = some .words) (hw : 2 * d.words.length ≤ d.wordStep + 1) :
      Reaction d (.wordAck word) (done "Device reset")
        { d with
          seed := some (Mnemonic.seed (" ".intercalate d.words))
          words := []
          wordStep := 0
          phase := none
          initialised := true }

theorem initialise_told (d : Device) : d.initialise.1 = .features (d.featuresAs d.startsInitialised) := by
  have hc : decide (1 < d.initialiseCalls + 1) = decide (0 < d.initialiseCalls) := by simp
  rw [initialise, startsInitialised]
  cases hp : d.profile with
  | initialised => simp only [features, featuresAs, hp]
  | wiped => simp only [featuresAs, hp, hc]

theorem initialise_reaction (d : Device) : d.Reaction .initialise d.initialise.1 d.initialise.2 := by
  rw [initialise_told]
  obtain ⟨profile, pin, label, entropy, seed, initialised, phase, unlocked, strength, words, wordStep, pinAcks,
    calls, stalled, plugged⟩ := d
  rcases phase with _ | (_ | _ | _ | _) <;> cases profile
  case some.entropy.initialised | some.entropy.wiped => exact .abandoned (.inl rfl)
  case some.words.initialised | some.words.wiped => exact .abandoned (.inr rfl)
  all_goals exact .resumed (by simp) (by simp)

theorem ping_reaction (d : Device) (text button pin : Value) :
    d.Unmoved (.ping text button pin) (d.ping text button pin) := by
  unfold ping
  split
  · rename_i h
    exact .pingLocked (by simpa using (Bool.and_eq_true_iff.mp h).2)
  · split
    · exact .pingButton
    · exact .pingEcho

theorem cancel_reaction (d : Device) : d.Reaction .cancel d.cancel.1 d.cancel.2 := by
  obtain ⟨profile, pin, label, entropy, seed, initialised, phase, unlocked, strength, words, wordStep, pinAcks,
    calls, stalled, plugged⟩ := d
  rcases phase with _ | (_ | _ | _ | _)
  · exact .cancelledIdle (.inl rfl)
  · exact .cancelledIdle (.inr rfl)
  · exact .cancelled (.inl rfl)
  · exact .cancelled (.inr (.inl rfl))
  · exact .cancelled (.inr (.inr rfl))

theorem pinMatrixAck_reaction (d : Device) (pin : Value) :
    d.Reaction (.pinMatrixAck pin) (d.pinMatrixAck pin).1 (d.pinMatrixAck pin).2 := by
  unfold pinMatrixAck
  cases ha : pin.agrees d.pin with
  | false => exact .unmoved (.wrongPin ha)
  | true =>
    simp only [Bool.not_true, Bool.false_eq_true, ↓reduceIte]
    split
    · rename_i hp
      exact .pinChosen ha hp
    · rename_i hp
      exact .pinRepeated ha hp
    · rename_i hf hs
      by_cases hn : d.pinAcks = 0
      · simpa [hn] using Reaction.unlocked ha hf hs hn
      · simpa [hn] using Reaction.pinKnown ha hf hs hn

theorem reset_reaction (d : Device) (r : ResetRequest) :
    d.Reaction (.resetDevice r) (d.reset r).1 (d.reset r).2 := by
  unfold reset
  cases hn : d.seed with
  | some seed => exact .unmoved (.resetRefused (.inl rfl))
  | none =>
    simp only [Option.isSome_none, Bool.false_eq_true, ↓reduceIte]
    cases hf : r.strength.number?.filter ResetRequest.isStrength with
    | none => exact .unmoved (.resetRefused (.inr rfl))
    | some strength =>
      obtain ⟨hr, hs⟩ := Option.filter_eq_some_iff.mp hf
      simp only
      split
      · exact .resetWithPin hn hr hs
      · exact .resetWithoutPin hn hr hs

theorem entropyAck_reaction {d d' : Device} {entropy : Bytes} {reply : Message}
    (h : d.entropyAck entropy = .ok (reply, d')) : d.Reaction (.entropyAck entropy) reply d' := by
  unfold entropyAck at h
  split at h
  · rename_i hp
    obtain ⟨rfl, rfl⟩ := Prod.mk.inj (Except.ok.inj h)
    exact .unmoved (.entropyRefused hp)
  · rename_i hp
    cases hs : d.strength.whole? with
    | none => simp [hs] at h
    | some strength =>
      simp only [hs] at h
      obtain ⟨rfl, rfl⟩ := Prod.mk.inj (Except.ok.inj h)
      exact .entropyTaken (Decidable.not_not.mp hp) hs

theorem wordAck_reaction (d : Device) (word : Value) : d.Reaction (.wordAck word) d.wordAck.1 d.wordAck.2 := by
  unfold wordAck
  split
  · rename_i hp
    exact .unmoved (.wordRefused hp)
  · rename_i hp
    simp only
    split
    · rename_i hw
      exact .wordShown (Decidable.not_not.mp hp) hw
    · rename_i hw
      exact .walletMade (Decidable.not_not.mp hp) (Nat.not_lt.mp hw)

theorem publicKey_reaction {d : Device} {address : Path} {shown : Value} {reply : Message}
    (h : d.publicKey address = .ok reply) : d.Unmoved (.getPublicKey address shown) reply := by
  unfold publicKey master? at h
  cases hs : d.seed with
  | none =>
    simp only [hs, Option.map_none, Except.ok.injEq] at h
    exact h ▸ .keyRefused hs
  | some seed =>
    simp only [hs, Option.map_some] at h
    obtain ⟨master, _, h⟩ := exists_of_bind_eq_ok h
    obtain ⟨node, _, h⟩ := exists_of_bind_eq_ok h
    obtain ⟨xpub, _, h⟩ := exists_of_bind_eq_ok h
    exact Except.ok.inj h ▸ .keyTold

theorem cipherKeyValue_reaction {d : Device} {r : CipherRequest} {reply : Message}
    (h : d.cipherKeyValue r = .ok reply) : d.Unmoved (.cipherKeyValue r) reply := by
  unfold cipherKeyValue master? at h
  cases hs : d.seed with
  | none =>
    simp only [hs, Option.map_none, Except.ok.injEq] at h
    exact h ▸ .cipherRefused hs
  | some seed =>
    simp only [hs, Option.map_some] at h
    obtain ⟨master, _, h⟩ := exists_of_bind_eq_ok h
    cases hl : d.unlocked with
    | false =>
      simp only [hl, Bool.not_false, ↓reduceIte] at h
      exact Except.ok.inj h ▸ .cipherLocked hl
    | true =>
      simp only [hl, Bool.not_true, Bool.false_eq_true, ↓reduceIte] at h
      split at h
      · rename_i hr
        exact Except.ok.inj h ▸ .cipherLength hr
      · rename_i hr
        obtain ⟨node, _, h⟩ := exists_of_bind_eq_ok h
        obtain ⟨value, _, h⟩ := exists_of_bind_eq_ok h
        exact Except.ok.inj h ▸ .ciphered (by simp [hs]) hl (Nat.eq_zero_of_not_pos hr)

theorem reaction_of_pair {d d' : Device} {m reply : Message} {x : Message × Device}
    (hr : d.Reaction m x.1 x.2) (hx : x = (reply, d')) : d.Reaction m reply d' := by
  subst hx
  exact hr

theorem unmoved_of_map {d d' : Device} {m reply : Message} {x : Except Error Message}
    (hr : ∀ reply, x = .ok reply → d.Unmoved m reply) (hx : (x.map fun m => (m, d)) = .ok (reply, d')) :
    d.Reaction m reply d' := by
  cases x with
  | error e => cases hx
  | ok told =>
    obtain ⟨rfl, rfl⟩ := Prod.mk.inj (Except.ok.inj hx)
    exact .unmoved (hr told rfl)

theorem reaction_of_answer {d d' : Device} {m reply : Message} (h : d.answer m = .ok (reply, d')) :
    d.Reaction m reply d' := by
  cases m with
  | initialise => exact reaction_of_pair d.initialise_reaction (Except.ok.inj h)
  | getFeatures => exact reaction_of_pair (.unmoved .features) (Except.ok.inj h)
  | ping text button pin => exact reaction_of_pair (.unmoved (d.ping_reaction text button pin)) (Except.ok.inj h)
  | clearSession => exact reaction_of_pair .locked (Except.ok.inj h)
  | cancel => exact reaction_of_pair d.cancel_reaction (Except.ok.inj h)
  | getPublicKey address shown => exact unmoved_of_map (fun _ => publicKey_reaction) h
  | pinMatrixAck pin => exact reaction_of_pair (d.pinMatrixAck_reaction pin) (Except.ok.inj h)
  | buttonAck => exact reaction_of_pair (.unmoved .buttonAck) (Except.ok.inj h)
  | wipeDevice => exact reaction_of_pair .wiped (Except.ok.inj h)
  | resetDevice r => exact reaction_of_pair (d.reset_reaction r) (Except.ok.inj h)
  | entropyAck entropy => exact entropyAck_reaction h
  | wordAck word => exact reaction_of_pair (d.wordAck_reaction word) (Except.ok.inj h)
  | cipherKeyValue r => exact unmoved_of_map (fun _ => cipherKeyValue_reaction) h
  | _ => exact reaction_of_pair (.unmoved (.unknown rfl)) (Except.ok.inj h)

section Reaction

variable {d d' : Device} {m reply : Message}

theorem Reaction.ofReply?_isSome (h : d.Reaction m reply d') : (EventKind.ofReply? reply).isSome := by
  cases h with
  | unmoved h => cases h <;> rfl
  | _ => rfl

theorem Reaction.pin_eq (h : d.Reaction m reply d') : d'.pin = d.pin := by
  cases h <;> rfl

theorem Reaction.stalled_eq (h : d.Reaction m reply d') : d'.stalled = d.stalled := by
  cases h <;> rfl

theorem Reaction.plugged_eq (h : d.Reaction m reply d') : d'.plugged = d.plugged := by
  cases h <;> rfl

end Reaction

end Device

end HardwareWallet
