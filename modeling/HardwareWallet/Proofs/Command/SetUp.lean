import HardwareWallet.Command.Flow
import HardwareWallet.Proofs.Client.WordCountAgreement
import HardwareWallet.Proofs.Command.Exchange

namespace HardwareWallet

open Attempt

theorem Number.zero_lt_of_whole_lt {n : Nat} {a : Number} (h : (whole n).lt a = true) : (whole 0).lt a = true := by
  have hc : (whole n).compare? a = some .lt := of_decide_eq_true h
  refine decide_eq_true (?_ : (whole 0).compare? a = some .lt)
  unfold compare? at hc ⊢
  cases ha : a.content with
  | inl m =>
    rw [ha] at hc
    have hm : (n : Int) < m := Int.compare_eq_lt.mp (Option.some.inj hc)
    exact congrArg some (Int.compare_eq_lt.mpr (by omega))
  | inr y =>
    rw [ha] at hc
    cases y with
    | undefined => cases hc
    | infinite negative => exact hc
    | finite negative units =>
      -- what the whole number is multiplied by is too great to be reckoned with
      generalize hk : (1 <<< 1074 : Nat) = k
      simp only [content, Binary64.compareInt?, hk, Option.map_some, Option.some.injEq, Ordering.swap_eq_lt,
        Int.compare_eq_gt] at hc ⊢
      have hn : (0 : Int) ≤ n * k := Int.natCast_nonneg (n * k)
      omega

theorem Value.agrees_text_iff {s : String} {v : Value} : (text s).agrees v = true ↔ v = text s := by
  cases v <;> simp [agrees, eq_comm]

theorem PinPolicy.allows_zero {policy : PinPolicy} {failures : Nat} (h : policy.allows (.whole failures) = true) :
    policy.allows (.whole 0) = true :=
  Number.zero_lt_of_whole_lt h

namespace Device

variable {d : Device} {r : ResetRequest} {strength : Number} {pin : Value}

theorem reset_begun (hs : d.seed = none) (hn : r.strength.number? = some strength)
    (hv : ResetRequest.isStrength strength = true) (hp : r.pinProtection.isGiven = true) :
    d.reset r = (.pinMatrixRequest (some .newFirst), { d.prepared strength r with phase := some .pinFirst }) := by
  rw [reset, hs, hn, Option.filter_some, hv]
  simp only [hp, Option.isSome_none, Bool.false_eq_true, if_false, if_true]

theorem pinMatrixAck_chosen (ha : pin.agrees d.pin = true) (hp : d.phase = some .pinFirst) :
    d.pinMatrixAck pin = (.pinMatrixRequest (some .newSecond), { d with phase := some .pinSecond }) := by
  simp only [pinMatrixAck, ha, hp, Bool.not_true, Bool.false_eq_true, if_false]

theorem pinMatrixAck_repeated (ha : pin.agrees d.pin = true) (hp : d.phase = some .pinSecond) :
    d.pinMatrixAck pin = (.entropyRequest, { d with phase := some .entropy }) := by
  simp only [pinMatrixAck, ha, hp, Bool.not_true, Bool.false_eq_true, if_false]

theorem pinMatrixAck_wrong (ha : pin.agrees d.pin = false) :
    d.pinMatrixAck pin = (refusal .pinInvalid "Invalid PIN", d) := by
  rw [pinMatrixAck, ha]
  rfl

def spelling (d : Device) (words : List String) : Device :=
  { d with words := words, wordStep := 0, phase := some .words }

theorem entropyAck_taken {n : Int} (hp : d.phase = some .entropy) (hs : d.strength = .whole n) (entropy : Bytes) :
    ∃ text, d.entropyAck entropy = .ok (confirmation .confirmWord text,
      d.spelling (Mnemonic.ofEntropy (walletEntropy d.internalEntropy entropy n))) := by
  have hw : d.strength.whole? = some n := by rw [hs]; rfl
  rw [entropyAck, if_neg (not_not_intro hp), hw]
  exact ⟨_, rfl⟩

theorem wordAck_shown (hp : d.phase = some .words) (hw : d.wordStep + 1 < 2 * d.words.length) :
    ∃ text, d.wordAck = (confirmation .confirmWord text, { d with wordStep := d.wordStep + 1 }) := by
  rw [wordAck, if_neg (not_not_intro hp)]
  exact ⟨_, if_pos hw⟩

def made (d : Device) : Device :=
  { d with
    seed := some (Mnemonic.seed (" ".intercalate d.words))
    words := []
    wordStep := 0
    phase := none
    initialised := true }

theorem wordAck_made (hp : d.phase = some .words) (hw : ¬ d.wordStep + 1 < 2 * d.words.length) :
    d.wordAck = (done "Device reset", d.made) := by
  rw [wordAck, if_neg (not_not_intro hp)]
  exact if_neg hw

end Device

namespace Client

section Flow

variable {τ : Type} [Transport τ]

omit [Transport τ] in
theorem setUpFault?_none {c : Client τ} {pin : Value} (hf : ∀ f, c.features = some f → f.initialised.isGiven = false)
    (hp : pin.isGiven = true) : c.setUpFault? pin = none := by
  have hfresh : ¬ (c.features.any fun f => f.initialised.isGiven) = true := by
    cases hc : c.features with
    | none => exact Bool.false_ne_true
    | some f => exact Bool.eq_false_iff.mp (hf f hc)
  rw [setUpFault?, if_neg hfresh, if_pos hp]

theorem setUp_eq {c : Client τ} (hf : ∀ f, c.features = some f → f.initialised.isGiven = false) {pin : Value}
    (hp : pin.isGiven = true) (label strength : Value) (entropy random : Bytes) :
    setUp pin label strength (.proper entropy) random c = createWallet pin label strength (.proper entropy) c := by
  have hgiven : ¬ Argument.proper entropy = .other .null := nofun
  unfold setUp
  refine (get_bind _ c).trans ?_
  rw [setUpFault?_none hf hp, if_neg hgiven]

end Flow

structure Creating (d : Device) (count : Number) (c : Client EmulatedLink) : Prop where
  ready : c.Ready
  device : c.device = d
  counts : ∃ p, c.progress.reset = some p ∧ p.wordCount = count
  allows : c.progress.authentication.allowsAttempt = true

variable {c c' : Client EmulatedLink} {d : Device} {m reply : Message} {p : ResetProgress} {count : Number}
  {pin : String} {strength : Int}

theorem Answered.creating (h : c.Answered m reply d (some p) c') (hp : p.wordCount = count)
    (ha : (c.progress.authentication.observe m reply).1.allowsAttempt = true) : Creating d count c' where
  ready := h.ready
  device := h.device
  counts := ⟨p, h.reset, hp⟩
  allows := by rw [h.authentication, ha]

theorem Ready.resetDevice (h : c.Ready) (hs : c.device.seed = none)
    (ha : c.progress.authentication.allowsAttempt = true) (hn : strength = 128 ∨ strength = 192 ∨ strength = 256)
    (label : Value) : ∃ e c',
      Client.exchange (Client.resetDevice { strength := .int strength, label := label }) [.pinMatrixRequest] c =
        (.ok e, c') ∧
      Creating { c.device.prepared (.whole strength) { strength := .int strength, label := label } with
        phase := some .pinFirst } (ResetProgress.wordsOf (.whole strength)) c' := by
  have hv : ResetRequest.isStrength (.whole strength) = true := ResetRequest.isStrength_whole.mpr hn
  have ho : (Client.resetDevice { strength := .int strength, label := label } : Attempt (Client EmulatedLink) Unit) =
      Client.request (.resetDevice { strength := .int strength, label := label }) := if_pos hv
  obtain ⟨notices, hr, -⟩ := ResetProgress.observe_resetDevice c.progress.reset
    (r := { strength := .int strength, label := label }) (n := .whole strength) rfl
  have hansw : c.device.answer (.resetDevice { strength := .int strength, label := label }) =
      .ok (.pinMatrixRequest (some .newFirst), _) := congrArg Except.ok (Device.reset_begun hs rfl hv rfl)
  obtain ⟨c', hx, hc⟩ := h.exchange_request ho hansw rfl rfl hr [.pinMatrixRequest]
  exact ⟨_, c', hx, hc.creating rfl ha⟩

theorem Ready.pinRefused (h : c.Ready) (ha : c.progress.authentication.allowsAttempt = true)
    (hd : c.device.pin ≠ .text pin) (expected : List EventKind) : ∃ c',
      Client.exchange (Client.pinMatrixAck (.text pin)) expected c =
        (.error (.deviceRefused (.text "Invalid PIN")), c') ∧ c'.device = c.device := by
  have hpin : Value.agrees (.text pin) c.device.pin = false := Bool.eq_false_iff.mpr (mt Value.agrees_text_iff.mp hd)
  have hansw : c.device.answer (.pinMatrixAck (.text pin)) = .ok (Device.refusal .pinInvalid "Invalid PIN", c.device) :=
    congrArg Except.ok (Device.pinMatrixAck_wrong hpin)
  have hm : Message.HasStrength (.pinMatrixAck (.text pin)) := nofun
  obtain ⟨reset, notices, hr⟩ := ResetProgress.exists_observe hm c.progress.reset
    (Device.refusal .pinInvalid "Invalid PIN")
  obtain ⟨c', hx, hc⟩ := h.exchange_pin ha hansw rfl rfl hr expected
  exact ⟨c', hx, hc.device⟩

namespace Creating

theorem pinChosen (h : Creating d count c) (hd : d.pin = .text pin) (hp : d.phase = some .pinFirst) :
    ∃ e c', exchange (pinMatrixAck (.text pin)) [.pinMatrixRequest] c = (.ok e, c') ∧
      Creating { d with phase := some .pinSecond } count c' := by
  obtain ⟨hready, rfl, ⟨p, hr, hcount⟩, ha⟩ := h
  have hansw : c.device.answer (.pinMatrixAck (.text pin)) = .ok (.pinMatrixRequest (some .newSecond), _) :=
    congrArg Except.ok (Device.pinMatrixAck_chosen (Value.agrees_text_iff.mpr hd) hp)
  obtain ⟨c', hx, hc⟩ := hready.exchange_pin ha hansw rfl hr rfl [.pinMatrixRequest]
  exact ⟨_, c', hx, hc.creating hcount (PinPolicy.allows_zero ha)⟩

theorem pinRepeated (h : Creating d count c) (hd : d.pin = .text pin) (hp : d.phase = some .pinSecond) :
    ∃ e c', exchange (pinMatrixAck (.text pin)) [.entropyRequest] c = (.ok e, c') ∧
      Creating { d with phase := some .entropy } count c' := by
  obtain ⟨hready, rfl, ⟨p, hr, hcount⟩, ha⟩ := h
  have hansw : c.device.answer (.pinMatrixAck (.text pin)) = .ok (.entropyRequest, _) :=
    congrArg Except.ok (Device.pinMatrixAck_repeated (Value.agrees_text_iff.mpr hd) hp)
  obtain ⟨c', hx, hc⟩ := hready.exchange_pin ha hansw rfl hr rfl [.entropyRequest]
  exact ⟨_, c', hx, hc.creating hcount (PinPolicy.allows_zero ha)⟩

theorem pinRefused (h : Creating d count c) (hd : d.pin ≠ .text pin) (expected : List EventKind) :
    ∃ c', exchange (pinMatrixAck (.text pin)) expected c = (.error (.deviceRefused (.text "Invalid PIN")), c') ∧
      c'.device = d := by
  obtain ⟨hready, rfl, -, ha⟩ := h
  exact hready.pinRefused ha hd expected

theorem entropyTaken (h : Creating d count c) (hp : d.phase = some .entropy) (hs : d.strength = .whole strength)
    (entropy : Bytes) : ∃ e c', exchange (entropyAck (.proper entropy)) [.buttonRequest] c = (.ok e, c') ∧
      Creating (d.spelling (Mnemonic.ofEntropy (Device.walletEntropy d.internalEntropy entropy strength))) count
        c' := by
  obtain ⟨hready, rfl, ⟨p, hr, hcount⟩, ha⟩ := h
  obtain ⟨text, hd⟩ := Device.entropyAck_taken hp hs entropy
  have hansw : c.device.answer (.entropyAck entropy) = .ok (Device.confirmation .confirmWord text, _) := hd
  obtain ⟨c', hx, hc⟩ := hready.exchange_request rfl hansw rfl hr rfl [.buttonRequest]
  exact ⟨_, c', hx, hc.creating hcount ha⟩

theorem wordShown (h : Creating d count c) (hp : d.phase = some .words)
    (hw : d.wordStep + 1 < 2 * d.words.length) : ∃ message c',
      exchange (wordAck (.text "")) [.buttonRequest, .success] c = (.ok ⟨.buttonRequest, message⟩, c') ∧
      Creating { d with wordStep := d.wordStep + 1 } count c' := by
  obtain ⟨hready, rfl, ⟨p, hr, hcount⟩, ha⟩ := h
  obtain ⟨text, hd⟩ := Device.wordAck_shown hp hw
  have hansw : c.device.answer (.wordAck (.text "")) = .ok (Device.confirmation .confirmWord text, _) :=
    congrArg Except.ok hd
  obtain ⟨c', hx, hc⟩ := hready.exchange_request rfl hansw rfl hr rfl [.buttonRequest, .success]
  exact ⟨_, c', hx, hc.creating hcount ha⟩

theorem walletMade (h : Creating d count c) (hp : d.phase = some .words)
    (hw : ¬ d.wordStep + 1 < 2 * d.words.length) : ∃ message c',
      exchange (wordAck (.text "")) [.buttonRequest, .success] c = (.ok ⟨.success, message⟩, c') ∧
      c'.device = d.made ∧ c'.progress.reset = none := by
  obtain ⟨hready, rfl, ⟨p, hr, hcount⟩, ha⟩ := h
  have hansw : c.device.answer (.wordAck (.text "")) = .ok (Device.done "Device reset", _) :=
    congrArg Except.ok (Device.wordAck_made hp hw)
  obtain ⟨c', hx, hc⟩ := hready.exchange_request rfl hansw rfl hr rfl [.buttonRequest, .success]
  exact ⟨_, c', hx, hc.device, hc.reset⟩

theorem confirmWords (h : Creating d count c) (hp : d.phase = some .words) (hw : d.wordStep < 2 * d.words.length)
    (words : Number) {steps : Nat} (hs : 2 * d.words.length ≤ d.wordStep + steps) : ∃ c',
      Client.confirmWords words steps c = (.ok [("success", .truth true), ("words", .ofNumber words)], c') ∧
      c'.device = d.made ∧ c'.progress.reset = none := by
  induction steps generalizing c d with
  | zero => omega
  | succ steps ih =>
    by_cases hlast : d.wordStep + 1 < 2 * d.words.length
    · obtain ⟨message, next, hx, hnext⟩ := h.wordShown hp hlast
      have hleft : 2 * d.words.length ≤ d.wordStep + 1 + steps := by omega
      obtain ⟨c', hc, hd, hr⟩ := ih hnext hp hlast hleft
      refine ⟨c', ?_, hd, hr⟩
      rw [Client.confirmWords, bind_of_ok _ hx]
      exact hc
    · obtain ⟨message, next, hx, hd, hr⟩ := h.walletMade hp hlast
      have hc : Client.confirmWords words (steps + 1) c = (.ok [("success", .truth true), ("words", .ofNumber words)],
          { next with session := next.session.note [.walletCreated words] }) := by
        rw [Client.confirmWords, bind_of_ok _ hx]
        rfl
      exact ⟨_, hc, hd, hr⟩

end Creating

structure HasWallet (entropy : Bytes) (c : Client EmulatedLink) : Prop where
  initialised : c.device.initialised = true
  seed : c.device.seed = some (Mnemonic.seed (" ".intercalate (Mnemonic.ofEntropy entropy)))
  idle : c.device.phase = none
  reset : c.progress.reset = none

theorem Creating.choosePin (h : Creating d (ResetProgress.wordsOf (.whole strength)) c) (hd : d.pin = .text pin)
    (hp : d.phase = some .pinFirst) (hs : d.strength = .whole strength)
    (hn : strength = 128 ∨ strength = 192 ∨ strength = 256) (entropy : Bytes) : ∃ c',
      Client.choosePin (.text pin) (.proper entropy) c =
        (.ok [("success", .truth true), ("words", .int (strength / 32 * 3))], c') ∧
      HasWallet (Device.walletEntropy d.internalEntropy entropy strength) c' := by
  obtain ⟨_, c₁, hx₁, h₁⟩ := h.pinChosen hd hp
  obtain ⟨_, c₂, hx₂, h₂⟩ := h₁.pinRepeated hd rfl
  obtain ⟨_, c₃, hx₃, h₃⟩ := h₂.entropyTaken rfl hs entropy
  obtain ⟨p, hr, hcount⟩ := h₃.counts
  have hlen := Device.length_walletWords hn d.internalEntropy entropy
  have hpos : 0 < 2 * (Mnemonic.ofEntropy (Device.walletEntropy d.internalEntropy entropy strength)).length := by
    omega
  -- the 24 words of the greatest strength take up all the steps that may be made
  have hmax : 2 * (Mnemonic.ofEntropy (Device.walletEntropy d.internalEntropy entropy strength)).length ≤
      0 + maxWordSteps := by
    rw [maxWordSteps]
    omega
  obtain ⟨c', hc, hmade, hreset⟩ := h₃.confirmWords rfl hpos p.wordCount hmax
  have hwords : Value.ofNumber p.wordCount = .int (strength / 32 * 3) := by
    rw [hcount, ResetProgress.wordsOf_whole, Int.mul_comm]
    rfl
  refine ⟨c', ?_, ?_⟩
  · unfold Client.choosePin
    rw [bind_of_ok _ hx₁, bind_of_ok _ hx₂, bind_of_ok _ hx₃, get_bind]
    simp only [hr]
    rw [hc, hwords]
  · rw [Device.made] at hmade
    exact ⟨by rw [hmade], by rw [hmade]; rfl, by rw [hmade], hreset⟩

structure CanSetUp (c : Client EmulatedLink) : Prop where
  connected : c.session.connection = .connected
  plugged : c.device.plugged = true
  awake : c.device.stalled = false
  blank : c.device.seed = none
  features : ∀ f, c.features = some f → f.initialised.isGiven = false
  allows : c.progress.authentication.allowsAttempt = true
  bound : c.progress.authentication.policy.limit.isWritable = true

/-- A wallet is created from any state in which the device has none, if the PIN is that of the device. Otherwise there
    is still none. -/
theorem setUp_completes {path : Value} {chain : Chain} {device : Device} {timeout : Timeout} {capacity : Value}
    {policy : PinPolicy} (ht : timeout.isMeasurable = true) (hn : Channel.IsCapacity capacity)
    (happenings : List Happening) :
    let c := (fresh path chain device timeout capacity policy).lifetime happenings
    c.CanSetUp → ∀ pin label strength entropy random, pin ≠ "" → strength = 128 ∨ strength = 192 ∨ strength = 256 →
      (c.device.pin = .text pin → ∃ c',
        setUp (.text pin) label (.int strength) (.proper entropy) random c =
          (.ok [("success", .truth true), ("words", .int (strength / 32 * 3))], c') ∧
        HasWallet (Device.walletEntropy c.device.internalEntropy entropy strength) c') ∧
      (c.device.pin ≠ .text pin → ∃ c',
        setUp (.text pin) label (.int strength) (.proper entropy) random c =
          (.error (.deviceRefused (.text "Invalid PIN")), c') ∧ c'.device.seed = none) := by
  intro c hc pin label strength entropy random hpin hstrength
  have hgiven : (Value.text pin).isGiven = true := by simpa [Value.isGiven] using hpin
  have hready : c.Ready := lifetime_ready ht hn rfl hc.connected hc.plugged hc.awake
  obtain ⟨_, begun, hx, hbegun⟩ := hready.resetDevice hc.blank hc.allows hstrength label
  have hstart : setUp (.text pin) label (.int strength) (.proper entropy) random c =
      choosePin (.text pin) (.proper entropy) begun := by
    rw [setUp_eq hc.features hgiven]
    exact bind_of_ok _ hx
  rw [hstart]
  refine ⟨fun hd => hbegun.choosePin hd rfl rfl hstrength entropy, fun hd => ?_⟩
  obtain ⟨c', hx', hc'⟩ := hbegun.pinRefused hd [.pinMatrixRequest]
  refine ⟨c', ?_, hc' ▸ hc.blank⟩
  unfold choosePin
  rw [bind_of_error _ hx']

theorem resetAgain_set_up :
    let c := blankLifetime resetAgain
    c.device.phase = some .words ∧
      (∃ c', setUp (.text Device.defaultPin) (.text "") (.int 256) (.proper [1]) [] c =
          (.ok [("success", .truth true), ("words", .int 24)], c') ∧
        HasWallet (Device.walletEntropy c.device.internalEntropy [1] 256) c') ∧
      ∃ c', setUp (.text "4321") (.text "") (.int 256) (.proper [1]) [] c =
          (.error (.deviceRefused (.text "Invalid PIN")), c') ∧ c'.device.seed = none := by
  intro c
  have hpin : c.device.pin = .text Device.defaultPin := by decide +kernel
  have hother : c.device.pin ≠ .text "4321" := by
    rw [hpin]
    decide
  have hfeatures : c.features = none := by decide +kernel
  have hc : c.CanSetUp :=
    ⟨by decide +kernel, by decide +kernel, by decide +kernel, by decide +kernel, by simp [hfeatures],
      by decide +kernel, by decide +kernel⟩
  have hn : Channel.IsCapacity (.int 100) := ⟨.whole 100, rfl, by decide⟩
  have ht : (Timeout.seconds (.whole 5)).isMeasurable = true := by decide +kernel
  have h (pin : String) (hp : pin ≠ "") := setUp_completes ht hn resetAgain hc pin (.text "") 256 [1] [] hp (by decide)
  exact ⟨by decide +kernel, (h Device.defaultPin (by decide)).1 hpin, (h "4321" (by decide)).2 hother⟩

theorem blankDevice_not_set_up :
    let impatient := connectedTo (Device.ofProfile .wiped) .main (.seconds (.whole (-1))) (.int 100)
    let roomless := connectedTo (Device.ofProfile .wiped) .main (.seconds (.whole 5)) (.int 0)
    impatient.CanSetUp ∧ impatient.device.pin = .text Device.defaultPin ∧
      (setUp (.text Device.defaultPin) (.text "") (.int 128) (.proper [1]) [] impatient).1.toBool = false ∧
      roomless.CanSetUp ∧ roomless.device.pin = .text Device.defaultPin ∧
      (setUp (.text Device.defaultPin) (.text "") (.int 128) (.proper [1]) [] roomless).1.toBool = false := by
  exact ⟨⟨rfl, rfl, rfl, rfl, nofun, by decide +kernel, by decide +kernel⟩, rfl, by decide +kernel,
    ⟨rfl, rfl, rfl, rfl, nofun, by decide +kernel, by decide +kernel⟩, rfl, by decide +kernel⟩

end Client

end HardwareWallet
