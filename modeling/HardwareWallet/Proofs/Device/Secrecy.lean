import Mathlib.Data.List.Forall2
import HardwareWallet.Proofs.Device.WellFormed

/-!
What a device keeps to itself. A device whose secrets are blotted out does and says the same as the device itself,
unless it is asked for what its keys are for. So nobody can tell two devices apart that differ in their secrets alone.
-/

namespace HardwareWallet

namespace Message

def usesKeys : Message → Bool
  | getPublicKey .. => true
  | cipherKeyValue _ => true
  | _ => false

inductive Alike : Message → Message → Prop where
  | same (m : Message) : Alike m m
  | entropyAck (entropy entropy' : Bytes) : Alike (.entropyAck entropy) (.entropyAck entropy')
  | wordAck (word word' : Value) : Alike (.wordAck word) (.wordAck word')

def blotted : Message → Message
  | entropyAck _ => entropyAck []
  | wordAck _ => wordAck .null
  | m => m

theorem Alike.blotted_eq {m m' : Message} (h : m.Alike m') : m.blotted = m'.blotted := by
  cases h <;> rfl

theorem Alike.usesKeys_eq {m m' : Message} (h : m.Alike m') : m.usesKeys = m'.usesKeys := by
  cases h <;> rfl

end Message

namespace Device

namespace Stimulus

inductive Alike : Stimulus → Stimulus → Prop where
  | request {m m' : Message} (h : m.Alike m') : Alike (.request m) (.request m')
  | stall (stalled : Bool) : Alike (.stall stalled) (.stall stalled)
  | plug (plugged : Bool) : Alike (.plug plugged) (.plug plugged)

def blotted : Stimulus → Stimulus
  | request m => request m.blotted
  | s => s

def usesKeys : Stimulus → Bool
  | request m => m.usesKeys
  | _ => false

theorem Alike.blotted_eq {s s' : Stimulus} (h : s.Alike s') : s.blotted = s'.blotted := by
  cases h with
  | request h => exact congrArg Stimulus.request h.blotted_eq
  | stall stalled => rfl
  | plug plugged => rfl

theorem Alike.usesKeys_eq {s s' : Stimulus} (h : s.Alike s') : s.usesKeys = s'.usesKeys := by
  cases h with
  | request h => exact h.usesKeys_eq
  | stall stalled => rfl
  | plug plugged => rfl

end Stimulus

def blotted (d : Device) : Device :=
  { d with
    internalEntropy := []
    seed := d.seed.map fun _ => []
    words := List.replicate d.words.length "" }

structure View where
  initialised : Bool
  unlocked : Bool
  phase : Option ResetPhase
  wordStep : Nat
  wordCount : Nat
  strength : Number
  label : Value
  holdsWallet : Bool
  deriving DecidableEq

def view (d : Device) : View where
  initialised := d.initialised
  unlocked := d.unlocked
  phase := d.phase
  wordStep := d.wordStep
  wordCount := d.words.length
  strength := d.strength
  label := d.label
  holdsWallet := d.seed.isSome

def outcome (d : Device) : Stimulus → Except Error (Option Message)
  | .request m => (process m d).1
  | _ => .ok none

def watch (d : Device) : List Stimulus → List (Except Error (Option Message) × View)
  | [] => []
  | s :: stimuli => (d.outcome s, (d.act s).view) :: (d.act s).watch stimuli

section Blotted

variable (d : Device)

theorem blotted_blotted : d.blotted.blotted = d.blotted := by
  have hs : (d.seed.map fun _ => ([] : Bytes)).map (fun _ => ([] : Bytes)) = d.seed.map fun _ => [] := by
    rw [Option.map_map]
    rfl
  have hw : List.replicate d.blotted.words.length "" = d.blotted.words := by
    rw [blotted, List.length_replicate]
  unfold blotted at hw ⊢
  simp only [hs, hw]

theorem isSome_seed_blotted : d.blotted.seed.isSome = d.seed.isSome := Option.isSome_map

theorem isNone_seed_blotted : d.blotted.seed.isNone = d.seed.isNone := Option.isNone_map

theorem length_words_blotted : d.blotted.words.length = d.words.length := List.length_replicate

theorem view_blotted : d.blotted.view = d.view := by
  have hs : d.blotted.seed.isSome = d.seed.isSome := d.isSome_seed_blotted
  have hw : d.blotted.words.length = d.words.length := d.length_words_blotted
  simp only [view, hs, hw]
  rfl

theorem stepText_blotted : d.blotted.stepText = d.stepText := by
  unfold stepText
  rw [d.length_words_blotted]
  rfl

def seen (x : Message × Device) : Message × Device :=
  (x.1, x.2.blotted)

theorem seen_seen (x : Message × Device) : seen (seen x) = seen x :=
  Prod.ext rfl x.2.blotted_blotted

theorem seen_unmoved (reply : Message) : seen (reply, d.blotted) = seen (reply, d) :=
  seen_seen (reply, d)

theorem seen_initialise : seen d.blotted.initialise = seen d.initialise := by
  have hd : d.blotted.initialise = seen d.initialise := by
    have hp : d.blotted.profile = d.profile := rfl
    unfold initialise
    rw [d.isNone_seed_blotted, hp]
    cases d.profile <;> rfl
  rw [hd, seen_seen]

theorem seen_cancel : seen d.blotted.cancel = seen d.cancel :=
  seen_seen d.cancel

theorem seen_pinMatrixAck (pin : Value) : seen (d.blotted.pinMatrixAck pin) = seen (d.pinMatrixAck pin) := by
  have hd : d.blotted.pinMatrixAck pin = seen (d.pinMatrixAck pin) := by
    have hp : d.blotted.pin = d.pin := rfl
    have hf : d.blotted.phase = d.phase := rfl
    have ha : d.blotted.pinAcks = d.pinAcks := rfl
    unfold pinMatrixAck
    rw [hp, hf]
    split
    · rfl
    · split
      · rfl
      · rfl
      · simp only [ha]
        split <;> rfl
  rw [hd, seen_seen]

theorem seen_reset (r : ResetRequest) : seen (d.blotted.reset r) = seen (d.reset r) := by
  have hd : d.blotted.reset r = seen (d.reset r) := by
    unfold reset
    rw [d.isSome_seed_blotted]
    split
    · rfl
    · split
      · rfl
      · simp only
        split <;> rfl
  rw [hd, seen_seen]

theorem seen_wordAck : seen d.blotted.wordAck = seen d.wordAck := by
  have hp : d.blotted.phase = d.phase := rfl
  have hn : d.blotted.wordStep = d.wordStep := rfl
  unfold wordAck
  rw [hp]
  split
  · exact d.seen_unmoved notInReset
  · simp only [hn, d.length_words_blotted]
    split
    · have ht := { d with wordStep := d.wordStep + 1 }.stepText_blotted
      have hb := { d with wordStep := d.wordStep + 1 }.blotted_blotted
      exact Prod.ext (congrArg (confirmation .confirmWord) ht) hb
    -- the wallet that is made is another one, but there is one either way
    · simp only [seen, blotted, Option.map_some]

theorem seen_entropyAck (entropy entropy' : Bytes) :
    (d.blotted.entropyAck entropy').map seen = (d.entropyAck entropy).map seen := by
  have hp : d.blotted.phase = d.phase := rfl
  have hs : d.blotted.strength = d.strength := rfl
  unfold entropyAck
  rw [hp, hs]
  split
  · exact congrArg Except.ok (d.seen_unmoved notInReset)
  · split
    · rfl
    · rename_i strength _
      have hl : ∀ internal host, (Mnemonic.ofEntropy (walletEntropy internal host strength)).length =
          min (strength / 8).toNat 32 / 4 * 3 := by
        intro internal host
        rw [Mnemonic.length_ofEntropy, length_walletEntropy]
      simp only [Except.map, seen, stepText, blotted, hl, Option.map_map]
      rfl

theorem seen_answer {m : Message} (hm : m.usesKeys = false) :
    (d.blotted.answer m.blotted).map seen = (d.answer m).map seen := by
  cases m with
  | initialise => exact congrArg Except.ok d.seen_initialise
  | clearSession => exact congrArg Except.ok (seen_seen (done "Session cleared", { d with unlocked := false }))
  | cancel => exact congrArg Except.ok d.seen_cancel
  | pinMatrixAck pin => exact congrArg Except.ok (d.seen_pinMatrixAck pin)
  | wipeDevice => exact congrArg Except.ok (seen_seen d.wipe)
  | resetDevice r => exact congrArg Except.ok (d.seen_reset r)
  | entropyAck entropy => exact d.seen_entropyAck entropy []
  | wordAck word => exact congrArg Except.ok d.seen_wordAck
  | getPublicKey address shown => cases hm
  | cipherKeyValue r => cases hm
  | getFeatures => exact congrArg Except.ok (d.seen_unmoved (.features d.features))
  | ping text button pin => exact congrArg Except.ok (d.seen_unmoved (d.ping text button pin))
  | buttonAck => exact congrArg Except.ok (d.seen_unmoved (done "Confirmed"))
  | _ => exact congrArg Except.ok (d.seen_unmoved unexpected)

theorem process_blotted {m : Message} (hm : m.usesKeys = false) :
    (process m.blotted d.blotted).1 = (process m d).1 ∧
      (process m.blotted d.blotted).2.blotted = (process m d).2.blotted := by
  have ha := d.seen_answer hm
  have hs : d.blotted.stalled = d.stalled := rfl
  unfold process
  rw [hs]
  split
  · exact ⟨rfl, d.blotted_blotted⟩
  · revert ha
    cases d.answer m with
    | error e =>
      cases d.blotted.answer m.blotted with
      | error e' =>
        intro ha
        cases ha
        exact ⟨rfl, d.blotted_blotted⟩
      | ok y =>
        intro ha
        cases ha
    | ok x =>
      cases d.blotted.answer m.blotted with
      | error e' =>
        intro ha
        cases ha
      | ok y =>
        intro ha
        obtain ⟨hr, hd⟩ := Prod.mk.inj (Except.ok.inj ha)
        exact ⟨congrArg (fun reply => Except.ok (some reply)) hr, hd⟩

theorem act_blotted {s : Stimulus} (hs : s.usesKeys = false) :
    d.blotted.outcome s.blotted = d.outcome s ∧ (d.blotted.act s.blotted).blotted = (d.act s).blotted := by
  cases s with
  | request m => exact d.process_blotted hs
  | stall stalled => exact ⟨rfl, blotted_blotted { d with stalled := stalled }⟩
  | plug plugged => exact ⟨rfl, blotted_blotted { d with plugged := plugged }⟩

end Blotted

variable {d d' : Device}

theorem view_congr (h : d.blotted = d'.blotted) : d.view = d'.view := by
  rw [← d.view_blotted, h, d'.view_blotted]

theorem act_congr {s s' : Stimulus} (h : d.blotted = d'.blotted) (hs : s.Alike s') (hk : s.usesKeys = false) :
    d.outcome s = d'.outcome s' ∧ (d.act s).blotted = (d'.act s').blotted := by
  obtain ⟨ho, hd⟩ := d.act_blotted hk
  obtain ⟨ho', hd'⟩ := d'.act_blotted (hs.usesKeys_eq ▸ hk)
  rw [h, hs.blotted_eq] at ho hd
  exact ⟨ho.symm.trans ho', hd.symm.trans hd'⟩

theorem watch_congr {stimuli stimuli' : List Stimulus} (h : d.blotted = d'.blotted)
    (hs : List.Forall₂ Stimulus.Alike stimuli stimuli') (hk : ∀ s ∈ stimuli, s.usesKeys = false) :
    d.watch stimuli = d'.watch stimuli' := by
  induction hs generalizing d d' with
  | nil => rfl
  | cons hs _ ih =>
    obtain ⟨ho, hd⟩ := act_congr h hs (hk _ List.mem_cons_self)
    have hr := ih hd fun s hm => hk s (List.mem_cons_of_mem _ hm)
    rw [watch, watch, ho, view_congr hd, hr]

/-- Two devices that are made with different secrets, and given different entropy and words, are seen to do the same at
    every step, as long as nobody asks for what their keys are for. -/
theorem secrets_not_told (profile : Profile) (pin label : Value) (mnemonic mnemonic' : String)
    (entropy entropy' : Bytes) {stimuli stimuli' : List Stimulus}
    (hs : List.Forall₂ Stimulus.Alike stimuli stimuli') (hk : ∀ s ∈ stimuli, s.usesKeys = false) :
    (fresh profile pin mnemonic entropy label).watch stimuli =
      (fresh profile pin mnemonic' entropy' label).watch stimuli' := by
  have hd : (fresh profile pin mnemonic entropy label).blotted =
      (fresh profile pin mnemonic' entropy' label).blotted := by
    cases profile with
    | initialised => simp only [fresh, blotted, Option.map_some]
    | wiped => rfl
  exact watch_congr hd hs hk

def begun (host : Bytes) (word : String) : List Stimulus :=
  [.request (.resetDevice { pinProtection := .truth false }), .request (.entropyAck host),
    .request (.wordAck (.text word))]

theorem begun_not_told :
    walletEntropy [1] [3] 128 ≠ walletEntropy [2] [4] 128 ∧
      List.Forall₂ Stimulus.Alike (begun [3] "one") (begun [4] "two") ∧
      (∀ s ∈ begun [3] "one", s.usesKeys = false) ∧
      (fresh .wiped (.text defaultPin) "" [1] (.text defaultLabel)).watch (begun [3] "one") =
        (fresh .wiped (.text defaultPin) "" [2] (.text defaultLabel)).watch (begun [4] "two") := by
  have hs : List.Forall₂ Stimulus.Alike (begun [3] "one") (begun [4] "two") := by
    unfold begun
    exact .cons (.request (.same _)) (.cons (.request (.entropyAck _ _)) (.cons (.request (.wordAck _ _)) .nil))
  have hk : ∀ s ∈ begun [3] "one", s.usesKeys = false := by decide
  exact ⟨by decide +kernel, hs, hk, secrets_not_told .wiped (.text defaultPin) (.text defaultLabel) "" "" [1] [2] hs hk⟩

end Device

end HardwareWallet
