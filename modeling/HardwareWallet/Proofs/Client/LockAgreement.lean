import HardwareWallet.Proofs.Client.Lifetime
import HardwareWallet.Proofs.Device.Lock

namespace HardwareWallet

open Device

namespace Exchange

def tellsLock : Exchange → Bool
  | ⟨.initialise, _⟩ => true
  | ⟨.wipeDevice, _⟩ => true
  | ⟨.clearSession, _⟩ => true
  | ⟨.pinMatrixAck _, _⟩ => false
  | ⟨_, .pinMatrixRequest _⟩ => true
  | _ => false

end Exchange

def Misled (past : List Exchange) : Prop :=
  Lasts (fun before x => x.repeatsPin = true ∧ ShutAgain before) Exchange.tellsLock past

theorem misled_concat {past : List Exchange} {x : Exchange} : Misled (past ++ [x]) ↔
    (x.repeatsPin = true ∧ ShutAgain past) ∨ (x.tellsLock = false ∧ Misled past) :=
  lasts_concat

def Believes (past : List Exchange) (d : Device) (unlocked : Value) : Prop :=
  ∃ b, unlocked = .truth b ∧ (b = true → 0 < d.pinAcks) ∧ (Misled past ↔ b = true ∧ d.unlocked = false)

namespace Believes

variable {past : List Exchange} {d d' : Device} {x : Exchange} {m reply : Message} {unlocked : Value}

theorem nil (d : Device) : Believes [] d (.truth false) :=
  ⟨false, rfl, nofun, fun h => absurd h not_lasts_nil, fun h => Bool.noConfusion h.1⟩

theorem aside (h : Believes past d unlocked) (hr : x.repeatsPin = false) (ht : x.tellsLock = false)
    (ha : 0 < d.pinAcks → 0 < d'.pinAcks) (hu : d'.unlocked = d.unlocked) :
    Believes (past ++ [x]) d' unlocked := by
  obtain ⟨b, rfl, hb, hm⟩ := h
  refine ⟨b, rfl, fun hb' => ha (hb hb'), ?_⟩
  rw [hu, ← hm, misled_concat]
  simp [hr, ht]

theorem told {b : Bool} (hr : x.repeatsPin = false) (ht : x.tellsLock = true)
    (hb : b = true → d'.unlocked = true ∧ 0 < d'.pinAcks) : Believes (past ++ [x]) d' (.truth b) := by
  refine ⟨b, rfl, fun hb' => (hb hb').2, ?_, ?_⟩
  · rw [misled_concat]
    simp [hr, ht]
  · rintro ⟨hb', hu⟩
    rw [(hb hb').1] at hu
    cases hu

theorem toldLocked (hr : x.repeatsPin = false) (ht : x.tellsLock = true) :
    Believes (past ++ [x]) d' (.truth false) :=
  told hr ht nofun

theorem unmoved {a : Authentication} (h : Believes past d a.unlocked) (hu : d.Unmoved m reply) :
    Believes (past ++ [⟨m, reply⟩]) d (a.observe m reply).1.unlocked := by
  cases hu with
  | pingLocked | cipherLocked => exact toldLocked rfl rfl
  | wrongPin => exact h.aside rfl rfl id rfl
  | unknown hm =>
    cases m <;> first
      | exact Bool.noConfusion hm
      | exact h.aside rfl rfl id rfl
  | _ => exact h.aside rfl rfl id rfl

theorem opened (h : Believes past d unlocked) (hr : x.repeatsPin = false) (ht : x.tellsLock = false)
    (hn : d.pinAcks = 0) (ha : 0 < d'.pinAcks) (hu : d'.unlocked = true) :
    Believes (past ++ [x]) d' (.truth true) := by
  obtain ⟨b, rfl, hb, hm⟩ := h
  have hf : b = false := by
    cases b with
    | false => rfl
    | true => exact absurd (hb rfl) (by omega)
  refine ⟨true, rfl, fun _ => ha, ?_⟩
  rw [misled_concat, hm]
  simp [hr, ht, hf, hu]

theorem repeated (h : Believes past d unlocked) (hl : LockFollows past d) (hr : x.repeatsPin = true)
    (ht : x.tellsLock = false) (hn : d.pinAcks ≠ 0) (ha : 0 < d'.pinAcks) (hu : d'.unlocked = d.unlocked) :
    Believes (past ++ [x]) d' (.truth true) := by
  obtain ⟨b, rfl, hb, hm⟩ := h
  refine ⟨true, rfl, fun _ => ha, ?_⟩
  rw [misled_concat, hm, hl.shutAgain, hu]
  simp only [hr, ht, true_and]
  -- a host that was wrong before is wrong because the lock was shut again
  constructor
  · rintro (⟨-, hs⟩ | ⟨-, hs⟩)
    · exact hs
    · exact hs
  · exact fun hs => .inl ⟨Nat.pos_of_ne_zero hn, hs⟩

theorem unlocked_initialise (a : Authentication) (initialised : Bool) :
    (a.observe .initialise (.features (d.featuresAs initialised))).1.unlocked = .truth d.unlocked := by
  have hb (b : Bool) : (if (Value.truth b).isGiven then Value.truth b
      else .truth !(Value.truth true).isGiven) = .truth b := by cases b <;> rfl
  exact hb d.unlocked

theorem reaction {a : Authentication} (h : Believes past d a.unlocked) (hl : LockFollows past d)
    (hr : d.Reaction m reply d') : Believes (past ++ [⟨m, reply⟩]) d' (a.observe m reply).1.unlocked := by
  cases hr with
  | unmoved hu => exact h.unmoved hu
  | resumed | abandoned =>
    rw [unlocked_initialise]
    exact told rfl rfl fun hu => ⟨hu, hl.acks hu⟩
  | locked | wiped | resetWithPin => exact toldLocked rfl rfl
  | unlocked _ _ _ hn => exact h.opened rfl rfl hn Nat.one_pos rfl
  | pinKnown _ _ _ hn => exact h.repeated hl rfl rfl hn (Nat.succ_pos _) rfl
  | _ => exact h.aside rfl rfl id rfl

end Believes

namespace Progress

theorem believes_hear {p : Progress} (hp : p.authentication.unlocked = .truth false) (profile : Profile)
    (pin : Value) (mnemonic : String) (entropy : Bytes) (label : Value) (stimuli : List Stimulus) :
    let device := Device.fresh profile pin mnemonic entropy label
    Believes (device.exchanges stimuli) (device.run stimuli)
      (p.hear (device.exchanges stimuli)).authentication.unlocked := by
  intro device
  have h := history_induction (d := device)
    (P := fun past d => LockFollows past d ∧ Believes past d (p.hear past).authentication.unlocked)
    ⟨lockFollows_fresh profile pin mnemonic entropy label, hp ▸ .nil device⟩
    (fun _ _ _ h => ⟨⟨h.1.opened, h.1.shutAgain, h.1.acks⟩, h.2⟩)
    (fun _ _ _ h => ⟨⟨h.1.opened, h.1.shutAgain, h.1.acks⟩, h.2⟩)
    (fun past d m reply d' h hr => by
      refine ⟨h.1.reaction hr, ?_⟩
      rw [hear_append]
      exact authentication_observe (p.hear past) m reply ▸ h.2.reaction h.1 hr) stimuli
  exact h.2

end Progress

namespace Client

/-- A client takes a locked device for an unlocked one exactly when a right PIN has been accepted after the lock
    was shut again, and nothing has told it better since. -/
theorem unlocked_in_vain_iff (path : Value) (chain : Chain) (capacity : Value) (policy : PinPolicy)
    (profile : Profile) (pin : Value) (mnemonic : String) (entropy : Bytes) (label : Value) (timeout : Timeout)
    (happenings : List Happening) :
    let c := fresh path chain (Device.fresh profile pin mnemonic entropy label) timeout capacity policy
    ((c.lifetime happenings).progress.authentication.unlocked.isGiven = true ∧
        (c.lifetime happenings).device.unlocked = false) ↔
      timeout.isMeasurable = true ∧ Misled (c.exchanges happenings) := by
  intro c
  have hc : c.session.Tidy := fresh_tidy ..
  cases ht : timeout.isMeasurable with
  | true =>
    obtain ⟨b, hb, -, hm⟩ := Progress.believes_hear (p := c.progress) rfl profile pin mnemonic entropy label
      (c.stimuli happenings)
    have hu : (c.lifetime happenings).progress.authentication.unlocked = .truth b :=
      (Progress.unlocked_congr (lifetime_heard hc happenings ht)).trans hb
    have hd : (c.lifetime happenings).device = (Device.fresh profile pin mnemonic entropy label).run _ :=
      lifetime_device hc happenings
    rw [hu, hd]
    exact hm.symm.trans (by simp; rfl)
  | false =>
    have hu : (c.lifetime happenings).progress.authentication.unlocked = .truth false :=
      Progress.unlocked_congr (lifetime_unheard hc happenings ht)
    rw [hu]
    simp [Value.isGiven]

def unlockTwice : List Happening :=
  [.operation .connect, .operation (.pinMatrixAck (.text defaultPin)), .operation .clearSession,
    .operation (.pinMatrixAck (.text defaultPin))]

theorem unlockTwice_unlocked_in_vain :
    let c := (fresh (.text "direct") .main (ofProfile .initialised) (.seconds (.whole 5)) (.int 100)
      .standard).lifetime unlockTwice
    c.progress.authentication.unlocked.isGiven = true ∧ c.device.unlocked = false := by
  decide +kernel

end Client

end HardwareWallet
