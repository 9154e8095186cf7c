import HardwareWallet.Proofs.Device.History

namespace HardwareWallet

namespace Exchange

def opens : Exchange → Bool
  | ⟨.pinMatrixAck _, .buttonRequest ..⟩ => true
  | _ => false

def repeatsPin : Exchange → Bool
  | ⟨.pinMatrixAck _, .success _⟩ => true
  | _ => false

def clears : Exchange → Bool
  | ⟨.clearSession, _⟩ => true
  | _ => false

def wipes : Exchange → Bool
  | ⟨.wipeDevice, _⟩ => true
  | _ => false

end Exchange

namespace Device

def Opened (past : List Exchange) : Prop :=
  Lasts (fun _ x => x.opens = true) Exchange.wipes past

def ShutAgain (past : List Exchange) : Prop :=
  Lasts (fun before x => x.clears = true ∧ Opened before) Exchange.wipes past

structure LockFollows (past : List Exchange) (d : Device) : Prop where
  opened : Opened past ↔ 0 < d.pinAcks
  shutAgain : ShutAgain past ↔ 0 < d.pinAcks ∧ d.unlocked = false
  acks : d.unlocked = true → 0 < d.pinAcks

variable {past : List Exchange} {d d' : Device} {x : Exchange} {m reply : Message}

theorem lockFollows_fresh (profile : Profile) (pin : Value) (mnemonic : String) (entropy : Bytes) (label : Value) :
    LockFollows [] (fresh profile pin mnemonic entropy label) := by
  have ha : (fresh profile pin mnemonic entropy label).pinAcks = 0 := by cases profile <;> rfl
  have hu : (fresh profile pin mnemonic entropy label).unlocked = false := by cases profile <;> rfl
  refine ⟨⟨fun h => absurd h not_lasts_nil, ?_⟩, ⟨fun h => absurd h not_lasts_nil, ?_⟩, ?_⟩
  · simp [ha]
  · simp [ha]
  · simp [hu]

theorem opened_concat : Opened (past ++ [x]) ↔ x.opens = true ∨ (x.wipes = false ∧ Opened past) :=
  lasts_concat

theorem shutAgain_concat : ShutAgain (past ++ [x]) ↔
    (x.clears = true ∧ Opened past) ∨ (x.wipes = false ∧ ShutAgain past) :=
  lasts_concat

theorem opened_aside (ho : x.opens = false) (hw : x.wipes = false) : Opened (past ++ [x]) ↔ Opened past := by
  rw [opened_concat]
  simp [ho, hw]

theorem shutAgain_aside (hc : x.clears = false) (hw : x.wipes = false) :
    ShutAgain (past ++ [x]) ↔ ShutAgain past := by
  rw [shutAgain_concat]
  simp [hc, hw]

theorem LockFollows.aside (h : LockFollows past d) (ho : x.opens = false) (hc : x.clears = false)
    (hw : x.wipes = false) (hu : d'.unlocked = d.unlocked) (ha : 0 < d'.pinAcks ↔ 0 < d.pinAcks) :
    LockFollows (past ++ [x]) d' where
  opened := by rw [opened_aside ho hw, h.opened, ha]
  shutAgain := by rw [shutAgain_aside hc hw, h.shutAgain, ha, hu]
  acks := by
    rw [hu, ha]
    exact h.acks

theorem LockFollows.wiped (ha : d'.pinAcks = 0) (hu : d'.unlocked = false) (hw : x.wipes = true)
    (ho : x.opens = false) (hc : x.clears = false) : LockFollows (past ++ [x]) d' where
  opened := by
    rw [opened_concat]
    simp [ho, hw, ha]
  shutAgain := by
    rw [shutAgain_concat]
    simp [hc, hw, ha]
  acks := by simp [hu]

theorem LockFollows.unmoved (h : LockFollows past d) (hu : d.Unmoved m reply) :
    LockFollows (past ++ [⟨m, reply⟩]) d := by
  cases hu with
  | unknown hm =>
    cases m <;> first
      | exact Bool.noConfusion hm
      | exact h.aside rfl rfl rfl rfl .rfl
  | _ => exact h.aside rfl rfl rfl rfl .rfl

theorem LockFollows.reaction (h : LockFollows past d) (hr : d.Reaction m reply d') :
    LockFollows (past ++ [⟨m, reply⟩]) d' := by
  cases hr with
  | unmoved hu => exact h.unmoved hu
  | locked =>
    refine ⟨?_, ?_, nofun⟩
    · rw [opened_aside rfl rfl, h.opened]
    · rw [shutAgain_concat, h.opened, h.shutAgain]
      change (true = true ∧ 0 < d.pinAcks) ∨ (false = false ∧ _) ↔ 0 < d.pinAcks ∧ false = false
      simp only [true_and, and_true]
      exact ⟨fun hs => hs.elim id And.left, .inl⟩
  | unlocked _ _ _ hn =>
    refine ⟨?_, ?_, fun _ => Nat.one_pos⟩
    · rw [opened_concat]
      exact ⟨fun _ => Nat.one_pos, fun _ => .inl rfl⟩
    · rw [shutAgain_aside rfl rfl, h.shutAgain]
      simp [hn]
  -- a count goes on, but it was counting before
  | pinKnown _ _ _ hn => exact h.aside rfl rfl rfl rfl ⟨fun _ => Nat.pos_of_ne_zero hn, fun _ => Nat.succ_pos _⟩
  | wiped => exact .wiped rfl rfl rfl rfl rfl
  | _ => exact h.aside rfl rfl rfl rfl .rfl

end Device

end HardwareWallet
