import HardwareWallet.Proofs.Device.History

namespace HardwareWallet

namespace Exchange

def asksEntropy : Exchange → Bool
  | ⟨_, .entropyRequest⟩ => true
  | _ => false

def endsCreation : Exchange → Bool
  | ⟨.initialise, _⟩ => true
  | ⟨.cancel, _⟩ => true
  | ⟨.wipeDevice, _⟩ => true
  | ⟨.resetDevice _, .pinMatrixRequest _⟩ => true
  | ⟨.wordAck _, .success _⟩ => true
  | _ => false

end Exchange

def UnderWay (past : List Exchange) : Prop :=
  Lasts (fun _ x => x.asksEntropy = true) Exchange.endsCreation past

theorem underWay_concat {past : List Exchange} {x : Exchange} :
    UnderWay (past ++ [x]) ↔ x.asksEntropy = true ∨ x.endsCreation = false ∧ UnderWay past :=
  lasts_concat

namespace Device

def InCreation (d : Device) : Prop :=
  d.phase = some .entropy ∨ d.phase = some .words

variable {past : List Exchange} {d d' : Device} {m reply : Message}

theorem underWay_aside {x : Exchange} (h : UnderWay past ↔ d.InCreation) (ha : x.asksEntropy = false)
    (he : x.endsCreation = false) (hp : d'.phase = d.phase) : UnderWay (past ++ [x]) ↔ d'.InCreation := by
  have hd : d'.InCreation ↔ d.InCreation := by rw [InCreation, InCreation, hp]
  rw [underWay_concat, hd, ← h]
  simp [ha, he]

theorem underWay_ended {x : Exchange} (ha : x.asksEntropy = false) (he : x.endsCreation = true)
    (hd : ¬ d'.InCreation) : UnderWay (past ++ [x]) ↔ d'.InCreation := by
  rw [underWay_concat]
  simp [ha, he, hd]

theorem underWay_unmoved (h : UnderWay past ↔ d.InCreation) (hu : d.Unmoved m reply) :
    UnderWay (past ++ [⟨m, reply⟩]) ↔ d.InCreation := by
  cases hu with
  | unknown hm =>
    cases m <;> first
      | exact Bool.noConfusion hm
      | exact underWay_aside h rfl rfl rfl
  | _ => exact underWay_aside h rfl rfl rfl

theorem underWay_reaction (h : UnderWay past ↔ d.InCreation) (hr : d.Reaction m reply d') :
    UnderWay (past ++ [⟨m, reply⟩]) ↔ d'.InCreation := by
  cases hr with
  | unmoved hu => exact underWay_unmoved h hu
  | resumed he hw => exact underWay_ended rfl rfl (by simp [InCreation, he, hw])
  | abandoned => exact underWay_ended rfl rfl (by cases d.seed <;> simp [InCreation])
  | cancelledIdle hp => exact underWay_ended rfl rfl (by rcases hp with hp | hp <;> simp [InCreation, hp])
  | cancelled => exact underWay_ended rfl rfl (by simp [InCreation])
  | pinChosen _ hp =>
    rw [underWay_concat]
    simp [Exchange.asksEntropy, Exchange.endsCreation, h, InCreation, hp]
  | pinRepeated | resetWithoutPin =>
    rw [underWay_concat]
    simp [Exchange.asksEntropy, InCreation]
  | wiped => exact underWay_ended rfl rfl (by simp [InCreation, wipe])
  | resetWithPin => exact underWay_ended rfl rfl (by simp [InCreation])
  | entropyTaken hp =>
    rw [underWay_concat]
    simp [Exchange.asksEntropy, Exchange.endsCreation, confirmation, h, InCreation, hp]
  | walletMade => exact underWay_ended rfl rfl (by simp [InCreation])
  | _ => exact underWay_aside h rfl rfl rfl

end Device

end HardwareWallet
