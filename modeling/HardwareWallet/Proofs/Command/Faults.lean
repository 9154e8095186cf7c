import HardwareWallet.Command.Flow
import HardwareWallet.Proofs.Device.Faults

namespace HardwareWallet

theorem Error.isPlain_showing {e : Error} (h : e.kind.IsPlain) (v : Value) : (e.showing v).kind.IsPlain := by
  rw [showing]
  split
  · exact h
  · decide

theorem plain_showing {α : Type} {e : Error} (h : decide e.kind.IsPlain = true) (v : Value) :
    Plain (.error (e.showing v) : Except Error α) :=
  errorsIn_error (Error.isPlain_showing (of_decide_eq_true h) v)

namespace Value

theorem plain_comparable (operator : String) (v : Value) : Plain (v.comparable operator) := by
  rw [comparable]
  split
  · exact errorsIn_ok _
  · exact plain_error rfl

theorem plain_members (v : Value) : Plain v.members := by
  unfold members
  split
  case h_4 => exact plain_error rfl
  all_goals exact errorsIn_ok _

end Value

namespace Path

theorem plain_bits (v : Value) : Plain (bits v) :=
  errorsIn_bits (by decide) v

theorem plain_hardened (v : Value) : Plain (hardened v) :=
  errorsIn_bind (plain_bits v) fun _ => errorsIn_ok _

theorem plain_componentText (mark v : Value) : Plain (componentText mark v) := by
  refine errorsIn_bind (plain_bits v) fun i => ?_
  dsimp only
  split
  · exact plain_error rfl
  · cases mark with
    | text s => exact errorsIn_ok _
    | _ =>
      dsimp only
      split
      · exact plain_error rfl
      · exact errorsIn_ok _

theorem plain_shown (path : Path) : Plain path.shown :=
  errorsIn_bind (Value.plain_members _) fun _ =>
    errorsIn_bind (errorsIn_mapM fun v _ => plain_componentText _ v) fun _ => errorsIn_ok _

theorem plain_ofItem (v : Value) : Plain (ofItem v) := by
  rw [ofItem]
  split
  · split
    · exact errorsIn_ok _
    · exact plain_showing rfl v
  · exact plain_showing rfl v

theorem plain_ofArgument (given : Value) : Plain (ofArgument given) := by
  unfold ofArgument
  split
  · split
    · exact errorsIn_ok _
    · exact plain_error rfl
  · exact plain_error rfl
  · exact errorsIn_bind (Value.plain_members _) fun _ => errorsIn_mapM fun v _ => plain_ofItem v

theorem plain_changeLevel (purpose : Argument KeyPurpose) : Plain (changeLevel purpose) := by
  cases purpose with
  | proper p => exact errorsIn_ok _
  | other v => exact plain_showing rfl v

theorem plain_checkIndexes (keyIndex subIndex : Value) : Plain (checkIndexes keyIndex subIndex) := by
  refine errorsIn_bind (Value.plain_comparable _ _) fun key => ?_
  dsimp only
  split
  · exact plain_error rfl
  · refine errorsIn_bind (Value.plain_comparable _ _) fun sub => ?_
    split
    · exact plain_error rfl
    · exact errorsIn_ok _

theorem plain_ofCipherKey (keyIndex : Value) (purpose : Argument KeyPurpose) (subIndex : Value) (chain : Chain) :
    Plain (ofCipherKey keyIndex purpose subIndex chain) :=
  errorsIn_bind (plain_checkIndexes _ _) fun _ => errorsIn_bind (plain_hardened _) fun _ =>
    errorsIn_bind (plain_changeLevel _) fun _ => errorsIn_ok _

end Path

namespace Firmware

theorem plain_versionNumber (v : Value) : Plain (versionNumber v) := by
  unfold versionNumber
  split
  case h_1 =>
    split
    · exact errorsIn_ok _
    · exact plain_error rfl
  case h_2 | h_5 => exact errorsIn_ok _
  all_goals exact plain_error rfl

theorem plain_version (f : Features) : Plain (version f) := by
  refine errorsIn_bind (errorsIn_mapM fun v _ => plain_versionNumber v) fun numbers => ?_
  split
  · exact plain_error rfl
  · exact errorsIn_ok _

theorem plain_required? (model : Value) : Plain (required? model) := by
  unfold required?
  dsimp only
  split
  · exact errorsIn_ok _
  · split
    case h_2 | h_3 => exact plain_error rfl
    all_goals exact errorsIn_ok _

theorem plain_isOutdated (f : Features) : Plain (isOutdated f) := by
  refine errorsIn_bind (plain_required? _) fun required => ?_
  split
  · exact errorsIn_ok _
  · exact errorsIn_bind (plain_version f) fun _ => errorsIn_ok _

end Firmware

theorem Features.plain_fullReport (f : Features) : Plain f.fullReport := by
  rw [fullReport]
  split
  · exact errorsIn_ok _
  · exact plain_error rfl

theorem ExtendedKey.plain_ofNode (node : PublicNode) (testnet : Bool) : Plain (ofNode node testnet) := by
  rw [ofNode]
  split
  · exact plain_error rfl
  · split
    · exact errorsIn_ok _
    · exact plain_error rfl

namespace Client

theorem plain_addressOf (path : Value) : Plain (addressOf path) := by
  refine errorsIn_bind (Path.plain_ofArgument path) fun address => ?_
  dsimp only
  split
  · exact errorsIn_bind (Path.plain_shown address) fun _ => plain_error rfl
  · exact errorsIn_ok _

theorem plain_request (a : CipherArguments) (chain : Chain) : Plain (a.request chain) := by
  unfold CipherArguments.request
  split
  · exact errorsIn_bind (Path.plain_ofCipherKey _ _ _ _) fun _ => errorsIn_ok _
  · exact plain_showing rfl _
  all_goals exact plain_error rfl

theorem plain_valueBytes (v : Value) : Plain (valueBytes v) := by
  unfold valueBytes
  split
  · split
    · exact errorsIn_ok _
    · exact plain_error rfl
  · exact plain_error rfl

theorem plain_labelBytes (v : Value) : Plain (labelBytes v) := by
  unfold labelBytes
  split
  · exact errorsIn_ok _
  · exact plain_error rfl

end Client

end HardwareWallet
