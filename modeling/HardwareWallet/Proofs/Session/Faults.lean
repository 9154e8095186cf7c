import HardwareWallet.Proofs.Device.Faults
import HardwareWallet.Proofs.Session.Turn

namespace HardwareWallet

open Attempt

namespace Transport

/-- A link that never fails with an error that blames the caller. -/
structure Sparing (τ : Type) [Transport τ] : Prop where
  disconnect (l : τ) : Spares (Transport.disconnect l).1
  write (request : Message) (l : τ) : Spares (Transport.write request l).1
  read (timeout : Timeout) (l : τ) : Spares (Transport.read timeout l).1

theorem Sparing.exchange {τ : Type} [Transport τ] (h : Sparing τ) (request : Message) (timeout : Timeout) (l : τ) :
    Spares (Transport.exchange request timeout l).1 :=
  failsIn_bind (h.write request) (fun _ => h.read timeout) l

end Transport

theorem ResetProgress.faults_wordCountOf (strength : Value) : Faults (wordCountOf strength) := by
  rw [wordCountOf]
  split
  · exact errorsIn_ok _
  · exact faults_error rfl

theorem ResetProgress.faults_observe (before : Option ResetProgress) (request reply : Message) :
    Faults (ResetProgress.observe before request reply) := by
  unfold ResetProgress.observe
  split
  case h_3 | h_4 => exact errorsIn_map (faults_wordCountOf _) _
  case h_6 | h_8 => split <;> exact errorsIn_ok _
  all_goals exact errorsIn_ok _

theorem Progress.faults_observe (p : Progress) (request reply : Message) : Faults (p.observe request reply).2.2 := by
  have h := ResetProgress.faults_observe p.reset request reply
  rw [observe]
  cases ho : ResetProgress.observe p.reset request reply with
  | error e => exact errorsIn_error (h e ho)
  | ok result => exact errorsIn_ok ()

namespace Session

variable {τ : Type} [Transport τ] (hτ : Transport.Sparing τ)

include hτ

end Session

end HardwareWallet
