import HardwareWallet.Client
import HardwareWallet.Proofs.Attempt
import HardwareWallet.Proofs.Channel.Subscribers

namespace HardwareWallet

open Attempt

namespace Session

variable {τ : Type} [Transport τ]

structure Invariant (I : Session τ → Prop) : Prop where
  channel : ∀ s acts, I s → I { s with channel := s.channel.run acts }
  log : ∀ s log, I s → I { s with log := log }
  countAttempt : ∀ s, I s → I (Client.countAttempt s)
  attach : Keeps I attach
  connect : Keeps I connect
  disconnect : Keeps I disconnect
  call : ∀ m, Keeps I (call m)

end Session

namespace Client

inductive Operation where
  | attach
  | connect
  | disconnect
  | close
  | subscribe (capacity : Value)
  | unsubscribe (h : Handle)
  | drain (h : Handle)
  | initialise
  | hierarchy (path : Value)
  | pinMatrixAck (pin : Value)
  | wipeDevice
  | resetDevice (r : ResetRequest)
  | entropyAck (entropy : Argument Bytes)
  | wordAck (word : Value)
  | cipherKeyValue (a : CipherArguments)
  | buttonAck
  | cancel
  | ping (text pinProtection : Value)
  | clearSession
  | call (m : Message)

variable {τ : Type} [Transport τ]

def Operation.perform (c : Client τ) : Operation → Client τ
  | attach => (Client.attach c).2
  | connect => (Client.connect c).2
  | disconnect => (Client.disconnect c).2
  | close => (Client.close c).2
  | subscribe capacity => (Client.subscribe capacity c).2
  | unsubscribe h => Client.unsubscribe h c
  | drain h => (Client.drain h c).2
  | initialise => (Client.initialise c).2
  | hierarchy path => (Client.hierarchy path c).2
  | pinMatrixAck pin => (Client.pinMatrixAck pin c).2
  | wipeDevice => (Client.wipeDevice c).2
  | resetDevice r => (Client.resetDevice r c).2
  | entropyAck entropy => (Client.entropyAck entropy c).2
  | wordAck word => (Client.wordAck word c).2
  | cipherKeyValue a => (Client.cipherKeyValue a c).2
  | buttonAck => (Client.buttonAck c).2
  | cancel => (Client.cancel c).2
  | ping text pinProtection => (Client.ping text pinProtection c).2
  | clearSession => (Client.clearSession c).2
  | call m => (Client.call m c).2

def Operation.attempt : Operation → Attempt (Client τ) Unit
  | attach => void Client.attach
  | connect => void Client.connect
  | disconnect => Client.disconnect
  | close => Client.close
  | subscribe capacity => void (Client.subscribe capacity)
  | unsubscribe h => modify (Client.unsubscribe h)
  | drain h => void (Client.drain h)
  | initialise => void Client.initialise
  | hierarchy path => Client.hierarchy path
  | pinMatrixAck pin => Client.pinMatrixAck pin
  | wipeDevice => Client.wipeDevice
  | resetDevice r => Client.resetDevice r
  | entropyAck entropy => Client.entropyAck entropy
  | wordAck word => Client.wordAck word
  | cipherKeyValue a => Client.cipherKeyValue a
  | buttonAck => Client.buttonAck
  | cancel => Client.cancel
  | ping text pinProtection => Client.ping text pinProtection
  | clearSession => Client.clearSession
  | call m => void (Client.call m)

theorem attempt_snd (o : Operation) (c : Client τ) : (o.attempt c).2 = o.perform c := by
  cases o
  case attach | connect | subscribe | drain | initialise | call => exact void_snd _ c
  all_goals rfl

section Keeps

variable {I : Session τ → Prop}

omit [Transport τ] in
theorem keeps_onSession {α : Type} {x : Attempt (Session τ) α} (hx : Keeps I x) :
    Keeps (fun c : Client τ => I c.session) (onSession x) :=
  keeps_onPart hx fun _ _ => rfl

section Log

variable (hl : ∀ s log, I s → I { s with log := log })

include hl

omit [Transport τ] in
theorem keeps_note (notices : List Notice) : Keeps (fun c : Client τ => I c.session) (note notices) :=
  keeps_onSession (keeps_modify fun s h => hl s _ h)

omit [Transport τ] in
theorem keeps_checkFeatures (f : Features) : Keeps (fun c : Client τ => I c.session) (checkFeatures f) := by
  refine keeps_bind ?_ fun _ => ?_
  · exact keeps_ite (keeps_pure ()) (keeps_ite (keeps_note hl _) (keeps_fail _))
  · refine keeps_ite (keeps_pure ()) (keeps_bind (keeps_ofExcept _) fun outdated => ?_)
    exact keeps_ite (keeps_note hl _) (keeps_pure ())

end Log

variable (hI : Session.Invariant I)

include hI

theorem keeps_request (m : Message) : Keeps (fun c : Client τ => I c.session) (request m) :=
  keeps_bind (keeps_onSession (hI.call m)) fun _ => keeps_pure ()

theorem keeps_initialise : Keeps (fun c : Client τ => I c.session) initialise := by
  apply keeps_bind (keeps_onSession (hI.call _))
  intro reply
  split
  · exact keeps_bind (keeps_checkFeatures hI.log _) fun _ => keeps_pure _
  · exact keeps_pure _

theorem keeps_hierarchy (path : Value) : Keeps (fun c : Client τ => I c.session) (hierarchy path) :=
  keeps_bind (keeps_ofExcept _) fun _ => keeps_request hI _

theorem keeps_pinMatrixAck (pin : Value) : Keeps (fun c : Client τ => I c.session) (pinMatrixAck pin) := by
  cases pin with
  | text pin =>
    refine keeps_bind keeps_get fun c => keeps_ite ?_ ?_
    · exact keeps_bind (keeps_onSession (keeps_modify hI.countAttempt)) fun _ => keeps_request hI _
    · exact keeps_bind (keeps_note hI.log _) fun _ =>
        keeps_onSession (keeps_modify fun s h => hI.log _ _ (hI.channel s [.publish _] h))
  | _ => exact keeps_fail _

theorem keeps_cipherKeyValue (a : CipherArguments) :
    Keeps (fun c : Client τ => I c.session) (cipherKeyValue a) :=
  keeps_bind keeps_get fun _ => keeps_bind (keeps_ofExcept _) fun _ => keeps_request hI _

theorem Operation.keeps {c : Client τ} (h : I c.session) (o : Operation) : I (o.perform c).session := by
  cases o with
  | attach => exact keeps_onSession hI.attach c h
  | connect => exact keeps_onSession hI.connect c h
  | disconnect => exact keeps_onSession hI.disconnect c h
  | close => exact keeps_onSession hI.disconnect c h
  | subscribe capacity =>
    have hs := hI.channel _ [.subscribe capacity] h
    simp only [Channel.run_cons, Channel.run_nil, Channel.act] at hs
    simp only [perform, Client.subscribe]
    cases hc : c.session.channel.subscribe capacity with
    | error e => exact h
    | ok result =>
      rw [hc] at hs
      exact hs
  | unsubscribe handle => exact hI.channel _ [.demand handle .close] h
  | drain handle => exact hI.channel _ [.demand handle .drain] h
  | initialise => exact keeps_initialise hI c h
  | hierarchy path => exact keeps_hierarchy hI path c h
  | pinMatrixAck pin => exact keeps_pinMatrixAck hI pin c h
  | wipeDevice => exact keeps_request hI _ c h
  | resetDevice r => exact keeps_ite (keeps_request hI _) (keeps_fail _) c h
  | entropyAck entropy =>
    cases entropy with
    | proper entropy => exact keeps_request hI _ c h
    | other given => exact keeps_fail (I := fun c : Client τ => I c.session) _ c h
  | wordAck word =>
    cases word with
    | text word => exact keeps_request hI _ c h
    | _ => exact keeps_fail (I := fun c : Client τ => I c.session) _ c h
  | cipherKeyValue a => exact keeps_cipherKeyValue hI a c h
  | buttonAck => exact keeps_request hI _ c h
  | cancel => exact keeps_request hI _ c h
  | ping text pinProtection => exact keeps_request hI _ c h
  | clearSession => exact keeps_request hI _ c h
  | call m => exact keeps_onSession (hI.call m) c h

end Keeps

end Client

end HardwareWallet
