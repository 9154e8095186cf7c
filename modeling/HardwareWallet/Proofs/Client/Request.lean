import HardwareWallet.Proofs.Client.Operation
import HardwareWallet.Proofs.Session.Exchange

/-!
What an operation of a client asks of the device: one request, unless its arguments or the policy forbid it, or nothing.
Whatever the link, a client is left with what its session makes of that one request.
-/

namespace HardwareWallet.Client

open Attempt

variable {τ : Type} [Transport τ]

def Operation.request? (c : Client τ) : Operation → Option Message
  | initialise => some .initialise
  | hierarchy path => (addressOf path).toOption.map fun address => .getPublicKey address (.truth false)
  | pinMatrixAck (.text pin) =>
    if c.progress.authentication.allowsAttempt then some (.pinMatrixAck (.text pin)) else none
  | wipeDevice => some .wipeDevice
  | resetDevice r => if r.strength.number?.any ResetRequest.isStrength then some (.resetDevice r) else none
  | entropyAck (.proper entropy) => some (.entropyAck entropy)
  | wordAck (.text word) => some (.wordAck (.text word))
  | cipherKeyValue a => (a.request c.chain).toOption.map .cipherKeyValue
  | buttonAck => some .buttonAck
  | cancel => some .cancel
  | ping text pinProtection => some (.ping text (.truth false) pinProtection)
  | clearSession => some .clearSession
  | call m => some m
  | _ => none

omit [Transport τ] in
theorem request?_congr {τ' : Type} {c : Client τ} {c' : Client τ'} (hc : c'.chain = c.chain)
    (hp : c'.progress = c.progress) (o : Operation) : o.request? c' = o.request? c := by
  cases o with
  | pinMatrixAck pin => cases pin <;> simp only [Operation.request?, hp]
  | cipherKeyValue a => simp only [Operation.request?, hc]
  | entropyAck entropy => cases entropy <;> rfl
  | wordAck word => cases word <;> rfl
  | _ => rfl

def heard (c : Client τ) (o : Operation) : List Exchange :=
  ((o.request? c).bind c.session.exchange?).toList

def Operation.countsAttempt (c : Client τ) : Operation → Bool
  | pinMatrixAck (.text _) => c.progress.authentication.allowsAttempt
  | _ => false

def Operation.sending (c : Client τ) (o : Operation) : Session τ :=
  if o.countsAttempt c then countAttempt c.session else c.session

structure Operation.Follows (c : Client τ) (o : Operation) (m : Message) (k : Message → Attempt (Client τ) Unit) :
    Prop where
  attempt : o.attempt c = (Client.call m >>= k) { c with session := o.sending c }
  logged : ∀ reply c', ∃ log, (k reply c').2.session = { c'.session with log := log }

/-- All that an operation can do with the session of a client. -/
inductive Operation.Performed (c : Client τ) (o : Operation) : Session τ → Prop where
  | aside (hr : o.request? c = none) (channel : Channel) (log : List Notice) :
      Performed c o { c.session with channel := channel, log := log }
  | attached (hr : o.request? c = none) : Performed c o (Session.attach c.session).2
  | connected (hr : o.request? c = none) : Performed c o (Session.connect c.session).2
  | disconnected (hr : o.request? c = none) : Performed c o (Session.disconnect c.session).2
  | asked (m : Message) (hr : o.request? c = some m) (hp : ∀ pin, m = .pinMatrixAck pin → o = .call m)
      (log : List Notice) : Performed c o { (Session.call m c.session).2 with log := log }
  | pinSent (pin : String) (hr : o.request? c = some (.pinMatrixAck (.text pin)))
      (ha : c.progress.authentication.allowsAttempt = true) :
      Performed c o (Session.call (.pinMatrixAck (.text pin)) (countAttempt c.session)).2

section Performed

variable {c : Client τ} {o : Operation} {m : Message}

theorem heard_of_request (hr : o.request? c = some m) : c.heard o = (c.session.exchange? m).toList := by
  rw [heard, hr]
  rfl

theorem heard_of_none (hr : o.request? c = none) : c.heard o = [] := by
  rw [heard, hr]
  rfl

theorem mem_heard {x : Exchange} : x ∈ c.heard o ↔ ∃ m, o.request? c = some m ∧ c.session.exchange? m = some x := by
  rw [heard, Option.mem_toList]
  exact Option.bind_eq_some_iff

theorem session_request (m : Message) (c : Client τ) : (request m c).2.session = (Session.call m c.session).2 := by
  have hc : call m c = ((Session.call m c.session).1, { c with session := (Session.call m c.session).2 }) := rfl
  rw [request, bind_apply, hc]
  cases (Session.call m c.session).1 <;> rfl

omit [Transport τ] in
theorem session_checkFeatures (f : Features) (c : Client τ) :
    ∃ log, (checkFeatures f c).2.session = { c.session with log := log } :=
  keeps_checkFeatures (I := fun s => ∃ log, s = { c.session with log := log }) (fun _ log ⟨_, h⟩ => ⟨log, h ▸ rfl⟩) f c
    ⟨c.session.log, rfl⟩

omit [Transport τ] in
theorem countsAttempt_iff : o.countsAttempt c = true ↔
    (∃ pin, o = .pinMatrixAck (.text pin)) ∧ c.progress.authentication.allowsAttempt = true := by
  constructor
  · intro h
    unfold Operation.countsAttempt at h
    split at h
    · exact ⟨⟨_, rfl⟩, h⟩
    · cases h
  · rintro ⟨⟨pin, rfl⟩, h⟩
    exact h

omit [Transport τ] in
theorem not_counted_of_none (hr : o.request? c = none) : o.countsAttempt c = false := by
  rw [← Bool.not_eq_true, countsAttempt_iff]
  rintro ⟨⟨pin, rfl⟩, ha⟩
  rw [Operation.request?, if_pos ha] at hr
  cases hr

omit [Transport τ] in
theorem sending_of_not_counted (h : o.countsAttempt c = false) : o.sending c = c.session :=
  if_neg (by simp [h])

omit [Transport τ] in
theorem sending_eq (c : Client τ) (o : Operation) :
    ∃ progress, o.sending c = { c.session with progress := progress } := by
  unfold Operation.sending
  split
  · exact ⟨_, rfl⟩
  · exact ⟨c.progress, rfl⟩

theorem exchange?_sending (m : Message) : (o.sending c).exchange? m = c.session.exchange? m := by
  obtain ⟨p, h⟩ := sending_eq c o
  rw [h]
  rfl

omit [Transport τ] in
theorem sending_cases (c : Client τ) (o : Operation) : o.sending c = c.session ∨
    (∃ pin, o = .pinMatrixAck (.text pin)) ∧ o.sending c = countAttempt c.session := by
  cases h : o.countsAttempt c with
  | false => exact .inl (sending_of_not_counted h)
  | true => exact .inr ⟨(countsAttempt_iff.mp h).1, if_pos h⟩

theorem follows_of_request (h : o.attempt c = request m { c with session := o.sending c }) :
    ∃ k, o.Follows c m k :=
  ⟨fun _ => pure (), h, fun _ c' => ⟨c'.session.log, rfl⟩⟩

theorem follows_initialise (c : Client τ) : ∃ k, Operation.initialise.Follows c .initialise k := by
  refine ⟨_, void_bind _ _ c, ?_⟩
  intro reply c'
  rw [void_snd]
  split
  · rename_i f
    have hl := session_checkFeatures f c'
    rw [bind_apply]
    revert hl
    rcases checkFeatures f c' with ⟨_ | _, _⟩
    · exact id
    · exact id
  · exact ⟨c'.session.log, rfl⟩

theorem hierarchy_of_request {path : Value} (hr : (Operation.hierarchy path).request? c = some m) :
    hierarchy path c = request m c := by
  cases ha : addressOf path with
  | error e => simp [Operation.request?, ha, Except.toOption] at hr
  | ok address =>
    obtain rfl : Message.getPublicKey address (.truth false) = m := by
      simpa [Operation.request?, ha, Except.toOption] using hr
    rw [hierarchy, bind_apply, Attempt.ofExcept, ha]

theorem pinMatrixAck_allowed {pin : String} (ha : c.progress.authentication.allowsAttempt = true) :
    pinMatrixAck (.text pin) c = request (.pinMatrixAck (.text pin)) { c with session := countAttempt c.session } := by
  simp only [pinMatrixAck, get_bind, ha, ↓reduceIte]
  rfl

theorem pinMatrixAck_of_request {pin : Value} (hr : (Operation.pinMatrixAck pin).request? c = some m) :
    pinMatrixAck pin c = request m { c with session := (Operation.pinMatrixAck pin).sending c } := by
  cases pin with
  | text pin =>
    simp only [Operation.request?, Option.ite_none_right_eq_some, Option.some.injEq] at hr
    obtain ⟨ha, rfl⟩ := hr
    have hs : (Operation.pinMatrixAck (.text pin)).sending c = countAttempt c.session := if_pos ha
    rw [hs, pinMatrixAck_allowed ha]
  | _ => cases hr

theorem cipherKeyValue_of_request {a : CipherArguments} (hr : (Operation.cipherKeyValue a).request? c = some m) :
    cipherKeyValue a c = request m c := by
  cases ha : a.request c.chain with
  | error e => simp [Operation.request?, ha, Except.toOption] at hr
  | ok r =>
    obtain rfl : Message.cipherKeyValue r = m := by simpa [Operation.request?, ha, Except.toOption] using hr
    simp only [cipherKeyValue, get_bind, ha]
    rfl

theorem attempt_of_request (hr : o.request? c = some m) (hi : o ≠ .initialise) :
    o.attempt c = request m { c with session := o.sending c } := by
  cases o with
  | initialise => exact absurd rfl hi
  | hierarchy path => exact hierarchy_of_request hr
  | pinMatrixAck pin => exact pinMatrixAck_of_request hr
  | cipherKeyValue a => exact cipherKeyValue_of_request hr
  | resetDevice r =>
    simp only [Operation.request?, Option.ite_none_right_eq_some, Option.some.injEq] at hr
    obtain ⟨hs, rfl⟩ := hr
    rw [Operation.attempt, Client.resetDevice, if_pos hs]
    rfl
  | entropyAck entropy =>
    cases entropy with
    | proper entropy => exact Option.some.inj hr ▸ rfl
    | other given => cases hr
  | wordAck word =>
    cases word with
    | text word => exact Option.some.inj hr ▸ rfl
    | _ => cases hr
  | wipeDevice | buttonAck | cancel | ping | clearSession | call => exact Option.some.inj hr ▸ rfl
  | _ => cases hr

theorem Operation.follows (hr : o.request? c = some m) : ∃ k, o.Follows c m k := by
  by_cases hi : o = .initialise
  · subst hi
    exact Option.some.inj hr ▸ follows_initialise c
  · exact follows_of_request (attempt_of_request hr hi)

theorem session_perform (hr : o.request? c = some m) :
    ∃ log, (o.perform c).session = { (Session.call m (o.sending c)).2 with log := log } := by
  obtain ⟨k, hk⟩ := Operation.follows hr
  have hc : call m { c with session := o.sending c } =
      ((Session.call m (o.sending c)).1, { c with session := (Session.call m (o.sending c)).2 }) := rfl
  rw [← attempt_snd, hk.attempt, bind_apply, hc]
  rcases (Session.call m (o.sending c)).1 with e | reply
  · exact ⟨_, rfl⟩
  · exact hk.logged reply _

theorem attempt_of_error {e : Error} {s : Session τ} (hr : o.request? c = some m)
    (h : Session.call m (o.sending c) = (.error e, s)) : o.attempt c = (.error e, { c with session := s }) := by
  obtain ⟨k, hk⟩ := Operation.follows hr
  rw [hk.attempt]
  exact bind_of_error k (by rw [call, onSession, onPart, h])

theorem progress_of_request (hr : o.request? c = some m) :
    (o.perform c).progress = (Session.call m (o.sending c)).2.progress := by
  obtain ⟨log, h⟩ := session_perform hr
  rw [progress, h]

theorem Operation.Performed.refused (hr : o.request? c = none) (h : o.perform c = c) :
    o.Performed c (o.perform c).session := by
  rw [h]
  exact .aside hr _ _

theorem performed_of_none (hr : o.request? c = none) : o.Performed c (o.perform c).session := by
  cases o with
  | attach => exact .attached hr
  | connect => exact .connected hr
  | disconnect | close => exact .disconnected hr
  | subscribe capacity =>
    simp only [Operation.perform, Client.subscribe]
    cases c.session.channel.subscribe capacity with
    | error e => exact .aside hr _ _
    | ok result => exact .aside hr _ _
  | unsubscribe | drain => exact .aside hr _ _
  | hierarchy path =>
    refine .refused hr ?_
    rw [Operation.perform, hierarchy, bind_apply, Attempt.ofExcept]
    cases ha : addressOf path with
    | error e => rfl
    | ok address =>
      rw [Operation.request?, ha] at hr
      cases hr
  | pinMatrixAck pin =>
    cases pin with
    | text pin =>
      have ha : c.progress.authentication.allowsAttempt = false := by simpa [Operation.request?] using hr
      have hs : ((Operation.pinMatrixAck (.text pin)).perform c).session =
          ({ c.session with log := c.session.log ++ [Notice.pinRefused] }.fire .failure
            (some (attemptsExceeded c.progress.authentication.failures))) := by
        simp only [Operation.perform, pinMatrixAck, get_bind, ha, Bool.false_eq_true, ↓reduceIte]
        rfl
      rw [hs]
      exact .aside hr _ _
    | _ => exact .refused hr rfl
  | resetDevice r =>
    have hs : ¬ r.strength.number?.any ResetRequest.isStrength = true := by simpa [Operation.request?] using hr
    exact .refused hr (by rw [Operation.perform, Client.resetDevice, if_neg hs]; rfl)
  | entropyAck entropy =>
    cases entropy with
    | proper entropy => cases hr
    | other given => exact .refused hr rfl
  | wordAck word =>
    cases word with
    | text word => cases hr
    | _ => exact .refused hr rfl
  | cipherKeyValue a =>
    cases ha : a.request c.chain with
    | ok r => simp [Operation.request?, ha, Except.toOption] at hr
    | error e =>
      refine .refused hr ?_
      simp only [Operation.perform, Client.cipherKeyValue, get_bind, ha]
      rfl
  | _ => cases hr

omit [Transport τ] in
theorem call_of_request {pin : Value} (hr : o.request? c = some (.pinMatrixAck pin)) (ha : o.countsAttempt c = false) :
    o = .call (.pinMatrixAck pin) := by
  cases o with
  | call m => rw [Option.some.inj hr]
  | pinMatrixAck given =>
    cases given with
    | text given => simp [Operation.request?, show c.progress.authentication.allowsAttempt = false from ha] at hr
    | _ => cases hr
  | entropyAck entropy => cases entropy <;> cases hr
  | wordAck word => cases word <;> cases hr
  | hierarchy | resetDevice | cipherKeyValue => simp [Operation.request?] at hr
  | _ => cases hr

theorem Operation.performed (o : Operation) (c : Client τ) : o.Performed c (o.perform c).session := by
  cases hr : o.request? c with
  | none => exact performed_of_none hr
  | some m =>
    cases ha : o.countsAttempt c with
    | true =>
      obtain ⟨⟨pin, rfl⟩, ha⟩ := countsAttempt_iff.mp ha
      rw [perform, pinMatrixAck_allowed ha, session_request]
      exact .pinSent pin (if_pos ha) ha
    | false =>
      obtain ⟨log, hl⟩ := session_perform hr
      rw [hl, sending_of_not_counted ha]
      exact .asked m hr (fun pin hm => hm ▸ call_of_request (hm ▸ hr) ha) log

theorem progress_of_none (hr : o.request? c = none) : (o.perform c).progress = c.progress := by
  obtain ⟨s, hs⟩ : ∃ s, (o.perform c).session = s := ⟨_, rfl⟩
  have hp := o.performed c
  unfold progress
  rw [hs] at hp ⊢
  cases hp with
  | aside => rfl
  | attached => exact Session.progress_attach c.session
  | connected => exact Session.progress_connect c.session
  | disconnected => exact Session.progress_disconnect c.session
  | asked m hr' | pinSent m hr' =>
    rw [hr'] at hr
    cases hr

theorem progress_perform (o : Operation) (c : Client τ) :
    (o.perform c).progress = (o.sending c).progress.hear (c.heard o) := by
  cases hr : o.request? c with
  | none =>
    rw [progress_of_none hr, heard_of_none hr, sending_of_not_counted (not_counted_of_none hr)]
    rfl
  | some m => rw [progress_of_request hr, Session.progress_call, exchange?_sending, heard_of_request hr]

end Performed

end HardwareWallet.Client
