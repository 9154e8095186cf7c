import HardwareWallet.Session.Basic

namespace HardwareWallet

open Attempt

namespace Transport

def Foreseen {α : Type} (r : Except Error α) : Prop :=
  ∀ e, r = .error e → ∃ cause, e = .transport cause

/-- A link fails in the way in which links fail, whatever is done with it. -/
structure Regular (τ : Type) [Transport τ] : Prop where
  disconnect (l : τ) : Foreseen (Transport.disconnect l).1
  write (request : Message) (l : τ) : Foreseen (Transport.write request l).1
  read (timeout : Timeout) (l : τ) : Foreseen (Transport.read timeout l).1

theorem Regular.exchange {τ : Type} [Transport τ] (h : Regular τ) (request : Message)
    (timeout : Timeout) (l : τ) : Foreseen (Transport.exchange request timeout l).1 := by
  have hw := h.write request l
  rw [Transport.exchange, Attempt.bind_apply]
  obtain ⟨r, l', hr⟩ : ∃ r l', Transport.write request l = (r, l') := ⟨_, _, rfl⟩
  rw [hr] at hw ⊢
  cases r with
  | ok => exact h.read timeout l'
  | error e => exact fun e' he => hw e' (congrArg Except.error (Except.error.inj he))

end Transport

namespace Session

open Transport (Foreseen)

@[simp] theorem fire_link {τ : Type} (s : Session τ) (kind : EventKind) (m : Option Message) :
    (s.fire kind m).link = s.link := rfl

@[simp] theorem fire_connection {τ : Type} (s : Session τ) (kind : EventKind) (m : Option Message) :
    (s.fire kind m).connection = s.connection := rfl

theorem onLink_eq {τ α : Type} {s : Session τ} {l : τ} {x : Attempt τ α} {r : Except Error α}
    (h : x s.link = (r, l)) : onLink x s = (r, { s with link := l }) := by
  simp only [onLink, onPart, h]

variable {τ : Type} [Transport τ] {s : Session τ} {l : τ} {m reply : Message} {failure : Option Message} {e : Error}
  {α : Type}

theorem closeLink_foreseen {r : Except Error Unit} (h : Transport.disconnect s.link = (r, l)) (hr : Foreseen r) :
    closeLink s = (.ok (), { s with link := l }) := by
  rw [closeLink, onLink_eq h]
  cases r with
  | ok => rfl
  | error e =>
    obtain ⟨cause, rfl⟩ := hr e rfl
    rfl

theorem closeLink_unforeseen {r : Except Error Unit} (h : Transport.disconnect s.link = (r, l)) (hr : ¬ Foreseen r) :
    ∃ e, closeLink s = (.error e, { s with link := l }) := by
  rw [closeLink, onLink_eq h]
  cases r with
  | ok => exact absurd nofun hr
  | error e =>
    cases e
    case transport cause => exact absurd (fun _ he => ⟨cause, (Except.error.inj he).symm⟩) hr
    all_goals exact ⟨_, rfl⟩

theorem breakOff_foreseen {r : Except Error Unit} (h : Transport.disconnect s.link = (r, l)) (hr : Foreseen r) :
    breakOff (α := α) failure e s =
      (.error e, { s with link := l, connection := .failed }.fire .deviceFailed failure) := by
  rw [breakOff, closeLink_foreseen h hr]

theorem breakOff_unforeseen {r : Except Error Unit} (h : Transport.disconnect s.link = (r, l)) (hr : ¬ Foreseen r) :
    ∃ e', breakOff (α := α) failure e s = (.error e', { s with link := l }) := by
  obtain ⟨e', hc⟩ := closeLink_unforeseen h hr
  exact ⟨e', by rw [breakOff, hc]⟩

theorem attach_absent {r : Except Error Bool} (h : Transport.present s.link = (r, l)) (hr : r ≠ .ok true) :
    (attach s).2 = { s with link := l } := by
  simp only [attach, bind_apply, onLink_eq h]
  rcases r with e | _ | _
  · rfl
  · rfl
  · exact absurd rfl hr

theorem attach_found (h : Transport.present s.link = (.ok true, l))
    (hc : s.connection = .detached ∨ s.connection = .disconnected ∨ s.connection = .failed) :
    attach s = (.ok true, { s with link := l, connection := .attached }.fire .deviceAttached none) := by
  simp only [attach, bind_apply, onLink_eq h, Attempt.get, Bool.not_true, Bool.false_eq_true, hc, ↓reduceIte]
  rfl

theorem attach_new (h : Transport.present s.link = (.ok true, l))
    (hc : s.connection = .detached ∨ s.connection = .disconnected ∨ s.connection = .failed) :
    (attach s).2 = { s with link := l, connection := .attached }.fire .deviceAttached none :=
  congrArg Prod.snd (attach_found h hc)

theorem attach_again (h : Transport.present s.link = (.ok true, l))
    (hc : ¬ (s.connection = .detached ∨ s.connection = .disconnected ∨ s.connection = .failed)) :
    (attach s).2 = { s with link := l } := by
  simp only [attach, bind_apply, onLink_eq h, Attempt.get, Bool.not_true, Bool.false_eq_true, hc, ↓reduceIte]
  rfl

theorem connect_opened (hc : s.connection ≠ .connected) (h : Transport.connect s.link = (.ok (), l)) :
    connect s = (.ok true, { s with link := l, connection := .connected }.fire .deviceConnected none) := by
  simp only [connect, hc, ↓reduceIte, onLink_eq h]

theorem connect_faulted {cause : String} (hc : s.connection ≠ .connected)
    (h : Transport.connect s.link = (.error (.transport cause), l)) :
    connect s = (.ok false, { s with link := l }.connectFailed cause) := by
  simp only [connect, hc, ↓reduceIte, onLink_eq h]

theorem connect_unforeseen (hc : s.connection ≠ .connected) (h : Transport.connect s.link = (.error e, l))
    (he : ∀ cause, e ≠ .transport cause) : connect s = (.error e, { s with link := l }) := by
  simp only [connect, hc, ↓reduceIte, onLink_eq h]

theorem disconnect_foreseen {r : Except Error Unit} (hc : s.connection = .connected)
    (h : Transport.disconnect s.link = (r, l)) (hr : Foreseen r) :
    disconnect s = (.ok (), { s with link := l, connection := .disconnected }.fire .deviceDisconnected none) := by
  simp only [disconnect, hc, ne_eq, not_true_eq_false, ↓reduceIte, closeLink_foreseen h hr]

theorem disconnect_unforeseen {r : Except Error Unit} (hc : s.connection = .connected)
    (h : Transport.disconnect s.link = (r, l)) (hr : ¬ Foreseen r) : (disconnect s).2 = { s with link := l } := by
  obtain ⟨e, hl⟩ := closeLink_unforeseen h hr
  simp only [disconnect, hc, ne_eq, not_true_eq_false, ↓reduceIte, hl]

theorem call_unconnected (hc : s.connection ≠ .connected) : call m s = (.error .notConnected, s) :=
  if_pos hc

section Connected

variable (hc : s.connection = .connected)

include hc

theorem call_faulted {cause : String} (hx : Transport.exchange m s.timeout s.link = (.error (.transport cause), l)) :
    call m s = breakOff none (.disconnected cause) { s with link := l } := by
  simp only [call, hc, ne_eq, not_true_eq_false, ↓reduceIte, onLink_eq hx]

theorem call_unforeseen (hx : Transport.exchange m s.timeout s.link = (.error e, l)) (he : ∀ cause, e ≠ .transport cause) :
    call m s = (.error e, { s with link := l }) := by
  simp only [call, hc, ne_eq, not_true_eq_false, ↓reduceIte, onLink_eq hx]

theorem call_unanswered (hx : Transport.exchange m s.timeout s.link = (.ok none, l))
    (hw : s.timeout.isWritable = true) :
    call m s = breakOff (some (.failure .timeout (.text (Error.replyMissing m.name s.timeout).message)))
      (.replyMissing m.name s.timeout) { s with link := l } := by
  simp only [call, hc, ne_eq, not_true_eq_false, ↓reduceIte, onLink_eq hx, hw]

theorem call_unwritten (hx : Transport.exchange m s.timeout s.link = (.ok none, l))
    (hw : s.timeout.isWritable = false) : call m s = (.error .unwritable, { s with link := l }) := by
  simp only [call, hc, ne_eq, not_true_eq_false, ↓reduceIte, onLink_eq hx, hw, Bool.false_eq_true]

theorem call_unexpected (hx : Transport.exchange m s.timeout s.link = (.ok (some reply), l))
    (hk : EventKind.ofReply? reply = none) :
    call m s = breakOff none (.unexpectedReply reply.name) { s with link := l } := by
  simp only [call, hc, ne_eq, not_true_eq_false, ↓reduceIte, onLink_eq hx, hk]

theorem call_replied {kind : EventKind} (hx : Transport.exchange m s.timeout s.link = (.ok (some reply), l))
    (hk : EventKind.ofReply? reply = some kind) :
    let heard := observe m reply ({ s with link := l }.fire kind (some reply))
    call m s = (heard.1.map fun _ => reply, heard.2) := by
  simp only [call, hc, ne_eq, not_true_eq_false, ↓reduceIte, onLink_eq hx, hk]
  split <;> simp_all [Except.map]

end Connected

def among (s : Session τ) (channel : Channel) (log : List Notice) : Session τ :=
  { s with channel := channel, log := log }

/-- All that a call can come to. Which of these it is has nothing to do with who listens. -/
inductive Called (m : Message) (s : Session τ) : Prop where
  | unconnected (hc : s.connection ≠ .connected)
      (h : ∀ channel log, call m (s.among channel log) = (.error .notConnected, s.among channel log))
  | brokenOff (hc : s.connection = .connected) (r : Except Error (Option Message)) (l : τ)
      (hx : Transport.exchange m s.timeout s.link = (r, l))
      (hr : ∀ reply, r = .ok (some reply) → EventKind.ofReply? reply = none) (failure : Option Message) (e : Error)
      (he : e.kind = .connection ∨ e.kind = .noReply ∨ e.kind = .refused)
      (h : ∀ channel log, call m (s.among channel log) = breakOff failure e ({ s with link := l }.among channel log))
  | unforeseen (hc : s.connection = .connected) (r : Except Error (Option Message)) (e : Error) (l : τ)
      (hx : Transport.exchange m s.timeout s.link = (r, l))
      (hr : r = .error e ∨ r = .ok none ∧ e = .unwritable) (he : ∀ cause, e ≠ .transport cause)
      (h : ∀ channel log, call m (s.among channel log) = (.error e, { s with link := l }.among channel log))
  | replied (hc : s.connection = .connected) (reply : Message) (kind : EventKind) (l : τ)
      (hx : Transport.exchange m s.timeout s.link = (.ok (some reply), l))
      (hk : EventKind.ofReply? reply = some kind)
      (h : ∀ channel log,
        let heard := observe m reply (({ s with link := l }.among channel log).fire kind (some reply))
        call m (s.among channel log) = (heard.1.map fun _ => reply, heard.2))

theorem called (m : Message) (s : Session τ) : Called m s := by
  by_cases hc : s.connection = .connected
  · obtain ⟨r, l, hx⟩ : ∃ r l, Transport.exchange m s.timeout s.link = (r, l) := ⟨_, _, rfl⟩
    rcases r with e | _ | reply
    · by_cases he : ∃ cause, e = .transport cause
      · obtain ⟨cause, rfl⟩ := he
        exact .brokenOff hc _ l hx nofun none (.disconnected cause) (.inl rfl)
          fun channel log => call_faulted (s := s.among channel log) hc hx
      · have hn : ∀ cause, e ≠ .transport cause := fun cause h => he ⟨cause, h⟩
        exact .unforeseen hc _ e l hx (.inl rfl) hn
          fun channel log => call_unforeseen (s := s.among channel log) hc hx hn
    · cases hw : s.timeout.isWritable with
      | true =>
        exact .brokenOff hc _ l hx nofun
          (some (.failure .timeout (.text (Error.replyMissing m.name s.timeout).message))) (.replyMissing m.name s.timeout)
          (.inr (.inl rfl)) fun channel log => call_unanswered (s := s.among channel log) hc hx hw
      | false =>
        exact .unforeseen hc _ .unwritable l hx (.inr ⟨rfl, rfl⟩) nofun
          fun channel log => call_unwritten (s := s.among channel log) hc hx hw
    · cases hk : EventKind.ofReply? reply with
      | none =>
        have hr : ∀ told, (.ok (some reply) : Except Error (Option Message)) = .ok (some told) →
            EventKind.ofReply? told = none := by
          rintro told ⟨⟩
          exact hk
        exact .brokenOff hc _ l hx hr none (.unexpectedReply reply.name) (.inr (.inr rfl))
          fun channel log => call_unexpected (s := s.among channel log) hc hx hk
      | some kind =>
        exact .replied hc reply kind l hx hk fun channel log => call_replied (s := s.among channel log) hc hx hk
  · exact .unconnected hc fun channel log => call_unconnected (s := s.among channel log) hc

theorem link_attach (s : Session τ) : (attach s).2.link = (Transport.present s.link).2 := by
  obtain ⟨r, l, hp⟩ : ∃ r l, Transport.present s.link = (r, l) := ⟨_, _, rfl⟩
  rw [hp]
  by_cases hr : r = .ok true
  · subst hr
    by_cases hc : s.connection = .detached ∨ s.connection = .disconnected ∨ s.connection = .failed
    · rw [attach_new hp hc]
      rfl
    · rw [attach_again hp hc]
  · rw [attach_absent hp hr]

theorem link_connect (s : Session τ) :
    (connect s).2.link = if s.connection = .connected then s.link else (Transport.connect s.link).2 := by
  by_cases hc : s.connection = .connected
  · rw [connect, if_pos hc, if_pos hc]
  · obtain ⟨r, l, hp⟩ : ∃ r l, Transport.connect s.link = (r, l) := ⟨_, _, rfl⟩
    rw [if_neg hc, hp]
    rcases r with e | _
    · by_cases he : ∃ cause, e = .transport cause
      · obtain ⟨cause, rfl⟩ := he
        rw [connect_faulted hc hp]
        rfl
      · rw [connect_unforeseen hc hp fun cause h => he ⟨cause, h⟩]
    · rw [connect_opened hc hp]
      rfl

theorem link_closeLink (s : Session τ) : (closeLink s).2.link = (Transport.disconnect s.link).2 := by
  obtain ⟨r, l, hd⟩ : ∃ r l, Transport.disconnect s.link = (r, l) := ⟨_, _, rfl⟩
  rw [closeLink, onLink_eq hd, hd]
  split <;> rename_i h
  · exact congrArg (fun x => x.2.link) h.symm
  · rfl

theorem link_disconnect (s : Session τ) :
    (disconnect s).2.link = if s.connection = .connected then (Transport.disconnect s.link).2 else s.link := by
  by_cases hc : s.connection = .connected
  · rw [disconnect, if_neg (not_not_intro hc), if_pos hc, ← link_closeLink]
    rcases closeLink s with ⟨_ | _, _⟩ <;> rfl
  · rw [disconnect, if_pos hc, if_neg hc]

theorem link_breakOff {α : Type} (failure : Option Message) (e : Error) (s : Session τ) :
    (breakOff (α := α) failure e s).2.link = (Transport.disconnect s.link).2 := by
  rw [breakOff, ← link_closeLink]
  rcases closeLink s with ⟨_ | _, _⟩ <;> rfl

theorem link_call (hc : s.connection = .connected) (m : Message) :
    let asked := Transport.exchange m s.timeout s.link
    (call m s).2.link = asked.2 ∨ (call m s).2.link = (Transport.disconnect asked.2).2 := by
  intro asked
  cases called m s with
  | unconnected hn => exact absurd hc hn
  | brokenOff _ r l hx _ failure e _ h =>
    have hs : call m s = _ := h s.channel s.log
    rw [show asked = (r, l) from hx, hs]
    exact .inr (link_breakOff failure e { s with link := l })
  | unforeseen _ r e l hx _ _ h =>
    have hs : call m s = _ := h s.channel s.log
    rw [show asked = (r, l) from hx, hs]
    exact .inl rfl
  | replied _ reply kind l hx _ h =>
    have hs : call m s = _ := h s.channel s.log
    rw [show asked = (.ok (some reply), l) from hx, hs]
    exact .inl rfl

inductive Action where
  | attach
  | connect
  | disconnect
  | call (m : Message)
  deriving DecidableEq

def Action.perform : Action → Session τ → Session τ
  | attach, s => (Session.attach s).2
  | connect, s => (Session.connect s).2
  | disconnect, s => (Session.disconnect s).2
  | call m, s => (Session.call m s).2

/-- All that an operation can do to a session, and the events it tells of. -/
inductive Turned (s : Session τ) : List Event → Session τ → Prop where
  | idle (l : τ) : Turned s [] { s with link := l }
  | attached (l : τ) (hc : s.connection ≠ .connected) :
      Turned s [⟨.deviceAttached, none⟩] ({ s with link := l, connection := .attached }.fire .deviceAttached none)
  | connected (l : τ) (hc : s.connection ≠ .connected) :
      Turned s [⟨.deviceConnected, none⟩] ({ s with link := l, connection := .connected }.fire .deviceConnected none)
  | connectFailed (l : τ) (cause : String) (hc : s.connection ≠ .connected) :
      Turned s [] ({ s with link := l }.connectFailed cause)
  | disconnected (l : τ) (hc : s.connection = .connected) :
      Turned s [⟨.deviceDisconnected, none⟩]
        ({ s with link := l, connection := .disconnected }.fire .deviceDisconnected none)
  | brokenOff (l : τ) (failure : Option Message) (hc : s.connection = .connected) :
      Turned s [⟨.deviceFailed, failure⟩] ({ s with link := l, connection := .failed }.fire .deviceFailed failure)
  | replied (l : τ) (m reply : Message) (kind : EventKind) (hc : s.connection = .connected)
      (hk : EventKind.ofReply? reply = some kind) :
      Turned s [⟨kind, some reply⟩] (observe m reply ({ s with link := l }.fire kind (some reply))).2

theorem attach_turned (s : Session τ) :
    ∃ events, ∀ channel log, Turned (s.among channel log) events (attach (s.among channel log)).2 := by
  obtain ⟨r, l, hp⟩ : ∃ r l, Transport.present s.link = (r, l) := ⟨_, _, rfl⟩
  by_cases hr : r = .ok true
  · subst hr
    by_cases hc : s.connection = .detached ∨ s.connection = .disconnected ∨ s.connection = .failed
    · refine ⟨[⟨.deviceAttached, none⟩], fun channel log => ?_⟩
      rw [attach_new (s := s.among channel log) hp hc]
      exact .attached l (by rcases hc with hc | hc | hc <;> simp [among, hc])
    · refine ⟨[], fun channel log => ?_⟩
      rw [attach_again (s := s.among channel log) hp hc]
      exact .idle l
  · refine ⟨[], fun channel log => ?_⟩
    rw [attach_absent (s := s.among channel log) hp hr]
    exact .idle l

theorem connect_turned (s : Session τ) :
    ∃ events, ∀ channel log, Turned (s.among channel log) events (connect (s.among channel log)).2 := by
  by_cases hc : s.connection = .connected
  · refine ⟨[], fun channel log => ?_⟩
    have hs : connect (s.among channel log) = (.ok true, s.among channel log) := if_pos hc
    rw [hs]
    exact .idle s.link
  · obtain ⟨r, l, hp⟩ : ∃ r l, Transport.connect s.link = (r, l) := ⟨_, _, rfl⟩
    rcases r with e | _
    · refine ⟨[], fun channel log => ?_⟩
      by_cases he : ∃ cause, e = .transport cause
      · obtain ⟨cause, rfl⟩ := he
        rw [connect_faulted (s := s.among channel log) hc hp]
        exact .connectFailed l cause hc
      · rw [connect_unforeseen (s := s.among channel log) hc hp fun cause h => he ⟨cause, h⟩]
        exact .idle l
    · refine ⟨[⟨.deviceConnected, none⟩], fun channel log => ?_⟩
      rw [connect_opened (s := s.among channel log) hc hp]
      exact .connected l hc

theorem disconnect_turned (s : Session τ) :
    ∃ events, ∀ channel log, Turned (s.among channel log) events (disconnect (s.among channel log)).2 := by
  by_cases hc : s.connection = .connected
  · obtain ⟨r, l, hp⟩ : ∃ r l, Transport.disconnect s.link = (r, l) := ⟨_, _, rfl⟩
    by_cases hr : Foreseen r
    · refine ⟨[⟨.deviceDisconnected, none⟩], fun channel log => ?_⟩
      rw [disconnect_foreseen (s := s.among channel log) hc hp hr]
      exact .disconnected l hc
    · refine ⟨[], fun channel log => ?_⟩
      rw [disconnect_unforeseen (s := s.among channel log) hc hp hr]
      exact .idle l
  · refine ⟨[], fun channel log => ?_⟩
    have hs : disconnect (s.among channel log) = (.ok (), s.among channel log) := if_pos hc
    rw [hs]
    exact .idle s.link

theorem breakOff_turned (hc : s.connection = .connected) (failure : Option Message) :
    ∃ events, ∀ channel log (l₀ : τ) (e : Error), Turned { s.among channel log with link := l₀ } events
      (breakOff (α := α) failure e (s.among channel log)).2 := by
  obtain ⟨r, l, hp⟩ : ∃ r l, Transport.disconnect s.link = (r, l) := ⟨_, _, rfl⟩
  by_cases hr : Foreseen r
  · refine ⟨[⟨.deviceFailed, failure⟩], fun channel log l₀ e => ?_⟩
    rw [breakOff_foreseen (s := s.among channel log) hp hr]
    exact Turned.brokenOff (s := { s.among channel log with link := l₀ }) l failure hc
  · refine ⟨[], fun channel log l₀ e => ?_⟩
    obtain ⟨e', hb⟩ : ∃ e', breakOff (α := α) failure e (s.among channel log) =
        (.error e', { s.among channel log with link := l }) := breakOff_unforeseen hp hr
    rw [hb]
    exact Turned.idle (s := { s.among channel log with link := l₀ }) l

theorem call_turned (m : Message) (s : Session τ) :
    ∃ events, ∀ channel log, Turned (s.among channel log) events (call m (s.among channel log)).2 := by
  cases called m s with
  | unconnected hc h =>
    refine ⟨[], fun channel log => ?_⟩
    rw [h]
    exact .idle s.link
  | brokenOff hc r l hx hr failure e he h =>
    obtain ⟨events, hb⟩ := breakOff_turned (α := Message) (s := { s with link := l }) hc failure
    refine ⟨events, fun channel log => ?_⟩
    rw [h]
    exact hb channel log s.link e
  | unforeseen hc r e l hx hr he h =>
    refine ⟨[], fun channel log => ?_⟩
    rw [h]
    exact .idle l
  | replied hc reply kind l hx hk h =>
    refine ⟨[⟨kind, some reply⟩], fun channel log => ?_⟩
    rw [h]
    exact .replied l m reply kind hc hk

theorem perform_turned (x : Action) (s : Session τ) :
    ∃ events, ∀ channel log, Turned (s.among channel log) events (x.perform (s.among channel log)) := by
  cases x with
  | attach => exact attach_turned s
  | connect => exact connect_turned s
  | disconnect => exact disconnect_turned s
  | call m => exact call_turned m s

end Session

end HardwareWallet
