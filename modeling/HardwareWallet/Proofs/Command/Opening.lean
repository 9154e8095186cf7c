import HardwareWallet.Command.Flow
import HardwareWallet.Proofs.Client.Request

namespace HardwareWallet

open Attempt

namespace Transport

/-- A link that fails to close fails in the way in which links fail. -/
def Closes (τ : Type) [Transport τ] : Prop :=
  ∀ l : τ, Foreseen (Transport.disconnect l).1

end Transport

namespace Session

open Transport (Closes)

variable {τ : Type} [Transport τ] {s s' : Session τ}

theorem connected_of_connect (h : connect s = (.ok true, s')) : s'.connection = .connected := by
  by_cases hc : s.connection = .connected
  · rw [connect, if_pos hc] at h
    obtain ⟨-, rfl⟩ := Prod.mk.inj h
    exact hc
  · obtain ⟨r, l, hx⟩ : ∃ r l, Transport.connect s.link = (r, l) := ⟨_, _, rfl⟩
    rcases r with e | _
    · by_cases he : ∃ cause, e = .transport cause
      · obtain ⟨cause, rfl⟩ := he
        rw [connect_faulted hc hx] at h
        cases h
      · rw [connect_unforeseen hc hx fun cause h => he ⟨cause, h⟩] at h
        cases h
    · rw [connect_opened hc hx] at h
      obtain ⟨-, rfl⟩ := Prod.mk.inj h
      rfl

theorem call_ends (hτ : Closes τ) (m : Message) (hc : s.connection = .connected) :
    let asked := Transport.exchange m s.timeout s.link
    ((call m s).2.connection = .connected ∧ (call m s).2.link = asked.2) ∨
      ((∃ e, (call m s).1 = .error e) ∧ (call m s).2.connection = .failed ∧
        (call m s).2.link = (Transport.disconnect asked.2).2) := by
  intro asked
  cases called m s with
  | unconnected hn => exact absurd hc hn
  | brokenOff _ r l hx _ failure e _ h =>
    have hd : Transport.disconnect l = ((Transport.disconnect l).1, (Transport.disconnect l).2) := rfl
    have hs : call m s = _ := (h s.channel s.log).trans (breakOff_foreseen hd (hτ l))
    rw [show asked = (r, l) from hx, hs]
    exact .inr ⟨⟨e, rfl⟩, rfl, rfl⟩
  | unforeseen _ r e l hx _ _ h =>
    have hs : call m s = _ := h s.channel s.log
    rw [show asked = (r, l) from hx, hs]
    exact .inl ⟨hc, rfl⟩
  | replied _ reply kind l hx _ h =>
    have hs : call m s = _ := h s.channel s.log
    rw [show asked = (.ok (some reply), l) from hx, hs]
    exact .inl ⟨hc, rfl⟩

theorem disconnect_ends (hτ : Closes τ) (s : Session τ) :
    ∃ s', disconnect s = (.ok (), s') ∧ s'.connection ≠ .connected ∧
      s'.link = if s.connection = .connected then (Transport.disconnect s.link).2 else s.link := by
  by_cases hc : s.connection = .connected
  · refine ⟨_, disconnect_foreseen hc rfl (hτ s.link), nofun, ?_⟩
    rw [if_pos hc]
    rfl
  · exact ⟨s, if_pos hc, hc, (if_neg hc).symm⟩

end Session

namespace Client

open Transport (Closes)

variable {τ : Type} [Transport τ] {c c' c'' : Client τ}

omit [Transport τ] in
theorem onSession_eq {α : Type} {x : Attempt (Session τ) α} {r : Except Error α} {s : Session τ}
    (h : x c.session = (r, s)) : onSession x c = (r, { c with session := s }) := by
  rw [onSession, onPart, h]

theorem close_ends (hτ : Closes τ) (c : Client τ) :
    ∃ c', close c = (.ok (), c') ∧ c'.session.connection ≠ .connected ∧
      c'.session.link =
        if c.session.connection = .connected then (Transport.disconnect c.session.link).2 else c.session.link := by
  obtain ⟨s, hs, hc, hl⟩ := Session.disconnect_ends hτ c.session
  exact ⟨{ c with session := s }, onSession_eq hs, hc, hl⟩

theorem initialise_ends (hτ : Closes τ) (hc : c.session.connection = .connected) :
    let asked := Transport.exchange .initialise c.session.timeout c.session.link
    ((initialise c).2.session.connection = .connected ∧ (initialise c).2.session.link = asked.2) ∨
      ((initialise c).2.session.connection ≠ .connected ∧
        (initialise c).2.session.link = (Transport.disconnect asked.2).2) := by
  obtain ⟨log, hs⟩ := session_perform (o := .initialise) (c := c) rfl
  have hs' : (initialise c).2.session = { (Session.call .initialise c.session).2 with log := log } := hs
  rw [hs']
  refine (Session.call_ends hτ .initialise hc).imp id fun ⟨_, hf, hl⟩ => ⟨?_, hl⟩
  change (Session.call .initialise c.session).2.connection ≠ .connected
  rw [hf]
  exact nofun

theorem features_of_initialise (hτ : Closes τ) (h : initialise c = (.ok true, c')) :
    c'.session.connection = .connected ∧ c'.features.isSome = true := by
  obtain ⟨reply, t, hcall, hf⟩ := exists_of_bind_ok h
  obtain ⟨f, rfl⟩ : ∃ f, reply = .features f := by
    cases reply
    case features f => exact ⟨f, rfl⟩
    all_goals cases hf
  have hs : (Session.call .initialise c.session).1 = .ok (.features f) := congrArg Prod.fst hcall
  have hx := Session.exchange?_of_call hs
  obtain ⟨-, -, -, -, hc, -⟩ := Session.exchange?_eq_some hx
  have hc' : c' = Operation.initialise.perform c := (congrArg Prod.snd h).symm
  refine ⟨?_, ?_⟩
  · obtain ⟨log, ho⟩ := session_perform (o := .initialise) (c := c) rfl
    rw [hc', ho]
    rcases Session.call_ends hτ .initialise hc with ⟨hconn, -⟩ | ⟨⟨e, he⟩, -⟩
    · exact hconn
    · cases hs.symm.trans he
  · have hp := progress_of_request (o := .initialise) (c := c) rfl
    rw [Session.progress_call, exchange?_sending, hx, ← hc'] at hp
    have hp' : c'.progress = (c.progress.observe .initialise (.features f)).1 := hp
    rw [features, hp', Progress.authentication_observe]
    rfl

theorem exists_of_prepare (h : prepare c = (.ok (), c')) :
    ∃ found opened, attach c = (.ok true, found) ∧ connect found = (.ok true, opened) ∧
      initialise opened = (.ok true, c') := by
  unfold prepare at h
  rw [get_bind] at h
  obtain ⟨there, found, ha, h⟩ := exists_of_bind_ok h
  cases there with
  | false => cases h
  | true =>
    obtain ⟨isOpen, opened, hc, h⟩ := exists_of_bind_ok h
    cases isOpen with
    | false => cases h
    | true =>
      obtain ⟨told, ready, hi, h⟩ := exists_of_bind_ok h
      cases told with
      | false => cases h
      | true =>
        obtain ⟨-, rfl⟩ := Prod.mk.inj h
        exact ⟨found, opened, ha, hc, hi⟩

theorem prepare_of_opened (ha : attach c = (.ok true, c')) (hc : connect c' = (.ok true, c'')) :
    (prepare c).2 = (initialise c'').2 := by
  unfold prepare
  rw [get_bind, bind_of_ok _ ha]
  change ((connect >>= _) c').2 = _
  rw [bind_of_ok _ hc]
  change ((initialise >>= _) c'').2 = _
  rw [bind_apply]
  rcases initialise c'' with ⟨_ | told, ready⟩
  · rfl
  · cases told <;> rfl

theorem opened_ends (hτ : Closes τ) (c : Client τ) :
    (opened c).1 = .ok () ∧ (opened c).2.session.connection = .connected ∧ (opened c).2.features.isSome = true ∨
      (∃ e, (opened c).1 = .error e) ∧ (opened c).2 = (close (prepare c).2).2 ∧
        (opened c).2.session.connection ≠ .connected := by
  obtain ⟨r, ready, hp⟩ : ∃ r ready, prepare c = (r, ready) := ⟨_, _, rfl⟩
  cases r with
  | ok =>
    have ho : opened c = (.ok (), ready) := by rw [opened, hp]
    rw [ho, hp]
    obtain ⟨found, opened, -, -, hi⟩ := exists_of_prepare hp
    exact .inl ⟨rfl, features_of_initialise hτ hi⟩
  | error e =>
    obtain ⟨closed, hc, hn, -⟩ := close_ends hτ ready
    have ho : opened c = (.error e, closed) := by simp only [opened, hp, hc]
    rw [ho, hp]
    exact .inr ⟨⟨e, rfl⟩, (congrArg Prod.snd hc).symm, hn⟩

theorem link_of_refused (hτ : Closes τ) {e : Error} (ha : attach c = (.ok true, c')) (hc : connect c' = (.ok true, c''))
    (he : (opened c).1 = .error e) :
    (opened c).2.session.link =
      (Transport.disconnect (Transport.exchange .initialise c''.session.timeout c''.session.link).2).2 := by
  obtain ⟨hclosed, -⟩ : (opened c).2 = (close (prepare c).2).2 ∧ _ := by
    rcases opened_ends hτ c with ⟨ho, -⟩ | ⟨-, h⟩
    · cases ho.symm.trans he
    · exact h
  have hr : (Session.connect c'.session).1 = .ok true := congrArg Prod.fst hc
  have hs : (Session.connect c'.session).2 = c''.session := congrArg (fun r => r.2.session) hc
  have hconn := Session.connected_of_connect (Prod.ext hr hs)
  obtain ⟨closed, hclose, -, hl⟩ := close_ends hτ (initialise c'').2
  rw [hclosed, prepare_of_opened ha hc, hclose, hl]
  rcases initialise_ends hτ hconn with ⟨h, hlink⟩ | ⟨h, hlink⟩
  · rw [if_pos h, hlink]
  · rw [if_neg h, hlink]

theorem opened_create (hτ : Closes τ) (path : Value) (chain : Chain) (link : τ) (timeout : Timeout) (capacity : Value)
    (policy : PinPolicy) :
    let there := Transport.present link
    let opening := Transport.connect there.2
    let asked := Transport.exchange .initialise timeout opening.2
    let result := opened (create path chain link timeout capacity policy)
    result.1 = .ok () ∧ result.2.session.connection = .connected ∧ result.2.features.isSome = true ∨
      (∃ e, result.1 = .error e) ∧ result.2.session.connection ≠ .connected ∧
        (there.1 = .ok true → opening.1 = .ok () → result.2.session.link = (Transport.disconnect asked.2).2) := by
  intro there opening asked result
  refine (opened_ends hτ (create path chain link timeout capacity policy)).imp id ?_
  rintro ⟨⟨e, he⟩, -, hn⟩
  refine ⟨⟨e, he⟩, hn, fun hthere hopening => ?_⟩
  let s := Session.create link timeout { defaultCapacity := capacity } policy
  let found := { s with link := there.2, connection := .attached }.fire .deviceAttached none
  have ha : Session.attach s = (.ok true, found) := Session.attach_found (Prod.ext hthere rfl) (.inl rfl)
  have hc := Session.connect_opened (s := found) nofun (Prod.ext hopening rfl)
  exact link_of_refused hτ (onSession_eq ha) (onSession_eq hc) he

end Client

end HardwareWallet
