import HardwareWallet.Proofs.Client.Request
import HardwareWallet.Proofs.Session.Lifecycle

namespace HardwareWallet

open Attempt

namespace Session

variable {τ : Type} [Transport τ] {s : Session τ} {m : Message}

inductive Fails (s : Session τ) (m : Message) : Prop where
  | unconnected (hc : s.connection ≠ .connected)
  | unwritten (e : Error) (hw : (Transport.write m s.link).1 = .error e)
  | unread (e : Error) (l : τ) (hw : Transport.write m s.link = (.ok (), l))
      (hr : (Transport.read s.timeout l).1 = .error e)
  | unanswered (l : τ) (hw : Transport.write m s.link = (.ok (), l)) (hr : (Transport.read s.timeout l).1 = .ok none)
  | unreplied (l : τ) (hw : Transport.write m s.link = (.ok (), l)) (told : Message)
      (hr : (Transport.read s.timeout l).1 = .ok (some told)) (hk : EventKind.ofReply? told = none)

theorem fails_iff : s.Fails m ↔ s.exchange? m = none := by
  have hx : Transport.exchange m s.timeout s.link =
      (Transport.write m >>= fun _ => Transport.read s.timeout) s.link := rfl
  constructor
  · rintro (hc | ⟨e, hw⟩ | ⟨e, l, hw, hr⟩ | ⟨l, hw, hr⟩ | ⟨l, hw, told, hr, hk⟩)
    · exact if_neg hc
    · exact exchange?_unreplied (hx.trans (bind_of_error _ (Prod.ext hw rfl))) nofun
    · exact exchange?_unreplied (hx.trans ((bind_of_ok _ hw).trans (Prod.ext hr rfl))) nofun
    · exact exchange?_unreplied (hx.trans ((bind_of_ok _ hw).trans (Prod.ext hr rfl))) nofun
    · refine exchange?_unreplied (hx.trans ((bind_of_ok _ hw).trans (Prod.ext hr rfl))) ?_
      rintro reply ⟨⟩
      exact hk
  · intro h
    by_cases hc : s.connection = .connected
    · obtain ⟨w, l, hw⟩ : ∃ w l, Transport.write m s.link = (w, l) := ⟨_, _, rfl⟩
      rcases w with e | _
      · exact .unwritten e (by rw [hw])
      · obtain ⟨r, l', hr⟩ : ∃ r l', Transport.read s.timeout l = (r, l') := ⟨_, _, rfl⟩
        rcases r with e | _ | told
        · exact .unread e l hw (by rw [hr])
        · exact .unanswered l hw (by rw [hr])
        · refine .unreplied l hw told (by rw [hr]) (Option.not_isSome_iff_eq_none.mp fun hk => ?_)
          rw [exchange?_replied hc (hx.trans ((bind_of_ok _ hw).trans hr)) hk] at h
          cases h
    · exact .unconnected hc

theorem call_of_fails (h : s.Fails m) : ∃ e s', call m s = (.error e, s') ∧ s'.progress = s.progress := by
  have hn := fails_iff.mp h
  have hp := progress_call s m
  rw [hn] at hp
  cases hr : (call m s).1 with
  | ok reply =>
    rw [exchange?_of_call hr] at hn
    cases hn
  | error e => exact ⟨e, _, Prod.ext hr rfl, hp⟩

end Session

namespace Client

variable {τ : Type} [Transport τ] {c : Client τ} {o : Operation} {m : Message}

theorem attempt_of_fails (hr : o.request? c = some m) (h : c.session.Fails m) :
    ∃ e c', o.attempt c = (.error e, c') ∧ c'.progress = (o.sending c).progress := by
  have hs : (o.sending c).Fails m := by
    rw [Session.fails_iff, exchange?_sending]
    exact Session.fails_iff.mp h
  obtain ⟨e, s, hc, hp⟩ := Session.call_of_fails hs
  exact ⟨e, _, attempt_of_error hr hc, hp⟩

/-- What a client has in mind is the same after an operation whose exchange failed. Only the entry of the PIN may count
    one more attempt, if the PIN was to be sent. -/
theorem failed_exchange_keeps_progress (c : Client τ) (o : Operation)
    (h : ∀ m, o.request? c = some m → c.session.Fails m) :
    let p := c.progress
    let p' := (o.attempt c).2.progress
    ((o.request? c).isSome → ∃ e, (o.attempt c).1 = .error e) ∧
      p'.authentication.failures = p.authentication.failures ∧
      p'.authentication.unlocked = p.authentication.unlocked ∧
      p'.authentication.initialisation = p.authentication.initialisation ∧
      p'.reset = p.reset ∧ p'.pending = p.pending ∧
      (p'.authentication.entry = p.authentication.entry ∨
        (∃ pin, o = .pinMatrixAck (.text pin)) ∧
          let entry := p.authentication.entry.getD {}
          p'.authentication.entry = some { entry with attempts := entry.attempts + 1 }) := by
  intro p p'
  have hp : ((o.request? c).isSome → ∃ e, (o.attempt c).1 = .error e) ∧ p' = (o.sending c).progress := by
    cases hr : o.request? c with
    | none =>
      refine ⟨nofun, ?_⟩
      rw [sending_of_not_counted (not_counted_of_none hr)]
      exact (congrArg progress (attempt_snd o c)).trans (progress_of_none hr)
    | some m =>
      obtain ⟨e, c', ha, hp⟩ := attempt_of_fails hr (h m hr)
      exact ⟨fun _ => ⟨e, congrArg Prod.fst ha⟩, (congrArg (fun x => x.2.progress) ha).trans hp⟩
  refine ⟨hp.1, ?_⟩
  rw [hp.2]
  rcases sending_cases c o with hs | ⟨ho, hs⟩
  · rw [hs]
    exact ⟨rfl, rfl, rfl, rfl, rfl, .inl rfl⟩
  · rw [hs]
    exact ⟨rfl, rfl, rfl, rfl, rfl, .inr ⟨ho, rfl⟩⟩

def silent : Client Session.Replay :=
  (connect (create (.text "replay:0") .main ⟨[]⟩ .standard (.int 100) .standard)).2

theorem unanswered_pin_counted :
    let o := Operation.pinMatrixAck (.text "1234")
    (∀ m, o.request? silent = some m → silent.session.Fails m) ∧ (∃ e, (o.attempt silent).1 = .error e) ∧
      (o.attempt silent).2.progress.authentication.failures = 0 ∧
      (o.attempt silent).2.progress.authentication.entry = some { attempts := 1 } := by
  intro o
  have hf : ∀ m, o.request? silent = some m → silent.session.Fails m :=
    fun m _ => .unanswered silent.session.link rfl rfl
  obtain ⟨he, hn, -, -, -, -, ha⟩ := failed_exchange_keeps_progress silent o hf
  have hs : (o.attempt silent).2.progress.authentication.entry ≠ silent.progress.authentication.entry := by
    decide +kernel
  exact ⟨hf, he rfl, hn, (ha.resolve_left hs).2⟩

end Client

end HardwareWallet
