import HardwareWallet.Proofs.Progress.Hearing
import HardwareWallet.Proofs.Session.Turn

namespace HardwareWallet.Session

variable {τ : Type} [Transport τ] {s : Session τ} {m reply : Message} {l : τ}

def exchange? (s : Session τ) (m : Message) : Option Exchange :=
  if s.connection = .connected then
    match (Transport.exchange m s.timeout s.link).1 with
    | .ok (some reply) => if (EventKind.ofReply? reply).isSome then some ⟨m, reply⟩ else none
    | _ => none
  else none

theorem exchange?_replied (hc : s.connection = .connected)
    (hx : Transport.exchange m s.timeout s.link = (.ok (some reply), l)) (hk : (EventKind.ofReply? reply).isSome) :
    s.exchange? m = some ⟨m, reply⟩ := by
  simp only [exchange?, hc, hx, hk, ↓reduceIte]

theorem exchange?_unreplied {r : Except Error (Option Message)}
    (hx : Transport.exchange m s.timeout s.link = (r, l))
    (hr : ∀ reply, r = .ok (some reply) → EventKind.ofReply? reply = none) : s.exchange? m = none := by
  simp only [exchange?, hx]
  rcases r with e | _ | reply
  · exact ite_self none
  · exact ite_self none
  · simp only [hr reply rfl, Option.isSome_none, Bool.false_eq_true, ↓reduceIte]
    exact ite_self none

theorem exchange?_eq_some {x : Exchange} (h : s.exchange? m = some x) :
    ∃ reply kind l, x = ⟨m, reply⟩ ∧ s.connection = .connected ∧ EventKind.ofReply? reply = some kind ∧
      Transport.exchange m s.timeout s.link = (.ok (some reply), l) := by
  unfold exchange? at h
  split at h
  · rename_i hc
    split at h
    · rename_i reply hr
      split at h
      · rename_i hk
        obtain ⟨kind, hk⟩ := Option.isSome_iff_exists.mp hk
        exact ⟨reply, kind, _, (Option.some.inj h).symm, hc, hk, Prod.ext hr rfl⟩
      · cases h
    · cases h
  · cases h

theorem channel_call (h : s.exchange? m = some ⟨m, reply⟩) :
    ∃ kind, EventKind.ofReply? reply = some kind ∧
      (call m s).2.channel = (s.channel.publish ⟨kind, some reply⟩).1 := by
  obtain ⟨reply', kind, l, he, hc, hk, hx⟩ := exchange?_eq_some h
  obtain rfl : reply = reply' := congrArg Exchange.reply he
  refine ⟨kind, hk, ?_⟩
  rw [call_replied hc hx hk]
  rfl

theorem breakOff_ne_ok {α : Type} (failure : Option Message) (e : Error) (s : Session τ) (a : α) :
    (breakOff failure e s).1 ≠ .ok a := by
  obtain ⟨r, l, hd⟩ : ∃ r l, Transport.disconnect s.link = (r, l) := ⟨_, _, rfl⟩
  by_cases hr : Transport.Foreseen r
  · rw [breakOff_foreseen hd hr]
    exact nofun
  · obtain ⟨e', hb⟩ : ∃ e', breakOff (α := α) failure e s = (.error e', { s with link := l }) :=
      breakOff_unforeseen hd hr
    rw [hb]
    exact nofun

theorem eq_of_map_eq_ok {α β : Type} {x : Except Error α} {b b' : β} (h : (x.map fun _ => b) = .ok b') : b = b' := by
  cases x with
  | error e => cases h
  | ok a => exact Except.ok.inj h

theorem exchange?_of_call (h : (call m s).1 = .ok reply) : s.exchange? m = some ⟨m, reply⟩ := by
  cases called m s with
  | unconnected hc hcall =>
    rw [show call m s = _ from hcall s.channel s.log] at h
    cases h
  | brokenOff hc r l hx hr failure e he hcall =>
    rw [show call m s = _ from hcall s.channel s.log] at h
    exact absurd h (breakOff_ne_ok _ _ _ _)
  | unforeseen hc r e l hx hr he hcall =>
    rw [show call m s = _ from hcall s.channel s.log] at h
    cases h
  | replied hc told kind l hx hk hcall =>
    rw [show call m s = _ from hcall s.channel s.log] at h
    obtain rfl : told = reply := eq_of_map_eq_ok h
    exact exchange?_replied hc hx (by rw [hk]; rfl)

theorem progress_attach (s : Session τ) : (attach s).2.progress = s.progress := by
  obtain ⟨r, l, hp⟩ : ∃ r l, Transport.present s.link = (r, l) := ⟨_, _, rfl⟩
  by_cases hr : r = .ok true
  · subst hr
    by_cases hc : s.connection = .detached ∨ s.connection = .disconnected ∨ s.connection = .failed
    · rw [attach_new hp hc]
      rfl
    · rw [attach_again hp hc]
  · rw [attach_absent hp hr]

theorem progress_connect (s : Session τ) : (connect s).2.progress = s.progress := by
  by_cases hc : s.connection = .connected
  · have hs : connect s = (.ok true, s) := if_pos hc
    rw [hs]
  · obtain ⟨r, l, hp⟩ : ∃ r l, Transport.connect s.link = (r, l) := ⟨_, _, rfl⟩
    rcases r with e | _
    · by_cases he : ∃ cause, e = .transport cause
      · obtain ⟨cause, rfl⟩ := he
        rw [connect_faulted hc hp]
        rfl
      · rw [connect_unforeseen hc hp fun cause h => he ⟨cause, h⟩]
    · rw [connect_opened hc hp]
      rfl

theorem progress_disconnect (s : Session τ) : (disconnect s).2.progress = s.progress := by
  by_cases hc : s.connection = .connected
  · obtain ⟨r, l, hp⟩ : ∃ r l, Transport.disconnect s.link = (r, l) := ⟨_, _, rfl⟩
    by_cases hr : Transport.Foreseen r
    · rw [disconnect_foreseen hc hp hr]
      rfl
    · rw [disconnect_unforeseen hc hp hr]
  · have hs : disconnect s = (.ok (), s) := if_pos hc
    rw [hs]

theorem progress_breakOff {α : Type} (failure : Option Message) (e : Error) (s : Session τ) :
    (breakOff (α := α) failure e s).2.progress = s.progress := by
  obtain ⟨r, l, hd⟩ : ∃ r l, Transport.disconnect s.link = (r, l) := ⟨_, _, rfl⟩
  by_cases hr : Transport.Foreseen r
  · rw [breakOff_foreseen hd hr]
    rfl
  · obtain ⟨e', hb⟩ : ∃ e', breakOff (α := α) failure e s = (.error e', { s with link := l }) :=
      breakOff_unforeseen hd hr
    rw [hb]

theorem progress_call (s : Session τ) (m : Message) :
    (call m s).2.progress = s.progress.hear (s.exchange? m).toList := by
  cases called m s with
  | unconnected hc h =>
    rw [show call m s = _ from h s.channel s.log, show s.exchange? m = none from if_neg hc]
    rfl
  | brokenOff hc r l hx hr failure e he h =>
    rw [show call m s = _ from h s.channel s.log, exchange?_unreplied hx hr]
    exact progress_breakOff failure e { s with link := l }
  | unforeseen hc r e l hx hr he h =>
    have hn : ∀ reply, r = .ok (some reply) → EventKind.ofReply? reply = none := by
      rcases hr with rfl | ⟨rfl, -⟩ <;> exact nofun
    rw [show call m s = _ from h s.channel s.log, exchange?_unreplied hx hn]
    rfl
  | replied hc reply kind l hx hk h =>
    rw [show call m s = _ from h s.channel s.log, exchange?_replied hc hx (by rw [hk]; rfl)]
    rfl

end HardwareWallet.Session
