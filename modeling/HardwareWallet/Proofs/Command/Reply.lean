import HardwareWallet.Command.Exchange
import HardwareWallet.Proofs.Channel.Offered

namespace HardwareWallet

namespace Event

variable {events : List Event} {e : Event}

def IsLastReply (events : List Event) (e : Event) : Prop :=
  ∃ before after, events = before ++ e :: after ∧ e.kind.isLifecycle = false ∧
    ∀ x ∈ after, x.kind.isLifecycle = true

theorem isLastReply_iff : IsLastReply events e ↔ (events.filter fun e => !e.kind.isLifecycle).getLast? = some e := by
  constructor
  · rintro ⟨before, after, rfl, he, ha⟩
    have hn : after.filter (fun e => !e.kind.isLifecycle) = [] :=
      List.filter_eq_nil_iff.mpr fun x hx => by simp [ha x hx]
    rw [List.filter_append, List.filter_cons_of_pos (by simp [he]), hn]
    exact List.getLast?_eq_some_iff.mpr ⟨_, rfl⟩
  · intro h
    obtain ⟨replies, hr⟩ := List.getLast?_eq_some_iff.mp h
    obtain ⟨before, rest, rfl, -, hrest⟩ := List.filter_eq_append_iff.mp hr
    obtain ⟨skipped, after, rfl, -, he, ha⟩ := List.filter_eq_cons_iff.mp hrest
    refine ⟨before ++ skipped, after, (List.append_assoc ..).symm, by simpa using he, fun x hx => ?_⟩
    simpa using List.filter_eq_nil_iff.mp ha x hx

theorem IsLastReply.eq {e' : Event} (h : IsLastReply events e) (h' : IsLastReply events e') : e' = e :=
  Option.some_inj.mp ((isLastReply_iff.mp h').symm.trans (isLastReply_iff.mp h))

theorem replyOf_none (h : ∀ e, ¬ IsLastReply events e) (expected : List EventKind) :
    replyOf events false expected = .error .nothingReplied := by
  have hn : (events.filter fun e => !e.kind.isLifecycle).getLast? = none :=
    Option.eq_none_iff_forall_ne_some.mpr fun e he => h e (isLastReply_iff.mpr he)
  rw [replyOf, if_neg nofun, hn]

theorem replyOf_failure {message : Option Message} (h : IsLastReply events ⟨.failure, message⟩)
    (expected : List EventKind) : replyOf events false expected = .error (failureOf message) := by
  rw [replyOf, if_neg nofun, isLastReply_iff.mp h]

theorem replyOf_reply (h : IsLastReply events e) (hk : e.kind ≠ .failure) (expected : List EventKind) :
    replyOf events false expected =
      if expected = [] ∨ e.kind ∈ expected then .ok e else .error (.eventUnexpected e.kind) := by
  obtain ⟨kind, message⟩ := e
  rw [replyOf, if_neg nofun, isLastReply_iff.mp h]
  cases kind
  case failure => exact absurd rfl hk
  all_goals rfl

theorem kind_failureOf {code : FailureCode} (text : Value) :
    (failureOf (some (.failure code text))).kind = if code.isCancellation then .cancelled else .refused := by
  rw [failureOf]
  split <;> rfl

inductive Taken (events : List Event) (expected : List EventKind) : Except Error Event → Prop where
  | reply (e : Event) (h : IsLastReply events e) (hk : e.kind ≠ .failure) (hx : expected = [] ∨ e.kind ∈ expected) :
      Taken events expected (.ok e)
  | unexpected (e : Event) (h : IsLastReply events e) (hk : e.kind ≠ .failure)
      (hx : ¬ (expected = [] ∨ e.kind ∈ expected)) : Taken events expected (.error (.eventUnexpected e.kind))
  | failure (message : Option Message) (h : IsLastReply events ⟨.failure, message⟩) :
      Taken events expected (.error (failureOf message))
  | nothing (h : ∀ e, ¬ IsLastReply events e) : Taken events expected (.error .nothingReplied)

theorem replyOf_taken (events : List Event) (expected : List EventKind) :
    Taken events expected (replyOf events false expected) := by
  by_cases h : ∃ e, IsLastReply events e
  · obtain ⟨⟨kind, message⟩, h⟩ := h
    by_cases hk : kind = .failure
    · subst hk
      rw [replyOf_failure h]
      exact .failure message h
    · rw [replyOf_reply h hk]
      split
      · rename_i hx
        exact .reply _ h hk hx
      · rename_i hx
        exact .unexpected _ h hk hx
  · have hn : ∀ e, ¬ IsLastReply events e := fun e he => h ⟨e, he⟩
    rw [replyOf_none hn]
    exact .nothing hn

variable {expected : List EventKind} {r : Except Error Event}

theorem Taken.ok_iff (h : Taken events expected r) (e : Event) :
    r = .ok e ↔ IsLastReply events e ∧ e.kind ≠ .failure ∧ (expected = [] ∨ e.kind ∈ expected) := by
  cases h with
  | reply e' h hk hx =>
    rw [Except.ok.injEq]
    constructor
    · rintro rfl
      exact ⟨h, hk, hx⟩
    · rintro ⟨he, -, -⟩
      exact he.eq h
  | unexpected e' h hk hx =>
    refine ⟨nofun, ?_⟩
    rintro ⟨he, -, hx'⟩
    obtain rfl := h.eq he
    exact absurd hx' hx
  | failure message h =>
    refine ⟨nofun, ?_⟩
    rintro ⟨he, hk, -⟩
    obtain rfl := h.eq he
    exact absurd rfl hk
  | nothing h => exact ⟨nofun, fun he => absurd he.1 (h e)⟩

theorem IsLastReply.mem (h : IsLastReply events e) : e ∈ events := by
  obtain ⟨before, after, rfl, -⟩ := h
  exact List.mem_append_right before List.mem_cons_self

theorem isCancellation_iff (code : FailureCode) :
    code.isCancellation = true ↔ code = .actionCancelled ∨ code = .pinCancelled := by
  cases code <;> simp [FailureCode.isCancellation]

section Failures

variable (hf : ∀ e ∈ events, e.kind = .failure → ∃ code text, e.message = some (.failure code text))

include hf

theorem Taken.error_kind (h : Taken events expected r) {error : Error} (he : r = .error error) :
    error.kind = .cancelled ∨ error.kind = .refused := by
  cases h with
  | reply => cases he
  | unexpected | nothing =>
    obtain rfl := Except.error.inj he
    exact .inr rfl
  | failure message hl =>
    obtain rfl := Except.error.inj he
    obtain ⟨code, text, hm⟩ := hf _ hl.mem rfl
    obtain rfl : message = _ := hm
    rw [kind_failureOf]
    split
    · exact .inl rfl
    · exact .inr rfl

theorem Taken.cancelled_iff (h : Taken events expected r) (error : Error) :
    r = .error error ∧ error.kind = .cancelled ↔
      ∃ code text, IsLastReply events ⟨.failure, some (.failure code text)⟩ ∧
        (code = .actionCancelled ∨ code = .pinCancelled) ∧ error = .deviceCancelled text := by
  cases h with
  | reply e h hk =>
    refine ⟨nofun, ?_⟩
    rintro ⟨code, text, hl, -⟩
    obtain rfl := hl.eq h
    exact absurd rfl hk
  | unexpected e h hk =>
    constructor
    · rintro ⟨he, hc⟩
      obtain rfl := Except.error.inj he
      cases hc
    · rintro ⟨code, text, hl, -⟩
      obtain rfl := hl.eq h
      exact absurd rfl hk
  | nothing h =>
    constructor
    · rintro ⟨he, hc⟩
      obtain rfl := Except.error.inj he
      cases hc
    · rintro ⟨code, text, hl, -⟩
      exact absurd hl (h _)
  | failure message h =>
    obtain ⟨code, text, hm⟩ := hf _ h.mem rfl
    obtain rfl : message = _ := hm
    constructor
    · rintro ⟨he, hc⟩
      obtain rfl := Except.error.inj he
      rw [kind_failureOf] at hc
      have hcode : code.isCancellation = true := by
        by_contra hn
        rw [if_neg hn] at hc
        cases hc
      exact ⟨code, text, h, (isCancellation_iff code).mp hcode, if_pos hcode⟩
    · rintro ⟨code', text', hl, hcode, rfl⟩
      obtain ⟨rfl, rfl⟩ : code = code' ∧ text = text' := by simpa using hl.eq h
      exact ⟨congrArg Except.error (if_pos ((isCancellation_iff code).mpr hcode)), rfl⟩

end Failures

end Event

namespace Channel

open Event (IsLastReply)

variable {c : Channel} {h : Handle} {s : Subscription}

theorem takeReply_eq (hs : c.subscription? h = some s) (expected : List EventKind) :
    c.takeReply h expected =
      (Event.replyOf s.queue s.overflowed expected, c.run [.demand h .drain]) := by
  have hd : c.drain h = (s.queue, c.run [.demand h .drain]) := Prod.ext (meet_self hs .drain).1 rfl
  have hl : (c.run [.demand h .drain]).subscription? h = some { s with queue := [] } := (meet_self hs .drain).2
  rw [takeReply, hd]
  simp only [hl]

/-- A command takes an event for the reply just if nothing was missed since it subscribed and the event is the last reply
    since then, no failure, and of a kind that is expected. Otherwise it is told that the user broke off, if nothing was
    missed and that is what the last reply says, or else that the device refused. -/
theorem takeReply_latest (v : Value) (before : List Act) (w : Value) (n : Int)
    (hn : (if w = .null then v else w).int? = some n) (hp : 1 ≤ n) :
    ∃ h c, (({ defaultCapacity := v } : Channel).run before).subscribe w = .ok (h, c) ∧
      ∀ after, (∀ x, .demand h x ∉ after) →
      let events := published after
      (∀ e ∈ events, e.kind = .failure → ∃ code text, e.message = some (.failure code text)) →
      ∀ expected,
      let result := ((c.run after).takeReply h expected).1
      (∀ e, result = .ok e ↔ (events.length : Int) ≤ n ∧ IsLastReply events e ∧ e.kind ≠ .failure ∧
        (expected = [] ∨ e.kind ∈ expected)) ∧
      (∀ error, result = .error error → error.kind = .cancelled ∨ error.kind = .refused) ∧
      ∀ error, result = .error error ∧ error.kind = .cancelled ↔ (events.length : Int) ≤ n ∧
        ∃ code text, IsLastReply events ⟨.failure, some (.failure code text)⟩ ∧
          (code = .actionCancelled ∨ code = .pinCancelled) ∧ error = .deviceCancelled text := by
  obtain ⟨m, hm, hw⟩ := Option.bind_eq_some_iff.mp hn
  have hroom : m.le (.whole 0) = false := by
    rw [Number.le_of_whole? hw rfl]
    exact decide_eq_false (by omega)
  let start : Channel := ({ defaultCapacity := v } : Channel).run before
  have hc : start.Listed := (listed_fresh v).run before
  have hv : start.defaultCapacity = v := run_defaultCapacity _ _
  have hs : start.subscribe w = .ok (start.subscriptions.length, start.add m) :=
    subscribe_of_number (hv.symm ▸ hm) hroom
  refine ⟨_, _, hs, ?_⟩
  intro after hi events hf expected result
  let s : Subscription := { capacity := m }
  have hr : result = Event.replyOf (s.offered events).queue (s.offered events).overflowed expected := by
    have hl := subscription?_of_idle (hc.add m) (subscription?_add_self start m) hi
    exact congrArg Prod.fst (takeReply_eq hl expected)
  have hfull : (s.offered events).closed = false ↔ (events.length : Int) ≤ n := by
    have h := Subscription.closed_offered_iff (s := s) rfl hw (by change (0 : Int) ≤ n; omega) events
    rwa [show s.queue.length + events.length = events.length from Nat.zero_add _] at h
  by_cases hle : (events.length : Int) ≤ n
  · have ho := Subscription.offered_of_open (hfull.mpr hle)
    have ht : Event.Taken events expected result := by
      rw [hr, ho]
      exact Event.replyOf_taken events expected
    refine ⟨fun e => ?_, fun error => ht.error_kind hf, fun error => ?_⟩
    · rw [ht.ok_iff e, and_iff_right hle]
    · rw [ht.cancelled_iff hf error, and_iff_right hle]
  · have ho : (s.offered events).overflowed = true := by
      rw [Subscription.overflowed_offered_iff (s := s) rfl rfl]
      exact Bool.ne_false_iff.mp fun h => hle (hfull.mp h)
    have hmissed : result = .error .repliesMissed := by
      rw [hr, ho]
      rfl
    rw [hmissed]
    refine ⟨fun e => ⟨nofun, fun h => absurd h.1 hle⟩, ?_, fun error => ⟨?_, fun h => absurd h.1 hle⟩⟩
    · intro error he
      obtain rfl := Except.error.inj he
      exact .inr rfl
    · rintro ⟨he, hk⟩
      obtain rfl := Except.error.inj he
      cases hk

theorem two_places_latest :
    let done : Event := ⟨.success, some (.success (.text "done"))⟩
    let after : List Act := [.publish done, .subscribe .null, .publish ⟨.deviceDisconnected, none⟩]
    (Value.int 2).int? = some 2 ∧ ∃ h c, ({} : Channel).subscribe (.int 2) = .ok (h, c) ∧
      (∀ x, .demand h x ∉ after ++ [.publish done]) ∧
      ((c.run after).takeReply h [.success]).1 = .ok done ∧
      ∀ e, ((c.run (after ++ [.publish done])).takeReply h [.success]).1 ≠ .ok e := by
  intro done after
  obtain ⟨h, c, hs, hr⟩ := takeReply_latest (.int 64) [] (.int 2) 2 rfl (by decide)
  have hi : ∀ x, .demand h x ∉ after ++ [.publish done] := by simp [after]
  have hf : ∀ e ∈ published (after ++ [.publish done]), e.kind = .failure →
      ∃ code text, e.message = some (.failure code text) := by
    have hn : ∀ e ∈ published (after ++ [.publish done]), e.kind ≠ .failure := by decide
    exact fun e he hk => absurd hk (hn e he)
  refine ⟨rfl, h, c, hs, hi, ?_, ?_⟩
  · have hlast : IsLastReply (published after) done := ⟨[], [⟨.deviceDisconnected, none⟩], rfl, rfl, by decide⟩
    obtain ⟨ok, -⟩ := hr after (fun x hx => hi x (List.mem_append_left _ hx))
      (fun e he => hf e (by rw [published_append]; exact List.mem_append_left _ he)) [.success]
    exact (ok done).mpr ⟨by decide, hlast, nofun, .inr (by decide)⟩
  · intro e he
    have hle := (((hr _ hi hf [.success]).1 e).mp he).1
    exact absurd hle (by decide)

end Channel

end HardwareWallet
