import HardwareWallet.Proofs.Channel.Delivery

namespace HardwareWallet

namespace Subscription

variable {s : Subscription} {events more : List Event}

def offered (s : Subscription) (events : List Event) : Subscription :=
  events.foldl offer s

@[simp] theorem offered_nil (s : Subscription) : s.offered [] = s := rfl

theorem offered_cons (s : Subscription) (e : Event) (events : List Event) :
    s.offered (e :: events) = (s.offer e).offered events := rfl

theorem offered_append (s : Subscription) (events more : List Event) :
    s.offered (events ++ more) = (s.offered events).offered more :=
  List.foldl_append ..

theorem live_events (s : Subscription) (events : List Event) : s.live (events.map .event) = s.offered events :=
  List.foldl_map ..

theorem offered_of_closed (h : s.closed = true) (events : List Event) : s.offered events = s := by
  induction events with
  | nil => rfl
  | cons e events ih => rw [offered_cons, offer_of_closed e h, ih]

theorem offered_cases (h : s.closed = false) (events : List Event) :
    s.offered events = { s with queue := s.queue ++ events } ∨
      ((s.offered events).closed = true ∧ (s.offered events).overflowed = true) := by
  induction events generalizing s with
  | nil => exact .inl (by rw [List.append_nil]; rfl)
  | cons e events ih =>
    rw [offered_cons]
    cases hf : s.isFull with
    | true =>
      rw [offer_of_full e h hf, offered_of_closed rfl]
      exact .inr ⟨rfl, rfl⟩
    | false =>
      rw [offer_of_room e h hf]
      have ht := ih (s := { s with queue := s.queue ++ [e] }) h
      rwa [List.append_assoc] at ht

theorem offered_of_open (h : (s.offered events).closed = false) :
    s.offered events = { s with queue := s.queue ++ events } := by
  by_cases hc : s.closed = true
  · rw [offered_of_closed hc, hc] at h
    cases h
  · rcases offered_cases (Bool.eq_false_iff.mpr hc) events with ho | ⟨closed, -⟩
    · exact ho
    · rw [closed] at h
      cases h

theorem overflowed_offered_iff (h : s.closed = false) (ho : s.overflowed = false) (events : List Event) :
    (s.offered events).overflowed = true ↔ (s.offered events).closed = true := by
  rcases offered_cases h events with hr | ⟨closed, overflowed⟩
  · rw [hr, h, ho]
  · rw [closed, overflowed]

theorem closed_offered_iff {n : Int} (h : s.closed = false) (hn : s.capacity.whole? = some n)
    (hq : (s.queue.length : Int) ≤ n) (events : List Event) :
    (s.offered events).closed = false ↔ ((s.queue.length + events.length : Nat) : Int) ≤ n := by
  induction events generalizing s with
  | nil => simpa [h] using hq
  | cons e events ih =>
    have hl := Number.le_of_whole? hn (b := .whole s.queue.length) rfl
    rw [offered_cons, List.length_cons]
    cases hf : s.isFull with
    | true =>
      have hfull : n ≤ s.queue.length := of_decide_eq_true (hl.symm.trans hf)
      rw [offer_of_full e h hf, offered_of_closed rfl]
      refine ⟨nofun, fun hle => ?_⟩
      omega
    | false =>
      have hroom : ¬ n ≤ s.queue.length := of_decide_eq_false (hl.symm.trans hf)
      have hlen : (s.queue ++ [e]).length = s.queue.length + 1 := List.length_append
      rw [offer_of_room e h hf, ih (s := { s with queue := s.queue ++ [e] }) h hn (by rw [hlen]; omega), hlen]
      omega

end Subscription

namespace Channel

open Subscription

variable {c : Channel} {h : Handle} {s : Subscription} {acts : List Act}

theorem concerns_of_idle (hi : ∀ x, .demand h x ∉ acts) :
    acts.filterMap (Act.concern? h) = (published acts).map .event := by
  induction acts with
  | nil => rfl
  | cons a acts ih =>
    have ht : ∀ x, .demand h x ∉ acts := fun x hx => hi x (List.mem_cons_of_mem a hx)
    cases a with
    | subscribe v => exact ih ht
    | publish e => exact congrArg (List.cons (Concern.event e)) (ih ht)
    | demand k x =>
      have hk : k ≠ h := by
        rintro rfl
        exact hi x List.mem_cons_self
      have hn : (Act.demand k x).concern? h = none := if_neg hk
      rw [List.filterMap_cons_none hn, ih ht]
      rfl

theorem subscription?_of_idle (hc : c.Listed) (hs : c.subscription? h = some s) (hi : ∀ x, .demand h x ∉ acts) :
    (c.run acts).subscription? h = some (s.offered (published acts)) := by
  rw [(run_attends hc hs acts).1, concerns_of_idle hi, live_events]

end Channel

end HardwareWallet
