import HardwareWallet.Proofs.Channel.Subscribers
import HardwareWallet.Proofs.Since
import Mathlib.Data.List.Induction

namespace HardwareWallet

namespace Subscription

variable {s : Subscription}

theorem live_append (s : Subscription) (concerns more : List Concern) :
    s.live (concerns ++ more) = (s.live concerns).live more :=
  List.foldl_append ..

theorem gets_append (s : Subscription) (concerns more : List Concern) :
    s.gets (concerns ++ more) = s.gets concerns ++ (s.live concerns).gets more := by
  induction concerns generalizing s with
  | nil => rfl
  | cons x concerns ih =>
    rw [List.cons_append, gets, gets, ih, List.append_assoc]
    rfl

/-- There was room for every event in the queue, and a subscription that overflowed is closed. -/
structure Bounded (s : Subscription) : Prop where
  room : ∀ j < s.queue.length, s.capacity.le (.whole j) = false
  overflow : s.overflowed = true → s.closed = true

theorem Bounded.shorter (h : s.Bounded) {s' : Subscription} (hc : s'.capacity = s.capacity)
    (hq : s'.queue.length ≤ s.queue.length) (ho : s'.overflowed = s.overflowed)
    (hd : s.closed = true → s'.closed = true) : s'.Bounded where
  room j hj := by
    rw [hc]
    exact h.room j (Nat.lt_of_lt_of_le hj hq)
  overflow hs := by
    rw [ho] at hs
    exact hd (h.overflow hs)

theorem meet_keeps_closed (x : Demand) (h : s.closed = true) : (s.meet x).2.closed = true := by
  by_cases hx : x = .close
  · subst hx
    rfl
  · rw [meet_closed s hx, h]

theorem Bounded.meet (h : s.Bounded) (x : Demand) : (s.meet x).2.Bounded := by
  have hq : (s.meet x).2.queue.length ≤ s.queue.length := by
    have := congrArg List.length (meet_queue s x)
    rw [List.length_append] at this
    omega
  exact h.shorter (meet_capacity s x) hq (meet_overflowed s x) (meet_keeps_closed x)

theorem Bounded.offer (h : s.Bounded) (e : Event) : (s.offer e).Bounded := by
  cases hc : s.closed with
  | true =>
    rw [offer_of_closed e hc]
    exact h
  | false =>
    cases hf : s.isFull with
    | true =>
      rw [offer_of_full e hc hf]
      exact ⟨h.room, fun _ => rfl⟩
    | false =>
      rw [offer_of_room e hc hf]
      refine ⟨?_, h.overflow⟩
      intro j hj
      rw [List.length_append, List.length_singleton] at hj
      rcases Nat.lt_succ_iff_lt_or_eq.mp hj with hj | rfl
      · exact h.room j hj
      · exact hf

theorem Bounded.attend (h : s.Bounded) (x : Concern) : (s.attend x).2.Bounded := by
  cases x with
  | event e => exact h.offer e
  | demand x => exact h.meet x

theorem Bounded.live (h : s.Bounded) (concerns : List Concern) : (s.live concerns).Bounded := by
  induction concerns generalizing s with
  | nil => exact h
  | cons x concerns ih => exact ih (h.attend x)

theorem bounded_fresh (n : Number) : ({ capacity := n } : Subscription).Bounded :=
  ⟨nofun, nofun⟩

theorem attend_capacity (s : Subscription) (x : Concern) : (s.attend x).2.capacity = s.capacity := by
  cases x with
  | event e =>
    change (s.offer e).capacity = s.capacity
    unfold offer
    split
    · rfl
    · split <;> rfl
  | demand x => exact meet_capacity s x

theorem live_capacity (s : Subscription) (concerns : List Concern) : (s.live concerns).capacity = s.capacity := by
  induction concerns generalizing s with
  | nil => rfl
  | cons x concerns ih => exact (ih _).trans (attend_capacity s x)

def Concern.event? : Concern → Option Event
  | .event e => some e
  | .demand _ => none

def Concern.ends (s : Subscription) : Concern → Bool
  | .event _ => s.isFull
  | .demand x => x = .close

theorem attend_closed (x : Concern) (h : s.closed = true) :
    (s.attend x).1 ++ (s.attend x).2.queue = s.queue ∧ (s.attend x).2.closed = true ∧
      (s.attend x).2.overflowed = s.overflowed := by
  cases x with
  | event e =>
    change [] ++ (s.offer e).queue = s.queue ∧ (s.offer e).closed = true ∧ (s.offer e).overflowed = s.overflowed
    rw [offer_of_closed e h]
    exact ⟨rfl, h, rfl⟩
  | demand x => exact ⟨meet_queue s x, meet_keeps_closed x h, meet_overflowed s x⟩

theorem attend_open {x : Concern} (h : s.closed = false) (hx : x.ends s = false) :
    (s.attend x).1 ++ (s.attend x).2.queue = s.queue ++ x.event?.toList ∧ (s.attend x).2.closed = false ∧
      (s.attend x).2.overflowed = s.overflowed := by
  cases x with
  | event e =>
    change [] ++ (s.offer e).queue = s.queue ++ [e] ∧ (s.offer e).closed = false ∧ (s.offer e).overflowed = s.overflowed
    rw [offer_of_room e h hx]
    exact ⟨rfl, h, rfl⟩
  | demand x =>
    refine ⟨(meet_queue s x).trans (List.append_nil _).symm, ?_, meet_overflowed s x⟩
    exact (meet_closed s (of_decide_eq_false hx)).trans h

theorem attend_last {x : Concern} (h : s.closed = false) (ho : s.overflowed = false) (hx : x.ends s = true) :
    (s.attend x).1 ++ (s.attend x).2.queue = s.queue ∧ (s.attend x).2.closed = true ∧
      ((s.attend x).2.overflowed = true ↔ x ≠ .demand .close) := by
  cases x with
  | event e =>
    change [] ++ (s.offer e).queue = s.queue ∧ (s.offer e).closed = true ∧ ((s.offer e).overflowed = true ↔ _)
    rw [offer_of_full e h hx]
    exact ⟨rfl, rfl, fun _ => nofun, fun _ => rfl⟩
  | demand x =>
    obtain rfl : x = .close := of_decide_eq_true hx
    exact ⟨rfl, rfl, fun hf => absurd (ho.symm.trans hf) nofun, fun hne => absurd rfl hne⟩

theorem Bounded.isFull_iff (h : s.Bounded) {n : Int} (hn : s.capacity.whole? = some n) (hp : 0 ≤ n) :
    (s.queue.length : Int) ≤ n ∧ (s.isFull = true ↔ (s.queue.length : Int) = n) := by
  have hl : (s.queue.length : Int) ≤ n := by
    rcases Nat.eq_zero_or_pos s.queue.length with hq | hq
    · omega
    · have hr := h.room (s.queue.length - 1) (by omega)
      rw [Number.le_of_whole? hn rfl, decide_eq_false_iff_not] at hr
      omega
  refine ⟨hl, ?_⟩
  rw [isFull, Number.le_of_whole? hn rfl, decide_eq_true_iff]
  omega

end Subscription

namespace Channel

open Subscription

variable {c c' : Channel} {h k : Handle} {s s' : Subscription} {v : Value} {a : Act} {acts : List Act}

theorem meet_self (hs : c.subscription? h = some s) (x : Demand) :
    (c.meet h x).1 = (s.meet x).1 ∧ (c.meet h x).2.subscription? h = some (s.meet x).2 := by
  have hn : c.next h = (s.queue.head?, c.update h fun s => { s with queue := s.queue.tail }) := by
    rw [next, hs]
  have hu : (c.next h).2.subscription? h = some { s with queue := s.queue.tail } := by
    rw [hn, subscription?_update_self, hs]
    rfl
  cases x with
  | drain =>
    have hd : c.drain h = (s.queue, c.update h fun s => { s with queue := [] }) := by
      rw [drain, hs]
    refine ⟨congrArg Prod.fst hd, ?_⟩
    change (c.drain h).2.subscription? h = _
    rw [hd, subscription?_update_self, hs]
    rfl
  | take => exact ⟨by rw [meet, hn]; rfl, hu⟩
  | close =>
    refine ⟨rfl, ?_⟩
    change (c.update h fun s => { s with closed := true }).subscription? h = _
    rw [subscription?_update_self, hs]
    rfl
  | await timeout =>
    have hf : (c.next h).1 = s.queue.head? := congrArg Prod.fst hn
    simp only [meet, Subscription.meet, await, hf]
    cases timeout.await s.queue.head? with
    | error => exact ⟨rfl, hs⟩
    | ok front =>
      cases front with
      | none => exact ⟨rfl, hs⟩
      | some e => exact ⟨rfl, hu⟩

theorem meet_other (x : Demand) (hk : k ≠ h) : (c.meet h x).2.subscription? k = c.subscription? k := by
  by_cases hx : x = .close
  · subst hx
    exact subscription?_update_other c _ hk
  · obtain ⟨f, -, hm⟩ := meet_update c h hx
    rw [hm, subscription?_update_other c f hk]

theorem subscription?_of_subscribe (hs : c.subscription? h = some s) (v : Value) :
    (c.act (.subscribe v)).subscription? h = some s := by
  unfold act
  dsimp only
  split
  · rename_i ha
    obtain ⟨n, -, -, -, rfl⟩ := subscribe_eq_ok ha
    rw [subscription?_add_old c n (List.getElem?_eq_some_iff.mp hs).1, hs]
  · exact hs

theorem act_attends (hc : c.Listed) (hs : c.subscription? h = some s) (a : Act) :
    (c.act a).subscription? h = some (s.live (a.concern? h).toList) ∧ a.got c h = s.gets (a.concern? h).toList := by
  cases a with
  | subscribe v => exact ⟨subscription?_of_subscribe hs v, rfl⟩
  | publish e =>
    refine ⟨?_, rfl⟩
    change (c.publish e).1.subscription? h = some (s.offer e)
    rw [subscription?_publish hc, hs, Option.map_some]
  | demand k x =>
    by_cases hk : k = h
    · subst hk
      obtain ⟨hg, hm⟩ := meet_self hs x
      simp only [Act.concern?, Act.got, ↓reduceIte]
      exact ⟨hm, hg.trans (List.append_nil _).symm⟩
    · simp only [Act.concern?, Act.got, hk, ↓reduceIte]
      exact ⟨(meet_other x (Ne.symm hk)).trans hs, rfl⟩

theorem run_attends (hc : c.Listed) (hs : c.subscription? h = some s) (acts : List Act) :
    (c.run acts).subscription? h = some (s.live (acts.filterMap (Act.concern? h))) ∧
      c.received h acts = s.gets (acts.filterMap (Act.concern? h)) := by
  induction acts generalizing c s with
  | nil => exact ⟨hs, rfl⟩
  | cons a acts ih =>
    obtain ⟨ha, hg⟩ := act_attends hc hs a
    obtain ⟨hl, hr⟩ := ih (hc.act a) ha
    have hf : (a :: acts).filterMap (Act.concern? h) =
        (a.concern? h).toList ++ acts.filterMap (Act.concern? h) := by
      rw [List.filterMap_cons]
      cases a.concern? h <;> rfl
    rw [hf, live_append, gets_append, ← hl, ← hr, ← hg]
    exact ⟨rfl, rfl⟩

def Ends (c : Channel) (h : Handle) (past : List Act) (a : Act) : Prop :=
  a = .demand h .close ∨ ∃ e s, a = .publish e ∧ (c.run past).subscription? h = some s ∧ s.isFull = true

def Goes (c : Channel) (h : Handle) (acts : List Act) : Prop :=
  ¬ Since (c.Ends h) (fun _ => True) acts

theorem goes_concat (hg : c.Goes h acts) (ha : ¬ c.Ends h acts a) : c.Goes h (acts ++ [a]) := by
  rw [Goes, since_concat]
  rintro (⟨he, -⟩ | hs)
  · exact ha he
  · exact hg hs

structure Delivery (c : Channel) (h : Handle) (acts : List Act) (s : Subscription) : Prop where
  whole : s.closed = false →
    c.Goes h acts ∧ c.received h acts ++ s.queue = published acts ∧ s.overflowed = false
  ended : s.closed = true →
    ∃ past a rest, acts = past ++ a :: rest ∧ c.Goes h past ∧ c.Ends h past a ∧
      c.received h acts ++ s.queue = published past ∧ (s.overflowed = true ↔ a ≠ .demand h .close)

theorem ends_iff (hs : (c.run acts).subscription? h = some s) :
    c.Ends h acts a ↔ ∃ x, a.concern? h = some x ∧ x.ends s = true := by
  constructor
  · rintro (rfl | ⟨e, t, rfl, ht, hf⟩)
    · exact ⟨.demand .close, if_pos rfl, rfl⟩
    · obtain rfl := Option.some_inj.mp (hs.symm.trans ht)
      exact ⟨.event e, rfl, hf⟩
  · rintro ⟨x, hx, he⟩
    cases a with
    | subscribe v => cases hx
    | publish e =>
      obtain rfl := Option.some_inj.mp hx
      exact .inr ⟨e, s, rfl, hs, he⟩
    | demand k y =>
      by_cases hk : k = h
      · subst hk
        obtain rfl := Option.some_inj.mp ((if_pos rfl).symm.trans hx)
        exact .inl (congrArg (Act.demand k) (of_decide_eq_true he))
      · cases (if_neg hk).symm.trans hx

theorem concern?_eq_close : a.concern? h = some (.demand .close) ↔ a = .demand h .close := by
  cases a with
  | demand k x =>
    by_cases hk : k = h <;> simp [Act.concern?, hk]
  | _ => simp [Act.concern?]

theorem event?_eq (a : Act) (h : Handle) : a.event? = (a.concern? h).bind Concern.event? := by
  cases a with
  | demand k x =>
    by_cases hk : k = h <;> simp [Act.concern?, Act.event?, Concern.event?, hk]
  | _ => rfl

theorem Delivery.aside (hc : (c.run acts).Listed) (hs : (c.run acts).subscription? h = some s)
    (hd : c.Delivery h acts s) (ha : a.concern? h = none) : c.Delivery h (acts ++ [a]) s := by
  have hg : c.received h (acts ++ [a]) = c.received h acts := by
    rw [received_concat, (act_attends hc hs a).2, ha]
    exact List.append_nil _
  have hp : published (acts ++ [a]) = published acts := by
    rw [published_concat, event?_eq a h, ha]
    exact List.append_nil _
  have he : ¬ c.Ends h acts a := by
    rw [ends_iff hs, ha]
    rintro ⟨x, hx, -⟩
    cases hx
  constructor
  · intro ho
    obtain ⟨goes, got, overflowed⟩ := hd.whole ho
    exact ⟨goes_concat goes he, by rw [hg, hp, got], overflowed⟩
  · intro ho
    obtain ⟨past, b, rest, rfl, goes, ends, got, overflowed⟩ := hd.ended ho
    exact ⟨past, b, rest ++ [a], by simp, goes, ends, by rw [hg, got], overflowed⟩

theorem Delivery.concern {x : Concern} (hc : (c.run acts).Listed) (hs : (c.run acts).subscription? h = some s)
    (hd : c.Delivery h acts s) (ha : a.concern? h = some x) : c.Delivery h (acts ++ [a]) (s.attend x).2 := by
  have hg : c.received h (acts ++ [a]) ++ (s.attend x).2.queue =
      c.received h acts ++ ((s.attend x).1 ++ (s.attend x).2.queue) := by
    rw [received_concat, (act_attends hc hs a).2, ha, List.append_assoc]
    simp [gets]
  have hp : published (acts ++ [a]) = published acts ++ x.event?.toList := by
    rw [published_concat, event?_eq a h, ha]
    rfl
  cases ho : s.closed with
  | true =>
    obtain ⟨queue, closed, overflowed⟩ := attend_closed x ho
    refine ⟨fun h => absurd h (by simp [closed]), fun _ => ?_⟩
    obtain ⟨past, b, rest, rfl, goes, ends, got, full⟩ := hd.ended ho
    exact ⟨past, b, rest ++ [a], by simp, goes, ends, by rw [hg, queue, got], by rw [overflowed, full]⟩
  | false =>
    obtain ⟨goes, got, full⟩ := hd.whole ho
    cases he : x.ends s with
    | true =>
      obtain ⟨queue, closed, overflowed⟩ := attend_last ho full he
      refine ⟨fun h => absurd h (by simp [closed]), fun _ => ?_⟩
      refine ⟨acts, a, [], rfl, goes, (ends_iff hs).mpr ⟨x, ha, he⟩, by rw [hg, queue, got], ?_⟩
      rw [overflowed, ne_eq, ne_eq, ← concern?_eq_close, ha, Option.some_inj]
    | false =>
      obtain ⟨queue, closed, overflowed⟩ := attend_open ho he
      refine ⟨fun _ => ?_, fun h => absurd h (by simp [closed])⟩
      refine ⟨goes_concat goes ?_, by rw [hg, queue, hp, ← got, List.append_assoc], by rw [overflowed, full]⟩
      rw [ends_iff hs, ha]
      rintro ⟨y, hy, hey⟩
      obtain rfl := Option.some_inj.mp hy
      rw [he] at hey
      cases hey

theorem Delivery.concat (hc : (c.run acts).Listed) (hs : (c.run acts).subscription? h = some s)
    (hd : c.Delivery h acts s) (a : Act) : c.Delivery h (acts ++ [a]) (s.live (a.concern? h).toList) := by
  cases ha : a.concern? h with
  | none => exact hd.aside hc hs ha
  | some x => exact hd.concern hc hs ha

theorem delivery_run (hc : c.Listed) {n : Number} (hs : c.subscription? h = some { capacity := n }) (acts : List Act) :
    ∃ s, (c.run acts).subscription? h = some s ∧ c.Delivery h acts s := by
  induction acts using List.reverseRecOn with
  | nil => exact ⟨_, hs, fun _ => ⟨not_since_nil, rfl, rfl⟩, nofun⟩
  | append_singleton acts a ih =>
    obtain ⟨s, hs, hd⟩ := ih
    refine ⟨_, ?_, hd.concat (hc.run acts) hs a⟩
    rw [run_append]
    exact (act_attends (hc.run acts) hs a).1

theorem published_append (acts more : List Act) : published (acts ++ more) = published acts ++ published more :=
  List.filterMap_append

theorem Delivery.received_le (hd : c.Delivery h acts s) : c.received h acts ++ s.queue <+: published acts := by
  cases ho : s.closed with
  | false =>
    obtain ⟨-, got, -⟩ := hd.whole ho
    exact ⟨[], by rw [List.append_nil, got]⟩
  | true =>
    obtain ⟨past, a, rest, rfl, -, -, got, -⟩ := hd.ended ho
    rw [got, published_append]
    exact List.prefix_append _ _

theorem meet_defaultCapacity (c : Channel) (h : Handle) (x : Demand) :
    (c.meet h x).2.defaultCapacity = c.defaultCapacity := by
  by_cases hx : x = .close
  · subst hx
    rfl
  · obtain ⟨f, -, hm⟩ := meet_update c h hx
    rw [hm]
    rfl

theorem act_defaultCapacity (c : Channel) (a : Act) : (c.act a).defaultCapacity = c.defaultCapacity := by
  cases a with
  | publish e => rfl
  | demand h x => exact meet_defaultCapacity c h x
  | subscribe v =>
    unfold act
    dsimp only
    split
    · rename_i hs
      obtain ⟨n, -, -, -, rfl⟩ := subscribe_eq_ok hs
      rfl
    · rfl

theorem run_defaultCapacity (c : Channel) (acts : List Act) : (c.run acts).defaultCapacity = c.defaultCapacity := by
  induction acts generalizing c with
  | nil => rfl
  | cons a acts ih => exact (ih _).trans (act_defaultCapacity c a)

theorem length_filter_range {α : Type} (p : α → Bool) (xs : List α) :
    ((List.range xs.length).filter fun k => xs[k]?.any p).length = xs.countP p := by
  induction xs with
  | nil => rfl
  | cons x xs ih =>
    have ht : (List.range xs.length).filter ((fun k => (x :: xs)[k]?.any p) ∘ Nat.succ) =
        (List.range xs.length).filter fun k => xs[k]?.any p := rfl
    rw [List.length_cons, List.range_succ_eq_map, List.filter_cons, List.filter_map, ht, List.countP_cons, ← ih]
    cases hp : p x <;> simp [hp]

theorem subscriberCount_eq (hc : c.Listed) : c.subscriberCount = c.subscriptions.countP fun s => !s.closed := by
  rw [subscriberCount, hc]
  exact length_filter_range _ _

section Subscribed

variable {w : Value} {n : Number} (hc : c.Listed) (hs : c.subscribe w = .ok (h, c'))
  (hn : (if w = .null then c.defaultCapacity else w).number? = some n) (acts : List Act)

include hc hs hn

theorem subscribed_attends :
    (c'.run acts).subscription? h = some (({ capacity := n } : Subscription).live (acts.filterMap (Act.concern? h))) ∧
      c'.received h acts = ({ capacity := n } : Subscription).gets (acts.filterMap (Act.concern? h)) := by
  obtain ⟨m, hm, -, rfl, rfl⟩ := subscribe_eq_ok hs
  obtain rfl := Option.some_inj.mp (hn.symm.trans hm)
  exact run_attends (hc.add n) (subscription?_add_self c n) acts

theorem subscribed_delivery :
    ∃ s, (c'.run acts).subscription? h = some s ∧ s.capacity = n ∧ s.Bounded ∧ c'.Delivery h acts s := by
  obtain ⟨m, hm, -, rfl, rfl⟩ := subscribe_eq_ok hs
  obtain rfl := Option.some_inj.mp (hn.symm.trans hm)
  obtain ⟨s, hr, hd⟩ := delivery_run (hc.add n) (subscription?_add_self c n) acts
  have hl := (run_attends (hc.add n) (subscription?_add_self c n) acts).1
  obtain rfl := Option.some_inj.mp (hr.symm.trans hl)
  exact ⟨_, hr, live_capacity _ _, (bounded_fresh n).live _, hd⟩

end Subscribed

/-- What a subscriber has read and what is still in its queue is what was published until its subscription ended, in
    order. A subscription ends when it is closed, or at the first event for which there is no room. The subscribers of
    the channel are the subscriptions that have not ended, and none of them makes a difference to another. -/
theorem delivery_exact (v : Value) (acts : List Act) :
    let start : Channel := { defaultCapacity := v }
    (start.run acts).subscribers =
        (List.range (start.run acts).subscriptions.length).filter (start.run acts).isOpen ∧
      (start.run acts).subscriberCount = (start.run acts).subscriptions.countP (fun s => !s.closed) ∧
      ∀ before w after h c, acts = before ++ .subscribe w :: after → (start.run before).subscribe w = .ok (h, c) →
        h = (start.run before).subscriptions.length ∧
        ∃ s, (start.run acts).subscription? h = some s ∧
          (if w = .null then v else w).number? = some s.capacity ∧
          c.received h after ++ s.queue <+: published after ∧
          (s.closed = false → c.received h after ++ s.queue = published after ∧ c.Goes h after) ∧
          (s.closed = true → ∃ past a rest, after = past ++ a :: rest ∧
            c.received h after ++ s.queue = published past ∧ c.Goes h past ∧ c.Ends h past a ∧
            (s.overflowed = true ↔ a ≠ .demand h .close)) ∧
          (s.overflowed = true → s.closed = true) ∧
          (∀ n, s.capacity.whole? = some n →
            (s.queue.length : Int) ≤ n ∧ (s.isFull = true ↔ (s.queue.length : Int) = n)) ∧
          ∀ v' before' w' after' h' c', (({ defaultCapacity := v' } : Channel).run before').subscribe w' = .ok (h', c') →
            (if w' = .null then v' else w').number? = some s.capacity →
            after'.filterMap (Act.concern? h') = after.filterMap (Act.concern? h) →
            c'.received h' after' = c.received h after ∧ (c'.run after').subscription? h' = some s := by
  intro start
  have hc : ∀ acts, (start.run acts).Listed := fun acts => (listed_fresh v).run acts
  refine ⟨hc acts, subscriberCount_eq (hc acts), ?_⟩
  rintro before w after h c rfl hs
  have hrun : start.run (before ++ .subscribe w :: after) = c.run after := by
    rw [run_append, run_cons, act, hs]
  obtain ⟨n, hn, hp, hh, -⟩ := subscribe_eq_ok hs
  have hw := hn
  rw [run_defaultCapacity] at hw
  obtain ⟨s, hr, rfl, hb, hd⟩ := subscribed_delivery (hc before) hs hn after
  refine ⟨hh, s, by rw [hrun, hr], hw, hd.received_le, ?_, ?_, hb.overflow, ?_, ?_⟩
  · intro ho
    obtain ⟨goes, got, -⟩ := hd.whole ho
    exact ⟨got, goes⟩
  · intro ho
    obtain ⟨past, a, rest, he, goes, ends, got, full⟩ := hd.ended ho
    exact ⟨past, a, rest, he, got, goes, ends, full⟩
  · intro n hw
    rw [Number.le_of_whole? hw rfl, decide_eq_false_iff_not] at hp
    exact hb.isFull_iff hw (by omega)
  · intro v' before' w' after' h' c' hs' hn' hsame
    have hc' : (({ defaultCapacity := v' } : Channel).run before').Listed := (listed_fresh v').run before'
    have hv : (({ defaultCapacity := v' } : Channel).run before').defaultCapacity = v' := run_defaultCapacity _ _
    rw [← hv] at hn'
    obtain ⟨hl, hg⟩ := subscribed_attends (hc before) hs hn after
    obtain ⟨hl', hg'⟩ := subscribed_attends hc' hs' hn' after'
    rw [hg, hg', hl', ← hr, hl, hsame]
    exact ⟨rfl, rfl⟩

theorem single_place_delivery :
    let acts : List Act := [.publish ⟨.deviceAttached, none⟩, .publish ⟨.deviceConnected, none⟩, .demand 0 .drain,
      .publish ⟨.deviceDisconnected, none⟩]
    ∃ h c s, ({} : Channel).subscribe (.int 1) = .ok (h, c) ∧ (c.run acts).subscription? h = some s ∧
      c.received h acts = [⟨.deviceAttached, none⟩] ∧ s.overflowed = true ∧
      c.received h acts ++ s.queue <+: published acts := by
  intro acts
  let c : Channel := { subscriptions := [{ capacity := .whole 1 }], subscribers := [0] }
  have hs : ({} : Channel).subscribe (.int 1) = .ok (0, c) := rfl
  have hd := delivery_exact (.int 64) (.subscribe (.int 1) :: acts)
  obtain ⟨-, s, hr, -, hp, -⟩ := hd.2.2 [] (.int 1) acts 0 c rfl hs
  have hl : (c.run acts).subscription? 0 = some ⟨.whole 1, [], true, true⟩ := by decide
  obtain rfl := Option.some_inj.mp (hl.symm.trans hr)
  exact ⟨0, c, _, hs, hl, by decide, rfl, hp⟩

end Channel

end HardwareWallet
