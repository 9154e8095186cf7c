import HardwareWallet.Channel
import HardwareWallet.Proofs.Attempt
import HardwareWallet.Proofs.Number

/-!
A channel at work. Events are published on it, and whoever holds a subscription reads it and closes it. The channel
lists the subscriptions that are not closed, in the order in which they were made, and every one of them is served as
if it were alone.
-/

namespace HardwareWallet

theorem Timeout.front_of_await {α : Type} {timeout : Timeout} {front : Option α} {a : α}
    (h : timeout.await front = .ok (some a)) : front = some a := by
  unfold Timeout.await at h
  cases timeout with
  | other v => cases h
  | forever | seconds =>
    dsimp only at h
    repeat' split at h
    all_goals cases h
    all_goals rfl

namespace Subscription

inductive Demand where
  | drain
  | take
  | await (timeout : Timeout)
  | close
  deriving DecidableEq

variable {s : Subscription}

def meet (s : Subscription) : Demand → List Event × Subscription
  | .drain => (s.queue, { s with queue := [] })
  | .take => (s.queue.head?.toList, { s with queue := s.queue.tail })
  | .await timeout =>
    match timeout.await s.queue.head? with
    | .ok (some e) => ([e], { s with queue := s.queue.tail })
    | _ => ([], s)
  | .close => ([], { s with closed := true })

inductive Concern where
  | event (e : Event)
  | demand (x : Demand)
  deriving DecidableEq

def attend (s : Subscription) : Concern → List Event × Subscription
  | .event e => ([], s.offer e)
  | .demand x => s.meet x

def live (s : Subscription) (concerns : List Concern) : Subscription :=
  concerns.foldl (fun s x => (s.attend x).2) s

def gets (s : Subscription) : List Concern → List Event
  | [] => []
  | x :: concerns => (s.attend x).1 ++ (s.attend x).2.gets concerns

theorem toList_head?_append_tail {α : Type} (xs : List α) : xs.head?.toList ++ xs.tail = xs := by
  cases xs <;> rfl

theorem meet_queue (s : Subscription) (x : Demand) : (s.meet x).1 ++ (s.meet x).2.queue = s.queue := by
  cases x with
  | drain => exact List.append_nil s.queue
  | take => exact toList_head?_append_tail s.queue
  | close => rfl
  | await timeout =>
    unfold meet
    dsimp only
    split
    · rename_i e he
      have h := toList_head?_append_tail s.queue
      rw [Timeout.front_of_await he] at h
      exact h
    · rfl

theorem meet_reads (s : Subscription) (x : Demand) :
    x = .close ∨ ∃ queue, (s.meet x).2 = { s with queue := queue } := by
  cases x with
  | drain | take => exact .inr ⟨_, rfl⟩
  | close => exact .inl rfl
  | await timeout =>
    unfold meet
    dsimp only
    split <;> exact .inr ⟨_, rfl⟩

theorem meet_closed (s : Subscription) {x : Demand} (hx : x ≠ .close) : (s.meet x).2.closed = s.closed := by
  obtain ⟨queue, hm⟩ := (meet_reads s x).resolve_left hx
  rw [hm]

theorem meet_overflowed (s : Subscription) (x : Demand) : (s.meet x).2.overflowed = s.overflowed := by
  rcases meet_reads s x with rfl | ⟨queue, hm⟩
  · rfl
  · rw [hm]

theorem meet_capacity (s : Subscription) (x : Demand) : (s.meet x).2.capacity = s.capacity := by
  rcases meet_reads s x with rfl | ⟨queue, hm⟩
  · rfl
  · rw [hm]

theorem offer_of_closed (e : Event) (h : s.closed = true) : s.offer e = s :=
  if_pos h

theorem offer_of_full (e : Event) (h : s.closed = false) (hf : s.isFull = true) :
    s.offer e = { s with overflowed := true, closed := true } := by
  simp [offer, h, hf]

theorem offer_of_room (e : Event) (h : s.closed = false) (hf : s.isFull = false) :
    s.offer e = { s with queue := s.queue ++ [e] } := by
  simp [offer, h, hf]

theorem offer_closed (s : Subscription) (e : Event) : (s.offer e).closed = s.refuses := by
  unfold offer refuses
  cases hc : s.closed <;> cases hf : s.isFull <;> simp [hc]

end Subscription

namespace Channel

open Subscription

inductive Act where
  | subscribe (capacity : Value)
  | publish (e : Event)
  | demand (h : Handle) (x : Demand)
  deriving DecidableEq

def meet (c : Channel) (h : Handle) : Demand → List Event × Channel
  | .drain => c.drain h
  | .take => ((c.next h).1.toList, (c.next h).2)
  | .await timeout =>
    match c.await h timeout with
    | (.ok e, c) => ([e], c)
    | (.error _, c) => ([], c)
  | .close => ([], c.close h)

def act (c : Channel) : Act → Channel
  | .subscribe capacity =>
    match c.subscribe capacity with
    | .ok (_, c) => c
    | .error _ => c
  | .publish e => (c.publish e).1
  | .demand h x => (c.meet h x).2

def run (c : Channel) (acts : List Act) : Channel :=
  acts.foldl act c

def Act.got (c : Channel) (h : Handle) : Act → List Event
  | .demand k x => if k = h then (c.meet k x).1 else []
  | _ => []

def received (c : Channel) (h : Handle) : List Act → List Event
  | [] => []
  | a :: acts => a.got c h ++ (c.act a).received h acts

def Act.event? : Act → Option Event
  | .publish e => some e
  | _ => none

def published (acts : List Act) : List Event :=
  acts.filterMap Act.event?

def Act.concern? (h : Handle) : Act → Option Concern
  | .subscribe _ => none
  | .publish e => some (.event e)
  | .demand k x => if k = h then some (.demand x) else none

def isOpen (c : Channel) (h : Handle) : Bool :=
  (c.subscription? h).any fun s => !s.closed

def Listed (c : Channel) : Prop :=
  c.subscribers = (List.range c.subscriptions.length).filter c.isOpen

variable {c c' : Channel} {h k : Handle} {s : Subscription} {e : Event} {v : Value} {acts : List Act}

@[simp] theorem run_nil (c : Channel) : c.run [] = c := rfl

@[simp] theorem run_cons (c : Channel) (a : Act) (acts : List Act) : c.run (a :: acts) = (c.act a).run acts := rfl

theorem run_append (c : Channel) (acts more : List Act) : c.run (acts ++ more) = (c.run acts).run more :=
  List.foldl_append ..

theorem received_append (c : Channel) (h : Handle) (acts more : List Act) :
    c.received h (acts ++ more) = c.received h acts ++ (c.run acts).received h more := by
  induction acts generalizing c with
  | nil => rfl
  | cons a acts ih => simp only [List.cons_append, received, ih, run_cons, List.append_assoc]

theorem received_concat (c : Channel) (h : Handle) (acts : List Act) (a : Act) :
    c.received h (acts ++ [a]) = c.received h acts ++ a.got (c.run acts) h := by
  rw [received_append]
  simp only [received, List.append_nil]

theorem published_concat (acts : List Act) (a : Act) :
    published (acts ++ [a]) = published acts ++ a.event?.toList := by
  unfold published
  rw [List.filterMap_append]
  cases a <;> rfl

@[simp] theorem subscription?_update_self (c : Channel) (h : Handle) (f : Subscription → Subscription) :
    (c.update h f).subscription? h = (c.subscription? h).map f := by
  simp [subscription?, update]

theorem subscription?_update_other (c : Channel) (f : Subscription → Subscription) (hk : k ≠ h) :
    (c.update h f).subscription? k = c.subscription? k := by
  have hh : h ≠ k := fun he => hk he.symm
  simp [subscription?, update, hh]

theorem length_update (c : Channel) (h : Handle) (f : Subscription → Subscription) :
    (c.update h f).subscriptions.length = c.subscriptions.length :=
  List.length_modify ..

theorem subscription?_eq_none (hk : c.subscriptions.length ≤ k) : c.subscription? k = none :=
  List.getElem?_eq_none hk

theorem update_id (c : Channel) (h : Handle) : c.update h id = c := by
  rw [update, List.modify_id]

theorem next_update (c : Channel) (h : Handle) :
    ∃ f : Subscription → Subscription, (∀ s, (f s).closed = s.closed) ∧ (c.next h).2 = c.update h f := by
  unfold next
  split
  · exact ⟨fun s => { s with queue := s.queue.tail }, fun _ => rfl, rfl⟩
  · exact ⟨id, fun _ => rfl, (update_id c h).symm⟩

theorem meet_update (c : Channel) (h : Handle) {x : Demand} (hx : x ≠ .close) :
    ∃ f : Subscription → Subscription, (∀ s, (f s).closed = s.closed) ∧ (c.meet h x).2 = c.update h f := by
  cases x with
  | close => exact absurd rfl hx
  | take => exact next_update c h
  | drain =>
    unfold meet drain
    dsimp only
    split
    · exact ⟨fun s => { s with queue := [] }, fun _ => rfl, rfl⟩
    · exact ⟨id, fun _ => rfl, (update_id c h).symm⟩
  | await timeout =>
    unfold meet await
    dsimp only
    cases timeout.await (c.next h).1 with
    | error => exact ⟨id, fun _ => rfl, (update_id c h).symm⟩
    | ok front =>
      cases front with
      | none => exact ⟨id, fun _ => rfl, (update_id c h).symm⟩
      | some e => exact next_update c h

theorem getElem?_foldl_modify {α : Type} (f : α → α) (places : List Nat) (hn : places.Nodup) (xs : List α)
    (k : Nat) : (places.foldl (fun xs h => xs.modify h f) xs)[k]? = if k ∈ places then xs[k]?.map f else xs[k]? := by
  induction places generalizing xs with
  | nil => rfl
  | cons h places ih =>
    obtain ⟨hh, hn⟩ := List.nodup_cons.mp hn
    rw [List.foldl_cons, ih hn]
    by_cases hk : k = h
    · subst hk
      simp [hh]
    · have : h ≠ k := fun he => hk he.symm
      simp [hk, this]

theorem length_foldl_modify {α : Type} (f : α → α) (places : List Nat) (xs : List α) :
    (places.foldl (fun xs h => xs.modify h f) xs).length = xs.length := by
  induction places generalizing xs with
  | nil => rfl
  | cons h places ih => rw [List.foldl_cons, ih, List.length_modify]

theorem Listed.nodup (hc : c.Listed) : c.subscribers.Nodup := by
  rw [hc]
  exact List.nodup_range.filter _

theorem Listed.mem_iff (hc : c.Listed) : h ∈ c.subscribers ↔ c.isOpen h = true := by
  rw [hc, List.mem_filter, List.mem_range]
  refine ⟨fun hm => hm.2, fun ho => ⟨?_, ho⟩⟩
  apply Nat.lt_of_not_le
  intro hl
  rw [isOpen, subscription?_eq_none hl] at ho
  cases ho

theorem length_publish (c : Channel) (e : Event) :
    (c.publish e).1.subscriptions.length = c.subscriptions.length :=
  length_foldl_modify ..

theorem subscription?_publish (hc : c.Listed) (e : Event) (h : Handle) :
    (c.publish e).1.subscription? h = (c.subscription? h).map (·.offer e) := by
  have hp : (c.publish e).1.subscription? h =
      if h ∈ c.subscribers then (c.subscription? h).map (·.offer e) else c.subscription? h :=
    getElem?_foldl_modify _ _ hc.nodup _ _
  rw [hp]
  split
  · rfl
  · rename_i hm
    cases hs : c.subscription? h with
    | none => rfl
    | some s =>
      have hs' : s.closed = true := by
        rw [hc.mem_iff, isOpen, hs] at hm
        simpa using hm
      rw [Option.map_some, offer_of_closed e hs']

theorem Listed.publish (hc : c.Listed) (e : Event) : (c.publish e).1.Listed := by
  have hs : (c.publish e).1.subscribers = c.subscribers.filter fun h => !c.refuses h := rfl
  unfold Listed
  rw [hs, length_publish, hc, List.filter_filter]
  apply List.filter_congr
  intro h _
  unfold isOpen refuses
  rw [subscription?_publish hc]
  cases c.subscription? h with
  | none => rfl
  | some s =>
    simp only [Option.map_some, Option.any_some, offer_closed, Subscription.refuses]
    cases s.closed <;> simp

theorem isOpen_update {f : Subscription → Subscription} (hf : ∀ s, (f s).closed = s.closed) :
    (c.update h f).isOpen = c.isOpen := by
  funext k
  unfold isOpen
  by_cases hk : k = h
  · subst hk
    rw [subscription?_update_self]
    cases c.subscription? k with
    | none => rfl
    | some s => simp [hf]
  · rw [subscription?_update_other c f hk]

theorem Listed.update (hc : c.Listed) {f : Subscription → Subscription} (hf : ∀ s, (f s).closed = s.closed) :
    (c.update h f).Listed := by
  have hs : (c.update h f).subscribers = c.subscribers := rfl
  unfold Listed
  rw [hs, length_update, isOpen_update hf, hc]

theorem isOpen_close (c : Channel) (h k : Handle) : (c.close h).isOpen k = (k != h && c.isOpen k) := by
  have hs : (c.close h).subscription? k = (c.update h fun s => { s with closed := true }).subscription? k := rfl
  unfold isOpen
  rw [hs]
  by_cases hk : k = h
  · subst hk
    rw [subscription?_update_self]
    cases c.subscription? k <;> simp
  · rw [subscription?_update_other c _ hk]
    simp [hk]

theorem Listed.close (hc : c.Listed) (h : Handle) : (c.close h).Listed := by
  have hs : (c.close h).subscribers = c.subscribers.erase h := rfl
  have hl : (c.close h).subscriptions.length = c.subscriptions.length := length_update ..
  unfold Listed
  rw [hs, hl, hc.nodup.erase_eq_filter, hc, List.filter_filter]
  apply List.filter_congr
  intro k _
  rw [isOpen_close]

theorem Listed.meet (hc : c.Listed) (h : Handle) (x : Demand) : (c.meet h x).2.Listed := by
  by_cases hx : x = .close
  · subst hx
    exact hc.close h
  · obtain ⟨f, hf, hm⟩ := meet_update c h hx
    rw [hm]
    exact hc.update hf

def add (c : Channel) (n : Number) : Channel :=
  { c with
    subscriptions := c.subscriptions ++ [{ capacity := n }]
    subscribers := c.subscribers ++ [c.subscriptions.length] }

theorem subscription?_add_self (c : Channel) (n : Number) :
    (c.add n).subscription? c.subscriptions.length = some { capacity := n } :=
  List.getElem?_concat_length

theorem subscription?_add_old (c : Channel) (n : Number) (hk : k < c.subscriptions.length) :
    (c.add n).subscription? k = c.subscription? k :=
  List.getElem?_append_left hk

theorem subscribe_eq_ok (hs : c.subscribe v = .ok (h, c')) :
    ∃ n, (if v = .null then c.defaultCapacity else v).number? = some n ∧ n.le (.whole 0) = false ∧
      h = c.subscriptions.length ∧ c' = c.add n := by
  obtain ⟨n, hn, hs⟩ := exists_of_bind_eq_ok hs
  split at hs
  · cases hs
  · rename_i hl
    cases hs
    exact ⟨n, Value.comparable_eq_ok_iff.mp hn, Bool.eq_false_iff.mpr hl, rfl, rfl⟩

theorem subscribe_of_number {n : Number} (hn : (if v = .null then c.defaultCapacity else v).number? = some n)
    (hl : n.le (.whole 0) = false) : c.subscribe v = .ok (c.subscriptions.length, c.add n) := by
  rw [subscribe, Value.comparable_eq_ok_iff.mpr hn, ok_bind, if_neg (Bool.eq_false_iff.mp hl)]
  rfl

theorem Listed.add (hc : c.Listed) (n : Number) : (c.add n).Listed := by
  have hs : (c.add n).subscribers = c.subscribers ++ [c.subscriptions.length] := rfl
  have hl : (c.add n).subscriptions.length = c.subscriptions.length + 1 := List.length_append
  have hnew : (c.add n).isOpen c.subscriptions.length = true := by
    rw [isOpen, subscription?_add_self]
    rfl
  unfold Listed
  rw [hs, hl, List.range_succ, List.filter_append, List.filter_cons_of_pos hnew, List.filter_nil, hc]
  congr 1
  apply List.filter_congr
  intro k hk
  rw [isOpen, isOpen, subscription?_add_old c n (List.mem_range.mp hk)]

theorem Listed.subscribe (hc : c.Listed) (hs : c.subscribe v = .ok (h, c')) : c'.Listed := by
  obtain ⟨n, -, -, -, rfl⟩ := subscribe_eq_ok hs
  exact hc.add n

theorem Listed.act (hc : c.Listed) (a : Act) : (c.act a).Listed := by
  cases a with
  | publish e => exact hc.publish e
  | demand h x => exact hc.meet h x
  | subscribe v =>
    unfold Channel.act
    dsimp only
    split
    · rename_i hs
      exact hc.subscribe hs
    · exact hc

theorem Listed.run (hc : c.Listed) (acts : List Act) : (c.run acts).Listed := by
  induction acts generalizing c with
  | nil => exact hc
  | cons a acts ih => exact ih (hc.act a)

theorem listed_fresh (v : Value) : ({ defaultCapacity := v } : Channel).Listed := rfl

end Channel

end HardwareWallet
