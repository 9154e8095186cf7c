import HardwareWallet.Proofs.Channel.Offered

namespace HardwareWallet

namespace Subscription

variable {s : Subscription}

theorem closed_of_offered {events : List Event} (h : (s.offered events).closed = false) : s.closed = false := by
  refine Bool.eq_false_iff.mpr fun hc => ?_
  rw [offered_of_closed hc, hc] at h
  cases h

end Subscription

namespace Channel

open Subscription

variable {c c' c'' : Channel} {h : Handle} {s : Subscription} {acts : List Act} {first second events : List Event}

theorem exists_subscription (hh : h < c.subscriptions.length) : ∃ s, c.subscription? h = some s :=
  ⟨_, List.getElem?_eq_getElem hh⟩

theorem lt_of_subscription (hs : c.subscription? h = some s) : h < c.subscriptions.length :=
  (List.getElem?_eq_some_iff.mp hs).1

theorem isOpen_iff : c.isOpen h = true ↔ ∃ s, c.subscription? h = some s ∧ s.closed = false := by
  rw [isOpen, Option.any_eq_true]
  simp

/-- From one channel to another these events were published. Old subscriptions were left to themselves, and whoever came
    has left. -/
structure Visited (c : Channel) (events : List Event) (c' : Channel) : Prop where
  listed : c'.Listed
  defaultCapacity : c'.defaultCapacity = c.defaultCapacity
  old (h : Handle) (s : Subscription) : c.subscription? h = some s → c'.subscription? h = some (s.offered events)
  new (h : Handle) : c.subscriptions.length ≤ h → c'.isOpen h = false

theorem Visited.refl (hc : c.Listed) : c.Visited [] c where
  listed := hc
  defaultCapacity := rfl
  old _ _ hs := hs
  new h hh := by rw [isOpen, subscription?_eq_none hh]; rfl

theorem Visited.trans (h : c.Visited first c') (h' : c'.Visited second c'') : c.Visited (first ++ second) c'' where
  listed := h'.listed
  defaultCapacity := h'.defaultCapacity.trans h.defaultCapacity
  old k s hs := by
    rw [offered_append]
    exact h'.old k _ (h.old k s hs)
  new k hk := by
    by_cases hl : k < c'.subscriptions.length
    · obtain ⟨s, hs⟩ := exists_subscription hl
      have hc := h.new k hk
      -- whoever left in the first part is not brought back by the second
      rw [← Bool.not_eq_true, isOpen_iff] at hc ⊢
      rintro ⟨s', hs', ho⟩
      rw [h'.old k s hs, Option.some_inj] at hs'
      exact hc ⟨s, hs, closed_of_offered (hs' ▸ ho)⟩
    · exact h'.new k (Nat.le_of_not_lt hl)

theorem Visited.length_le (h : c.Visited events c') : c.subscriptions.length ≤ c'.subscriptions.length := by
  by_contra hl
  obtain ⟨s, hs⟩ := exists_subscription (Nat.lt_of_not_le hl)
  exact Nat.lt_irrefl _ (lt_of_subscription (h.old _ s hs))

theorem filter_range_of_le {p : Nat → Bool} {m n : Nat} (hmn : m ≤ n) (hp : ∀ k, m ≤ k → p k = false) :
    (List.range n).filter p = (List.range m).filter p := by
  obtain ⟨k, rfl⟩ := Nat.exists_eq_add_of_le hmn
  have hk : ((List.range k).map (m + ·)).filter p = [] := by
    refine List.filter_eq_nil_iff.mpr fun x hx => ?_
    obtain ⟨j, -, rfl⟩ := List.mem_map.mp hx
    simp [hp (m + j) (Nat.le_add_right m j)]
  rw [List.range_add, List.filter_append, hk, List.append_nil]

theorem Visited.isOpen (h : c.Visited events c') {k : Handle} (ho : c'.isOpen k = true) :
    ∃ s, c.subscription? k = some s ∧ s.closed = false ∧
      c'.subscription? k = some { s with queue := s.queue ++ events } := by
  have hk : k < c.subscriptions.length := by
    by_contra hl
    rw [h.new k (Nat.le_of_not_lt hl)] at ho
    cases ho
  obtain ⟨s, hs⟩ := exists_subscription hk
  obtain ⟨s', hs', ho'⟩ := isOpen_iff.mp ho
  rw [h.old k s hs, Option.some_inj] at hs'
  subst hs'
  exact ⟨s, hs, closed_of_offered ho', by rw [h.old k s hs, offered_of_open ho']⟩

theorem Visited.subscribers_eq_filter (hc : c.Listed) (h : c.Visited events c') :
    c'.subscribers = c.subscribers.filter c'.isOpen := by
  rw [h.listed, hc, List.filter_filter, filter_range_of_le h.length_le h.new]
  refine List.filter_congr fun k _ => ?_
  cases ho : c'.isOpen k with
  | false => rfl
  | true =>
    obtain ⟨s, hs, hn, -⟩ := h.isOpen ho
    rw [isOpen_iff.mpr ⟨s, hs, hn⟩]
    rfl

def hasOverflowed (c : Channel) (h : Handle) : Bool :=
  (c.subscription? h).any Subscription.overflowed

theorem Visited.subscribers_eq (hc : c.Listed) (hb : ∀ h s, c.subscription? h = some s → s.Bounded)
    (h : c.Visited events c') : c'.subscribers = c.subscribers.filter fun k => !c'.hasOverflowed k := by
  rw [h.subscribers_eq_filter hc]
  refine List.filter_congr fun k hk => ?_
  obtain ⟨s, hs, ho⟩ := isOpen_iff.mp (hc.mem_iff.mp hk)
  have hf : s.overflowed = false := Bool.eq_false_iff.mpr fun hf => by
    rw [(hb k s hs).overflow hf] at ho
    cases ho
  have he := overflowed_offered_iff ho hf events
  rw [Channel.isOpen, hasOverflowed, h.old k s hs, Option.any_some, Option.any_some, Bool.eq_iff_iff.mpr he]

theorem not_hasOverflowed (hc : c.Listed) (hb : ∀ h s, c.subscription? h = some s → s.Bounded)
    (hh : h ∈ c.subscribers) : c.hasOverflowed h = false := by
  obtain ⟨s, hs, ho⟩ := isOpen_iff.mp (hc.mem_iff.mp hh)
  rw [hasOverflowed, hs, Option.any_some]
  refine Bool.eq_false_iff.mpr fun hf => ?_
  rw [(hb h s hs).overflow hf] at ho
  cases ho

theorem length_meet (c : Channel) (h : Handle) (x : Demand) :
    (c.meet h x).2.subscriptions.length = c.subscriptions.length := by
  by_cases hx : x = .close
  · subst hx
    exact length_update ..
  · obtain ⟨f, -, hm⟩ := meet_update c h hx
    rw [hm, length_update]

theorem exists_of_act {a : Act} (hs : (c.act a).subscription? h = some s) :
    (∃ s, c.subscription? h = some s) ∨ ∃ n, s = { capacity := n } := by
  cases a with
  | publish e => exact .inl (exists_subscription (length_publish c e ▸ lt_of_subscription hs))
  | demand k x => exact .inl (exists_subscription (length_meet c k x ▸ lt_of_subscription hs))
  | subscribe v =>
    unfold act at hs
    dsimp only at hs
    split at hs
    · rename_i ha
      obtain ⟨n, -, -, -, rfl⟩ := subscribe_eq_ok ha
      have hl := lt_of_subscription hs
      rw [add, List.length_append, List.length_singleton] at hl
      rcases Nat.lt_succ_iff_lt_or_eq.mp hl with hl | rfl
      · exact .inl (exists_subscription hl)
      · exact .inr ⟨n, Option.some_inj.mp (hs.symm.trans (subscription?_add_self c n))⟩
    · exact .inl ⟨s, hs⟩

theorem bounded_run (hc : c.Listed) (hb : ∀ h s, c.subscription? h = some s → s.Bounded) (acts : List Act) :
    ∀ h s, (c.run acts).subscription? h = some s → s.Bounded := by
  induction acts generalizing c with
  | nil => exact hb
  | cons a acts ih =>
    refine ih (hc.act a) fun h s hs => ?_
    rcases exists_of_act hs with ⟨s₀, hs₀⟩ | ⟨n, rfl⟩
    · obtain rfl := Option.some_inj.mp ((act_attends hc hs₀ a).1.symm.trans hs)
      exact (hb h s₀ hs₀).live _
    · exact bounded_fresh n

theorem published_map_publish (events : List Event) : published (events.map .publish) = events := by
  induction events with
  | nil => rfl
  | cons e events ih => exact congrArg (List.cons e) ih

theorem length_run (ha : ∀ a ∈ acts, ∀ v, a ≠ .subscribe v) :
    (c.run acts).subscriptions.length = c.subscriptions.length := by
  induction acts generalizing c with
  | nil => rfl
  | cons a acts ih =>
    rw [run_cons, ih fun b hb => ha b (List.mem_cons_of_mem a hb)]
    cases a with
    | subscribe v => exact absurd rfl (ha _ List.mem_cons_self v)
    | publish e => exact length_publish c e
    | demand k x => exact length_meet c k x

theorem visited_of_published (hc : c.Listed) (events : List Event) : c.Visited events (c.run (events.map .publish)) where
  listed := hc.run _
  defaultCapacity := run_defaultCapacity c _
  old h s hs := by
    have hi : ∀ x, .demand h x ∉ events.map Act.publish := by simp
    have hr := subscription?_of_idle hc hs hi
    rwa [published_map_publish] at hr
  new h hh := by
    rw [isOpen, subscription?_eq_none (by rwa [length_run (by simp)])]
    rfl

theorem visited_of_visit (hc : c.Listed) (n : Number)
    (ha : ∀ a ∈ acts, (∃ e, a = .publish e) ∨ ∃ x, a = .demand c.subscriptions.length x) :
    c.Visited (published acts) (((c.add n).run acts).close c.subscriptions.length) := by
  let after := acts ++ [.demand c.subscriptions.length .close]
  have hrun : ((c.add n).run acts).close c.subscriptions.length = (c.add n).run after := by
    rw [run_append]
    rfl
  have hown : ∀ a ∈ after, (∃ e, a = .publish e) ∨ ∃ x, a = .demand c.subscriptions.length x := by
    intro a hm
    rcases List.mem_append.mp hm with hm | hm
    · exact ha a hm
    · exact .inr ⟨.close, List.mem_singleton.mp hm⟩
  have hpub : published after = published acts := by
    rw [published_append]
    exact List.append_nil _
  rw [hrun, ← hpub]
  refine ⟨(hc.add n).run after, run_defaultCapacity _ _, fun h s hs => ?_, fun h hh => ?_⟩
  · have hl := lt_of_subscription hs
    refine subscription?_of_idle (hc.add n) ((subscription?_add_old c n hl).trans hs) fun x hm => ?_
    rcases hown _ hm with ⟨e, he⟩ | ⟨y, he⟩
    · cases he
    · obtain ⟨rfl, -⟩ := Act.demand.inj he
      exact Nat.lt_irrefl _ hl
  · rw [← hrun, isOpen_close]
    by_cases hk : h = c.subscriptions.length
    · simp [hk]
    · have hlen : ((c.add n).run acts).subscriptions.length = c.subscriptions.length + 1 := by
        rw [length_run, add, List.length_append, List.length_singleton]
        intro a hm v hv
        rcases ha a hm with ⟨e, rfl⟩ | ⟨x, rfl⟩ <;> cases hv
      have hbeyond : ((c.add n).run acts).subscriptions.length ≤ h := by
        rw [hlen]
        exact Nat.lt_of_le_of_ne hh (Ne.symm hk)
      rw [isOpen, subscription?_eq_none hbeyond, Option.any_none, Bool.and_false]

end Channel

end HardwareWallet
