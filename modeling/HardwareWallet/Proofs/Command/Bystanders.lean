import HardwareWallet.Command.Flow
import HardwareWallet.Proofs.Client.Bystanders
import HardwareWallet.Proofs.Client.Lifetime
import HardwareWallet.Proofs.Command.Reply
import HardwareWallet.Proofs.Session.Lifecycle

namespace HardwareWallet

open Attempt

namespace Channel

open Subscription

variable {c : Channel}

theorem subscribe_null_cases (v : Value) :
    (∃ e, ∀ c : Channel, c.defaultCapacity = v → c.subscribe .null = .error e) ∨
      ∃ n, ∀ c : Channel, c.defaultCapacity = v → c.subscribe .null = .ok (c.subscriptions.length, c.add n) := by
  cases hn : v.number? with
  | none =>
    refine .inl ⟨.comparison "<=" v.kindName "int", fun c hv => ?_⟩
    rw [subscribe, if_pos rfl, hv, Value.comparable, hn]
    rfl
  | some n =>
    cases hl : n.le (.whole 0) with
    | true =>
      refine .inl ⟨.unboundedQueue, fun c hv => ?_⟩
      rw [subscribe, if_pos rfl, hv, Value.comparable, hn]
      exact if_pos hl
    | false =>
      refine .inr ⟨n, fun c hv => subscribe_of_number ?_ hl⟩
      rw [if_pos rfl, hv, hn]

theorem visited_of_broken (hc : c.Listed) (n : Number) (events : List Event) :
    c.Visited events (((c.add n).run (events.map .publish)).close c.subscriptions.length) := by
  have hown : ∀ a ∈ events.map Act.publish,
      (∃ e, a = .publish e) ∨ ∃ x, a = .demand c.subscriptions.length x := by
    intro a ha
    obtain ⟨e, -, rfl⟩ := List.mem_map.mp ha
    exact .inl ⟨e, rfl⟩
  have hv := visited_of_visit hc n hown
  rwa [published_map_publish] at hv

theorem visited_of_taken (hc : c.Listed) (n : Number) (events : List Event) (expected : List EventKind) :
    let own := ({ capacity := n } : Subscription).offered events
    ∃ c', ((c.add n).run (events.map .publish)).takeReply c.subscriptions.length expected =
        (Event.replyOf own.queue own.overflowed expected, c') ∧
      c.Visited events (c'.close c.subscriptions.length) := by
  intro own
  have hi : ∀ x, .demand c.subscriptions.length x ∉ events.map Act.publish := by simp
  have hs := subscription?_of_idle (hc.add n) (subscription?_add_self c n) hi
  rw [published_map_publish] at hs
  refine ⟨_, takeReply_eq hs expected, ?_⟩
  have hown : ∀ a ∈ events.map Act.publish ++ [.demand c.subscriptions.length .drain],
      (∃ e, a = .publish e) ∨ ∃ x, a = .demand c.subscriptions.length x := by
    intro a ha
    rcases List.mem_append.mp ha with ha | ha
    · obtain ⟨e, -, rfl⟩ := List.mem_map.mp ha
      exact .inl ⟨e, rfl⟩
    · exact .inr ⟨.drain, List.mem_singleton.mp ha⟩
  have hv := visited_of_visit hc n hown
  rw [published_append, published_map_publish, run_append] at hv
  rwa [show events ++ published [.demand c.subscriptions.length .drain] = events from List.append_nil events] at hv

def tapped (v : Value) : Channel :=
  { overheard [] with defaultCapacity := v }

theorem offered_endless (events : List Event) :
    ({ capacity := .rounded (.infinite false) } : Subscription).offered events =
      { capacity := .rounded (.infinite false), queue := events } := by
  have hi : ∀ x, .demand 0 x ∉ events.map Act.publish := by simp
  have hs := subscription?_of_idle (c := overheard []) (h := 0) rfl rfl hi
  rw [published_map_publish, run_overheard] at hs
  exact (Option.some_inj.mp hs).symm

end Channel

namespace Client

open Channel (Aired Visited course_visited)

variable {τ α : Type} [Transport τ]

omit [Transport τ] in
theorem oblivious_exchange {operation : Attempt (Client τ) Unit} (ho : Oblivious Aired operation)
    (expected : List EventKind) : Oblivious Visited (exchange operation expected) := by
  intro c v
  rcases Channel.subscribe_null_cases v with ⟨e, hs⟩ | ⟨n, hs⟩
  · refine ⟨.error e, c, [], fun channel log hl hv => ⟨channel, log, ?_, .refl hl⟩⟩
    have hsub : subscribe .null (c.among channel log) = (.error e, c.among channel log) := by
      rw [subscribe, show (c.among channel log).session.channel = channel from rfl, hs channel hv]
    exact bind_of_error _ hsub
  · obtain ⟨r, c', events, ho⟩ := ho c v
    let own := ({ capacity := n } : Subscription).offered events
    refine ⟨r.bind fun _ => Event.replyOf own.queue own.overflowed expected, c', events, fun channel log hl hv => ?_⟩
    have hsub : subscribe .null (c.among channel log) =
        (.ok channel.subscriptions.length, c.among (channel.add n) log) := by
      rw [subscribe, show (c.among channel log).session.channel = channel from rfl, hs channel hv]
      rfl
    obtain ⟨channel', log', hr, rfl⟩ := ho (channel.add n) log (hl.add n) hv
    rw [exchange, bind_of_ok _ hsub]
    cases r with
    | error e =>
      refine ⟨_, log', ?_, Channel.visited_of_broken hl n events⟩
      rw [ensuring, bind_of_error _ hr]
      rfl
    | ok =>
      obtain ⟨left, htake, hvisit⟩ := Channel.visited_of_taken hl n events expected
      refine ⟨_, log', ?_, hvisit⟩
      have hreply : takeReply channel.subscriptions.length expected
            (c'.among ((channel.add n).run (events.map .publish)) log') =
          (Event.replyOf own.queue own.overflowed expected, c'.among left log') := by
        rw [takeReply]
        exact congrArg (fun taken => (taken.1, c'.among taken.2 log')) htake
      rw [ensuring, bind_of_ok _ hr, hreply]
      rfl

omit [Transport τ] in
theorem oblivious_note_visited (notices : List Notice) : Oblivious Visited (note (τ := τ) notices) :=
  (oblivious_note notices).mono fun _ events _ hc h => h ▸ Channel.visited_of_published hc events

theorem oblivious_getXpub (path : Value) (expert : Bool) : Oblivious Visited (getXpub (τ := τ) path expert) := by
  have hnode : Oblivious Visited (publicNode (τ := τ) path) :=
    oblivious_bind course_visited (oblivious_exchange (oblivious_hierarchy path) _)
      fun _ => oblivious_ofExcept course_visited _
  refine oblivious_bind course_visited hnode fun node => oblivious_get_bind (fun _ _ _ => rfl) fun c => ?_
  exact oblivious_bind course_visited (oblivious_ofExcept course_visited _)
    fun key => oblivious_bind course_visited (oblivious_ofExcept course_visited _)
      fun text => oblivious_pure course_visited _

theorem oblivious_unlock (pin : Value) : Oblivious Visited (unlock (τ := τ) pin) := by
  refine oblivious_bind course_visited (oblivious_exchange (oblivious_request _) _) fun e => oblivious_ite ?_ ?_
  · exact oblivious_pure course_visited _
  · refine oblivious_bind course_visited (oblivious_exchange (oblivious_pinMatrixAck pin) _) fun _ => ?_
    exact oblivious_get_bind (fun _ _ _ => rfl) fun _ => oblivious_pure course_visited _

theorem oblivious_confirmWords (words : Number) (steps : Nat) :
    Oblivious Visited (confirmWords (τ := τ) words steps) := by
  induction steps with
  | zero => exact oblivious_fail course_visited _
  | succ steps ih =>
    refine oblivious_bind course_visited (oblivious_exchange (oblivious_wordAck _) _) fun e => oblivious_ite ?_ ih
    exact oblivious_bind course_visited (oblivious_note_visited _) fun _ => oblivious_pure course_visited _

theorem oblivious_choosePin (pin : Value) (entropy : Argument Bytes) :
    Oblivious Visited (choosePin (τ := τ) pin entropy) := by
  refine oblivious_bind course_visited (oblivious_exchange (oblivious_pinMatrixAck pin) _) fun _ => ?_
  refine oblivious_bind course_visited (oblivious_exchange (oblivious_pinMatrixAck pin) _) fun _ => ?_
  refine oblivious_bind course_visited (oblivious_exchange (oblivious_entropyAck _) _) fun _ => ?_
  exact oblivious_get_bind (fun _ _ _ => rfl) fun c => oblivious_confirmWords _ _

theorem oblivious_setUp (pin label strength : Value) (entropy : Argument Bytes) (random : Bytes) :
    Oblivious Visited (setUp (τ := τ) pin label strength entropy random) := by
  refine oblivious_get_bind (fun _ _ _ => rfl) fun c => ?_
  split
  · exact oblivious_fail course_visited _
  · exact oblivious_bind course_visited (oblivious_exchange (oblivious_resetDevice _) _)
      fun _ => oblivious_choosePin pin _

theorem oblivious_wipe : Oblivious Visited (wipe (τ := τ)) := by
  refine oblivious_bind course_visited (oblivious_exchange (oblivious_request _) _) fun _ => ?_
  exact oblivious_bind course_visited (oblivious_exchange (oblivious_request _) _)
    fun _ => oblivious_pure course_visited _

omit [Transport τ] in
theorem oblivious_reportValue (e : Event) : Oblivious Visited (reportValue (τ := τ) e) :=
  oblivious_bind course_visited (oblivious_ofExcept course_visited _) fun _ => oblivious_pure course_visited _

theorem oblivious_askAgain {ask : Attempt (Client τ) Unit} (ha : Oblivious Aired ask) (pin : Value) :
    Oblivious Visited (askAgain ask pin) :=
  oblivious_bind course_visited (oblivious_exchange (oblivious_pinMatrixAck pin) _) fun _ =>
    oblivious_bind course_visited (oblivious_exchange ha _) oblivious_reportValue

theorem oblivious_cipherWith {ask : Attempt (Client τ) Unit} (ha : Oblivious Aired ask) (pin : Value) :
    Oblivious Visited (cipherWith ask pin) := by
  refine oblivious_bind course_visited (oblivious_exchange ha _) fun e => oblivious_ite ?_ (oblivious_reportValue e)
  split
  · exact oblivious_fail course_visited _
  · exact oblivious_askAgain ha _

theorem oblivious_cipherKey (keyIndex subIndex label value : Value) (purpose : Argument KeyPurpose)
    (encrypt pin : Value) :
    Oblivious Visited (cipherKey (τ := τ) keyIndex subIndex label value purpose encrypt pin) :=
  oblivious_bind course_visited (oblivious_ofExcept course_visited _) fun _ =>
    oblivious_cipherWith
      (oblivious_bind Channel.course_aired (oblivious_ofExcept Channel.course_aired _) fun _ =>
        oblivious_cipherKeyValue _) pin

inductive Flow where
  | getXpub (path : Value) (expert : Bool)
  | unlock (pin : Value)
  | setUp (pin label strength : Value) (entropy : Argument Bytes) (random : Bytes)
  | wipe
  | cipherKey (keyIndex subIndex label value : Value) (purpose : Argument KeyPurpose) (encrypt pin : Value)

def Flow.perform : Flow → Attempt (Client τ) Report
  | getXpub path expert => Client.getXpub path expert
  | unlock pin => Client.unlock pin
  | setUp pin label strength entropy random => Client.setUp pin label strength entropy random
  | wipe => Client.wipe
  | cipherKey keyIndex subIndex label value purpose encrypt pin =>
    Client.cipherKey keyIndex subIndex label value purpose encrypt pin

theorem Flow.oblivious (f : Flow) : Oblivious Visited (f.perform (τ := τ)) := by
  cases f with
  | getXpub path expert => exact oblivious_getXpub path expert
  | unlock pin => exact oblivious_unlock pin
  | setUp pin label strength entropy random => exact oblivious_setUp pin label strength entropy random
  | wipe => exact oblivious_wipe
  | cipherKey keyIndex subIndex label value purpose encrypt pin =>
    exact oblivious_cipherKey keyIndex subIndex label value purpose encrypt pin

def aired (c : Client τ) (x : Attempt (Client τ) α) : List Event :=
  ((x (c.among (.tapped c.session.channel.defaultCapacity) c.session.log)).2.session.channel.drain 0).1

omit [Transport τ] in
theorem Oblivious.visited {x : Attempt (Client τ) α} (hx : Oblivious Visited x) {c : Client τ}
    (hc : c.session.channel.Listed) :
    c.session.channel.Visited (c.aired x) (x c).2.session.channel ∧
      ∃ log, x c = ((x (c.among (.tapped c.session.channel.defaultCapacity) c.session.log)).1,
        (x (c.among (.tapped c.session.channel.defaultCapacity) c.session.log)).2.among (x c).2.session.channel log) := by
  obtain ⟨r, c', events, hx⟩ := hx c c.session.channel.defaultCapacity
  obtain ⟨left, log, hr, hv⟩ := hx c.session.channel c.session.log hc rfl
  obtain ⟨heard, log', hr', hv'⟩ := hx (.tapped c.session.channel.defaultCapacity) c.session.log rfl rfl
  have hown : x c = (r, c'.among left log) := hr
  have ht : c.aired x = events := by
    have hq := hv'.old 0 _ rfl
    rw [Channel.offered_endless] at hq
    rw [aired, hr']
    exact congrArg Prod.fst (show heard.drain 0 = (events, _) by rw [Channel.drain, hq])
  rw [ht, hown, hr']
  exact ⟨hv, log, rfl⟩

/-- After a command the subscribers are those of before, in the same order, but for those that had no room for an event
    meanwhile. None is left of those that the command made for itself, and whoever is left was told all that was
    published meanwhile. Nothing but the channel and the log depends on who listens. -/
theorem Flow.leaves_channel (f : Flow) (c : Client τ) (v : Value) (acts : List Channel.Act)
    (hc : c.session.channel = ({ defaultCapacity := v } : Channel).run acts) :
    let before := c.session.channel
    let after := (f.perform c).2.session.channel
    after.subscribers = before.subscribers.filter (fun h => !after.hasOverflowed h) ∧
      (∀ h ∈ before.subscribers, before.hasOverflowed h = false) ∧
      (∀ h, before.subscriptions.length ≤ h → h ∉ after.subscribers) ∧
      (∀ h ∈ after.subscribers, ∃ s, before.subscription? h = some s ∧
        after.subscription? h = some { s with queue := s.queue ++ c.aired f.perform }) ∧
      ∃ log, f.perform c = ((f.perform (c.among (.tapped before.defaultCapacity) c.session.log)).1,
        (f.perform (c.among (.tapped before.defaultCapacity) c.session.log)).2.among after log) := by
  intro before after
  have hl : before.Listed := by
    have := (Channel.listed_fresh v).run acts
    rwa [← hc] at this
  have hb : ∀ h s, before.subscription? h = some s → s.Bounded := by
    have := Channel.bounded_run (Channel.listed_fresh v) nofun acts
    rwa [← hc] at this
  obtain ⟨hv, hsame⟩ := (f.oblivious (τ := τ)).visited hl
  refine ⟨hv.subscribers_eq hl hb, fun h => Channel.not_hasOverflowed hl hb, fun h hh hm => ?_, fun h hm => ?_, hsame⟩
  · have ho := hv.listed.mem_iff.mp hm
    rw [hv.new h hh] at ho
    cases ho
  · obtain ⟨s, hs, -, hs'⟩ := hv.isOpen (hv.listed.mem_iff.mp hm)
    exact ⟨s, hs, hs'⟩

def wipedAmongTwo : Client EmulatedLink :=
  (fresh (.text "direct") .main (.ofProfile .initialised) (.seconds (.whole 5)) (.int 100) .standard).lifetime
    [.operation .connect, .operation (.subscribe (.int 1)), .operation (.subscribe .null)]

theorem wipe_leaves_second :
    let after := (Flow.wipe.perform wipedAmongTwo).2.session.channel
    wipedAmongTwo.session.channel = ({ defaultCapacity := .int 100 } : Channel).run
        [.publish ⟨.deviceConnected, none⟩, .subscribe (.int 1), .subscribe .null] ∧
      wipedAmongTwo.session.channel.subscribers = [0, 1] ∧ after.subscribers = [1] ∧
      (wipedAmongTwo.aired Flow.wipe.perform).map Event.kind = [.buttonRequest, .success] ∧
      ∃ s, wipedAmongTwo.session.channel.subscription? 1 = some s ∧
        after.subscription? 1 = some { s with queue := s.queue ++ wipedAmongTwo.aired Flow.wipe.perform } := by
  intro after
  have hc : wipedAmongTwo.session.channel = ({ defaultCapacity := .int 100 } : Channel).run
      [.publish ⟨.deviceConnected, none⟩, .subscribe (.int 1), .subscribe .null] := rfl
  have ha : after.subscribers = [1] := by decide +kernel
  obtain ⟨-, -, -, told, -⟩ := Flow.wipe.leaves_channel wipedAmongTwo (.int 100) _ hc
  exact ⟨hc, rfl, ha, by decide +kernel, told 1 (by rw [ha]; exact List.mem_singleton_self 1)⟩

end Client

end HardwareWallet
