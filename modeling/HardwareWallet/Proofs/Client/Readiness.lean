import HardwareWallet.Proofs.Channel.Delivery
import HardwareWallet.Proofs.Client.Correlation

namespace HardwareWallet

open Attempt

namespace Channel

def IsCapacity (v : Value) : Prop :=
  ∃ n, v.number? = some n ∧ n.le (.whole 0) = false

variable {c : Channel} {n : Number}

theorem subscribe_default (h : IsCapacity c.defaultCapacity) :
    ∃ n, n.le (.whole 0) = false ∧ c.subscribe .null = .ok (c.subscriptions.length, c.add n) ∧
      c.run [.subscribe .null] = c.add n := by
  obtain ⟨n, hn, hl⟩ := h
  have hs : c.subscribe .null = .ok (c.subscriptions.length, c.add n) := subscribe_of_number hn hl
  refine ⟨n, hl, hs, ?_⟩
  rw [run_cons, run_nil, act, hs]

end Channel

namespace Session

variable {τ : Type} [Transport τ]

theorem channel_perform {channel : Channel} {s : Session τ} (h : ∃ acts, s.channel = channel.run acts) (x : Action) :
    ∃ acts, (x.perform s).channel = channel.run acts := by
  obtain ⟨acts, h⟩ := h
  exact ⟨acts ++ (s.published x).map .publish, by rw [(published_turned s x).channel_eq, h, Channel.run_append]⟩

theorem invariant_channel (channel : Channel) :
    Invariant fun s : Session τ => ∃ acts, s.channel = channel.run acts where
  channel s more h := by
    obtain ⟨acts, h⟩ := h
    exact ⟨acts ++ more, by rw [Channel.run_append, ← h]⟩
  log _ _ h := h
  countAttempt _ h := h
  attach _ h := channel_perform h .attach
  connect _ h := channel_perform h .connect
  disconnect _ h := channel_perform h .disconnect
  call m _ h := channel_perform h (.call m)

end Session

theorem EmulatedLink.exchange_of_answer {l : EmulatedLink} {m reply : Message} {d : Device} {timeout : Timeout}
    (ht : timeout.isMeasurable = true) (hf : l.fault? = none) (hr : l.replies = []) (hs : l.device.stalled = false)
    (ha : l.device.answer m = .ok (reply, d)) :
    Transport.exchange m timeout l =
      (.ok (some reply), { l with device := d, received := l.received ++ [m], replies := [] }) := by
  have hd := (Device.reaction_of_answer ha).plugged_eq
  rw [exchange_of_ok (write_of_ok hf (Device.process_of_ok hs ha))]
  have hl : (l.reached m d (some reply)).replies = (some reply).toList := by rw [reached, hr, List.nil_append]
  rcases read_measurable (some reply) ht ((fault?_reached hd).trans hf) hl with h | ⟨hn, -⟩
  · exact h
  · cases hn

theorem Progress.observe_eq_ok {p : Progress} {m reply : Message} {reset : Option ResetProgress} {notices : List Notice}
    (h : ResetProgress.observe p.reset m reply = .ok (reset, notices)) :
    p.observe m reply =
      (⟨(p.authentication.observe m reply).1, reset, observePending p.pending m reply⟩,
        (p.authentication.observe m reply).2 ++ notices, .ok ()) := by
  rw [observe, h]

namespace Client

theorem request_of_call {τ : Type} [Transport τ] {c : Client τ} {m reply : Message} {s : Session τ}
    (h : Session.call m c.session = (.ok reply, s)) : request m c = (.ok (), { c with session := s }) := by
  have hc : call m c = (.ok reply, { c with session := s }) := by rw [call, onSession, onPart, h]
  rw [request, bind_of_ok _ hc]
  rfl

theorem lifetime_channel (c : Client EmulatedLink) (happenings : List Happening) :
    ∃ acts, (c.lifetime happenings).session.channel = c.session.channel.run acts := by
  induction happenings generalizing c with
  | nil => exact ⟨[], rfl⟩
  | cons x happenings ih =>
    have hx : ∃ acts, (c.live x).session.channel = c.session.channel.run acts := by
      cases x with
      | operation o => exact o.keeps (Session.invariant_channel c.session.channel) (c := c) ⟨[], rfl⟩
      | stall stalled => exact ⟨[], rfl⟩
      | plug plugged => exact ⟨[], rfl⟩
    obtain ⟨acts, hx⟩ := hx
    obtain ⟨more, hm⟩ := ih (c.live x)
    exact ⟨acts ++ more, by rw [Channel.run_append, ← hx]; exact hm⟩

/-- A client whose next request reaches the device, and whose subscribers are told of the reply. -/
structure Ready (c : Client EmulatedLink) : Prop where
  connected : c.session.connection = .connected
  tidy : c.session.Tidy
  measurable : c.session.timeout.isMeasurable = true
  plugged : c.device.plugged = true
  awake : c.device.stalled = false
  listed : c.session.channel.Listed
  capacity : Channel.IsCapacity c.session.channel.defaultCapacity

structure Answered (c : Client EmulatedLink) (m reply : Message) (d : Device) (reset : Option ResetProgress)
    (c' : Client EmulatedLink) : Prop where
  ready : c'.Ready
  device : c'.device = d
  received : c'.session.link.received = c.session.link.received ++ [m]
  authentication : c'.progress.authentication = (c.progress.authentication.observe m reply).1
  reset : c'.progress.reset = reset
  pending : c'.progress.pending = Progress.observePending c.progress.pending m reply
  chain : c'.chain = c.chain

def withChannel {τ : Type} (c : Client τ) (channel : Channel) : Client τ :=
  { c with session := { c.session with channel := channel } }

variable {c c' : Client EmulatedLink} {m reply : Message} {d : Device} {kind : EventKind} {reset : Option ResetProgress}
  {notices : List Notice}

theorem lifetime_ready {path : Value} {chain : Chain} {device : Device} {timeout : Timeout} {capacity : Value}
    {policy : PinPolicy} (ht : timeout.isMeasurable = true) (hn : Channel.IsCapacity capacity)
    {happenings : List Happening} (he : (fresh path chain device timeout capacity policy).lifetime happenings = c)
    (hc : c.session.connection = .connected) (hp : c.device.plugged = true) (hs : c.device.stalled = false) :
    c.Ready := by
  subst he
  have hf := fresh_tidy path chain device timeout capacity policy
  have hk := (lifetime_keepsUp hf happenings).timeout
  obtain ⟨acts, ha⟩ := lifetime_channel (fresh path chain device timeout capacity policy) happenings
  refine ⟨hc, lifetime_tidy hf happenings, ?_, hp, hs, ?_, ?_⟩
  · rw [hk]
    exact ht
  · rw [ha]
    exact (Channel.listed_fresh capacity).run acts
  · rw [ha, Channel.run_defaultCapacity]
    exact hn

theorem fault?_eq_none (h : c.session.Tidy) (hc : c.session.connection = .connected) (hp : c.device.plugged = true) :
    c.session.link.fault? = none := by
  have hd : c.session.link.device.plugged = true := hp
  rw [EmulatedLink.fault?, hd, h.opened_iff.mpr hc]
  rfl

theorem Ready.request (h : c.Ready) (ha : c.device.answer m = .ok (reply, d))
    (hk : EventKind.ofReply? reply = some kind)
    (hr : ResetProgress.observe c.progress.reset m reply = .ok (reset, notices)) :
    ∃ c', Client.request m c = (.ok (), c') ∧ c.Answered m reply d reset c' ∧
      c'.session.channel = (c.session.channel.publish ⟨kind, some reply⟩).1 := by
  have hx := EmulatedLink.exchange_of_answer h.measurable (fault?_eq_none h.tidy h.connected h.plugged)
    (h.tidy.replies h.measurable) h.awake ha
  have hp := Progress.observe_eq_ok (p := c.session.progress) hr
  have hd := Device.reaction_of_answer ha
  have hs := Session.call_replied h.connected hx hk
  simp only [Session.observe, Session.fire, Session.publish, Session.note, hp, Except.map] at hs
  refine ⟨_, request_of_call hs, ⟨⟨h.connected, ⟨h.tidy.opened_iff, fun _ => rfl⟩, h.measurable, ?_, ?_, ?_, ?_⟩,
    rfl, rfl, rfl, rfl, rfl, rfl⟩, rfl⟩
  · exact hd.plugged_eq.trans h.plugged
  · exact hd.stalled_eq.trans h.awake
  · exact h.listed.publish _
  · exact h.capacity

def connectedTo (device : Device) (chain : Chain) (timeout : Timeout) (capacity : Value) : Client EmulatedLink :=
  (fresh (.text "direct") chain device timeout capacity .standard).lifetime [.operation .connect]

theorem Ready.withChannel (h : c.Ready) (acts : List Channel.Act) :
    (c.withChannel (c.session.channel.run acts)).Ready where
  connected := h.connected
  tidy := ⟨h.tidy.opened_iff, h.tidy.replies⟩
  measurable := h.measurable
  plugged := h.plugged
  awake := h.awake
  listed := h.listed.run acts
  capacity := by
    rw [Client.withChannel, Channel.run_defaultCapacity]
    exact h.capacity

end Client

end HardwareWallet
