import HardwareWallet.Proofs.Client.Readiness
import HardwareWallet.Proofs.Command.Reply

namespace HardwareWallet

open Attempt

namespace Channel

variable {c : Channel} {n : Number}

theorem takeReply_published (hc : c.Listed) (hn : n.le (.whole 0) = false) (e : Event) (expected : List EventKind) :
    ((c.add n).publish e).1.takeReply c.subscriptions.length expected =
      (Event.replyOf [e] false expected, ((c.add n).publish e).1.run [.demand c.subscriptions.length .drain]) := by
  have hs : ((c.add n).publish e).1.subscription? c.subscriptions.length = some { capacity := n, queue := [e] } := by
    rw [subscription?_publish (hc.add n), subscription?_add_self, Option.map_some]
    exact congrArg some (Subscription.offer_of_room e rfl hn)
  exact takeReply_eq hs expected

end Channel

namespace Client

variable {c first c' : Client EmulatedLink} {m reply : Message} {d : Device} {kind : EventKind}
  {before reset : Option ResetProgress} {notices : List Notice} {operation : Attempt (Client EmulatedLink) Unit}

theorem Ready.exchange (h : first.Ready) (hc : c.session.channel = first.session.channel)
    (ho : ∀ channel, operation (c.withChannel channel) = Client.request m (first.withChannel channel))
    (ha : first.device.answer m = .ok (reply, d)) (hk : EventKind.ofReply? reply = some kind)
    (hr : ResetProgress.observe first.progress.reset m reply = .ok (reset, notices)) (expected : List EventKind) :
    ∃ c', Client.exchange operation expected c = (Event.replyOf [⟨kind, some reply⟩] false expected, c') ∧
      first.Answered m reply d reset c' := by
  obtain ⟨n, hn, hsub, hrun⟩ := Channel.subscribe_default h.capacity
  have hs : subscribe .null c = (.ok first.session.channel.subscriptions.length,
      c.withChannel (first.session.channel.add n)) := by
    rw [subscribe, hc, hsub]
    rfl
  have hready := h.withChannel [.subscribe .null]
  rw [hrun] at hready
  obtain ⟨told, ht, hansw, hpub⟩ := hready.request ha hk hr
  have hchannel : told.session.channel = ((first.session.channel.add n).publish ⟨kind, some reply⟩).1 := hpub
  have htake := Channel.takeReply_published h.listed hn ⟨kind, some reply⟩ expected
  rw [← hchannel] at htake
  have hfin := hansw.ready.withChannel [.demand first.session.channel.subscriptions.length .drain,
    .demand first.session.channel.subscriptions.length .close]
  refine ⟨_, ?_, ⟨hfin, hansw.device, hansw.received, hansw.authentication, hansw.reset, hansw.pending, hansw.chain⟩⟩
  rw [Client.exchange, bind_of_ok _ hs, ensuring, bind_of_ok _ ((ho _).trans ht), Client.takeReply, htake]
  rfl

theorem Ready.exchange_request (h : c.Ready) (ho : operation = Client.request m)
    (ha : c.device.answer m = .ok (reply, d)) (hk : EventKind.ofReply? reply = some kind)
    (hb : c.progress.reset = before) (hr : ResetProgress.observe before m reply = .ok (reset, notices))
    (expected : List EventKind) :
    ∃ c', Client.exchange operation expected c = (Event.replyOf [⟨kind, some reply⟩] false expected, c') ∧
      c.Answered m reply d reset c' :=
  h.exchange rfl (fun channel => by rw [ho]) ha hk (hb ▸ hr) expected

def counted (c : Client EmulatedLink) : Client EmulatedLink :=
  { c with session := countAttempt c.session }

theorem Ready.counted (h : c.Ready) : c.counted.Ready :=
  ⟨h.connected, ⟨h.tidy.opened_iff, h.tidy.replies⟩, h.measurable, h.plugged, h.awake, h.listed, h.capacity⟩

theorem Ready.exchange_pin (h : c.Ready) (hp : c.progress.authentication.allowsAttempt = true) {pin : String}
    (ha : c.device.answer (.pinMatrixAck (.text pin)) = .ok (reply, d)) (hk : EventKind.ofReply? reply = some kind)
    (hb : c.progress.reset = before)
    (hr : ResetProgress.observe before (.pinMatrixAck (.text pin)) reply = .ok (reset, notices))
    (expected : List EventKind) :
    ∃ c', Client.exchange (pinMatrixAck (.text pin)) expected c =
        (Event.replyOf [⟨kind, some reply⟩] false expected, c') ∧
      c.counted.Answered (.pinMatrixAck (.text pin)) reply d reset c' := by
  have ho (channel : Channel) : pinMatrixAck (.text pin) (c.withChannel channel) =
      Client.request (.pinMatrixAck (.text pin)) (c.counted.withChannel channel) := by
    have hp' : (c.withChannel channel).progress.authentication.allowsAttempt = true := hp
    rw [pinMatrixAck, get_bind]
    simp only [hp', if_true]
    rfl
  exact Ready.exchange (c := c) h.counted rfl ho ha hk (hb ▸ hr) expected

end Client

end HardwareWallet
