import HardwareWallet.Proofs.Client.Request
import HardwareWallet.Proofs.Client.ResetAgreement
import HardwareWallet.Proofs.Session.Lifecycle

namespace HardwareWallet

open Attempt

theorem Device.process_of_exchange? {d : Device} {m : Message} {x : Exchange} (h : d.exchange? (.request m) = some x) :
    x.request = m ∧ Device.process m d = (.ok (some x.reply), d.act (.request m)) := by
  rcases d.process_cases m with ⟨r, hp, hr⟩ | ⟨reply, d', hp, -⟩
  · rw [exchange?_eq_none hp hr] at h
    cases h
  · rw [exchange?_of_process hp] at h
    obtain rfl := Option.some.inj h
    rw [act_of_process hp]
    exact ⟨rfl, hp⟩

namespace Session

variable {s : Session EmulatedLink} {m reply : Message}

theorem process_of_exchange? (h : s.Tidy) (hx : s.exchange? m = some ⟨m, reply⟩) :
    Device.process m s.link.device = (.ok (some reply), (call m s).2.link.device) := by
  obtain ⟨reply', kind, l, he, hc, hk, hl⟩ := exchange?_eq_some hx
  obtain rfl : reply = reply' := congrArg Exchange.reply he
  have hd : (call m s).2.link.device = l.device := by
    rw [call_replied hc hl hk]
    rfl
  have hm := s.link.exchanged m s.timeout h.replies
  rw [hl] at hm
  rw [hd]
  cases hm with
  | unanswered _ replies hr => exact absurd rfl (hr reply)
  | heard _ ht hx hk => exact (Device.process_of_exchange? hx).2

theorem received_exchange (h : s.Tidy) (m : Message) :
    ∃ sent, sent.Sublist [m] ∧
      (Transport.exchange m s.timeout s.link).2.received = s.link.received ++ sent := by
  obtain ⟨r, l, hx⟩ : ∃ r l, Transport.exchange m s.timeout s.link = (r, l) := ⟨_, _, rfl⟩
  have hm := s.link.exchanged m s.timeout h.replies
  rw [hx] at hm ⊢
  cases hm with
  | lost e => exact ⟨[], List.nil_sublist [m], (List.append_nil _).symm⟩
  | unanswered => exact ⟨[m], .refl _, rfl⟩
  | unheard => exact ⟨[m], .refl _, rfl⟩
  | heard => exact ⟨[m], .refl _, rfl⟩

theorem received_call (h : s.Tidy) (m : Message) :
    ∃ sent, sent.Sublist [m] ∧ (call m s).2.link.received = s.link.received ++ sent := by
  by_cases hc : s.connection = .connected
  · obtain ⟨sent, hs, hl⟩ := received_exchange h m
    refine ⟨sent, hs, ?_⟩
    rw [← hl]
    -- to close the link takes nothing from what reached the device
    rcases link_call hc m with he | he
    · rw [he]
    · rw [he]
      rfl
  · rw [call_unconnected hc]
    exact ⟨[], List.nil_sublist [m], (List.append_nil _).symm⟩

theorem received_attach (s : Session EmulatedLink) : (attach s).2.link.received = s.link.received := by
  rw [link_attach]
  rfl

theorem received_connect (s : Session EmulatedLink) : (connect s).2.link.received = s.link.received := by
  rw [link_connect]
  split
  · rfl
  · change (EmulatedLink.connect s.link).2.received = s.link.received
    unfold EmulatedLink.connect
    split <;> rfl

theorem received_disconnect (s : Session EmulatedLink) : (disconnect s).2.link.received = s.link.received := by
  rw [link_disconnect]
  split <;> rfl

end Session

namespace Client

section Told

variable {τ : Type} [Transport τ]

def told (c : Client τ) (o : Operation) : List Event :=
  ((o.perform { c with session := c.session.among (.overheard []) [] }).session.channel.drain 0).1

theorem told_of_heard {c : Client τ} {o : Operation} {x : Exchange} (hx : x ∈ c.heard o) :
    ∃ kind, EventKind.ofReply? x.reply = some kind ∧ c.told o = [⟨kind, some x.reply⟩] := by
  let c' : Client τ := { c with session := c.session.among (.overheard []) [] }
  have hr : o.request? c' = o.request? c := request?_congr rfl rfl o
  obtain ⟨m, hm, he⟩ := mem_heard.mp hx
  obtain ⟨reply, -, -, rfl, -⟩ := Session.exchange?_eq_some he
  obtain ⟨log, hp⟩ := session_perform (hr.trans hm)
  obtain ⟨p, hs⟩ := sending_eq c' o
  rw [hs] at hp
  -- who listens makes no difference to what is said
  have hx' : Session.exchange? { c'.session with progress := p } m = some ⟨m, reply⟩ := he
  obtain ⟨kind, hk, hc⟩ := Session.channel_call hx'
  have ho : ({ c'.session with progress := p } : Session τ).channel = .overheard [] := rfl
  rw [ho, Channel.publish_overheard] at hc
  have ht : c.told o = ((o.perform c').session.channel.drain 0).1 := rfl
  rw [ht, hp]
  simp only [hc]
  exact ⟨kind, hk, rfl⟩

end Told

variable {c : Client EmulatedLink} {o : Operation} {x : Exchange}

def asked (c : Client EmulatedLink) : List Happening → List Message
  | [] => []
  | .operation o :: happenings => (o.request? c).toList ++ (o.perform c).asked happenings
  | .stall stalled :: happenings => (c.live (.stall stalled)).asked happenings
  | .plug plugged :: happenings => (c.live (.plug plugged)).asked happenings

theorem process_of_heard (h : c.session.Tidy) (hx : x ∈ c.heard o) :
    Device.process x.request c.device = (.ok (some x.reply), (o.perform c).device) := by
  obtain ⟨m, hm, he⟩ := mem_heard.mp hx
  obtain ⟨reply, -, -, rfl, -⟩ := Session.exchange?_eq_some he
  obtain ⟨log, hp⟩ := session_perform hm
  obtain ⟨p, hs⟩ := sending_eq c o
  have hd : (o.perform c).device = (Session.call m (o.sending c)).2.link.device :=
    congrArg (fun s => s.link.device) hp
  rw [hd, hs]
  exact Session.process_of_exchange? (s := { c.session with progress := p }) ⟨h.opened_iff, h.replies⟩ he

theorem received_perform (h : c.session.Tidy) (o : Operation) :
    ∃ sent, sent.Sublist (o.request? c).toList ∧
      (o.perform c).session.link.received = c.session.link.received ++ sent := by
  have hn : ∀ {s : Session EmulatedLink}, s.link.received = c.session.link.received →
      ∃ sent, sent.Sublist (o.request? c).toList ∧ s.link.received = c.session.link.received ++ sent :=
    fun hs => ⟨[], List.nil_sublist _, hs.trans (List.append_nil _).symm⟩
  obtain ⟨s, hs⟩ : ∃ s, (o.perform c).session = s := ⟨_, rfl⟩
  have hp := Operation.performed o c
  rw [hs] at hp ⊢
  cases hp with
  | aside => exact hn rfl
  | attached => exact hn (Session.received_attach c.session)
  | connected => exact hn (Session.received_connect c.session)
  | disconnected => exact hn (Session.received_disconnect c.session)
  | asked m hr =>
    rw [hr]
    exact Session.received_call h m
  | pinSent pin hr =>
    rw [hr]
    exact Session.received_call (s := countAttempt c.session) ⟨h.opened_iff, h.replies⟩ _

theorem received_lifetime (h : c.session.Tidy) (happenings : List Happening) :
    ∃ sent, sent.Sublist (c.asked happenings) ∧
      (c.lifetime happenings).session.link.received = c.session.link.received ++ sent := by
  induction happenings generalizing c with
  | nil => exact ⟨[], .refl _, (List.append_nil _).symm⟩
  | cons x happenings ih =>
    obtain ⟨tidy, -⟩ := live_keepsUp h x
    obtain ⟨sent, hs, hr⟩ := ih tidy
    cases x with
    | operation o =>
      obtain ⟨first, hf, hp⟩ := received_perform h o
      refine ⟨first ++ sent, hf.append hs, ?_⟩
      rw [← List.append_assoc, ← hp]
      exact hr
    | stall stalled => exact ⟨sent, hs, hr⟩
    | plug plugged => exact ⟨sent, hs, hr⟩

theorem lifetime_tidy (h : c.session.Tidy) (happenings : List Happening) : (c.lifetime happenings).session.Tidy := by
  induction happenings generalizing c with
  | nil => exact h
  | cons x happenings ih => exact ih (live_keepsUp h x).1

theorem heard_call {m reply : Message} (h : (call m c).1 = .ok reply) : c.heard (.call m) = [⟨m, reply⟩] := by
  have hs : c.session.exchange? m = some ⟨m, reply⟩ := Session.exchange?_of_call h
  rw [heard_of_request rfl, hs]
  rfl

/-- Between operations no reply waits in the link, which is open just while the session is connected. What a call
    returns is what the device replied to that same request, each reply that is heard is told once, and the device gets
    no request more often than it was made. -/
theorem reply_of_request (path : Value) (chain : Chain) (device : Device) (timeout : Timeout) (capacity : Value)
    (policy : PinPolicy) (ht : timeout.isMeasurable = true) (happenings : List Happening) :
    let first := fresh path chain device timeout capacity policy
    let c := first.lifetime happenings
    c.session.link.replies = [] ∧ (c.session.link.opened = true ↔ c.session.connection = .connected) ∧
      (∀ m reply, (call m c).1 = .ok reply →
        c.heard (.call m) = [⟨m, reply⟩] ∧ Device.process m c.device = (.ok (some reply), (call m c).2.device)) ∧
      (∀ o, ∀ x ∈ c.heard o, Device.process x.request c.device = (.ok (some x.reply), (o.perform c).device) ∧
        ∃ kind, EventKind.ofReply? x.reply = some kind ∧ c.told o = [⟨kind, some x.reply⟩]) ∧
      c.session.link.received.Sublist (first.asked happenings) := by
  intro first c
  have hf : first.session.Tidy := fresh_tidy path chain device timeout capacity policy
  have hc : c.session.Tidy := lifetime_tidy hf happenings
  have hm : c.session.timeout.isMeasurable = true := by
    have hk : c.session.timeout = timeout := (lifetime_keepsUp hf happenings).timeout
    rw [hk]
    exact ht
  refine ⟨hc.replies hm, hc.opened_iff, ?_, ?_, ?_⟩
  · intro m reply h
    have hx := heard_call h
    exact ⟨hx, process_of_heard (o := .call m) (x := ⟨m, reply⟩) hc (by rw [hx]; exact List.mem_singleton_self _)⟩
  · exact fun o x hx => ⟨process_of_heard hc hx, told_of_heard hx⟩
  · obtain ⟨sent, hs, hr⟩ := received_lifetime hf happenings
    have he : c.session.link.received = sent := hr
    rw [he]
    exact hs

def pingAfterSilence : List Happening :=
  [.operation .connect, .stall true, .operation .initialise, .stall false, .operation .connect,
    .operation (.ping (.text "here") .null)]

theorem pingAfterSilence_in_turn :
    let first := fresh (.text "direct") .main (.ofProfile .initialised) (.seconds (.whole 5)) (.int 100) .standard
    let c := first.lifetime pingAfterSilence
    (Timeout.seconds (.whole 5)).isMeasurable = true ∧
      c.session.link.received = [.initialise, .ping (.text "here") (.truth false) .null] ∧
      c.session.link.replies = [] ∧ ∃ reply, (call .initialise c).1 = .ok reply ∧
        Device.process .initialise c.device = (.ok (some reply), (call .initialise c).2.device) := by
  intro first c
  have ht : (Timeout.seconds (.whole 5)).isMeasurable = true := by decide +kernel
  have hr : c.session.link.received = [.initialise, .ping (.text "here") (.truth false) .null] := by decide +kernel
  have ho : (call .initialise c).1.toOption.isSome = true := by decide +kernel
  obtain ⟨replies, -, returned, -⟩ := reply_of_request (.text "direct") .main (.ofProfile .initialised)
    (.seconds (.whole 5)) (.int 100) .standard ht pingAfterSilence
  -- from here on the client must not be computed
  generalize hc : (fresh (.text "direct") .main (.ofProfile .initialised) (.seconds (.whole 5)) (.int 100)
    .standard).lifetime pingAfterSilence = c' at replies returned
  have hc' : c = c' := hc
  rw [hc'] at hr ho ⊢
  obtain ⟨reply, hi⟩ : ∃ reply, (call .initialise c').1 = .ok reply := by
    revert ho
    cases (call .initialise c').1 with
    | error e => exact nofun
    | ok reply => exact fun _ => ⟨reply, rfl⟩
  exact ⟨ht, hr, replies, reply, hi, (returned _ _ hi).2⟩

def featuresAsked : List Happening :=
  [.operation .connect, .operation .initialise]

/-- With a wait that cannot begin the reply stays in the link, and a later request takes it for its own. -/
theorem featuresAsked_left_over :
    let c := (fresh (.text "direct") .main (.ofProfile .initialised) immeasurable (.int 100) .standard).lifetime
      featuresAsked
    let patient := { c with session := { c.session with timeout := .seconds (.whole 5) } }
    immeasurable.isNegative = false ∧ c.session.link.replies ≠ [] ∧
      (call (.ping (.text "x") (.truth false) .null) patient).1.toOption.map Message.name = some "Features" := by
  decide +kernel

end Client

end HardwareWallet
