import HardwareWallet.Proofs.Channel.Subscribers
import HardwareWallet.Proofs.Session.Turn

namespace HardwareWallet

namespace Channel

def overheard (queue : List Event) : Channel :=
  { subscriptions := [{ capacity := .rounded (.infinite false), queue := queue }], subscribers := [0] }

theorem publish_overheard (queue : List Event) (e : Event) :
    ((overheard queue).publish e).1 = overheard (queue ++ [e]) := rfl

theorem run_overheard (queue events : List Event) :
    (overheard queue).run (events.map .publish) = overheard (queue ++ events) := by
  induction events generalizing queue with
  | nil => rw [List.append_nil]; rfl
  | cons e events ih =>
    rw [List.map_cons, run_cons, act, publish_overheard, ih, List.append_assoc]
    rfl

end Channel

def EventKind.changesConnection : EventKind → Bool
  | .deviceConnected => true
  | .deviceDisconnected => true
  | .deviceFailed => true
  | _ => false

theorem EventKind.not_lifecycle_of_reply {reply : Message} {kind : EventKind}
    (h : EventKind.ofReply? reply = some kind) : kind.isLifecycle = false := by
  cases reply <;> cases h <;> rfl

theorem EventKind.not_changesConnection_of_reply {reply : Message} {kind : EventKind}
    (h : EventKind.ofReply? reply = some kind) : kind.changesConnection = false := by
  cases reply <;> cases h <;> rfl

def lastChange (events : List Event) : Option EventKind :=
  ((events.map Event.kind).filter EventKind.changesConnection).getLast?

theorem lastChange_concat (events : List Event) (e : Event) :
    lastChange (events ++ [e]) = if e.kind.changesConnection then some e.kind else lastChange events := by
  unfold lastChange
  rw [List.map_append, List.filter_append, List.map_singleton]
  cases hk : e.kind.changesConnection <;> simp [hk]

namespace Session

open Transport (Foreseen)

variable {τ : Type} [Transport τ] {s s' : Session τ} {l : τ} {m reply : Message} {events past : List Event}

def published (s : Session τ) (x : Action) : List Event :=
  ((x.perform (s.among (.overheard []) [])).channel.drain 0).1

def run (s : Session τ) (actions : List Action) : Session τ :=
  actions.foldl (fun s x => x.perform s) s

def stream (s : Session τ) : List Action → List Event
  | [] => []
  | x :: actions => s.published x ++ (x.perform s).stream actions

theorem Turned.channel_eq (h : Turned s events s') : s'.channel = s.channel.run (events.map .publish) := by
  cases h <;> rfl

theorem published_turned (s : Session τ) (x : Action) : Turned s (s.published x) (x.perform s) := by
  obtain ⟨events, h⟩ := perform_turned x s
  have hp : s.published x = events := by
    unfold published
    rw [(h (.overheard []) []).channel_eq]
    change ((Channel.run (.overheard []) (events.map .publish)).drain 0).1 = events
    rw [Channel.run_overheard]
    rfl
  rw [hp]
  exact h s.channel s.log

theorem run_channel (s : Session τ) (actions : List Action) :
    (s.run actions).channel = s.channel.run ((s.stream actions).map .publish) := by
  induction actions generalizing s with
  | nil => rfl
  | cons x actions ih =>
    have hx := (published_turned s x).channel_eq
    rw [stream, List.map_append, Channel.run_append, ← hx]
    exact ih (x.perform s)

theorem Turned.length_le (h : Turned s events s') : events.length ≤ 1 := by
  cases h <;> simp

theorem Turned.kinds (h : Turned s events s') {e : Event} (he : e ∈ events) :
    (e.kind = .deviceConnected → s.connection ≠ .connected ∧ s'.connection = .connected) ∧
      (e.kind = .deviceDisconnected ∨ e.kind = .deviceFailed → s.connection = .connected ∧ s'.connection ≠ .connected) ∧
      (e.kind = .deviceAttached → s.connection ≠ .connected ∧ s'.connection ≠ .connected) := by
  cases h with
  | idle => cases he
  | connectFailed => cases he
  | attached l hc =>
    obtain rfl := List.mem_singleton.mp he
    exact ⟨nofun, by simp, fun _ => ⟨hc, by simp⟩⟩
  | connected l hc =>
    obtain rfl := List.mem_singleton.mp he
    exact ⟨fun _ => ⟨hc, rfl⟩, by simp, nofun⟩
  | disconnected l hc =>
    obtain rfl := List.mem_singleton.mp he
    exact ⟨nofun, fun _ => ⟨hc, by simp⟩, nofun⟩
  | brokenOff l failure hc =>
    obtain rfl := List.mem_singleton.mp he
    exact ⟨nofun, fun _ => ⟨hc, by simp⟩, nofun⟩
  | replied l m reply kind hc hk =>
    obtain rfl := List.mem_singleton.mp he
    have hl := EventKind.not_lifecycle_of_reply hk
    refine ⟨?_, ?_, ?_⟩
    · rintro rfl
      cases hl
    · rintro (rfl | rfl) <;> cases hl
    · rintro rfl
      cases hl

theorem lastChange_aside {e : Event} (hk : e.kind.changesConnection = false) :
    lastChange (past ++ [e]) = lastChange past := by
  rw [lastChange_concat, hk]
  rfl

theorem lastChange_changed {e : Event} (hk : e.kind.changesConnection = true) :
    lastChange (past ++ [e]) = some e.kind := by
  rw [lastChange_concat, hk]
  rfl

theorem Turned.connected_iff (h : Turned s events s')
    (hp : s.connection = .connected ↔ lastChange past = some .deviceConnected) :
    s'.connection = .connected ↔ lastChange (past ++ events) = some .deviceConnected := by
  cases h with
  | idle =>
    rw [List.append_nil]
    exact hp
  | connectFailed l cause hc =>
    rw [List.append_nil, ← hp]
    exact ⟨nofun, fun h => absurd h hc⟩
  | attached l hc =>
    rw [lastChange_aside rfl, ← hp]
    exact ⟨nofun, fun h => absurd h hc⟩
  | connected =>
    rw [lastChange_changed rfl]
    exact ⟨fun _ => rfl, fun _ => rfl⟩
  | disconnected =>
    rw [lastChange_changed rfl]
    exact ⟨nofun, nofun⟩
  | brokenOff =>
    rw [lastChange_changed rfl]
    exact ⟨nofun, nofun⟩
  | replied l m reply kind hc hk =>
    rw [lastChange_aside (EventKind.not_changesConnection_of_reply hk), ← hp]
    exact ⟨fun _ => hc, fun h => h⟩

theorem run_connected_iff (actions : List Action)
    (hp : s.connection = .connected ↔ lastChange past = some .deviceConnected) :
    (s.run actions).connection = .connected ↔ lastChange (past ++ s.stream actions) = some .deviceConnected := by
  induction actions generalizing s past with
  | nil =>
    rw [stream, List.append_nil]
    exact hp
  | cons x actions ih =>
    rw [stream, ← List.append_assoc]
    exact ih ((published_turned s x).connected_iff hp)

theorem Turned.timeout_eq (h : Turned s events s') : s'.timeout = s.timeout := by
  cases h <;> rfl

theorem timeout_run (s : Session τ) (actions : List Action) : (s.run actions).timeout = s.timeout := by
  induction actions generalizing s with
  | nil => rfl
  | cons x actions ih => exact (ih (x.perform s)).trans (published_turned s x).timeout_eq

theorem published_of_fire {x : Action} {t : Session τ} {kind : EventKind} {message : Option Message}
    (ht : t.channel = .overheard [])
    (h : (x.perform (s.among (.overheard []) [])).channel = (t.fire kind message).channel) : s.published x = [⟨kind, message⟩] := by
  have hf : (t.fire kind message).channel = (t.channel.publish ⟨kind, message⟩).1 := rfl
  rw [published, h, hf, ht, Channel.publish_overheard]
  rfl

end Session

def Message.HasStrength (m : Message) : Prop :=
  ∀ r, m = .resetDevice r → ∃ n, r.strength.number? = some n

theorem ResetProgress.exists_observe {request : Message} (hm : request.HasStrength) (before : Option ResetProgress)
    (reply : Message) : ∃ after notices, ResetProgress.observe before request reply = .ok (after, notices) := by
  have hw : ∀ r, request = .resetDevice r → ∃ count, wordCountOf r.strength = .ok count := by
    intro r hr
    obtain ⟨n, hn⟩ := hm r hr
    exact ⟨_, by rw [wordCountOf, hn]⟩
  unfold ResetProgress.observe
  split
  case h_3 r phase =>
    obtain ⟨count, hc⟩ := hw r rfl
    exact ⟨_, _, by rw [hc]; rfl⟩
  case h_4 r =>
    obtain ⟨count, hc⟩ := hw r rfl
    exact ⟨_, _, by rw [hc]; rfl⟩
  all_goals
    try split
    all_goals exact ⟨_, _, rfl⟩

theorem Progress.exists_observe {request : Message} (hm : request.HasStrength) (p : Progress) (reply : Message) :
    ∃ after first second, p.observe request reply =
        (⟨(p.authentication.observe request reply).1, after, observePending p.pending request reply⟩, first, .ok ()) ∧
      ResetProgress.observe p.reset request reply = .ok (after, second) := by
  obtain ⟨after, second, ho⟩ := ResetProgress.exists_observe hm p.reset reply
  refine ⟨after, (p.authentication.observe request reply).2 ++ second, second, ?_, ho⟩
  rw [observe, ho]

namespace Session

variable {τ : Type} [Transport τ] {s : Session τ} {m reply : Message} {kind : EventKind} {l : τ}

theorem call_broken {failure : Option Message} {e : Error} (hd : Transport.Foreseen (Transport.disconnect l).1)
    (hb : ∀ channel log, call m (s.among channel log) = breakOff failure e { s.among channel log with link := l }) :
    (call m s).1 = .error e ∧ s.published (.call m) = [⟨.deviceFailed, failure⟩] ∧
      (call m s).2.connection = .failed ∧ (call m s).2.link = (Transport.disconnect l).2 ∧
      (call m s).2.progress = s.progress := by
  have hf : ∀ channel log, call m (s.among channel log) = (.error e,
      { s.among channel log with link := (Transport.disconnect l).2, connection := .failed }.fire .deviceFailed failure) := by
    intro channel log
    rw [hb]
    exact breakOff_foreseen rfl hd
  have hs : call m s = _ := hf s.channel s.log
  refine ⟨?_, ?_, ?_⟩
  · rw [hs]
  · apply published_of_fire (t := { s.among (.overheard []) [] with
      link := (Transport.disconnect l).2, connection := .failed }) rfl
    rw [Action.perform, hf]
  · rw [hs]
    exact ⟨rfl, rfl, rfl⟩

section Connected

variable (hc : s.connection = .connected)

include hc

theorem call_answered (hx : Transport.exchange m s.timeout s.link = (.ok (some reply), l))
    (hk : EventKind.ofReply? reply = some kind) (hm : m.HasStrength) :
    (call m s).1 = .ok reply ∧ s.published (.call m) = [⟨kind, some reply⟩] ∧ (call m s).2.connection = .connected ∧
      (call m s).2.progress.authentication = (s.progress.authentication.observe m reply).1 ∧
      (∃ notices, ResetProgress.observe s.progress.reset m reply = .ok ((call m s).2.progress.reset, notices)) ∧
      (call m s).2.progress.pending = Progress.observePending s.progress.pending m reply := by
  obtain ⟨after, first, second, ho, hr⟩ := Progress.exists_observe hm s.progress reply
  have hs := call_replied hc hx hk
  have hp : (call m s).2.progress = ⟨(s.progress.authentication.observe m reply).1, after,
      Progress.observePending s.progress.pending m reply⟩ := by
    rw [hs]
    exact congrArg Prod.fst ho
  have hok : (observe m reply ({ s with link := l }.fire kind (some reply))).1 = .ok () :=
    congrArg (fun outcome => outcome.2.2) ho
  have ht : s.published (.call m) = [⟨kind, some reply⟩] := by
    apply published_of_fire (t := { s.among (.overheard []) [] with link := l }) rfl
    rw [Action.perform, call_replied (s := s.among (.overheard []) []) hc hx hk]
    rfl
  rw [hp]
  refine ⟨?_, ht, ?_, rfl, ⟨second, hr⟩, rfl⟩
  · rw [hs]
    change Except.map _ (observe m reply ({ s with link := l }.fire kind (some reply))).1 = _
    rw [hok]
    rfl
  · rw [hs]
    exact hc

theorem call_unreplied (hτ : Transport.Regular τ)
    (hw : (Transport.exchange m s.timeout s.link).1 = .ok none → s.timeout.isWritable = true)
    (hx : ∀ reply kind, (Transport.exchange m s.timeout s.link).1 = .ok (some reply) →
      EventKind.ofReply? reply ≠ some kind) :
    ∃ failure e, (call m s).1 = .error e ∧ s.published (.call m) = [⟨.deviceFailed, failure⟩] ∧
      (call m s).2.connection = .failed ∧
      (call m s).2.link = (Transport.disconnect (Transport.exchange m s.timeout s.link).2).2 ∧
      (call m s).2.progress = s.progress ∧
      ((Transport.exchange m s.timeout s.link).1 = .ok none ∧ (∃ text, failure = some (.failure .timeout text)) ∨
        (Transport.exchange m s.timeout s.link).1 ≠ .ok none ∧ failure = none) := by
  obtain ⟨r, l, hr⟩ : ∃ r l, Transport.exchange m s.timeout s.link = (r, l) := ⟨_, _, rfl⟩
  have he := hτ.exchange m s.timeout s.link
  rw [hr] at he hw hx ⊢
  have hd := hτ.disconnect l
  rcases r with e | _ | reply
  · obtain ⟨cause, rfl⟩ := he e rfl
    obtain ⟨ho, hp, hf, hl, hg⟩ := call_broken hd fun channel log => call_faulted (s := s.among channel log) hc hr
    exact ⟨_, _, ho, hp, hf, hl, hg, .inr ⟨nofun, rfl⟩⟩
  · have hu : ∀ channel log, call m (s.among channel log) = breakOff
        (some (.failure .timeout (.text (Error.replyMissing m.name s.timeout).message)))
        (.replyMissing m.name s.timeout) { s.among channel log with link := l } :=
      fun channel log => call_unanswered (s := s.among channel log) hc hr (hw rfl)
    obtain ⟨ho, hp, hf, hl, hg⟩ := call_broken hd hu
    exact ⟨_, _, ho, hp, hf, hl, hg, .inl ⟨rfl, _, rfl⟩⟩
  · cases hk : EventKind.ofReply? reply with
    | some kind => exact absurd hk (hx reply kind rfl)
    | none =>
      obtain ⟨ho, hp, hf, hl, hg⟩ :=
        call_broken hd fun channel log => call_unexpected (s := s.among channel log) hc hr hk
      exact ⟨_, _, ho, hp, hf, hl, hg, .inr ⟨by simp, rfl⟩⟩

end Connected

/-- A session is connected exactly if the last that it told of its connection is that it is. It tells of one thing at a
    time: of a connection when there was none, of the end of one when there was one, and of a device that turned up when
    there was none. A call over a connection tells of its reply, which every protocol has followed then, or that the
    device failed, when the link is closed and no protocol has heard of it. For that the numbers in its messages must not
    be too long to be written. -/
theorem lifecycle (hτ : Transport.Regular τ) (link : τ) (timeout : Timeout) (channel : Channel) (policy : PinPolicy)
    (actions : List Action) :
    let fresh := create link timeout channel policy
    let s := fresh.run actions
    s.channel = channel.run ((fresh.stream actions).map .publish) ∧
      (s.connection = .connected ↔ lastChange (fresh.stream actions) = some .deviceConnected) ∧
      (∀ x, (s.published x).length ≤ 1 ∧ ∀ e ∈ s.published x,
        (e.kind = .deviceConnected → s.connection ≠ .connected ∧ (x.perform s).connection = .connected) ∧
        (e.kind = .deviceDisconnected ∨ e.kind = .deviceFailed →
          s.connection = .connected ∧ (x.perform s).connection ≠ .connected) ∧
        (e.kind = .deviceAttached → s.connection ≠ .connected ∧ (x.perform s).connection ≠ .connected)) ∧
      (policy.limit.isWritable = true → ∀ m : Message, s.connection = .connected → m.HasStrength →
        let answer := Transport.exchange m s.timeout s.link
        (answer.1 = .ok none → timeout.isWritable = true) →
        (∃ reply kind, answer.1 = .ok (some reply) ∧ EventKind.ofReply? reply = some kind ∧
          (call m s).1 = .ok reply ∧ s.published (.call m) = [⟨kind, some reply⟩] ∧
          (call m s).2.connection = .connected ∧
          (call m s).2.progress.authentication = (s.progress.authentication.observe m reply).1 ∧
          (∃ notices, ResetProgress.observe s.progress.reset m reply = .ok ((call m s).2.progress.reset, notices)) ∧
          (call m s).2.progress.pending = Progress.observePending s.progress.pending m reply) ∨
        ∃ failure e, (call m s).1 = .error e ∧ s.published (.call m) = [⟨.deviceFailed, failure⟩] ∧
          (call m s).2.connection = .failed ∧ (call m s).2.link = (Transport.disconnect answer.2).2 ∧
          (call m s).2.progress = s.progress ∧
          (answer.1 = .ok none ∧ (∃ text, failure = some (.failure .timeout text)) ∨
            answer.1 ≠ .ok none ∧ failure = none)) := by
  intro fresh s
  refine ⟨run_channel fresh actions, ?_, ?_, ?_⟩
  · have h : s.connection = .connected ↔ lastChange ([] ++ fresh.stream actions) = some .deviceConnected :=
      run_connected_iff actions ⟨nofun, nofun⟩
    rwa [List.nil_append] at h
  · intro x
    have ht := published_turned s x
    exact ⟨ht.length_le, fun e he => ht.kinds he⟩
  · intro _ m hc hm answer hw
    have hs : s.timeout = timeout := timeout_run fresh actions
    by_cases hx : ∃ reply kind, answer.1 = .ok (some reply) ∧ EventKind.ofReply? reply = some kind
    · obtain ⟨reply, kind, hr, hk⟩ := hx
      have hl : Transport.exchange m s.timeout s.link = (.ok (some reply), answer.2) := Prod.ext hr rfl
      exact .inl ⟨reply, kind, hr, hk, call_answered hc hl hk hm⟩
    · exact .inr (call_unreplied hc hτ (fun hn => hs ▸ hw hn) fun reply kind hr hk => hx ⟨reply, kind, hr, hk⟩)

structure Replay where
  answers : List (Except String (Option Message))

instance : Transport Replay where
  path := fun _ => "replay:0"
  present := fun l => (.ok true, l)
  connect := fun l => (.ok (), l)
  disconnect := fun l => (.ok (), l)
  write := fun _ l => (.ok (), l)
  read := fun _ l =>
    match l.answers with
    | [] => (.ok none, l)
    | .ok reply :: answers => (.ok reply, ⟨answers⟩)
    | .error cause :: answers => (.error (.transport cause), ⟨answers⟩)

theorem regular_replay : Transport.Regular Replay where
  disconnect _ := nofun
  write _ _ := nofun
  read timeout l e he := by
    obtain ⟨answers⟩ := l
    rcases answers with _ | ⟨_ | reply, answers⟩ <;> cases he
    exact ⟨_, rfl⟩

theorem silence_lifecycle :
    let fresh := create (⟨[.ok (some .entropyRequest)]⟩ : Replay) .standard {} .standard
    let s := fresh.run [.connect, .call .initialise]
    Transport.Regular Replay ∧ Timeout.standard.isWritable = true ∧ PinPolicy.standard.limit.isWritable = true ∧
      s.connection = .connected ∧ Message.HasStrength .initialise ∧
      lastChange (fresh.stream [.connect, .call .initialise]) = some .deviceConnected ∧
      ∃ text e, (call .initialise s).1 = .error e ∧
        s.published (.call .initialise) = [⟨.deviceFailed, some (.failure .timeout text)⟩] := by
  intro fresh s
  have ht : Timeout.standard.isWritable = true := rfl
  have hp : PinPolicy.standard.limit.isWritable = true := by decide +kernel
  have hc : s.connection = .connected := rfl
  have hm : Message.HasStrength .initialise := nofun
  have hn : (Transport.exchange .initialise s.timeout s.link).1 = .ok none := rfl
  obtain ⟨-, hs, -, ho⟩ := lifecycle regular_replay ⟨[.ok (some .entropyRequest)]⟩ .standard {} .standard
    [.connect, .call .initialise]
  refine ⟨regular_replay, ht, hp, hc, hm, hs.mp hc, ?_⟩
  rcases ho hp .initialise hc hm fun _ => ht with ⟨reply, kind, hr, -⟩ | ⟨failure, e, he, hp, -, -, -, hf⟩
  · cases hn.symm.trans hr
  · obtain ⟨-, text, rfl⟩ | ⟨hne, -⟩ := hf
    · exact ⟨text, e, he, hp⟩
    · exact absurd hn hne

/-- A reply from which a protocol makes no number of words has been told when the call for it fails, and a silence after
    a time that is too long to be written is not told at all. The session is connected still. -/
theorem calls_fail_connected :
    let asked := Message.pinMatrixRequest (some .newFirst)
    let worded := Message.resetDevice { strength := .text "abc" }
    let s := (create (⟨[.ok (some asked)]⟩ : Replay) .standard {} .standard).run [.connect]
    let t := (create (⟨[]⟩ : Replay) (.seconds (.whole (Nat.pow 10 4300))) {} .standard).run [.connect]
    Transport.Regular Replay ∧
      s.connection = .connected ∧ (call worded s).1 = .error (.operand "//" "str" "int") ∧
      s.published (.call worded) = [⟨.pinMatrixRequest, some asked⟩] ∧
      (call worded s).2.connection = .connected ∧
      t.connection = .connected ∧ (call .initialise t).1 = .error .unwritable ∧ t.published (.call .initialise) = [] ∧
      (call .initialise t).2.connection = .connected := by
  intro asked worded s t
  have hw : t.timeout.isWritable = false := by decide +kernel
  have hc : t.connection = .connected := rfl
  have hx : Transport.exchange .initialise t.timeout t.link = (.ok none, t.link) := rfl
  have ht : ∀ channel log, call .initialise (t.among channel log) = (.error .unwritable, t.among channel log) :=
    fun channel log => call_unwritten (s := t.among channel log) hc hx hw
  have hcall : call .initialise t = (.error .unwritable, t) := ht t.channel t.log
  refine ⟨regular_replay, rfl, rfl, rfl, rfl, hc, by rw [hcall], ?_, by rw [hcall, hc]⟩
  rw [published, Action.perform, ht]
  rfl

end Session

end HardwareWallet
