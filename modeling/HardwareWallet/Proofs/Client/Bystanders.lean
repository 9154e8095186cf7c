import HardwareWallet.Proofs.Channel.Visited
import HardwareWallet.Proofs.Client.Operation
import HardwareWallet.Proofs.Session.Turn

namespace HardwareWallet

open Attempt

structure Channel.Course (R : Channel → List Event → Channel → Prop) : Prop where
  refl (c : Channel) : c.Listed → R c [] c
  trans (c c' c'' : Channel) (first second : List Event) : R c first c' → R c' second c'' → R c (first ++ second) c''
  listed (c c' : Channel) (events : List Event) : c.Listed → R c events c' → c'.Listed
  defaultCapacity (c c' : Channel) (events : List Event) : R c events c' → c'.defaultCapacity = c.defaultCapacity

namespace Channel

def Aired (c : Channel) (events : List Event) (c' : Channel) : Prop :=
  c' = c.run (events.map .publish)

theorem course_aired : Course Aired where
  refl _ _ := rfl
  trans c c' c'' first second h h' := by rw [Aired, h', h, List.map_append, run_append]
  listed c c' events hc h := h ▸ hc.run _
  defaultCapacity c c' events h := h ▸ run_defaultCapacity c _

theorem course_visited : Course Visited where
  refl _ := Visited.refl
  trans _ _ _ _ _ := Visited.trans
  listed _ _ _ _ := Visited.listed
  defaultCapacity _ _ _ := Visited.defaultCapacity

end Channel

namespace Session

variable {τ α : Type}

def Oblivious (x : Attempt (Session τ) α) : Prop :=
  ∀ s : Session τ, ∃ (r : Except Error α) (s' : Session τ) (events : List Event), ∀ channel log, ∃ log',
    x (s.among channel log) = (r, s'.among (channel.run (events.map .publish)) log')

theorem oblivious_note (notices : List Notice) :
    Oblivious (modify fun s : Session τ => s.note notices) :=
  fun s => ⟨.ok (), s, [], fun _ _ => ⟨_, rfl⟩⟩

theorem oblivious_countAttempt : Oblivious (modify (Client.countAttempt (τ := τ))) :=
  fun s => ⟨.ok (), Client.countAttempt s, [], fun _ log => ⟨log, rfl⟩⟩

theorem oblivious_fire (kind : EventKind) (message : Option Message) :
    Oblivious (modify fun s : Session τ => s.fire kind message) :=
  fun s => ⟨.ok (), s, [⟨kind, message⟩], fun _ _ => ⟨_, rfl⟩⟩

theorem oblivious_observe (request reply : Message) : Oblivious (observe (τ := τ) request reply) := by
  intro s
  obtain ⟨progress, notices, outcome, ho⟩ : ∃ progress notices outcome,
      s.progress.observe request reply = (progress, notices, outcome) := ⟨_, _, _, rfl⟩
  refine ⟨outcome, { s with progress := progress }, [], fun channel log => ⟨log ++ notices, ?_⟩⟩
  have hs : (s.among channel log).progress.observe request reply = (progress, notices, outcome) := ho
  rw [observe, hs]
  rfl

variable [Transport τ]

theorem closeLink_among (s : Session τ) :
    ∃ (r : Except Error Unit) (s' : Session τ), ∀ channel log, closeLink (s.among channel log) = (r, s'.among channel log) := by
  obtain ⟨r, l, h⟩ : ∃ r l, Transport.disconnect s.link = (r, l) := ⟨_, _, rfl⟩
  have hl : ∀ channel log, onLink Transport.disconnect (s.among channel log) =
      (r, { s with link := l }.among channel log) := fun channel log => onLink_eq (s := s.among channel log) h
  rcases r with e | _
  · by_cases he : ∃ cause, e = .transport cause
    · obtain ⟨cause, rfl⟩ := he
      exact ⟨.ok (), { s with link := l }, fun channel log => by rw [closeLink, hl]⟩
    · refine ⟨.error e, { s with link := l }, fun channel log => ?_⟩
      rw [closeLink, hl]
      cases e
      case transport cause => exact absurd ⟨cause, rfl⟩ he
      all_goals rfl
  · exact ⟨.ok (), { s with link := l }, fun channel log => by rw [closeLink, hl]⟩

theorem oblivious_breakOff (failure : Option Message) (e : Error) :
    Oblivious (breakOff (τ := τ) (α := α) failure e) := by
  intro s
  obtain ⟨r, s', hc⟩ := closeLink_among s
  cases r with
  | error e' => exact ⟨.error e', s', [], fun channel log => ⟨log, by rw [breakOff, hc]; rfl⟩⟩
  | ok =>
    refine ⟨.error e, { s' with connection := .failed }, [⟨.deviceFailed, failure⟩], fun channel log => ?_⟩
    exact ⟨_, by rw [breakOff, hc]; rfl⟩

theorem oblivious_call (m : Message) : Oblivious (call (τ := τ) m) := by
  intro s
  cases called m s with
  | unconnected hc h => exact ⟨.error .notConnected, s, [], fun channel log => ⟨log, h channel log⟩⟩
  | brokenOff hc r l hx hr failure e he h =>
    obtain ⟨r, s', events, hb⟩ := oblivious_breakOff (α := Message) failure e { s with link := l }
    refine ⟨r, s', events, fun channel log => ?_⟩
    rw [h]
    exact hb channel log
  | unforeseen hc r e l hx hr he h =>
    exact ⟨.error e, { s with link := l }, [], fun channel log => ⟨log, h channel log⟩⟩
  | replied hc reply kind l hx hk h =>
    obtain ⟨r, s', events, ho⟩ := oblivious_observe m reply { s with link := l }
    refine ⟨r.map fun _ => reply, s', ⟨kind, some reply⟩ :: events, fun channel log => ?_⟩
    obtain ⟨log', ho⟩ := ho (channel.publish ⟨kind, some reply⟩).1 (log ++ (channel.publish ⟨kind, some reply⟩).2)
    refine ⟨log', ?_⟩
    rw [h]
    exact congrArg (fun heard => (heard.1.map fun _ => reply, heard.2)) ho

end Session

namespace Client

variable {τ α β : Type}

def among (c : Client τ) (channel : Channel) (log : List Notice) : Client τ :=
  { c with session := c.session.among channel log }

variable {R : Channel → List Event → Channel → Prop}

/-- An operation of a client that comes to the same whoever listens. The channel goes on in the way that is given, and
    only the size of the queues on it may make a difference. -/
def Oblivious (R : Channel → List Event → Channel → Prop) (x : Attempt (Client τ) α) : Prop :=
  ∀ (c : Client τ) (v : Value), ∃ (r : Except Error α) (c' : Client τ) (events : List Event), ∀ channel log, channel.Listed → channel.defaultCapacity = v →
    ∃ channel' log', x (c.among channel log) = (r, c'.among channel' log') ∧ R channel events channel'

theorem Oblivious.mono {R' : Channel → List Event → Channel → Prop} {x : Attempt (Client τ) α} (hx : Oblivious R x)
    (h : ∀ c events c', c.Listed → R c events c' → R' c events c') : Oblivious R' x := by
  intro c v
  obtain ⟨r, c', events, hx⟩ := hx c v
  refine ⟨r, c', events, fun channel log hl hv => ?_⟩
  obtain ⟨channel', log', hr, hR⟩ := hx channel log hl hv
  exact ⟨channel', log', hr, h _ _ _ hl hR⟩

theorem oblivious_onSession {x : Attempt (Session τ) α} (hx : Session.Oblivious x) :
    Oblivious Channel.Aired (onSession x) := by
  intro c v
  obtain ⟨r, s', events, hx⟩ := hx c.session
  refine ⟨r, { c with session := s' }, events, fun channel log _ _ => ?_⟩
  obtain ⟨log', hx⟩ := hx channel log
  refine ⟨channel.run (events.map .publish), log', ?_, rfl⟩
  have hs : x (c.among channel log).session = (r, s'.among (channel.run (events.map .publish)) log') := hx
  rw [onSession, onPart, hs]
  rfl

section Course

variable (hR : Channel.Course R)

include hR

theorem oblivious_ofExcept (r : Except Error α) : Oblivious R (ofExcept r : Attempt (Client τ) α) :=
  fun c _ => ⟨r, c, [], fun channel log hl _ => ⟨channel, log, rfl, hR.refl _ hl⟩⟩

theorem oblivious_pure (a : α) : Oblivious R (pure a : Attempt (Client τ) α) :=
  oblivious_ofExcept hR (.ok a)

theorem oblivious_fail (e : Error) : Oblivious R (fail e : Attempt (Client τ) α) :=
  oblivious_ofExcept hR (.error e)

theorem oblivious_bind {x : Attempt (Client τ) α} {f : α → Attempt (Client τ) β} (hx : Oblivious R x)
    (hf : ∀ a, Oblivious R (f a)) : Oblivious R (x >>= f) := by
  intro c v
  obtain ⟨r, c', first, hx⟩ := hx c v
  cases r with
  | error e =>
    refine ⟨.error e, c', first, fun channel log hl hv => ?_⟩
    obtain ⟨channel', log', hr, hc⟩ := hx channel log hl hv
    exact ⟨channel', log', bind_of_error f hr, hc⟩
  | ok a =>
    obtain ⟨r, c'', second, hf⟩ := hf a c' v
    refine ⟨r, c'', first ++ second, fun channel log hl hv => ?_⟩
    obtain ⟨channel', log', hr, hc⟩ := hx channel log hl hv
    obtain ⟨channel'', log'', hr', hc'⟩ :=
      hf channel' log' (hR.listed _ _ _ hl hc) ((hR.defaultCapacity _ _ _ hc).trans hv)
    exact ⟨channel'', log'', (bind_of_ok f hr).trans hr', hR.trans _ _ _ _ _ hc hc'⟩

end Course

theorem oblivious_ite {b : Prop} [Decidable b] {x y : Attempt (Client τ) α} (hx : Oblivious R x)
    (hy : Oblivious R y) : Oblivious R (if b then x else y) := by
  split
  · exact hx
  · exact hy

theorem oblivious_get_bind {f : Client τ → Attempt (Client τ) α} (hf : ∀ c channel log, f (c.among channel log) = f c)
    (h : ∀ c, Oblivious R (f c)) : Oblivious R (get >>= f) := by
  intro c v
  obtain ⟨r, c', events, h⟩ := h c c v
  refine ⟨r, c', events, fun channel log hl hv => ?_⟩
  rw [get_bind, hf]
  exact h channel log hl hv

theorem oblivious_note (notices : List Notice) : Oblivious Channel.Aired (note (τ := τ) notices) :=
  oblivious_onSession (Session.oblivious_note notices)

variable [Transport τ]

theorem oblivious_request (m : Message) : Oblivious Channel.Aired (request (τ := τ) m) :=
  oblivious_bind Channel.course_aired (oblivious_onSession (Session.oblivious_call m))
    fun _ => oblivious_pure Channel.course_aired ()

theorem oblivious_hierarchy (path : Value) : Oblivious Channel.Aired (hierarchy (τ := τ) path) :=
  oblivious_bind Channel.course_aired (oblivious_ofExcept Channel.course_aired _)
    fun _ => oblivious_request _

theorem oblivious_pinMatrixAck (pin : Value) : Oblivious Channel.Aired (pinMatrixAck (τ := τ) pin) := by
  cases pin with
  | text pin =>
    refine oblivious_get_bind (fun _ _ _ => rfl) fun c => oblivious_ite ?_ ?_
    · exact oblivious_bind Channel.course_aired (oblivious_onSession Session.oblivious_countAttempt)
        fun _ => oblivious_request _
    · exact oblivious_bind Channel.course_aired (oblivious_note _)
        fun _ => oblivious_onSession (Session.oblivious_fire _ _)
  | _ => exact oblivious_fail Channel.course_aired _

theorem oblivious_resetDevice (r : ResetRequest) : Oblivious Channel.Aired (resetDevice (τ := τ) r) :=
  oblivious_ite (oblivious_request _) (oblivious_fail Channel.course_aired _)

theorem oblivious_entropyAck (entropy : Argument Bytes) : Oblivious Channel.Aired (entropyAck (τ := τ) entropy) := by
  cases entropy with
  | proper entropy => exact oblivious_request _
  | other given => exact oblivious_fail Channel.course_aired _

theorem oblivious_wordAck (word : Value) : Oblivious Channel.Aired (wordAck (τ := τ) word) := by
  cases word with
  | text word => exact oblivious_request _
  | _ => exact oblivious_fail Channel.course_aired _

theorem oblivious_cipherKeyValue (a : CipherArguments) : Oblivious Channel.Aired (cipherKeyValue (τ := τ) a) :=
  oblivious_get_bind (fun _ _ _ => rfl) fun _ =>
    oblivious_bind Channel.course_aired (oblivious_ofExcept Channel.course_aired _) fun _ => oblivious_request _

end Client

end HardwareWallet
