import HardwareWallet.Proofs.Attempt
import HardwareWallet.Proofs.Session.Faults

namespace HardwareWallet

open Attempt

/-- Whether an error has a message of its own. The text of a refusal is the device's, and a wait without end has none. -/
def Error.isPlain : Error → Bool
  | deviceRefused _ => false
  | deviceCancelled _ => false
  | endless => false
  | _ => true

theorem Error.isPlain_of_kind {e : Error} (h : e.kind.IsPlain) : e.isPlain = true := by
  cases e
  case deviceRefused => exact absurd rfl h.1
  case deviceCancelled => exact absurd rfl h.2.1
  case endless => exact absurd rfl h.2.2
  all_goals rfl

structure Admits (E : Error → Prop) (R : Message → Prop) : Prop where
  plain {e : Error} : e.isPlain = true → E e
  own (code : FailureCode) (text : String) : R (.failure code (.text text))
  failure {code : FailureCode} {text : Value} : R (.failure code text) → E (.deviceRefused text) ∧ E (.deviceCancelled text)

variable {E : Error → Prop} {R : Message → Prop} {α : Type}

theorem Admits.of_plain (ha : Admits E R) {r : Except Error α} (h : Plain r) : ∀ e, r = .error e → E e :=
  fun e he => ha.plain (Error.isPlain_of_kind (h e he))

theorem Admits.ends_ofExcept (ha : Admits E R) {σ : Type} {I : σ → Prop} {r : Except Error α} (h : Plain r) :
    Ends I E (fun _ => True) (Attempt.ofExcept r : Attempt σ α) :=
  Attempt.ends_ofExcept (fun _ _ => trivial) (ha.of_plain h)

namespace Channel

def Carries (R : Message → Prop) (c : Channel) : Prop :=
  ∀ s ∈ c.subscriptions, ∀ e ∈ s.queue, ∀ m ∈ e.message, R m

variable {c : Channel} {h : Handle} {f : Subscription → Subscription} {e : Event}

theorem forall_mem_modify {p : α → Prop} {xs : List α} {g : α → α} (hx : ∀ a ∈ xs, p a) (hg : ∀ a, p a → p (g a))
    (i : Nat) : ∀ a ∈ xs.modify i g, p a := by
  intro a ha
  obtain ⟨k, hk⟩ := List.mem_iff_getElem?.mp ha
  rw [List.getElem?_modify] at hk
  obtain ⟨b, hb, hk⟩ := Option.map_eq_some_iff.mp hk
  have hp := hx b (List.mem_of_getElem? hb)
  split at hk
  · exact hk ▸ hg b hp
  · exact hk ▸ hp

theorem Carries.update (hc : c.Carries R) (hf : ∀ s, ∀ e ∈ (f s).queue, e ∈ s.queue) : (c.update h f).Carries R :=
  forall_mem_modify hc (fun s hs e he => hs e (hf s e he)) h

theorem mem_queue_offer {s : Subscription} {e' : Event} (h : e' ∈ (s.offer e).queue) : e' ∈ s.queue ∨ e' = e := by
  unfold Subscription.offer at h
  split at h
  · exact .inl h
  · split at h
    · exact .inl h
    · rcases List.mem_append.mp h with h | h
      · exact .inl h
      · exact .inr (List.mem_singleton.mp h)

theorem Carries.publish (hc : c.Carries R) (he : ∀ m ∈ e.message, R m) : (c.publish e).1.Carries R := by
  have hoffer (s : Subscription) (hs : ∀ e ∈ s.queue, ∀ m ∈ e.message, R m) :
      ∀ e' ∈ (s.offer e).queue, ∀ m ∈ e'.message, R m := by
    intro e' h
    rcases mem_queue_offer h with h | rfl
    · exact hs e' h
    · exact he
  unfold Carries at hc ⊢
  rw [Channel.publish]
  dsimp only
  -- one subscriber after the other is offered the event
  generalize c.subscriptions = subs at hc ⊢
  induction c.subscribers generalizing subs with
  | nil => exact hc
  | cons h hs ih => exact ih _ (forall_mem_modify hc hoffer h)

theorem Carries.subscribe (hc : c.Carries R) {capacity : Value} {c' : Channel} (h' : c.subscribe capacity = .ok (h, c')) :
    c'.Carries R := by
  rw [Channel.subscribe] at h'
  obtain ⟨n, -, h'⟩ := exists_of_bind_eq_ok h'
  dsimp only at h'
  split at h'
  · cases h'
  · obtain ⟨-, rfl⟩ := Prod.mk.inj (Except.ok.inj h')
    intro s hs
    rcases List.mem_append.mp hs with hs | hs
    · exact hc s hs
    · obtain rfl := List.mem_singleton.mp hs
      exact nofun

theorem plain_subscribe (c : Channel) (capacity : Value) : Plain (c.subscribe capacity) := by
  refine errorsIn_bind ?_ fun n => ?_
  · unfold Value.comparable
    split
    · exact errorsIn_ok _
    · exact plain_error rfl
  · dsimp only
    split
    · exact plain_error rfl
    · exact errorsIn_ok _

theorem Carries.close (hc : c.Carries R) (h : Handle) : (c.close h).Carries R :=
  hc.update fun _ _ he => he

theorem Carries.drain (hc : c.Carries R) (h : Handle) :
    (c.drain h).2.Carries R ∧ ∀ e ∈ (c.drain h).1, ∀ m ∈ e.message, R m := by
  unfold Channel.drain
  split
  · rename_i s hs
    exact ⟨hc.update fun _ _ => nofun, hc s (List.mem_of_getElem? hs)⟩
  · exact ⟨hc, nofun⟩

end Channel

namespace Transport

/-- A link on which an exchange is over within a time: it keeps a property, reads such messages and meets such errors. -/
structure Answers (τ : Type) [Transport τ] (P : τ → Prop) (E : Error → Prop) (R : Message → Prop) (timeout : Timeout) :
    Prop where
  present : Ends P E (fun _ => True) (Transport.present : Attempt τ Bool)
  connect : Ends P E (fun _ => True) (Transport.connect : Attempt τ Unit)
  disconnect : Ends P E (fun _ => True) (Transport.disconnect : Attempt τ Unit)
  exchange (m : Message) : Ends P E (fun reply => ∀ r ∈ reply, R r) (Transport.exchange m timeout : Attempt τ _)

end Transport

namespace Session

open Transport (Answers)

variable {τ : Type} {P : τ → Prop} {timeout : Timeout} {s : Session τ}

structure Sound (P : τ → Prop) (R : Message → Prop) (timeout : Timeout) (s : Session τ) : Prop where
  timeout_eq : s.timeout = timeout
  link : P s.link
  channel : s.channel.Carries R

theorem forall_mem_none : ∀ m ∈ (none : Option Message), R m := by
  simp

theorem Sound.fire (h : s.Sound P R timeout) (kind : EventKind) {message : Option Message} (hm : ∀ m ∈ message, R m) :
    (s.fire kind message).Sound P R timeout :=
  ⟨h.timeout_eq, h.link, h.channel.publish hm⟩

theorem Sound.connection (h : s.Sound P R timeout) (connection : Connection) :
    Sound P R timeout { s with connection := connection } :=
  ⟨h.timeout_eq, h.link, h.channel⟩

theorem Sound.onLink (h : s.Sound P R timeout) {l : τ} (hl : P l) : Sound P R timeout { s with link := l } :=
  ⟨h.timeout_eq, hl, h.channel⟩

theorem ends_onLink {Q : α → Prop} {x : Attempt τ α} (hx : Ends P E Q x) : Ends (Sound P R timeout) E Q (onLink x) :=
  ends_onPart hx (fun _ h => h.link) fun _ _ h hl => h.onLink hl

variable [Transport τ] (hτ : Answers τ P E R timeout)

include hτ

theorem ends_attach : Ends (Sound P R timeout) E (fun _ => True) (attach : Attempt (Session τ) Bool) := by
  refine ends_bind (ends_onLink hτ.present) fun present _ => ends_bind ends_get fun s _ => ?_
  dsimp only
  split
  · exact ends_pure trivial
  · split
    · refine ends_bind (ends_modify fun s hs => ?_) fun _ _ => ends_pure trivial
      exact (hs.connection .attached).fire .deviceAttached forall_mem_none
    · exact ends_pure trivial

theorem ends_connect : Ends (Sound P R timeout) E (fun _ => True) (connect : Attempt (Session τ) Bool) := by
  intro s hs
  by_cases hc : s.connection = .connected
  · have h : connect s = (.ok true, s) := if_pos hc
    rw [h]
    exact ⟨hs, trivial⟩
  · obtain ⟨r, l, hx⟩ : ∃ r l, Transport.connect s.link = (r, l) := ⟨_, _, rfl⟩
    have ho := hτ.connect s.link hs.link
    rw [hx] at ho
    rcases r with e | _
    · by_cases he : ∃ cause, e = .transport cause
      · obtain ⟨cause, rfl⟩ := he
        rw [connect_faulted hc hx]
        exact ⟨⟨hs.timeout_eq, ho.1, hs.channel⟩, trivial⟩
      · rw [connect_unforeseen hc hx fun cause h => he ⟨cause, h⟩]
        exact ⟨hs.onLink ho.1, ho.2⟩
    · rw [connect_opened hc hx]
      exact ⟨((hs.onLink ho.1).connection .connected).fire .deviceConnected forall_mem_none, trivial⟩

theorem ends_closeLink : Ends (Sound P R timeout) E (fun _ => True) (closeLink : Attempt (Session τ) Unit) := by
  intro s hs
  have hx : Comes (Sound P R timeout) E _ _ := ends_onLink hτ.disconnect s hs
  rw [closeLink]
  split
  · rename_i cause t hr
    rw [hr] at hx
    exact ⟨hx.1, trivial⟩
  · exact hx

theorem ends_disconnect : Ends (Sound P R timeout) E (fun _ => True) (disconnect : Attempt (Session τ) Unit) := by
  intro s hs
  by_cases hc : s.connection = .connected
  · obtain ⟨r, t, hx⟩ : ∃ r t, closeLink s = (r, t) := ⟨_, _, rfl⟩
    have ho := ends_closeLink hτ s hs
    rw [hx] at ho
    cases r with
    | error e =>
      have h : disconnect s = (.error e, t) := by
        simp only [disconnect, hc, ne_eq, not_true_eq_false, ↓reduceIte, hx]
      rw [h]
      exact ho
    | ok =>
      have h : disconnect s = (.ok (), { t with connection := .disconnected }.fire .deviceDisconnected none) := by
        simp only [disconnect, hc, ne_eq, not_true_eq_false, ↓reduceIte, hx]
      rw [h]
      exact ⟨(ho.1.connection .disconnected).fire .deviceDisconnected forall_mem_none, trivial⟩
  · have h : disconnect s = (.ok (), s) := if_pos hc
    rw [h]
    exact ⟨hs, trivial⟩

theorem ends_breakOff {Q : α → Prop} (failure : Option Message) (e : Error) (hf : ∀ m ∈ failure, R m) (he : E e) :
    Ends (Sound P R timeout) E Q (breakOff failure e : Attempt (Session τ) α) := by
  intro s hs
  have hx := ends_closeLink hτ s hs
  rw [breakOff]
  split
  · rename_i t hr
    rw [hr] at hx
    exact ⟨(hx.1.connection .failed).fire .deviceFailed hf, he⟩
  · rename_i e' t hr
    rw [hr] at hx
    exact ⟨hx.1, hx.2⟩

variable (ha : Admits E R)

include ha

omit hτ [Transport τ] in
theorem ends_observe (request reply : Message) :
    Ends (Sound P R timeout) E (fun _ => True) (observe request reply : Attempt (Session τ) Unit) := by
  intro s hs
  have hf := s.progress.faults_observe request reply
  rw [observe]
  rcases ho : s.progress.observe request reply with ⟨progress, notices, _ | _⟩
  · rw [ho] at hf
    exact ⟨⟨hs.timeout_eq, hs.link, hs.channel⟩, ha.of_plain hf.plain _ rfl⟩
  · exact ⟨⟨hs.timeout_eq, hs.link, hs.channel⟩, trivial⟩

theorem ends_call (m : Message) : Ends (Sound P R timeout) E R (call m : Attempt (Session τ) Message) := by
  intro s hs
  by_cases hc : s.connection = .connected
  · obtain ⟨r, l, hx⟩ : ∃ r l, Transport.exchange m s.timeout s.link = (r, l) := ⟨_, _, rfl⟩
    have ho := hτ.exchange m s.link hs.link
    rw [← hs.timeout_eq, hx] at ho
    have hl : Sound P R timeout { s with link := l } := hs.onLink ho.state
    rcases r with e | _ | reply
    · by_cases he : ∃ cause, e = .transport cause
      · obtain ⟨cause, rfl⟩ := he
        rw [call_faulted hc hx]
        exact ends_breakOff hτ none _ forall_mem_none (ha.plain rfl) _ hl
      · rw [call_unforeseen hc hx fun cause h => he ⟨cause, h⟩]
        exact ⟨hl, ho.2⟩
    · cases hw : s.timeout.isWritable with
      | true =>
        rw [call_unanswered hc hx hw]
        refine ends_breakOff hτ _ _ ?_ (ha.plain rfl) _ hl
        rintro _ ⟨⟩
        exact ha.own _ _
      | false =>
        rw [call_unwritten hc hx hw]
        exact ⟨hl, ha.plain rfl⟩
    · have hreply : R reply := ho.2 reply rfl
      cases hk : EventKind.ofReply? reply with
      | none =>
        rw [call_unexpected hc hx hk]
        exact ends_breakOff hτ none _ forall_mem_none (ha.plain rfl) _ hl
      | some kind =>
        have htold : ∀ told ∈ some reply, R told := by
          rintro _ ⟨⟩
          exact hreply
        have hheard := ends_observe ha m reply _ (hl.fire kind htold)
        rw [call_replied hc hx hk]
        obtain ⟨r, u, hu⟩ : ∃ r u, observe m reply ({ s with link := l }.fire kind (some reply)) = (r, u) := ⟨_, _, rfl⟩
        rw [hu] at hheard ⊢
        cases r with
        | error e => exact ⟨hheard.1, hheard.2⟩
        | ok => exact ⟨hheard.1, hreply⟩
  · rw [call_unconnected hc]
    exact ⟨hs, ha.plain rfl⟩

end Session

end HardwareWallet
