import Mathlib.Data.List.DropRight
import HardwareWallet.Proofs.Channel.Delivery
import HardwareWallet.Proofs.Client.Request
import HardwareWallet.Transport.Emulated

namespace HardwareWallet

namespace Exchange

def settlesPin : Exchange → Bool
  | ⟨.initialise, .features _⟩ => true
  | ⟨.wipeDevice, _⟩ => true
  | ⟨.clearSession, _⟩ => true
  | ⟨.pinMatrixAck _, .failure ..⟩ => false
  | ⟨.pinMatrixAck _, _⟩ => true
  | _ => false

def rejectsPin : Exchange → Bool
  | ⟨.pinMatrixAck _, .failure .pinInvalid _⟩ => true
  | ⟨.pinMatrixAck _, .failure .pinMismatch _⟩ => true
  | _ => false

end Exchange

def pinFailures (past : List Exchange) : Nat :=
  (past.rtakeWhile fun x => !x.settlesPin).countP Exchange.rejectsPin

theorem pinFailures_concat (past : List Exchange) (x : Exchange) :
    pinFailures (past ++ [x]) =
      if x.settlesPin then 0 else pinFailures past + if x.rejectsPin then 1 else 0 := by
  unfold pinFailures
  rw [List.rtakeWhile_concat]
  cases x.settlesPin with
  | true => rfl
  | false =>
    have h : [x].countP Exchange.rejectsPin = if x.rejectsPin then 1 else 0 := List.countP_singleton
    simp only [Bool.not_false, Bool.false_eq_true, ↓reduceIte, List.countP_append, h]

structure PinEntry.Sound (e : PinEntry) (failures : Nat) : Prop where
  accepted : e.accepted = 0
  attempted : e.failures ≤ e.attempts
  counted : e.failures ≤ failures

theorem PinEntry.sound_new (phase : Option PinPhase) (failures : Nat) :
    PinEntry.Sound { phase := phase } failures :=
  ⟨rfl, Nat.le_refl 0, Nat.zero_le failures⟩

namespace Authentication

structure Counts (limit : Int) (past : List Exchange) (a : Authentication) : Prop where
  policy : a.policy.limit.whole? = some limit
  failures : a.failures = pinFailures past
  bounded : (a.failures : Int) ≤ limit
  entry : ∀ e, a.entry = some e → e.Sound a.failures

variable {limit : Int} {past : List Exchange} {a : Authentication} {m reply : Message}

theorem Counts.allowsAttempt_eq (h : Counts limit past a) : a.allowsAttempt = decide ((a.failures : Int) < limit) :=
  Number.lt_of_whole? rfl h.policy

theorem Counts.startOver {x : Exchange} (h : Counts limit past a) (hx : x.settlesPin = true)
    {a' : Authentication} (hp : a'.policy = a.policy) (hf : a'.failures = 0)
    (he : ∀ e, a'.entry = some e → ∃ phase, e = { phase := phase }) : Counts limit (past ++ [x]) a' where
  policy := by
    rw [hp]
    exact h.policy
  failures := by
    rw [hf, pinFailures_concat, if_pos hx]
  bounded := by
    have hb := h.bounded
    omega
  entry e he' := by
    obtain ⟨phase, rfl⟩ := he e he'
    exact PinEntry.sound_new phase _

theorem Counts.aside {x : Exchange} (h : Counts limit past a) (hs : x.settlesPin = false) (hr : x.rejectsPin = false)
    {a' : Authentication} (hp : a'.policy = a.policy) (hf : a'.failures = a.failures)
    (he : ∀ e, a'.entry = some e → a.entry = some e ∨ ∃ phase, e = { phase := phase }) :
    Counts limit (past ++ [x]) a' where
  policy := by
    rw [hp]
    exact h.policy
  failures := by
    rw [hf, pinFailures_concat, hs, hr]
    exact h.failures
  bounded := by
    rw [hf]
    exact h.bounded
  entry e he' := by
    rw [hf]
    rcases he e he' with he | ⟨phase, rfl⟩
    · exact h.entry e he
    · exact PinEntry.sound_new phase _

theorem Counts.observe (h : Counts limit past a) (hm : ∀ pin, m ≠ .pinMatrixAck pin) :
    Counts limit (past ++ [⟨m, reply⟩]) (a.observe m reply).1 := by
  cases m with
  | pinMatrixAck pin => exact absurd rfl (hm pin)
  | wipeDevice => exact h.startOver rfl rfl rfl nofun
  | clearSession => exact h.startOver rfl rfl rfl nofun
  | initialise =>
    cases reply with
    | features f => exact h.startOver rfl rfl rfl nofun
    | pinMatrixRequest phase => exact h.aside rfl rfl rfl rfl fun e he => .inr ⟨phase, (Option.some.inj he).symm⟩
    | _ => exact h.aside rfl rfl rfl rfl fun e he => .inl he
  | _ =>
    cases reply with
    | pinMatrixRequest phase => exact h.aside rfl rfl rfl rfl fun e he => .inr ⟨phase, (Option.some.inj he).symm⟩
    | _ => exact h.aside rfl rfl rfl rfl fun e he => .inl he

theorem Counts.countAttempt (h : Counts limit past a) :
    Counts limit past a.countAttempt ∧ ∃ e, a.countAttempt.entry = some e ∧ e.failures < e.attempts := by
  have hs : (a.entry.getD {}).Sound a.failures := by
    cases he : a.entry with
    | none => exact PinEntry.sound_new none _
    | some e => exact h.entry e he
  have hl := hs.attempted
  constructor
  · refine ⟨h.policy, h.failures, h.bounded, ?_⟩
    intro e he
    obtain rfl := Option.some.inj he
    exact ⟨hs.accepted, Nat.le_succ_of_le hl, hs.counted⟩
  · exact ⟨_, rfl, Nat.lt_succ_of_le hl⟩

theorem Counts.rejected {x : Exchange} {e : PinEntry} (h : Counts limit past a) (hl : (a.failures : Int) < limit)
    (he : a.entry = some e) (ha : e.failures < e.attempts) (hs : x.settlesPin = false) (hr : x.rejectsPin = true) :
    Counts limit (past ++ [x])
      { a with failures := a.failures + 1, entry := some { e with failures := e.failures + 1 } } where
  policy := h.policy
  failures := by
    rw [pinFailures_concat, hs, hr, ← h.failures]
    rfl
  bounded := by
    push_cast
    omega
  entry e' he' := by
    obtain rfl := Option.some.inj he'
    obtain ⟨accepted, -, counted⟩ := h.entry e he
    exact ⟨accepted, ha, Nat.succ_le_succ counted⟩

theorem Counts.observePin {e : PinEntry} (h : Counts limit past a) (hl : (a.failures : Int) < limit)
    (he : a.entry = some e) (ha : e.failures < e.attempts) (pin : Value) :
    Counts limit (past ++ [⟨.pinMatrixAck pin, reply⟩]) (a.observe (.pinMatrixAck pin) reply).1 := by
  have hr : ∀ code text, isRejection code = true →
      (a.observe (.pinMatrixAck pin) (.failure code text)).1 =
        { a with failures := a.failures + 1, entry := some { e with failures := e.failures + 1 } } := by
    intro code text hc
    simp only [Authentication.observe, Authentication.observePin, hc, ↓reduceIte, he, Option.getD_some]
  cases reply with
  | failure code text =>
    cases code with
    | pinInvalid => rw [hr _ _ rfl]; exact h.rejected hl he ha rfl rfl
    | pinMismatch => rw [hr _ _ rfl]; exact h.rejected hl he ha rfl rfl
    | _ => exact h.aside rfl rfl rfl rfl nofun
  | pinMatrixRequest phase => exact h.startOver rfl rfl rfl fun e he => ⟨phase, (Option.some.inj he).symm⟩
  | _ => exact h.startOver rfl rfl rfl nofun

end Authentication

namespace Client

open Authentication (Counts)

variable {τ : Type} [Transport τ]

def run (c : Client τ) (operations : List Operation) : Client τ :=
  operations.foldl (fun c o => o.perform c) c

def past (c : Client τ) : List Operation → List Exchange
  | [] => []
  | o :: operations => c.heard o ++ (o.perform c).past operations

variable {limit : Int} {past : List Exchange} {c : Client τ} {o : Operation} {m : Message}

theorem counts_call {s : Session τ} (h : Counts limit past s.progress.authentication)
    (hx : ∀ reply, Counts limit (past ++ [⟨m, reply⟩]) (s.progress.authentication.observe m reply).1) :
    Counts limit (past ++ (s.exchange? m).toList) (Session.call m s).2.progress.authentication := by
  rw [Session.progress_call]
  cases he : s.exchange? m with
  | none =>
    rw [Option.toList_none, List.append_nil]
    exact h
  | some x =>
    obtain ⟨reply, -, -, rfl, -⟩ := Session.exchange?_eq_some he
    have ha : (s.progress.hear (some (Exchange.mk m reply)).toList).authentication =
        (s.progress.authentication.observe m reply).1 := Progress.authentication_observe s.progress m reply
    rw [ha]
    exact hx reply

theorem counts_perform (h : Counts limit past c.progress.authentication) (ho : ∀ pin, o ≠ .call (.pinMatrixAck pin)) :
    Counts limit (past ++ c.heard o) (o.perform c).progress.authentication := by
  have hk : ∀ {s : Session τ}, o.request? c = none → s.progress = c.progress →
      Counts limit (past ++ c.heard o) s.progress.authentication := by
    intro s hr hs
    rw [heard_of_none hr, List.append_nil, hs]
    exact h
  obtain ⟨s, hs⟩ : ∃ s, (o.perform c).session = s := ⟨_, rfl⟩
  have hp := Operation.performed o c
  unfold progress
  rw [hs] at hp ⊢
  cases hp with
  | aside hr channel log => exact hk hr rfl
  | attached hr => exact hk hr (Session.progress_attach c.session)
  | connected hr => exact hk hr (Session.progress_connect c.session)
  | disconnected hr => exact hk hr (Session.progress_disconnect c.session)
  | asked m hr hp log =>
    rw [heard_of_request hr]
    refine counts_call h fun reply => h.observe fun pin hm => ho pin ?_
    rw [hp pin hm, hm]
  | pinSent pin hr ha =>
    have hl : (c.progress.authentication.failures : Int) < limit := by
      rw [h.allowsAttempt_eq] at ha
      exact of_decide_eq_true ha
    obtain ⟨hc, e, he, hf⟩ := h.countAttempt
    rw [heard_of_request hr]
    exact counts_call (s := Client.countAttempt c.session) hc fun reply => hc.observePin hl he hf _

theorem counts_run (h : Counts limit past c.progress.authentication) (operations : List Operation)
    (ho : ∀ pin, .call (.pinMatrixAck pin) ∉ operations) :
    Counts limit (past ++ c.past operations) (c.run operations).progress.authentication := by
  induction operations generalizing c past with
  | nil =>
    rw [Client.past, List.append_nil]
    exact h
  | cons o operations ih =>
    have hc : Counts limit (past ++ c.heard o) (o.perform c).progress.authentication := by
      apply counts_perform h
      rintro pin rfl
      exact ho pin (List.mem_cons_self ..)
    rw [Client.past, ← List.append_assoc]
    exact ih hc fun pin hm => ho pin (List.mem_cons_of_mem _ hm)

theorem counts_create {given : Value} {policy : PinPolicy} (hp : PinPolicy.ofLimit given = .ok policy)
    (hg : given.int? = some limit) (path : Value) (chain : Chain) (link : τ) (timeout : Timeout) (capacity : Value) :
    Counts limit [] (create path chain link timeout capacity policy).progress.authentication := by
  obtain ⟨n, hn, hw⟩ : ∃ n, given.number? = some n ∧ n.whole? = some limit := Option.bind_eq_some_iff.mp hg
  have hc : given.comparable "<=" = .ok n := Value.comparable_eq_ok_iff.mpr hn
  have hl : PinPolicy.ofLimit given = if n.le (.whole 0) then .error .failureLimit else .ok ⟨n⟩ := by
    rw [PinPolicy.ofLimit, hc]
    rfl
  rw [hl, Number.le_of_whole? hw rfl] at hp
  by_cases h : limit ≤ 0
  · rw [if_pos (decide_eq_true h)] at hp
    cases hp
  · rw [if_neg (by simpa using h)] at hp
    cases hp
    refine ⟨hw, rfl, by change (0 : Int) ≤ limit; omega, ?_⟩
    intro e he
    cases he

def RefusesPins (c : Client τ) : Prop :=
  ∀ pin, ∃ text log, pinMatrixAck (.text pin) c = (.ok (), { c with session := { c.session with
    channel := (c.session.channel.publish ⟨.failure, some (.failure .pinAttemptsExceeded text)⟩).1
    log := log } })

theorem refusesPins_of_not_allowed (ha : c.progress.authentication.allowsAttempt = false) : c.RefusesPins := by
  intro pin
  have h : pinMatrixAck (.text pin) c = (if c.progress.authentication.allowsAttempt then do
      onSession (Attempt.modify Client.countAttempt)
      request (.pinMatrixAck (.text pin))
    else do
      note [.pinRefused]
      onSession (Attempt.modify fun s => s.fire .failure
        (some (attemptsExceeded c.progress.authentication.failures)))) c := rfl
  rw [h, ha]
  exact ⟨_, _, rfl⟩

/-- A client counts the wrong PINs since their count last began, and sends none once their number is the limit. -/
theorem failures_eq_and_le_limit {given : Value} {policy : PinPolicy} (hp : PinPolicy.ofLimit given = .ok policy)
    (hg : given.int? = some limit) (path : Value) (chain : Chain) (link : τ) (timeout : Timeout) (capacity : Value)
    (operations : List Operation) (ho : ∀ pin, .call (.pinMatrixAck pin) ∉ operations) :
    let first := create path chain link timeout capacity policy
    let c := first.run operations
    let a := c.progress.authentication
    a.failures = pinFailures (first.past operations) ∧ (a.failures : Int) ≤ limit ∧
      ((a.failures : Int) = limit → c.RefusesPins) ∧
      ∀ e, a.entry = some e → e.accepted = 0 ∧ e.failures ≤ e.attempts ∧ e.failures ≤ a.failures := by
  intro first c a
  have h : Counts limit (first.past operations) a :=
    counts_run (counts_create hp hg path chain link timeout capacity) operations ho
  refine ⟨h.failures, h.bounded, ?_, ?_⟩
  · intro hf
    apply refusesPins_of_not_allowed
    rw [h.allowsAttempt_eq, decide_eq_false_iff_not]
    omega
  · intro e he
    obtain ⟨accepted, attempted, counted⟩ := h.entry e he
    exact ⟨accepted, attempted, counted⟩

def twoWrongPins : List Operation :=
  [.connect, .pinMatrixAck (.text "9999"), .ping (.text "") .null, .pinMatrixAck (.text "9999")]

theorem twoWrongPins_reach_limit :
    let link : EmulatedLink := { device := .ofProfile .initialised }
    let c := (create (.text "direct") .main link (.seconds (.whole 5)) (.int 100) ⟨.whole 2⟩).run twoWrongPins
    PinPolicy.ofLimit (.int 2) = .ok ⟨.whole 2⟩ ∧ (Value.int 2).int? = some 2 ∧
      (∀ pin, .call (.pinMatrixAck pin) ∉ twoWrongPins) ∧ c.progress.authentication.failures = 2 ∧
      c.RefusesPins := by
  intro link c
  have ho : ∀ pin, .call (.pinMatrixAck pin) ∉ twoWrongPins := by
    intro pin
    simp [twoWrongPins]
  have hp : PinPolicy.ofLimit (.int 2) = .ok ⟨.whole 2⟩ := rfl
  have hg : (Value.int 2).int? = some 2 := rfl
  have hf : c.progress.authentication.failures = 2 := by decide +kernel
  obtain ⟨-, -, refused, -⟩ := failures_eq_and_le_limit hp hg (.text "direct") .main link (.seconds (.whole 5))
    (.int 100) twoWrongPins ho
  -- from here on the client must not be computed
  generalize hc : (create (.text "direct") .main link (.seconds (.whole 5)) (.int 100) ⟨.whole 2⟩).run twoWrongPins = c'
    at refused
  have hc' : c = c' := hc
  rw [hc'] at hf ⊢
  exact ⟨hp, hg, ho, hf, refused (congrArg Nat.cast hf)⟩

end Client

end HardwareWallet
