import HardwareWallet.Proofs.Client.Readiness

namespace HardwareWallet

open Attempt Device

inductive Occurrence where
  | pinTried
  | replied (x : Exchange)
  deriving DecidableEq

namespace Occurrence

def opensEntry : Occurrence → Bool
  | pinTried => true
  | replied ⟨.wipeDevice, _⟩ => false
  | replied ⟨.clearSession, _⟩ => false
  -- a PIN that is rejected does not end the entry, and begins one if there was none
  | replied ⟨.pinMatrixAck _, .failure code _⟩ => Authentication.isRejection code
  | replied ⟨_, .pinMatrixRequest _⟩ => true
  | _ => false

def closesEntry : Occurrence → Bool
  | replied ⟨.initialise, .features _⟩ => true
  | replied ⟨.wipeDevice, _⟩ => true
  | replied ⟨.clearSession, _⟩ => true
  | replied ⟨.pinMatrixAck _, _⟩ => true
  | _ => false

def opensRequest : Occurrence → Bool
  | replied ⟨.cipherKeyValue _, .pinMatrixRequest _⟩ => true
  | _ => false

def closesRequest : Occurrence → Bool
  | replied ⟨.cipherKeyValue _, _⟩ => true
  | replied ⟨.wipeDevice, _⟩ => true
  | replied ⟨.initialise, _⟩ => true
  | _ => false

end Occurrence

def EntryOpen (course : List Occurrence) : Prop :=
  Lasts (fun _ x => x.opensEntry = true) Occurrence.closesEntry course

def RequestOpen (course : List Occurrence) : Prop :=
  Lasts (fun _ x => x.opensRequest = true) Occurrence.closesRequest course

theorem Authentication.entry_observe (a : Authentication) (m reply : Message) :
    (a.observe m reply).1.entry.isSome =
      ((Occurrence.replied ⟨m, reply⟩).opensEntry ||
        !(Occurrence.replied ⟨m, reply⟩).closesEntry && a.entry.isSome) := by
  cases m with
  | wipeDevice | clearSession => rfl
  | initialise => cases reply <;> rfl
  | pinMatrixAck pin =>
    cases reply with
    | failure code text => cases code <;> rfl
    | _ => rfl
  | _ => cases reply <;> rfl

namespace Progress

theorem pending_observe (p : Progress) (m reply : Message) :
    (p.observe m reply).1.pending = observePending p.pending m reply := by
  by_cases hm : ∃ r, m = .resetDevice r
  · obtain ⟨r, rfl⟩ := hm
    unfold observe
    cases ResetProgress.observe p.reset (.resetDevice r) reply <;> rfl
  · obtain ⟨_, _, _, ho, -⟩ := exists_observe (fun r hr => absurd ⟨r, hr⟩ hm) p reply
    rw [ho]

def occur (p : Progress) : Occurrence → Progress
  | .pinTried => { p with authentication := p.authentication.countAttempt }
  | .replied x => (p.observe x.request x.reply).1

theorem entry_occur (p : Progress) (x : Occurrence) : (p.occur x).authentication.entry.isSome =
    (x.opensEntry || !x.closesEntry && p.authentication.entry.isSome) := by
  cases x with
  | pinTried => rfl
  | replied x =>
    exact (congrArg (fun a => a.entry.isSome) (authentication_observe p _ _)).trans (Authentication.entry_observe ..)

theorem pending_occur (p : Progress) (x : Occurrence) :
    (p.occur x).pending.isSome = (x.opensRequest || !x.closesRequest && p.pending.isSome) := by
  cases x with
  | pinTried => rfl
  | replied x =>
    obtain ⟨m, reply⟩ := x
    refine (congrArg Option.isSome (pending_observe p m reply)).trans ?_
    cases m with
    | cipherKeyValue r => cases reply <;> rfl
    | _ => rfl

variable {p : Progress} (course : List Occurrence)

theorem entry_eq_none_iff (h : p.authentication.entry = none) :
    (course.foldl occur p).authentication.entry = none ↔ ¬ EntryOpen course := by
  rw [← Option.not_isSome_iff_eq_none, not_iff_not]
  exact foldl_iff_lasts (fun p : Progress => p.authentication.entry.isSome) entry_occur (by rw [h]; rfl) course

theorem pending_eq_none_iff (h : p.pending = none) :
    (course.foldl occur p).pending = none ↔ ¬ RequestOpen course := by
  rw [← Option.not_isSome_iff_eq_none, not_iff_not]
  exact foldl_iff_lasts (fun p : Progress => p.pending.isSome) pending_occur (by rw [h]; rfl) course

end Progress

namespace Client

section Cancel

variable {τ : Type} [Transport τ] {c : Client τ}

def occurs (c : Client τ) (o : Operation) : List Occurrence :=
  (if o.countsAttempt c then [.pinTried] else []) ++ (c.heard o).map .replied

theorem progress_occurs (c : Client τ) (o : Operation) :
    (o.perform c).progress = (c.occurs o).foldl Progress.occur c.progress := by
  have hs : (o.sending c).progress =
      (if o.countsAttempt c then [Occurrence.pinTried] else []).foldl Progress.occur c.progress := by
    unfold Operation.sending
    split <;> rfl
  rw [progress_perform, hs, occurs, List.foldl_append, List.foldl_map]
  rfl

theorem cancel_of_heard {text : Value} (h : c.heard .cancel = [⟨.cancel, .failure .actionCancelled text⟩]) :
    ∃ c', cancel c = (.ok (), c') ∧ c'.progress = { c.progress with reset := none } := by
  have hx : c.session.exchange? .cancel = some ⟨.cancel, .failure .actionCancelled text⟩ := by
    rw [heard_of_request rfl] at h
    exact Option.toList_eq_singleton_iff.mp h
  obtain ⟨reply, kind, l, he, hc, hk, hl⟩ := Session.exchange?_eq_some hx
  obtain rfl : _ = reply := congrArg Exchange.reply he
  obtain ⟨hr, -, -, ha, ⟨notices, ho⟩, hp⟩ := Session.call_answered hc hl hk (fun _ hr => by cases hr)
  obtain ⟨notices', hn⟩ := ResetProgress.observe_cancelled c.session.progress.reset text
  have hs : Session.call .cancel c.session =
      (.ok (.failure .actionCancelled text), (Session.call .cancel c.session).2) := Prod.ext hr rfl
  refine ⟨_, request_of_call hs, ?_⟩
  have hd : (Session.call .cancel c.session).2.progress.reset = none :=
    congrArg Prod.fst (Except.ok.inj (ho.symm.trans hn))
  obtain ⟨s, hp'⟩ : ∃ s, (Session.call .cancel c.session).2 = s := ⟨_, rfl⟩
  rw [hp'] at ha hd hp ⊢
  change (⟨s.progress.authentication, s.progress.reset, s.progress.pending⟩ : Progress) = _
  rw [ha, hd, hp]
  rfl

end Cancel

def course (c : Client EmulatedLink) : List Happening → List Occurrence
  | [] => []
  | .operation o :: happenings => c.occurs o ++ (o.perform c).course happenings
  | .stall stalled :: happenings => (c.live (.stall stalled)).course happenings
  | .plug plugged :: happenings => (c.live (.plug plugged)).course happenings

theorem progress_course (c : Client EmulatedLink) (happenings : List Happening) :
    (c.lifetime happenings).progress = (c.course happenings).foldl Progress.occur c.progress := by
  induction happenings generalizing c with
  | nil => rfl
  | cons x happenings ih =>
    cases x with
    | operation o =>
      rw [course, List.foldl_append, ← progress_occurs]
      exact ih (o.perform c)
    | stall stalled => exact ih (c.live (.stall stalled))
    | plug plugged => exact ih (c.live (.plug plugged))

variable {c : Client EmulatedLink}

theorem heard_cancel_iff (h : c.session.Tidy) (hc : c.session.connection = .connected) (hp : c.device.plugged = true)
    (hs : c.device.stalled = false) :
    c.heard .cancel = [⟨.cancel, refusal .actionCancelled "Cancelled"⟩] ↔ c.session.timeout.isMeasurable = true := by
  rw [heard_of_request rfl]
  constructor
  · intro hh
    obtain ⟨reply, kind, l, -, -, -, hl⟩ := Session.exchange?_eq_some (Option.toList_eq_singleton_iff.mp hh)
    have hx := c.session.link.exchanged .cancel c.session.timeout h.replies
    rw [hl] at hx
    cases hx with
    | unanswered _ _ hr => exact absurd rfl (hr reply)
    | heard _ ht => exact ht
  · intro ht
    have hx := EmulatedLink.exchange_of_answer ht (fault?_eq_none h hc hp) (h.replies ht) hs (m := .cancel) rfl
    rw [Session.exchange?_replied hc hx rfl]
    rfl

/-- A client whose request to cancel is answered has given up the creation of a wallet. It has given up the entry of the
    PIN, and the request that waits for the PIN, just if none was open. -/
theorem cancelled_leaves_open_iff (path : Value) (chain : Chain) (capacity : Value) (policy : PinPolicy)
    (profile : Profile) (pin : Value) (mnemonic : String) (entropy : Bytes) (label : Value) (timeout : Timeout)
    (happenings : List Happening) :
    let start := fresh path chain (Device.fresh profile pin mnemonic entropy label) timeout capacity policy
    let c := start.lifetime happenings
    (c.session.connection = .connected → c.device.plugged = true → c.device.stalled = false →
      (c.heard .cancel = [⟨.cancel, refusal .actionCancelled "Cancelled"⟩] ↔ timeout.isMeasurable = true)) ∧
    ∀ text, c.heard .cancel = [⟨.cancel, .failure .actionCancelled text⟩] →
      ∃ c', cancel c = (.ok (), c') ∧ c'.progress.reset = none ∧
        (c'.progress.authentication.entry = none ↔ ¬ EntryOpen (start.course happenings)) ∧
        (c'.progress.pending = none ↔ ¬ RequestOpen (start.course happenings)) := by
  intro start c
  have hf : start.session.Tidy := fresh_tidy ..
  have hk : c.session.timeout = timeout := (lifetime_keepsUp hf happenings).timeout
  refine ⟨fun hc hp hs => hk ▸ heard_cancel_iff (lifetime_tidy hf happenings) hc hp hs, fun text hh => ?_⟩
  obtain ⟨c', hc, hp⟩ := cancel_of_heard hh
  have hl : c.progress = (start.course happenings).foldl Progress.occur start.progress :=
    progress_course start happenings
  refine ⟨c', hc, by rw [hp], ?_, ?_⟩
  · rw [hp, hl]
    exact Progress.entry_eq_none_iff _ rfl
  · rw [hp, hl]
    exact Progress.pending_eq_none_iff _ rfl

theorem cancelled_reset_leaves_nothing :
    let start := fresh (.text "direct") .main (ofProfile .wiped) (.seconds (.whole 5)) (.int 100) .standard
    let begun := [.operation .connect, .operation (.resetDevice { pinProtection := .truth false })]
    let c := start.lifetime begun
    c.progress.reset.isSome ∧ c.heard .cancel = [⟨.cancel, refusal .actionCancelled "Cancelled"⟩] ∧
      ¬ EntryOpen (start.course begun) ∧ ¬ RequestOpen (start.course begun) ∧
      ∃ c', cancel c = (.ok (), c') ∧ c'.progress.reset = none ∧ c'.progress.authentication.entry = none ∧
        c'.progress.pending = none := by
  intro start begun c
  have hr : c.progress.reset.isSome := by decide +kernel
  obtain ⟨ha, hl⟩ := cancelled_leaves_open_iff (.text "direct") .main (.int 100) .standard .wiped (.text defaultPin)
    defaultMnemonic defaultEntropy (.text defaultLabel) (.seconds (.whole 5)) begun
  have hh : c.heard .cancel = [⟨.cancel, refusal .actionCancelled "Cancelled"⟩] :=
    (ha (by decide +kernel) (by decide +kernel) (by decide +kernel)).mpr (by decide +kernel)
  obtain ⟨c', hc, hn, he, hp⟩ := hl _ hh
  have hd : c'.progress.authentication.entry = none ∧ c'.progress.pending = none := by
    have hs : (cancel c).2 = c' := congrArg Prod.snd hc
    rw [← hs]
    decide +kernel
  exact ⟨hr, hh, he.mp hd.1, hp.mp hd.2, c', hc, hn, hd.1, hd.2⟩

theorem pin_entry_outlasts_cancel :
    let c := (fresh (.text "direct") .main (ofProfile .initialised) (.seconds (.whole 5)) (.int 100) .standard).lifetime
      [.operation .connect, .operation (.ping (.text "") (.truth true))]
    c.session.connection = .connected ∧ c.device.plugged = true ∧ c.device.stalled = false ∧
      c.heard .cancel = [⟨.cancel, refusal .actionCancelled "Cancelled"⟩] ∧
      (cancel c).2.progress.authentication.entry = some { phase := some .current } := by
  decide +kernel

end Client

end HardwareWallet
