import HardwareWallet.Proofs.Client.Operation
import HardwareWallet.Proofs.Session.Emulated

/-!
The life of a client and of the device in memory that it talks to. An application performs operations, and in
between the device may be stalled or unplugged. What the host has in mind is told from the life of the device.
-/

namespace HardwareWallet

open Attempt Device

namespace Session

def TidySince (s₀ s : Session EmulatedLink) : Prop :=
  s.Tidy ∧ ∃ requests, Advances requests s₀ s

variable {s₀ s s' : Session EmulatedLink}

theorem TidySince.relabel (h : TidySince s₀ s) (hc : s'.connection = s.connection) (hl : s'.link = s.link)
    (ht : s'.timeout = s.timeout) (hp : s'.progress.withoutEntry = s.progress.withoutEntry) : TidySince s₀ s' := by
  obtain ⟨tidy, requests, advances⟩ := h
  refine ⟨⟨?_, ?_⟩, requests, advances.relabel ht (by rw [hl]; exact ⟨rfl, rfl⟩) hp⟩
  · rw [hc, hl]
    exact tidy.opened_iff
  · rw [ht, hl]
    exact tidy.replies

theorem TidySince.trans (h : TidySince s₀ s) (hs : s.Tidy → TidySince s s') : TidySince s₀ s' := by
  obtain ⟨tidy, first, advances⟩ := h
  obtain ⟨tidy', second, advances'⟩ := hs tidy
  exact ⟨tidy', first ++ second, advances.trans advances'⟩

theorem invariant_tidySince (s₀ : Session EmulatedLink) : Invariant (TidySince s₀) where
  channel _ _ h := h.relabel rfl rfl rfl rfl
  log _ _ h := h.relabel rfl rfl rfl rfl
  countAttempt _ h := h.relabel rfl rfl rfl rfl
  attach _ h := h.trans attach_advances
  connect _ h := h.trans connect_advances
  disconnect _ h := h.trans disconnect_advances
  call m _ h := h.trans (call_advances m)

end Session

namespace Client

inductive Happening where
  | operation (o : Operation)
  | stall (stalled : Bool)
  | plug (plugged : Bool)

def device (c : Client EmulatedLink) : Device :=
  c.session.link.device

def stimulate (c : Client EmulatedLink) (s : Stimulus) : Client EmulatedLink :=
  { c with session := { c.session with link := { c.session.link with device := c.device.act s } } }

def live (c : Client EmulatedLink) : Happening → Client EmulatedLink
  | .operation o => o.perform c
  | .stall stalled => c.stimulate (.stall stalled)
  | .plug plugged => c.stimulate (.plug plugged)

def lifetime (c : Client EmulatedLink) (happenings : List Happening) : Client EmulatedLink :=
  happenings.foldl live c

def reaches (c : Client EmulatedLink) : Happening → List Stimulus
  | .operation o => ((o.perform c).session.link.received.drop c.session.link.received.length).map .request
  | .stall stalled => [.stall stalled]
  | .plug plugged => [.plug plugged]

def stimuli (c : Client EmulatedLink) : List Happening → List Stimulus
  | [] => []
  | x :: happenings => c.reaches x ++ (c.live x).stimuli happenings

def exchanges (c : Client EmulatedLink) (happenings : List Happening) : List Exchange :=
  c.device.exchanges (c.stimuli happenings)

theorem stimuli_append (c : Client EmulatedLink) (happenings more : List Happening) :
    c.stimuli (happenings ++ more) = c.stimuli happenings ++ (c.lifetime happenings).stimuli more := by
  induction happenings generalizing c with
  | nil => rfl
  | cons x happenings ih =>
    rw [List.cons_append, stimuli, stimuli, ih, List.append_assoc]
    rfl

theorem exchanges_append (c : Client EmulatedLink) (happenings more : List Happening) :
    c.exchanges (happenings ++ more) = c.exchanges happenings ++
      (c.device.run (c.stimuli happenings)).exchanges ((c.lifetime happenings).stimuli more) := by
  rw [exchanges, stimuli_append, Device.exchanges_append]
  rfl

def fresh (path : Value) (chain : Chain) (device : Device) (timeout : Timeout) (capacity : Value)
    (policy : PinPolicy) : Client EmulatedLink :=
  create path chain { device := device } timeout capacity policy

theorem perform_keepsUp {c : Client EmulatedLink} (h : c.session.Tidy) (o : Operation) :
    (o.perform c).session.Tidy ∧ Session.KeepsUp (c.reaches (.operation o)) c.session (o.perform c).session := by
  obtain ⟨tidy, requests, advances⟩ :=
    o.keeps (Session.invariant_tidySince c.session) (c := c) ⟨h, [], .refl _⟩
  have hr : c.reaches (.operation o) = requests.map .request := by
    rw [reaches, advances.received, List.drop_left]
  rw [hr]
  exact ⟨tidy, advances.toKeepsUp⟩

theorem stimulate_keepsUp {c : Client EmulatedLink} (h : c.session.Tidy) {s : Stimulus}
    (hs : c.device.exchange? s = none) :
    (c.stimulate s).session.Tidy ∧ Session.KeepsUp [s] c.session (c.stimulate s).session := by
  refine ⟨⟨h.opened_iff, h.replies⟩, rfl, rfl, ?_⟩
  have hx : c.session.link.device.exchanges [s] = [] := by
    simp only [Device.exchanges, List.append_nil]
    exact Option.toList_eq_nil_iff.mpr hs
  rw [hx]
  split <;> rfl

theorem live_keepsUp {c : Client EmulatedLink} (h : c.session.Tidy) (x : Happening) :
    (c.live x).session.Tidy ∧ Session.KeepsUp (c.reaches x) c.session (c.live x).session := by
  cases x with
  | operation o => exact perform_keepsUp h o
  | stall stalled => exact stimulate_keepsUp h rfl
  | plug plugged => exact stimulate_keepsUp h rfl

theorem lifetime_keepsUp {c : Client EmulatedLink} (h : c.session.Tidy) (happenings : List Happening) :
    Session.KeepsUp (c.stimuli happenings) c.session (c.lifetime happenings).session := by
  induction happenings generalizing c with
  | nil => exact .refl c.session
  | cons x happenings ih =>
    obtain ⟨tidy, keepsUp⟩ := live_keepsUp h x
    exact keepsUp.trans (ih tidy)

section Lifetime

variable {c : Client EmulatedLink} (h : c.session.Tidy) (happenings : List Happening)

include h

theorem lifetime_device : (c.lifetime happenings).device = c.device.run (c.stimuli happenings) :=
  (lifetime_keepsUp h happenings).device

theorem lifetime_heard (ht : c.session.timeout.isMeasurable = true) :
    (c.lifetime happenings).progress.withoutEntry = (c.progress.hear (c.exchanges happenings)).withoutEntry :=
  (lifetime_keepsUp h happenings).progress.trans (if_pos ht)

theorem lifetime_unheard (ht : c.session.timeout.isMeasurable = false) :
    (c.lifetime happenings).progress.withoutEntry = c.progress.withoutEntry :=
  (lifetime_keepsUp h happenings).progress.trans (if_neg (by simp [ht]))

end Lifetime

theorem fresh_tidy (path : Value) (chain : Chain) (device : Device) (timeout : Timeout) (capacity : Value)
    (policy : PinPolicy) : (fresh path chain device timeout capacity policy).session.Tidy where
  opened_iff := by
    change false = true ↔ Connection.detached = .connected
    simp
  replies _ := rfl

end Client

end HardwareWallet
