import HardwareWallet.Proofs.Client.Lifetime
import HardwareWallet.Proofs.Client.ResetAgreement

namespace HardwareWallet

open Device

def Exchange.startsSession (x : Exchange) : Bool :=
  x.request = .initialise

namespace Device

variable {d d' : Device} {m reply : Message}

theorem Unmoved.ne_initialise (h : d.Unmoved m reply) : m ≠ .initialise := by
  cases h with
  | unknown hm =>
    rintro rfl
    cases hm
  | _ => nofun

theorem Reaction.counted (h : d.Reaction m reply d') : d'.profile = d.profile ∧
    ((m = .initialise ∧ reply = .features (d.featuresAs d.startsInitialised) ∧
        d'.initialiseCalls = d.initialiseCalls + 1) ∨
      (m ≠ .initialise ∧ d'.initialiseCalls = d.initialiseCalls)) := by
  cases h with
  | resumed | abandoned => exact ⟨rfl, .inl ⟨rfl, rfl, rfl⟩⟩
  | unmoved h => exact ⟨rfl, .inr ⟨h.ne_initialise, rfl⟩⟩
  | _ => exact ⟨rfl, .inr ⟨nofun, rfl⟩⟩

end Device

namespace Authentication

variable {a : Authentication} {m reply : Message}

theorem initialisation_observePin (a : Authentication) (reply : Message) :
    (a.observePin reply).1.initialisation = a.initialisation := by
  rw [observePin.eq_def]
  split
  · split <;> rfl
  · rfl
  · rfl

theorem initialisation_observe (h : m ≠ .initialise) : (a.observe m reply).1.initialisation = a.initialisation := by
  unfold observe
  split
  case h_1 => exact absurd rfl h
  case h_4 => exact initialisation_observePin a _
  all_goals rfl

theorem initialisation_observe_initialise (a : Authentication) (f : Features) :
    (a.observe .initialise (.features f)).1.initialisation = ⟨a.initialisation.calls + 1, some f⟩ :=
  rfl

end Authentication

structure Initialisation.Counts (past : List Exchange) (d : Device) (i : Initialisation) : Prop where
  blank : d.profile = .wiped
  calls : i.calls = d.initialiseCalls
  count : past.countP Exchange.startsSession = d.initialiseCalls
  wiped : i.wiped = true ↔ d.initialiseCalls = 1

namespace Initialisation.Counts

variable {past : List Exchange} {d d' : Device} {m reply : Message}

theorem fresh (pin : Value) (mnemonic : String) (entropy : Bytes) (label : Value) :
    Counts [] (Device.fresh .wiped pin mnemonic entropy label) {} where
  blank := rfl
  calls := rfl
  count := rfl
  wiped := ⟨nofun, nofun⟩

theorem wiped_featuresAs (hd : d.profile = .wiped) (calls : Nat) :
    Initialisation.wiped ⟨calls, some (d.featuresAs d.startsInitialised)⟩ = true ↔ d.initialiseCalls = 0 := by
  have hw : Initialisation.wiped ⟨calls, some (d.featuresAs d.startsInitialised)⟩ = !d.startsInitialised := by
    cases h : d.startsInitialised <;> rfl
  rw [hw, startsInitialised, hd]
  simp

theorem reaction {a : Authentication} (h : Counts past d a.initialisation) (hr : d.Reaction m reply d') :
    Counts (past ++ [⟨m, reply⟩]) d' (a.observe m reply).1.initialisation := by
  have hc : (past ++ [Exchange.mk m reply]).countP Exchange.startsSession =
      d.initialiseCalls + if m = .initialise then 1 else 0 := by
    rw [List.countP_append, h.count, List.countP_singleton]
    simp [Exchange.startsSession]
  obtain ⟨hp, ⟨rfl, rfl, hn⟩ | ⟨hm, hn⟩⟩ := hr.counted
  · rw [Authentication.initialisation_observe_initialise, h.calls]
    refine ⟨hp.trans h.blank, hn.symm, hc.trans hn.symm, ?_⟩
    rw [wiped_featuresAs h.blank, hn]
    omega
  · rw [Authentication.initialisation_observe hm]
    rw [if_neg hm] at hc
    exact ⟨hp.trans h.blank, h.calls.trans hn.symm, hc.trans hn.symm, h.wiped.trans (by rw [hn])⟩

theorem hear {p : Progress} (h : Counts [] d p.authentication.initialisation) (stimuli : List Stimulus) :
    Counts (d.exchanges stimuli) (d.run stimuli) (p.hear (d.exchanges stimuli)).authentication.initialisation :=
  history_induction (P := fun past d => Counts past d (p.hear past).authentication.initialisation) h
    (fun _ _ _ h => ⟨h.blank, h.calls, h.count, h.wiped⟩) (fun _ _ _ h => ⟨h.blank, h.calls, h.count, h.wiped⟩)
    (fun past d m reply d' h hr => by
      rw [Progress.hear_append]
      exact Progress.authentication_observe (p.hear past) m reply ▸ h.reaction hr) stimuli

end Initialisation.Counts

namespace Client

variable (path : Value) (chain : Chain) (capacity : Value) (policy : PinPolicy) (pin : Value) (mnemonic : String)
  (entropy : Bytes) (label : Value)

theorem initialisation_counts {timeout : Timeout} (ht : timeout.isMeasurable = true) (happenings : List Happening) :
    let c := fresh path chain (Device.fresh .wiped pin mnemonic entropy label) timeout capacity policy
    Initialisation.Counts (c.exchanges happenings) (c.lifetime happenings).device
      (c.lifetime happenings).progress.authentication.initialisation := by
  intro c
  have hc : c.session.Tidy := fresh_tidy ..
  rw [Progress.initialisation_congr (lifetime_heard hc happenings ht), lifetime_device hc happenings]
  exact Initialisation.Counts.hear (p := c.progress) (.fresh pin mnemonic entropy label) _

/-- Whatever is done with a client of a device that left the factory blank, it knows how many sessions the device has
    started, and takes it for a blank one after the first of them only. -/
theorem initialise_counted {timeout : Timeout} (ht : timeout.isMeasurable = true) (happenings more : List Happening) :
    let c := fresh path chain (Device.fresh .wiped pin mnemonic entropy label) timeout capacity policy
    let known (happenings : List Happening) := (c.lifetime happenings).progress.authentication.initialisation
    (known happenings).calls = (c.lifetime happenings).device.initialiseCalls ∧
      (known happenings).calls = (c.exchanges happenings).countP Exchange.startsSession ∧
      (known happenings).calls ≤ (known (happenings ++ more)).calls ∧
      ((known happenings).wiped = true ↔ (known happenings).calls = 1) := by
  intro c known
  have h := initialisation_counts path chain capacity policy pin mnemonic entropy label ht happenings
  have h' := initialisation_counts path chain capacity policy pin mnemonic entropy label ht (happenings ++ more)
  have hn : (known happenings).calls = (c.exchanges happenings).countP Exchange.startsSession :=
    h.calls.trans h.count.symm
  have hn' : (known (happenings ++ more)).calls = (c.exchanges (happenings ++ more)).countP Exchange.startsSession :=
    h'.calls.trans h'.count.symm
  refine ⟨h.calls, hn, ?_, ?_⟩
  · rw [hn, hn', exchanges_append, List.countP_append]
    exact Nat.le_add_right _ _
  · rw [h.calls]
    exact h.wiped

def startSession : List Happening :=
  [.operation .connect, .operation .initialise]

def startMore : List Happening :=
  [.operation .wipeDevice, .stall true, .operation .initialise, .stall false, .operation .connect, .operation .initialise]

def blank (timeout : Timeout) : Client EmulatedLink :=
  fresh (.text "direct") .main (ofProfile .wiped) timeout (.int 100) .standard

def known (timeout : Timeout) (happenings : List Happening) : Initialisation :=
  ((blank timeout).lifetime happenings).progress.authentication.initialisation

theorem startSession_counted :
    (Timeout.seconds (.whole 5)).isMeasurable = true ∧
      (known (.seconds (.whole 5)) startSession).calls = 1 ∧ (known (.seconds (.whole 5)) startSession).wiped = true ∧
      (known (.seconds (.whole 5)) (startSession ++ startMore)).calls = 2 ∧
      (known (.seconds (.whole 5)) (startSession ++ startMore)).wiped = false := by
  have ht : (Timeout.seconds (.whole 5)).isMeasurable = true := by decide +kernel
  have hd : ((blank (.seconds (.whole 5))).lifetime startSession).device.initialiseCalls = 1 := by decide +kernel
  have hd' : ((blank (.seconds (.whole 5))).lifetime (startSession ++ startMore)).device.initialiseCalls = 2 := by
    decide +kernel
  -- the client is spelled out, so that no step below runs it
  unfold known
  unfold blank ofProfile at hd hd' ⊢
  obtain ⟨hc, -, -, hw⟩ := initialise_counted (.text "direct") .main (.int 100) .standard (.text defaultPin)
    defaultMnemonic Device.defaultEntropy (.text defaultLabel) ht startSession []
  obtain ⟨hc', -, -, hw'⟩ := initialise_counted (.text "direct") .main (.int 100) .standard (.text defaultPin)
    defaultMnemonic Device.defaultEntropy (.text defaultLabel) ht (startSession ++ startMore) []
  have hn := hc'.trans hd'
  refine ⟨ht, hc.trans hd, hw.mpr (hc.trans hd), hn, Bool.eq_false_iff.mpr fun hb => ?_⟩
  have h1 := hw'.mp hb
  rw [hn] at h1
  cases h1

theorem startSession_uncounted :
    immeasurable.isNegative = false ∧
      (known immeasurable startSession).calls ≠ ((blank immeasurable).lifetime startSession).device.initialiseCalls := by
  decide +kernel

end Client

end HardwareWallet
