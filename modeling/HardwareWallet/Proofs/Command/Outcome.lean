import HardwareWallet.Proofs.Command.Faults
import HardwareWallet.Proofs.Session.Outcome

namespace HardwareWallet

open Attempt

variable {τ α : Type} {P : τ → Prop} {E : Error → Prop} {R : Message → Prop} {timeout : Timeout}

theorem Admits.replyOf (ha : Admits E R) {events : List Event} (hr : ∀ e ∈ events, ∀ m ∈ e.message, R m)
    {overflowed : Bool} {expected : List EventKind} {e : Error}
    (h : Event.replyOf events overflowed expected = .error e) : E e := by
  unfold Event.replyOf at h
  split at h
  · exact Except.error.inj h ▸ ha.plain rfl
  · split at h
    · exact Except.error.inj h ▸ ha.plain rfl
    · rename_i message hl
      have hm : ∀ m ∈ message, R m := hr _ (List.mem_filter.mp (List.mem_of_getLast? hl)).1
      rw [← Except.error.inj h]
      unfold Event.failureOf
      split
      · rename_i code text
        have hf := ha.failure (hm _ rfl)
        split
        · exact hf.2
        · exact hf.1
      all_goals exact ha.plain rfl
    · split at h
      · cases h
      · exact Except.error.inj h ▸ ha.plain rfl

namespace Client

open Transport (Answers)

def Sound (P : τ → Prop) (R : Message → Prop) (timeout : Timeout) (c : Client τ) : Prop :=
  c.session.Sound P R timeout

theorem Sound.channel {c : Client τ} (h : c.Sound P R timeout) {channel : Channel} (hc : channel.Carries R) :
    Sound P R timeout { c with session := { c.session with channel := channel } } :=
  ⟨h.timeout_eq, h.link, hc⟩

theorem ends_onSession {Q : α → Prop} {x : Attempt (Session τ) α} (hx : Ends (Session.Sound P R timeout) E Q x) :
    Ends (Sound P R timeout) E Q (onSession x) :=
  ends_onPart hx (fun _ h => h) fun _ _ _ h => h

theorem ends_note (notices : List Notice) : Ends (Sound P R timeout) E (fun _ => True) (note (τ := τ) notices) :=
  ends_onSession (ends_modify fun _ h => ⟨h.timeout_eq, h.link, h.channel⟩)

section Reply

variable (ha : Admits E R)

include ha

theorem ends_subscribe (capacity : Value) :
    Ends (Sound P R timeout) E (fun _ => True) (subscribe (τ := τ) capacity) := by
  intro c hc
  rw [subscribe]
  split
  · rename_i h channel hs
    exact ⟨hc.channel (Channel.Carries.subscribe (Session.Sound.channel hc) hs), trivial⟩
  · rename_i e he
    exact ⟨hc, ha.of_plain (Channel.plain_subscribe _ _) e he⟩

theorem ends_takeReply (h : Handle) (expected : List EventKind) :
    Ends (Sound P R timeout) E (fun _ => True) (takeReply (τ := τ) h expected) := by
  intro c hc
  obtain ⟨hdrained, hevents⟩ := Channel.Carries.drain (Session.Sound.channel hc) h
  have ho (overflowed : Bool) : Comes (Sound P R timeout) E (fun _ => True)
      (Event.replyOf (c.session.channel.drain h).1 overflowed expected,
        { c with session := { c.session with channel := (c.session.channel.drain h).2 } }) := by
    cases hr : Event.replyOf (c.session.channel.drain h).1 overflowed expected with
    | ok e => exact ⟨hc.channel hdrained, trivial⟩
    | error e => exact ⟨hc.channel hdrained, ha.replyOf hevents hr⟩
  exact ho _

theorem ends_exchange {operation : Attempt (Client τ) Unit}
    (ho : Ends (Sound P R timeout) E (fun _ => True) operation) (expected : List EventKind) :
    Ends (Sound P R timeout) E (fun _ => True) (exchange operation expected) :=
  ends_bind (ends_subscribe ha .null) fun h _ =>
    ends_ensuring (ends_bind ho fun _ _ => ends_takeReply ha h expected) fun _ hc =>
      hc.channel (Channel.Carries.close (Session.Sound.channel hc) h)

end Reply

variable [Transport τ]

theorem sound_create {link : τ} (hl : P link) (path : Value) (chain : Chain) (capacity : Value) (policy : PinPolicy) :
    (create path chain link timeout capacity policy).Sound P R timeout :=
  ⟨rfl, hl, nofun⟩

variable (hτ : Answers τ P E R timeout)

include hτ

theorem ends_close : Ends (Sound P R timeout) E (fun _ => True) (close (τ := τ)) :=
  ends_onSession (Session.ends_disconnect hτ)

variable (ha : Admits E R)

include ha

theorem ends_request (m : Message) : Ends (Sound P R timeout) E (fun _ => True) (request (τ := τ) m) :=
  ends_bind (ends_onSession (Session.ends_call hτ ha m)) fun _ _ => ends_pure trivial

theorem ends_hierarchy (path : Value) : Ends (Sound P R timeout) E (fun _ => True) (hierarchy (τ := τ) path) :=
  ends_bind (ha.ends_ofExcept (plain_addressOf path)) fun _ _ => ends_request hτ ha _

theorem ends_pinMatrixAck (pin : Value) :
    Ends (Sound P R timeout) E (fun _ => True) (pinMatrixAck (τ := τ) pin) := by
  cases pin with
  | text pin =>
    refine ends_bind ends_get fun c _ => ?_
    dsimp only
    split
    · exact ends_bind (ends_onSession (ends_modify fun _ h => ⟨h.timeout_eq, h.link, h.channel⟩)) fun _ _ =>
        ends_request hτ ha _
    · refine ends_bind (ends_note _) fun _ _ => ends_onSession (ends_modify fun s hs => hs.fire .failure ?_)
      rintro _ ⟨⟩
      exact ha.own _ _
  | _ => exact ends_fail (ha.plain rfl)

theorem ends_resetDevice (r : ResetRequest) :
    Ends (Sound P R timeout) E (fun _ => True) (resetDevice (τ := τ) r) := by
  unfold resetDevice
  split
  · exact ends_request hτ ha _
  · exact ends_fail (ha.plain rfl)

theorem ends_entropyAck (entropy : Argument Bytes) :
    Ends (Sound P R timeout) E (fun _ => True) (entropyAck (τ := τ) entropy) := by
  cases entropy with
  | proper entropy => exact ends_request hτ ha _
  | other given => exact ends_fail (ha.plain rfl)

theorem ends_wordAck (word : Value) : Ends (Sound P R timeout) E (fun _ => True) (wordAck (τ := τ) word) := by
  cases word with
  | text word => exact ends_request hτ ha _
  | _ => exact ends_fail (ha.plain rfl)

theorem ends_cipherKeyValue (a : CipherArguments) :
    Ends (Sound P R timeout) E (fun _ => True) (cipherKeyValue (τ := τ) a) :=
  ends_bind ends_get fun c _ => ends_bind (ha.ends_ofExcept (plain_request a c.chain)) fun _ _ => ends_request hτ ha _

omit [Transport τ] hτ in
theorem ends_checkFeatures (f : Features) :
    Ends (Sound P R timeout) E (fun _ => True) (checkFeatures (τ := τ) f) := by
  have hvendor : Ends (Sound P R timeout) E (fun _ => True) (noteVendor (τ := τ) f) := by
    unfold noteVendor
    split
    · exact ends_pure trivial
    · split
      · exact ends_note _
      · exact ends_fail (ha.plain rfl)
  refine ends_bind hvendor fun _ _ => ?_
  unfold noteFirmware
  split
  · exact ends_pure trivial
  · refine ends_bind (ha.ends_ofExcept (Firmware.plain_isOutdated f)) fun outdated _ => ?_
    split
    · exact ends_note _
    · exact ends_pure trivial

theorem ends_initialise : Ends (Sound P R timeout) E (fun _ => True) (initialise (τ := τ)) := by
  refine ends_bind (ends_onSession (Session.ends_call hτ ha .initialise)) fun reply _ => ?_
  split
  · exact ends_bind (ends_checkFeatures ha _) fun _ _ => ends_pure trivial
  · exact ends_pure trivial

theorem ends_prepare : Ends (Sound P R timeout) E (fun _ => True) (prepare (τ := τ)) := by
  have hshown (e : Error) (h : decide e.kind.IsPlain = true) (path : Value) : E (e.showing path) :=
    ha.plain (Error.isPlain_of_kind (Error.isPlain_showing (of_decide_eq_true h) path))
  refine ends_bind ends_get fun c _ => ends_bind (ends_onSession (Session.ends_attach hτ)) fun present _ => ?_
  dsimp only
  split
  · exact ends_fail_bind (hshown _ rfl _)
  · refine ends_bind (ends_onSession (Session.ends_connect hτ)) fun isOpen _ => ?_
    split
    · exact ends_fail_bind (hshown _ rfl _)
    · refine ends_bind (ends_initialise hτ ha) fun told _ => ?_
      split
      · exact ends_fail (ha.plain rfl)
      · exact ends_pure trivial

theorem ends_opened : Ends (Sound P R timeout) E (fun _ => True) (opened (τ := τ)) := by
  intro c hc
  have hp := ends_prepare hτ ha c hc
  rw [opened]
  split
  · rename_i ready h
    rw [h] at hp
    exact hp
  · rename_i e left h
    rw [h] at hp
    have hl := ends_close hτ left hp.1
    split
    · rename_i closed h
      rw [h] at hl
      exact ⟨hl.1, hp.2⟩
    · rename_i e' closed h
      rw [h] at hl
      exact hl

theorem ends_publicNode (path : Value) : Ends (Sound P R timeout) E (fun _ => True) (publicNode (τ := τ) path) := by
  refine ends_bind (ends_exchange ha (ends_hierarchy hτ ha path) _) fun e _ => ?_
  refine ends_ofExcept (fun _ _ => trivial) fun e' h => ?_
  unfold nodeOf at h
  split at h
  · cases h
  · exact Except.error.inj h ▸ ha.plain rfl

theorem ends_masterFingerprint : Ends (Sound P R timeout) E (fun _ => True) (masterFingerprint (τ := τ)) :=
  ends_bind (ends_publicNode hτ ha _) fun node _ =>
    ends_bind (ha.ends_ofExcept (ExtendedKey.plain_ofNode node false)) fun _ _ => ends_pure trivial

omit [Transport τ] hτ in
theorem ends_getFeatures : Ends (Sound P R timeout) E (fun _ => True) (getFeatures (τ := τ)) := by
  refine ends_bind ends_get fun c _ => ?_
  split
  · exact ha.ends_ofExcept (Features.plain_fullReport _)
  · exact ends_fail (ha.plain rfl)

theorem ends_getXpub (path : Value) (expert : Bool) :
    Ends (Sound P R timeout) E (fun _ => True) (getXpub (τ := τ) path expert) := by
  refine ends_bind (ends_publicNode hτ ha path) fun node _ => ends_bind ends_get fun c _ => ?_
  refine ends_bind (ha.ends_ofExcept (ExtendedKey.plain_ofNode node _)) fun key _ => ?_
  exact ends_bind (ha.ends_ofExcept (ExtendedKey.faults_text key).plain) fun _ _ => ends_pure trivial

theorem ends_unlock (pin : Value) : Ends (Sound P R timeout) E (fun _ => True) (unlock (τ := τ) pin) := by
  refine ends_bind (ends_exchange ha (ends_request hτ ha _) _) fun e _ => ?_
  split
  · exact ends_pure trivial
  · refine ends_bind (ends_exchange ha (ends_pinMatrixAck hτ ha pin) _) fun _ _ => ?_
    exact ends_bind ends_get fun _ _ => ends_pure trivial

theorem ends_confirmWords (words : Number) (steps : Nat) :
    Ends (Sound P R timeout) E (fun _ => True) (confirmWords (τ := τ) words steps) := by
  induction steps with
  | zero => exact ends_fail (ha.plain rfl)
  | succ steps ih =>
    refine ends_bind (ends_exchange ha (ends_wordAck hτ ha _) _) fun e _ => ?_
    split
    · exact ends_bind (ends_note _) fun _ _ => ends_pure trivial
    · exact ih

theorem ends_choosePin (pin : Value) (entropy : Argument Bytes) :
    Ends (Sound P R timeout) E (fun _ => True) (choosePin (τ := τ) pin entropy) := by
  refine ends_bind (ends_exchange ha (ends_pinMatrixAck hτ ha pin) _) fun _ _ => ?_
  refine ends_bind (ends_exchange ha (ends_pinMatrixAck hτ ha pin) _) fun _ _ => ?_
  refine ends_bind (ends_exchange ha (ends_entropyAck hτ ha entropy) _) fun _ _ => ?_
  exact ends_bind ends_get fun _ _ => ends_confirmWords hτ ha _ _

theorem ends_setUp (pin label strength : Value) (entropy : Argument Bytes) (random : Bytes) :
    Ends (Sound P R timeout) E (fun _ => True) (setUp (τ := τ) pin label strength entropy random) := by
  refine ends_bind ends_get fun c _ => ?_
  split
  · rename_i e hf
    unfold setUpFault? at hf
    refine ends_fail (ha.plain ?_)
    split at hf
    · exact Option.some.inj hf ▸ rfl
    · split at hf
      · cases hf
      · exact Option.some.inj hf ▸ rfl
  · exact ends_bind (ends_exchange ha (ends_resetDevice hτ ha _) _) fun _ _ => ends_choosePin hτ ha pin _

theorem ends_wipe : Ends (Sound P R timeout) E (fun _ => True) (wipe (τ := τ)) :=
  ends_bind (ends_exchange ha (ends_request hτ ha _) _) fun _ _ =>
    ends_bind (ends_exchange ha (ends_request hτ ha _) _) fun _ _ => ends_pure trivial

omit [Transport τ] hτ in
theorem ends_reportValue (e : Event) : Ends (Sound P R timeout) E (fun _ => True) (reportValue (τ := τ) e) := by
  refine ends_bind (ends_ofExcept (fun _ _ => trivial) fun e' h => ?_) fun _ _ => ends_pure trivial
  unfold valueOf at h
  split at h
  · cases h
  · exact Except.error.inj h ▸ ha.plain rfl

theorem ends_askAgain {ask : Attempt (Client τ) Unit} (hask : Ends (Sound P R timeout) E (fun _ => True) ask)
    (pin : Value) : Ends (Sound P R timeout) E (fun _ => True) (askAgain ask pin) :=
  ends_bind (ends_exchange ha (ends_pinMatrixAck hτ ha pin) _) fun _ _ =>
    ends_bind (ends_exchange ha hask _) fun e _ => ends_reportValue ha e

theorem ends_cipherWith {ask : Attempt (Client τ) Unit} (hask : Ends (Sound P R timeout) E (fun _ => True) ask)
    (pin : Value) : Ends (Sound P R timeout) E (fun _ => True) (cipherWith ask pin) := by
  refine ends_bind (ends_exchange ha hask _) fun e _ => ?_
  split
  · split
    · exact ends_fail (ha.plain rfl)
    · exact ends_askAgain hτ ha hask _
  · exact ends_reportValue ha e

theorem ends_cipherKey (keyIndex subIndex label value : Value) (purpose : Argument KeyPurpose) (encrypt pin : Value) :
    Ends (Sound P R timeout) E (fun _ => True)
      (cipherKey (τ := τ) keyIndex subIndex label value purpose encrypt pin) := by
  refine ends_bind (ha.ends_ofExcept (plain_valueBytes value)) fun data _ => ends_cipherWith hτ ha ?_ pin
  exact ends_bind (ha.ends_ofExcept (plain_labelBytes label)) fun _ _ => ends_cipherKeyValue hτ ha _

end Client

end HardwareWallet
