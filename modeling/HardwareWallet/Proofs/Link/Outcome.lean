import HardwareWallet.Proofs.Channel.Subscribers
import HardwareWallet.Proofs.Command.Faults
import HardwareWallet.Proofs.Link.Emulated
import HardwareWallet.Proofs.Session.Outcome
import HardwareWallet.Transport.AnyLink

namespace HardwareWallet

open Attempt

def Error.IsTold (e : Error) : Prop :=
  e ≠ .endless ∧ ∃ text, e.statement = .text text

def Message.IsTold (m : Message) : Prop :=
  ∀ code given, m = .failure code given → ∃ text, given = .text text

theorem Error.isTold_of_isPlain {e : Error} (h : e.isPlain = true) : e.IsTold := by
  cases e
  case deviceRefused | deviceCancelled | endless => cases h
  all_goals exact ⟨nofun, _, rfl⟩

theorem admits_told : Admits Error.IsTold Message.IsTold where
  plain := Error.isTold_of_isPlain
  own code text := by
    rintro _ _ ⟨⟩
    exact ⟨text, rfl⟩
  failure h := by
    obtain ⟨text, rfl⟩ := h _ _ rfl
    exact ⟨⟨nofun, text, rfl⟩, nofun, text, rfl⟩

def Timeout.Ends (timeout : Timeout) (e : Error) : Prop :=
  e = .endless → timeout.isEndless = true

theorem admits_ends (timeout : Timeout) : Admits timeout.Ends fun _ => True where
  plain := by
    rintro _ h rfl
    cases h
  own _ _ := trivial
  failure _ := ⟨nofun, nofun⟩

theorem isTold_of_isFault {e : Error} (h : e.kind.IsFault) : e.IsTold :=
  Error.isTold_of_isPlain (Error.isPlain_of_kind h.2)

theorem ends_of_isFault {e : Error} (h : e.kind.IsFault) (timeout : Timeout) : timeout.Ends e :=
  fun he => absurd he (isTold_of_isFault h).1

theorem Device.Reaction.isTold {d d' : Device} {m reply : Message} (h : d.Reaction m reply d') : reply.IsTold := by
  have hrefusal (code : FailureCode) (text : String) : (refusal code text).IsTold := by
    rintro _ _ ⟨⟩
    exact ⟨text, rfl⟩
  cases h
  case unmoved h =>
    cases h
    case keyRefused | wrongPin | resetRefused | entropyRefused | wordRefused | cipherRefused | cipherLength | unknown =>
      exact hrefusal _ _
    all_goals exact nofun
  case cancelledIdle | cancelled => exact hrefusal _ _
  all_goals exact nofun

namespace EmulatedLink

variable {l : EmulatedLink}

structure Awake (l : EmulatedLink) : Prop where
  replies : l.device.stalled = false
  told : ∀ m ∈ l.replies, m.IsTold

theorem Awake.read (h : l.Awake) (hn : l.replies ≠ []) (timeout : Timeout) :
    Comes Awake Error.IsTold (fun reply => ∀ r ∈ reply, r.IsTold) (EmulatedLink.read timeout l) := by
  have he (e : Error) (he : (EmulatedLink.read timeout l).1 = .error e) : e.IsTold := by
    rcases read_eq_error he with hf | ⟨-, hq, -⟩
    · exact isTold_of_isFault hf
    · exact absurd (List.head?_eq_none_iff.mp hq) hn
  rw [EmulatedLink.read] at he ⊢
  split
  · rename_i e hf
    rw [hf] at he
    exact ⟨h, he e rfl⟩
  · rename_i hf
    rw [hf] at he
    dsimp only at he
    split
    · rename_i reply ha
      refine ⟨⟨h.replies, fun m hm => h.told m (List.mem_of_mem_tail hm)⟩, ?_⟩
      rintro r rfl
      exact h.told r (List.mem_of_mem_head? (Timeout.front_of_await ha))
    · rename_i e ha
      rw [ha] at he
      exact ⟨h, he e rfl⟩

theorem Awake.exchange (h : l.Awake) (m : Message) (timeout : Timeout) :
    Comes Awake Error.IsTold (fun reply => ∀ r ∈ reply, r.IsTold) (Transport.exchange m timeout l) := by
  cases hf : l.fault? with
  | some e =>
    rw [exchange_of_error (write_of_fault hf)]
    exact ⟨h, isTold_of_isFault (faults_of_fault (α := Unit) hf e rfl)⟩
  | none =>
    cases ha : l.device.answer m with
    | error e =>
      have hp : Device.process m l.device = (.error e, l.device) := by simp [Device.process, h.replies, ha]
      rw [exchange_of_error (write_of_error hf hp)]
      exact ⟨⟨h.replies, h.told⟩, isTold_of_isFault (Device.faults_answer l.device m e ha)⟩
    | ok result =>
      obtain ⟨reply, d⟩ := result
      have hr := Device.reaction_of_answer ha
      rw [exchange_of_ok (write_of_ok hf (Device.process_of_ok h.replies ha))]
      refine Awake.read ⟨hr.stalled_eq.trans h.replies, fun m' hm => ?_⟩ (by simp [reached]) timeout
      rcases List.mem_append.mp hm with hm | hm
      · exact h.told m' hm
      · exact (List.mem_singleton.mp hm) ▸ hr.isTold

/-- An exchange with a device that replies is over whatever the time is that is waited. -/
theorem answers_told (timeout : Timeout) :
    Transport.Answers EmulatedLink Awake Error.IsTold Message.IsTold timeout where
  present _ h := ⟨h, trivial⟩
  connect l h := by
    change Comes _ _ _ (connect l)
    rw [connect]
    split
    · exact ⟨⟨h.replies, h.told⟩, trivial⟩
    · exact ⟨h, Error.isTold_of_isPlain rfl⟩
  disconnect _ h := ⟨⟨h.replies, nofun⟩, trivial⟩
  exchange m _ h := h.exchange m timeout

/-- An exchange with any device is over if there is an end to the time that is waited. -/
theorem answers_ends (timeout : Timeout) :
    Transport.Answers EmulatedLink (fun _ => True) timeout.Ends (fun _ => True) timeout where
  present _ _ := ⟨trivial, trivial⟩
  connect l _ := by
    change Comes _ _ _ (connect l)
    rw [connect]
    split
    · exact ⟨trivial, trivial⟩
    · exact ⟨trivial, nofun⟩
  disconnect _ _ := ⟨trivial, trivial⟩
  exchange m l _ := by
    obtain ⟨r, l', hw⟩ : ∃ r l', write m l = (r, l') := ⟨_, _, rfl⟩
    cases r with
    | error e =>
      rw [exchange_of_error hw]
      exact ⟨trivial, ends_of_isFault (faults_write m l e (congrArg Prod.fst hw)) timeout⟩
    | ok =>
      rw [exchange_of_ok hw]
      obtain ⟨r, l'', hr⟩ : ∃ r l'', EmulatedLink.read timeout l' = (r, l'') := ⟨_, _, rfl⟩
      rw [hr]
      cases r with
      | ok reply => exact ⟨trivial, fun _ _ => trivial⟩
      | error e =>
        refine ⟨trivial, ?_⟩
        rcases read_eq_error (congrArg Prod.fst hr) with hf | ⟨-, -, hn⟩
        · exact ends_of_isFault hf timeout
        · exact fun _ => hn

end EmulatedLink

theorem Bus.faults_paths (bus : Bus) : Faults bus.paths := by
  rw [paths]
  split
  · exact faults_error rfl
  · exact errorsIn_ok _

namespace UsbLink

/-- Without a codec nothing is read over USB. -/
theorem answers_told (timeout : Timeout) :
    Transport.Answers UsbLink (fun l => l.codec = .missing) Error.IsTold Message.IsTold timeout where
  present l h := by
    change Comes _ _ _ (present l)
    have hp := l.bus.faults_paths
    rw [present]
    cases hb : l.bus.paths with
    | error e => exact ⟨h, isTold_of_isFault (hp e hb)⟩
    | ok paths => exact ⟨h, trivial⟩
  connect l h := by
    change Comes _ _ _ (connect l)
    rw [connect]
    split
    · exact ⟨h, Error.isTold_of_isPlain rfl⟩
    · exact ⟨h, trivial⟩
  disconnect l h := by
    change Comes _ _ _ (disconnect l)
    rw [disconnect]
    split <;> exact ⟨h, trivial⟩
  exchange m l h := by
    obtain ⟨bus, path, codec, opened, activity⟩ := l
    obtain rfl : codec = .missing := h
    cases opened <;> exact ⟨rfl, Error.isTold_of_isPlain rfl⟩

end UsbLink

namespace AnyLink

def Sound : AnyLink → Prop
  | emulated l => l.Awake
  | usb l => l.codec = .missing
  | scripted _ => False

theorem ends_onLink {α : Type} {E : Error → Prop} {Q : α → Prop} {x : {τ : Type} → [Transport τ] → Attempt τ α}
    (he : Ends EmulatedLink.Awake E Q (x : Attempt EmulatedLink α))
    (hu : Ends (fun l => l.codec = .missing) E Q (x : Attempt UsbLink α)) : Ends Sound E Q (onLink x) := by
  intro l hl
  cases l with
  | emulated l =>
    have h := he l hl
    revert h
    rw [onLink]
    rcases x l with ⟨_ | _, _⟩ <;> exact id
  | usb l =>
    have h := hu l hl
    revert h
    rw [onLink]
    rcases x l with ⟨_ | _, _⟩ <;> exact id
  | scripted l => exact hl.elim

theorem exchange_eq_onLink (m : Message) (timeout : Timeout) :
    (Transport.exchange m timeout : Attempt AnyLink _) = onLink (Transport.exchange m timeout) := by
  funext l
  change (onLink (Transport.write m) >>= fun _ => onLink (Transport.read timeout)) l = _
  rw [bind_apply]
  cases l with
  | emulated l =>
    simp only [onLink, Transport.exchange, bind_apply]
    rcases (Transport.write m : Attempt EmulatedLink Unit) l with ⟨_ | _, _⟩ <;> rfl
  | usb l =>
    simp only [onLink, Transport.exchange, bind_apply]
    rcases (Transport.write m : Attempt UsbLink Unit) l with ⟨_ | _, _⟩ <;> rfl
  | scripted l =>
    simp only [onLink, Transport.exchange, bind_apply]
    rcases (Transport.write m : Attempt ScriptedLink Unit) l with ⟨_ | _, _⟩ <;> rfl

theorem answers_told (timeout : Timeout) :
    Transport.Answers AnyLink Sound Error.IsTold Message.IsTold timeout where
  present := ends_onLink (EmulatedLink.answers_told timeout).present (UsbLink.answers_told timeout).present
  connect := ends_onLink (EmulatedLink.answers_told timeout).connect (UsbLink.answers_told timeout).connect
  disconnect := ends_onLink (EmulatedLink.answers_told timeout).disconnect (UsbLink.answers_told timeout).disconnect
  exchange m := by
    rw [exchange_eq_onLink]
    exact ends_onLink ((EmulatedLink.answers_told timeout).exchange m) ((UsbLink.answers_told timeout).exchange m)

theorem sound_ofProfile (profile : Profile) : (emulated { device := Device.ofProfile profile }).Sound :=
  ⟨by cases profile <;> rfl, nofun⟩

theorem sound_of_list {bus : Bus} {kind : LinkKind} {links : List AnyLink} (h : list bus kind = .ok links) :
    ∀ l ∈ links, l.Sound := by
  cases kind with
  | emulated =>
    rw [← Except.ok.inj h]
    exact List.forall_mem_map.mpr fun profile _ => sound_ofProfile profile
  | usb =>
    rw [list] at h
    cases hb : bus.paths with
    | error e =>
      rw [hb] at h
      cases h
    | ok paths =>
      rw [hb] at h
      rw [← Except.ok.inj h]
      exact List.forall_mem_map.mpr fun _ _ => rfl

theorem findEmulated_cases (path : String) :
    (∃ l, findEmulated path = .ok l ∧ l.Sound) ∨ ∃ e, findEmulated path = .error e ∧ e.isPlain = true := by
  unfold findEmulated
  split
  · exact .inr ⟨_, rfl, rfl⟩
  · split
    · rename_i profile _
      exact .inl ⟨_, rfl, sound_ofProfile profile⟩
    · exact .inr ⟨_, rfl, rfl⟩

theorem findUsb_cases (bus : Bus) (path : Value) :
    (∃ l, findOf bus .usb path = .ok l ∧ l.Sound) ∨ ∃ e, findOf bus .usb path = .error e ∧ e.isPlain = true := by
  unfold findOf
  dsimp only
  cases hl : list bus .usb with
  | error e =>
    have hp : Plain (list bus .usb) := errorsIn_map bus.faults_paths.plain _
    exact .inr ⟨e, rfl, Error.isPlain_of_kind (hp e hl)⟩
  | ok links =>
    rw [ok_bind]
    split
    · rename_i link hf
      exact .inl ⟨link, rfl, sound_of_list hl link (List.mem_of_find?_eq_some hf)⟩
    · exact .inr ⟨_, rfl, Error.isPlain_of_kind (Error.isPlain_showing (of_decide_eq_true rfl) path)⟩

theorem find_cases (bus : Bus) (path : Value) :
    (∃ l, find bus path = .ok l ∧ l.Sound) ∨ ∃ e, find bus path = .error e ∧ e.isPlain = true := by
  unfold find
  split
  · rename_i s
    split
    · rename_i kind _
      cases kind with
      | emulated => exact findEmulated_cases s
      | usb => exact findUsb_cases bus (.text s)
    · exact .inr ⟨_, rfl, rfl⟩
  · exact .inr ⟨_, rfl, rfl⟩

end AnyLink

end HardwareWallet
