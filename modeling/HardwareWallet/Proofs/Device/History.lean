import HardwareWallet.Proofs.Device.Reaction
import HardwareWallet.Proofs.Since

/-!
The life of a device. Requests reach it one after the other, and in between it may be stalled or unplugged. Its
history is what it replied to which request, oldest first.
-/

namespace HardwareWallet

structure Exchange where
  request : Message
  reply : Message
  deriving DecidableEq

namespace Device

inductive Stimulus where
  | request (m : Message)
  | stall (stalled : Bool)
  | plug (plugged : Bool)
  deriving DecidableEq

def act (d : Device) : Stimulus → Device
  | .request m => (process m d).2
  | .stall stalled => { d with stalled := stalled }
  | .plug plugged => { d with plugged := plugged }

def run (d : Device) (stimuli : List Stimulus) : Device :=
  stimuli.foldl act d

def exchange? (d : Device) : Stimulus → Option Exchange
  | .request m =>
    match (process m d).1 with
    | .ok (some reply) => some ⟨m, reply⟩
    | _ => none
  | _ => none

def exchanges (d : Device) : List Stimulus → List Exchange
  | [] => []
  | s :: stimuli => (d.exchange? s).toList ++ (d.act s).exchanges stimuli

@[simp] theorem run_nil (d : Device) : d.run [] = d := rfl

@[simp] theorem run_cons (d : Device) (s : Stimulus) (stimuli : List Stimulus) :
    d.run (s :: stimuli) = (d.act s).run stimuli := rfl

theorem run_append (d : Device) (stimuli more : List Stimulus) :
    d.run (stimuli ++ more) = (d.run stimuli).run more :=
  List.foldl_append ..

theorem exchanges_append (d : Device) (stimuli more : List Stimulus) :
    d.exchanges (stimuli ++ more) = d.exchanges stimuli ++ (d.run stimuli).exchanges more := by
  induction stimuli generalizing d with
  | nil => rfl
  | cons s stimuli ih => simp [exchanges, ih]

theorem process_of_ok {d d' : Device} {m reply : Message} (hs : d.stalled = false)
    (ha : d.answer m = .ok (reply, d')) : process m d = (.ok (some reply), d') := by
  simp [process, hs, ha]

theorem process_cases (d : Device) (m : Message) :
    (∃ r, process m d = (r, d) ∧ ∀ reply, r ≠ .ok (some reply)) ∨
      ∃ reply d', process m d = (.ok (some reply), d') ∧ d.Reaction m reply d' := by
  cases hs : d.stalled with
  | true => exact .inl ⟨.ok none, by simp [process, hs], nofun⟩
  | false =>
    cases ha : d.answer m with
    | error e => exact .inl ⟨.error e, by simp [process, hs, ha], nofun⟩
    | ok result => exact .inr ⟨result.1, result.2, process_of_ok hs ha, reaction_of_answer ha⟩

theorem act_of_process {d d' : Device} {m : Message} {r : Except Error (Option Message)}
    (hp : process m d = (r, d')) : d.act (.request m) = d' := by
  simp only [act, hp]

theorem exchange?_of_process {d d' : Device} {m reply : Message} (hp : process m d = (.ok (some reply), d')) :
    d.exchange? (.request m) = some ⟨m, reply⟩ := by
  simp only [exchange?, hp]

theorem exchange?_eq_none {d d' : Device} {m : Message} {r : Except Error (Option Message)}
    (hp : process m d = (r, d')) (hr : ∀ reply, r ≠ .ok (some reply)) : d.exchange? (.request m) = none := by
  rw [exchange?, hp]
  split
  · rename_i reply he
    exact absurd he (hr reply)
  · rfl

theorem act_request (d : Device) (m : Message) :
    (d.exchange? (.request m) = none ∧ d.act (.request m) = d) ∨
      ∃ reply d', d.exchange? (.request m) = some ⟨m, reply⟩ ∧ d.act (.request m) = d' ∧
        d.Reaction m reply d' := by
  rcases d.process_cases m with ⟨r, hp, hr⟩ | ⟨reply, d', hp, hr⟩
  · exact .inl ⟨exchange?_eq_none hp hr, act_of_process hp⟩
  · exact .inr ⟨reply, d', exchange?_of_process hp, act_of_process hp, hr⟩

theorem history_induction {P : List Exchange → Device → Prop} {d : Device} (hd : P [] d)
    (stall : ∀ past d stalled, P past d → P past { d with stalled := stalled })
    (plug : ∀ past d plugged, P past d → P past { d with plugged := plugged })
    (react : ∀ past d m reply d', P past d → d.Reaction m reply d' → P (past ++ [⟨m, reply⟩]) d')
    (stimuli : List Stimulus) : P (d.exchanges stimuli) (d.run stimuli) := by
  -- the past grows along the run, so that it has to be any to begin with
  have hp : ∀ past d, P past d → P (past ++ d.exchanges stimuli) (d.run stimuli) := by
    induction stimuli with
    | nil => simp [exchanges]
    | cons s stimuli ih =>
      intro past d h
      rw [exchanges, run_cons, ← List.append_assoc]
      apply ih
      cases s with
      | stall stalled => simpa [exchange?, act] using stall past d stalled h
      | plug plugged => simpa [exchange?, act] using plug past d plugged h
      | request m =>
        rcases d.act_request m with ⟨he, ha⟩ | ⟨reply, d', he, rfl, hr⟩
        · simpa [he, ha] using h
        · simpa [he] using react past d m reply _ h hr
  exact hp [] d hd

end Device

end HardwareWallet
