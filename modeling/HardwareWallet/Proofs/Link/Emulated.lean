import HardwareWallet.Proofs.Device.History
import HardwareWallet.Transport.Emulated

namespace HardwareWallet

open Attempt Device

def Timeout.isMeasurable : Timeout → Bool
  | other _ => false
  | timeout => !timeout.isNegative && !timeout.isEndUnknown

theorem Timeout.await_measurable {timeout : Timeout} (h : timeout.isMeasurable = true) {α : Type}
    (front : Option α) : timeout.await front = .ok front ∨ front = none ∧ ∃ e, timeout.await front = .error e := by
  cases timeout with
  | other given => cases h
  | forever | seconds n =>
    simp only [isMeasurable, Bool.and_eq_true, Bool.not_eq_true'] at h
    simp only [await, h.1, h.2, Bool.false_eq_true, ↓reduceIte]
    cases front with
    | some a => exact .inl rfl
    | none =>
      split
      · exact .inr ⟨rfl, _, rfl⟩
      · split
        · exact .inr ⟨rfl, _, rfl⟩
        · exact .inl rfl

theorem Timeout.await_unmeasurable {timeout : Timeout} (h : timeout.isMeasurable = false) {α : Type} :
    ∃ e, ∀ front : Option α, timeout.await front = .error e := by
  cases timeout with
  | other given => exact ⟨_, fun _ => rfl⟩
  | forever => cases h
  | seconds n =>
    simp only [isMeasurable, Bool.and_eq_false_iff, Bool.not_eq_false'] at h
    cases hn : (seconds n).isNegative with
    | true => exact ⟨.negativeTimeout, fun front => by simp only [await, hn, ↓reduceIte]⟩
    | false =>
      have he := h.resolve_left (by simp [hn])
      exact ⟨.magnitude, fun front => by simp only [await, hn, he, Bool.false_eq_true, ↓reduceIte]⟩

namespace EmulatedLink

inductive Exchanged (m : Message) (timeout : Timeout) (l : EmulatedLink) :
    Except Error (Option Message) → EmulatedLink → Prop where
  | lost (e : Error) : Exchanged m timeout l (.error e) l
  | unanswered (r : Except Error (Option Message)) (replies : List Message) (hr : ∀ reply, r ≠ .ok (some reply))
      (ht : timeout.isMeasurable = true → replies = []) (hx : l.device.exchange? (.request m) = none)
      (hd : l.device.act (.request m) = l.device) :
      Exchanged m timeout l r { l with received := l.received ++ [m], replies := replies }
  | unheard (e : Error) (replies : List Message) (ht : timeout.isMeasurable = false) :
      Exchanged m timeout l (.error e)
        { l with received := l.received ++ [m], device := l.device.act (.request m), replies := replies }
  | heard (reply : Message) (ht : timeout.isMeasurable = true)
      (hx : l.device.exchange? (.request m) = some ⟨m, reply⟩) (hk : (EventKind.ofReply? reply).isSome) :
      Exchanged m timeout l (.ok (some reply))
        { l with received := l.received ++ [m], device := l.device.act (.request m), replies := [] }

variable {l : EmulatedLink} {m : Message} {timeout : Timeout}

theorem write_of_fault {e : Error} (hf : l.fault? = some e) : write m l = (.error e, l) := by
  simp only [write, hf]

def reached (l : EmulatedLink) (m : Message) (device : Device) (reply : Option Message) : EmulatedLink :=
  { l with received := l.received ++ [m], device := device, replies := l.replies ++ reply.toList }

theorem fault?_reached {device : Device} {reply : Option Message} (hp : device.plugged = l.device.plugged) :
    (l.reached m device reply).fault? = l.fault? := by
  simp [fault?, reached, hp]

theorem write_of_ok {reply : Option Message} {d : Device} (hf : l.fault? = none)
    (hp : process m l.device = (.ok reply, d)) : write m l = (.ok (), l.reached m d reply) := by
  simp only [write, hf, hp, reached]

theorem write_of_error {e : Error} {d : Device} (hf : l.fault? = none) (hp : process m l.device = (.error e, d)) :
    write m l = (.error e, { l with received := l.received ++ [m], device := d }) := by
  simp only [write, hf, hp]

theorem read_measurable (reply : Option Message) (ht : timeout.isMeasurable = true) (hf : l.fault? = none)
    (hr : l.replies = reply.toList) :
    read timeout l = (.ok reply, { l with replies := [] }) ∨
      reply = none ∧ ∃ e, read timeout l = (.error e, l) := by
  have hh : l.replies.head? = reply ∧ l.replies.tail = [] := by
    rw [hr]
    cases reply <;> exact ⟨rfl, rfl⟩
  rcases Timeout.await_measurable ht reply with ha | ⟨hn, e, ha⟩
  · exact .inl (by simp only [read, hf, hh, ha])
  · exact .inr ⟨hn, e, by simp only [read, hf, hh, ha]⟩

theorem read_unmeasurable (ht : timeout.isMeasurable = false) (hf : l.fault? = none) :
    ∃ e, read timeout l = (.error e, l) := by
  obtain ⟨e, ha⟩ := Timeout.await_unmeasurable ht (α := Message)
  exact ⟨e, by simp only [read, hf, ha]⟩

theorem exchange_of_error {l' : EmulatedLink} {e : Error} (hw : write m l = (.error e, l')) :
    Transport.exchange m timeout l = (.error e, l') := by
  change (write m >>= fun _ => read timeout) l = _
  rw [bind_apply, hw]

theorem exchange_of_ok {l' : EmulatedLink} (hw : write m l = (.ok (), l')) :
    Transport.exchange m timeout l = read timeout l' := by
  change (write m >>= fun _ => read timeout) l = _
  rw [bind_apply, hw]

theorem exchanged_of_silence {r : Except Error (Option Message)} (hf : l.fault? = none)
    (hr : timeout.isMeasurable = true → l.replies = []) (hp : process m l.device = (r, l.device))
    (hn : ∀ reply, r ≠ .ok (some reply)) :
    l.Exchanged m timeout (Transport.exchange m timeout l).1 (Transport.exchange m timeout l).2 := by
  have hx := exchange?_eq_none hp hn
  have hd := act_of_process hp
  rcases r with e | _ | reply
  · rw [exchange_of_error (write_of_error hf hp)]
    exact .unanswered _ _ nofun hr hx hd
  · rw [exchange_of_ok (write_of_ok hf hp)]
    have hf' : (l.reached m l.device none).fault? = none := (fault?_reached rfl).trans hf
    have hq : timeout.isMeasurable = true → (l.reached m l.device none).replies = [] := by simpa [reached] using hr
    cases ht : timeout.isMeasurable with
    | true =>
      rcases read_measurable none ht hf' (hq ht) with he | ⟨-, e, he⟩
      · rw [he]
        exact .unanswered _ _ nofun (fun _ => rfl) hx hd
      · rw [he]
        exact .unanswered _ _ nofun hq hx hd
    | false =>
      obtain ⟨e, he⟩ := read_unmeasurable ht hf'
      rw [he]
      exact .unanswered _ _ nofun hq hx hd
  · exact absurd rfl (hn reply)

theorem exchanged_of_reply {reply : Message} {d' : Device} (hf : l.fault? = none)
    (hr : timeout.isMeasurable = true → l.replies = []) (hp : process m l.device = (.ok (some reply), d'))
    (hre : l.device.Reaction m reply d') :
    l.Exchanged m timeout (Transport.exchange m timeout l).1 (Transport.exchange m timeout l).2 := by
  have hx := exchange?_of_process hp
  obtain rfl := act_of_process hp
  rw [exchange_of_ok (write_of_ok hf hp)]
  have hf' : (l.reached m _ (some reply)).fault? = none := (fault?_reached hre.plugged_eq).trans hf
  cases ht : timeout.isMeasurable with
  -- the queue was empty, so that what is read is the reply to this request
  | true =>
    rcases read_measurable (some reply) ht hf' (by simp [reached, hr ht]) with he | ⟨hn, -⟩
    · rw [he]
      exact .heard reply ht hx hre.ofReply?_isSome
    · cases hn
  | false =>
    obtain ⟨e, he⟩ := read_unmeasurable ht hf'
    rw [he]
    exact .unheard e _ ht

theorem exchanged (m : Message) (timeout : Timeout) (l : EmulatedLink)
    (hr : timeout.isMeasurable = true → l.replies = []) :
    l.Exchanged m timeout (Transport.exchange m timeout l).1 (Transport.exchange m timeout l).2 := by
  cases hf : l.fault? with
  | some e =>
    rw [exchange_of_error (write_of_fault hf)]
    exact .lost e
  | none =>
    rcases l.device.process_cases m with ⟨r, hp, hn⟩ | ⟨reply, d', hp, hre⟩
    · exact exchanged_of_silence hf hr hp hn
    · exact exchanged_of_reply hf hr hp hre

end EmulatedLink

end HardwareWallet
