import HardwareWallet.Proofs.Link.Emulated
import HardwareWallet.Proofs.Progress.Hearing
import HardwareWallet.Proofs.Session.Turn

namespace HardwareWallet

open Attempt Device

namespace Session

structure Tidy (s : Session EmulatedLink) : Prop where
  opened_iff : s.link.opened = true ↔ s.connection = .connected
  replies : s.timeout.isMeasurable = true → s.link.replies = []

/-- Between two states of a session, this has happened to the device, and the host has kept up with it. -/
structure KeepsUp (stimuli : List Stimulus) (s s' : Session EmulatedLink) : Prop where
  timeout : s'.timeout = s.timeout
  device : s'.link.device = s.link.device.run stimuli
  progress : s'.progress.withoutEntry =
    if s.timeout.isMeasurable then (s.progress.hear (s.link.device.exchanges stimuli)).withoutEntry
    else s.progress.withoutEntry

theorem KeepsUp.refl (s : Session EmulatedLink) : KeepsUp [] s s :=
  ⟨rfl, rfl, by split <;> rfl⟩

theorem KeepsUp.trans {first second : List Stimulus} {s t u : Session EmulatedLink} (h : KeepsUp first s t)
    (h' : KeepsUp second t u) : KeepsUp (first ++ second) s u where
  timeout := h'.timeout.trans h.timeout
  device := by rw [h'.device, h.device, run_append]
  progress := by
    have hp := h.progress
    have hp' := h'.progress
    rw [h.timeout, h.device] at hp'
    rw [hp', exchanges_append, Progress.hear_append]
    split
    · rename_i hm
      rw [if_pos hm] at hp
      exact Progress.withoutEntry_hear hp _
    · rename_i hm
      rwa [if_neg hm] at hp

structure Advances (requests : List Message) (s s' : Session EmulatedLink) : Prop
    extends KeepsUp (requests.map .request) s s' where
  received : s'.link.received = s.link.received ++ requests

theorem Advances.refl (s : Session EmulatedLink) : Advances [] s s :=
  ⟨.refl s, by simp⟩

theorem Advances.relabel {requests : List Message} {s t u : Session EmulatedLink} (h : Advances requests s t)
    (ht : u.timeout = t.timeout) (hl : u.link.received = t.link.received ∧ u.link.device = t.link.device)
    (hp : u.progress.withoutEntry = t.progress.withoutEntry) : Advances requests s u :=
  ⟨⟨ht.trans h.timeout, hl.2.trans h.device, hp.trans h.progress⟩, hl.1.trans h.received⟩

theorem Advances.trans {first second : List Message} {s t u : Session EmulatedLink} (h : Advances first s t)
    (h' : Advances second t u) : Advances (first ++ second) s u where
  toKeepsUp := by
    rw [List.map_append]
    exact h.toKeepsUp.trans h'.toKeepsUp
  received := by rw [h'.received, h.received, List.append_assoc]

theorem tidy_breakOff {α : Type} (failure : Option Message) (e : Error) (s : Session EmulatedLink) :
    (breakOff (α := α) failure e s).2.Tidy where
  opened_iff := by
    change (false = true ↔ Connection.failed = .connected)
    simp
  replies _ := rfl

theorem Advances.broken {α : Type} {requests : List Message} {s s' : Session EmulatedLink}
    (h : Advances requests s s') (failure : Option Message) (e : Error) :
    Advances requests s (breakOff (α := α) failure e s').2 :=
  ⟨⟨h.timeout, h.device, h.progress⟩, h.received⟩

variable {s : Session EmulatedLink} {m : Message} {l : EmulatedLink}

theorem call_of_silence {r : Except Error (Option Message)} (hc : s.connection = .connected)
    (he : Transport.exchange m s.timeout s.link = (r, l)) (hr : ∀ reply, r ≠ .ok (some reply)) :
    (call m s).2 = { s with link := l } ∨
      ∃ failure e, (call m s).2 = (breakOff (α := Message) failure e { s with link := l }).2 := by
  rcases r with e | _ | reply
  · by_cases hf : ∃ cause, e = .transport cause
    · obtain ⟨cause, rfl⟩ := hf
      exact .inr ⟨_, _, congrArg Prod.snd (call_faulted hc he)⟩
    · exact .inl (congrArg Prod.snd (call_unforeseen hc he fun cause h => hf ⟨cause, h⟩))
  · cases hw : s.timeout.isWritable with
    | true => exact .inr ⟨_, _, congrArg Prod.snd (call_unanswered hc he hw)⟩
    | false => exact .inl (congrArg Prod.snd (call_unwritten hc he hw))
  · exact absurd rfl (hr reply)

theorem Advances.broken_or_kept {requests : List Message} {s' t : Session EmulatedLink}
    (h : Advances requests s s') (hs : s'.Tidy) (ht : t = s' ∨ ∃ failure e, t = (breakOff (α := Message) failure e s').2) :
    t.Tidy ∧ ∃ requests, Advances requests s t := by
  rcases ht with rfl | ⟨failure, e, rfl⟩
  · exact ⟨hs, requests, h⟩
  · exact ⟨tidy_breakOff failure e s', requests, h.broken failure e⟩

theorem call_advances (m : Message) (h : s.Tidy) :
    (call m s).2.Tidy ∧ ∃ requests, Advances requests s (call m s).2 := by
  by_cases hc : s.connection = .connected
  · have hx := s.link.exchanged m s.timeout h.replies
    obtain ⟨r, l, he⟩ : ∃ r l, Transport.exchange m s.timeout s.link = (r, l) := ⟨_, _, rfl⟩
    rw [he] at hx
    cases hx with
    | lost e => exact (Advances.refl s).broken_or_kept h (call_of_silence hc he nofun)
    | unanswered _ replies hr ht hn hd =>
      have ha : Advances [m] s { s with link := { s.link with
          received := s.link.received ++ [m], replies := replies } } :=
        ⟨⟨rfl, hd.symm, by simp [exchanges, hn, Progress.hear]⟩, rfl⟩
      exact ha.broken_or_kept ⟨h.opened_iff, ht⟩ (call_of_silence hc he hr)
    -- the device has moved on, and a host that cannot wait has not
    | unheard e replies ht =>
      have ha : Advances [m] s { s with link := { s.link with
          received := s.link.received ++ [m], device := s.link.device.act (.request m), replies := replies } } :=
        ⟨⟨rfl, rfl, by simp [ht]⟩, rfl⟩
      exact ha.broken_or_kept ⟨h.opened_iff, by simp [ht]⟩ (call_of_silence hc he nofun)
    | heard reply ht hy hk =>
      obtain ⟨kind, hk⟩ := Option.isSome_iff_exists.mp hk
      rw [call_replied hc he hk]
      refine ⟨⟨h.opened_iff, fun _ => rfl⟩, [m], ?_⟩
      exact
        { timeout := rfl
          received := rfl
          device := rfl
          progress := by
            rw [if_pos ht]
            simp only [List.map_cons, List.map_nil, exchanges, hy]
            rfl }
  · simp only [call, hc, ne_eq, not_false_eq_true, ↓reduceIte]
    exact ⟨h, _, .refl s⟩

theorem attach_cases (s : Session EmulatedLink) : (attach s).2 = s ∨
    s.connection ≠ .connected ∧ (attach s).2 = { s with connection := .attached }.fire .deviceAttached none := by
  obtain ⟨plugged, hp⟩ : ∃ plugged, Transport.present s.link = (.ok plugged, s.link) := ⟨_, rfl⟩
  cases plugged with
  | false => exact .inl (attach_absent hp nofun)
  | true =>
    by_cases hc : s.connection = .detached ∨ s.connection = .disconnected ∨ s.connection = .failed
    · exact .inr ⟨by rcases hc with hc | hc | hc <;> simp [hc], attach_new hp hc⟩
    · exact .inl (attach_again hp hc)

theorem attach_advances (h : s.Tidy) : (attach s).2.Tidy ∧ ∃ requests, Advances requests s (attach s).2 := by
  rcases attach_cases s with ha | ⟨hc, ha⟩
  · rw [ha]
    exact ⟨h, [], .refl s⟩
  · rw [ha]
    exact ⟨⟨by simpa [hc] using h.opened_iff, h.replies⟩, [], (Advances.refl s).relabel rfl ⟨rfl, rfl⟩ rfl⟩

theorem connect_advances (h : s.Tidy) : (connect s).2.Tidy ∧ ∃ requests, Advances requests s (connect s).2 := by
  by_cases hc : s.connection = .connected
  · simp only [connect, hc, ↓reduceIte]
    exact ⟨h, [], .refl s⟩
  · simp only [connect, hc, ↓reduceIte, onLink, onPart, Transport.connect, EmulatedLink.connect]
    cases s.link.device.plugged with
    | true => exact ⟨⟨by simp, h.replies⟩, [], (Advances.refl s).relabel rfl ⟨rfl, rfl⟩ rfl⟩
    | false =>
      have hl : s.link.opened ≠ true := fun ho => hc (h.opened_iff.mp ho)
      refine ⟨⟨?_, h.replies⟩, [], (Advances.refl s).relabel rfl ⟨rfl, rfl⟩ rfl⟩
      change s.link.opened = true ↔ Connection.failed = .connected
      simp [hl]

theorem disconnect_advances (h : s.Tidy) :
    (disconnect s).2.Tidy ∧ ∃ requests, Advances requests s (disconnect s).2 := by
  by_cases hc : s.connection = .connected
  · simp only [disconnect, hc, ne_eq, not_true_eq_false, ↓reduceIte]
    refine ⟨⟨?_, fun _ => rfl⟩, [], (Advances.refl s).relabel rfl ⟨rfl, rfl⟩ rfl⟩
    change false = true ↔ Connection.disconnected = .connected
    simp
  · simp only [disconnect, hc, ne_eq, not_false_eq_true, ↓reduceIte]
    exact ⟨h, [], .refl s⟩

end Session

end HardwareWallet
