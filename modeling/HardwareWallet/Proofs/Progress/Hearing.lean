import HardwareWallet.Progress.Basic
import HardwareWallet.Proofs.Device.History

namespace HardwareWallet

def Authentication.withoutEntry (a : Authentication) : Authentication :=
  { a with entry := none }

theorem Authentication.withoutEntry_observe (a : Authentication) (request reply : Message) :
    (a.observe request reply).1.withoutEntry = (a.withoutEntry.observe request reply).1.withoutEntry := by
  unfold Authentication.observe
  split
  case h_4 =>
    unfold observePin
    split
    · split <;> rfl
    · rfl
    · rfl
  all_goals rfl

namespace Progress

def hear (p : Progress) (past : List Exchange) : Progress :=
  past.foldl (fun p x => (p.observe x.request x.reply).1) p

def withoutEntry (p : Progress) : Progress :=
  { p with authentication := p.authentication.withoutEntry }

theorem hear_append (p : Progress) (past more : List Exchange) : p.hear (past ++ more) = (p.hear past).hear more :=
  List.foldl_append ..

theorem authentication_observe (p : Progress) (m reply : Message) :
    (p.observe m reply).1.authentication = (p.authentication.observe m reply).1 := by
  simp only [observe]
  cases ResetProgress.observe p.reset m reply <;> rfl

theorem congr_withoutEntry {α : Type} {f : Progress → α} (hf : ∀ p, f p.withoutEntry = f p) {p q : Progress}
    (h : p.withoutEntry = q.withoutEntry) : f p = f q := by
  rw [← hf p, h, hf q]

theorem reset_congr {p q : Progress} (h : p.withoutEntry = q.withoutEntry) : p.reset = q.reset :=
  congr_withoutEntry (fun _ => rfl) h

theorem unlocked_congr {p q : Progress} (h : p.withoutEntry = q.withoutEntry) :
    p.authentication.unlocked = q.authentication.unlocked :=
  congr_withoutEntry (f := fun p => p.authentication.unlocked) (fun _ => rfl) h

theorem initialisation_congr {p q : Progress} (h : p.withoutEntry = q.withoutEntry) :
    p.authentication.initialisation = q.authentication.initialisation :=
  congr_withoutEntry (f := fun p => p.authentication.initialisation) (fun _ => rfl) h

theorem withoutEntry_observe (p : Progress) (request reply : Message) :
    (p.observe request reply).1.withoutEntry = (p.withoutEntry.observe request reply).1.withoutEntry := by
  have ha := p.authentication.withoutEntry_observe request reply
  simp only [observe, withoutEntry]
  cases ResetProgress.observe p.reset request reply with
  | ok result => simp only [ha]
  | error e => simp only [ha]

theorem withoutEntry_hear {p q : Progress} (h : p.withoutEntry = q.withoutEntry) (past : List Exchange) :
    (p.hear past).withoutEntry = (q.hear past).withoutEntry := by
  induction past generalizing p q with
  | nil => exact h
  | cons x past ih =>
    apply ih
    rw [withoutEntry_observe p, withoutEntry_observe q, h]

end Progress

end HardwareWallet
