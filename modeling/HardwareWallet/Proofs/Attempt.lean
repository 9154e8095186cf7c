import HardwareWallet.Attempt

namespace HardwareWallet

theorem exists_of_bind_eq_ok {ε α β : Type} {x : Except ε α} {f : α → Except ε β} {b : β}
    (h : x >>= f = .ok b) : ∃ a, x = .ok a ∧ f a = .ok b := by
  cases x with
  | error e => cases h
  | ok a => exact ⟨a, rfl, h⟩

theorem cases_of_bind_eq_error {ε α β : Type} {x : Except ε α} {f : α → Except ε β} {e : ε}
    (h : x >>= f = .error e) : x = .error e ∨ ∃ a, x = .ok a ∧ f a = .error e := by
  cases x with
  | error e' => exact .inl (congrArg Except.error (Except.error.inj h))
  | ok a => exact .inr ⟨a, rfl, h⟩

theorem ok_bind {ε α β : Type} (a : α) (f : α → Except ε β) : (.ok a : Except ε α) >>= f = f a := rfl

namespace Attempt

variable {σ ρ α β : Type}

theorem bind_of_ok {x : Attempt σ α} {a : α} {s s' : σ} (f : α → Attempt σ β) (h : x s = (.ok a, s')) :
    (x >>= f) s = f a s' := by
  rw [bind_apply, h]

theorem bind_of_error {x : Attempt σ α} {e : Error} {s s' : σ} (f : α → Attempt σ β) (h : x s = (.error e, s')) :
    (x >>= f) s = (.error e, s') := by
  rw [bind_apply, h]

theorem exists_of_bind_ok {x : Attempt σ α} {f : α → Attempt σ β} {s s' : σ} {b : β}
    (h : (x >>= f) s = (.ok b, s')) : ∃ a t, x s = (.ok a, t) ∧ f a t = (.ok b, s') := by
  rw [bind_apply] at h
  split at h
  · exact ⟨_, _, ‹_›, h⟩
  · cases h

theorem get_bind (f : σ → Attempt σ β) (s : σ) : (get >>= f) s = f s s := rfl

def void (x : Attempt σ α) : Attempt σ Unit := do
  let _ ← x
  return ()

theorem void_snd (x : Attempt σ α) (s : σ) : (void x s).2 = (x s).2 := by
  rw [void, bind_apply]
  rcases x s with ⟨_ | _, _⟩ <;> rfl

theorem void_bind (x : Attempt σ α) (f : α → Attempt σ β) (s : σ) :
    void (x >>= f) s = (x >>= fun a => void (f a)) s := by
  rw [void, bind_apply, bind_apply, bind_apply]
  rcases x s with ⟨_ | _, _⟩ <;> rfl

def Keeps (I : σ → Prop) (x : Attempt σ α) : Prop :=
  ∀ s, I s → I (x s).2

variable {I : σ → Prop}

theorem keeps_pure (a : α) : Keeps I (pure a : Attempt σ α) := fun _ h => h

theorem keeps_fail (e : Error) : Keeps I (fail e : Attempt σ α) := fun _ h => h

theorem keeps_get : Keeps I (get : Attempt σ σ) := fun _ h => h

theorem keeps_ofExcept (r : Except Error α) : Keeps I (ofExcept r) := fun _ h => h

theorem keeps_modify {f : σ → σ} (h : ∀ s, I s → I (f s)) : Keeps I (modify f) := h

theorem keeps_bind {x : Attempt σ α} {f : α → Attempt σ β} (hx : Keeps I x) (hf : ∀ a, Keeps I (f a)) :
    Keeps I (x >>= f) := by
  intro s hs
  have hs' := hx s hs
  rw [bind_apply]
  cases hr : x s with
  | mk r s' =>
    rw [hr] at hs'
    cases r with
    | error e => exact hs'
    | ok a => exact hf a s' hs'

theorem keeps_ite {c : Prop} [Decidable c] {x y : Attempt σ α} (hx : Keeps I x) (hy : Keeps I y) :
    Keeps I (if c then x else y) := by
  split
  · exact hx
  · exact hy

theorem keeps_onPart {part : σ → ρ} {put : σ → ρ → σ} {J : ρ → Prop} {x : Attempt ρ α} (hx : Keeps J x)
    (hp : ∀ s p, part (put s p) = p) : Keeps (fun s => J (part s)) (onPart part put x) := by
  intro s hs
  have hp' := hx (part s) hs
  simpa only [onPart, hp] using hp'

/-- What an operation comes to: a state with a property, and an answer or an error with theirs. -/
def Comes (I : σ → Prop) (E : Error → Prop) (Q : α → Prop) : Except Error α × σ → Prop
  | (.ok a, s) => I s ∧ Q a
  | (.error e, s) => I s ∧ E e

def Ends (I : σ → Prop) (E : Error → Prop) (Q : α → Prop) (x : Attempt σ α) : Prop :=
  ∀ s, I s → Comes I E Q (x s)

variable {J : ρ → Prop} {E : Error → Prop} {Q : α → Prop} {R : β → Prop}

theorem Comes.state {out : Except Error α × σ} (h : Comes I E Q out) : I out.2 := by
  rcases out with ⟨_ | _, s⟩ <;> exact h.1

theorem Comes.error {out : Except Error α × σ} {e : Error} (h : Comes I E Q out) (he : out.1 = .error e) : E e := by
  rcases out with ⟨_ | _, s⟩
  · exact Except.error.inj he ▸ h.2
  · cases he

theorem ends_pure {a : α} (h : Q a) : Ends I E Q (pure a : Attempt σ α) := fun _ hs => ⟨hs, h⟩

theorem ends_fail {e : Error} (h : E e) : Ends I E Q (fail e : Attempt σ α) := fun _ hs => ⟨hs, h⟩

theorem ends_fail_bind {e : Error} {f : α → Attempt σ β} (h : E e) : Ends I E R (fail e >>= f) := fun _ hs => ⟨hs, h⟩

theorem ends_get : Ends I E I (get : Attempt σ σ) := fun _ hs => ⟨hs, hs⟩

theorem ends_modify {f : σ → σ} (h : ∀ s, I s → I (f s)) : Ends I E (fun _ => True) (modify f) :=
  fun s hs => ⟨h s hs, trivial⟩

theorem ends_ofExcept {r : Except Error α} (hq : ∀ a, r = .ok a → Q a) (he : ∀ e, r = .error e → E e) :
    Ends I E Q (ofExcept r : Attempt σ α) := by
  intro s hs
  cases r with
  | ok a => exact ⟨hs, hq a rfl⟩
  | error e => exact ⟨hs, he e rfl⟩

theorem ends_bind {x : Attempt σ α} {f : α → Attempt σ β} (hx : Ends I E Q x) (hf : ∀ a, Q a → Ends I E R (f a)) :
    Ends I E R (x >>= f) := by
  intro s hs
  have hx' := hx s hs
  rw [bind_apply]
  rcases hr : x s with ⟨_ | a, t⟩
  · rw [hr] at hx'
    exact hx'
  · rw [hr] at hx'
    exact hf a hx'.2 t hx'.1

theorem ends_onPart {part : σ → ρ} {put : σ → ρ → σ} {x : Attempt ρ α} (hx : Ends J E Q x)
    (hpart : ∀ s, I s → J (part s)) (hput : ∀ s p, I s → J p → I (put s p)) : Ends I E Q (onPart part put x) := by
  intro s hs
  have hx' := hx (part s) (hpart s hs)
  rw [onPart]
  rcases hr : x (part s) with ⟨_ | a, p⟩
  all_goals
    rw [hr] at hx'
    exact ⟨hput s p hs hx'.1, hx'.2⟩

theorem ends_ensuring {x : Attempt σ α} {f : σ → σ} (hx : Ends I E Q x) (hf : ∀ s, I s → I (f s)) :
    Ends I E Q (ensuring x f) := by
  intro s hs
  have hx' := hx s hs
  rw [ensuring]
  rcases hr : x s with ⟨_ | a, t⟩
  all_goals
    rw [hr] at hx'
    exact ⟨hf t hx'.1, hx'.2⟩

end Attempt

end HardwareWallet
