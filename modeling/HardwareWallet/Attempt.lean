import HardwareWallet.Error

/-!
Operations on a state that may fail. What an operation did to the state before it failed stays done.
-/

namespace HardwareWallet

def Attempt (σ α : Type) : Type :=
  σ → Except Error α × σ

namespace Attempt

variable {σ ρ α β : Type}

def fail (e : Error) : Attempt σ α :=
  fun s => (.error e, s)

def ofExcept (r : Except Error α) : Attempt σ α :=
  fun s => (r, s)

def get : Attempt σ σ :=
  fun s => (.ok s, s)

def modify (f : σ → σ) : Attempt σ Unit :=
  fun s => (.ok (), f s)

def andThen (x : Attempt σ α) (f : α → Attempt σ β) : Attempt σ β := fun s =>
  match x s with
  | (.ok a, s') => f a s'
  | (.error e, s') => (.error e, s')

instance : Monad (Attempt σ) where
  pure a := fun s => (.ok a, s)
  bind := andThen

def ensuring (x : Attempt σ α) (f : σ → σ) : Attempt σ α := fun s =>
  match x s with
  | (r, s') => (r, f s')

def onPart (part : σ → ρ) (put : σ → ρ → σ) (x : Attempt ρ α) : Attempt σ α := fun s =>
  match x (part s) with
  | (r, p) => (r, put s p)

theorem bind_apply (x : Attempt σ α) (f : α → Attempt σ β) (s : σ) :
    (x >>= f) s = match x s with
      | (.ok a, s') => f a s'
      | (.error e, s') => (.error e, s') := rfl

@[simp] theorem pure_apply (a : α) (s : σ) : (pure a : Attempt σ α) s = (.ok a, s) := rfl

end Attempt

end HardwareWallet
