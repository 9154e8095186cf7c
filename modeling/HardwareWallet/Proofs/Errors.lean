import HardwareWallet.Attempt

namespace HardwareWallet

variable {σ ρ α β : Type} {P : ErrorKind → Prop}

def ErrorsIn (P : ErrorKind → Prop) (r : Except Error α) : Prop :=
  ∀ e, r = .error e → P e.kind

theorem errorsIn_ok (a : α) : ErrorsIn P (.ok a) := nofun

theorem errorsIn_error {e : Error} (h : P e.kind) : ErrorsIn P (.error e : Except Error α) := by
  rintro _ ⟨⟩
  exact h

theorem errorsIn_bind {x : Except Error α} {f : α → Except Error β} (hx : ErrorsIn P x) (hf : ∀ a, ErrorsIn P (f a)) :
    ErrorsIn P (x >>= f) := by
  cases x with
  | error e => exact errorsIn_error (hx e rfl)
  | ok a => exact hf a

theorem ErrorsIn.mono {Q : ErrorKind → Prop} {r : Except Error α} (h : ErrorsIn P r) (hPQ : ∀ k, P k → Q k) :
    ErrorsIn Q r :=
  fun e he => hPQ e.kind (h e he)

theorem errorsIn_map {x : Except Error α} (hx : ErrorsIn P x) (f : α → β) : ErrorsIn P (x.map f) := by
  cases x with
  | error e => exact errorsIn_error (hx e rfl)
  | ok a => exact errorsIn_ok (f a)

theorem errorsIn_mapM {f : α → Except Error β} {as : List α} (h : ∀ a ∈ as, ErrorsIn P (f a)) :
    ErrorsIn P (as.mapM f) := by
  induction as with
  | nil => exact errorsIn_ok []
  | cons a as ih =>
    obtain ⟨ha, has⟩ := List.forall_mem_cons.mp h
    rw [List.mapM_cons]
    exact errorsIn_bind ha fun _ => errorsIn_bind (ih has) fun _ => errorsIn_ok _

namespace Attempt

def FailsIn (P : ErrorKind → Prop) (x : Attempt σ α) : Prop :=
  ∀ s, ErrorsIn P (x s).1

theorem failsIn_bind {x : Attempt σ α} {f : α → Attempt σ β} (hx : FailsIn P x) (hf : ∀ a, FailsIn P (f a)) :
    FailsIn P (x >>= f) := by
  intro s
  have hs := hx s
  rw [bind_apply]
  cases hr : x s with
  | mk r s' =>
    rw [hr] at hs
    cases r with
    | error e => exact errorsIn_error (hs e rfl)
    | ok a => exact hf a s'

end Attempt

def ErrorKind.BlamesCaller (k : ErrorKind) : Prop :=
  k = .badArgument ∨ k = .sequencing

instance (k : ErrorKind) : Decidable k.BlamesCaller :=
  inferInstanceAs (Decidable (_ ∨ _))

def Spares (r : Except Error α) : Prop :=
  ErrorsIn (fun k => ¬ k.BlamesCaller) r

def ErrorKind.IsPlain (k : ErrorKind) : Prop :=
  k ≠ .refused ∧ k ≠ .cancelled ∧ k ≠ .empty

instance (k : ErrorKind) : Decidable k.IsPlain :=
  inferInstanceAs (Decidable (_ ∧ _))

def Plain (r : Except Error α) : Prop :=
  ErrorsIn ErrorKind.IsPlain r

theorem plain_error {e : Error} (h : decide e.kind.IsPlain = true) : Plain (.error e : Except Error α) :=
  errorsIn_error (of_decide_eq_true h)

def ErrorKind.IsFault (k : ErrorKind) : Prop :=
  ¬ k.BlamesCaller ∧ k.IsPlain

instance (k : ErrorKind) : Decidable k.IsFault :=
  inferInstanceAs (Decidable (_ ∧ _))

def Faults (r : Except Error α) : Prop :=
  ErrorsIn ErrorKind.IsFault r

theorem faults_error {e : Error} (h : decide e.kind.IsFault = true) : Faults (.error e : Except Error α) :=
  errorsIn_error (of_decide_eq_true h)

theorem Faults.plain {r : Except Error α} (h : Faults r) : Plain r :=
  h.mono fun _ hk => hk.2

end HardwareWallet
