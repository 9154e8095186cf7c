import Mathlib.AlgebraicGeometry.EllipticCurve.Affine.Point
import Mathlib.Tactic.LinearCombination
import HardwareWallet.Proofs.Curve.Field

namespace HardwareWallet.Curve

open Coordinate WeierstrassCurve

theorem natCast_ne_zero {n : ℕ} (h : n % fieldPrime ≠ 0) : (n : ZMod fieldPrime) ≠ 0 := by
  intro hn
  exact h (Nat.mod_eq_zero_of_dvd ((ZMod.natCast_eq_zero_iff n fieldPrime).mp hn))

theorem residue_two_ne_zero : (2 : ZMod fieldPrime) ≠ 0 := by
  have h : ((2 : ℕ) : ZMod fieldPrime) ≠ 0 := natCast_ne_zero (by decide)
  exact_mod_cast h

def curve : Affine (ZMod fieldPrime) :=
  ⟨0, 0, 0, 0, 7⟩

theorem equation_iff {x y : ZMod fieldPrime} : curve.Equation x y ↔ y * y = x * x * x + 7 := by
  rw [Affine.equation_iff]
  simp only [curve]
  constructor
  · intro h
    linear_combination h
  · intro h
    linear_combination h

theorem nonsingular_iff {x y : ZMod fieldPrime} : curve.Nonsingular x y ↔ y * y = x * x * x + 7 := by
  have hd : curve.Δ = -((21168 : ℕ) : ZMod fieldPrime) := by
    simp only [Δ, b₂, b₄, b₆, b₈, curve]
    push_cast
    ring
  have hn : curve.Δ ≠ 0 := by
    rw [hd]
    exact neg_ne_zero.mpr (natCast_ne_zero (by decide))
  rw [← equation_iff]
  exact (Affine.equation_iff_nonsingular_of_Δ_ne_zero hn).symm

theorem negY_eq (x y : ZMod fieldPrime) : curve.negY x y = -y := by
  simp only [Affine.negY, curve]
  ring

theorem addX_eq (x₁ x₂ s : ZMod fieldPrime) : curve.addX x₁ x₂ s = s * s - x₁ - x₂ := by
  simp only [Affine.addX, curve]
  ring

theorem addY_eq (x₁ x₂ y₁ s : ZMod fieldPrime) :
    curve.addY x₁ x₂ y₁ s = s * (x₁ - (s * s - x₁ - x₂)) - y₁ := by
  simp only [Affine.addY, Affine.negAddY, negY_eq, addX_eq]
  ring

def At (P : curve.Point) (x y : ZMod fieldPrime) : Prop :=
  ∃ h, P = .some x y h

namespace At

variable {P Q : curve.Point} {x y x₁ y₁ x₂ y₂ : ZMod fieldPrime}

theorem equation (h : At P x y) : y * y = x * x * x + 7 := by
  obtain ⟨h, -⟩ := h
  exact nonsingular_iff.mp h

theorem ne_zero (h : At P x y) : P ≠ 0 := by
  obtain ⟨h, rfl⟩ := h
  exact Affine.Point.some_ne_zero h

theorem unique (h : At P x₁ y₁) (h' : At P x₂ y₂) : x₁ = x₂ ∧ y₁ = y₂ := by
  obtain ⟨h₁, rfl⟩ := h
  obtain ⟨h₂, he⟩ := h'
  exact Affine.Point.some.inj he

theorem injective (h : At P x y) (h' : At Q x y) : P = Q := by
  obtain ⟨h₁, rfl⟩ := h
  obtain ⟨h₂, rfl⟩ := h'
  rfl

theorem add_neg (h : At P x y) (h' : At Q x (-y)) : P + Q = 0 := by
  obtain ⟨h₁, rfl⟩ := h
  obtain ⟨h₂, rfl⟩ := h'
  exact Affine.Point.add_of_Y_eq rfl (by rw [negY_eq, neg_neg])

theorem y_eq_or (h : At P x y₁) (h' : At Q x y₂) : y₁ = y₂ ∨ y₁ = -y₂ := by
  rw [← mul_self_eq_mul_self_iff, h.equation, h'.equation]

theorem add_of_ne (h : At P x₁ y₁) (h' : At Q x₂ y₂) (hx : x₁ ≠ x₂) {s : ZMod fieldPrime}
    (hs : s * (x₁ - x₂) = y₁ - y₂) :
    At (P + Q) (s * s - x₁ - x₂) (s * (x₁ - (s * s - x₁ - x₂)) - y₁) := by
  obtain ⟨h₁, rfl⟩ := h
  obtain ⟨h₂, rfl⟩ := h'
  have hl : curve.slope x₁ x₂ y₁ y₂ = s := by
    rw [Affine.slope_of_X_ne hx, ← hs]
    exact mul_div_cancel_right₀ s (sub_ne_zero.mpr hx)
  rw [Affine.Point.add_of_X_ne hx]
  simp only [hl, addX_eq, addY_eq]
  exact ⟨_, rfl⟩

theorem add_self (h : At P x y) (hy : y ≠ 0) {s : ZMod fieldPrime} (hs : s * (2 * y) = 3 * x * x) :
    At (P + P) (s * s - x - x) (s * (x - (s * s - x - x)) - y) := by
  obtain ⟨h₁, rfl⟩ := h
  have hn : y ≠ curve.negY x y := by
    rw [negY_eq]
    intro he
    have hd : 2 * y = 0 := by linear_combination he
    exact hy ((mul_eq_zero.mp hd).resolve_left residue_two_ne_zero)
  have hl : curve.slope x x y y = s := by
    rw [Affine.slope_of_Y_ne rfl hn, negY_eq]
    have hd : y - -y ≠ 0 := by
      intro he
      exact hn (by rw [negY_eq]; linear_combination he)
    rw [div_eq_iff hd]
    simp only [curve]
    linear_combination -hs
  rw [Affine.Point.add_self_of_Y_ne hn]
  simp only [hl, addX_eq, addY_eq]
  exact ⟨_, rfl⟩

end At

end HardwareWallet.Curve
