import Mathlib.FieldTheory.Finite.Basic
import HardwareWallet.Proofs.Curve.Prime

namespace HardwareWallet.Curve

instance : Fact fieldPrime.Prime := ⟨fieldPrime_prime⟩

theorem fieldPrime_odd : fieldPrime % 2 = 1 := by decide

theorem two_lt_fieldPrime : 2 < fieldPrime := by decide

namespace Coordinate

def residue (a : Coordinate) : ZMod fieldPrime :=
  (a.val : ZMod fieldPrime)

theorem residue_injective : Function.Injective residue := by
  intro a b h
  have hv : a.val % fieldPrime = b.val % fieldPrime := (ZMod.natCast_eq_natCast_iff' a.val b.val fieldPrime).mp h
  rw [Nat.mod_eq_of_lt a.isLt, Nat.mod_eq_of_lt b.isLt] at hv
  exact Fin.ext hv

theorem residue_inj {a b : Coordinate} : residue a = residue b ↔ a = b :=
  residue_injective.eq_iff

@[simp] theorem residue_add (a b : Coordinate) : residue (a + b) = residue a + residue b := by
  simp only [residue, Fin.val_add, ZMod.natCast_mod, Nat.cast_add]

@[simp] theorem residue_mul (a b : Coordinate) : residue (a * b) = residue a * residue b := by
  simp only [residue, Fin.val_mul, ZMod.natCast_mod, Nat.cast_mul]

@[simp] theorem residue_ofNat (n : ℕ) :
    residue (no_index (@OfNat.ofNat Coordinate n Fin.instOfNat)) = (n : ZMod fieldPrime) := by
  have h : (@OfNat.ofNat Coordinate n Fin.instOfNat).val = n % fieldPrime := rfl
  simp only [residue, h, ZMod.natCast_mod]

@[simp] theorem residue_sub (a b : Coordinate) : residue (a - b) = residue a - residue b := by
  have h : (a - b).val = (fieldPrime - b.val + a.val) % fieldPrime := rfl
  have hb : b.val ≤ fieldPrime := Nat.le_of_lt b.isLt
  simp only [residue, h, ZMod.natCast_mod, Nat.cast_add, Nat.cast_sub hb, ZMod.natCast_self]
  ring

@[simp] theorem residue_neg (a : Coordinate) : residue (-a) = -residue a := by
  have h : (-a).val = (fieldPrime - a.val) % fieldPrime := rfl
  have ha : a.val ≤ fieldPrime := Nat.le_of_lt a.isLt
  simp only [residue, h, ZMod.natCast_mod, Nat.cast_sub ha, ZMod.natCast_self]
  ring

theorem residue_eq_zero_iff {a : Coordinate} : residue a = 0 ↔ a = 0 := by
  have h : residue 0 = 0 := (residue_ofNat 0).trans Nat.cast_zero
  rw [← h, residue_inj]

theorem residue_powerFrom (a : Coordinate) (exponent bits : ℕ) (acc : Coordinate) :
    residue (powerFrom a exponent bits acc) =
      residue acc ^ 2 ^ bits * residue a ^ (exponent % 2 ^ bits) := by
  induction bits generalizing acc with
  | zero => simp only [powerFrom, pow_one, Nat.mod_one, pow_zero, mul_one]
  | succ bits ih =>
    rw [powerFrom, ih, Nat.mod_pow_succ, Nat.testBit_eq_decide_div_mod_eq]
    rcases Nat.mod_two_eq_zero_or_one (exponent / 2 ^ bits) with hb | hb
    · simp only [hb, zero_ne_one, decide_false, Bool.false_eq_true, ↓reduceIte, residue_mul]
      ring
    · simp only [hb, decide_true, ↓reduceIte, residue_mul]
      ring

theorem residue_power (a : Coordinate) {exponent : ℕ} (he : exponent < 2 ^ 256) :
    residue (power a exponent) = residue a ^ exponent := by
  rw [power, residue_powerFrom, Nat.mod_eq_of_lt he, residue_ofNat, Nat.cast_one, one_pow, one_mul]

theorem residue_inverse (a : Coordinate) : residue (inverse a) = (residue a)⁻¹ := by
  have he : fieldPrime - 2 < 2 ^ 256 := by decide
  rw [inverse, residue_power a he]
  by_cases ha : residue a = 0
  · rw [ha, inv_zero]
    exact zero_pow (Nat.sub_ne_zero_of_lt two_lt_fieldPrime)
  · have hf : residue a ^ (fieldPrime - 1) = 1 := ZMod.pow_card_sub_one_eq_one ha
    have hs : fieldPrime - 1 = fieldPrime - 2 + 1 := by
      have := two_lt_fieldPrime
      omega
    rw [hs, pow_succ] at hf
    exact eq_inv_of_mul_eq_one_left hf

/-- The prime is three more than a multiple of four. -/
theorem residue_root {a : Coordinate} {y : ZMod fieldPrime} (h : y * y = residue a) :
    residue (root a) = y ∨ residue (root a) = -y := by
  let k := (fieldPrime + 1) / 4
  have hk : k < 2 ^ 256 := by decide
  have h4 : 2 * (k * 2) = fieldPrime - 1 + 2 := by decide
  have hy : y ^ (fieldPrime - 1 + 2) = y * y := by
    by_cases h0 : y = 0
    · rw [h0, mul_zero]
      exact zero_pow (Nat.succ_ne_zero _)
    · rw [pow_add, ZMod.pow_card_sub_one_eq_one h0, one_mul, pow_two]
  have hr : residue (root a) = residue a ^ k := residue_power a hk
  rw [← mul_self_eq_mul_self_iff, hr, ← h, ← pow_two, ← pow_two, ← pow_mul, ← pow_mul, h4, hy, pow_two]

end Coordinate

end HardwareWallet.Curve
