import HardwareWallet.Proofs.Curve.Group

namespace HardwareWallet.Curve

open Coordinate

namespace Point

inductive Denotes : Point → curve.Point → Prop where
  | infinity : Denotes infinity 0
  | affine {x y : Coordinate} {P : curve.Point} (h : At P (residue x) (residue y)) : Denotes (affine x y) P

namespace Denotes

variable {p q : Point} {P Q : curve.Point}

theorem unique (h : p.Denotes P) (h' : q.Denotes P) : p = q := by
  cases h with
  | infinity =>
    cases h' with
    | infinity => rfl
    | affine h' => exact absurd rfl h'.ne_zero
  | affine h =>
    cases h' with
    | infinity => exact absurd rfl h.ne_zero
    | affine h' =>
      obtain ⟨hx, hy⟩ := h.unique h'
      rw [residue_injective hx, residue_injective hy]

theorem tangent {x y : Coordinate} (h : At P (residue x) (residue y)) (hy : residue y ≠ 0) :
    let slope := 3 * x * x * inverse (2 * y)
    let x' := slope * slope - x - x
    (Point.affine x' (slope * (x - x') - y)).Denotes (P + P) := by
  have hs : 3 * residue x * residue x * (2 * residue y)⁻¹ * (2 * residue y) = 3 * residue x * residue x :=
    inv_mul_cancel_right₀ (mul_ne_zero residue_two_ne_zero hy) _
  have ha := h.add_self hy hs
  constructor
  simpa only [residue_sub, residue_mul, residue_inverse, residue_ofNat, Nat.cast_ofNat] using ha

theorem chord {x₁ y₁ x₂ y₂ : Coordinate} (h : At P (residue x₁) (residue y₁)) (h' : At Q (residue x₂) (residue y₂))
    (hx : x₁ ≠ x₂) :
    let slope := (y₁ - y₂) * inverse (x₁ - x₂)
    let x' := slope * slope - x₁ - x₂
    (Point.affine x' (slope * (x₁ - x') - y₁)).Denotes (P + Q) := by
  have hd : residue x₁ - residue x₂ ≠ 0 := fun he => hx (residue_injective (sub_eq_zero.mp he))
  have hs : (residue y₁ - residue y₂) * (residue x₁ - residue x₂)⁻¹ * (residue x₁ - residue x₂) =
      residue y₁ - residue y₂ := inv_mul_cancel_right₀ hd _
  have ha := h.add_of_ne h' (sub_ne_zero.mp hd) hs
  constructor
  simpa only [residue_sub, residue_mul, residue_inverse] using ha

theorem add (h : p.Denotes P) (h' : q.Denotes Q) : (p.add q).Denotes (P + Q) := by
  cases h with
  | infinity =>
    rw [zero_add]
    exact h'
  | @affine x₁ y₁ _ h =>
    cases h' with
    | infinity =>
      rw [add_zero]
      exact .affine h
    | @affine x₂ y₂ _ h' =>
      by_cases hn : x₁ = x₂ ∧ y₁ = -y₂
      · obtain ⟨rfl, rfl⟩ := hn
        have hs : P + Q = 0 := h.add_neg (by rw [residue_neg, neg_neg]; exact h')
        have hp : (Point.affine x₁ (-y₂)).add (Point.affine x₁ y₂) = Point.infinity :=
          if_pos ⟨rfl, rfl⟩
        rw [hs, hp]
        exact .infinity
      · rw [Point.add, if_neg hn]
        by_cases hx : x₁ = x₂
        · subst hx
          have hy : y₁ = y₂ := by
            rcases h.y_eq_or h' with he | he
            · exact residue_injective he
            · rw [← residue_neg] at he
              exact absurd ⟨rfl, residue_injective he⟩ hn
          subst hy
          obtain rfl : P = Q := h.injective h'
          simp only [↓reduceIte]
          apply tangent h
          intro h0
          apply hn
          refine ⟨rfl, residue_injective ?_⟩
          rw [residue_neg, h0, neg_zero]
        · simp only [hx, ↓reduceIte]
          exact chord h h' hx

end Denotes

end Point

namespace Weighted

inductive Denotes (w : Weighted) : curve.Point → Prop where
  | infinity (hz : residue w.z = 0) : Denotes w 0
  | affine {P : curve.Point} {x y : ZMod fieldPrime} (hz : residue w.z ≠ 0)
      (hx : residue w.x = x * residue w.z ^ 2) (hy : residue w.y = y * residue w.z ^ 3) (h : At P x y) : Denotes w P

variable {w : Weighted} {P Q : curve.Point}

theorem Denotes.toPoint (h : w.Denotes P) : w.toPoint.Denotes P := by
  cases h with
  | infinity hz =>
    have hp : w.toPoint = .infinity := if_pos (residue_eq_zero_iff.mp hz)
    rw [hp]
    exact .infinity
  | @affine _ x y hz hx hy h =>
    have hz' : w.z ≠ 0 := fun h0 => hz (residue_eq_zero_iff.mpr h0)
    rw [Weighted.toPoint, if_neg hz']
    apply Point.Denotes.affine
    have hi : residue w.z * (residue w.z)⁻¹ = 1 := mul_inv_cancel₀ hz
    have hX : residue (w.x * (inverse w.z * inverse w.z)) = x := by
      simp only [residue_mul, residue_inverse, hx]
      linear_combination x * (residue w.z * (residue w.z)⁻¹ + 1) * hi
    have hY : residue (w.y * (inverse w.z * inverse w.z * inverse w.z)) = y := by
      simp only [residue_mul, residue_inverse, hy]
      linear_combination y * ((residue w.z * (residue w.z)⁻¹) ^ 2 + residue w.z * (residue w.z)⁻¹ + 1) * hi
    rw [hX, hY]
    exact h

theorem Denotes.double (h : w.Denotes P) : w.double.Denotes (P + P) := by
  have hz' : residue w.double.z = 2 * (residue w.y * residue w.z) := by
    simp only [Weighted.double, residue_mul, residue_ofNat, Nat.cast_ofNat]
  cases h with
  | infinity hz =>
    rw [add_zero]
    apply Denotes.infinity
    rw [hz', hz]
    ring
  | @affine _ x y hz hx hy h =>
    by_cases h0 : y = 0
    · subst h0
      have hs : P + P = 0 := h.add_neg (by rw [neg_zero]; exact h)
      rw [hs]
      apply Denotes.infinity
      rw [hz', hy]
      ring
    · obtain ⟨s, hs⟩ : ∃ s, s * (2 * y) = 3 * x * x :=
        ⟨_, inv_mul_cancel_right₀ (mul_ne_zero residue_two_ne_zero h0) _⟩
      have hz'' : residue w.double.z = 2 * y * residue w.z ^ 4 := by
        rw [hz', hy]
        ring
      refine .affine ?_ ?_ ?_ (h.add_self h0 hs)
      · rw [hz'']
        exact mul_ne_zero (mul_ne_zero residue_two_ne_zero h0) (pow_ne_zero 4 hz)
      · rw [hz'']
        simp only [Weighted.double, residue_mul, residue_sub, residue_ofNat, Nat.cast_ofNat, hx, hy]
        linear_combination -(residue w.z ^ 8 * (s * (2 * y) + 3 * x * x)) * hs
      · rw [hz'']
        simp only [Weighted.double, residue_mul, residue_sub, residue_ofNat, Nat.cast_ofNat, hx, hy]
        linear_combination -(residue w.z ^ 12 * (12 * x * y ^ 2 -
          ((3 * x * x) ^ 2 + 3 * x * x * (s * (2 * y)) + (s * (2 * y)) ^ 2))) * hs

theorem residue_one : residue 1 = 1 := by
  rw [residue_ofNat, Nat.cast_one]

def gap (w : Weighted) (x₂ : Coordinate) : Coordinate :=
  x₂ * (w.z * w.z) - w.x

def rise (w : Weighted) (y₂ : Coordinate) : Coordinate :=
  y₂ * (w.z * w.z * w.z) - w.y

section Affine

variable {x y : ZMod fieldPrime} {x₂ y₂ : Coordinate}

theorem residue_gap (hx : residue w.x = x * residue w.z ^ 2) :
    residue (w.gap x₂) = (residue x₂ - x) * residue w.z ^ 2 := by
  simp only [gap, residue_sub, residue_mul, hx]
  ring

theorem residue_rise (hy : residue w.y = y * residue w.z ^ 3) :
    residue (w.rise y₂) = (residue y₂ - y) * residue w.z ^ 3 := by
  simp only [rise, residue_sub, residue_mul, hy]
  ring

theorem gap_eq_zero_iff (hz : residue w.z ≠ 0) (hx : residue w.x = x * residue w.z ^ 2) :
    w.gap x₂ = 0 ↔ residue x₂ = x := by
  rw [← residue_eq_zero_iff, residue_gap hx, mul_eq_zero, or_iff_left (pow_ne_zero 2 hz), sub_eq_zero]

theorem rise_eq_zero_iff (hz : residue w.z ≠ 0) (hy : residue w.y = y * residue w.z ^ 3) :
    w.rise y₂ = 0 ↔ residue y₂ = y := by
  rw [← residue_eq_zero_iff, residue_rise hy, mul_eq_zero, or_iff_left (pow_ne_zero 3 hz), sub_eq_zero]

theorem addAffine_apart (hz : w.z ≠ 0) (hg : w.gap x₂ ≠ 0) :
    w.addAffine x₂ y₂ =
      let v := w.x * (w.gap x₂ * w.gap x₂)
      let x' := w.rise y₂ * w.rise y₂ - w.gap x₂ * w.gap x₂ * w.gap x₂ - 2 * v
      ⟨x', w.rise y₂ * (v - x') - w.y * (w.gap x₂ * w.gap x₂ * w.gap x₂), w.gap x₂ * w.z⟩ := by
  rw [addAffine, if_neg hz]
  exact if_neg hg

theorem addAffine_aligned (hz : w.z ≠ 0) (hg : w.gap x₂ = 0) :
    w.addAffine x₂ y₂ = if w.rise y₂ = 0 then w.double else infinity := by
  rw [addAffine, if_neg hz]
  exact if_pos hg

theorem denotes_addAffine_apart (hz : residue w.z ≠ 0) (hx : residue w.x = x * residue w.z ^ 2)
    (hy : residue w.y = y * residue w.z ^ 3) (h : At P x y) (hQ : At Q (residue x₂) (residue y₂))
    (hne : residue x₂ ≠ x) : (w.addAffine x₂ y₂).Denotes (P + Q) := by
  have hz' : w.z ≠ 0 := fun h0 => hz (residue_eq_zero_iff.mpr h0)
  have hg : w.gap x₂ ≠ 0 := mt (gap_eq_zero_iff hz hx).mp hne
  obtain ⟨s, hs⟩ : ∃ s, s * (x - residue x₂) = y - residue y₂ :=
    ⟨_, inv_mul_cancel_right₀ (sub_ne_zero.mpr hne.symm) _⟩
  have hw : residue (w.addAffine x₂ y₂).z = (residue x₂ - x) * residue w.z ^ 3 := by
    rw [addAffine_apart hz' hg]
    simp only [residue_mul, residue_gap hx]
    ring
  refine .affine ?_ ?_ ?_ (h.add_of_ne hQ hne.symm hs)
  · rw [hw]
    exact mul_ne_zero (sub_ne_zero.mpr hne) (pow_ne_zero 3 hz)
  · rw [hw, addAffine_apart hz' hg]
    simp only [residue_mul, residue_sub, residue_ofNat, Nat.cast_ofNat, residue_gap hx, residue_rise hy, hx]
    linear_combination -(residue w.z ^ 6 * (s * (x - residue x₂) + (y - residue y₂))) * hs
  · rw [hw, addAffine_apart hz' hg]
    simp only [residue_mul, residue_sub, residue_ofNat, Nat.cast_ofNat, residue_gap hx, residue_rise hy, hx, hy]
    linear_combination residue w.z ^ 9 * ((residue x₂ - x) ^ 2 * (2 * x + residue x₂) -
      ((residue y₂ - y) ^ 2 + (residue y₂ - y) * (s * (residue x₂ - x)) + (s * (residue x₂ - x)) ^ 2)) * hs

theorem Denotes.addAffine (h : w.Denotes P) (hQ : At Q (residue x₂) (residue y₂)) :
    (w.addAffine x₂ y₂).Denotes (P + Q) := by
  have hd := h.double
  cases h with
  | infinity hz =>
    have ha : w.addAffine x₂ y₂ = ⟨x₂, y₂, 1⟩ := if_pos (residue_eq_zero_iff.mp hz)
    rw [ha, zero_add]
    refine .affine ?_ ?_ ?_ hQ
    · rw [residue_one]
      exact one_ne_zero
    · rw [residue_one, one_pow, mul_one]
    · rw [residue_one, one_pow, mul_one]
  | @affine _ x y hz hx hy h =>
    by_cases he : residue x₂ = x
    · subst he
      have hz' : w.z ≠ 0 := fun h0 => hz (residue_eq_zero_iff.mpr h0)
      rw [addAffine_aligned hz' ((gap_eq_zero_iff hz hx).mpr rfl)]
      by_cases he : residue y₂ = y
      · subst he
        obtain rfl : P = Q := h.injective hQ
        rw [if_pos ((rise_eq_zero_iff hz hy).mpr rfl)]
        exact hd
      · have hn : residue y₂ = -y := (hQ.y_eq_or h).resolve_left he
        have hs : P + Q = 0 := h.add_neg (hn ▸ hQ)
        rw [if_neg (mt (rise_eq_zero_iff hz hy).mp he), hs]
        exact .infinity (residue_eq_zero_iff.mpr rfl)
    · exact denotes_addAffine_apart hz hx hy h hQ he

end Affine

theorem Denotes.multipleFrom {x y : Coordinate} (hQ : At Q (residue x) (residue y)) (factor bits : ℕ)
    (h : w.Denotes P) : (multipleFrom x y factor bits w).Denotes (2 ^ bits • P + (factor % 2 ^ bits) • Q) := by
  induction bits generalizing w P with
  | zero =>
    rw [pow_zero, one_nsmul, Nat.mod_one, zero_nsmul, add_zero]
    exact h
  | succ bits ih =>
    rw [Weighted.multipleFrom, Nat.mod_pow_succ, Nat.testBit_eq_decide_div_mod_eq]
    rcases Nat.mod_two_eq_zero_or_one (factor / 2 ^ bits) with hb | hb
    · have hs : 2 ^ (bits + 1) • P + (factor % 2 ^ bits + 2 ^ bits * 0) • Q =
          2 ^ bits • (P + P) + (factor % 2 ^ bits) • Q := by
        rw [mul_zero, add_zero, pow_succ, mul_nsmul, two_nsmul, nsmul_add]
      simp only [hb, zero_ne_one, decide_false, Bool.false_eq_true, ↓reduceIte]
      rw [hs]
      exact ih h.double
    · have hs : 2 ^ (bits + 1) • P + (factor % 2 ^ bits + 2 ^ bits * 1) • Q =
          2 ^ bits • (P + P + Q) + (factor % 2 ^ bits) • Q := by
        rw [mul_one, pow_succ, mul_nsmul, two_nsmul, nsmul_add, nsmul_add, add_nsmul]
        abel
      simp only [hb, decide_true, ↓reduceIte]
      rw [hs]
      exact ih (h.double.addAffine hQ)

end Weighted

theorem generator_equation :
    residue generatorY * residue generatorY = residue generatorX * residue generatorX * residue generatorX + 7 := by
  have h : generatorY * generatorY = generatorX * generatorX * generatorX + 7 := by decide +kernel
  have hr := congrArg residue h
  simpa only [residue_mul, residue_add, residue_ofNat, Nat.cast_ofNat] using hr

def generator : curve.Point :=
  .some (residue generatorX) (residue generatorY) (nonsingular_iff.mpr generator_equation)

theorem multiple_denotes {k : ℕ} (hk : k < 2 ^ 256) : (multiple k).Denotes (k • generator) := by
  have hg : At generator (residue generatorX) (residue generatorY) := ⟨_, rfl⟩
  have hi : Weighted.infinity.Denotes 0 := .infinity (residue_eq_zero_iff.mpr rfl)
  have h := (hi.multipleFrom hg k 256).toPoint
  rw [nsmul_zero, zero_add, Nat.mod_eq_of_lt hk] at h
  exact h

theorem order_pos : 0 < order := by decide

theorem order_lt : order < 2 ^ 256 := by decide

theorem order_nsmul_generator : order • generator = 0 := by
  have h := multiple_denotes order_lt
  have hi : multiple order = .infinity := by decide +kernel
  rw [hi] at h
  generalize order • generator = P at h
  cases h
  rfl

theorem multiple_add {a b : ℕ} (ha : a < 2 ^ 256) (hb : b < 2 ^ 256) :
    (multiple a).add (multiple b) = multiple ((a + b) % order) := by
  have hm : (a + b) % order < 2 ^ 256 := (Nat.mod_lt _ order_pos).trans order_lt
  have hs : ((a + b) % order) • generator = a • generator + b • generator := by
    have hd : a + b = (a + b) % order + (a + b) / order * order := (Nat.mod_add_div' _ _).symm
    calc ((a + b) % order) • generator
        = ((a + b) % order) • generator + ((a + b) / order * order) • generator := by
          rw [mul_nsmul', order_nsmul_generator, nsmul_zero, add_zero]
      _ = (a + b) • generator := by rw [← add_nsmul, ← hd]
      _ = a • generator + b • generator := add_nsmul generator a b
  have h := (multiple_denotes ha).add (multiple_denotes hb)
  rw [← hs] at h
  exact h.unique (multiple_denotes hm)

end HardwareWallet.Curve
