import HardwareWallet.Curve.Key
import HardwareWallet.Proofs.Bytes
import HardwareWallet.Proofs.Curve.Multiple

namespace HardwareWallet.Curve

open Coordinate

theorem coordinate?_of_toNat {bs : Bytes} {x : Coordinate} (h : Bytes.toNat bs = x.val) :
    coordinate? bs = some x := by
  have hl : Bytes.toNat bs < fieldPrime := by
    rw [h]
    exact x.isLt
  rw [coordinate?, dif_pos hl]
  exact congrArg some (Fin.ext h)

theorem toNat_ofNat_coordinate (x : Coordinate) : Bytes.toNat (Bytes.ofNat 32 x.val) = x.val := by
  have hp : fieldPrime < 256 ^ 32 := by decide
  exact Bytes.toNat_ofNat (x.isLt.trans hp)

theorem neg_eq_of_parity {y : Coordinate} (h : (-y).val % 2 = y.val % 2) : -y = y := by
  by_cases hy : y.val = 0
  · have h0 : y = 0 := Fin.ext hy
    rw [h0]
    rfl
  · have hv : (-y).val = (fieldPrime - y.val) % fieldPrime := rfl
    have hl := y.isLt
    have ho := fieldPrime_odd
    have hm : fieldPrime - y.val < fieldPrime := by omega
    rw [hv, Nat.mod_eq_of_lt hm] at h
    exfalso
    omega

theorem lift?_eq {parity : ℕ} {bs : Bytes} {x y : Coordinate} (hx : coordinate? bs = some x)
    (hy : root (x * x * x + 7) = y) :
    lift? parity bs =
      let point := if y.val % 2 = parity then y else -y
      if onCurve x point then some (.affine x point) else none := by
  rw [lift?, hx]
  simp only [Option.bind_eq_bind, Option.bind_some, hy]

theorem lift?_of_equation {x y : Coordinate} {bs : Bytes} (hx : Bytes.toNat bs = x.val)
    (h : y * y = x * x * x + 7) : lift? (y.val % 2) bs = some (.affine x y) := by
  have hc : onCurve x y = true := decide_eq_true h
  have hr : residue (root (x * x * x + 7)) = residue y ∨ residue (root (x * x * x + 7)) = -residue y := by
    apply residue_root
    rw [← residue_mul, h]
  rw [lift?_eq (coordinate?_of_toNat hx) rfl]
  generalize root (x * x * x + 7) = r at hr ⊢
  have hp : (if r.val % 2 = y.val % 2 then r else -r) = y := by
    rcases hr with he | he
    · rw [residue_injective he, if_pos rfl]
    · rw [← residue_neg] at he
      rw [residue_injective he]
      by_cases hp : (-y).val % 2 = y.val % 2
      · rw [if_pos hp, neg_eq_of_parity hp]
      · have hn : - -y = y := residue_injective (by rw [residue_neg, residue_neg, neg_neg])
        rw [if_neg hp, hn]
  simp only [hp, hc, if_true]

theorem ofBytes?_even {bs : Bytes} (h : bs.length = 32) : Point.ofBytes? (2 :: bs) = lift? 0 bs := by
  have hl : (2 :: bs).length = 33 := by rw [List.length_cons, h]
  rw [Point.ofBytes?]
  exact hl

theorem ofBytes?_odd {bs : Bytes} (h : bs.length = 32) : Point.ofBytes? (3 :: bs) = lift? 1 bs := by
  have hl : (3 :: bs).length = 33 := by rw [List.length_cons, h]
  rw [Point.ofBytes?]
  exact hl

theorem Point.ofBytes?_compressed {p : Point} {P : curve.Point} {bs : Bytes} (h : p.Denotes P)
    (hb : p.compressed? = some bs) : Point.ofBytes? bs = some p := by
  cases h with
  | infinity => cases hb
  | @affine x y _ h =>
    have he : y * y = x * x * x + 7 := by
      apply residue_injective
      simpa only [residue_mul, residue_add, residue_ofNat, Nat.cast_ofNat] using h.equation
    have hl := lift?_of_equation (toNat_ofNat_coordinate x) he
    have hn := Bytes.length_ofNat 32 x.val
    generalize hr : Bytes.ofNat 32 x.val = rest at hl hn
    have hs : bs = (if y.val % 2 = 0 then 2 else 3) :: rest := by
      rw [← hr]
      exact (Option.some.inj hb).symm
    rcases Nat.mod_two_eq_zero_or_one y.val with hp | hp
    · rw [hs, if_pos hp, ofBytes?_even hn, ← hp]
      exact hl
    · rw [hs, if_neg (by omega), ofBytes?_odd hn, ← hp]
      exact hl

theorem publicKey_eq_ok {key point : Bytes} (h : publicKey key = .ok point) :
    isPrivateKey key = true ∧ (multiple (Bytes.toNat key)).compressed? = some point := by
  cases hp : publicKey? key with
  | none =>
    rw [publicKey, hp] at h
    cases h
  | some bs =>
    rw [publicKey, hp] at h
    obtain rfl : bs = point := Except.ok.inj h
    by_cases hk : isPrivateKey key = true
    · rw [publicKey?, if_pos hk] at hp
      exact ⟨hk, hp⟩
    · rw [publicKey?, if_neg hk] at hp
      cases hp

theorem toNat_lt_of_isPrivateKey {key : Bytes} (h : isPrivateKey key = true) : Bytes.toNat key < order := by
  simp only [isPrivateKey, Bool.and_eq_true, decide_eq_true_eq] at h
  exact h.2

theorem length_of_isPrivateKey {key : Bytes} (h : isPrivateKey key = true) : key.length = 32 := by
  simp only [isPrivateKey, Bool.and_eq_true, decide_eq_true_eq] at h
  exact h.1.1

theorem length_of_publicKey {key point : Bytes} (h : publicKey key = .ok point) : point.length = 33 := by
  obtain ⟨-, hc⟩ := publicKey_eq_ok h
  generalize multiple (Bytes.toNat key) = p at hc
  cases p with
  | infinity => cases hc
  | affine x y =>
    obtain rfl := Option.some.inj hc
    rw [List.length_cons, Bytes.length_ofNat]

theorem publicKey_add {key parent point : Bytes} {factor : ℕ} (hk : publicKey key = .ok parent) (hf : factor < order)
    (hp : publicKey (Bytes.ofNat 32 ((factor + Bytes.toNat key) % order)) = .ok point) :
    ∃ p, Point.ofBytes? parent = some p ∧ ((multiple factor).add p).compressed? = some point := by
  obtain ⟨hk, hc⟩ := publicKey_eq_ok hk
  have hkey := (toNat_lt_of_isPrivateKey hk).trans order_lt
  have hs : (factor + Bytes.toNat key) % order < 256 ^ 32 :=
    (Nat.mod_lt _ order_pos).trans (order_lt.trans_eq (by decide))
  obtain ⟨-, hc'⟩ := publicKey_eq_ok hp
  rw [Bytes.toNat_ofNat hs, ← multiple_add (hf.trans order_lt) hkey] at hc'
  exact ⟨_, Point.ofBytes?_compressed (multiple_denotes hkey) hc, hc'⟩

end HardwareWallet.Curve
