import HardwareWallet.Bytes
import HardwareWallet.Proofs.Positional

namespace HardwareWallet.Bytes

theorem toNat_append_singleton (bs : Bytes) (b : UInt8) : toNat (bs ++ [b]) = toNat bs * 256 + b.toNat := by
  rw [toNat, List.foldl_append]
  rfl

theorem toNat_ofNat {width n : ℕ} (h : n < 256 ^ width) : toNat (ofNat width n) = n := by
  induction width generalizing n with
  | zero =>
    have h0 : n = 0 := by rw [pow_zero] at h; omega
    rw [h0]
    rfl
  | succ width ih =>
    have hd : n / 256 < 256 ^ width := by
      rw [pow_succ] at h
      exact Nat.div_lt_of_lt_mul (by rwa [mul_comm] at h)
    have hb : (UInt8.ofNat (n % 256)).toNat = n % 256 := by
      rw [UInt8.toNat_ofNat']
      omega
    rw [ofNat, toNat_append_singleton, ih hd, hb]
    omega

theorem ofNat_toNat (bs : Bytes) : ofNat bs.length (toNat bs) = bs := by
  induction bs using List.reverseRecOn with
  | nil => rfl
  | append_singleton bs b ih =>
    have hb := b.toNat_lt
    have hd : (toNat bs * 256 + b.toNat) / 256 = toNat bs := by omega
    have hm : (toNat bs * 256 + b.toNat) % 256 = b.toNat := by omega
    rw [List.length_append, List.length_singleton, toNat_append_singleton, ofNat, hd, hm, ih, UInt8.ofNat_toNat]

theorem toNat_lt (bs : Bytes) : toNat bs < 256 ^ bs.length := by
  induction bs using List.reverseRecOn with
  | nil => decide
  | append_singleton bs b ih =>
    have hb := b.toNat_lt
    rw [toNat_append_singleton, List.length_append, List.length_singleton, pow_succ]
    omega

theorem toNat_eq_number (bs : Bytes) : toNat bs = Positional.number 256 (bs.map UInt8.toNat) := by
  rw [toNat, Positional.number, List.foldl_map]
  simp only [Nat.mul_comm]

theorem digits_eq (n : ℕ) : digits n = (Nat.digits 256 n).reverse.map UInt8.ofNat := by
  refine Positional.eq_map_digits (by omega) (fun n => ?_) n
  rw [digits, dite_eq_ite]

theorem map_ofNat_toNat (bs : Bytes) : (bs.map UInt8.toNat).map UInt8.ofNat = bs := by
  simp [Function.comp_def]

theorem map_toNat_ofNat {ds : List ℕ} (h : ∀ d ∈ ds, d < 256) : (ds.map UInt8.ofNat).map UInt8.toNat = ds := by
  rw [List.map_map]
  calc
    ds.map (UInt8.toNat ∘ UInt8.ofNat) = ds.map id :=
      List.map_congr_left fun d hd => UInt8.toNat_ofNat_of_lt (h d hd)
    _ = ds := List.map_id ds

theorem leadingZeros_map_toNat (bs : Bytes) :
    Positional.leadingZeros (bs.map UInt8.toNat) = (bs.takeWhile (· = 0)).length := by
  have hp : (fun b : UInt8 => decide (b.toNat = 0)) = fun b => decide (b = 0) := by
    funext b
    simp [UInt8.ext_iff]
  rw [Positional.leadingZeros, List.takeWhile_map, List.length_map]
  exact congrArg (fun p => (bs.takeWhile p).length) hp

end HardwareWallet.Bytes
