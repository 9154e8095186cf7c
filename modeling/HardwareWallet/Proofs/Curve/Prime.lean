import Mathlib.Data.List.Prime
import Mathlib.NumberTheory.LucasPrimality
import Mathlib.Tactic.NormNum.Prime
import Mathlib.Tactic.ReduceModChar
import HardwareWallet.Curve.Point

/-!
The coordinates of the curve are taken modulo a prime. A number is prime if there is a primitive root modulo it, which
is told from the prime factors of the number before it, and these are shown to be prime in the same way.
-/

namespace HardwareWallet.Curve

theorem ofNat_ne_one {m n : ℕ} [m.AtLeastTwo] (h : m % n ≠ 1 % n) : (OfNat.ofNat m : ZMod n) ≠ 1 := by
  intro he
  have hc : ((m : ℕ) : ZMod n) = ((1 : ℕ) : ZMod n) := by
    rw [Nat.cast_one, ← he]
    exact (Nat.cast_ofNat (R := ZMod n)).symm
  exact h ((ZMod.natCast_eq_natCast_iff' m 1 n).mp hc)

theorem prime_of_root (n root : ℕ) (factors : List ℕ) (hn : n - 1 ∣ factors.prod ^ 7)
    (hroot : (root : ZMod n) ^ (n - 1) = 1) (hf : ∀ f ∈ factors, f.Prime)
    (hr : ∀ f ∈ factors, (root : ZMod n) ^ ((n - 1) / f) ≠ 1) : n.Prime := by
  apply lucas_primality n root hroot
  intro q hq hd
  have hp : q ∣ factors.prod := hq.dvd_of_dvd_pow (hd.trans hn)
  obtain ⟨f, hm, hqf⟩ := (Prime.dvd_prod_iff hq.prime).mp hp
  have he : q = f := (Nat.prime_dvd_prime_iff_eq hq (hf f hm)).mp hqf
  rw [he]
  exact hr f hm

theorem prime_58bits : Nat.Prime 173378833005251801 := by
  apply prime_of_root _ 6 [2, 5, 2621, 24809, 13331831]
  · norm_num
  · norm_num
    reduce_mod_char
  · simp only [List.forall_mem_cons, List.not_mem_nil, false_imp_iff, implies_true, and_true]
    norm_num
  · simp only [List.forall_mem_cons, List.not_mem_nil, false_imp_iff, implies_true, and_true]
    refine ⟨?_, ?_, ?_, ?_, ?_⟩
    all_goals
      norm_num
      reduce_mod_char
      exact ofNat_ne_one (by norm_num)

theorem prime_75bits : Nat.Prime 22149492674086928081353 := by
  apply prime_of_root _ 5 [2, 3, 5323, 173378833005251801]
  · norm_num
  · norm_num
    reduce_mod_char
  · simp only [List.forall_mem_cons, List.not_mem_nil, false_imp_iff, implies_true, and_true]
    exact ⟨by norm_num, by norm_num, by norm_num, prime_58bits⟩
  · simp only [List.forall_mem_cons, List.not_mem_nil, false_imp_iff, implies_true, and_true]
    refine ⟨?_, ?_, ?_, ?_⟩
    all_goals
      norm_num
      reduce_mod_char
      exact ofNat_ne_one (by norm_num)

theorem prime_77bits : Nat.Prime 132896956044521568488119 := by
  apply prime_of_root _ 6 [2, 3, 22149492674086928081353]
  · norm_num
  · norm_num
    reduce_mod_char
  · simp only [List.forall_mem_cons, List.not_mem_nil, false_imp_iff, implies_true, and_true]
    exact ⟨by norm_num, by norm_num, prime_75bits⟩
  · simp only [List.forall_mem_cons, List.not_mem_nil, false_imp_iff, implies_true, and_true]
    refine ⟨?_, ?_, ?_⟩
    all_goals
      norm_num
      reduce_mod_char
      exact ofNat_ne_one (by norm_num)

theorem prime_128bits : Nat.Prime 255515944373312847190720520512484175977 := by
  apply prime_of_root _ 3 [2, 7, 11, 1627, 2657, 4423, 41201, 96557, 7240687, 107590001]
  · norm_num
  · norm_num
    reduce_mod_char
  · simp only [List.forall_mem_cons, List.not_mem_nil, false_imp_iff, implies_true, and_true]
    norm_num
  · simp only [List.forall_mem_cons, List.not_mem_nil, false_imp_iff, implies_true, and_true]
    refine ⟨?_, ?_, ?_, ?_, ?_, ?_, ?_, ?_, ?_, ?_⟩
    all_goals
      norm_num
      reduce_mod_char
      exact ofNat_ne_one (by norm_num)

theorem prime_237bits : Nat.Prime 205115282021455665897114700593932402728804164701536103180137503955397371 := by
  apply prime_of_root _ 10 [2, 3, 5, 29, 31, 7723, 132896956044521568488119, 255515944373312847190720520512484175977]
  · norm_num
  · norm_num
    reduce_mod_char
  · simp only [List.forall_mem_cons, List.not_mem_nil, false_imp_iff, implies_true, and_true]
    exact ⟨by norm_num, by norm_num, by norm_num, by norm_num, by norm_num, by norm_num, prime_77bits, prime_128bits⟩
  · simp only [List.forall_mem_cons, List.not_mem_nil, false_imp_iff, implies_true, and_true]
    refine ⟨?_, ?_, ?_, ?_, ?_, ?_, ?_, ?_⟩
    all_goals
      norm_num
      reduce_mod_char
      exact ofNat_ne_one (by norm_num)

theorem fieldPrime_prime : fieldPrime.Prime := by
  unfold fieldPrime
  apply prime_of_root _ 3 [2, 3, 7, 13441, 205115282021455665897114700593932402728804164701536103180137503955397371]
  · norm_num
  · norm_num
    reduce_mod_char
  · simp only [List.forall_mem_cons, List.not_mem_nil, false_imp_iff, implies_true, and_true]
    exact ⟨by norm_num, by norm_num, by norm_num, by norm_num, prime_237bits⟩
  · simp only [List.forall_mem_cons, List.not_mem_nil, false_imp_iff, implies_true, and_true]
    refine ⟨?_, ?_, ?_, ?_, ?_⟩
    all_goals
      norm_num
      reduce_mod_char
      exact ofNat_ne_one (by norm_num)

end HardwareWallet.Curve
