import Mathlib.Data.List.TakeWhile
import Mathlib.Data.Nat.Digits.Lemmas

namespace HardwareWallet.Positional

def number (base : ℕ) (ds : List ℕ) : ℕ :=
  ds.foldl (fun n d => base * n + d) 0

def leadingZeros (ds : List ℕ) : ℕ :=
  (ds.takeWhile (· = 0)).length

def spell (base zeros n : ℕ) : List ℕ :=
  List.replicate zeros 0 ++ (Nat.digits base n).reverse

def convert (source target : ℕ) (ds : List ℕ) : List ℕ :=
  spell target (leadingZeros ds) (number source ds)

variable {base n d : ℕ} {ds : List ℕ}

theorem eq_map_digits {α : Type} {digits : ℕ → List α} {digit : ℕ → α} (hb : 1 < base)
    (hd : ∀ n, digits n = if n = 0 then [] else digits (n / base) ++ [digit (n % base)]) (n : ℕ) :
    digits n = (Nat.digits base n).reverse.map digit := by
  induction n using Nat.strong_induction_on with
  | _ n ih =>
    rw [hd]
    by_cases hn : n = 0
    · simp [hn]
    · have hp := Nat.pos_of_ne_zero hn
      rw [if_neg hn, ih (n / base) (Nat.div_lt_self hp hb), Nat.digits_def' hb hp, List.reverse_cons, List.map_append]
      rfl

theorem number_eq_ofDigits (base : ℕ) (ds : List ℕ) : number base ds = Nat.ofDigits base ds.reverse := by
  have hf : (fun n d => base * n + d) = fun n d : ℕ => d + base * n := by
    funext n d
    omega
  rw [Nat.ofDigits_eq_foldr, List.foldr_reverse, number, hf]
  rfl

theorem number_spell (base zeros n : ℕ) : number base (spell base zeros n) = n := by
  rw [number_eq_ofDigits, spell, List.reverse_append, List.reverse_reverse, List.reverse_replicate,
    Nat.ofDigits_append_replicate_zero, Nat.ofDigits_digits]

theorem leadingZeros_cons (d : ℕ) (ds : List ℕ) :
    leadingZeros (d :: ds) = if d = 0 then leadingZeros ds + 1 else 0 := by
  by_cases hd : d = 0 <;> simp [leadingZeros, hd]

theorem leadingZeros_replicate_append (zeros : ℕ) (ds : List ℕ) :
    leadingZeros (List.replicate zeros 0 ++ ds) = zeros + leadingZeros ds := by
  rw [leadingZeros, List.takeWhile_append_of_pos (by simp), List.length_append, List.length_replicate]
  rfl

theorem leadingZeros_eq_zero (h : ds.head? ≠ some 0) : leadingZeros ds = 0 := by
  cases ds with
  | nil => rfl
  | cons d ds =>
    have hd : d ≠ 0 := by simpa using h
    rw [leadingZeros_cons, if_neg hd]

theorem head?_digits_reverse (base n : ℕ) : (Nat.digits base n).reverse.head? ≠ some 0 := by
  rw [List.head?_reverse]
  by_cases hn : n = 0
  · simp [hn]
  · have hd : Nat.digits base n ≠ [] := Nat.digits_ne_nil_iff_ne_zero.mpr hn
    rw [List.getLast?_eq_some_getLast hd]
    simpa using Nat.getLast_digit_ne_zero base hn

theorem leadingZeros_spell (base zeros n : ℕ) : leadingZeros (spell base zeros n) = zeros := by
  rw [spell, leadingZeros_replicate_append, leadingZeros_eq_zero (head?_digits_reverse base n), Nat.add_zero]

theorem lt_of_mem_spell {zeros : ℕ} (hb : 1 < base) (hd : d ∈ spell base zeros n) : d < base := by
  rcases List.mem_append.mp hd with hd | hd
  · rw [List.eq_of_mem_replicate hd]
    omega
  · exact Nat.digits_lt_base hb (List.mem_reverse.mp hd)

theorem lt_of_mem_convert {source target : ℕ} (ht : 1 < target) (hd : d ∈ convert source target ds) : d < target :=
  lt_of_mem_spell ht hd

theorem eq_replicate_append (ds : List ℕ) :
    ds = List.replicate (leadingZeros ds) 0 ++ ds.dropWhile (· = 0) := by
  have hz : ds.takeWhile (· = 0) = List.replicate (leadingZeros ds) 0 := by
    apply List.eq_replicate_iff.mpr
    refine ⟨rfl, fun d hd => ?_⟩
    simpa using List.mem_takeWhile_imp hd
  rw [← hz, List.takeWhile_append_dropWhile]

theorem spell_number (hb : 1 < base) (hd : ∀ d ∈ ds, d < base) :
    spell base (leadingZeros ds) (number base ds) = ds := by
  have hr : (Nat.digits base (number base ds)).reverse = ds.dropWhile (· = 0) := by
    have hn : number base ds = Nat.ofDigits base (ds.dropWhile (· = 0)).reverse := by
      conv_lhs => rw [eq_replicate_append ds]
      rw [number_eq_ofDigits, List.reverse_append, List.reverse_replicate, Nat.ofDigits_append_replicate_zero]
    rw [hn, Nat.digits_ofDigits base hb, List.reverse_reverse]
    · intro d hm
      exact hd d (List.dropWhile_sublist _ |>.mem (List.mem_reverse.mp hm))
    · intro hne
      rw [List.getLast_reverse]
      exact of_decide_eq_false (List.head_dropWhile_not (· = 0) (by simpa using hne))
  rw [spell, hr]
  exact (eq_replicate_append ds).symm

theorem convert_convert {source target : ℕ} (hs : 1 < source) (hd : ∀ d ∈ ds, d < source) :
    convert target source (convert source target ds) = ds := by
  rw [convert, convert, leadingZeros_spell, number_spell, spell_number hs hd]

theorem number_cons (base d : ℕ) (ds : List ℕ) : number base (d :: ds) = d * base ^ ds.length + number base ds := by
  rw [number_eq_ofDigits, number_eq_ofDigits, List.reverse_cons, Nat.ofDigits_append, Nat.ofDigits_singleton,
    List.length_reverse, Nat.mul_comm, Nat.add_comm]

theorem leadingZeros_eq_dropLast (hb : 0 < base) (hds : ds ≠ []) :
    leadingZeros ds = leadingZeros ds.dropLast + if number base ds = 0 then 1 else 0 := by
  induction ds with
  | nil => exact absurd rfl hds
  | cons d ds ih =>
    by_cases hd : d = 0
    · have hn : number base (d :: ds) = number base ds := by rw [number_cons, hd, Nat.zero_mul, Nat.zero_add]
      cases ds with
      | nil => simp [hd, leadingZeros, number]
      | cons e ds =>
        rw [hn, List.dropLast_cons_cons, leadingZeros_cons, if_pos hd, leadingZeros_cons d, if_pos hd,
          ih (List.cons_ne_nil e ds)]
        omega
    · have hn : number base (d :: ds) ≠ 0 := by
        have hp := Nat.mul_pos (Nat.pos_of_ne_zero hd) (Nat.pow_pos hb (n := ds.length))
        rw [number_cons]
        omega
      rw [leadingZeros_cons, if_neg hd, if_neg hn]
      cases ds with
      | nil => rfl
      | cons e ds => rw [List.dropLast_cons_cons, leadingZeros_cons, if_neg hd]

end HardwareWallet.Positional
