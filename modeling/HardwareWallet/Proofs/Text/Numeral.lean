import Mathlib.Data.Nat.Digits.Defs
import HardwareWallet.Text.Numeral

namespace HardwareWallet.Text

variable {c d : Char} {cs : List Char} {n : ℕ}

theorem toNat_of_isDigit (h : c.isDigit = true) : 48 ≤ c.toNat ∧ c.toNat ≤ 57 := by
  have hc : 48 ≤ c.val ∧ c.val ≤ 57 := by simpa [Char.isDigit] using h
  exact hc

theorem digitValue?_of_isDigit (h : c.isDigit = true) : digitValue? c = some (c.toNat - '0'.toNat) := by
  obtain ⟨hl, hu⟩ := toNat_of_isDigit h
  -- the script of the ASCII digits is the first one that is looked at
  have hz : digitZeros.find? (fun z => z ≤ c.toNat && c.toNat < z + 10) = some 48 := by
    refine List.find?_cons_of_pos ?_
    rw [Bool.and_eq_true, decide_eq_true_eq, decide_eq_true_eq]
    omega
  rw [digitValue?, hz]
  rfl

theorem isNumeralBlank_of_isDigit (h : c.isDigit = true) : isNumeralBlank c = false := by
  obtain ⟨hl, hu⟩ := toNat_of_isDigit h
  simp only [isNumeralBlank, Bool.or_eq_false_iff, Bool.and_eq_false_imp, decide_eq_true_eq, decide_eq_false_iff_not]
  omega

theorem ne_of_isDigit (h : c.isDigit = true) (hd : d.isDigit = false) : c ≠ d := by
  rintro rfl
  rw [h] at hd
  cases hd

theorem trimBlanks_eq_self (h : ∀ c ∈ cs, isNumeralBlank c = false) : trimBlanks cs = cs := by
  have hd (ds : List Char) (hds : ∀ c ∈ ds, isNumeralBlank c = false) : ds.dropWhile isNumeralBlank = ds := by
    cases ds with
    | nil => rfl
    | cons c ds =>
      rw [List.dropWhile_cons_of_neg]
      rw [hds c List.mem_cons_self]
      exact Bool.false_ne_true
  rw [trimBlanks, hd cs h, hd cs.reverse fun c hc => h c (List.mem_reverse.mp hc), List.reverse_reverse]

theorem readDigits?_digits (h : ∀ c ∈ cs, c.isDigit = true) (value count : ℕ) :
    readDigits? cs value count = some (Nat.ofDigitChars 10 cs value, count + cs.length) := by
  induction cs generalizing value count with
  | nil => rfl
  | cons c cs ih =>
    have hc := h c List.mem_cons_self
    -- a digit is no low line, so only the last case of the reader applies
    have hs : ∀ d rest, c = '_' → cs = d :: rest → False := fun _ _ he _ => ne_of_isDigit hc rfl he
    rw [readDigits?.eq_3 _ _ _ _ hs, digitValue?_of_isDigit hc]
    dsimp only
    rw [ih (fun d hd => h d (List.mem_cons_of_mem c hd)), Nat.ofDigitChars_cons, List.length_cons]
    congr 2
    omega

theorem readNat?_digits (h : ∀ c ∈ cs, c.isDigit = true) (hne : cs ≠ []) (hl : cs.length ≤ maxDigits) :
    readNat? cs = some (Nat.ofDigitChars 10 cs 0) := by
  cases cs with
  | nil => exact absurd rfl hne
  | cons c cs =>
    have hs : ∀ rest, c :: cs = '_' :: rest → False := fun _ he =>
      ne_of_isDigit (h c List.mem_cons_self) rfl (List.cons.inj he).1
    rw [readNat?.eq_3 _ (List.cons_ne_nil c cs) hs, readDigits?_digits h]
    dsimp only
    rw [Nat.zero_add, if_pos hl]

theorem isWritable_iff {n : ℤ} : isWritable n = true ↔ n.natAbs < 10 ^ maxDigits := by
  rw [isWritable, decide_eq_true_iff, Nat.pow_eq]

theorem lt_pow_maxDigits (h : n < 2 ^ 32) : n < 10 ^ maxDigits :=
  calc
    n < 10 ^ 10 := by omega
    _ ≤ 10 ^ maxDigits := Nat.pow_le_pow_right (by decide) (by decide)

theorem isWritable_of_lt {n : ℤ} (h : n.natAbs < 2 ^ 32) : isWritable n = true :=
  isWritable_iff.mpr (lt_pow_maxDigits h)

theorem isDigit_of_mem_toDigits (h : c ∈ Nat.toDigits 10 n) : c.isDigit = true :=
  Nat.isDigit_of_mem_toDigits (by decide) (by decide) h

theorem readNat?_toDigits (h : n < 10 ^ maxDigits) : readNat? (Nat.toDigits 10 n) = some n := by
  have hl := Nat.toDigits_length 10 n maxDigits (by decide) h
  rw [readNat?_digits (fun _ => isDigit_of_mem_toDigits) Nat.toDigits_ne_nil hl, Nat.ofDigitChars_ten_toDigits]

theorem readInt?_toDigits (h : n < 10 ^ maxDigits) : readInt? (Nat.toDigits 10 n) = some (n : ℤ) := by
  have hb : ∀ c ∈ Nat.toDigits 10 n, isNumeralBlank c = false := fun _ hc =>
    isNumeralBlank_of_isDigit (isDigit_of_mem_toDigits hc)
  have hs (sign : Char) (hs : sign.isDigit = false) : ∀ rest, Nat.toDigits 10 n = sign :: rest → False :=
    fun rest he => ne_of_isDigit (isDigit_of_mem_toDigits (he ▸ List.mem_cons_self)) hs rfl
  rw [readInt?, trimBlanks_eq_self hb]
  split
  · exact (hs '-' rfl _ ‹_›).elim
  · exact (hs '+' rfl _ ‹_›).elim
  · rw [readNat?_toDigits h]
    rfl

theorem readInt?_minus_toDigits (h : n < 10 ^ maxDigits) : readInt? ('-' :: Nat.toDigits 10 n) = some (-n : ℤ) := by
  have hb : ∀ c ∈ '-' :: Nat.toDigits 10 n, isNumeralBlank c = false := by
    intro c hc
    rcases List.mem_cons.mp hc with rfl | hc
    · rfl
    · exact isNumeralBlank_of_isDigit (isDigit_of_mem_toDigits hc)
  simp only [readInt?, trimBlanks_eq_self hb, readNat?_toDigits h]
  rfl

end HardwareWallet.Text
