import HardwareWallet.Bytes

namespace HardwareWallet.Bytes

variable {c : Char} {n : Nat} {bs : Bytes}

def IsHexDigit (c : Char) : Prop :=
  c ∈ "0123456789abcdef".toList

instance (c : Char) : Decidable (IsHexDigit c) :=
  inferInstanceAs (Decidable (_ ∈ _))

theorem isHexDigit_hexDigit (h : n < 16) : IsHexDigit (hexDigit n) := by
  have hd : ∀ n < 16, IsHexDigit (hexDigit n) := by decide
  exact hd n h

theorem hexValue?_hexDigit (h : n < 16) : hexValue? (hexDigit n) = some n := by
  have hd : ∀ n < 16, hexValue? (hexDigit n) = some n := by decide
  exact hd n h

theorem isHexBlank_hexDigit (h : n < 16) : isHexBlank (hexDigit n) = false := by
  have hd : ∀ n < 16, isHexBlank (hexDigit n) = false := by decide
  exact hd n h

theorem ofHexChars?_hexChars (bs : Bytes) : ofHexChars? (hexChars bs) = some bs := by
  induction bs with
  | nil => rfl
  | cons b bs ih =>
    have hb := b.toNat_lt
    have hh : b.toNat / 16 < 16 := by omega
    have hl : b.toNat % 16 < 16 := by omega
    have hn : 16 * (b.toNat / 16) + b.toNat % 16 = b.toNat := by omega
    rw [hexChars, ofHexChars?, isHexBlank_hexDigit hh, if_neg Bool.false_ne_true, hexValue?_hexDigit hh,
      hexValue?_hexDigit hl, ih]
    simp only [Option.pure_def, Option.bind_eq_bind, Option.bind_some, hn, UInt8.ofNat_toNat]

theorem ofHex?_hex (bs : Bytes) : ofHex? (hex bs) = some bs := by
  rw [ofHex?, hex, String.toList_ofList, ofHexChars?_hexChars]

theorem isHexDigit_of_mem_hexChars (h : c ∈ hexChars bs) : IsHexDigit c := by
  induction bs with
  | nil => cases h
  | cons b bs ih =>
    have hb := b.toNat_lt
    rw [hexChars, List.mem_cons, List.mem_cons] at h
    rcases h with rfl | rfl | h
    · exact isHexDigit_hexDigit (by omega)
    · exact isHexDigit_hexDigit (by omega)
    · exact ih h

theorem isHexDigit_of_mem_hex (h : c ∈ (hex bs).toList) : IsHexDigit c := by
  rw [hex, String.toList_ofList] at h
  exact isHexDigit_of_mem_hexChars h

end HardwareWallet.Bytes
