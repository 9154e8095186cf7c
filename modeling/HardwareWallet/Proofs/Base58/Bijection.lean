import HardwareWallet.Base58
import HardwareWallet.Proofs.Attempt
import HardwareWallet.Proofs.Bytes

namespace HardwareWallet.Base58

open Positional

theorem alphabet_eq : alphabet =
    ['1', '2', '3', '4', '5', '6', '7', '8', '9', 'A', 'B', 'C', 'D', 'E', 'F', 'G', 'H', 'J', 'K', 'L', 'M', 'N', 'P',
      'Q', 'R', 'S', 'T', 'U', 'V', 'W', 'X', 'Y', 'Z', 'a', 'b', 'c', 'd', 'e', 'f', 'g', 'h', 'i', 'j', 'k', 'm', 'n',
      'o', 'p', 'q', 'r', 's', 't', 'u', 'v', 'w', 'x', 'y', 'z'] := by
  delta alphabet
  exact String.toList_ofList

theorem length_alphabet : alphabet.length = 58 := by
  rw [alphabet_eq]
  rfl

theorem nodup_alphabet : alphabet.Nodup := by
  have hs : alphabet.IsChain (· < ·) := by
    rw [alphabet_eq]
    decide
  exact (List.isChain_iff_pairwise.mp hs).imp Char.ne_of_lt

variable {c : Char} {cs : List Char} {d : ℕ} {ds : List ℕ} {bs : Bytes} {text : String} {fault : Base58Fault}

theorem digit_eq_getElem (h : d < alphabet.length) : digit d = alphabet[d] := by
  rw [digit, List.getD_eq_getElem?_getD, List.getElem?_eq_getElem h, Option.getD_some]

theorem digitValue?_eq_some_iff : digitValue? c = some d ↔ d < 58 ∧ digit d = c := by
  rw [digitValue?, List.idxOf?, List.findIdx?_eq_some_iff_getElem, ← length_alphabet]
  constructor
  · rintro ⟨h, he, -⟩
    exact ⟨h, by simpa [digit_eq_getElem h] using he⟩
  · rintro ⟨h, rfl⟩
    refine ⟨h, by simp [digit_eq_getElem h], fun j hj he => ?_⟩
    rw [digit_eq_getElem h, beq_iff_eq, nodup_alphabet.getElem_inj_iff] at he
    omega

theorem digitValue?_eq_none_iff : digitValue? c = none ↔ c ∉ alphabet :=
  List.idxOf?_eq_none_iff

theorem digitValue?_digit (h : d < 58) : digitValue? (digit d) = some d :=
  digitValue?_eq_some_iff.mpr ⟨h, rfl⟩

theorem digit_mem_alphabet (h : d < 58) : digit d ∈ alphabet := by
  by_contra hc
  rw [← digitValue?_eq_none_iff, digitValue?_digit h] at hc
  cases hc

theorem exists_digit (h : c ∈ alphabet) : ∃ d, d < 58 ∧ digit d = c := by
  obtain ⟨d, hd⟩ := Option.ne_none_iff_exists'.mp (mt digitValue?_eq_none_iff.mp (not_not.mpr h))
  exact ⟨d, digitValue?_eq_some_iff.mp hd⟩

theorem digit_eq_one_iff (h : d < 58) : digit d = '1' ↔ d = 0 := by
  have h0 : digit 0 = '1' := by
    rw [digit, alphabet_eq]
    rfl
  constructor
  · intro hd
    rw [← h0] at hd
    exact Option.some.inj ((digitValue?_digit h).symm.trans (hd ▸ digitValue?_digit (by omega)))
  · rintro rfl
    exact h0

def textOf (ds : List ℕ) : String :=
  String.ofList (ds.map digit)

theorem exists_digits (h : ∀ c ∈ cs, c ∈ alphabet) : ∃ ds : List ℕ, (∀ d ∈ ds, d < 58) ∧ ds.map digit = cs := by
  induction cs with
  | nil => exact ⟨[], by simp, rfl⟩
  | cons c cs ih =>
    obtain ⟨hc, hcs⟩ := List.forall_mem_cons.mp h
    obtain ⟨d, hd, rfl⟩ := exists_digit hc
    obtain ⟨ds, hds, rfl⟩ := ih hcs
    exact ⟨d :: ds, List.forall_mem_cons.mpr ⟨hd, hds⟩, rfl⟩

theorem exists_textOf (h : ∀ c ∈ text.toList, c ∈ alphabet) : ∃ ds, (∀ d ∈ ds, d < 58) ∧ textOf ds = text := by
  obtain ⟨ds, hd, he⟩ := exists_digits h
  exact ⟨ds, hd, by rw [textOf, he, String.ofList_toList]⟩

theorem takeWhile_one (hd : ∀ d ∈ ds, d < 58) :
    ((ds.map digit).takeWhile (· = '1')).length = leadingZeros ds := by
  induction ds with
  | nil => rfl
  | cons d ds ih =>
    obtain ⟨h, hds⟩ := List.forall_mem_cons.mp hd
    rw [List.map_cons, List.takeWhile_cons, leadingZeros_cons]
    by_cases h0 : d = 0
    · simp [h0, (digit_eq_one_iff (by omega : 0 < 58)).mpr rfl, ih hds]
    · simp [h0, mt (digit_eq_one_iff h).mp h0]

theorem digits_eq (n : ℕ) : digits n = (Nat.digits 58 n).reverse.map digit := by
  refine eq_map_digits (by omega) (fun n => ?_) n
  rw [digits, dite_eq_ite]

theorem encode_eq (bs : Bytes) : encode bs = textOf (convert 256 58 (bs.map UInt8.toNat)) := by
  have h0 : '1' = digit 0 := ((digit_eq_one_iff (by omega)).mpr rfl).symm
  rw [encode, textOf, convert, spell, List.map_append, List.map_replicate, ← digits_eq, Bytes.leadingZeros_map_toNat,
    Bytes.toNat_eq_number, h0]

theorem value_map_digit (n : ℕ) (hd : ∀ d ∈ ds, d < 58) :
    value n (ds.map digit) = .ok (ds.foldl (fun n d => 58 * n + d) n) := by
  induction ds generalizing n with
  | nil => rfl
  | cons d ds ih =>
    obtain ⟨h, hds⟩ := List.forall_mem_cons.mp hd
    rw [List.map_cons, value, digitValue?_digit h]
    exact ih _ hds

theorem value_eq_error_iff (n : ℕ) :
    value n cs = .error fault ↔ ∃ c, cs.find? (· ∉ alphabet) = some c ∧ fault = .character c := by
  induction cs generalizing n with
  | nil => simp [value]
  | cons c cs ih =>
    rw [value, List.find?_cons]
    cases hc : digitValue? c with
    | none =>
      have hm : c ∉ alphabet := digitValue?_eq_none_iff.mp hc
      simp [hm, eq_comm]
    | some d =>
      have hm : c ∈ alphabet := by
        by_contra hm
        rw [digitValue?_eq_none_iff.mpr hm] at hc
        cases hc
      simpa [hm] using ih (58 * n + d)

theorem numberBytes_eq (n : ℕ) :
    numberBytes n = List.replicate (if n = 0 then 1 else 0) 0 ++ (Nat.digits 256 n).reverse.map UInt8.ofNat := by
  rw [numberBytes, Bytes.digits_eq]
  by_cases hn : n = 0 <;> simp [hn]

theorem decode_textOf (hd : ∀ d ∈ ds, d < 58) : decode (textOf ds) = .ok ((convert 58 256 ds).map UInt8.ofNat) := by
  by_cases hds : ds = []
  · subst hds
    rfl
  · have he : (textOf ds).isEmpty = false := by
      rw [← Bool.not_eq_true, String.isEmpty_iff, ← String.toList_eq_nil_iff, textOf, String.toList_ofList]
      simpa using hds
    have hl : ∀ d ∈ ds.dropLast, d < 58 := fun d h => hd d (List.mem_of_mem_dropLast h)
    rw [decode, he, if_neg Bool.false_ne_true, textOf, String.toList_ofList, value_map_digit 0 hd, ok_bind,
      ← List.map_dropLast, takeWhile_one hl]
    change Except.ok (List.replicate (leadingZeros ds.dropLast) 0 ++ numberBytes (number 58 ds)) = _
    rw [numberBytes_eq, ← List.append_assoc, ← List.replicate_add, ← leadingZeros_eq_dropLast (by omega) hds, convert,
      spell, List.map_append, List.map_replicate]
    rfl

theorem decode_encode (bs : Bytes) : decode (encode bs) = .ok bs := by
  have hb : ∀ d ∈ bs.map UInt8.toNat, d < 256 := by
    rw [List.forall_mem_map]
    exact fun b _ => b.toNat_lt
  rw [encode_eq, decode_textOf fun d => lt_of_mem_convert (by omega), convert_convert (by omega) hb,
    Bytes.map_ofNat_toNat]

theorem mem_alphabet_of_mem_encode (hc : c ∈ (encode bs).toList) : c ∈ alphabet := by
  rw [encode_eq, textOf, String.toList_ofList] at hc
  obtain ⟨d, hd, rfl⟩ := List.mem_map.mp hc
  exact digit_mem_alphabet (lt_of_mem_convert (by omega) hd)

theorem decode_eq_error_iff :
    decode text = .error fault ↔ ∃ c, text.toList.find? (· ∉ alphabet) = some c ∧ fault = .character c := by
  rw [← value_eq_error_iff 0, decode]
  by_cases he : text.isEmpty = true
  · rw [if_pos he, String.toList_eq_nil_iff.mpr (String.isEmpty_iff.mp he)]
    simp [value]
  · rw [if_neg he]
    cases value 0 text.toList with
    | error fault' =>
      constructor
      · exact fun h => congrArg Except.error (Except.error.inj h)
      · exact fun h => congrArg Except.error (Except.error.inj h)
    | ok n => exact iff_of_false nofun nofun

theorem exists_fault_iff : (∃ fault, decode text = .error fault) ↔ ∃ c ∈ text.toList, c ∉ alphabet := by
  have hf : (∃ c, text.toList.find? (· ∉ alphabet) = some c) ↔ ∃ c ∈ text.toList, c ∉ alphabet := by
    rw [← Option.isSome_iff_exists, List.find?_isSome]
    simp
  rw [← hf]
  constructor
  · rintro ⟨fault, h⟩
    obtain ⟨c, hc, -⟩ := decode_eq_error_iff.mp h
    exact ⟨c, hc⟩
  · rintro ⟨c, hc⟩
    exact ⟨.character c, decode_eq_error_iff.mpr ⟨c, hc, rfl⟩⟩

theorem exists_decode (h : ∀ c ∈ text.toList, c ∈ alphabet) : ∃ bs, decode text = .ok bs ∧ encode bs = text := by
  obtain ⟨ds, hd, rfl⟩ := exists_textOf h
  refine ⟨_, decode_textOf hd, ?_⟩
  rw [encode_eq, Bytes.map_toNat_ofNat fun d => lt_of_mem_convert (by omega), convert_convert (by omega) hd]

theorem mem_alphabet_of_decode (h : decode text = .ok bs) : ∀ c ∈ text.toList, c ∈ alphabet := by
  intro c hc
  by_contra hn
  obtain ⟨fault, hf⟩ := exists_fault_iff.mpr ⟨c, hc, hn⟩
  rw [hf] at h
  cases h

theorem decode_eq_ok_iff : decode text = .ok bs ↔ text = encode bs := by
  constructor
  · intro h
    obtain ⟨bs', hd, he⟩ := exists_decode (mem_alphabet_of_decode h)
    rw [Except.ok.inj (h.symm.trans hd), he]
  · rintro rfl
    exact decode_encode bs

/-- Every byte string is read back from its text, which is spelled with digits. Every text that is spelled with digits is the
    text of its bytes, and no other text has any. -/
theorem encode_decode_bijection (bs : Bytes) (text : String) :
    decode (encode bs) = .ok bs ∧ (∀ c ∈ (encode bs).toList, c ∈ alphabet) ∧
      ((∀ c ∈ text.toList, c ∈ alphabet) → ∃ bs, decode text = .ok bs ∧ encode bs = text) ∧
      ((∃ fault, decode text = .error fault) ↔ ∃ c ∈ text.toList, c ∉ alphabet) :=
  ⟨decode_encode bs, fun _ hc => mem_alphabet_of_mem_encode hc, exists_decode, exists_fault_iff⟩

theorem zeroBytes_bijection :
    encode [0, 0, 97, 0] = "118P9" ∧ decode "118P9" = .ok [0, 0, 97, 0] ∧
      (∀ c ∈ "1111111111".toList, c ∈ alphabet) ∧
      (∃ bs, decode "1111111111" = .ok bs ∧ encode bs = "1111111111") ∧
      ∃ fault, decode "1l" = .error fault := by
  have he : encode [0, 0, 97, 0] = "118P9" := by decide +kernel
  have h1 : "1111111111".toList = List.replicate 10 '1' := rfl
  have ha : ∀ c ∈ "1111111111".toList, c ∈ alphabet := by
    intro c hc
    rw [h1] at hc
    rw [List.eq_of_mem_replicate hc, alphabet_eq]
    decide
  have hl : 'l' ∉ alphabet := by
    rw [alphabet_eq]
    decide
  have hf : ∃ c ∈ "1l".toList, c ∉ alphabet := ⟨'l', by decide, hl⟩
  obtain ⟨hd, -, hz, -⟩ := encode_decode_bijection [0, 0, 97, 0] "1111111111"
  rw [he] at hd
  exact ⟨he, hd, ha, hz ha, (encode_decode_bijection [0, 0, 97, 0] "1l").2.2.2.mpr hf⟩

end HardwareWallet.Base58
