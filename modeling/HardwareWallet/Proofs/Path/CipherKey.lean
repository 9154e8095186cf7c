import HardwareWallet.Proofs.Number
import HardwareWallet.Proofs.Path.Text

namespace HardwareWallet.Path

variable {keyIndex subIndex v w : Value} {address : Path} {chain chain' : Chain} {purpose purpose' : KeyPurpose}
  {k k' s : ℤ} {m n : Number}

def IsIndex (i : ℤ) : Prop :=
  0 ≤ i ∧ i < 2 ^ 31

instance (i : ℤ) : Decidable (IsIndex i) :=
  inferInstanceAs (Decidable (_ ∧ _))

/-- What is looked at in an index, be it whole or not. A number that is not defined is let through. -/
def IsBounded (n : Number) : Prop :=
  n.lt (.whole 0) = false ∧ Number.le (.whole hardenedFlag) n = false

instance (n : Number) : Decidable (IsBounded n) :=
  inferInstanceAs (Decidable (_ ∧ _))

def cipherKey (chain : Chain) (key : ℤ) (purpose : KeyPurpose) (subIndex : Value) : Path :=
  [.int (2 ^ 31 + 44), .int (2 ^ 31 + chain.coinType), .int (2 ^ 31 + key), .int purpose.changeLevel, subIndex]

theorem isBounded_iff (h : n.whole? = some k) : IsBounded n ↔ IsIndex k := by
  rw [IsBounded, Number.lt_of_whole? h rfl, Number.le_of_whole? rfl h, decide_eq_false_iff_not, decide_eq_false_iff_not,
    not_lt, not_le]
  rfl

theorem checkIndexes_of_number? (hm : keyIndex.number? = some m) (hn : subIndex.number? = some n) :
    checkIndexes keyIndex subIndex = if IsBounded m ∧ IsBounded n then .ok () else .error .keyIndex := by
  rw [checkIndexes, Value.comparable_eq_ok_iff.mpr hm, ok_bind]
  by_cases h : m.lt (.whole 0) = true
  · -- the second index is not looked at
    rw [if_pos h, if_neg fun hb => Bool.eq_false_iff.mp hb.1.1 h]
    rfl
  · rw [if_neg h, Value.comparable_eq_ok_iff.mpr hn, ok_bind]
    have hb : (n.lt (.whole 0) || Number.le (.whole hardenedFlag) m || Number.le (.whole hardenedFlag) n) = true ↔
        ¬ (IsBounded m ∧ IsBounded n) := by
      rw [IsBounded, IsBounded, Bool.eq_false_iff.mpr h]
      cases n.lt (.whole 0) <;> simp [imp_iff_not_or]
    dsimp only
    rw [if_congr hb rfl rfl, ite_not]
    rfl

theorem exists_number?_of_checkIndexes (h : checkIndexes keyIndex subIndex = .ok ()) :
    ∃ m n, keyIndex.number? = some m ∧ subIndex.number? = some n := by
  obtain ⟨m, hm, h⟩ := exists_of_bind_eq_ok h
  split at h
  · cases h
  · obtain ⟨n, hn, -⟩ := exists_of_bind_eq_ok h
    exact ⟨m, n, Value.comparable_eq_ok_iff.mp hm, Value.comparable_eq_ok_iff.mp hn⟩

theorem checkIndexes_eq_ok_iff : checkIndexes keyIndex subIndex = .ok () ↔
    ∃ m n, keyIndex.number? = some m ∧ subIndex.number? = some n ∧ IsBounded m ∧ IsBounded n := by
  constructor
  · intro h
    obtain ⟨m, n, hm, hn⟩ := exists_number?_of_checkIndexes h
    rw [checkIndexes_of_number? hm hn] at h
    split at h
    · rename_i hb
      exact ⟨m, n, hm, hn, hb⟩
    · cases h
  · rintro ⟨m, n, hm, hn, hb⟩
    rw [checkIndexes_of_number? hm hn, if_pos hb]

theorem checkIndexes_of_int? (hk : keyIndex.int? = some k) (hs : subIndex.int? = some s) :
    checkIndexes keyIndex subIndex = if IsIndex k ∧ IsIndex s then .ok () else .error .keyIndex := by
  obtain ⟨m, hm, hmk⟩ := Option.bind_eq_some_iff.mp hk
  obtain ⟨n, hn, hns⟩ := Option.bind_eq_some_iff.mp hs
  rw [checkIndexes_of_number? hm hn]
  exact if_congr (and_congr (isBounded_iff hmk) (isBounded_iff hns)) rfl rfl

theorem IsBounded.isIndex (h : IsBounded n) (hv : v.number? = some n) (hk : v.int? = some k) : IsIndex k := by
  rw [Value.int?, hv] at hk
  exact (isBounded_iff hk).mp h

theorem hardened_of_int? (hk : v.int? = some k) (h : IsIndex k) : hardened v = .ok (.int (2 ^ 31 + k)) := by
  rw [hardened, bits, hk, ok_bind, harden_eq_add h.1 h.2, Int.add_comm]
  rfl

theorem exists_int?_of_hardened (h : hardened v = .ok w) : ∃ k, v.int? = some k := by
  obtain ⟨k, hb, -⟩ := exists_of_bind_eq_ok h
  exact ⟨k, bits_eq_ok hb⟩

theorem ofCipherKey_of_checkIndexes (h : checkIndexes keyIndex subIndex = .ok ()) (hk : keyIndex.int? = some k)
    (hi : IsIndex k) :
    ofCipherKey keyIndex (.proper purpose) subIndex chain = .ok (cipherKey chain k purpose subIndex) := by
  have hc : harden chain.coinType = 2 ^ 31 + chain.coinType := by
    cases chain <;> rfl
  rw [ofCipherKey, h, ok_bind, hardened_of_int? hk hi, ok_bind, hc]
  rfl

theorem ofCipherKey_eq_ok_iff : ofCipherKey keyIndex (.proper purpose) subIndex chain = .ok address ↔
    ∃ k n, keyIndex.int? = some k ∧ subIndex.number? = some n ∧ IsIndex k ∧ IsBounded n ∧
      address = cipherKey chain k purpose subIndex := by
  constructor
  · intro h
    obtain ⟨_, hc, hr⟩ := exists_of_bind_eq_ok h
    obtain ⟨_, hh, -⟩ := exists_of_bind_eq_ok hr
    obtain ⟨k, hk⟩ := exists_int?_of_hardened hh
    obtain ⟨m, n, hm, hn, hbm, hbn⟩ := checkIndexes_eq_ok_iff.mp hc
    have hi := hbm.isIndex hm hk
    -- the second index may be a fraction: it goes into the path as it is given
    rw [ofCipherKey_of_checkIndexes hc hk hi] at h
    exact ⟨k, n, hk, hn, hi, hbn, (Except.ok.inj h).symm⟩
  · rintro ⟨k, n, hk, hn, hi, hbn, rfl⟩
    obtain ⟨m, hm, hmk⟩ := Option.bind_eq_some_iff.mp hk
    exact ofCipherKey_of_checkIndexes (checkIndexes_eq_ok_iff.mpr ⟨m, n, hm, hn, (isBounded_iff hmk).mpr hi, hbn⟩) hk hi

theorem ofCipherKey_of_int? (hk : keyIndex.int? = some k) (hs : subIndex.int? = some s) :
    ofCipherKey keyIndex (.proper purpose) subIndex chain =
      if IsIndex k ∧ IsIndex s then .ok (cipherKey chain k purpose subIndex) else .error .keyIndex := by
  have hc := checkIndexes_of_int? hk hs
  split
  · rename_i h
    rw [if_pos h] at hc
    exact ofCipherKey_of_checkIndexes hc hk h.1
  · rename_i h
    rw [ofCipherKey, hc, if_neg h]
    rfl

theorem refused_iff (hk : keyIndex.int? = some k) (hs : subIndex.int? = some s) (purpose : KeyPurpose) (chain : Chain) :
    (∃ e, ofCipherKey keyIndex (.proper purpose) subIndex chain = .error e ∧ e.kind = .badArgument) ↔
      ¬ IsIndex k ∨ ¬ IsIndex s := by
  rw [ofCipherKey_of_int? hk hs, ← not_and_or]
  constructor
  · rintro ⟨e, he, -⟩ h
    rw [if_pos h] at he
    cases he
  · intro h
    exact ⟨.keyIndex, if_neg h, rfl⟩

structure IsKeyPath (levels : List ℤ) : Prop where
  length : levels.length = 5
  inRange : ∀ i ∈ levels, 0 ≤ i ∧ i < 2 ^ 32
  hardened : ∀ i ∈ levels.take 3, isHardened i = true
  plain : ∀ i ∈ levels.drop 3, isHardened i = false

theorem isHardened_add (h : IsIndex k) : isHardened (2 ^ 31 + k) = true := by
  obtain ⟨h0, h⟩ := h
  exact (isHardened_iff_le (by omega) (by omega)).mpr (by omega)

theorem not_isHardened (h : IsIndex k) : isHardened k = false := by
  obtain ⟨h0, h⟩ := h
  rw [← Bool.not_eq_true, isHardened_iff_le h0 (by omega)]
  omega

theorem isKeyPath {p c a l i : ℤ} (hp : IsIndex p) (hc : IsIndex c) (ha : IsIndex a) (hl : IsIndex l) (hi : IsIndex i) :
    IsKeyPath [2 ^ 31 + p, 2 ^ 31 + c, 2 ^ 31 + a, l, i] where
  length := rfl
  inRange := by
    unfold IsIndex at *
    simp only [List.forall_mem_cons, List.not_mem_nil, false_implies, implies_true, and_true]
    omega
  hardened := by
    have h : ∀ i ∈ [2 ^ 31 + p, 2 ^ 31 + c, 2 ^ 31 + a], isHardened i = true := by
      simp only [List.forall_mem_cons, isHardened_add hp, isHardened_add hc, isHardened_add ha, List.not_mem_nil,
        false_implies, implies_true, and_true]
    exact h
  plain := by
    have h : ∀ j ∈ [l, i], isHardened j = false := by
      simp only [List.forall_mem_cons, not_isHardened hl, not_isHardened hi, List.not_mem_nil, false_implies,
        implies_true, and_true]
    exact h

theorem exists_levels (chain : Chain) (purpose : KeyPurpose) (hi : IsIndex k) (hs : subIndex.int? = some s)
    (his : IsIndex s) :
    ∃ levels, (cipherKey chain k purpose subIndex).map Value.int? = levels.map some ∧ IsKeyPath levels := by
  have hc : IsIndex chain.coinType := by
    cases chain <;> decide
  have hl : IsIndex purpose.changeLevel := by
    cases purpose <;> decide
  have hp : IsIndex 44 := by decide
  refine ⟨_, ?_, isKeyPath hp hc hi hl his⟩
  simp only [cipherKey, List.map_cons, List.map_nil, hs]
  rfl

theorem agreesItems_cipherKey :
    Value.agreesItems (cipherKey chain k purpose v) (cipherKey chain' k' purpose' w) = true ↔
      chain.coinType = chain'.coinType ∧ k = k' ∧ purpose.changeLevel = purpose'.changeLevel ∧ v.agrees w = true := by
  have agrees_int {m n : ℤ} : (Value.int m).agrees (.int n) = true ↔ m = n := Value.agrees_iff_of_int? rfl rfl
  simp only [cipherKey, Value.agreesItems, Bool.and_eq_true, agrees_int, add_right_inj, Nat.cast_inj, true_and, and_true]

end HardwareWallet.Path
