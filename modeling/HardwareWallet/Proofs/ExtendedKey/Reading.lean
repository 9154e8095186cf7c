import HardwareWallet.Proofs.ExtendedKey.Serialization

/-!
What reading accepts. It looks past what follows the 78 bytes of a public key and past the byte in front of a private
one, and takes a public key that breaks off after its child number. So a key has other texts than the one that is
written for it.
-/

namespace HardwareWallet.ExtendedKey

def canonical (data : Bytes) : Bytes :=
  if isPrivateVersion (data.take 4) then data.take 45 ++ 0 :: data.drop 46 else data.take 78

def Readable (data : Bytes) : Prop :=
  isVersion (data.take 4) = true ∧
    if isPrivateVersion (data.take 4) then data.length = 78 ∧ ∃ point, Curve.publicKey (data.drop 46) = .ok point
    else 13 ≤ data.length

def fields (data : Bytes) (depth : UInt8) (privateKey : Option Bytes) (publicKey : Bytes) : ExtendedKey where
  version := data.take 4
  depth := .int depth.toNat
  parentFingerprint := (data.drop 5).take 4
  childNumber := .int (Bytes.toNat ((data.drop 9).take 4))
  chainCode := (data.drop 13).take 32
  privateKey := privateKey
  publicKey := publicKey

variable {k : ExtendedKey} {data data' : Bytes} {depth : UInt8} {s : String}

theorem parse_of_depth (hv : isVersion (data.take 4) = true) (hd : data[4]? = some depth) :
    parse data =
      if ((data.drop 9).take 4).length ≠ 4 then .error .childNumberMissing
      else if isPrivateVersion (data.take 4) then do
        let point ← Curve.publicKey (data.drop 46)
        return fields data depth (some (data.drop 46)) point
      else .ok (fields data depth none ((data.drop 45).take 33)) := by
  rw [parse]
  simp only [hv, hd, Bool.not_true, Bool.false_eq_true, if_false]
  rfl

theorem exists_depth (h : parse data = .ok k) :
    isVersion (data.take 4) = true ∧ 13 ≤ data.length ∧ ∃ depth, data[4]? = some depth := by
  by_cases hv : isVersion (data.take 4) = true
  · cases hd : data[4]? with
    | none =>
      rw [parse] at h
      simp only [hv, hd, Bool.not_true, Bool.false_eq_true, if_false] at h
      cases h
    | some depth =>
      rw [parse_of_depth hv hd] at h
      by_cases hl : ((data.drop 9).take 4).length = 4
      · rw [List.length_take, List.length_drop] at hl
        exact ⟨hv, by omega, depth, rfl⟩
      · rw [if_pos hl] at h
        cases h
  · rw [parse, Bool.eq_false_iff.mpr hv] at h
    cases h

theorem parse_of_length (hv : isVersion (data.take 4) = true) (hl : 13 ≤ data.length) (hd : data[4]? = some depth) :
    parse data =
      if isPrivateVersion (data.take 4) then do
        let point ← Curve.publicKey (data.drop 46)
        return fields data depth (some (data.drop 46)) point
      else .ok (fields data depth none ((data.drop 45).take 33)) := by
  have hc : ((data.drop 9).take 4).length = 4 := by
    rw [List.length_take, List.length_drop]
    omega
  rw [parse_of_depth hv hd, if_neg (by rwa [ne_eq, not_not])]

theorem readable_of_parse (h : parse data = .ok k) : Readable data := by
  obtain ⟨hv, hl, depth, hd⟩ := exists_depth h
  refine ⟨hv, ?_⟩
  rw [parse_of_length hv hl hd] at h
  split
  · rename_i hp
    rw [if_pos hp] at h
    obtain ⟨point, hk, -⟩ := exists_of_bind_eq_ok h
    have hn := Curve.length_of_isPrivateKey (Curve.publicKey_eq_ok hk).1
    rw [List.length_drop] at hn
    exact ⟨by omega, point, hk⟩
  · exact hl

theorem Readable.length (h : Readable data) : 13 ≤ data.length := by
  obtain ⟨-, h⟩ := h
  split at h
  · omega
  · exact h

theorem Readable.exists_parse (h : Readable data) : ∃ k, parse data = .ok k := by
  have hl := h.length
  obtain ⟨hv, h⟩ := h
  have hd : data[4]? = some data[4] := List.getElem?_eq_getElem (by omega)
  rw [parse_of_length hv hl hd]
  by_cases hp : isPrivateVersion (data.take 4) = true
  · rw [if_pos hp] at h
    obtain ⟨-, point, hk⟩ := h
    rw [if_pos hp, hk]
    exact ⟨_, rfl⟩
  · rw [if_neg hp]
    exact ⟨_, rfl⟩

theorem isPrivate_of_parse (h : parse data = .ok k) : k.isPrivate = isPrivateVersion (data.take 4) := by
  obtain ⟨hv, hl, depth, hd⟩ := exists_depth h
  rw [parse_of_length hv hl hd] at h
  split at h
  · obtain ⟨point, -, h⟩ := exists_of_bind_eq_ok h
    exact Except.ok.inj h ▸ rfl
  · exact Except.ok.inj h ▸ rfl

theorem take_eq_append (hd : data[4]? = some depth) :
    data.take 45 =
      data.take 4 ++ [depth] ++ (data.drop 5).take 4 ++ (data.drop 9).take 4 ++ (data.drop 13).take 32 := by
  have hb : [depth] = (data.drop 4).take 1 := by
    rw [List.take_one, List.head?_drop, hd]
    rfl
  rw [hb, ← List.take_add, ← List.take_add, ← List.take_add, ← List.take_add]

theorem serialize_fields (hl : 13 ≤ data.length) (hd : data[4]? = some depth) {key : Option Bytes}
    {point material : Bytes} (hm : (fields data depth key point).keyMaterial = .ok material) :
    (fields data depth key point).serialize = .ok (data.take 45 ++ material) := by
  have hn : ((data.drop 9).take 4).length = 4 := by
    rw [List.length_take, List.length_drop]
    omega
  have hb : depth.toNat < 256 := depth.toNat_lt
  have hdepth : packDepth (.int depth.toNat) = .ok [depth] := by
    rw [packDepth_nat hb, UInt8.ofNat_toNat]
  have hlt := Bytes.toNat_lt ((data.drop 9).take 4)
  have hof := Bytes.ofNat_toNat ((data.drop 9).take 4)
  rw [hn] at hlt hof
  have hi : Bytes.toNat ((data.drop 9).take 4) < 2 ^ 32 := hlt.trans_eq (by norm_num)
  have hchild : packChild (.int (Bytes.toNat ((data.drop 9).take 4))) = .ok ((data.drop 9).take 4) := by
    rw [packChild_nat hi, hof]
  rw [serialize_eq (k := fields data depth key point) hdepth hchild hm, take_eq_append hd]
  rfl

theorem serialize_of_parse (h : parse data = .ok k) : k.serialize = .ok (canonical data) := by
  obtain ⟨hv, hl, depth, hd⟩ := exists_depth h
  rw [parse_of_length hv hl hd] at h
  by_cases hp : isPrivateVersion (data.take 4) = true
  · rw [if_pos hp] at h
    obtain ⟨point, -, h⟩ := exists_of_bind_eq_ok h
    obtain rfl := Except.ok.inj h
    rw [serialize_fields hl hd (keyMaterial_of_private hp rfl), canonical, if_pos hp]
  · rw [if_neg hp] at h
    obtain rfl := Except.ok.inj h
    rw [serialize_fields hl hd (keyMaterial_of_public (Bool.eq_false_iff.mpr hp)), canonical, if_neg hp]
    exact congrArg Except.ok List.take_add.symm

theorem canonical_eq_iff (h : Readable data) :
    canonical data = data ↔ if isPrivateVersion (data.take 4) then data[45]? = some 0 else data.length ≤ 78 := by
  obtain ⟨-, h⟩ := h
  rw [canonical]
  split
  · rename_i hp
    rw [if_pos hp] at h
    have hl : 45 < data.length := by omega
    have hs : data = data.take 45 ++ data[45] :: data.drop 46 := by
      rw [← List.drop_eq_getElem_cons hl, List.take_append_drop]
    constructor
    · intro hc
      have he := List.append_cancel_left (hc.trans hs)
      rw [List.getElem?_eq_getElem hl, (List.cons.inj he).1]
    · intro hz
      rw [List.getElem?_eq_getElem hl] at hz
      rw [← Option.some.inj hz]
      exact hs.symm
  · exact List.take_eq_self_iff data

theorem parse_congr (ht : data.take 45 = data'.take 45)
    (hk : if isPrivateVersion (data.take 4) then data.drop 46 = data'.drop 46
      else (data.drop 45).take 33 = (data'.drop 45).take 33) : parse data = parse data' := by
  have part (n m : ℕ) (hn : n + m ≤ 45) : (data.drop n).take m = (data'.drop n).take m := by
    have he (l : Bytes) : (l.drop n).take m = ((l.take 45).drop n).take m := by
      rw [List.drop_take, List.take_take, Nat.min_eq_left (by omega)]
    rw [he data, he data', ht]
  have hv : data.take 4 = data'.take 4 := part 0 4 (by omega)
  have hd : data[4]? = data'[4]? := by
    rw [← List.getElem?_take_of_lt (show 4 < 45 by decide), ht, List.getElem?_take_of_lt (by decide)]
  by_cases hp : isPrivateVersion (data.take 4) = true
  · rw [if_pos hp] at hk
    rw [hv] at hp
    simp only [parse, hv, hd, part 5 4 (by omega), part 9 4 (by omega), part 13 32 (by omega), hk, hp, if_true]
  · rw [if_neg hp] at hk
    rw [hv] at hp
    simp only [parse, hv, hd, part 5 4 (by omega), part 9 4 (by omega), part 13 32 (by omega), hk, hp,
      Bool.false_eq_true, if_false]

theorem version_canonical (data : Bytes) : (canonical data).take 4 = data.take 4 := by
  rw [canonical]
  split
  · rename_i hp
    have hl : (data.take 4).length = 4 := length_of_isVersion (by rw [isVersion, hp, Bool.true_or, Bool.true_or])
    rw [List.length_take] at hl
    rw [List.take_append_of_le_length (by rw [List.length_take]; omega), List.take_take]
    rfl
  · rw [List.take_take]
    rfl

theorem parse_eq_of_canonical_eq (h : Readable data) (hc : canonical data' = canonical data) :
    parse data' = parse data := by
  have hv : data'.take 4 = data.take 4 := by rw [← version_canonical, hc, version_canonical]
  by_cases hp : isPrivateVersion (data.take 4) = true
  · have hl := h.2
    rw [if_pos hp] at hl
    rw [canonical, canonical, hv, if_pos hp, if_pos hp] at hc
    have hn := congrArg List.length hc
    simp only [List.length_append, List.length_cons, List.length_take, List.length_drop] at hn
    obtain ⟨ht, hk⟩ := List.append_inj hc (by rw [List.length_take, List.length_take]; omega)
    apply parse_congr ht
    rw [hv, if_pos hp]
    exact (List.cons.inj hk).2
  · rw [canonical, canonical, hv, if_neg hp, if_neg hp] at hc
    apply parse_congr
    · have ht := congrArg (List.take 45) hc
      rwa [List.take_take, List.take_take] at ht
    · have hk := congrArg (List.drop 45) hc
      rw [List.drop_take, List.drop_take] at hk
      rwa [hv, if_neg hp]

theorem ofText_eq_ok_iff : ofText s = .ok k ↔ ∃ data, Base58.decodeCheck s = .ok data ∧ parse data = .ok k := by
  rw [ofText]
  cases hd : Base58.decodeCheck s with
  | error fault =>
    constructor
    · intro h
      cases h
    · rintro ⟨data, h, -⟩
      cases h
  | ok data =>
    constructor
    · intro h
      exact ⟨data, rfl, h⟩
    · rintro ⟨data', h, hp⟩
      rwa [Except.ok.inj h]

theorem text_eq_given_iff (h : Base58.decodeCheck s = .ok data) (hp : parse data = .ok k) :
    k.text = .ok s ↔ canonical data = data := by
  rw [text_eq (serialize_of_parse hp), Except.ok.injEq]
  constructor
  · intro hs
    rw [← hs, Base58.decodeCheck_encodeCheck] at h
    exact Except.ok.inj h
  · intro hc
    rw [hc]
    exact (Base58.decodeCheck_eq_ok_iff.mp h).symm

theorem parse_eq_ok_iff (hp : parse data = .ok k) : parse data' = .ok k ↔ canonical data' = canonical data := by
  constructor
  · intro h
    have hs := serialize_of_parse h
    rw [serialize_of_parse hp] at hs
    exact (Except.ok.inj hs).symm
  · intro hc
    rw [parse_eq_of_canonical_eq (readable_of_parse hp) hc, hp]

/-- A text is read just if its payload is readable. The text that is written for the key is the given one just if the
    byte in front of a private key is zero and nothing follows a public one, and another text is read as the same key
    just if it differs there alone. -/
theorem text_given_iff (s : String) :
    ((∃ k, ofText s = .ok k) ↔ ∃ data, Base58.decodeCheck s = .ok data ∧ Readable data) ∧
      ∀ k, ofText s = .ok k → ∃ data, Base58.decodeCheck s = .ok data ∧ k.serialize = .ok (canonical data) ∧
        (k.text = .ok s ↔ if k.isPrivate then data[45]? = some 0 else data.length ≤ 78) ∧
        ∀ other, ofText other = .ok k ↔
          ∃ data', Base58.decodeCheck other = .ok data' ∧ canonical data' = canonical data := by
  constructor
  · constructor
    · rintro ⟨k, h⟩
      obtain ⟨data, hd, hp⟩ := ofText_eq_ok_iff.mp h
      exact ⟨data, hd, readable_of_parse hp⟩
    · rintro ⟨data, hd, hr⟩
      obtain ⟨k, hp⟩ := hr.exists_parse
      exact ⟨k, ofText_eq_ok_iff.mpr ⟨data, hd, hp⟩⟩
  · intro k h
    obtain ⟨data, hd, hp⟩ := ofText_eq_ok_iff.mp h
    refine ⟨data, hd, serialize_of_parse hp, ?_, fun other => ?_⟩
    · rw [text_eq_given_iff hd hp, canonical_eq_iff (readable_of_parse hp), isPrivate_of_parse hp]
    · rw [ofText_eq_ok_iff]
      simp only [parse_eq_ok_iff hp]

def masterPrivate (mark : UInt8) : Bytes :=
  Bytes.ofNat 45 0x0488ade4000000000000000000873dff81c02f525623fd1fe5167eac3a55a049de3d314bb42ee227ffed37d508
    ++ mark :: Bytes.ofNat 32 0xe8f32e723decf4051aefac8e2c93c9c5b214313817cdb01a1494b917c8436b35

theorem markedMaster_read_alike :
    ∃ k, ofText (Base58.encodeCheck (masterPrivate 1)) = .ok k ∧ k.text ≠ .ok (Base58.encodeCheck (masterPrivate 1)) ∧
      ofText (Base58.encodeCheck (masterPrivate 0)) = .ok k := by
  have hd := Base58.decodeCheck_encodeCheck (masterPrivate 1)
  have hp : (Curve.publicKey? ((masterPrivate 1).drop 46)).isSome = true := by decide +kernel
  obtain ⟨point, hp⟩ := Option.isSome_iff_exists.mp hp
  have hr : Readable (masterPrivate 1) := by
    refine ⟨by decide, ?_⟩
    rw [if_pos (by decide), Curve.publicKey, hp]
    exact ⟨by decide, point, rfl⟩
  obtain ⟨hread, htext⟩ := text_given_iff (Base58.encodeCheck (masterPrivate 1))
  obtain ⟨k, hk⟩ := hread.mpr ⟨_, hd, hr⟩
  obtain ⟨data, hdata, -, hs, hother⟩ := htext k hk
  obtain rfl := Except.ok.inj (hd.symm.trans hdata)
  have hv : k.isPrivate = true := by
    rw [ofText_encodeCheck] at hk
    rw [isPrivate_of_parse hk]
    decide
  refine ⟨k, hk, ?_, (hother _).mpr ⟨_, Base58.decodeCheck_encodeCheck (masterPrivate 0), by decide⟩⟩
  rw [ne_eq, hs, if_pos hv]
  decide

def masterPublic : Bytes :=
  Bytes.ofNat 45 0x0488b21e000000000000000000873dff81c02f525623fd1fe5167eac3a55a049de3d314bb42ee227ffed37d508
    ++ Bytes.ofNat 33 0x0339a36013301597daef41fbe593a02cc513d0b55527ec2df1050e2e8ff49c85c2

theorem trailedMaster_read_alike :
    ∃ k, ofText (Base58.encodeCheck (masterPublic ++ [255])) = .ok k ∧ k.text = .ok (Base58.encodeCheck masterPublic) ∧
      k.text ≠ .ok (Base58.encodeCheck (masterPublic ++ [255])) ∧ ofText (Base58.encodeCheck masterPublic) = .ok k := by
  have hr : Readable (masterPublic ++ [255]) := by
    refine ⟨by decide, ?_⟩
    rw [if_neg (by decide)]
    decide
  obtain ⟨k, hk⟩ := hr.exists_parse
  have hc : canonical (masterPublic ++ [255]) = masterPublic := by decide
  refine ⟨k, ?_, ?_, ?_, ?_⟩
  · rw [ofText_encodeCheck, hk]
  · rw [text_eq (serialize_of_parse hk), hc]
  · rw [ne_eq, text_eq_given_iff (Base58.decodeCheck_encodeCheck _) hk]
    decide
  · rw [ofText_encodeCheck, parse_eq_ok_iff hk]
    decide

end HardwareWallet.ExtendedKey
