import HardwareWallet.Proofs.Base58.Checked
import HardwareWallet.Proofs.ExtendedKey.Neuter

namespace HardwareWallet.ExtendedKey

def Public (k : ExtendedKey) : Prop :=
  k.isPrivate = false ∧ k.privateKey = none ∧ k.publicKey.length = 33

structure Packable (k : ExtendedKey) : Prop where
  version : isVersion k.version = true
  depth : ∃ d : ℕ, d < 256 ∧ k.depth = .int d
  parentFingerprint : k.parentFingerprint.length = 4
  childNumber : ∃ i : ℕ, i < 2 ^ 32 ∧ k.childNumber = .int i
  chainCode : k.chainCode.length = 32
  keys : k.Paired ∨ k.Public

variable {k : ExtendedKey}

theorem publicVersion_isVersion (testnet : Bool) : isVersion (publicVersion testnet) = true := by
  cases testnet
  · decide
  · decide

theorem Paired.packable_neuter (hk : k.Paired) (h : k.Packable) : k.neuter.Packable := by
  obtain ⟨-, key, -, hp⟩ := hk
  exact ⟨publicVersion_isVersion k.isTestnet, h.depth, h.parentFingerprint, h.childNumber, h.chainCode,
    .inr ⟨k.neuter_isPublic, rfl, Curve.length_of_publicKey hp⟩⟩

theorem length_of_isVersion {version : Bytes} (h : isVersion version = true) : version.length = 4 := by
  simp only [isVersion, isPrivateVersion, Bool.or_eq_true, decide_eq_true_eq] at h
  rcases h with ((rfl | rfl) | rfl) | rfl <;> rfl

theorem packDepth_nat {d : ℕ} (h : d < 256) : packDepth (.int d) = .ok [UInt8.ofNat d] := by
  have hd : (0 : ℤ) ≤ d ∧ (d : ℤ) < 256 := by omega
  have hp : packDepth (.int d) = if (0 : ℤ) ≤ d ∧ (d : ℤ) < 256 then .ok (Bytes.ofNat 1 (d : ℤ).toNat)
    else .error .depthRange := rfl
  rw [hp, if_pos hd, Int.toNat_natCast, Bytes.ofNat, Nat.mod_eq_of_lt h]
  rfl

theorem packChild_nat {i : ℕ} (h : i < 2 ^ 32) : packChild (.int i) = .ok (Bytes.ofNat 4 i) := by
  have hc : Path.isChildNumber i = true := by
    rw [Path.isChildNumber, Bool.and_eq_true, decide_eq_true_eq, decide_eq_true_eq]
    omega
  have hp : packChild (.int i) = if Path.isChildNumber i then .ok (Bytes.ofNat 4 (i : ℤ).toNat)
    else .error (.childNumberRange i) := rfl
  rw [hp, if_pos hc, Int.toNat_natCast]

theorem parse_cons (v0 v1 v2 v3 depth p0 p1 p2 p3 i0 i1 i2 i3 : UInt8) (rest : Bytes) :
    parse (v0 :: v1 :: v2 :: v3 :: depth :: p0 :: p1 :: p2 :: p3 :: i0 :: i1 :: i2 :: i3 :: rest) =
      let version := [v0, v1, v2, v3]
      let build := ExtendedKey.mk version (.int depth.toNat) [p0, p1, p2, p3] (.int (Bytes.toNat [i0, i1, i2, i3]))
        (rest.take 32)
      if !isVersion version then .error (.keyVersion version)
      else if isPrivateVersion version then do
        let point ← Curve.publicKey (rest.drop 33)
        return build (some (rest.drop 33)) point
      else .ok (build none ((rest.drop 32).take 33)) :=
  rfl

theorem parse_append {version parent child chainCode material : Bytes} {depth : UInt8} (hv : isVersion version = true)
    (hp : parent.length = 4) (hi : child.length = 4) (hc : chainCode.length = 32) :
    parse (version ++ [depth] ++ parent ++ child ++ chainCode ++ material) =
      let build := ExtendedKey.mk version (.int depth.toNat) parent (.int (Bytes.toNat child)) chainCode
      if isPrivateVersion version then do
        let point ← Curve.publicKey (material.drop 1)
        return build (some (material.drop 1)) point
      else .ok (build none (material.take 33)) := by
  have hdrop : (chainCode ++ material).drop 33 = material.drop 1 := by
    calc
      (chainCode ++ material).drop 33 = ((chainCode ++ material).drop 32).drop 1 := by rw [List.drop_drop]
      _ = material.drop 1 := by rw [List.drop_left' hc]
  -- the fields before the chain code are taken apart, so that the places of their bytes compute
  obtain ⟨v0, v1, v2, v3, rfl⟩ := List.length_eq_four.mp (length_of_isVersion hv)
  obtain ⟨p0, p1, p2, p3, rfl⟩ := List.length_eq_four.mp hp
  obtain ⟨i0, i1, i2, i3, rfl⟩ := List.length_eq_four.mp hi
  simp only [List.cons_append, List.nil_append, parse_cons, List.take_left' hc, List.drop_left' hc, hdrop, hv,
    Bool.not_true, Bool.false_eq_true, if_false]

theorem serialize_eq {depth child material : Bytes} (hd : packDepth k.depth = .ok depth)
    (hi : packChild k.childNumber = .ok child) (hm : k.keyMaterial = .ok material) :
    k.serialize = .ok (k.version ++ depth ++ k.parentFingerprint ++ child ++ k.chainCode ++ material) := by
  rw [serialize, hd, hi, hm]
  rfl

theorem keyMaterial_of_private {key : Bytes} (hv : k.isPrivate = true) (hk : k.privateKey = some key) :
    k.keyMaterial = .ok (0 :: key) := by
  rw [keyMaterial, if_pos hv, hk]

theorem keyMaterial_of_public (hv : k.isPrivate = false) : k.keyMaterial = .ok k.publicKey := by
  rw [keyMaterial, hv]
  rfl

theorem exists_keyMaterial (h : k.Paired ∨ k.Public) :
    ∃ material, k.keyMaterial = .ok material ∧ material.length = 33 ∧
      ∀ build : Option Bytes → Bytes → ExtendedKey,
        (if k.isPrivate then do
          let point ← Curve.publicKey (material.drop 1)
          return build (some (material.drop 1)) point
        else .ok (build none (material.take 33))) = (.ok (build k.privateKey k.publicKey) : Except Error ExtendedKey) := by
  rcases h with ⟨hv, key, hk, hp⟩ | ⟨hv, hk, hp⟩
  · refine ⟨0 :: key, keyMaterial_of_private hv hk, ?_, fun build => ?_⟩
    · rw [List.length_cons, Curve.length_of_isPrivateKey (Curve.publicKey_eq_ok hp).1]
    · rw [if_pos hv, List.drop_one, List.tail_cons, hp, hk, ok_bind]
      rfl
  · refine ⟨k.publicKey, keyMaterial_of_public hv, hp, fun build => ?_⟩
    rw [hv, hk, List.take_of_length_le hp.le]
    rfl

theorem Packable.exists_serialize (h : k.Packable) :
    ∃ data, k.serialize = .ok data ∧ data.length = 78 ∧ parse data = .ok k := by
  obtain ⟨d, hd, hdepth⟩ := h.depth
  obtain ⟨i, hi, hchild⟩ := h.childNumber
  obtain ⟨material, hm, hl, hbuild⟩ := exists_keyMaterial h.keys
  have hn : (Bytes.ofNat 4 i).length = 4 := Bytes.length_ofNat 4 i
  refine ⟨_, serialize_eq (hdepth ▸ packDepth_nat hd) (hchild ▸ packChild_nat hi) hm, ?_, ?_⟩
  · simp only [List.length_append, List.length_singleton, length_of_isVersion h.version, h.parentFingerprint, hn,
      h.chainCode, hl]
  · rw [parse_append h.version h.parentFingerprint hn h.chainCode]
    refine (hbuild _).trans ?_
    rw [UInt8.toNat_ofNat_of_lt' hd, Bytes.toNat_ofNat (hi.trans_eq (by norm_num)), ← hdepth, ← hchild]

theorem text_eq {data : Bytes} (h : k.serialize = .ok data) : k.text = .ok (Base58.encodeCheck data) := by
  rw [text, h]
  rfl

theorem ofText_encodeCheck (data : Bytes) : ofText (Base58.encodeCheck data) = parse data := by
  rw [ofText, Base58.decodeCheck_encodeCheck]

/-- A key whose fields fill their places is read back from its 78 bytes and from its text, and no other such key has that
    text. -/
theorem serialization_round_trip (h : k.Packable) :
    ∃ data text, k.serialize = .ok data ∧ data.length = 78 ∧ parse data = .ok k ∧
      k.text = .ok text ∧ ofText text = .ok k ∧ ∀ other, Packable other → other.text = .ok text → other = k := by
  obtain ⟨data, hs, hl, hp⟩ := h.exists_serialize
  have ht : ofText (Base58.encodeCheck data) = .ok k := by rw [ofText_encodeCheck, hp]
  refine ⟨data, _, hs, hl, hp, text_eq hs, ht, fun other ho he => ?_⟩
  obtain ⟨data', hs', -, hp'⟩ := ho.exists_serialize
  rw [text_eq hs'] at he
  rw [← Except.ok.inj he, ofText_encodeCheck, hp'] at ht
  exact Except.ok.inj ht

def lastOne : ExtendedKey where
  version := testPrivate
  depth := .int 255
  parentFingerprint := Bytes.ofNat 4 0x5c1bd648
  childNumber := .int 0xffffffff
  chainCode := Bytes.ofNat 32 1
  privateKey := some (Bytes.ofNat 32 1)
  publicKey := Bytes.ofNat 33 0x0279be667ef9dcbbac55a06295ce870b07029bfcdb2dce28d959f2815b16f81798

theorem lastOne_paired : lastOne.Paired := by
  have hp : Curve.publicKey? (Bytes.ofNat 32 1) = some lastOne.publicKey := by decide +kernel
  refine ⟨by decide, _, rfl, ?_⟩
  rw [Curve.publicKey, hp]

theorem lastOne_packable : lastOne.Packable where
  version := by decide
  depth := ⟨255, by decide, rfl⟩
  parentFingerprint := rfl
  childNumber := ⟨0xffffffff, by decide, rfl⟩
  chainCode := rfl
  keys := .inl lastOne_paired

theorem lastOne_round_trip :
    lastOne.Packable ∧ lastOne.neuter.Packable ∧
      (∃ text, lastOne.text = .ok text ∧ ofText text = .ok lastOne) ∧
      ∃ text, lastOne.neuter.text = .ok text ∧ ofText text = .ok lastOne.neuter := by
  have hk := lastOne_packable
  have hn := lastOne_paired.packable_neuter hk
  obtain ⟨-, text, -, -, -, ht, hr, -⟩ := serialization_round_trip hk
  obtain ⟨-, text', -, -, -, ht', hr', -⟩ := serialization_round_trip hn
  exact ⟨hk, hn, ⟨text, ht, hr⟩, text', ht', hr'⟩

end HardwareWallet.ExtendedKey
