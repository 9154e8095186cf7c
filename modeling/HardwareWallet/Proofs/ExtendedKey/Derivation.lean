import HardwareWallet.Proofs.ExtendedKey.Serialization

namespace HardwareWallet.ExtendedKey

def privateVersion (testnet : Bool) : Bytes :=
  if testnet then testPrivate else mainPrivate

def ofPath (seed : Bytes) (testnet : Bool) (path : Path) : Except Error ExtendedKey := do
  let master ← ofSeed seed testnet
  master.derive path

structure InTree (testnet : Bool) (depth : ℕ) (k : ExtendedKey) : Prop where
  version : k.version = privateVersion testnet
  depth : k.depth = .int depth
  parentFingerprint : k.parentFingerprint.length = 4
  childNumber : ∃ index, packChild k.childNumber = .ok index
  chainCode : k.chainCode.length = 32
  paired : k.Paired

variable {k node : ExtendedKey} {seed : Bytes} {testnet : Bool} {path : Path} {v : Value} {i : ℤ} {d : ℕ}

theorem privateVersion_isPrivate (testnet : Bool) : isPrivateVersion (privateVersion testnet) = true := by
  cases testnet
  · decide
  · decide

theorem length_fingerprint (k : ExtendedKey) : k.fingerprint.length = 4 := by
  rw [fingerprint, List.length_take, length_hash160]
  rfl

theorem length_drop_mac (key message : Bytes) : ((Hmac.mac key message).drop 32).length = 32 := by
  rw [List.length_drop, Hmac.length_mac]

theorem nextDepth_int (h : k.depth = .int d) : k.nextDepth = .ok (.int (d + 1 : ℕ)) := by
  rw [nextDepth, h]
  rfl

theorem inTree_of_ofSeed (h : ofSeed seed testnet = .ok k) :
    k.InTree testnet 0 ∧ k.childNumber = .int 0 ∧ k.parentFingerprint = [0, 0, 0, 0] := by
  have hp := paired_of_ofSeed h
  obtain ⟨point, -, h⟩ := exists_of_bind_eq_ok h
  obtain rfl := Except.ok.inj h
  exact ⟨⟨rfl, rfl, rfl, ⟨_, rfl⟩, length_drop_mac _ _, hp⟩, rfl, rfl⟩

theorem InTree.derivePrivate (hk : k.InTree testnet d) (h : k.derivePrivate v = .ok node) :
    node.InTree testnet (d + 1) ∧ node.childNumber = v ∧ node.parentFingerprint = k.fingerprint := by
  have hp := hk.paired.derivePrivate h
  obtain ⟨-, key, hkey, -⟩ := hk.paired
  obtain ⟨n, index, depth, point, -, hi, hd, -, -, rfl⟩ := derivePrivate_eq_ok hkey h
  rw [nextDepth_int hk.depth] at hd
  exact ⟨⟨hk.version, (Except.ok.inj hd).symm, length_fingerprint k, ⟨index, hi⟩, length_drop_mac _ _, hp⟩, rfl, rfl⟩

theorem InTree.child (hk : k.InTree testnet d) (h : k.child v = .ok node) :
    node.InTree testnet (d + 1) ∧ node.childNumber = v ∧ node.parentFingerprint = k.fingerprint := by
  rw [child_of_isPrivate hk.paired.1] at h
  exact hk.derivePrivate h

theorem InTree.derive (hk : k.InTree testnet d) (h : k.derive path = .ok node) :
    node.InTree testnet (d + path.length) := by
  induction path generalizing k d with
  | nil => exact Except.ok.inj h ▸ hk
  | cons v path ih =>
    obtain ⟨next, hn, h⟩ := exists_of_bind_eq_ok h
    rw [List.length_cons, Nat.add_comm path.length, ← Nat.add_assoc]
    exact ih (hk.child hn).1 h

theorem inTree_of_ofPath (h : ofPath seed testnet path = .ok k) : k.InTree testnet path.length := by
  obtain ⟨master, hm, h⟩ := exists_of_bind_eq_ok h
  have hk := (inTree_of_ofSeed hm).1.derive h
  rwa [Nat.zero_add] at hk

theorem exists_parent (h : ofPath seed testnet (path ++ [v]) = .ok k) :
    k.childNumber = v ∧
      ∃ parent, ofPath seed testnet path = .ok parent ∧ k.parentFingerprint = parent.fingerprint := by
  obtain ⟨master, hm, h⟩ := exists_of_bind_eq_ok h
  rw [derive_append] at h
  obtain ⟨parent, hp, h⟩ := exists_of_bind_eq_ok h
  obtain ⟨child, hc, h⟩ := exists_of_bind_eq_ok h
  obtain rfl := Except.ok.inj h
  have hpath : ofPath seed testnet path = .ok parent := by rw [ofPath, hm, ok_bind, hp]
  obtain ⟨-, hi, hf⟩ := (inTree_of_ofPath hpath).child hc
  exact ⟨hi, parent, hpath, hf⟩

theorem exists_childNumber {path : List ℤ} (h : ofPath seed testnet (path.map .int) = .ok k) :
    ∃ i, k.childNumber = .int i := by
  rcases List.eq_nil_or_concat path with rfl | ⟨init, i, rfl⟩
  · obtain ⟨master, hm, h⟩ := exists_of_bind_eq_ok h
    obtain rfl := Except.ok.inj h
    exact ⟨0, (inTree_of_ofSeed hm).2.1⟩
  · rw [List.concat_eq_append, List.map_append] at h
    exact ⟨i, (exists_parent h).1⟩

theorem exists_of_packChild {index : Bytes} (h : packChild (.int i) = .ok index) : ∃ n : ℕ, n < 2 ^ 32 ∧ i = n := by
  have hp : packChild (.int i) = if Path.isChildNumber i then .ok (Bytes.ofNat 4 i.toNat)
    else .error (.childNumberRange i) := rfl
  rw [hp] at h
  split at h
  · rename_i hc
    rw [Path.isChildNumber, Bool.and_eq_true, decide_eq_true_eq, decide_eq_true_eq] at hc
    exact ⟨i.toNat, by omega, by omega⟩
  · cases h

theorem InTree.packable (hk : k.InTree testnet d) (hd : d ≤ 255) (hi : k.childNumber = .int i) : k.Packable where
  version := by rw [isVersion, hk.version, privateVersion_isPrivate, Bool.true_or, Bool.true_or]
  depth := ⟨d, by omega, hk.depth⟩
  parentFingerprint := hk.parentFingerprint
  childNumber := by
    obtain ⟨index, hp⟩ := hk.childNumber
    rw [hi] at hp ⊢
    obtain ⟨n, hn, rfl⟩ := exists_of_packChild hp
    exact ⟨n, hn, rfl⟩
  chainCode := hk.chainCode
  keys := .inl hk.paired

theorem Packable.exists_text (h : k.Packable) : ∃ text, k.text = .ok text ∧ ofText text = .ok k := by
  obtain ⟨data, hs, -, hp⟩ := h.exists_serialize
  exact ⟨_, text_eq hs, by rw [ofText_encodeCheck, hp]⟩

theorem text_of_deep (h : k.depth = .int d) (hd : 255 < d) : k.text = .error .depthRange := by
  have hn : ¬ ((0 : ℤ) ≤ d ∧ (d : ℤ) < 256) := by omega
  have hp : packDepth (.int d) = if (0 : ℤ) ≤ d ∧ (d : ℤ) < 256 then .ok (Bytes.ofNat 1 (d : ℤ).toNat)
    else .error .depthRange := rfl
  rw [if_neg hn] at hp
  rw [text, serialize, h, hp]
  rfl

theorem Paired.privateKey_in_range (h : k.Paired) :
    ∃ key, k.privateKey = some key ∧ key.length = 32 ∧ 1 ≤ Bytes.toNat key ∧ Bytes.toNat key < Curve.order ∧
      Curve.publicKey key = .ok k.publicKey := by
  obtain ⟨-, key, hk, hp⟩ := h
  have hr := (Curve.publicKey_eq_ok hp).1
  simp only [Curve.isPrivateKey, Bool.and_eq_true, decide_eq_true_eq] at hr
  obtain ⟨⟨hl, hpos⟩, hlt⟩ := hr
  exact ⟨key, hk, hl, hpos, hlt, hp⟩

/-- A key that derivation reaches tells its depth, its index and its parent, and its keys belong together. It is read
    back from its text, with and without its private part, if it is at most 255 steps down, and else it has none. -/
theorem derived_wellFormed {path : List ℤ} (h : ofPath seed testnet (path.map .int) = .ok k) :
    k.depth = .int path.length ∧
      (path = [] → k.childNumber = .int 0 ∧ k.parentFingerprint = [0, 0, 0, 0]) ∧
      (∀ init i, path = init ++ [i] → k.childNumber = .int i ∧
        ∃ parent, ofPath seed testnet (init.map .int) = .ok parent ∧ k.parentFingerprint = parent.fingerprint) ∧
      k.version = privateVersion testnet ∧ k.chainCode.length = 32 ∧
      (∃ key, k.privateKey = some key ∧ key.length = 32 ∧ 1 ≤ Bytes.toNat key ∧ Bytes.toNat key < Curve.order ∧
        Curve.publicKey key = .ok k.publicKey) ∧
      (path.length ≤ 255 →
        (∃ text, k.text = .ok text ∧ ofText text = .ok k) ∧
          ∃ text, k.neuter.text = .ok text ∧ ofText text = .ok k.neuter) ∧
      (255 < path.length → k.text = .error .depthRange ∧ k.neuter.text = .error .depthRange) := by
  have hk := inTree_of_ofPath h
  have hd : k.depth = .int path.length := by rw [hk.depth, List.length_map]
  refine ⟨hd, ?_, ?_, hk.version, hk.chainCode, hk.paired.privateKey_in_range, ?_, ?_⟩
  · rintro rfl
    obtain ⟨master, hm, h⟩ := exists_of_bind_eq_ok h
    exact Except.ok.inj h ▸ (inTree_of_ofSeed hm).2
  · rintro init i rfl
    rw [List.map_append] at h
    exact exists_parent h
  · intro hl
    obtain ⟨i, hi⟩ := exists_childNumber h
    have hp := hk.packable (by rwa [List.length_map]) hi
    exact ⟨hp.exists_text, (hk.paired.packable_neuter hp).exists_text⟩
  · intro hl
    exact ⟨text_of_deep hd hl, text_of_deep (k := k.neuter) hd hl⟩

theorem hardenedFirst_wellFormed :
    ∃ k text, ofPath (Bytes.ofNat 16 0x000102030405060708090a0b0c0d0e0f) true [.int 0x80000000, .int 4294967295] = .ok k ∧
      k.depth = .int 2 ∧ k.childNumber = .int 4294967295 ∧ k.version = testPrivate ∧
      k.text = .ok text ∧ ofText text = .ok k := by
  have hd : (ofPath (Bytes.ofNat 16 0x000102030405060708090a0b0c0d0e0f) true
      [.int 0x80000000, .int 4294967295]).toBool = true := by decide +kernel
  cases hk : ofPath (Bytes.ofNat 16 0x000102030405060708090a0b0c0d0e0f) true
      ([0x80000000, 4294967295].map .int) with
  | error e =>
    rw [List.map_cons, List.map_singleton] at hk
    rw [hk] at hd
    cases hd
  | ok k =>
    obtain ⟨hdepth, -, hlast, hv, -, -, hshort, -⟩ := derived_wellFormed hk
    obtain ⟨hi, -⟩ := hlast [0x80000000] 4294967295 rfl
    obtain ⟨⟨text, ht, hr⟩, -⟩ := hshort (by decide)
    exact ⟨k, text, hk, hdepth, hi, hv, ht, hr⟩

end HardwareWallet.ExtendedKey
