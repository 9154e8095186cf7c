import HardwareWallet.ExtendedKey.Derivation
import HardwareWallet.Proofs.Curve.Compressed
import HardwareWallet.Proofs.Path.Text

namespace HardwareWallet

def Path.Hardened (i : Value) : Prop :=
  ∃ n, i.int? = some n ∧ isHardened n = true

theorem Path.hardened_int_iff {n : ℤ} (h0 : 0 ≤ n) (h : n < 2 ^ 32) : Hardened (.int n) ↔ 2 ^ 31 ≤ n := by
  have hn : Hardened (.int n) ↔ isHardened n = true := by
    constructor
    · rintro ⟨m, hm, hh⟩
      rwa [Option.some.inj hm]
    · intro hh
      exact ⟨n, rfl, hh⟩
  rw [hn, isHardened_iff_le h0 h]

namespace ExtendedKey

variable {k child node : ExtendedKey} {i : Value} {p q : Path}

def Paired (k : ExtendedKey) : Prop :=
  k.isPrivate = true ∧ ∃ key, k.privateKey = some key ∧ Curve.publicKey key = .ok k.publicKey

theorem paired_of_ofSeed {seed : Bytes} {testnet : Bool} (h : ofSeed seed testnet = .ok k) : k.Paired := by
  obtain ⟨point, hp, h⟩ := exists_of_bind_eq_ok h
  obtain rfl := Except.ok.inj h
  refine ⟨?_, _, rfl, hp⟩
  cases testnet
  · exact (by decide : isPrivateVersion mainPrivate = true)
  · exact (by decide : isPrivateVersion testPrivate = true)

theorem derivePrivate_eq_ok {key : Bytes} (hk : k.privateKey = some key) (h : k.derivePrivate i = .ok child) :
    ∃ n index depth point, Path.bits i = .ok n ∧ packChild i = .ok index ∧ k.nextDepth = .ok depth ∧
      let digest := Hmac.mac k.chainCode (k.privateSeed key (Path.isHardened n) ++ index)
      let left := Bytes.toNat (digest.take 32)
      let secret := (left + Bytes.toNat key) % Curve.order
      ¬ (Curve.order ≤ left ∨ secret = 0) ∧ Curve.publicKey (Bytes.ofNat 32 secret) = .ok point ∧
        child = ⟨k.version, depth, k.fingerprint, i, digest.drop 32, some (Bytes.ofNat 32 secret), point⟩ := by
  rw [derivePrivate, hk] at h
  obtain ⟨n, hn, h⟩ := exists_of_bind_eq_ok h
  obtain ⟨index, hi, h⟩ := exists_of_bind_eq_ok h
  refine ⟨n, index, ?_⟩
  dsimp only at h ⊢
  generalize Hmac.mac k.chainCode (k.privateSeed key (Path.isHardened n) ++ index) = digest at h ⊢
  generalize hs : (Bytes.toNat (digest.take 32) + Bytes.toNat key) % Curve.order = secret at h ⊢
  by_cases hc : Curve.order ≤ Bytes.toNat (digest.take 32) ∨ secret = 0
  · rw [if_pos hc] at h
    cases h
  · rw [if_neg hc] at h
    obtain ⟨depth, hd, h⟩ := exists_of_bind_eq_ok h
    obtain ⟨point, hp, h⟩ := exists_of_bind_eq_ok h
    exact ⟨depth, point, hn, hi, hd, hc, hp, (Except.ok.inj h).symm⟩

theorem derivePublic_eq_ok_iff : k.derivePublic i = .ok child ↔
    ∃ n index depth parent point, Path.bits i = .ok n ∧ Path.isHardened n = false ∧ packChild i = .ok index ∧
      k.nextDepth = .ok depth ∧ Curve.Point.ofBytes? k.publicKey = some parent ∧
      let digest := Hmac.mac k.chainCode (k.publicKey ++ index)
      ((Curve.multiple (Bytes.toNat (digest.take 32))).add parent).compressed? = some point ∧
        child = ⟨publicVersion k.isTestnet, depth, k.fingerprint, i, digest.drop 32, none, point⟩ := by
  constructor
  · intro h
    rw [derivePublic] at h
    obtain ⟨n, hn, h⟩ := exists_of_bind_eq_ok h
    by_cases hs : Path.isHardened n = true
    · rw [if_pos hs] at h
      cases h
    · rw [if_neg hs] at h
      obtain ⟨index, hi, h⟩ := exists_of_bind_eq_ok h
      dsimp only at h
      -- the multiple is hidden in a variable, so that no step below computes it
      obtain ⟨left, hl⟩ : ∃ left, Curve.multiple (Bytes.toNat
        ((Hmac.mac k.chainCode (k.publicKey ++ index)).take 32)) = left := ⟨_, rfl⟩
      rw [hl] at h
      cases hp : Curve.Point.ofBytes? k.publicKey with
      | none =>
        rw [hp] at h
        cases h
      | some parent =>
        rw [hp] at h
        dsimp only at h
        cases hc : (left.add parent).compressed? with
        | none =>
          rw [hc] at h
          cases h
        | some point =>
          rw [hc] at h
          obtain ⟨depth, hd, h⟩ := exists_of_bind_eq_ok h
          refine ⟨n, index, depth, parent, point, hn, Bool.eq_false_iff.mpr hs, hi, hd, rfl, ?_⟩
          dsimp only
          rw [hl]
          exact ⟨hc, (Except.ok.inj h).symm⟩
  · rintro ⟨n, index, depth, parent, point, hn, hs, hi, hd, hp, hc, rfl⟩
    rw [derivePublic, hn, ok_bind, if_neg (Bool.eq_false_iff.mp hs), hi, ok_bind]
    dsimp only
    obtain ⟨left, hl⟩ : ∃ left, Curve.multiple (Bytes.toNat
      ((Hmac.mac k.chainCode (k.publicKey ++ index)).take 32)) = left := ⟨_, rfl⟩
    rw [hl] at hc ⊢
    rw [hp]
    dsimp only
    rw [hc, hd]
    rfl

theorem derivePublic_hardened (h : Path.Hardened i) : k.derivePublic i ≠ .ok child := by
  obtain ⟨n, hn, hh⟩ := h
  intro hc
  obtain ⟨m, index, depth, parent, point, hm, hs, -⟩ := derivePublic_eq_ok_iff.mp hc
  rw [Path.bits_eq_ok hm] at hn
  rw [Option.some.inj hn, hh] at hs
  cases hs

theorem publicVersion_isPublic (testnet : Bool) : isPrivateVersion (publicVersion testnet) = false := by
  cases testnet
  · decide
  · decide

theorem neuter_isPublic (k : ExtendedKey) : k.neuter.isPrivate = false :=
  publicVersion_isPublic k.isTestnet

theorem neuter_isTestnet (k : ExtendedKey) : k.neuter.isTestnet = k.isTestnet := by
  have hv (testnet : Bool) :
      (publicVersion testnet = testPublic || publicVersion testnet = testPrivate : Bool) = testnet := by
    cases testnet
    · decide
    · decide
  exact hv k.isTestnet

theorem Paired.derivePrivate (hk : k.Paired) (h : k.derivePrivate i = .ok child) : child.Paired := by
  obtain ⟨hv, key, hkey, -⟩ := hk
  obtain ⟨n, index, depth, point, -, -, -, -, hp, rfl⟩ := derivePrivate_eq_ok hkey h
  exact ⟨hv, _, rfl, hp⟩

theorem Paired.neuter_derivePublic (hk : k.Paired) (hi : ¬ Path.Hardened i) (h : k.derivePrivate i = .ok child) :
    k.neuter.derivePublic i = .ok child.neuter := by
  obtain ⟨-, key, hkey, hpub⟩ := hk
  obtain ⟨n, index, depth, point, hn, hpack, hd, hc, hp, rfl⟩ := derivePrivate_eq_ok hkey h
  have hs : Path.isHardened n = false := by
    rw [← Bool.not_eq_true]
    intro hh
    exact hi ⟨n, Path.bits_eq_ok hn, hh⟩
  simp only [hs, privateSeed, Bool.false_eq_true, if_false] at hc hp ⊢
  obtain ⟨hl, -⟩ := not_or.mp hc
  obtain ⟨parent, hparent, hsum⟩ := Curve.publicKey_add hpub (Nat.lt_of_not_le hl) hp
  apply derivePublic_eq_ok_iff.mpr
  refine ⟨n, index, depth, parent, point, hn, hs, hpack, hd, hparent, hsum, ?_⟩
  rw [neuter_isTestnet]
  rfl

theorem child_of_isPrivate (hk : k.isPrivate = true) : k.child i = k.derivePrivate i :=
  if_pos hk

theorem child_of_isPublic (hk : k.isPrivate = false) : k.child i = k.derivePublic i := by
  rw [ExtendedKey.child, hk]
  rfl

theorem derive_append (k : ExtendedKey) (p q : Path) :
    k.derive (p ++ q) = k.derive p >>= fun node => node.derive q := by
  induction p generalizing k with
  | nil => rfl
  | cons i p ih =>
    rw [List.cons_append, derive, derive, bind_assoc]
    simp only [ih]

theorem Paired.derive (hk : k.Paired) (h : k.derive p = .ok node) : node.Paired := by
  induction p generalizing k with
  | nil => exact Except.ok.inj h ▸ hk
  | cons i p ih =>
    obtain ⟨next, hn, h⟩ := exists_of_bind_eq_ok h
    rw [child_of_isPrivate hk.1] at hn
    exact ih (hk.derivePrivate hn) h

theorem Paired.neuter_derive (hk : k.Paired) (hq : ∀ i ∈ q, ¬ Path.Hardened i) (h : k.derive q = .ok child) :
    k.neuter.derive q = .ok child.neuter := by
  induction q generalizing k with
  | nil => rw [← Except.ok.inj h, ExtendedKey.derive]
  | cons i q ih =>
    obtain ⟨hi, hq⟩ := List.forall_mem_cons.mp hq
    obtain ⟨next, hn, h⟩ := exists_of_bind_eq_ok h
    rw [child_of_isPrivate hk.1] at hn
    rw [ExtendedKey.derive, child_of_isPublic k.neuter_isPublic, hk.neuter_derivePublic hi hn]
    exact ih (hk.derivePrivate hn) hq h

theorem isPublic_of_derivePublic (h : k.derivePublic i = .ok child) : child.isPrivate = false := by
  obtain ⟨n, index, depth, parent, point, -, -, -, -, -, -, rfl⟩ := derivePublic_eq_ok_iff.mp h
  exact publicVersion_isPublic k.isTestnet

theorem derive_hardened (hk : k.isPrivate = false) (hq : ∃ i ∈ q, Path.Hardened i) : k.derive q ≠ .ok child := by
  induction q generalizing k with
  | nil =>
    obtain ⟨i, hi, -⟩ := hq
    cases hi
  | cons i q ih =>
    intro h
    obtain ⟨next, hn, h⟩ := exists_of_bind_eq_ok h
    rw [child_of_isPublic hk] at hn
    obtain ⟨j, hj, hh⟩ := hq
    rcases List.mem_cons.mp hj with rfl | hj
    · exact derivePublic_hardened hh hn
    · exact ih (isPublic_of_derivePublic hn) ⟨j, hj, hh⟩ h

/-- Where private derivation arrives, public derivation takes the last indexes as well, up to the private part, unless one
    of them is hardened: then it arrives nowhere. -/
theorem public_derivation_agrees (hk : k.Paired) (p q : Path) :
    ((∀ i ∈ q, ¬ Path.Hardened i) → ∀ child, k.derive (p ++ q) = .ok child →
      ∃ node, k.derive p = .ok node ∧ node.neuter.derive q = .ok child.neuter) ∧
    ((∃ i ∈ q, Path.Hardened i) → ∀ node, k.derive p = .ok node → ∀ child, node.neuter.derive q ≠ .ok child) := by
  constructor
  · intro hq child h
    rw [derive_append] at h
    obtain ⟨node, hp, h⟩ := exists_of_bind_eq_ok h
    exact ⟨node, hp, (hk.derive hp).neuter_derive hq h⟩
  · intro hq node _ child
    exact derive_hardened node.neuter_isPublic hq

theorem seededMaster_public_derivation :
    ∃ master node child, ofSeed (Bytes.ofNat 16 0x000102030405060708090a0b0c0d0e0f) false = .ok master ∧
      master.derive [.int 0x80000000] = .ok node ∧ master.derive [.int 0x80000000, .int 1] = .ok child ∧
      node.neuter.derive [.int 1] = .ok child.neuter ∧
      ∀ other, node.neuter.derive [.int 0x80000001] ≠ .ok other := by
  have hd : (ofSeed (Bytes.ofNat 16 0x000102030405060708090a0b0c0d0e0f) false >>= fun master =>
      master.derive [.int 0x80000000, .int 1]).toBool = true := by decide +kernel
  cases hc : ofSeed (Bytes.ofNat 16 0x000102030405060708090a0b0c0d0e0f) false >>= fun master =>
      master.derive [.int 0x80000000, .int 1] with
  | error e =>
    rw [hc] at hd
    cases hd
  | ok child =>
    obtain ⟨master, hm, hc⟩ := exists_of_bind_eq_ok hc
    have hk := paired_of_ofSeed hm
    have hsoft : ∀ i ∈ [Value.int 1], ¬ Path.Hardened i := by
      intro i hi
      rw [List.mem_singleton.mp hi, Path.hardened_int_iff (by decide) (by decide)]
      decide
    have hhard : ∃ i ∈ [Value.int 0x80000001], Path.Hardened i := by
      refine ⟨_, List.mem_singleton_self _, ?_⟩
      rw [Path.hardened_int_iff (by decide) (by decide)]
      decide
    obtain ⟨node, hp, hn⟩ := (public_derivation_agrees hk [.int 0x80000000] [.int 1]).1 hsoft child hc
    exact ⟨master, node, child, hm, hp, hc, hn,
      (public_derivation_agrees hk [.int 0x80000000] [.int 0x80000001]).2 hhard node hp⟩

end ExtendedKey

end HardwareWallet
