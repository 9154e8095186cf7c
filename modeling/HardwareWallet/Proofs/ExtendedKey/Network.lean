import HardwareWallet.Command.Flow
import HardwareWallet.Proofs.ExtendedKey.Derivation

namespace HardwareWallet.ExtendedKey

def onNetwork (k : ExtendedKey) (testnet : Bool) : ExtendedKey :=
  { k with version := privateVersion testnet }

def toNode (k : ExtendedKey) : PublicNode where
  depth := k.depth
  fingerprint := .int (Bytes.toNat k.parentFingerprint)
  childNumber := k.childNumber
  chainCode := k.chainCode
  publicKey := k.publicKey

variable {k node : ExtendedKey} {seed : Bytes} {testnet other : Bool} {path : Path} {v : Value} {d : ℕ}

theorem ofSeed_onNetwork (h : ofSeed seed testnet = .ok k) : ofSeed seed other = .ok (k.onNetwork other) := by
  obtain ⟨point, hp, h⟩ := exists_of_bind_eq_ok h
  obtain rfl := Except.ok.inj h
  rw [ofSeed]
  dsimp only
  rw [hp]
  rfl

theorem derivePrivate_onNetwork (hk : k.Paired) (h : k.derivePrivate v = .ok node) :
    (k.onNetwork other).derivePrivate v = .ok (node.onNetwork other) := by
  obtain ⟨-, key, hkey, -⟩ := hk
  obtain ⟨n, index, depth, point, hn, hi, hd, hc, hp, rfl⟩ := derivePrivate_eq_ok hkey h
  have hkey' : (k.onNetwork other).privateKey = some key := hkey
  have hd' : (k.onNetwork other).nextDepth = .ok depth := hd
  have hchain : (k.onNetwork other).chainCode = k.chainCode := rfl
  have hseed : (k.onNetwork other).privateSeed = k.privateSeed := rfl
  rw [derivePrivate, hkey']
  dsimp only
  rw [hn, ok_bind, hi, ok_bind, hd', hchain, hseed, if_neg hc, ok_bind, hp]
  rfl

theorem InTree.onNetwork (hk : k.InTree testnet d) : (k.onNetwork other).InTree other d where
  version := rfl
  depth := hk.depth
  parentFingerprint := hk.parentFingerprint
  childNumber := hk.childNumber
  chainCode := hk.chainCode
  paired := ⟨privateVersion_isPrivate other, hk.paired.2⟩

theorem derive_onNetwork (hk : k.InTree testnet d) (h : k.derive path = .ok node) :
    (k.onNetwork other).derive path = .ok (node.onNetwork other) := by
  induction path generalizing k d with
  | nil => rw [← Except.ok.inj h, derive]
  | cons v path ih =>
    obtain ⟨next, hn, h⟩ := exists_of_bind_eq_ok h
    obtain ⟨hnext, -⟩ := hk.child hn
    rw [child_of_isPrivate hk.paired.1] at hn
    rw [derive, child_of_isPrivate hk.onNetwork.paired.1, derivePrivate_onNetwork hk.paired hn, ok_bind]
    exact ih hnext h

theorem ofPath_onNetwork (h : ofPath seed testnet path = .ok node) :
    ofPath seed other path = .ok (node.onNetwork other) := by
  obtain ⟨master, hm, h⟩ := exists_of_bind_eq_ok h
  rw [ofPath, ofSeed_onNetwork hm, ok_bind]
  exact derive_onNetwork (inTree_of_ofSeed hm).1 h

theorem isTestnet_privateVersion (hv : k.version = privateVersion testnet) : k.isTestnet = testnet := by
  rw [isTestnet, hv]
  cases testnet
  · decide
  · decide

theorem neuter_onNetwork (k : ExtendedKey) :
    (k.onNetwork other).neuter = { k with version := publicVersion other, privateKey := none } := by
  have hv : (k.onNetwork other).version = privateVersion other := rfl
  rw [neuter, isTestnet_privateVersion hv]
  rfl

theorem onNetwork_self (hv : k.version = privateVersion testnet) : k.onNetwork testnet = k := by
  rw [onNetwork, ← hv]

theorem ofNode_toNode (hk : k.InTree testnet d) : ofNode k.toNode other = .ok (k.onNetwork other).neuter := by
  have hf := Bytes.ofNat_toNat k.parentFingerprint
  have hl := Bytes.toNat_lt k.parentFingerprint
  rw [hk.parentFingerprint] at hf hl
  have hr : (0 : ℤ) ≤ Bytes.toNat k.parentFingerprint ∧ (Bytes.toNat k.parentFingerprint : ℤ) < 0x100000000 := by omega
  have hi : k.toNode.fingerprint.int? = some (Bytes.toNat k.parentFingerprint : ℤ) := rfl
  rw [ofNode, hi]
  dsimp only
  rw [if_pos hr, Int.toNat_natCast, hf, neuter_onNetwork]
  rfl

theorem InTree.exists_neuter_text (hk : k.InTree testnet d) (hd : d ≤ 255) : ∃ text, k.neuter.text = .ok text := by
  obtain ⟨index, hi⟩ := hk.childNumber
  have hdepth : packDepth k.neuter.depth = .ok [UInt8.ofNat d] := by
    rw [show k.neuter.depth = .int d from hk.depth, packDepth_nat (by omega)]
  have hs := serialize_eq (k := k.neuter) hdepth hi (keyMaterial_of_public k.neuter_isPublic)
  exact ⟨_, text_eq hs⟩

end HardwareWallet.ExtendedKey
