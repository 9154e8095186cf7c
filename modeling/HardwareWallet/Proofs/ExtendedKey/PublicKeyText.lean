import HardwareWallet.Proofs.ExtendedKey.Reading
import HardwareWallet.Proofs.Path.Range
import HardwareWallet.Proofs.Text.Hexadecimal

namespace HardwareWallet

theorem Base58.publicKeyHex_of_decodeCheck {text : String} {payload : Bytes} (h : decodeCheck text = .ok payload) :
    publicKeyHex text = .ok (Bytes.hex (payload.drop (payload.length - 33))) := by
  have hl : (payload ++ checksum payload).length = payload.length + 4 := by
    rw [List.length_append, length_checksum]
  -- the bytes are counted from the end, past the check sum, so that the payload decides what is in front of them
  rw [eq_encodeCheck_of_decodeCheck h, encodeCheck, publicKeyHex, decode_encode, ok_bind, hl, Nat.add_sub_cancel,
    Nat.add_sub_add_right payload.length 4 33, List.take_left]
  rfl

namespace ExtendedKey

variable {k : ExtendedKey} {v : Value}

structure WrittenPublic (k : ExtendedKey) : Prop where
  version : ∃ testnet, k.version = publicVersion testnet
  depth : ∃ d, k.depth.int? = some d ∧ 0 ≤ d ∧ d < 256
  parentFingerprint : k.parentFingerprint.length = 4
  childNumber : Path.InRange k.childNumber
  chainCode : k.chainCode.length = 32
  publicKey : k.publicKey.length = 33

theorem WrittenPublic.isVersion (h : k.WrittenPublic) : isVersion k.version = true := by
  obtain ⟨testnet, hv⟩ := h.version
  rw [hv, publicVersion_isVersion]

theorem WrittenPublic.isPublic (h : k.WrittenPublic) : k.isPrivate = false := by
  obtain ⟨testnet, hv⟩ := h.version
  rw [isPrivate, hv, publicVersion_isPublic]

theorem exists_packDepth {d : ℤ} (hd : v.int? = some d) (h : 0 ≤ d ∧ d < 256) : ∃ depth, packDepth v = .ok [depth] := by
  rw [packDepth, hd]
  exact ⟨_, if_pos h⟩

theorem length_of_packChild {child : Bytes} (h : packChild v = .ok child) : child.length = 4 := by
  rw [packChild] at h
  split at h
  · split at h
    · rw [← Except.ok.inj h, Bytes.length_ofNat]
    · cases h
  · cases h

theorem WrittenPublic.exists_serialize (h : k.WrittenPublic) :
    ∃ head read, k.serialize = .ok (head ++ k.publicKey) ∧ parse (head ++ k.publicKey) = .ok read ∧
      read.publicKey = k.publicKey := by
  obtain ⟨d, hd, hdr⟩ := h.depth
  obtain ⟨depth, hdepth⟩ := exists_packDepth hd hdr
  obtain ⟨child, hchild⟩ := Path.packChild_eq_ok_iff.mpr h.childNumber
  have hv : isPrivateVersion k.version = false := h.isPublic
  have hp : parse (k.version ++ [depth] ++ k.parentFingerprint ++ child ++ k.chainCode ++ k.publicKey) =
      .ok ⟨k.version, .int depth.toNat, k.parentFingerprint, .int (Bytes.toNat child), k.chainCode, none,
        k.publicKey⟩ := by
    rw [parse_append h.isVersion h.parentFingerprint (length_of_packChild hchild) h.chainCode, hv,
      List.take_of_length_le h.publicKey.le]
    rfl
  exact ⟨_, _, serialize_eq hdepth hchild (keyMaterial_of_public h.isPublic), hp, rfl⟩

/-- From the text of a key with a public version, the short way gives the public key in lower-case hexadecimal digits, which
    spell it. So does the long way. -/
theorem publicKeyHex_agrees (h : k.WrittenPublic) :
    ∃ text read, k.text = .ok text ∧ Base58.publicKeyHex text = .ok (Bytes.hex k.publicKey) ∧
      ofText text = .ok read ∧ Bytes.hex read.publicKey = Bytes.hex k.publicKey ∧
      Bytes.ofHex? (Bytes.hex k.publicKey) = some k.publicKey ∧
      ∀ c ∈ (Bytes.hex k.publicKey).toList, Bytes.IsHexDigit c := by
  obtain ⟨head, read, hs, hp, hk⟩ := h.exists_serialize
  have hn : (head ++ k.publicKey).length - 33 = head.length := by
    rw [List.length_append, h.publicKey, Nat.add_sub_cancel]
  have hx := Base58.publicKeyHex_of_decodeCheck (Base58.decodeCheck_encodeCheck (head ++ k.publicKey))
  rw [hn, List.drop_left] at hx
  exact ⟨_, read, text_eq hs, hx, by rw [ofText_encodeCheck, hp], by rw [hk], Bytes.ofHex?_hex k.publicKey,
    fun _ => Bytes.isHexDigit_of_mem_hex⟩

def masterPublicKey : ExtendedKey where
  version := mainPublic
  depth := .int 0
  parentFingerprint := [0, 0, 0, 0]
  childNumber := .int 0
  chainCode := Bytes.ofNat 32 0x873dff81c02f525623fd1fe5167eac3a55a049de3d314bb42ee227ffed37d508
  privateKey := none
  publicKey := Bytes.ofNat 33 0x0339a36013301597daef41fbe593a02cc513d0b55527ec2df1050e2e8ff49c85c2

theorem masterPublicKey_agrees :
    let text := "xpub661MyMwAqRbcFtXgS5sYJABqqG9YLmC4Q1Rdap9gSE8NqtwybGhePY2gZ29ESFjqJoCu1Rupje8YtGqsefD265TMg7usUDFdp6W1EGMcet8"
    let digits := "0339a36013301597daef41fbe593a02cc513d0b55527ec2df1050e2e8ff49c85c2"
    masterPublicKey.WrittenPublic ∧ masterPublicKey.text = .ok text ∧ Base58.publicKeyHex text = .ok digits ∧
      ∃ read, ofText text = .ok read ∧ Bytes.hex read.publicKey = digits := by
  intro text digits
  have hk : masterPublicKey.WrittenPublic :=
    ⟨⟨false, rfl⟩, ⟨0, rfl, by decide⟩, rfl, ⟨0, rfl, by decide⟩, rfl, rfl⟩
  have ht : masterPublicKey.text = .ok text := by
    have hs : masterPublicKey.serialize = .ok masterPublic := rfl
    have he : Base58.encodeCheck masterPublic = text := by decide +kernel
    rw [text_eq hs, he]
  have hd : Bytes.hex masterPublicKey.publicKey = digits := by decide +kernel
  obtain ⟨text', read, ht', hx, hr, hp, -⟩ := publicKeyHex_agrees hk
  obtain rfl : text = text' := Except.ok.inj (ht.symm.trans ht')
  exact ⟨hk, ht, by rw [hx, hd], read, hr, hp.trans hd⟩

end ExtendedKey

end HardwareWallet
