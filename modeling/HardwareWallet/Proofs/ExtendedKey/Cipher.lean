import HardwareWallet.ExtendedKey.Cipher
import HardwareWallet.Proofs.Aes.Chaining

namespace HardwareWallet.ExtendedKey

variable {k : ExtendedKey} {key : Bytes} {request : CipherRequest} {setting : Aes.Setting} {ss : List Aes.Block}

def cipherSecret (key : Bytes) (request : CipherRequest) : Bytes :=
  (Hmac.mac key (cipherIdentity request)).take 32

def cipherStart (key : Bytes) (request : CipherRequest) : Bytes :=
  if request.iv.length = 16 then request.iv else ((Hmac.mac key (cipherIdentity request)).drop 32).take 16

theorem length_cipherSecret (key : Bytes) (request : CipherRequest) : (cipherSecret key request).length = 32 := by
  rw [cipherSecret, List.length_take, Hmac.length_mac]
  rfl

theorem length_cipherStart (key : Bytes) (request : CipherRequest) : (cipherStart key request).length = 16 := by
  rw [cipherStart]
  split
  · assumption
  · rw [List.length_take, List.length_drop, Hmac.length_mac]
    rfl

theorem exists_cipherSetting (key : Bytes) (request : CipherRequest) :
    ∃ setting, Aes.Setting.ofBytes? (cipherSecret key request) (cipherStart key request) = some setting :=
  Aes.Setting.exists_ofBytes? (length_cipherSecret key request) (length_cipherStart key request)

theorem cipher_eq (hk : k.privateKey = some key)
    (hs : Aes.Setting.ofBytes? (cipherSecret key request) (cipherStart key request) = some setting) :
    k.cipher request = match Aes.blocks? request.value with
      | some ss => .ok ((setting.run request.encrypt.isGiven ss).flatMap Aes.Block.toBytes)
      | none => .error .blockSize := by
  rw [cipherSecret, cipherStart] at hs
  rw [cipher, hk]
  dsimp only
  rw [hs]
  cases Aes.blocks? request.value with
  | none => rfl
  | some ss => rfl

theorem cipher_blocks (hk : k.privateKey = some key)
    (hs : Aes.Setting.ofBytes? (cipherSecret key request) (cipherStart key request) = some setting)
    (hv : request.value = ss.flatMap Aes.Block.toBytes) :
    k.cipher request = .ok ((setting.run request.encrypt.isGiven ss).flatMap Aes.Block.toBytes) := by
  rw [cipher_eq hk hs, Aes.blocks?_eq_some_iff.mpr hv]

theorem exists_cipher (hk : k.privateKey = some key) (hl : request.value.length % 16 = 0) :
    ∃ out, k.cipher request = .ok out := by
  obtain ⟨setting, hs⟩ := exists_cipherSetting key request
  obtain ⟨ss, hb⟩ := Aes.exists_blocks? hl
  exact ⟨_, cipher_blocks hk hs (Aes.blocks?_eq_some_iff.mp hb)⟩

/-- A value of whole blocks is encrypted or decrypted to one of the same length, and the request the other way round
    gives it back. Encryption combines each block with the one that was encrypted before it, the first one with the
    start. Any other value is refused. -/
theorem cipher_inverse (hk : k.privateKey = some key) (request : CipherRequest) :
    (request.value.length % 16 = 0 → ∃ out, k.cipher request = .ok out ∧ out.length = request.value.length ∧
      (∀ undoing : Value, undoing.isGiven = !request.encrypt.isGiven →
        k.cipher { request with encrypt := undoing, value := out } = .ok request.value) ∧
      (request.encrypt.isGiven = true → ∀ i < request.value.length / 16,
        Aes.encryptBytes? (cipherSecret key request)
          (Bytes.xor (Aes.piece i request.value)
            (if i = 0 then cipherStart key request else Aes.piece (i - 1) out)) = some (Aes.piece i out))) ∧
    (request.value.length % 16 ≠ 0 → k.cipher request = .error .blockSize) := by
  obtain ⟨setting, hs⟩ := exists_cipherSetting key request
  refine ⟨fun hl => ?_, fun hl => by rw [cipher_eq hk hs, Aes.blocks?_eq_none hl]⟩
  obtain ⟨ss, hb⟩ := Aes.exists_blocks? hl
  have hv := Aes.blocks?_eq_some_iff.mp hb
  have hn : request.value.length = 16 * ss.length := by rw [hv, Aes.length_flatMap_toBytes]
  refine ⟨_, cipher_blocks hk hs hv, ?_, fun undoing hu => ?_, fun he i hi => ?_⟩
  · rw [Aes.length_flatMap_toBytes, Aes.Setting.length_run, hn]
  · -- The setting comes from what the two requests share.
    have ho : k.cipher { request with
        encrypt := undoing, value := (setting.run request.encrypt.isGiven ss).flatMap Aes.Block.toBytes } =
          .ok ((setting.run undoing.isGiven (setting.run request.encrypt.isGiven ss)).flatMap Aes.Block.toBytes) :=
      cipher_blocks hk hs rfl
    rw [ho, hu, Aes.Setting.run_run, ← hv]
  · rw [he, hv]
    exact Aes.Setting.encryptBytes?_piece hs (by omega)

def bareKey : ExtendedKey :=
  ⟨mainPrivate, .int 0, [], .int 0, [], some [1], []⟩

theorem bareKey_cipher_inverse : bareKey.privateKey = some [1] ∧
    ∃ out, bareKey.cipher ⟨[], [7], List.replicate 32 5, .truth true, .truth true, .truth false, [3]⟩ = .ok out ∧
      bareKey.cipher ⟨[], [7], out, .truth false, .truth true, .truth false, [3]⟩ = .ok (List.replicate 32 5) := by
  obtain ⟨h, -⟩ := cipher_inverse (k := bareKey) rfl
    ⟨[], [7], List.replicate 32 5, .truth true, .truth true, .truth false, [3]⟩
  obtain ⟨out, ho, -, hu, -⟩ := h rfl
  exact ⟨rfl, out, ho, hu (.truth false) rfl⟩

end HardwareWallet.ExtendedKey
