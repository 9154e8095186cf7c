import HardwareWallet.Aes.Chaining
import HardwareWallet.ExtendedKey.Derivation
import HardwareWallet.Message.Basic

namespace HardwareWallet.ExtendedKey

def cipherIdentity (request : CipherRequest) : Bytes :=
  request.key ++ Bytes.ofText (if request.askOnEncrypt.isGiven then "E1" else "E0")
    ++ Bytes.ofText (if request.askOnDecrypt.isGiven then "D1" else "D0")

/-- Encrypts or decrypts the value of a request. A start block of another length than sixteen is ignored. -/
def cipher (k : ExtendedKey) (request : CipherRequest) : Except Error Bytes :=
  match k.privateKey with
  | none => .error .privateNodeNeeded
  | some key =>
    let digest := Hmac.mac key (cipherIdentity request)
    let start := if request.iv.length = 16 then request.iv else (digest.drop 32).take 16
    match Aes.Setting.ofBytes? (digest.take 32) start, Aes.blocks? request.value with
    | some setting, some blocks => .ok ((setting.run request.encrypt.isGiven blocks).flatMap Aes.Block.toBytes)
    | _, _ => .error .blockSize

end HardwareWallet.ExtendedKey
