import HardwareWallet.Digest.Ripemd160
import HardwareWallet.Digest.Sha256

namespace HardwareWallet

def hash256 (message : Bytes) : Bytes :=
  Sha256.digest (Sha256.digest message)

def hash160 (message : Bytes) : Bytes :=
  Ripemd160.digest (Sha256.digest message)

@[simp] theorem length_hash256 (message : Bytes) : (hash256 message).length = 32 := rfl

@[simp] theorem length_hash160 (message : Bytes) : (hash160 message).length = 20 := rfl

end HardwareWallet
