import HardwareWallet.Digest.Hmac
import HardwareWallet.Digest.Sha256
import HardwareWallet.Mnemonic.WordList

namespace HardwareWallet.Mnemonic

def word (i : Nat) : String :=
  wordList.getD i ""

def spell : Nat → Nat → List String
  | 0, _ => []
  | count + 1, n => spell count (n / 2048) ++ [word (n % 2048)]

@[simp] theorem length_spell (count n : Nat) : (spell count n).length = count := by
  induction count generalizing n with
  | zero => rfl
  | succ count ih => simp [spell, ih]

def withCheckSum (entropy : Bytes) : Nat :=
  let bits := entropy.length / 4
  Bytes.toNat entropy * 1 <<< bits + Bytes.toNat ((Sha256.digest entropy).take 1) >>> (8 - bits)

def ofEntropy (entropy : Bytes) : List String :=
  spell (entropy.length / 4 * 3) (withCheckSum entropy)

theorem length_ofEntropy (entropy : Bytes) : (ofEntropy entropy).length = entropy.length / 4 * 3 := by
  simp [ofEntropy]

/-- The seed of a phrase in decomposed form (NFKD), as every ASCII text is, without pass phrase. The words are not
    checked. -/
def seed (phrase : String) : Bytes :=
  Hmac.stretch (Bytes.ofText phrase) (Bytes.ofText "mnemonic") 2047

end HardwareWallet.Mnemonic
