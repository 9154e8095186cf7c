import HardwareWallet.Aes.Key
import HardwareWallet.Error

/-!
Values of several blocks: each block is combined with the encrypted block before it, the first one with a
given block. Nothing is padded, so a value has whole blocks only.
-/

namespace HardwareWallet.Aes

def encryptChain (keys : List Block) : Block → List Block → List Block
  | _, [] => []
  | previous, s :: ss =>
    let t := encrypt keys (s.add previous)
    t :: encryptChain keys t ss

def decryptChain (keys : List Block) : Block → List Block → List Block
  | _, [] => []
  | previous, t :: ts => (decrypt keys t).add previous :: decryptChain keys t ts

def blocks? (value : Bytes) : Option (List Block) :=
  (Bytes.chunks 16 value).mapM Block.ofBytes?

structure Setting where
  keys : List Block
  start : Block

def Setting.ofBytes? (key start : Bytes) : Option Setting := do
  let high ← Block.ofBytes? (key.take 16)
  let low ← Block.ofBytes? (key.drop 16)
  let start ← Block.ofBytes? start
  return ⟨roundKeys high low, start⟩

def Setting.run (setting : Setting) (encrypting : Bool) (blocks : List Block) : List Block :=
  if encrypting then encryptChain setting.keys setting.start blocks
  else decryptChain setting.keys setting.start blocks

end HardwareWallet.Aes
