import HardwareWallet.Transport.Basic

namespace HardwareWallet

structure AmendedLink (τ : Type) where
  link : τ
  amend : Features → Except Error Features

namespace AmendedLink

variable {τ : Type} [Transport τ]

def onLink {α : Type} (x : Attempt τ α) : Attempt (AmendedLink τ) α :=
  x.onPart (fun l => l.link) fun l link => { l with link := link }

def amendReply (amend : Features → Except Error Features) : Message → Except Error Message
  | .features f => (amend f).map .features
  | m => .ok m

instance : Transport (AmendedLink τ) where
  path := fun l => Transport.path l.link
  present := onLink Transport.present
  connect := onLink Transport.connect
  disconnect := onLink Transport.disconnect
  write := fun request => onLink (Transport.write request)
  read := fun timeout => do
    let reply ← onLink (Transport.read timeout)
    let l ← Attempt.get
    Attempt.ofExcept (reply.mapM (amendReply l.amend))

end AmendedLink

end HardwareWallet
