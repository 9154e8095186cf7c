import HardwareWallet.Attempt

namespace HardwareWallet

class Transport (τ : Type) where
  path : τ → String
  present : Attempt τ Bool
  connect : Attempt τ Unit
  disconnect : Attempt τ Unit
  write : Message → Attempt τ Unit
  read : Timeout → Attempt τ (Option Message)

def Transport.exchange {τ : Type} [Transport τ] (request : Message) (timeout : Timeout) :
    Attempt τ (Option Message) := do
  Transport.write request
  Transport.read timeout

end HardwareWallet
