import HardwareWallet.Progress.Authentication
import HardwareWallet.Progress.Reset

namespace HardwareWallet

structure Progress where
  authentication : Authentication := {}
  reset : Option ResetProgress := none
  pending : Option CipherRequest := none
  deriving DecidableEq

namespace Progress

def observePending (pending : Option CipherRequest) : Message → Message → Option CipherRequest
  | .cipherKeyValue r, .pinMatrixRequest _ => some r
  | .cipherKeyValue _, _ => none
  | .wipeDevice, _ => none
  | .initialise, _ => none
  | _, _ => pending

/-- All that is known after one more request and its reply, and what keeps the rest from being told: PIN entry
    comes first, then the creation of a wallet, then the request that waits. -/
def observe (p : Progress) (request reply : Message) : Progress × List Notice × Except Error Unit :=
  let (authentication, first) := p.authentication.observe request reply
  match ResetProgress.observe p.reset request reply with
  | .ok (reset, second) =>
    (⟨authentication, reset, observePending p.pending request reply⟩, first ++ second, .ok ())
  | .error e => ({ p with authentication := authentication }, first, .error e)

end Progress

end HardwareWallet
