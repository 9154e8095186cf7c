import HardwareWallet.Proofs.Client.Correlation
import HardwareWallet.Proofs.Client.Written
import HardwareWallet.Proofs.Path.Range
import HardwareWallet.Proofs.Session.Faults
import HardwareWallet.Proofs.Session.Lifecycle

namespace HardwareWallet

open Attempt

namespace Path

variable {path : Path} {given v : Value} {n : ℕ}

end Path

namespace Client

variable {τ : Type} [Transport τ] {c : Client τ} {o : Operation} {e : Error} {given : Value} {address : Path}

variable (hτ : Transport.Sparing τ)

include hτ

omit hτ [Transport τ]

end Client

end HardwareWallet
