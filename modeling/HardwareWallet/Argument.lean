import HardwareWallet.Value.Basic

namespace HardwareWallet

inductive Argument (α : Type) where
  | proper (a : α)
  | other (given : Value)
  deriving DecidableEq

end HardwareWallet
