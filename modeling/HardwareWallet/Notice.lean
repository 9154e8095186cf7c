import HardwareWallet.Message.Basic
import HardwareWallet.Value.Text

namespace HardwareWallet

inductive ResetState where
  | wiped
  | pinRequested
  | entropyRequested
  | confirmingWords
  | success
  deriving DecidableEq

def ResetState.text : ResetState → String
  | wiped => "wiped"
  | pinRequested => "pin_requested"
  | entropyRequested => "entropy_requested"
  | confirmingWords => "confirming_words"
  | success => "success"

inductive Level where
  | info
  | warning
  | error
  deriving DecidableEq

def Level.text : Level → String
  | info => "INFO"
  | warning => "WARNING"
  | error => "ERROR"

inductive Notice where
  | sessionCreated (path : String)
  | connectFailed (path cause : String)
  | subscriberDropped
  | pinRejected (count : Nat) (limit : Number) (code : FailureCode)
  | pinRefused
  | resetAbandoned (state : ResetState)
  | resetInterrupted
  | resetCancelled
  | resetComplete
  | vendorUnknown (vendor : Value)
  | firmwareOutdated
  | walletCreated (words : Number)
  | enumerated (transport : String) (count : Nat)
  | enumerationFailed (transport cause : String)
  deriving DecidableEq

namespace Notice

def level : Notice → Level
  | connectFailed .. => .error
  | enumerationFailed .. => .error
  | subscriberDropped => .warning
  | pinRejected .. => .warning
  | pinRefused => .warning
  | vendorUnknown _ => .warning
  | firmwareOutdated => .warning
  | _ => .info

def text : Notice → String
  | sessionCreated path => "creating session for device: " ++ path
  | connectFailed path cause => s!"Unable to connect to {path}: {cause}"
  | subscriberDropped => "Subscriber queue full, dropping subscriber"
  | pinRejected count limit _ => s!"PIN rejected by device ({count} of {limit.text} attempts used)"
  | pinRefused => "Refusing to send PIN, too many failed attempts"
  | resetAbandoned state => "Abandoning reset in state " ++ state.text
  | resetInterrupted => "Initialize abandoned the reset in progress"
  | resetCancelled => "Reset cancelled"
  | resetComplete => "Device reset complete"
  | vendorUnknown vendor => "Unexpected device vendor " ++ vendor.told
  | firmwareOutdated => "Your Trezor firmware is out of date. Update it with the following command:\n" ++
      "  trezorctl firmware-update\nOr visit https://wallet.trezor.io/"
  | walletCreated words => s!"Wallet created, {words.text} recovery words"
  | enumerated transport count => s!"Enumerating {transport}: found {count} devices"
  | enumerationFailed transport cause => s!"Failed to enumerate {transport}. {cause}"

def line (n : Notice) : String :=
  n.level.text ++ " " ++ n.text

end Notice

end HardwareWallet
