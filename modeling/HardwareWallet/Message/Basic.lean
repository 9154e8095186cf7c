import HardwareWallet.Bytes
import HardwareWallet.Value.Basic

/-!
The messages between host and device. Each request gets one reply. Codes and bytes are checked when a message
is made; its other fields are as its sender gave them.
-/

namespace HardwareWallet

inductive FailureCode where
  | unexpectedMessage
  | buttonExpected
  | dataError
  | actionCancelled
  | pinExpected
  | pinCancelled
  | pinInvalid
  | invalidSignature
  | processError
  | notEnoughFunds
  | notInitialised
  | pinMismatch
  | firmwareError
  | timeout
  | pinAttemptsExceeded
  deriving DecidableEq

namespace FailureCode

def all : List FailureCode :=
  [unexpectedMessage, buttonExpected, dataError, actionCancelled, pinExpected, pinCancelled, pinInvalid,
    invalidSignature, processError, notEnoughFunds, notInitialised, pinMismatch, firmwareError, timeout,
    pinAttemptsExceeded]

def name : FailureCode → String
  | unexpectedMessage => "UnexpectedMessage"
  | buttonExpected => "ButtonExpected"
  | dataError => "DataError"
  | actionCancelled => "ActionCancelled"
  | pinExpected => "PinExpected"
  | pinCancelled => "PinCancelled"
  | pinInvalid => "PinInvalid"
  | invalidSignature => "InvalidSignature"
  | processError => "ProcessError"
  | notEnoughFunds => "NotEnoughFunds"
  | notInitialised => "NotInitialized"
  | pinMismatch => "PinMismatch"
  | firmwareError => "FirmwareError"
  | timeout => "Timeout"
  | pinAttemptsExceeded => "PinAttemptsExceeded"

def ofName? (s : String) : Option FailureCode :=
  all.find? fun c => c.name = s

end FailureCode

inductive ButtonCode where
  | other
  | feeOverThreshold
  | confirmOutput
  | resetDevice
  | confirmWord
  | wipeDevice
  | protectCall
  | signTx
  | firmwareCheck
  | address
  | publicKey
  deriving DecidableEq

namespace ButtonCode

def all : List ButtonCode :=
  [other, feeOverThreshold, confirmOutput, resetDevice, confirmWord, wipeDevice, protectCall, signTx,
    firmwareCheck, address, publicKey]

def name : ButtonCode → String
  | other => "Other"
  | feeOverThreshold => "FeeOverThreshold"
  | confirmOutput => "ConfirmOutput"
  | resetDevice => "ResetDevice"
  | confirmWord => "ConfirmWord"
  | wipeDevice => "WipeDevice"
  | protectCall => "ProtectCall"
  | signTx => "SignTx"
  | firmwareCheck => "FirmwareCheck"
  | address => "Address"
  | publicKey => "PublicKey"

def ofName? (s : String) : Option ButtonCode :=
  all.find? fun c => c.name = s

end ButtonCode

inductive PinPhase where
  | current
  | newFirst
  | newSecond
  deriving DecidableEq

namespace PinPhase

def all : List PinPhase :=
  [current, newFirst, newSecond]

def name : PinPhase → String
  | current => "Current"
  | newFirst => "NewFirst"
  | newSecond => "NewSecond"

def ofName? (s : String) : Option PinPhase :=
  all.find? fun c => c.name = s

end PinPhase

structure ResetRequest where
  displayRandom : Value := .truth false
  strength : Value := .int 128
  passphraseProtection : Value := .truth false
  pinProtection : Value := .truth true
  language : Value := .text "english"
  label : Value := .text ""
  deriving DecidableEq

def ResetRequest.isStrength (strength : Number) : Bool :=
  strength.agrees (.whole 128) || strength.agrees (.whole 192) || strength.agrees (.whole 256)

structure CipherRequest where
  address : List Value := []
  key : Bytes := []
  value : Bytes := []
  encrypt : Value := .truth true
  askOnEncrypt : Value := .truth true
  askOnDecrypt : Value := .truth true
  iv : Bytes := []
  deriving DecidableEq

structure Features where
  vendor : Value := .text "bitcointrezor.com"
  majorVersion : Value := .int 1
  minorVersion : Value := .int 3
  patchVersion : Value := .int 0
  bootloaderMode : Value := .truth false
  deviceId : Value := .text ""
  pinProtection : Value := .truth false
  passphraseProtection : Value := .truth false
  language : Value := .text "english"
  label : Value := .text ""
  initialised : Value := .truth false
  pinCached : Value := .truth false
  passphraseCached : Value := .truth false
  model : Value := .text "1"
  deriving DecidableEq

def Features.version (f : Features) : List Value :=
  [f.majorVersion, f.minorVersion, f.patchVersion]

structure PublicNode where
  depth : Value
  fingerprint : Value
  childNumber : Value
  chainCode : Bytes
  publicKey : Bytes
  deriving DecidableEq

inductive Message where
  | plain
  | initialise
  | getFeatures
  | ping (text buttonProtection pinProtection : Value)
  | clearSession
  | cancel
  | getPublicKey (address : List Value) (showDisplay : Value)
  | pinMatrixAck (pin : Value)
  | buttonAck
  | wipeDevice
  | resetDevice (request : ResetRequest)
  | entropyAck (entropy : Bytes)
  | wordAck (word : Value)
  | cipherKeyValue (request : CipherRequest)
  | features (features : Features)
  | node (node : PublicNode)
  | publicKey (node : PublicNode) (xpub : Value)
  | pinMatrixRequest (phase : Option PinPhase)
  | buttonRequest (code : ButtonCode) (data : Value)
  | entropyRequest
  | cipheredKeyValue (value : Bytes)
  | success (text : Value)
  | failure (code : FailureCode) (text : Value)
  deriving DecidableEq

namespace Message

def name : Message → String
  | plain => "HardwareWalletMessage"
  | initialise => "Initialize"
  | getFeatures => "GetFeatures"
  | ping .. => "Ping"
  | clearSession => "ClearSession"
  | cancel => "Cancel"
  | getPublicKey .. => "GetPublicKey"
  | pinMatrixAck _ => "PinMatrixAck"
  | buttonAck => "ButtonAck"
  | wipeDevice => "WipeDevice"
  | resetDevice _ => "ResetDevice"
  | entropyAck _ => "EntropyAck"
  | wordAck _ => "WordAck"
  | cipherKeyValue _ => "CipherKeyValue"
  | features _ => "Features"
  | node _ => "HDNode"
  | publicKey .. => "PublicKey"
  | pinMatrixRequest _ => "PinMatrixRequest"
  | buttonRequest .. => "ButtonRequest"
  | entropyRequest => "EntropyRequest"
  | cipheredKeyValue _ => "CipheredKeyValue"
  | success _ => "Success"
  | failure .. => "Failure"

end Message

end HardwareWallet
