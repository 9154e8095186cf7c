import HardwareWallet.Message.Basic

namespace HardwareWallet

inductive EventKind where
  | features
  | publicKey
  | pinMatrixRequest
  | buttonRequest
  | entropyRequest
  | cipheredKeyValue
  | success
  | failure
  | deviceAttached
  | deviceConnected
  | deviceDisconnected
  | deviceFailed
  deriving DecidableEq

namespace EventKind

def all : List EventKind :=
  [features, publicKey, pinMatrixRequest, buttonRequest, entropyRequest, cipheredKeyValue, success, failure,
    deviceAttached, deviceConnected, deviceDisconnected, deviceFailed]

def text : EventKind → String
  | features => "features"
  | publicKey => "public_key"
  | pinMatrixRequest => "pin_matrix_request"
  | buttonRequest => "button_request"
  | entropyRequest => "entropy_request"
  | cipheredKeyValue => "ciphered_key_value"
  | success => "success"
  | failure => "failure"
  | deviceAttached => "device_attached"
  | deviceConnected => "device_connected"
  | deviceDisconnected => "device_disconnected"
  | deviceFailed => "device_failed"

def name : EventKind → String
  | features => "FEATURES"
  | publicKey => "PUBLIC_KEY"
  | pinMatrixRequest => "PIN_MATRIX_REQUEST"
  | buttonRequest => "BUTTON_REQUEST"
  | entropyRequest => "ENTROPY_REQUEST"
  | cipheredKeyValue => "CIPHERED_KEY_VALUE"
  | success => "SUCCESS"
  | failure => "FAILURE"
  | deviceAttached => "DEVICE_ATTACHED"
  | deviceConnected => "DEVICE_CONNECTED"
  | deviceDisconnected => "DEVICE_DISCONNECTED"
  | deviceFailed => "DEVICE_FAILED"

def ofName? (s : String) : Option EventKind :=
  all.find? fun k => k.name = s

def isLifecycle : EventKind → Bool
  | deviceAttached => true
  | deviceConnected => true
  | deviceDisconnected => true
  | deviceFailed => true
  | _ => false

def ofReply? : Message → Option EventKind
  | .features _ => some features
  | .publicKey .. => some publicKey
  | .pinMatrixRequest _ => some pinMatrixRequest
  | .buttonRequest .. => some buttonRequest
  | .entropyRequest => some entropyRequest
  | .cipheredKeyValue _ => some cipheredKeyValue
  | .success _ => some success
  | .failure .. => some failure
  | _ => none

end EventKind

structure Event where
  kind : EventKind
  message : Option Message := none
  deriving DecidableEq

end HardwareWallet
