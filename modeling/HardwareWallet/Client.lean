import HardwareWallet.Firmware
import HardwareWallet.Path
import HardwareWallet.Session.Basic

/-!
What applications talk to: a session, and the operations of the protocol on it. An operation answers as
soon as the device has; what the device answered is told by an event.
-/

namespace HardwareWallet

structure Client (τ : Type) where
  path : Value
  chain : Chain
  session : Session τ

namespace Client

variable {τ : Type} [Transport τ]

def create (path : Value) (chain : Chain) (link : τ) (timeout : Timeout) (capacity : Value) (policy : PinPolicy) :
    Client τ :=
  ⟨path, chain, Session.create link timeout { defaultCapacity := capacity } policy⟩

def onSession {α : Type} (x : Attempt (Session τ) α) : Attempt (Client τ) α :=
  x.onPart (fun c => c.session) fun c s => { c with session := s }

def progress (c : Client τ) : Progress :=
  c.session.progress

def features (c : Client τ) : Option Features :=
  c.progress.authentication.initialisation.features

def note (notices : List Notice) : Attempt (Client τ) Unit :=
  onSession (Attempt.modify fun s => s.note notices)

def attach : Attempt (Client τ) Bool :=
  onSession Session.attach

def connect : Attempt (Client τ) Bool :=
  onSession Session.connect

def disconnect : Attempt (Client τ) Unit :=
  onSession Session.disconnect

def close : Attempt (Client τ) Unit :=
  disconnect

def call (request : Message) : Attempt (Client τ) Message :=
  onSession (Session.call request)

def request (m : Message) : Attempt (Client τ) Unit := do
  let _ ← call m
  return ()

def subscribe (capacity : Value) : Attempt (Client τ) Handle := fun c =>
  match c.session.channel.subscribe capacity with
  | .ok (h, channel) => (.ok h, { c with session := { c.session with channel := channel } })
  | .error e => (.error e, c)

def unsubscribe (h : Handle) (c : Client τ) : Client τ :=
  { c with session := { c.session with channel := c.session.channel.close h } }

def drain (h : Handle) : Attempt (Client τ) (List Event) := fun c =>
  let (events, channel) := c.session.channel.drain h
  (.ok events, { c with session := { c.session with channel := channel } })

def noteVendor (f : Features) : Attempt (Client τ) Unit :=
  if Firmware.isKnownVendor f.vendor then pure ()
  else if f.vendor.isWritable then note [.vendorUnknown f.vendor]
  else Attempt.fail .unwritable

def noteFirmware (f : Features) : Attempt (Client τ) Unit :=
  if f.bootloaderMode.isGiven then pure ()
  else do
    if ← Attempt.ofExcept (Firmware.isOutdated f) then note [.firmwareOutdated]

def checkFeatures (f : Features) : Attempt (Client τ) Unit := do
  noteVendor f
  noteFirmware f

def initialise : Attempt (Client τ) Bool := do
  match ← call .initialise with
  | .features f =>
    checkFeatures f
    return true
  | _ => return false

def maxDepth : Nat := 3

def addressOf (path : Value) : Except Error Path := do
  let address ← Path.ofArgument path
  if maxDepth < address.length then throw (.depth address.length (← Path.shown address))
  return address

def hierarchy (path : Value) : Attempt (Client τ) Unit := do
  let address ← Attempt.ofExcept (addressOf path)
  request (.getPublicKey address (.truth false))

/-- The event that stands for a PIN that was not sent because too many before it were wrong. -/
def attemptsExceeded (failures : Nat) : Message :=
  .failure .pinAttemptsExceeded (.text s!"PIN rejected {failures} times in a row")

def countAttempt (s : Session τ) : Session τ :=
  { s with progress := { s.progress with authentication := s.progress.authentication.countAttempt } }

def pinMatrixAck : Value → Attempt (Client τ) Unit
  | .text pin => do
    let c ← Attempt.get
    let a := c.progress.authentication
    if a.allowsAttempt then
      onSession (Attempt.modify countAttempt)
      request (.pinMatrixAck (.text pin))
    else
      note [.pinRefused]
      onSession (Attempt.modify fun s => s.fire .failure (some (attemptsExceeded a.failures)))
  | _ => Attempt.fail .pinType

def wipeDevice : Attempt (Client τ) Unit :=
  request .wipeDevice

def resetDevice (r : ResetRequest) : Attempt (Client τ) Unit :=
  if r.strength.number?.any ResetRequest.isStrength then request (.resetDevice r) else Attempt.fail .strength

def entropyAck : Argument Bytes → Attempt (Client τ) Unit
  | .proper entropy => request (.entropyAck entropy)
  | .other _ => Attempt.fail .entropyType

def wordAck : Value → Attempt (Client τ) Unit
  | .text word => request (.wordAck (.text word))
  | _ => Attempt.fail .wordType

structure CipherArguments where
  keyIndex : Value
  purpose : Argument KeyPurpose
  subIndex : Value
  label : Argument Bytes
  value : Argument Bytes
  encrypt : Value := .truth true
  askOnEncrypt : Value := .truth true
  askOnDecrypt : Value := .truth true

def CipherArguments.request (a : CipherArguments) (chain : Chain) : Except Error CipherRequest :=
  match a.label, a.value, a.purpose with
  | .proper label, .proper value, .proper purpose => do
    let address ← Path.ofCipherKey a.keyIndex (.proper purpose) a.subIndex chain
    return ⟨address, label, value, a.encrypt, a.askOnEncrypt, a.askOnDecrypt, []⟩
  | .proper _, .proper _, .other given => .error ((Error.purpose given).showing given)
  | .proper _, .other _, _ => .error .valueType
  | .other _, _, _ => .error .labelType

def cipherKeyValue (a : CipherArguments) : Attempt (Client τ) Unit := do
  let c ← Attempt.get
  let r ← Attempt.ofExcept (a.request c.chain)
  request (.cipherKeyValue r)

def buttonAck : Attempt (Client τ) Unit :=
  request .buttonAck

def cancel : Attempt (Client τ) Unit :=
  request .cancel

def ping (text pinProtection : Value) : Attempt (Client τ) Unit :=
  request (.ping text (.truth false) pinProtection)

def clearSession : Attempt (Client τ) Unit :=
  request .clearSession

end Client

end HardwareWallet
