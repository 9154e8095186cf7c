import HardwareWallet.Command.Exchange
import HardwareWallet.ExtendedKey.Derivation
import HardwareWallet.Message.Codec

namespace HardwareWallet

def ExtendedKey.ofNode (node : PublicNode) (testnet : Bool) : Except Error ExtendedKey :=
  match node.fingerprint.int? with
  | none => .error (.partMissing node.fingerprint.kindName "to_bytes")
  | some fingerprint =>
    if 0 ≤ fingerprint ∧ fingerprint < 0x100000000 then
      .ok ⟨publicVersion testnet, node.depth, Bytes.ofNat 4 fingerprint.toNat, node.childNumber,
        node.chainCode, none, node.publicKey⟩
    else .error .fingerprintRange

def ExtendedKey.report (k : ExtendedKey) : Report :=
  let secret := match k.shownPrivateKey with
    | some key => [("privkey", Value.hex key)]
    | none => []
  [("testnet", .truth k.isTestnet), ("private", .truth k.isPrivate), ("depth", k.depth),
    ("parent_fingerprint", .hex k.parentFingerprint), ("child_num", k.childNumber),
    ("chaincode", .hex k.chainCode)] ++ secret ++ [("pubkey", .hex k.publicKey)]

def Features.fullReport (f : Features) : Except Error Report :=
  if Value.areWritable f.version then .ok (f.report ++ [("version", .text (".".intercalate (f.version.map Value.told)))])
  else .error .unwritable

namespace Client

variable {τ : Type} [Transport τ]

def nodeOf (e : Event) : Except Error PublicNode :=
  match e.message with
  | some (.publicKey node _) => .ok node
  | _ => .error (.eventUnexpected e.kind)

def publicNode (path : Value) : Attempt (Client τ) PublicNode := do
  let e ← exchange (hierarchy path) [.publicKey]
  Attempt.ofExcept (nodeOf e)

def masterFingerprint : Attempt (Client τ) Bytes := do
  let node ← publicNode (.array [])
  let key ← Attempt.ofExcept (ExtendedKey.ofNode node false)
  return key.fingerprint

def getFeatures : Attempt (Client τ) Report := do
  let c ← Attempt.get
  match c.features with
  | some f => Attempt.ofExcept f.fullReport
  | none => Attempt.fail .featuresUnknown

def getXpub (path : Value) (expert : Bool) : Attempt (Client τ) Report := do
  let node ← publicNode path
  let c ← Attempt.get
  let key ← Attempt.ofExcept (ExtendedKey.ofNode node (c.chain ≠ .main))
  let text ← Attempt.ofExcept key.text
  return ("xpub", .text text) :: (if expert then key.report else [])

def succeeded (outcome : Value) : Report :=
  [("success", outcome)]

def unlock (pin : Value) : Attempt (Client τ) Report := do
  let e ← exchange (ping (.text "") (.truth true)) [.pinMatrixRequest, .success]
  if e.kind = .success then return succeeded (.truth true)
  let _ ← exchange (pinMatrixAck pin) [.buttonRequest, .success]
  let c ← Attempt.get
  return succeeded c.progress.authentication.unlocked

def maxWordSteps : Nat := 48

def confirmWords (words : Number) : Nat → Attempt (Client τ) Report
  | 0 => Attempt.fail .resetUnfinished
  | steps + 1 => do
    let e ← exchange (wordAck (.text "")) [.buttonRequest, .success]
    if e.kind = .success then
      note [.walletCreated words]
      return [("success", .truth true), ("words", .ofNumber words)]
    else confirmWords words steps

def choosePin (pin : Value) (entropy : Argument Bytes) : Attempt (Client τ) Report := do
  let _ ← exchange (pinMatrixAck pin) [.pinMatrixRequest]
  let _ ← exchange (pinMatrixAck pin) [.entropyRequest]
  let _ ← exchange (entropyAck entropy) [.buttonRequest]
  let c ← Attempt.get
  let words := match c.progress.reset with
    | some p => p.wordCount
    | none => .whole 12
  confirmWords words maxWordSteps

def createWallet (pin label strength : Value) (entropy : Argument Bytes) : Attempt (Client τ) Report := do
  let _ ← exchange (resetDevice { strength := strength, label := label }) [.pinMatrixRequest]
  choosePin pin entropy

def setUpFault? (pin : Value) (c : Client τ) : Option Error :=
  if c.features.any fun f => f.initialised.isGiven then some .alreadyInitialised
  else if pin.isGiven then none
  else some .pinEmpty

def setUp (pin label strength : Value) (entropy : Argument Bytes) (random : Bytes := List.replicate 32 0) :
    Attempt (Client τ) Report := do
  let c ← Attempt.get
  match c.setUpFault? pin with
  | some e => Attempt.fail e
  | none => createWallet pin label strength (if entropy = .other .null then .proper random else entropy)

def wipe : Attempt (Client τ) Report := do
  let _ ← exchange wipeDevice [.buttonRequest]
  let _ ← exchange buttonAck [.success]
  return succeeded (.truth true)

def valueOf (e : Event) : Except Error Bytes :=
  match e.message with
  | some (.cipheredKeyValue value) => .ok value
  | _ => .error (.eventUnexpected e.kind)

def reportValue (e : Event) : Attempt (Client τ) Report := do
  let value ← Attempt.ofExcept (valueOf e)
  return [("value", .hex value)]

def valueBytes : Value → Except Error Bytes
  | .text digits =>
    match Bytes.ofHex? digits with
    | some data => .ok data
    | none => .error .valueHex
  | other => .error (.hexType other)

def labelBytes : Value → Except Error Bytes
  | .text label => .ok (Bytes.ofText label)
  | other => .error (.partMissing other.kindName "encode")

def askAgain (ask : Attempt (Client τ) Unit) (pin : Value) : Attempt (Client τ) Report := do
  let _ ← exchange (pinMatrixAck pin) [.buttonRequest, .success]
  let e ← exchange ask [.cipheredKeyValue]
  reportValue e

def cipherWith (ask : Attempt (Client τ) Unit) (pin : Value) : Attempt (Client τ) Report := do
  let e ← exchange ask [.cipheredKeyValue, .pinMatrixRequest]
  if e.kind = .pinMatrixRequest then
    match pin with
    | .null => Attempt.fail .locked
    | pin => askAgain ask pin
  else reportValue e

def cipherKey (keyIndex subIndex label value : Value) (purpose : Argument KeyPurpose) (encrypt pin : Value) :
    Attempt (Client τ) Report := do
  let data ← Attempt.ofExcept (valueBytes value)
  let ask : Attempt (Client τ) Unit := do
    let label ← Attempt.ofExcept (labelBytes label)
    cipherKeyValue
      { keyIndex := keyIndex
        purpose := purpose
        subIndex := subIndex
        label := .proper label
        value := .proper data
        encrypt := encrypt }
  cipherWith ask pin

def prepare : Attempt (Client τ) Unit := do
  let c ← Attempt.get
  if !(← attach) then Attempt.fail ((Error.deviceMissing c.path.told).showing c.path)
  if !(← connect) then Attempt.fail ((Error.connectFailed c.path.told).showing c.path)
  if !(← initialise) then Attempt.fail .featuresMissing

def opened : Attempt (Client τ) Unit := fun c =>
  match prepare c with
  | (.ok (), c) => (.ok (), c)
  | (.error e, c) =>
    match close c with
    | (.ok (), c) => (.error e, c)
    | (.error e', c) => (.error e', c)

end Client

end HardwareWallet
