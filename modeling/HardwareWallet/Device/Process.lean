import HardwareWallet.Attempt
import HardwareWallet.Device.Basic
import HardwareWallet.ExtendedKey.Cipher

namespace HardwareWallet.Device

def refusal (code : FailureCode) (text : String) : Message :=
  .failure code (.text text)

def unexpected : Message :=
  refusal .unexpectedMessage "Unexpected message"

def notInReset : Message :=
  refusal .unexpectedMessage "Not in Reset mode"

def noWallet : Message :=
  refusal .notInitialised "Device not initialized"

def confirmation (code : ButtonCode) (text : String) : Message :=
  .buttonRequest code (.text text)

def done (text : String) : Message :=
  .success (.text text)

/-- Starting a protocol session gives up entropy and word steps. A device that left the factory blank
    says so to the first session only. -/
def initialise (d : Device) : Message × Device :=
  let phase := match d.phase with
    | some .entropy => if d.seed.isNone then some ResetPhase.pinFirst else none
    | some .words => if d.seed.isNone then some ResetPhase.pinFirst else none
    | phase => phase
  let d := { d with phase := phase, initialiseCalls := d.initialiseCalls + 1 }
  match d.profile with
  | .wiped => (.features (d.featuresAs (1 < d.initialiseCalls)), d)
  | .initialised => (.features d.features, d)

def ping (d : Device) (text buttonProtection pinProtection : Value) : Message :=
  if pinProtection.isGiven && !d.unlocked then .pinMatrixRequest (some .current)
  else if buttonProtection.isGiven then confirmation .protectCall ""
  else .success text

def cancel (d : Device) : Message × Device :=
  let phase := match d.phase with
    | some .pinSecond => some ResetPhase.pinFirst
    | some .entropy => some ResetPhase.pinFirst
    | some .words => some ResetPhase.pinFirst
    | phase => phase
  (refusal .actionCancelled "Cancelled", { d with phase := phase })

def pinMatrixAck (d : Device) (pin : Value) : Message × Device :=
  if !pin.agrees d.pin then (refusal .pinInvalid "Invalid PIN", d)
  else match d.phase with
  | some .pinFirst => (.pinMatrixRequest (some .newSecond), { d with phase := some .pinSecond })
  | some .pinSecond => (.entropyRequest, { d with phase := some .entropy })
  | _ =>
    let d := { d with pinAcks := d.pinAcks + 1 }
    if d.pinAcks = 1 then (confirmation .protectCall "", { d with unlocked := true })
    else (done "PIN already accepted", d)

def wipe (d : Device) : Message × Device :=
  (confirmation .wipeDevice "",
    { d with
      seed := none
      words := []
      wordStep := 0
      pinAcks := 0
      unlocked := false
      initialised := false
      phase := some .pinFirst })

def prepared (d : Device) (strength : Number) (r : ResetRequest) : Device :=
  { d with strength := strength, label := if r.label.isGiven then r.label else d.label }

def reset (d : Device) (r : ResetRequest) : Message × Device :=
  if d.seed.isSome then
    (refusal .unexpectedMessage "Device is already initialized. Use Wipe first.", d)
  else match r.strength.number?.filter ResetRequest.isStrength with
  | none => (refusal .dataError "Invalid strength (has to be 128, 192 or 256 bits)", d)
  | some strength =>
    let d := d.prepared strength r
    if r.pinProtection.isGiven then (.pinMatrixRequest (some .newFirst), { d with phase := some .pinFirst })
    else (.entropyRequest, { d with phase := some .entropy })

def walletEntropy (internal host : Bytes) (strength : Int) : Bytes :=
  (Sha256.digest (internal ++ host)).take (strength / 8).toNat

def entropyAck (d : Device) (entropy : Bytes) : Except Error (Message × Device) :=
  if d.phase ≠ some .entropy then .ok (notInReset, d)
  else match d.strength.whole? with
  | none => .error .strengthType
  | some strength =>
    let words := Mnemonic.ofEntropy (walletEntropy d.internalEntropy entropy strength)
    let d := { d with words := words, wordStep := 0, phase := some .words }
    .ok (confirmation .confirmWord d.stepText, d)

def wordAck (d : Device) : Message × Device :=
  if d.phase ≠ some .words then (notInReset, d)
  else
    let d := { d with wordStep := d.wordStep + 1 }
    if d.wordStep < 2 * d.words.length then (confirmation .confirmWord d.stepText, d)
    else
      (done "Device reset",
        { d with
          seed := some (Mnemonic.seed (" ".intercalate d.words))
          words := []
          wordStep := 0
          phase := none
          initialised := true })

def publicKey (d : Device) (address : Path) : Except Error Message :=
  match d.master? with
  | none => .ok noWallet
  | some master => do
    let node ← (← master).derive address
    let xpub ← node.neuter.text
    let fingerprint := Bytes.toNat node.parentFingerprint
    return .publicKey ⟨node.depth, .int fingerprint, node.childNumber, node.chainCode, node.publicKey⟩ (.text xpub)

def cipherKeyValue (d : Device) (r : CipherRequest) : Except Error Message :=
  match d.master? with
  | none => .ok noWallet
  | some master => do
    let master ← master
    if !d.unlocked then return .pinMatrixRequest (some .current)
    else if r.value.length % 16 > 0 then return refusal .dataError "Value length must be a multiple of 16"
    else
      let node ← master.derive r.address
      let value ← node.cipher r
      return .cipheredKeyValue value

/-- The reply to a request and the device afterwards. A reply that cannot be computed leaves the device as it was. -/
def answer (d : Device) : Message → Except Error (Message × Device)
  | .initialise => .ok d.initialise
  | .getFeatures => .ok (.features d.features, d)
  | .ping text button pin => .ok (d.ping text button pin, d)
  | .clearSession => .ok (done "Session cleared", { d with unlocked := false })
  | .cancel => .ok d.cancel
  | .buttonAck => .ok (done "Confirmed", d)
  | .getPublicKey address _ => (d.publicKey address).map fun m => (m, d)
  | .pinMatrixAck pin => .ok (d.pinMatrixAck pin)
  | .wipeDevice => .ok d.wipe
  | .resetDevice r => .ok (d.reset r)
  | .entropyAck entropy => d.entropyAck entropy
  | .wordAck _ => .ok d.wordAck
  | .cipherKeyValue r => (d.cipherKeyValue r).map fun m => (m, d)
  | _ => .ok (unexpected, d)

def process (request : Message) : Attempt Device (Option Message) := fun d =>
  if d.stalled then (.ok none, d)
  else match d.answer request with
  | .ok (reply, d') => (.ok (some reply), d')
  | .error e => (.error e, d)

end HardwareWallet.Device
