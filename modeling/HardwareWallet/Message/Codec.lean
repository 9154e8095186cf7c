import HardwareWallet.Report
import HardwareWallet.Value.Access

namespace HardwareWallet

def Features.report (f : Features) : Report :=
  [("vendor", f.vendor), ("major_version", f.majorVersion), ("minor_version", f.minorVersion),
    ("patch_version", f.patchVersion), ("bootloader_mode", f.bootloaderMode), ("device_id", f.deviceId),
    ("pin_protection", f.pinProtection), ("passphrase_protection", f.passphraseProtection),
    ("language", f.language), ("label", f.label), ("initialized", f.initialised), ("pin_cached", f.pinCached),
    ("passphrase_cached", f.passphraseCached), ("model", f.model)]

def Features.override (f : Features) (given : Value) : Features :=
  { vendor := given.fieldOr "vendor" f.vendor
    majorVersion := given.fieldOr "major_version" f.majorVersion
    minorVersion := given.fieldOr "minor_version" f.minorVersion
    patchVersion := given.fieldOr "patch_version" f.patchVersion
    bootloaderMode := given.fieldOr "bootloader_mode" f.bootloaderMode
    deviceId := given.fieldOr "device_id" f.deviceId
    pinProtection := given.fieldOr "pin_protection" f.pinProtection
    passphraseProtection := given.fieldOr "passphrase_protection" f.passphraseProtection
    language := given.fieldOr "language" f.language
    label := given.fieldOr "label" f.label
    initialised := given.fieldOr "initialized" f.initialised
    pinCached := given.fieldOr "pin_cached" f.pinCached
    passphraseCached := given.fieldOr "passphrase_cached" f.passphraseCached
    model := given.fieldOr "model" f.model }

def Features.amend (f : Features) (given : Report) : Except Error Features :=
  match given.find? fun g => g.1 ∉ f.report.map Prod.fst with
  | some g => .error (.messageField g.1)
  | none => .ok (f.override (.object given))

namespace PublicNode

def report (n : PublicNode) : Report :=
  [("depth", n.depth), ("fingerprint", n.fingerprint), ("child_num", n.childNumber), ("chain_code", .hex n.chainCode),
    ("public_key", .hex n.publicKey)]

def checkField : String × Value → Except Error Unit
  | ("chain_code", v) => do let _ ← v.bytes
  | ("public_key", v) => do let _ ← v.bytes
  | _ => .ok ()

def checkFields : Value → Except Error Unit
  | .object given => do
    given.forM checkField
    match given.find? fun f => f.1 ∉ ["msg", "depth", "fingerprint", "child_num", "chain_code", "public_key"] with
    | some f => throw (.messageField f.1)
    | none => return ()
  | _ => .ok ()

def ofValue (v : Value) : Except Error PublicNode := do
  checkFields v
  let depth ← v.needed "depth"
  let fingerprint ← v.needed "fingerprint"
  let childNumber ← v.needed "child_num"
  let chainCode ← (← v.needed "chain_code").bytes
  let publicKey ← (← v.needed "public_key").bytes
  return ⟨depth, fingerprint, childNumber, chainCode, publicKey⟩

end PublicNode

namespace Message

def fields : Message → Report
  | ping s button pin => [("message", s), ("button_protection", button), ("pin_protection", pin)]
  | getPublicKey address display => [("address_n", .array address), ("show_display", display)]
  | pinMatrixAck pin => [("pin", pin)]
  | resetDevice r =>
    [("display_random", r.displayRandom), ("strength", r.strength),
      ("passphrase_protection", r.passphraseProtection), ("pin_protection", r.pinProtection),
      ("language", r.language), ("label", r.label)]
  | entropyAck entropy => [("entropy", .hex entropy)]
  | wordAck word => [("word", word)]
  | cipherKeyValue r =>
    [("address_n", .array r.address), ("key", .hex r.key), ("value", .hex r.value), ("encrypt", r.encrypt),
      ("ask_on_encrypt", r.askOnEncrypt), ("ask_on_decrypt", r.askOnDecrypt), ("iv", .hex r.iv)]
  | features f => f.report
  | node n => n.report
  | publicKey n xpub => [("node", .object (("msg", .text "HDNode") :: n.report)), ("xpub", xpub)]
  | pinMatrixRequest phase => [("type", .optional (fun p => .text p.name) phase)]
  | buttonRequest code data => [("code", .text code.name), ("data", data)]
  | cipheredKeyValue value => [("value", .hex value)]
  | success s => [("message", s)]
  | failure code s => [("code", .text code.name), ("message", s)]
  | _ => []

def toValue (m : Message) : Value :=
  .object (("msg", .text m.name) :: m.fields)

/-- Whether two messages say the same. A plain message says nothing, so it agrees with none. -/
def agrees (m n : Message) : Bool :=
  m ≠ plain && m.toValue.agrees n.toValue

def fieldNames? : String → Option (List String)
  | "HardwareWalletMessage" => some []
  | "Initialize" => some []
  | "GetFeatures" => some []
  | "Ping" => some ["message", "button_protection", "pin_protection"]
  | "ClearSession" => some []
  | "Cancel" => some []
  | "GetPublicKey" => some ["address_n", "show_display"]
  | "PinMatrixAck" => some ["pin"]
  | "ButtonAck" => some []
  | "WipeDevice" => some []
  | "ResetDevice" =>
    some ["display_random", "strength", "passphrase_protection", "pin_protection", "language", "label"]
  | "EntropyAck" => some ["entropy"]
  | "WordAck" => some ["word"]
  | "CipherKeyValue" => some ["address_n", "key", "value", "encrypt", "ask_on_encrypt", "ask_on_decrypt", "iv"]
  | "Features" => some (({} : Features).report.map Prod.fst)
  | "HDNode" => some ["depth", "fingerprint", "child_num", "chain_code", "public_key"]
  | "PublicKey" => some ["node", "xpub"]
  | "PinMatrixRequest" => some ["type"]
  | "ButtonRequest" => some ["code", "data"]
  | "EntropyRequest" => some []
  | "CipheredKeyValue" => some ["value"]
  | "Success" => some ["message"]
  | "Failure" => some ["code", "message"]
  | _ => none

def phase? : Value → Except Error (Option PinPhase)
  | .null => .ok none
  | v => (v.named PinPhase.ofName?).map some

def checkField (name : String) (field : String × Value) : Except Error Unit :=
  match name, field with
  | _, ("address_n", v) => do let _ ← v.members
  | _, ("entropy", v) => do let _ ← v.bytes
  | _, ("key", v) => do let _ ← v.bytes
  | _, ("iv", v) => do let _ ← v.bytes
  | _, ("value", v) => do let _ ← v.bytes
  | "PinMatrixRequest", ("type", v) => do let _ ← phase? v
  | "ButtonRequest", ("code", v) => do let _ ← v.named ButtonCode.ofName?
  | "Failure", ("code", v) => do let _ ← v.named FailureCode.ofName?
  | "PublicKey", ("node", v) => PublicNode.checkFields v
  | _, field => PublicNode.checkField field

def resetIn (v : Value) : ResetRequest :=
  let r : ResetRequest := {}
  { displayRandom := v.fieldOr "display_random" r.displayRandom
    strength := v.fieldOr "strength" r.strength
    passphraseProtection := v.fieldOr "passphrase_protection" r.passphraseProtection
    pinProtection := v.fieldOr "pin_protection" r.pinProtection
    language := v.fieldOr "language" r.language
    label := v.fieldOr "label" r.label }

def cipherIn (v : Value) : Except Error CipherRequest := do
  let address ← (v.fieldOr "address_n" (.array [])).members
  let key ← v.bytesIn "key"
  let value ← v.bytesIn "value"
  let iv ← v.bytesIn "iv"
  return ⟨address, key, value, v.fieldOr "encrypt" (.truth true), v.fieldOr "ask_on_encrypt" (.truth true),
    v.fieldOr "ask_on_decrypt" (.truth true), iv⟩

def ofFields (name : String) (v : Value) : Except Error Message :=
  let empty := Value.text ""
  let no := Value.truth false
  match name with
  | "Initialize" => .ok initialise
  | "GetFeatures" => .ok getFeatures
  | "Ping" => .ok (ping (v.fieldOr "message" empty) (v.fieldOr "button_protection" no) (v.fieldOr "pin_protection" no))
  | "ClearSession" => .ok clearSession
  | "Cancel" => .ok cancel
  | "GetPublicKey" =>
    ((v.fieldOr "address_n" (.array [])).members).map fun address => getPublicKey address (v.fieldOr "show_display" no)
  | "PinMatrixAck" => .ok (pinMatrixAck (v.fieldOr "pin" empty))
  | "ButtonAck" => .ok buttonAck
  | "WipeDevice" => .ok wipeDevice
  | "ResetDevice" => .ok (resetDevice (resetIn v))
  | "EntropyAck" => (v.bytesIn "entropy").map entropyAck
  | "WordAck" => .ok (wordAck (v.fieldOr "word" empty))
  | "CipherKeyValue" => (cipherIn v).map cipherKeyValue
  | "Features" => .ok (features (({} : Features).override v))
  | "HDNode" => (PublicNode.ofValue v).map node
  | "PublicKey" => do return publicKey (← PublicNode.ofValue (← v.needed "node")) (v.fieldOr "xpub" empty)
  | "PinMatrixRequest" => (phase? (v.field "type")).map pinMatrixRequest
  | "ButtonRequest" => do
    return buttonRequest (← v.namedIn "code" ButtonCode.ofName? .other) (v.fieldOr "data" empty)
  | "EntropyRequest" => .ok entropyRequest
  | "CipheredKeyValue" => (v.bytesIn "value").map cipheredKeyValue
  | "Success" => .ok (success (v.fieldOr "message" empty))
  | "Failure" => do
    return failure (← v.namedIn "code" FailureCode.ofName? .processError) (v.fieldOr "message" empty)
  | _ => .ok plain

/-- Reads a message: its name, and fields that messages of this name have. They are checked in the order in
    which they are given, before unexpected and missing ones are looked for. -/
def ofValue (v : Value) : Except Error Message :=
  let name := (v.field "msg").told
  match fieldNames? name, v with
  | some known, .object given => do
    given.forM (checkField name)
    match given.find? fun f => f.1 ∉ "msg" :: known with
    | some f => throw (.messageField f.1)
    | none => ofFields name v
  | _, _ => .error (.messageUnknown name)

end Message

def Event.toValue (e : Event) : Value :=
  .object [("type", .text e.kind.text), ("message", .optional Message.toValue e.message)]

end HardwareWallet
