import HardwareWallet.ExtendedKey.Derivation
import HardwareWallet.Message.Basic
import HardwareWallet.Mnemonic.Phrase

/-!
A device in memory that stands in for a real one. It holds a wallet and is locked by a PIN, or it is
blank and waits for a wallet to be created: a new PIN, the same PIN again, entropy from the host, then
every recovery word shown and checked.
-/

namespace HardwareWallet

inductive Profile where
  | initialised
  | wiped
  deriving DecidableEq

namespace Profile

def all : List Profile := [initialised, wiped]

def name : Profile → String
  | initialised => "initialised"
  | wiped => "wiped"

def ofName? (s : String) : Option Profile :=
  all.find? fun p => p.name = s

def deviceId : Profile → String
  | initialised => "EMULATOR-INITIALISED"
  | wiped => "EMULATOR-WIPED"

end Profile

inductive ResetPhase where
  | pinFirst
  | pinSecond
  | entropy
  | words
  deriving DecidableEq

def ResetPhase.text : ResetPhase → String
  | pinFirst => "pin_first"
  | pinSecond => "pin_second"
  | entropy => "entropy"
  | words => "words"

structure Device where
  profile : Profile
  pin : Value
  label : Value
  internalEntropy : Bytes
  seed : Option Bytes
  initialised : Bool
  phase : Option ResetPhase
  unlocked : Bool := false
  strength : Number := .whole 128
  words : List String := []
  wordStep : Nat := 0
  pinAcks : Nat := 0
  initialiseCalls : Nat := 0
  stalled : Bool := false
  plugged : Bool := true
  deriving DecidableEq

namespace Device

def defaultPin : String := "1234"

def defaultMnemonic : String :=
  "alcohol woman abuse must during monitor noble actual mixed trade anger aisle"

def defaultLabel : String := "hwwcore emulator"

def defaultEntropy : Bytes :=
  List.replicate 32 0

def fresh (profile : Profile) (pin : Value) (mnemonic : String) (internalEntropy : Bytes) (label : Value) : Device :=
  match profile with
  | .initialised => ⟨profile, pin, label, internalEntropy, some (Mnemonic.seed mnemonic), true, none,
      false, .whole 128, [], 0, 0, 0, false, true⟩
  | .wiped => ⟨profile, pin, label, internalEntropy, none, false, some .pinFirst,
      false, .whole 128, [], 0, 0, 0, false, true⟩

def ofProfile (profile : Profile) : Device :=
  fresh profile (.text defaultPin) defaultMnemonic defaultEntropy (.text defaultLabel)

def ofMnemonic (profile : Profile) (pin mnemonic : Value) (internalEntropy : Bytes) (label : Value) :
    Except Error Device :=
  match profile, mnemonic with
  | .wiped, _ => .ok (fresh .wiped pin "" internalEntropy label)
  | .initialised, .text words => .ok (fresh .initialised pin words internalEntropy label)
  | .initialised, _ => .error .mnemonicType

def profileNamed (name : Value) : Except Error Profile :=
  match name.text?.bind Profile.ofName? with
  | some profile => .ok profile
  | none => .error ((Error.profile name).showing name)

def master? (d : Device) : Option (Except Error ExtendedKey) :=
  d.seed.map fun seed => ExtendedKey.ofSeed seed false

def featuresAs (d : Device) (initialised : Bool) : Features :=
  { majorVersion := .int 1
    minorVersion := .int 12
    patchVersion := .int 1
    deviceId := .text d.profile.deviceId
    pinProtection := .truth true
    label := d.label
    initialised := .truth initialised
    pinCached := .truth d.unlocked }

def features (d : Device) : Features :=
  d.featuresAs d.initialised

def stepText (d : Device) : String :=
  let count := d.words.length
  if d.wordStep < count then s!"Write down word {d.wordStep + 1} of {count}"
  else s!"Check word {d.wordStep - count + 1} of {count}"

end Device

end HardwareWallet
