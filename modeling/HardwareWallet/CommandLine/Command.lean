import HardwareWallet.Argument
import HardwareWallet.Chain
import HardwareWallet.CommandLine.Grammar
import HardwareWallet.Text.Numeral

namespace HardwareWallet.CommandLine

inductive Verb where
  | enumerate
  | getFeatures
  | getXpub
  | unlock
  | setUp
  | wipe
  | cipherKey
  deriving DecidableEq

namespace Verb

def all : List Verb := [enumerate, getFeatures, getXpub, unlock, setUp, wipe, cipherKey]

def text : Verb → String
  | enumerate => "enumerate"
  | getFeatures => "getfeatures"
  | getXpub => "getxpub"
  | unlock => "unlock"
  | setUp => "setup"
  | wipe => "wipe"
  | cipherKey => "cipherkey"

def ofText? (s : String) : Option Verb :=
  all.find? fun v => v.text = s

end Verb

inductive Command where
  | enumerate
  | getFeatures
  | getXpub (path : Value)
  | unlock
  | setUp (label strength : Value)
  | wipe
  | cipherKey (keyIndex subIndex label value : Value) (purpose : Argument KeyPurpose) (decrypt : Bool)

inductive CommandOption where
  | help
  | label
  | strength
  | purpose
  | decrypt
  deriving DecidableEq

inductive CommandPositional where
  | path
  | keyIndex
  | subIndex
  | label
  | value
  deriving DecidableEq

def helpForm {ω : Type} (option : ω) : OptionForm ω :=
  { option := option, spellings := ["-h", "--help"] }

namespace Verb

def options : Verb → List (OptionForm CommandOption)
  | setUp =>
    [helpForm .help, { option := .label, spellings := ["--label", "-l"], takesValue := true },
      { option := .strength, spellings := ["--strength"], takesValue := true }]
  | cipherKey =>
    [helpForm .help, { option := .purpose, spellings := ["--purpose"], takesValue := true },
      { option := .decrypt, spellings := ["--decrypt"] }]
  | _ => [helpForm .help]

def positionals : Verb → List (PositionalForm CommandPositional)
  | getXpub => [{ positional := .path, name := "path" }]
  | cipherKey =>
    [{ positional := .keyIndex, name := "key_index" }, { positional := .subIndex, name := "sub_index" },
      { positional := .label, name := "label" }, { positional := .value, name := "value" }]
  | _ => []

def grammar (program : String) (v : Verb) : Grammar CommandOption CommandPositional :=
  { program := program ++ " " ++ v.text, options := v.options, positionals := v.positionals }

def blank : Verb → Command
  | enumerate => .enumerate
  | getFeatures => .getFeatures
  | getXpub => .getXpub .null
  | unlock => .unlock
  | setUp => .setUp (.text "") (.int 128)
  | wipe => .wipe
  | cipherKey => .cipherKey .null .null .null .null (.proper .receiveFunds) false

end Verb

def wholeNumber (name value : String) : Except Fault Int :=
  match Text.readInt? value.toList with
  | some n => .ok n
  | none => .error (.notNumber name "int" value)

/-- A text given for an argument. No word is an empty list. -/
def textGiven : List String → Value
  | [word] => .text word
  | _ => .array []

namespace Command

def strengths : List Int := [128, 192, 256]

def strengthGiven (name : String) : List String → Except Fault Value
  | [word] => do
    let n ← wholeNumber name word
    if n ∈ strengths then return .int n else throw (.notChoice name (toString n) (strengths.map toString))
  | _ => .ok (.array [])

def purposeGiven (name : String) : List String → Except Fault (Argument KeyPurpose)
  | [word] =>
    match KeyPurpose.ofText? word with
    | some p => .ok (.proper p)
    | none => .error (.notChoice name (Text.quoted word) (KeyPurpose.all.map KeyPurpose.text))
  | _ => .ok (.other (.array []))

def acceptOption (form : OptionForm CommandOption) (words : List String) : Command → Except Fault Command
  | setUp label strength =>
    match form.option with
    | .label => .ok (setUp (textGiven words) strength)
    | .strength => (strengthGiven form.name words).map (setUp label)
    | _ => .ok (setUp label strength)
  | cipherKey keyIndex subIndex label value purpose decrypt =>
    match form.option with
    | .purpose => (purposeGiven form.name words).map fun p => cipherKey keyIndex subIndex label value p decrypt
    | .decrypt => .ok (cipherKey keyIndex subIndex label value purpose true)
    | _ => .ok (cipherKey keyIndex subIndex label value purpose decrypt)
  | other => .ok other

def positionalValue (form : PositionalForm CommandPositional) (words : List String) : Except Fault Value :=
  let number := match words with
    | [word] => (wholeNumber form.name word).map .int
    | _ => .ok (.array [])
  match form.positional with
  | .keyIndex => number
  | .subIndex => number
  | _ => .ok (textGiven words)

def putPositional (positional : CommandPositional) (v : Value) : Command → Command
  | getXpub path => if positional = .path then getXpub v else getXpub path
  | cipherKey keyIndex subIndex label value purpose decrypt =>
    match positional with
    | .keyIndex => cipherKey v subIndex label value purpose decrypt
    | .subIndex => cipherKey keyIndex v label value purpose decrypt
    | .label => cipherKey keyIndex subIndex v value purpose decrypt
    | .value => cipherKey keyIndex subIndex label v purpose decrypt
    | .path => cipherKey keyIndex subIndex label value purpose decrypt
  | other => other

def accept (program : String) : Given CommandOption CommandPositional → Command → Except Halt Command
  | .option form words, c =>
    if form.option = .help then .error .help
    else (acceptOption form words c).mapError (.fault program)
  | .positional form words, c =>
    ((positionalValue form words).map fun v => putPositional form.positional v c).mapError (.fault program)

def parse (program : String) (v : Verb) (words : List String) : Except Halt (Command × List String) :=
  let g := v.grammar program
  g.parse (accept g.program) words v.blank

end Command

end HardwareWallet.CommandLine
