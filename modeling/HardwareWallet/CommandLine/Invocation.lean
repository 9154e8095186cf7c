import HardwareWallet.CommandLine.Command
import HardwareWallet.Device.Basic
import HardwareWallet.Timeout

namespace HardwareWallet.CommandLine

structure Settings where
  devicePath : Option Value := none
  emulated : Option (Argument Profile) := none
  chain : Chain := .main
  timeout : Timeout := .standard
  pin : Value := .null
  asksPin : Bool := false
  expert : Bool := false
  allowsEmulated : Bool := false

inductive MainOption where
  | help
  | devicePath
  | emulator
  | chain
  | timeout
  | pin
  | stdinPin
  | debug
  | version
  | stdin
  | expert
  | emulators
  deriving DecidableEq

structure Invocation where
  settings : Settings
  command : Command

namespace Invocation

def program : String := "hwwcore"

def version : String := "0.1.0"

def devicePathForm : OptionForm MainOption :=
  { option := .devicePath, spellings := ["--device-path", "-d"], takesValue := true }

def emulatorForm : OptionForm MainOption :=
  { option := .emulator, spellings := ["--emulator", "-e"], takesValue := true }

def grammar : Grammar MainOption Unit :=
  { program := program
    options :=
      [helpForm .help, devicePathForm, emulatorForm,
        { option := .chain, spellings := ["--chain"], takesValue := true },
        { option := .timeout, spellings := ["--timeout"], takesValue := true },
        { option := .pin, spellings := ["--pin"], takesValue := true },
        { option := .stdinPin, spellings := ["--stdinpin"] },
        { option := .debug, spellings := ["--debug"] },
        { option := .version, spellings := ["--version"] },
        { option := .stdin, spellings := ["--stdin"] },
        { option := .expert, spellings := ["--expert"] },
        { option := .emulators, spellings := ["--emulators"] }]
    positionals := [{ positional := (), name := "command", takesRest := true }] }

structure Draft where
  settings : Settings := {}
  command : Option Command := none
  leftover : List String := []

def profileGiven (words : List String) : Except Fault (Argument Profile) :=
  match words with
  | [word] =>
    match Profile.ofName? word with
    | some profile => .ok (.proper profile)
    | none =>
      .error (.notChoice emulatorForm.name (Text.quoted word) (Profile.all.map fun p => Text.quoted p.name))
  | _ => .ok (.other (.array []))

def chainGiven (name : String) : List String → Except Fault Chain
  | [word] =>
    match Chain.ofText? word with
    | some chain => .ok chain
    | none => .error (.notChoice name (Text.quoted word) (Chain.all.map Chain.text))
  | _ => .ok .test

def timeoutGiven (name : String) : List String → Except Fault Timeout
  | [word] =>
    match Timeout.ofText? word with
    | some timeout => .ok timeout
    | none => .error (.notNumber name "float" word)
  | _ => .ok (.other (.array []))

def putOption (form : OptionForm MainOption) (words : List String) (s : Settings) : Except Fault Settings :=
  match form.option with
  | .devicePath =>
    if s.emulated.isSome then .error (.conflict form.name emulatorForm.name)
    else .ok { s with devicePath := some (textGiven words) }
  | .emulator => do
    let profile ← profileGiven words
    if s.devicePath.isSome then throw (.conflict form.name devicePathForm.name)
    return { s with emulated := some profile }
  | .chain => (chainGiven form.name words).map fun chain => { s with chain := chain }
  | .timeout => (timeoutGiven form.name words).map fun timeout => { s with timeout := timeout }
  | .pin => .ok { s with pin := textGiven words }
  | .stdinPin => .ok { s with asksPin := true }
  | .expert => .ok { s with expert := true }
  | .emulators => .ok { s with allowsEmulated := true }
  | _ => .ok s

def acceptOption (form : OptionForm MainOption) (words : List String) (s : Settings) : Except Halt Settings :=
  match form.option with
  | .help => .error .help
  | .version => .error .version
  | _ => (putOption form words s).mapError (.fault program)

def acceptCommand (name : String) (words : List String) (d : Draft) : Except Halt Draft :=
  match Verb.ofText? name with
  | none =>
    .error (.fault program (.notChoice "command" (Text.quoted name) (Verb.all.map fun v => Text.quoted v.text)))
  | some verb => do
    let (command, leftover) ← Command.parse program verb words
    return { d with command := some command, leftover := leftover }

def accept : Given MainOption Unit → Draft → Except Halt Draft
  | .option form words, d => do
    let settings ← acceptOption form words d.settings
    return { d with settings := settings }
  | .positional _ (name :: words), d => acceptCommand name words d
  | .positional _ [], d => .ok d

def parse (words : List String) : Except Halt Invocation := do
  let (d, leftover) ← grammar.parse accept words {}
  match d.command with
  | none => throw (.fault program (.missing ["command"]))
  | some command =>
    let unrecognised := leftover ++ d.leftover
    if unrecognised.isEmpty then return ⟨d.settings, command⟩
    else throw (.fault program (.unrecognised unrecognised))

end Invocation

end HardwareWallet.CommandLine
