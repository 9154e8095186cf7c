import HardwareWallet.Command.Enumerate
import HardwareWallet.CommandLine.Invocation
import HardwareWallet.Json.Writer

namespace HardwareWallet.CommandLine

structure Outcome where
  output : String
  status : Option Nat
  deriving DecidableEq

def printed (v : Value) : String :=
  Json.render v ++ "\n"

def printedError (text : String) (code : Int) : String :=
  printed (.object (Report.putError none text (.int code) []))

def Halt.outcome : Halt → Outcome
  | help => ⟨printedError "Help text requested" (-17), some 0⟩
  | version => ⟨Invocation.program ++ " " ++ Invocation.version ++ "\n", some 0⟩
  | fault program f => ⟨printedError (program ++ ": error: " ++ f.message) (-2), some 2⟩

namespace Settings

def path? (s : Settings) : Option Value :=
  match s.emulated with
  | some (.proper profile) => some (.text (LinkKind.emulated.scheme ++ ":" ++ profile.name))
  | _ => s.devicePath.filter Value.isGiven

def requirePin {τ : Type} (s : Settings) : Attempt (Client τ) Value :=
  match s.pin with
  | .null => Attempt.fail .pinOption
  | pin => return pin

end Settings

def Command.perform {τ : Type} [Transport τ] (s : Settings) (random : Bytes) : Command → Attempt (Client τ) Report
  | enumerate => return []
  | getFeatures => Client.getFeatures
  | getXpub path => Client.getXpub path s.expert
  | unlock => do Client.unlock (← s.requirePin)
  | setUp label strength => do Client.setUp (← s.requirePin) label strength (.other .null) random
  | wipe => Client.wipe
  | cipherKey keyIndex subIndex label value purpose decrypt =>
    Client.cipherKey keyIndex subIndex label value purpose (.truth !decrypt) s.pin

def connectionErrorCode : Int := -3

/-- The report of a command on a client that is made ready for it and closed after it. An error while it is
    closed takes the place of an earlier one. -/
def Command.report {τ : Type} [Transport τ] (s : Settings) (random : Bytes) (command : Command) (client : Client τ) :
    Except Error Report × Client τ :=
  match Client.opened client with
  | (.error e, client) => (Report.ofError none connectionErrorCode e [], client)
  | (.ok (), client) =>
    let (result, client) := command.perform s random client
    match result.tryCatch fun e => Report.ofError none unknownErrorCode e [] with
    -- an error that is not reported leaves the client as it is
    | .error e => (.error e, client)
    | .ok report =>
      match Client.close client with
      | (.ok (), client) => (.ok report, client)
      | (.error e, client) => (report.ofError none unknownErrorCode e, client)

def Command.reportAt (bus : Bus) (path : Value) (s : Settings) (random : Bytes) (command : Command) :
    Except Error Report :=
  match AnyLink.find bus path with
  | .error e => Report.ofError none connectionErrorCode e []
  | .ok link => (command.report s random (Client.create path s.chain link s.timeout (.int 64) .standard)).1

namespace Invocation

def withPin (pin : Option String) (i : Invocation) : Except Error Invocation :=
  match i.settings.asksPin, pin with
  | false, _ => .ok i
  | true, some pin => .ok { i with settings := { i.settings with pin := .text pin } }
  | true, none => .error .inputEnded

def execute (bus : Bus) (random : Bytes) (i : Invocation) : Except Error Value :=
  match i.command, i.settings.path? with
  | .enumerate, _ =>
    .ok (.array ((AnyLink.enumerate bus i.settings.allowsEmulated i.settings.chain).1.map .object))
  | _, none =>
    let text := "You must specify a device path or an emulator profile for all commands except enumerate"
    .ok (.object (Report.putError none text (.int (-1)) []))
  | command, some path => (command.reportAt bus path i.settings random).map .object

end Invocation

def allWords (arguments : List String) (input : String) : Except Error (List String) :=
  if "--stdin" ∈ arguments then do
    let lines := (input.splitOn "\n").takeWhile fun line => !line.isEmpty
    let words ← (lines.mapM Text.ShellWords.split).mapError .unfinishedWord
    return arguments ++ words.flatten
  else .ok arguments

def asksPin (arguments : List String) (input : String) : Bool :=
  match allWords arguments input with
  | .error _ => false
  | .ok words =>
    match Invocation.parse words with
    | .error _ => false
    | .ok invocation => invocation.settings.asksPin

def run (bus : Bus) (arguments : List String) (input : String) (pin : Option String)
    (random : Bytes := List.replicate 32 0) : Except Error Outcome := do
  match Invocation.parse (← allWords arguments input) with
  | .error halt => return halt.outcome
  | .ok invocation => return ⟨printed (← (← invocation.withPin pin).execute bus random), none⟩

end HardwareWallet.CommandLine
