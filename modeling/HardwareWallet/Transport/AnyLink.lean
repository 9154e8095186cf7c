import HardwareWallet.Notice
import HardwareWallet.Transport.Emulated
import HardwareWallet.Transport.Usb

namespace HardwareWallet

inductive LinkKind where
  | emulated
  | usb
  deriving DecidableEq

namespace LinkKind

def all : List LinkKind := [emulated, usb]

def scheme : LinkKind → String
  | emulated => "emulator"
  | usb => "hid"

def title : LinkKind → String
  | emulated => "EmulatorTransport"
  | usb => "HidTransport"

end LinkKind

inductive AnyLink where
  | emulated (link : EmulatedLink)
  | usb (link : UsbLink)
  | scripted (link : ScriptedLink)

namespace AnyLink

def kind? : AnyLink → Option LinkKind
  | emulated _ => some .emulated
  | usb _ => some .usb
  | scripted _ => none

def onLink {α : Type} (x : {τ : Type} → [Transport τ] → Attempt τ α) : Attempt AnyLink α
  | emulated l => match x l with | (r, l) => (r, emulated l)
  | usb l => match x l with | (r, l) => (r, usb l)
  | scripted l => match x l with | (r, l) => (r, scripted l)

def path : AnyLink → String
  | emulated l => Transport.path l
  | usb l => Transport.path l
  | scripted l => Transport.path l

instance : Transport AnyLink where
  path := path
  present := onLink Transport.present
  connect := onLink Transport.connect
  disconnect := onLink Transport.disconnect
  write := fun request => onLink (Transport.write request)
  read := fun timeout => onLink (Transport.read timeout)

def list (bus : Bus) : LinkKind → Except Error (List AnyLink)
  | .emulated => .ok (Profile.all.map fun p => emulated { device := Device.ofProfile p })
  | .usb => bus.paths.map fun paths => paths.map fun path => usb { bus := bus, devicePath := path }

def findEmulated (path : String) : Except Error AnyLink :=
  match path.toList.dropWhile (· ≠ ':') with
  | [] => .error .pathWithoutColon
  | _ :: name =>
    match Device.profileNamed (.text (String.ofList name)) with
    | .ok profile => .ok (emulated { device := Device.ofProfile profile })
    | .error e => .error (.transport e.message)

def findOf (bus : Bus) (kind : LinkKind) (path : Value) : Except Error AnyLink :=
  match kind, path with
  | .emulated, .text s => findEmulated s
  | .emulated, other => .error (.partMissing other.kindName "split")
  | .usb, path => do
    let links ← list bus .usb
    match links.find? fun p => .text p.path = path with
    | some link => return link
    | none => throw ((Error.transport ("hid device not found: " ++ path.told)).showing path)

def find (bus : Bus) : Value → Except Error AnyLink
  | .text s =>
    match LinkKind.all.find? fun k => (k.scheme ++ ":").isPrefixOf s with
    | some kind => findOf bus kind (.text s)
    | none => .error (.transport ("Could not find device by path: " ++ s))
  | other => .error (.partMissing other.kindName "startswith")

def listAll (bus : Bus) : List AnyLink × List Notice :=
  LinkKind.all.foldl
    (fun (links, notices) kind =>
      match list bus kind with
      | .ok found => (links ++ found, notices ++ [.enumerated kind.title found.length])
      | .error e => (links, notices ++ [.enumerationFailed kind.title ("OSError: " ++ e.message)]))
    ([], [])

end AnyLink

end HardwareWallet
