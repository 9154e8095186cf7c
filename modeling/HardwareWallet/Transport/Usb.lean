import HardwareWallet.Transport.Script

/-!
Links to physical devices over USB. A bus lists the devices that are plugged in. Turning messages into
reports and back is the work of a codec; without one a device is found but not talked to.
-/

namespace HardwareWallet

structure BusDevice where
  path : String
  interface : Int := 0
  vendor : Int := 0x534c
  product : Int := 1
  deriving DecidableEq

structure Bus where
  devices : List BusDevice := []
  openFaults : List (String × String) := []
  fault : Option String := none
  deriving DecidableEq

namespace Bus

def isWallet (d : BusDevice) : Bool :=
  d.vendor = 0x534c && d.product = 1 && d.interface ≠ 1

def paths (bus : Bus) : Except Error (List String) :=
  match bus.fault with
  | some cause => .error (.system cause)
  | none => .ok ((bus.devices.filter isWallet).map BusDevice.path)

end Bus

inductive Codec where
  | missing
  | unimplemented
  | scripted (script : Script)

namespace Codec

def onScript {α : Type} (x : Attempt Script α) : Attempt Codec α := fun c =>
  match c with
  | missing => (.error (.transport "No message codec configured for HID devices"), c)
  | unimplemented => (.error .unimplemented, c)
  | scripted script =>
    match x script with
    | (r, script) => (r, scripted script)

def fault (cause : String) : Error :=
  .transport ("Device disconnected: " ++ cause)

end Codec

structure UsbLink where
  bus : Bus
  devicePath : String
  codec : Codec := .missing
  opened : Bool := false
  activity : List String := []

namespace UsbLink

def path (l : UsbLink) : String :=
  "hid:" ++ l.devicePath

def present : Attempt UsbLink Bool := fun l =>
  (l.bus.paths.map fun paths => paths.contains l.devicePath, l)

def connect : Attempt UsbLink Unit := fun l =>
  match l.bus.openFaults.lookup l.devicePath with
  | some cause => (.error (.transport s!"Unable to open {l.path}: {cause}"), { l with opened := false })
  | none => (.ok (),
      { l with opened := true, activity := l.activity ++ ["open " ++ l.devicePath, "nonblocking true"] })

def disconnect : Attempt UsbLink Unit := fun l =>
  if l.opened then (.ok (), { l with opened := false, activity := l.activity ++ ["close " ++ l.devicePath] })
  else (.ok (), l)

def onCodec {α : Type} (x : Attempt Script α) : Attempt UsbLink α := fun l =>
  if !l.opened then (.error (.transport "Transport is not open"), l)
  else match Codec.onScript x l.codec with
  | (r, codec) => (r, { l with codec := codec })

end UsbLink

instance : Transport UsbLink where
  path := UsbLink.path
  present := UsbLink.present
  connect := UsbLink.connect
  disconnect := UsbLink.disconnect
  write := fun _ => UsbLink.onCodec (Script.write Codec.fault)
  read := fun _ => UsbLink.onCodec (Script.read Codec.fault)

end HardwareWallet
