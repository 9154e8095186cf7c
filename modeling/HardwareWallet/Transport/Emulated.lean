import HardwareWallet.Device.Process
import HardwareWallet.Transport.Basic
import HardwareWallet.Waiting

namespace HardwareWallet

structure EmulatedLink where
  device : Device
  opened : Bool := false
  replies : List Message := []
  received : List Message := []
  deriving DecidableEq

namespace EmulatedLink

def path (l : EmulatedLink) : String :=
  "emulator:" ++ l.device.profile.name

def connect : Attempt EmulatedLink Unit := fun l =>
  if l.device.plugged then (.ok (), { l with opened := true })
  else (.error (.transport "Device not found"), l)

def disconnect : Attempt EmulatedLink Unit := fun l =>
  (.ok (), { l with opened := false, replies := [] })

def fault? (l : EmulatedLink) : Option Error :=
  if !l.device.plugged then some (.transport "Device disconnected")
  else if !l.opened then some (.transport "Transport is not open")
  else none

def write (request : Message) : Attempt EmulatedLink Unit := fun l =>
  match l.fault? with
  | some e => (.error e, l)
  | none =>
    let l := { l with received := l.received ++ [request] }
    match Device.process request l.device with
    | (.ok reply, device) => (.ok (), { l with device := device, replies := l.replies ++ reply.toList })
    | (.error e, device) => (.error e, { l with device := device })

/-- The oldest reply in the queue. A device in memory replies at once or never. -/
def read (timeout : Timeout) : Attempt EmulatedLink (Option Message) := fun l =>
  match l.fault? with
  | some e => (.error e, l)
  | none =>
    match timeout.await l.replies.head? with
    | .ok reply => (.ok reply, { l with replies := l.replies.tail })
    | .error e => (.error e, l)

end EmulatedLink

instance : Transport EmulatedLink where
  path := EmulatedLink.path
  present := fun l => (.ok l.device.plugged, l)
  connect := EmulatedLink.connect
  disconnect := EmulatedLink.disconnect
  write := EmulatedLink.write
  read := EmulatedLink.read

end HardwareWallet
