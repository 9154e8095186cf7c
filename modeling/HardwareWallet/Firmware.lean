import HardwareWallet.Message.Basic
import HardwareWallet.Text.Numeral
import HardwareWallet.Value.Access

namespace HardwareWallet.Firmware

def vendors : List String :=
  ["bitcointrezor.com", "trezor.io"]

def isKnownVendor (vendor : Value) : Bool :=
  vendor.text?.any vendors.contains

def required? (model : Value) : Except Error (Option (List Int)) :=
  let known (name : String) : Option (List Int) :=
    if name = "1" then some [1, 8, 0] else if name = "T" then some [2, 1, 0] else none
  if !model.isGiven then .ok (known "1")
  else match model with
  | .text name => .ok (known name)
  | .array _ => .error (.unhashable model.kindName)
  | .object _ => .error (.unhashable model.kindName)
  | _ => .ok none

/-- The whole number that a part of a version is read as: what stands behind a point is lost, and texts are read. -/
def versionNumber (given : Value) : Except Error Int :=
  match given, given.int? with
  | .text s, _ =>
    match Text.readInt? s.toList with
    | some n => .ok n
    | none => .error .versionText
  | .rounded (.finite negative units), _ => .ok (Binary64.truncated negative units)
  | .rounded (.infinite _), _ => .error .versionRange
  | .rounded .undefined, _ => .error .versionText
  | _, some n => .ok n
  | _, none => .error (.versionType given)

def version (f : Features) : Except Error (List Int) := do
  let numbers ← f.version.mapM versionNumber
  if numbers.any (· < 0) then throw .negativeVersion else return numbers

def isOutdated (f : Features) : Except Error Bool := do
  match ← required? f.model with
  | none => return false
  | some required => return decide ((← version f) < required)

end HardwareWallet.Firmware
