import HardwareWallet.Command.Flow
import HardwareWallet.Transport.AnyLink

namespace HardwareWallet

/-- An error as it stands in reports: its text and its code, or the given one if it has none. What a device gives for
    the text of a failure need not be one, and a report that never comes is none. -/
def Report.ofError (preface : Option String) (code : Int) (e : Error) (r : Report) : Except Error Report :=
  match e, e.statement with
  | .endless, _ => .error .endless
  | e, .text s => .ok (r.putError preface s (.int (e.code.getD code)))
  | _, other => .error (.concatenation other.kindName)

def Client.describe {τ : Type} [Transport τ] (r : Report) : Client τ → Except Error Report × Client τ := fun c =>
  match c.features with
  | none => (.ok r, c)
  | some f =>
    let needsPin := if f.pinProtection.isGiven then .truth !f.pinCached.isGiven else f.pinProtection
    let r := (r.put "label" f.label).put "needs_pin_sent" needsPin
    if f.initialised.isGiven then
      match masterFingerprint c with
      | (.ok fingerprint, c) => (.ok (r.put "fingerprint" (.hex fingerprint)), c)
      | (.error e, c) => (r.ofError (some "Could not open client or get features:") unknownErrorCode e, c)
    else (.ok (r.put "error" (.text "Not initialized")), c)

namespace AnyLink

def isEmulated (p : AnyLink) : Bool :=
  p.kind? = some .emulated

def entry (p : AnyLink) : Report :=
  [("type", .text "trezor"),
    ("model", .text (if p.isEmulated then "trezor_1_simulator" else "trezor_1")),
    ("path", .text p.path)]

def describe (chain : Chain) (p : AnyLink) : Except Error Report × List Notice :=
  let client := Client.create (.text p.path) chain p .standard (.int 64) .standard
  match Client.opened client with
  | (.ok (), c) =>
    let (r, c) := c.describe p.entry
    let (_, c) := Client.close c
    (r, c.session.log)
  | (.error e, c) =>
    (p.entry.ofError (some "Could not open client or get features:") unknownErrorCode e, c.session.log)

/-- The reports on all devices, those in memory only if they are asked for. The devices that are listed state their
    failures in texts, so that there is a report on each (`AnyLink.length_enumerate`). -/
def enumerate (bus : Bus) (allowEmulated : Bool) (chain : Chain) : List Report × List Notice :=
  let (links, notices) := listAll bus
  let described := (links.filter fun p => allowEmulated || !p.isEmulated).map (describe chain)
  (described.filterMap fun d => d.1.toOption, notices ++ described.flatMap Prod.snd)

end AnyLink

end HardwareWallet
