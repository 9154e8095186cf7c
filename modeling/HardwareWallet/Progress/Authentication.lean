import HardwareWallet.Notice
import HardwareWallet.Value.Access

namespace HardwareWallet

structure PinPolicy where
  limit : Number
  deriving DecidableEq

namespace PinPolicy

/-- A device of this family wipes itself after sixteen wrong PINs. -/
def standard : PinPolicy := ⟨.whole 16⟩

def ofLimit (limit : Value) : Except Error PinPolicy := do
  let n ← limit.comparable "<="
  if n.le (.whole 0) then throw .failureLimit else return ⟨n⟩

def allows (policy : PinPolicy) (failures : Number) : Bool :=
  failures.lt policy.limit

end PinPolicy

structure PinEntry where
  phase : Option PinPhase := none
  attempts : Nat := 0
  failures : Nat := 0
  accepted : Nat := 0
  deriving DecidableEq

structure Initialisation where
  calls : Nat := 0
  features : Option Features := none
  deriving DecidableEq

def Initialisation.wiped (i : Initialisation) : Bool :=
  match i.features with
  | some f => !f.initialised.isGiven
  | none => false

structure Authentication where
  policy : PinPolicy := .standard
  entry : Option PinEntry := none
  initialisation : Initialisation := {}
  failures : Nat := 0
  unlocked : Value := .truth false
  deriving DecidableEq

namespace Authentication

def allowsAttempt (a : Authentication) : Bool :=
  a.policy.allows (.whole a.failures)

def startOver (a : Authentication) : Authentication :=
  { a with failures := 0, entry := none }

def countAttempt (a : Authentication) : Authentication :=
  let entry := a.entry.getD {}
  { a with entry := some { entry with attempts := entry.attempts + 1 } }

def isRejection : FailureCode → Bool
  | .pinInvalid => true
  | .pinMismatch => true
  | _ => false

def unlocks : Message → Bool
  | .success _ => true
  | .buttonRequest .protectCall _ => true
  | _ => false

def observePin (a : Authentication) : Message → Authentication × List Notice
  | .failure code _ =>
    if isRejection code then
      let entry := a.entry.getD { attempts := 1 }
      let failures := a.failures + 1
      ({ a with failures := failures, entry := some { entry with failures := entry.failures + 1 } },
        [.pinRejected failures a.policy.limit code])
    else ({ a with entry := none }, [])
  | .pinMatrixRequest phase => ({ a with failures := 0, entry := some { phase := phase } }, [])
  | reply =>
    ({ a with failures := 0, entry := none, unlocked := if unlocks reply then .truth true else a.unlocked }, [])

def observe (a : Authentication) (request reply : Message) : Authentication × List Notice :=
  match request, reply with
  | .initialise, .features f =>
    ({ a with
        initialisation := ⟨a.initialisation.calls + 1, some f⟩
        unlocked := if f.pinCached.isGiven then f.pinCached else .truth !f.pinProtection.isGiven }.startOver, [])
  | .wipeDevice, _ => ({ a with unlocked := .truth false }.startOver, [])
  | .clearSession, _ => ({ a with unlocked := .truth false }.startOver, [])
  | .pinMatrixAck _, reply => a.observePin reply
  | _, .pinMatrixRequest phase => ({ a with unlocked := .truth false, entry := some { phase := phase } }, [])
  | _, _ => (a, [])

end Authentication

end HardwareWallet
