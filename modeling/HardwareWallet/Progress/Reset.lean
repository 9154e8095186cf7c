import HardwareWallet.Error
import HardwareWallet.Notice

/-!
How far the creation of a wallet has come, told from requests and replies alone. The device shows each
recovery word and then asks for it again, so there are two steps for each word.
-/

namespace HardwareWallet

structure ResetProgress where
  state : ResetState := .wiped
  wordSteps : Number := .whole 0
  wordCount : Number := .whole 12
  deriving DecidableEq

namespace ResetProgress

def wordsDisplayed (p : ResetProgress) : Number :=
  p.wordSteps.min p.wordCount

def difference (a b : Number) : Except Error Number :=
  match a.sub? b with
  | some n => .ok n
  | none => .error .magnitude

def wordsConfirmed (p : ResetProgress) : Except Error Number :=
  (difference p.wordSteps p.wordCount).map (Number.max (.whole 0))

def stepsRemaining (p : ResetProgress) : Except Error Number :=
  difference (p.wordCount.times 2) p.wordSteps

def wordCountOf (strength : Value) : Except Error Number :=
  match strength.number? with
  | some n => .ok ((n.floorQuotient 32).times 3)
  | none => .error (.operand "//" strength.kindName "int")

def start (before : Option ResetProgress) (state : ResetState) (wordCount : Number) :
    Option ResetProgress × List Notice :=
  let notices := match before with
    | some p => if p.state = .success then [] else [.resetAbandoned p.state]
    | none => []
  (some ⟨state, .whole 0, wordCount⟩, notices)

def entropyRequested (before : Option ResetProgress) : Option ResetProgress × List Notice :=
  match before with
  | some p => (some { p with state := .entropyRequested }, [])
  | none => start none .entropyRequested (.whole 12)

def follow (p : ResetProgress) : Message → Message → Option ResetProgress × List Notice
  | _, .failure .actionCancelled _ => (none, [.resetCancelled])
  | _, .failure .. => (some p, [])
  | .pinMatrixAck _, .pinMatrixRequest _ => (some { p with state := .pinRequested }, [])
  | .entropyAck _, .buttonRequest .. => (some { p with state := .confirmingWords, wordSteps := .whole 0 }, [])
  | .wordAck _, .success _ => (none, [.resetComplete])
  | .wordAck _, _ => (some { p with wordSteps := p.wordSteps.succ }, [])
  | _, _ => (some p, [])

def observe (before : Option ResetProgress) (request reply : Message) :
    Except Error (Option ResetProgress × List Notice) :=
  match request, reply with
  | .wipeDevice, .buttonRequest .. => .ok (start before .wiped (.whole 12))
  | .wipeDevice, _ => .ok (before, [])
  | .resetDevice r, .pinMatrixRequest _ => (wordCountOf r.strength).map (start before .pinRequested)
  | .resetDevice r, .entropyRequest => (wordCountOf r.strength).map (start before .entropyRequested)
  | .resetDevice _, _ => .ok (before, [])
  | .initialise, _ =>
    match before with
    | some ⟨.entropyRequested, _, _⟩ => .ok (none, [.resetInterrupted])
    | some ⟨.confirmingWords, _, _⟩ => .ok (none, [.resetInterrupted])
    | _ => .ok (before, [])
  | _, .entropyRequest => .ok (entropyRequested before)
  | _, _ =>
    match before with
    | some p => .ok (follow p request reply)
    | none => .ok (none, [])

end ResetProgress

end HardwareWallet
