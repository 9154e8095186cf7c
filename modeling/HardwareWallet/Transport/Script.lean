import HardwareWallet.Transport.Basic

namespace HardwareWallet

inductive Answer where
  | reply (r : Except Error Message)
  | silence
  | writeFault (cause : String)
  | readFault (cause : String)

structure Script where
  answers : List Answer
  current : Answer := .silence

namespace Script

def write (fault : String → Error) : Attempt Script Unit := fun s =>
  let current := s.answers.head?.getD .silence
  let s' := { s with answers := s.answers.tail, current := current }
  match current with
  | .writeFault cause => (.error (fault cause), s')
  | _ => (.ok (), s')

def read (fault : String → Error) : Attempt Script (Option Message) := fun s =>
  match s.current with
  | .reply r => (r.map some, s)
  | .readFault cause => (.error (fault cause), s)
  | _ => (.ok none, s)

end Script

/-- A link over a script. It does not care whether it is open. -/
structure ScriptedLink where
  script : Script
  isPresent : Bool := true
  connectFault : Option String := none
  disconnectFault : Option String := none
  sent : List Message := []

namespace ScriptedLink

def outcome (fault : Option String) : Attempt ScriptedLink Unit :=
  match fault with
  | some cause => .fail (.transport cause)
  | none => pure ()

def onScript {α : Type} (x : Attempt Script α) : Attempt ScriptedLink α :=
  x.onPart (fun l => l.script) fun l s => { l with script := s }

end ScriptedLink

instance : Transport ScriptedLink where
  path := fun _ => "script:0"
  present := fun l => (.ok l.isPresent, l)
  connect := fun l => ScriptedLink.outcome l.connectFault l
  disconnect := fun l => ScriptedLink.outcome l.disconnectFault l
  write := fun request => do
    Attempt.modify fun l => { l with sent := l.sent ++ [request] }
    ScriptedLink.onScript (Script.write .transport)
  read := fun _ => ScriptedLink.onScript (Script.read .transport)

end HardwareWallet
