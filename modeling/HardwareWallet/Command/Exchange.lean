import HardwareWallet.Client

namespace HardwareWallet

def FailureCode.isCancellation : FailureCode → Bool
  | actionCancelled => true
  | pinCancelled => true
  | _ => false

def Event.failureOf : Option Message → Error
  | some (.failure code text) => if code.isCancellation then .deviceCancelled text else .deviceRefused text
  | some m => .partMissing m.name "code"
  | none => .partMissing "NoneType" "code"

def Event.replyOf (events : List Event) (overflowed : Bool) (expected : List EventKind) : Except Error Event :=
  if overflowed then .error .repliesMissed
  else match (events.filter fun e => !e.kind.isLifecycle).getLast? with
  | none => .error .nothingReplied
  | some ⟨.failure, message⟩ => .error (failureOf message)
  | some e => if expected = [] ∨ e.kind ∈ expected then .ok e else .error (.eventUnexpected e.kind)

namespace Channel

def takeReply (c : Channel) (h : Handle) (expected : List EventKind) : Except Error Event × Channel :=
  let (events, c) := c.drain h
  let overflowed := match c.subscription? h with
    | some s => s.overflowed
    | none => false
  (Event.replyOf events overflowed expected, c)

end Channel

namespace Client

variable {τ : Type} [Transport τ]

def takeReply (h : Handle) (expected : List EventKind) : Attempt (Client τ) Event := fun c =>
  let (reply, channel) := c.session.channel.takeReply h expected
  (reply, { c with session := { c.session with channel := channel } })

def exchange (operation : Attempt (Client τ) Unit) (expected : List EventKind) : Attempt (Client τ) Event := do
  let h ← subscribe .null
  Attempt.ensuring (do operation; takeReply h expected) (unsubscribe h)

end Client

end HardwareWallet
