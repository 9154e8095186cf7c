import HardwareWallet.Error

/-!
Waiting for what a queue holds. Nobody adds to a queue while somebody waits for it, so what is not there at
first is waited for in vain.
-/

namespace HardwareWallet.Timeout

/-- What is found in front of a queue, if anything is. A time before now, one whose end cannot be told and one
    that is no time are refused before the queue is looked at. Only if there is nothing in it, it matters that clocks
    do not count to the end of a time or that the end never comes. -/
def await {α : Type} (timeout : Timeout) (front : Option α) : Except Error (Option α) :=
  match timeout with
  | other v => .error (.comparison "<" v.kindName "int")
  | timeout =>
    if timeout.isNegative then .error .negativeTimeout
    else if timeout.isEndUnknown then .error .magnitude
    else if front.isNone && timeout.isTooLong then .error .timeoutTooLong
    else if front.isNone && timeout.isEndless then .error .endless
    else .ok front

end HardwareWallet.Timeout
