import HardwareWallet.Number.Reader
import HardwareWallet.Value.Text

namespace HardwareWallet

inductive Timeout where
  | forever
  | seconds (n : Number)
  | other (given : Value)
  deriving DecidableEq

namespace Timeout

def ofValue (v : Value) : Timeout :=
  match v, v.number? with
  | .null, _ => forever
  | _, some n => seconds n
  | _, none => other v

def text : Timeout → String
  | forever => "None"
  | seconds n => n.text
  | other v => v.told

def isWritable : Timeout → Bool
  | forever => true
  | seconds n => n.isWritable
  | other v => v.isWritable

def standard : Timeout :=
  seconds (.rounded (.ofInt 60))

def ofText? (text : String) : Option Timeout :=
  (Binary64.read? text).map fun x => seconds (.rounded x)

def isNegative : Timeout → Bool
  | seconds n => n.lt (.whole 0)
  | _ => false

/-- Whether the time is a whole number that 64 bits are too few for, so that the end of it cannot be told. -/
def isEndUnknown : Timeout → Bool
  | seconds n => n.whole?.any fun m => (Binary64.ofInt? m).isNone
  | _ => false

def longest : Number :=
  .whole 9223372036

def isTooLong : Timeout → Bool
  | seconds n => longest.lt n
  | _ => false

def isEndless : Timeout → Bool
  | forever => true
  | seconds (.rounded .undefined) => true
  | _ => false

end Timeout

end HardwareWallet
