import HardwareWallet.Argument
import HardwareWallet.Chain
import HardwareWallet.Text.Numeral
import HardwareWallet.Value.Access

namespace HardwareWallet

/-- Child numbers as they were given. Those of a path text are whole numbers. -/
abbrev Path := List Value

namespace Path

def hardenedFlag : Int := 0x80000000

def isHardened (i : Int) : Bool :=
  i / hardenedFlag % 2 = 1

def harden (i : Int) : Int :=
  if isHardened i then i else i + hardenedFlag

def soften (i : Int) : Int :=
  if isHardened i then i - hardenedFlag else i

def bits (v : Value) : Except Error Int :=
  match v.int? with
  | some i => .ok i
  | none => .error (.operand "&" v.kindName "int")

def hardened (v : Value) : Except Error Value := do
  return .int (harden (← bits v))

/-- A component of a path text. A minus in front or a mark behind hardens it. -/
def component? (cs : List Char) : Option Int :=
  match cs, cs.getLast? with
  | '-' :: _, _ => (Text.readInt? cs).map fun n => harden n.natAbs
  | _, some 'h' => (Text.readInt? cs.dropLast).map harden
  | _, some '\'' => (Text.readInt? cs.dropLast).map harden
  | _, _ => Text.readInt? cs

def splitAt (separator : Char) : List Char → List (List Char)
  | [] => [[]]
  | c :: cs =>
    if c = separator then [] :: splitAt separator cs
    else match splitAt separator cs with
      | piece :: pieces => (c :: piece) :: pieces
      | [] => [[c]]

def components (cs : List Char) : List (List Char) :=
  match splitAt '/' cs with
  | ['m'] :: rest => rest
  | pieces => pieces

def parse? (text : String) : Option (List Int) :=
  if text.isEmpty then some [] else (components text.toList).mapM component?

def parse (given : Value) : Except Error Path :=
  match given with
  | .text s =>
    match parse? s with
    | some path => .ok (path.map .int)
    | none => .error (.pathText s)
  | other => if other.isGiven then .error (.partMissing other.kindName "split") else .ok []

def isChildNumber (i : Int) : Bool :=
  0 ≤ i && i < 0x100000000

def ofItem (v : Value) : Except Error Value :=
  match v.int? with
  | some i => if isChildNumber i then .ok v else .error ((Error.childNumber v).showing v)
  | none => .error ((Error.childNumber v).showing v)

def ofArgument (given : Value) : Except Error Path :=
  match given with
  | .text s =>
    match parse? s with
    | some path => .ok (path.map .int)
    | none => .error (.pathArgument s)
  | .null => .error .pathMissing
  | other => do (← other.members).mapM ofItem

def componentText (mark v : Value) : Except Error String := do
  let i ← bits v
  if !Text.isWritable (soften i) then throw .unwritable
  let text := "/" ++ toString (soften i)
  match mark with
  | .text s => return if isHardened i then text ++ s else text
  | other => if isHardened i then throw (.concatenation other.kindName) else return text

def render (given mark : Value) : Except Error String := do
  return "m" ++ String.join (← (← given.members).mapM (componentText mark))

def shown (path : Path) : Except Error String :=
  render (.array path) (.text "h")

def purposeNumber : Int := 44

def master : Path := []

def ofPurpose (purpose : Value) : Except Error Path := do
  return [← hardened purpose]

def ofCoinType (chain : Chain) (purpose : Value) : Except Error Path := do
  return [← hardened purpose, .int (harden chain.coinType)]

def ofAccount (account : Value) (chain : Chain) (purpose : Value) : Except Error Path := do
  return [← hardened purpose, .int (harden chain.coinType), ← hardened account]

def changeLevel : Argument KeyPurpose → Except Error Int
  | .proper p => .ok p.changeLevel
  | .other v => .error ((Error.purpose v).showing v)

/-- Both indexes are numbers of at most 31 bits. A first one that is negative is refused without a look at
    the second. -/
def checkIndexes (keyIndex subIndex : Value) : Except Error Unit := do
  let key ← keyIndex.comparable "<"
  if key.lt (.whole 0) then throw .keyIndex
  let sub ← subIndex.comparable "<"
  if sub.lt (.whole 0) || Number.le (.whole hardenedFlag) key || Number.le (.whole hardenedFlag) sub then
    throw .keyIndex

def ofCipherKey (keyIndex : Value) (purpose : Argument KeyPurpose) (subIndex : Value) (chain : Chain) :
    Except Error Path := do
  checkIndexes keyIndex subIndex
  let key ← hardened keyIndex
  let change ← changeLevel purpose
  return [.int (harden purposeNumber), .int (harden chain.coinType), key, .int change, subIndex]

end Path

end HardwareWallet
