import HardwareWallet.Number.Basic

/-!
Values without a promise about their type: what structured text holds, what the fields of messages hold,
and what callers hand in. Whoever needs a value of one type looks whether it has got one.
-/

namespace HardwareWallet

inductive Value where
  | null
  | truth (b : Bool)
  | int (n : Int)
  | rounded (x : Binary64)
  | text (s : String)
  | array (items : List Value)
  | object (fields : List (String × Value))

namespace Value

mutual

def same : Value → Value → Bool
  | null, null => true
  | truth a, truth b => a = b
  | int m, int n => m = n
  | rounded x, rounded y => x = y
  | text s, text t => s = t
  | array vs, array ws => sameItems vs ws
  | object fs, object gs => sameFields fs gs
  | _, _ => false

def sameItems : List Value → List Value → Bool
  | [], [] => true
  | v :: vs, w :: ws => same v w && sameItems vs ws
  | _, _ => false

def sameFields : List (String × Value) → List (String × Value) → Bool
  | [], [] => true
  | (k, v) :: fs, (l, w) :: gs => k = l && same v w && sameFields fs gs
  | _, _ => false

end

mutual

theorem same_iff : (v w : Value) → (same v w = true ↔ v = w)
  | null, w => by cases w <;> simp [same]
  | truth a, w => by cases w <;> simp [same]
  | int m, w => by cases w <;> simp [same]
  | rounded x, w => by cases w <;> simp [same]
  | text s, w => by cases w <;> simp [same]
  | array vs, w => by cases w <;> simp [same, sameItems_iff vs]
  | object fs, w => by cases w <;> simp [same, sameFields_iff fs]

theorem sameItems_iff : (vs ws : List Value) → (sameItems vs ws = true ↔ vs = ws)
  | [], ws => by cases ws <;> simp [sameItems]
  | v :: vs, ws => by cases ws <;> simp [sameItems, same_iff v, sameItems_iff vs]

theorem sameFields_iff : (fs gs : List (String × Value)) → (sameFields fs gs = true ↔ fs = gs)
  | [], gs => by cases gs <;> simp [sameFields]
  | (k, v) :: fs, gs => by
    cases gs <;> simp [sameFields, same_iff v, sameFields_iff fs, Prod.ext_iff]

end

instance : DecidableEq Value := fun v w =>
  decidable_of_iff _ (same_iff v w)

def number? : Value → Option Number
  | truth b => some (.truth b)
  | int n => some (.whole n)
  | rounded x => some (.rounded x)
  | _ => none

def ofNumber : Number → Value
  | .truth b => truth b
  | .whole n => int n
  | .rounded x => rounded x

def int? (v : Value) : Option Int :=
  v.number?.bind Number.whole?

def isGiven : Value → Bool
  | null => false
  | truth b => b
  | int n => n ≠ 0
  | rounded x => !x.isZero
  | text s => !s.isEmpty
  | array items => !items.isEmpty
  | object fields => !fields.isEmpty

mutual

/-- Whether two values mean the same: numbers of one magnitude do, and the order of fields does not matter. -/
def agrees : Value → Value → Bool
  | null, null => true
  | text s, text t => s = t
  | array vs, array ws => agreesItems vs ws
  | object fs, object gs => fs.length = gs.length && agreesFields fs gs
  | truth a, w => w.number?.any (Number.agrees (.truth a))
  | int n, w => w.number?.any (Number.agrees (.whole n))
  | rounded x, w => w.number?.any (Number.agrees (.rounded x))
  | _, _ => false

def agreesItems : List Value → List Value → Bool
  | [], [] => true
  | v :: vs, w :: ws => agrees v w && agreesItems vs ws
  | _, _ => false

def agreesFields : List (String × Value) → List (String × Value) → Bool
  | [], _ => true
  | (k, v) :: fs, gs => (gs.lookup k).any (agrees v) && agreesFields fs gs

end

def text? : Value → Option String
  | text s => some s
  | _ => none

def items : Value → List Value
  | array vs => vs
  | _ => []

def field? (v : Value) (key : String) : Option Value :=
  match v with
  | object fields => fields.lookup key
  | _ => none

def field (v : Value) (key : String) : Value :=
  (v.field? key).getD null

def fieldOr (v : Value) (key : String) (standard : Value) : Value :=
  (v.field? key).getD standard

def optional {α : Type} (f : α → Value) : Option α → Value
  | some a => f a
  | none => null

def texts (ss : List String) : Value :=
  array (ss.map text)

def ints (ns : List Int) : Value :=
  array (ns.map int)

end Value

end HardwareWallet
