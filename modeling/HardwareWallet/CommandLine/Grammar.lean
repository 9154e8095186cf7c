import HardwareWallet.CommandLine.Fault
import HardwareWallet.Text.DecimalDigit

/-!
Reading the words of a command line. Options are words that start with a hyphen; they stand anywhere
before a lone `--` and may be cut short where that is not ambiguous. The other words are taken by the
positional arguments in their order. Words that nothing takes are left over.
-/

namespace HardwareWallet.CommandLine

structure OptionForm (ω : Type) where
  option : ω
  spellings : List String
  takesValue : Bool := false

def OptionForm.name {ω : Type} (f : OptionForm ω) : String :=
  "/".intercalate f.spellings

structure PositionalForm (π : Type) where
  positional : π
  name : String
  takesRest : Bool := false

structure Grammar (ω π : Type) where
  program : String
  options : List (OptionForm ω)
  positionals : List (PositionalForm π)

inductive Word (ω : Type) where
  | plain (text : String)
  | separator
  | option (text : String) (form : OptionForm ω) (attached : Option String)
  | unknown (text : String)

def Word.text {ω : Type} : Word ω → String
  | plain t => t
  | separator => "--"
  | option t _ _ => t
  | unknown t => t

inductive Given (ω π : Type) where
  | option (form : OptionForm ω) (words : List String)
  | positional (form : PositionalForm π) (words : List String)

structure Spread (ω : Type) where
  given : List (OptionForm ω × List String)
  awaiting : Option (OptionForm ω) := none

/-- A hyphen and decimal digits, possibly around a point. A line break may follow. -/
def isNegativeNumber (cs : List Char) : Bool :=
  let isDigit (c : Char) : Bool := (Text.digitValue? c).isSome
  let cs := if cs.getLast? = some '\n' then cs.dropLast else cs
  match cs with
  | '-' :: digits =>
    match digits.dropWhile isDigit with
    | [] => digits ≠ []
    | '.' :: rest => rest ≠ [] && rest.all isDigit
    | _ => false
  | _ => false

def assignment? (cs : List Char) : Option (String × String) :=
  match cs.dropWhile (· ≠ '=') with
  | _ :: value => some (String.ofList (cs.takeWhile (· ≠ '=')), String.ofList value)
  | [] => none

namespace Grammar

variable {ω π σ : Type}

def spellings (g : Grammar ω π) : List (String × OptionForm ω) :=
  g.options.flatMap fun f => f.spellings.map fun s => (s, f)

def form? (g : Grammar ω π) (spelling : String) : Option (OptionForm ω) :=
  g.spellings.lookup spelling

/-- What a word that starts with a hyphen and is no spelling itself may mean: long options may be cut
    short, short ones have their value right behind the letter. -/
def candidates (g : Grammar ω π) (word : String) : List (String × OptionForm ω × Option String) :=
  match word.toList with
  | '-' :: '-' :: _ =>
    let (start, attached) := match assignment? word.toList with
      | some (start, value) => (start, some value)
      | none => (word, none)
    (g.spellings.filter fun s => start.isPrefixOf s.1).map fun s => (s.1, s.2, attached)
  | a :: b :: value =>
    (g.spellings.filter fun s => s.1 = String.ofList [a, b]).map fun s =>
      (s.1, s.2, some (String.ofList value))
  | _ => []

def readOther (g : Grammar ω π) (word : String) : Except Fault (Word ω) :=
  match g.candidates word with
  | [] => .ok (if isNegativeNumber word.toList || word.toList.contains ' ' then .plain word else .unknown word)
  | [(_, form, attached)] => .ok (.option word form attached)
  | several => .error (.ambiguous word (several.map Prod.fst))

def readWord (g : Grammar ω π) (word : String) : Except Fault (Word ω) :=
  match word.toList with
  | '-' :: rest =>
    match g.form? word, assignment? word.toList with
    | some form, _ => .ok (.option word form none)
    | none, assignment =>
      match assignment.bind fun a => (g.form? a.1).map fun form => (form, a.2) with
      | some (form, value) => .ok (.option word form (some value))
      | none => if rest = [] then .ok (.plain word) else g.readOther word
  | _ => .ok (.plain word)

def readWords (g : Grammar ω π) : List String → Except Fault (List (Word ω))
  | [] => .ok []
  | word :: rest =>
    if word = "--" then .ok (.separator :: rest.map .plain)
    else do
      let first ← g.readWord word
      let others ← g.readWords rest
      return first :: others

def givenBy (value : String) : List String :=
  if value = "--" then [] else [value]

def cluster (g : Grammar ω π) (form : OptionForm ω) : List Char → Except Fault (Spread ω)
  | [] => .ok ⟨[(form, [])], none⟩
  | c :: rest =>
    match g.form? (String.ofList ['-', c]) with
    | none => .error (.valueIgnored form.name (String.ofList (c :: rest)))
    | some next =>
      if !next.takesValue then (g.cluster next rest).map fun s => { s with given := (form, []) :: s.given }
      else if rest = [] then .ok ⟨[(form, [])], some next⟩
      else .ok ⟨[(form, []), (next, givenBy (String.ofList rest))], none⟩

def spread (g : Grammar ω π) (word : String) (form : OptionForm ω) : Option String → Except Fault (Spread ω)
  | none => .ok (if form.takesValue then ⟨[], some form⟩ else ⟨[(form, [])], none⟩)
  | some value =>
    if form.takesValue then .ok ⟨[(form, givenBy value)], none⟩
    else if value.isEmpty || "--".isPrefixOf word then .error (.valueIgnored form.name value)
    else g.cluster form value.toList

structure Reading (π σ : Type) where
  state : σ
  leftover : List String := []
  awaited : List (PositionalForm π)

variable (g : Grammar ω π) (accept : Given ω π → σ → Except Halt σ)

def halted {α : Type} (f : Fault) : Except Halt α :=
  .error (.fault g.program f)

def acceptOptions (given : List (OptionForm ω × List String)) (r : Reading π σ) : Except Halt (Reading π σ) := do
  let state ← given.foldlM (fun s (form, words) => accept (.option form words) s) r.state
  return { r with state := state }

def acceptPositional (p : PositionalForm π) (words : List String) (r : Reading π σ) : Except Halt (Reading π σ) := do
  let state ← accept (.positional p words) r.state
  return { r with state := state, awaited := r.awaited.drop 1 }

def Reading.leave (words : List String) (r : Reading π σ) : Reading π σ :=
  { r with leftover := r.leftover ++ words }

/-- Gives the words to the arguments one after the other. A positional argument takes a `--` on either side
    of its word along with it. -/
def read : List (Word ω) → Reading π σ → Except Halt (Reading π σ)
  | [], r => .ok r
  | .unknown text :: rest, r => read rest (r.leave [text])
  | .option word form attached :: rest, r =>
    match g.spread word form attached with
    | .error f => g.halted f
    | .ok s =>
      match s.awaiting, rest with
      | none, rest => do read rest (← acceptOptions accept s.given r)
      | some last, .plain value :: rest => do
        read rest (← acceptOptions accept (s.given ++ [(last, [value])]) r)
      | some last, _ => g.halted (.valueMissing last.name)
  | .separator :: .plain text :: rest, r =>
    match r.awaited with
    | [] => read rest (r.leave ["--", text])
    | p :: _ =>
      if p.takesRest then acceptPositional accept p ("--" :: text :: rest.map Word.text) r
      else do read rest (← acceptPositional accept p [text] r)
  | .separator :: rest, r => read rest (r.leave ["--"])
  | .plain text :: rest, r =>
    match r.awaited with
    | [] => read rest (r.leave [text])
    | p :: _ =>
      if p.takesRest then acceptPositional accept p (text :: rest.map Word.text) r
      else do
        let r ← acceptPositional accept p (if text = "--" then [] else [text]) r
        match rest with
        | .separator :: rest => read rest r
        | rest => read rest r

def parse (words : List String) (start : σ) : Except Halt (σ × List String) :=
  match g.readWords words with
  | .error f => g.halted f
  | .ok words => do
    let r ← g.read accept words { state := start, awaited := g.positionals }
    if r.awaited.isEmpty then return (r.state, r.leftover)
    else g.halted (.missing (r.awaited.map PositionalForm.name))

end Grammar

end HardwareWallet.CommandLine
