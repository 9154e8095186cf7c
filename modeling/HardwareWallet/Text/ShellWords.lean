/-!
Splitting a line into words as shells do: at blanks, except between quotes. A backslash takes the next
character as it is; between double quotes it does so before a double quote and a backslash only, and
between single quotes nowhere. There are no comments.
-/

namespace HardwareWallet.Text

inductive UnfinishedWord where
  | quote
  | escape
  deriving DecidableEq

def UnfinishedWord.message : UnfinishedWord → String
  | quote => "No closing quotation"
  | escape => "No escaped character"

namespace ShellWords

def isBlank (c : Char) : Bool :=
  c = ' ' || c = '\t' || c = '\r' || c = '\n'

inductive Place where
  | between
  | word (read : List Char)
  | quoted (quote : Char) (read : List Char)
  | escaped (quote : Option Char) (read : List Char)

def outside (read : List Char) (c : Char) : Place :=
  if c = '\\' then .escaped none read
  else if c = '\'' ∨ c = '"' then .quoted c read
  else .word (read ++ [c])

def unescape (quote : Option Char) (c : Char) : List Char :=
  match quote with
  | none => [c]
  | some q => if c = '\\' ∨ c = q then [c] else ['\\', c]

def Place.next (c : Char) : Place → Option String × Place
  | between => (none, if isBlank c then between else outside [] c)
  | word read => if isBlank c then (some (String.ofList read), between) else (none, outside read c)
  | quoted q read =>
    if c = q then (none, word read)
    else if c = '\\' ∧ q = '"' then (none, escaped (some q) read)
    else (none, quoted q (read ++ [c]))
  | escaped none read => (none, word (read ++ unescape none c))
  | escaped (some q) read => (none, quoted q (read ++ unescape (some q) c))

def splitFrom : Place → List Char → Except UnfinishedWord (List String)
  | .between, [] => .ok []
  | .word read, [] => .ok [String.ofList read]
  | .quoted .., [] => .error .quote
  | .escaped .., [] => .error .escape
  | place, c :: cs =>
    match place.next c with
    | (some word, place) => (splitFrom place cs).map (word :: ·)
    | (none, place) => splitFrom place cs

def split (line : String) : Except UnfinishedWord (List String) :=
  splitFrom .between line.toList

end ShellWords

end HardwareWallet.Text
