import HardwareWallet.Error

namespace HardwareWallet.Value

def comparable (operator : String) (v : Value) : Except Error Number :=
  match v.number? with
  | some n => .ok n
  | none => .error (.comparison operator v.kindName "int")

def bytes : Value → Except Error Bytes
  | text s =>
    match Bytes.ofHex? s with
    | some bs => .ok bs
    | none => .error .hexDigits
  | other => .error (.hexType other)

/-- The members of a value that has members: the items of an array, the characters of a text, the names of
    the fields of an object. -/
def members : Value → Except Error (List Value)
  | array items => .ok items
  | text s => .ok (s.toList.map fun c => text (String.singleton c))
  | object fields => .ok (fields.map fun f => text f.1)
  | _ => .error .pathType

def needed (v : Value) (key : String) : Except Error Value :=
  match v.field? key with
  | some w => .ok w
  | none => .error (.messageField key)

def bytesIn (v : Value) (key : String) : Except Error Bytes :=
  (v.fieldOr key (text "")).bytes

def named {α : Type} (ofName? : String → Option α) (v : Value) : Except Error α :=
  match v, v.text?.bind ofName? with
  | _, some a => .ok a
  | array _, none => .error (.unhashable v.kindName)
  | object _, none => .error (.unhashable v.kindName)
  | _, none => .error (.codeUnknown v.told)

def namedIn {α : Type} (v : Value) (key : String) (ofName? : String → Option α) (standard : α) : Except Error α :=
  match v.field? key with
  | none => .ok standard
  | some w => w.named ofName?

end HardwareWallet.Value
