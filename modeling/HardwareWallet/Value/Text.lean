import HardwareWallet.Text.Quoted
import HardwareWallet.Value.Basic

namespace HardwareWallet.Value

mutual

def shown : Value → String
  | null => "None"
  | truth true => "True"
  | truth false => "False"
  | int n => toString n
  | rounded x => x.text
  | text s => Text.quoted s
  | array items => "[" ++ ", ".intercalate (shownItems items) ++ "]"
  | object fields => "\x7b" ++ ", ".intercalate (shownFields fields) ++ "\x7d"

def shownItems : List Value → List String
  | [] => []
  | v :: vs => shown v :: shownItems vs

def shownFields : List (String × Value) → List String
  | [] => []
  | (k, v) :: fields => (Text.quoted k ++ ": " ++ shown v) :: shownFields fields

end

mutual

def isWritable : Value → Bool
  | int n => Text.isWritable n
  | array items => areWritable items
  | object fields => areFieldsWritable fields
  | _ => true

def areWritable : List Value → Bool
  | [] => true
  | v :: vs => isWritable v && areWritable vs

def areFieldsWritable : List (String × Value) → Bool
  | [] => true
  | (_, v) :: fields => isWritable v && areFieldsWritable fields

end

def told : Value → String
  | text s => s
  | v => v.shown

def kindName : Value → String
  | null => "NoneType"
  | truth _ => "bool"
  | int _ => "int"
  | rounded _ => "float"
  | text _ => "str"
  | array _ => "list"
  | object _ => "dict"

end HardwareWallet.Value
