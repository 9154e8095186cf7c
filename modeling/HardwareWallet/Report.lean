import HardwareWallet.Bytes
import HardwareWallet.Value.Text

namespace HardwareWallet

def Value.hex (bs : Bytes) : Value :=
  .text (Bytes.hex bs)

abbrev Report := List (String × Value)

namespace Report

def put (key : String) (value : Value) : Report → Report
  | [] => [(key, value)]
  | (k, v) :: fields => if k = key then (k, value) :: fields else (k, v) :: put key value fields

def putError (preface : Option String) (text : String) (code : Value) (r : Report) : Report :=
  let before := match preface with
    | some p => p ++ " "
    | none => ""
  put "code" code (put "error" (.text (before ++ text)) r)

end Report

end HardwareWallet
