import HardwareWallet.Text.Quoted

namespace HardwareWallet.CommandLine

inductive Fault where
  | ambiguous (word : String) (candidates : List String)
  | valueMissing (name : String)
  | valueIgnored (name value : String)
  | notNumber (name number value : String)
  | notChoice (name shown : String) (choices : List String)
  | conflict (name other : String)
  | missing (names : List String)
  | unrecognised (words : List String)
  deriving DecidableEq

namespace Fault

def ofArgument (name text : String) : String :=
  "argument " ++ name ++ ": " ++ text

def message : Fault → String
  | ambiguous word candidates => s!"ambiguous option: {word} could match " ++ ", ".intercalate candidates
  | valueMissing name => ofArgument name "expected one argument"
  | valueIgnored name value => ofArgument name ("ignored explicit argument " ++ Text.quoted value)
  | notNumber name number value => ofArgument name (s!"invalid {number} value: " ++ Text.quoted value)
  | notChoice name shown choices =>
    ofArgument name (s!"invalid choice: {shown} (choose from " ++ ", ".intercalate choices ++ ")")
  | conflict name other => ofArgument name ("not allowed with argument " ++ other)
  | missing names => "the following arguments are required: " ++ ", ".intercalate names
  | unrecognised words => "unrecognized arguments: " ++ " ".intercalate words

end Fault

inductive Halt where
  | help
  | version
  | fault (program : String) (fault : Fault)
  deriving DecidableEq

end HardwareWallet.CommandLine
