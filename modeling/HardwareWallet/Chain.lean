namespace HardwareWallet

/-- The capitals of the characters whose capitals are ASCII letters. -/
def capitals (c : Char) : List Char :=
  if 'a' ≤ c ∧ c ≤ 'z' then [Char.ofNat (c.toNat - 32)]
  else match c with
    | 'ı' => ['I']
    | 'ſ' => ['S']
    | 'ß' => ['S', 'S']
    | 'ﬀ' => ['F', 'F']
    | 'ﬁ' => ['F', 'I']
    | 'ﬂ' => ['F', 'L']
    | 'ﬃ' => ['F', 'F', 'I']
    | 'ﬄ' => ['F', 'F', 'L']
    | 'ﬅ' => ['S', 'T']
    | 'ﬆ' => ['S', 'T']
    | c => [c]

def capitalised (text : String) : String :=
  String.ofList (text.toList.flatMap capitals)

inductive Chain where
  | main
  | test
  | regtest
  | signet
  deriving DecidableEq

namespace Chain

def all : List Chain := [main, test, regtest, signet]

def name : Chain → String
  | main => "MAIN"
  | test => "TEST"
  | regtest => "REGTEST"
  | signet => "SIGNET"

def text : Chain → String
  | main => "main"
  | test => "test"
  | regtest => "regtest"
  | signet => "signet"

def number : Chain → Nat
  | main => 0
  | test => 1
  | regtest => 2
  | signet => 3

def ofText? (s : String) : Option Chain :=
  all.find? fun c => c.name = capitalised s

def coinType : Chain → Nat
  | main => 0
  | _ => 1

end Chain

inductive KeyPurpose where
  | receiveFunds
  | change
  | refund
  | authentication
  deriving DecidableEq

namespace KeyPurpose

def all : List KeyPurpose := [receiveFunds, change, refund, authentication]

def name : KeyPurpose → String
  | receiveFunds => "RECEIVE_FUNDS"
  | change => "CHANGE"
  | refund => "REFUND"
  | authentication => "AUTHENTICATION"

def text : KeyPurpose → String
  | receiveFunds => "receive_funds"
  | change => "change"
  | refund => "refund"
  | authentication => "authentication"

def number : KeyPurpose → Nat
  | receiveFunds => 0
  | change => 1
  | refund => 2
  | authentication => 3

def ofText? (s : String) : Option KeyPurpose :=
  all.find? fun p => p.name = capitalised s

def changeLevel : KeyPurpose → Nat
  | receiveFunds => 0
  | refund => 0
  | change => 1
  | authentication => 1

end KeyPurpose

end HardwareWallet
