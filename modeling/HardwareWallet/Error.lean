import HardwareWallet.Bytes
import HardwareWallet.Event
import HardwareWallet.Text.ShellWords
import HardwareWallet.Timeout

namespace HardwareWallet

inductive Base58Fault where
  | character (c : Char)
  | checksum
  deriving DecidableEq

def Base58Fault.message : Base58Fault → String
  | character c => s!"Character {Text.quoted (String.singleton c)} is not a valid base58 character"
  | checksum => "Invalid base58 checksum"

inductive ErrorKind where
  | badArgument
  | connection
  | noReply
  | refused
  | cancelled
  | notReady
  | unavailable
  | sequencing
  | value
  | transport
  | packing
  | overflow
  | type
  | attribute
  | index
  | domain
  | lookup
  | empty
  | system
  | unsupported
  | point
  deriving DecidableEq

def ErrorKind.code : ErrorKind → Option Int
  | connection => some (-3)
  | badArgument => some (-7)
  | unavailable => some (-9)
  | notReady => some (-12)
  | cancelled => some (-14)
  | sequencing => some (-19)
  | noReply => some (-20)
  | refused => some (-21)
  | _ => none

def unknownErrorCode : Int := -13

inductive Error where
  | pathMissing
  | pathText (text : String)
  /-- The same, found while a path argument was checked. -/
  | pathArgument (text : String)
  | pathType
  | childNumber (given : Value)
  | keyIndex
  | purpose (given : Value)
  | labelType
  | valueType
  | pinType
  | pinEmpty
  | pinOption
  | strength
  | strengthType
  | entropyType
  | wordType
  | valueHex
  | hexType (given : Value)
  | hexDigits
  | comparison (operator left right : String)
  | operand (operator left right : String)
  | partMissing (kindName name : String)
  | concatenation (kindName : String)
  | unhashable (kindName : String)
  | parameterUnknown (name : String)
  | keyVersion (version : Bytes)
  | extendedKey (fault : Base58Fault)
  | base58 (fault : Base58Fault)
  | privateChildOfPublic
  | hardenedChildOfPublic
  | invalidChild
  | privateNodeNeeded
  | privateKeyMissing
  | childNumberRange (child : Int)
  | depthRange
  | packedType
  | fingerprintRange
  | keyTooShort
  | childNumberMissing
  | malformedPoint
  | blockSize
  | mnemonicType
  | messageUnknown (name : String)
  | messageField (name : String)
  | codeUnknown (name : String)
  | notReply (name : String)
  | unboundedQueue
  | subscriptionUnknown
  | queueEmpty
  | negativeTimeout
  | timeoutTooLong
  /-- A whole number that 64 bits are too few for, where a number of 64 bits is reckoned with. -/
  | magnitude
  | negativeVersion
  | versionType (given : Value)
  | versionText
  | versionRange
  | profile (name : Value)
  | failureLimit
  | notConnected
  | disconnected (cause : String)
  | deviceMissing (path : String)
  | connectFailed (path : String)
  | replyMissing (request : String) (timeout : Timeout)
  | unexpectedReply (name : String)
  | repliesMissed
  | nothingReplied
  | deviceRefused (text : Value)
  | deviceCancelled (text : Value)
  | eventUnexpected (kind : EventKind)
  | resetUnfinished
  | featuresMissing
  | featuresUnknown
  | locked
  | alreadyInitialised
  | depth (count : Nat) (path : String)
  | transport (cause : String)
  | system (cause : String)
  | inputEnded
  | unwritable
  /-- What comes of an operation that never ends. Nothing catches it, since nothing comes after it. -/
  | endless
  | unimplemented
  | pathWithoutColon
  | unfinishedWord (fault : Text.UnfinishedWord)

namespace Error

def kind : Error → ErrorKind
  | pathMissing => .badArgument
  | pathText _ => .value
  | pathArgument _ => .badArgument
  | pathType => .type
  | childNumber _ => .badArgument
  | keyIndex => .badArgument
  | purpose _ => .badArgument
  | labelType => .badArgument
  | valueType => .badArgument
  | pinType => .badArgument
  | pinEmpty => .badArgument
  | pinOption => .badArgument
  | strength => .badArgument
  | strengthType => .type
  | entropyType => .badArgument
  | wordType => .badArgument
  | valueHex => .badArgument
  | hexType _ => .type
  | hexDigits => .domain
  | comparison .. => .type
  | operand .. => .type
  | partMissing .. => .attribute
  | concatenation _ => .type
  | unhashable _ => .type
  | parameterUnknown _ => .type
  | keyVersion _ => .badArgument
  | extendedKey _ => .badArgument
  | base58 _ => .value
  | privateChildOfPublic => .value
  | hardenedChildOfPublic => .value
  | invalidChild => .value
  | privateNodeNeeded => .value
  | privateKeyMissing => .value
  | childNumberRange _ => .packing
  | depthRange => .packing
  | packedType => .packing
  | fingerprintRange => .overflow
  | keyTooShort => .index
  | childNumberMissing => .packing
  | malformedPoint => .point
  | blockSize => .domain
  | mnemonicType => .type
  | messageUnknown _ => .attribute
  | messageField _ => .type
  | codeUnknown _ => .lookup
  | notReply _ => .value
  | unboundedQueue => .value
  | subscriptionUnknown => .index
  | queueEmpty => .empty
  | negativeTimeout => .domain
  | timeoutTooLong => .overflow
  | magnitude => .overflow
  | negativeVersion => .domain
  | versionType _ => .type
  | versionText => .domain
  | versionRange => .overflow
  | profile _ => .value
  | failureLimit => .value
  | notConnected => .connection
  | disconnected _ => .connection
  | deviceMissing _ => .connection
  | connectFailed _ => .connection
  | replyMissing .. => .noReply
  | unexpectedReply _ => .refused
  | repliesMissed => .refused
  | nothingReplied => .refused
  | deviceRefused _ => .refused
  | deviceCancelled _ => .cancelled
  | eventUnexpected _ => .refused
  | resetUnfinished => .refused
  | featuresMissing => .notReady
  | featuresUnknown => .notReady
  | locked => .notReady
  | alreadyInitialised => .unavailable
  | depth .. => .sequencing
  | transport _ => .transport
  | system _ => .system
  | inputEnded => .system
  | unwritable => .domain
  | endless => .empty
  | unimplemented => .unsupported
  | pathWithoutColon => .index
  | unfinishedWord _ => .domain

/-- A child number that does not fit four bytes is told apart by whether it fits eight. -/
def childNumberMessage (child : Int) : String :=
  if 0 ≤ child ∧ child < 0x10000000000000000 then "'L' format requires 0 <= number <= 4294967295"
  else "argument out of range"

def message : Error → String
  | pathMissing => "A derivation path is required"
  | pathText text => "Invalid BIP32 path: " ++ text
  | pathArgument text => "('Invalid BIP32 path', " ++ Text.quoted text ++ ")"
  | pathType => "object is not iterable"
  | childNumber given => "Invalid child number " ++ given.shown
  | keyIndex => "Key and sub indexes must be between 0 and 2^31 - 1"
  | purpose given => "Unknown key purpose " ++ given.shown
  | labelType => "Key label must be bytes"
  | valueType => "Key value must be bytes"
  | pinType => "A PIN is required"
  | pinEmpty => "A PIN is required to setup the device"
  | pinOption => "This command needs the device PIN, use --pin or --stdinpin"
  | strength => "Strength must be 128, 192 or 256 bits"
  | strengthType => "the strength is no whole number"
  | entropyType => "Entropy must be bytes"
  | wordType => "A word is required"
  | valueHex => "Value must be hex encoded"
  | hexType given => "fromhex() argument must be str, not " ++ given.kindName
  | hexDigits => "not a text of hexadecimal digits"
  | comparison operator left right => s!"'{operator}' not supported between instances of '{left}' and '{right}'"
  | operand operator left right => s!"no {operator} between {left} and {right}"
  | partMissing kindName name => s!"'{kindName}' object has no attribute '{name}'"
  | concatenation kindName => s!"no text is continued by {kindName}"
  | unhashable kindName => s!"nothing is looked up by {kindName}"
  | parameterUnknown name => s!"unexpected argument '{name}'"
  | keyVersion version => "Extended key magic of " ++ Bytes.hex version ++ " is invalid"
  | extendedKey fault => fault.message
  | base58 fault => fault.message
  | privateChildOfPublic => "Cannot derive a private child from a public key"
  | hardenedChildOfPublic => "Index cannot be larger than 2^31"
  | invalidChild => "Invalid child key, try the next index"
  | privateNodeNeeded => "A private node is required"
  | privateKeyMissing => "Somehow we are private but don't have a privkey"
  | childNumberRange child => childNumberMessage child
  | depthRange => "ubyte format requires 0 <= number <= 255"
  | packedType => "required argument is not an integer"
  | fingerprintRange => "int too big to convert"
  | keyTooShort => "index out of range"
  | childNumberMissing => "unpack requires a buffer of 4 bytes"
  | malformedPoint => "Malformed point"
  | blockSize => "plaintext block must be 16 bytes"
  | mnemonicType => "the words are no text"
  | messageUnknown name => "no message is named " ++ name
  | messageField name => "missing or unexpected field " ++ name
  | codeUnknown name => name
  | notReply name => name ++ " is not a device reply"
  | unboundedQueue => "Subscriber queues must be bounded"
  | subscriptionUnknown => "no such subscription"
  | queueEmpty => ""
  | negativeTimeout => "'timeout' must be a non-negative number"
  | timeoutTooLong => "the time is longer than clocks count to"
  | magnitude => "whole number too great for 64 bits"
  | negativeVersion => "negative version number"
  | versionType given => "no version number: " ++ given.shown
  | versionText => "invalid version number"
  | versionRange => "infinite version number"
  | profile name => "Unknown emulator profile " ++ name.shown
  | failureLimit => "max_failures must be positive"
  | notConnected => "Device is not connected"
  | disconnected cause => "Device disconnected: " ++ cause
  | deviceMissing path => "Device not found: " ++ path
  | connectFailed path => "Unable to connect to " ++ path
  | replyMissing request timeout => s!"No reply to {request} after {timeout.text} seconds"
  | unexpectedReply name => name ++ " is not a device reply"
  | repliesMissed => "Missed device replies"
  | nothingReplied => "No reply from device"
  | deviceRefused text => text.told
  | deviceCancelled text => text.told
  | eventUnexpected kind => s!"Unexpected {kind.text} from device"
  | resetUnfinished => "Device did not finish the reset"
  | featuresMissing => "Device did not report its features"
  | featuresUnknown => "Device has not been initialised"
  | locked => "Device is locked. Unlock it with 'unlock' or pass --pin."
  | alreadyInitialised => "Device is already initialized. Use wipe first."
  | depth count path => s!"Unexpected child number count: {count} ({path})"
  | transport cause => cause
  | system cause => cause
  | inputEnded => ""
  | unwritable =>
    "Exceeds the limit (4300 digits) for integer string conversion; use sys.set_int_max_str_digits() to increase the limit"
  | endless => ""
  | unimplemented => ""
  | pathWithoutColon => "list index out of range"
  | unfinishedWord fault => fault.message

/-- The error, if the value that its message shows can be written. -/
def showing (e : Error) (v : Value) : Error :=
  if v.isWritable then e else unwritable

def code (e : Error) : Option Int :=
  e.kind.code

def statement : Error → Value
  | deviceRefused text => text
  | deviceCancelled text => text
  | e => .text e.message

end Error

end HardwareWallet
