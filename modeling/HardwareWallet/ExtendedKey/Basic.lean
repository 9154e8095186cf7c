import HardwareWallet.Base58
import HardwareWallet.Curve.Key
import HardwareWallet.Path

namespace HardwareWallet

structure ExtendedKey where
  version : Bytes
  depth : Value
  parentFingerprint : Bytes
  childNumber : Value
  chainCode : Bytes
  privateKey : Option Bytes
  publicKey : Bytes
  deriving DecidableEq

namespace ExtendedKey

def mainPublic : Bytes := [0x04, 0x88, 0xb2, 0x1e]
def mainPrivate : Bytes := [0x04, 0x88, 0xad, 0xe4]
def testPublic : Bytes := [0x04, 0x35, 0x87, 0xcf]
def testPrivate : Bytes := [0x04, 0x35, 0x83, 0x94]

def isPrivateVersion (version : Bytes) : Bool :=
  version = mainPrivate || version = testPrivate

def isVersion (version : Bytes) : Bool :=
  isPrivateVersion version || version = mainPublic || version = testPublic

def isTestnet (k : ExtendedKey) : Bool :=
  k.version = testPublic || k.version = testPrivate

def isPrivate (k : ExtendedKey) : Bool :=
  isPrivateVersion k.version

def publicVersion (testnet : Bool) : Bytes :=
  if testnet then testPublic else mainPublic

def fingerprint (k : ExtendedKey) : Bytes :=
  (hash160 k.publicKey).take 4

def neuter (k : ExtendedKey) : ExtendedKey :=
  { k with version := publicVersion k.isTestnet, privateKey := none }

def packChild (child : Value) : Except Error Bytes :=
  match child.int? with
  | some i => if Path.isChildNumber i then .ok (Bytes.ofNat 4 i.toNat) else .error (.childNumberRange i)
  | none => .error .packedType

def packDepth (depth : Value) : Except Error Bytes :=
  match depth.int? with
  | some i => if 0 ≤ i ∧ i < 256 then .ok (Bytes.ofNat 1 i.toNat) else .error .depthRange
  | none => .error .packedType

def keyMaterial (k : ExtendedKey) : Except Error Bytes :=
  if k.isPrivate then
    match k.privateKey with
    | some key => .ok (0 :: key)
    | none => .error .privateKeyMissing
  else .ok k.publicKey

def serialize (k : ExtendedKey) : Except Error Bytes := do
  let depth ← packDepth k.depth
  let child ← packChild k.childNumber
  let key ← k.keyMaterial
  return k.version ++ depth ++ k.parentFingerprint ++ child ++ k.chainCode ++ key

def parse (data : Bytes) : Except Error ExtendedKey :=
  let version := data.take 4
  if !isVersion version then .error (.keyVersion version)
  else match data[4]? with
  | none => .error .keyTooShort
  | some depth =>
    let parent := (data.drop 5).take 4
    let child := (data.drop 9).take 4
    let chainCode := (data.drop 13).take 32
    if child.length ≠ 4 then .error .childNumberMissing
    else
      let build := ExtendedKey.mk version (.int depth.toNat) parent (.int (Bytes.toNat child)) chainCode
      if isPrivateVersion version then do
        let key := data.drop 46
        let point ← Curve.publicKey key
        return build (some key) point
      else .ok (build none ((data.drop 45).take 33))

def text (k : ExtendedKey) : Except Error String := do
  let data ← k.serialize
  return Base58.encodeCheck data

def ofText (s : String) : Except Error ExtendedKey :=
  match Base58.decodeCheck s with
  | .ok data => parse data
  | .error fault => .error (.extendedKey fault)

def shownPrivateKey (k : ExtendedKey) : Option Bytes :=
  if k.isPrivate then k.privateKey else none

end ExtendedKey

end HardwareWallet
