import Pygpgme.Source.Attributes
import Pygpgme.Source.Signatures
import Pygpgme.Source.Utf8

/-!
# The attributes of keys

lib/pygpgme-key.c, with the fields of gpgme's keys that it reads and their C types; `long`
has `w` bits. A linked list is the list of its nodes, and an object has the structure it
points to.
-/

set_option autoImplicit false

namespace Pygpgme.Source.KeyAttributes
open Pygpgme.Library.Program
open Pygpgme.Source.Python Pygpgme.Source.Error Pygpgme.Source.Utf8
open Pygpgme.Source.Signatures (longFromLong)
open Pygpgme.Source.Attributes (ModuleState boolFromLong)

variable {w : Nat}

/-! ## The keys of gpgme -/

structure CSubkey (w : Nat) where
  revoked : Bool
  expired : Bool
  disabled : Bool
  invalid : Bool
  canEncrypt : Bool
  canSign : Bool
  canCertify : Bool
  secret : Bool
  canAuthenticate : Bool
  pubkeyAlgo : BitVec 32
  length : BitVec 32
  keyid : Option Bytes
  fpr : Option Bytes
  timestamp : BitVec w
  expires : BitVec w
  deriving DecidableEq

structure CKeySig (w : Nat) where
  revoked : Bool
  expired : Bool
  invalid : Bool
  exportable : Bool
  pubkeyAlgo : BitVec 32
  keyid : Option Bytes
  timestamp : BitVec w
  expires : BitVec w
  status : GpgError
  uid : Option Bytes
  name : Option Bytes
  email : Option Bytes
  comment : Option Bytes
  sigClass : BitVec 32
  deriving DecidableEq

structure CUserId (w : Nat) where
  revoked : Bool
  invalid : Bool
  validity : BitVec 32
  uid : Option Bytes
  name : Option Bytes
  email : Option Bytes
  comment : Option Bytes
  signatures : List (CKeySig w)
  deriving DecidableEq

structure CKey (w : Nat) where
  revoked : Bool
  expired : Bool
  disabled : Bool
  invalid : Bool
  canEncrypt : Bool
  canSign : Bool
  canCertify : Bool
  secret : Bool
  canAuthenticate : Bool
  protocol : BitVec 32
  issuerSerial : Option Bytes
  issuerName : Option Bytes
  chainId : Option Bytes
  ownerTrust : BitVec 32
  subkeys : List (CSubkey w)
  uids : List (CUserId w)
  keylistMode : BitVec 32
  deriving DecidableEq

/-! ## Objects and the values of their attributes -/

inductive KeyObject (w : Nat) where
  | key (self : CKey w)
  | subkey (self : CSubkey w)
  | userId (self : CUserId w)
  | keySig (self : CKeySig w)

/-- The lists that the getters make have objects with pointers of their own. -/
inductive Value (w : Nat) where
  | object (o : PyObject)
  | objects (items : List (KeyObject w))

/-- `PyUnicode_DecodeASCII(…, "replace")` -/
def decodeAscii (data : Bytes) : List CodePoint :=
  data.map fun b => if b < 0x80 then Fin.ofNat 0x110000 b.toNat else replacement

def asciiOrNone : Option Bytes → Py (Option PyObject)
  | some text => return some (.str (decodeAscii text))
  | none => return some .none

def utf8OrNone : Option Bytes → Py (Option PyObject)
  | some text => return some (.str (decodeReplace text))
  | none => return some .none

/-- `PyBool_FromLong` of a bit. -/
def boolFromBit (b : Bool) : Py (Option PyObject) := boolFromLong b.toNat

/-- An `unsigned int`, or an enum, where a `long` is expected. -/
def longOfUInt (w : Nat) (n : BitVec 32) : Int := longFromLong (n.setWidth w)

/-- `PyLong_FromLong` of an `unsigned int`. -/
def longFromUInt (w : Nat) (n : BitVec 32) : Py (Option PyObject) :=
  return some (.int (longOfUInt w n))

/-- `PyLong_FromLong` of a `long`. -/
def longFromTime (n : BitVec w) : Py (Option PyObject) := return some (.int (longFromLong n))

/-- One object for each node of a linked list, in its order. -/
def items {α : Type} (wrap : α → KeyObject w) (nodes : List α) : Py (Option (Value w)) :=
  return some (.objects (nodes.map wrap))

/-- The `getset` table of a type, with the object its getters are called with. -/
abbrev Getsets (w : Nat) := List (String × Py (Option (Value w)))

def plain (getter : Py (Option PyObject)) : Py (Option (Value w)) :=
  return (← getter).map .object

section
variable (m : ModuleState)

/-! ## Subkeys -/

section
variable (self : CSubkey w)

def subkeyGetRevoked : Py (Option PyObject) := boolFromBit self.revoked
def subkeyGetExpired : Py (Option PyObject) := boolFromBit self.expired
def subkeyGetDisabled : Py (Option PyObject) := boolFromBit self.disabled
def subkeyGetInvalid : Py (Option PyObject) := boolFromBit self.invalid
def subkeyGetCanEncrypt : Py (Option PyObject) := boolFromBit self.canEncrypt
def subkeyGetCanSign : Py (Option PyObject) := boolFromBit self.canSign
def subkeyGetCanCertify : Py (Option PyObject) := boolFromBit self.canCertify
def subkeyGetSecret : Py (Option PyObject) := boolFromBit self.secret
def subkeyGetCanAuthenticate : Py (Option PyObject) := boolFromBit self.canAuthenticate

def subkeyGetPubkeyAlgo : Py (Option PyObject) :=
  enumValueNew m.pubkeyAlgoType (longOfUInt w self.pubkeyAlgo)

def subkeyGetLength : Py (Option PyObject) := longFromUInt w self.length
def subkeyGetKeyid : Py (Option PyObject) := asciiOrNone self.keyid
def subkeyGetFpr : Py (Option PyObject) := asciiOrNone self.fpr
def subkeyGetTimestamp : Py (Option PyObject) := longFromTime self.timestamp
def subkeyGetExpires : Py (Option PyObject) := longFromTime self.expires

def subkeyGetsets : Getsets w :=
  [("revoked", plain (subkeyGetRevoked self)),
    ("expired", plain (subkeyGetExpired self)),
    ("disabled", plain (subkeyGetDisabled self)),
    ("invalid", plain (subkeyGetInvalid self)),
    ("can_encrypt", plain (subkeyGetCanEncrypt self)),
    ("can_sign", plain (subkeyGetCanSign self)),
    ("can_certify", plain (subkeyGetCanCertify self)),
    ("secret", plain (subkeyGetSecret self)),
    ("can_authenticate", plain (subkeyGetCanAuthenticate self)),
    ("pubkey_algo", plain (subkeyGetPubkeyAlgo m self)),
    ("length", plain (subkeyGetLength self)),
    ("keyid", plain (subkeyGetKeyid self)),
    ("fpr", plain (subkeyGetFpr self)),
    ("timestamp", plain (subkeyGetTimestamp self)),
    ("expires", plain (subkeyGetExpires self))]

end

/-! ## Signatures of keys -/

section
variable (self : CKeySig w)

def keySigGetRevoked : Py (Option PyObject) := boolFromBit self.revoked
def keySigGetExpired : Py (Option PyObject) := boolFromBit self.expired
def keySigGetInvalid : Py (Option PyObject) := boolFromBit self.invalid
def keySigGetExportable : Py (Option PyObject) := boolFromBit self.exportable

def keySigGetPubkeyAlgo : Py (Option PyObject) :=
  enumValueNew m.pubkeyAlgoType (longOfUInt w self.pubkeyAlgo)

def keySigGetKeyid : Py (Option PyObject) := asciiOrNone self.keyid
def keySigGetTimestamp : Py (Option PyObject) := longFromTime self.timestamp
def keySigGetExpires : Py (Option PyObject) := longFromTime self.expires
def keySigGetStatus : Py (Option PyObject) := errorObject m.toModState self.status
def keySigGetUid : Py (Option PyObject) := utf8OrNone self.uid
def keySigGetName : Py (Option PyObject) := utf8OrNone self.name
def keySigGetEmail : Py (Option PyObject) := utf8OrNone self.email
def keySigGetComment : Py (Option PyObject) := utf8OrNone self.comment
def keySigGetSigClass : Py (Option PyObject) := longFromUInt w self.sigClass

def keySigGetsets : Getsets w :=
  [("revoked", plain (keySigGetRevoked self)),
    ("expired", plain (keySigGetExpired self)),
    ("invalid", plain (keySigGetInvalid self)),
    ("exportable", plain (keySigGetExportable self)),
    ("pubkey_algo", plain (keySigGetPubkeyAlgo m self)),
    ("keyid", plain (keySigGetKeyid self)),
    ("timestamp", plain (keySigGetTimestamp self)),
    ("expires", plain (keySigGetExpires self)),
    ("status", plain (keySigGetStatus m self)),
    ("uid", plain (keySigGetUid self)),
    ("name", plain (keySigGetName self)),
    ("email", plain (keySigGetEmail self)),
    ("comment", plain (keySigGetComment self)),
    ("sig_class", plain (keySigGetSigClass self))]

end

/-! ## User IDs -/

section
variable (self : CUserId w)

def userIdGetRevoked : Py (Option PyObject) := boolFromBit self.revoked
def userIdGetInvalid : Py (Option PyObject) := boolFromBit self.invalid

def userIdGetValidity : Py (Option PyObject) :=
  enumValueNew m.validityType (longOfUInt w self.validity)

def userIdGetUid : Py (Option PyObject) := utf8OrNone self.uid
def userIdGetName : Py (Option PyObject) := utf8OrNone self.name
def userIdGetEmail : Py (Option PyObject) := utf8OrNone self.email
def userIdGetComment : Py (Option PyObject) := utf8OrNone self.comment

def userIdGetSignatures : Py (Option (Value w)) := items .keySig self.signatures

def userIdGetsets : Getsets w :=
  [("revoked", plain (userIdGetRevoked self)),
    ("invalid", plain (userIdGetInvalid self)),
    ("validity", plain (userIdGetValidity m self)),
    ("uid", plain (userIdGetUid self)),
    ("name", plain (userIdGetName self)),
    ("email", plain (userIdGetEmail self)),
    ("comment", plain (userIdGetComment self)),
    ("signatures", userIdGetSignatures self)]

end

/-! ## Keys -/

section
variable (self : CKey w)

def keyGetRevoked : Py (Option PyObject) := boolFromBit self.revoked
def keyGetExpired : Py (Option PyObject) := boolFromBit self.expired
def keyGetDisabled : Py (Option PyObject) := boolFromBit self.disabled
def keyGetInvalid : Py (Option PyObject) := boolFromBit self.invalid
def keyGetCanEncrypt : Py (Option PyObject) := boolFromBit self.canEncrypt
def keyGetCanSign : Py (Option PyObject) := boolFromBit self.canSign
def keyGetCanCertify : Py (Option PyObject) := boolFromBit self.canCertify
def keyGetSecret : Py (Option PyObject) := boolFromBit self.secret
def keyGetCanAuthenticate : Py (Option PyObject) := boolFromBit self.canAuthenticate

def keyGetProtocol : Py (Option PyObject) :=
  enumValueNew m.protocolType (longOfUInt w self.protocol)

def keyGetIssuerSerial : Py (Option PyObject) := asciiOrNone self.issuerSerial
def keyGetIssuerName : Py (Option PyObject) := utf8OrNone self.issuerName
def keyGetChainId : Py (Option PyObject) := asciiOrNone self.chainId

def keyGetOwnerTrust : Py (Option PyObject) :=
  enumValueNew m.validityType (longOfUInt w self.ownerTrust)

def keyGetSubkeys : Py (Option (Value w)) := items .subkey self.subkeys
def keyGetUids : Py (Option (Value w)) := items .userId self.uids

def keyGetKeylistMode : Py (Option PyObject) :=
  enumValueNew m.keylistModeType (longOfUInt w self.keylistMode)

def keyGetsets : Getsets w :=
  [("revoked", plain (keyGetRevoked self)),
    ("expired", plain (keyGetExpired self)),
    ("disabled", plain (keyGetDisabled self)),
    ("invalid", plain (keyGetInvalid self)),
    ("can_encrypt", plain (keyGetCanEncrypt self)),
    ("can_sign", plain (keyGetCanSign self)),
    ("can_certify", plain (keyGetCanCertify self)),
    ("secret", plain (keyGetSecret self)),
    ("can_authenticate", plain (keyGetCanAuthenticate self)),
    ("protocol", plain (keyGetProtocol m self)),
    ("issuer_serial", plain (keyGetIssuerSerial self)),
    ("issuer_name", plain (keyGetIssuerName self)),
    ("chain_id", plain (keyGetChainId self)),
    ("owner_trust", plain (keyGetOwnerTrust m self)),
    ("subkeys", keyGetSubkeys self),
    ("uids", keyGetUids self),
    ("keylist_mode", plain (keyGetKeylistMode m self))]

end

/-! ## Access by name -/

def KeyObject.getsets : KeyObject w → Getsets w
  | .key self => keyGetsets m self
  | .subkey self => subkeyGetsets m self
  | .userId self => userIdGetsets m self
  | .keySig self => keySigGetsets m self

/-- `PyObject_GetAttrString` -/
def getattr (o : KeyObject w) (name : String) : Py (Option (Value w)) :=
  match (o.getsets m).lookup name with
  | some getter => getter
  | none => do
    raise .attributeError
    return none

end

end Pygpgme.Source.KeyAttributes
