import Pygpgme.Source.Arguments

/-!
# Conversion of gpgme results to Python objects

lib/pygpgme-signature.c, lib/pygpgme-import.c, lib/pygpgme-genkey.c,
lib/pygpgme-engine-info.c, and the parts of lib/pygpgme-context.c that annotate a
raised `GpgmeError` with a result. A conversion that an exception is pending for
leaves a NULL in the object it builds; some of the loops look for that, some do not.
-/

set_option autoImplicit false

namespace Pygpgme.Source.Results
open Pygpgme.Library.BitField Pygpgme.Library.Program Pygpgme.Source.Threads
open Pygpgme.Source.Python Pygpgme.Source.Error

/-- The module state that the conversions read. -/
structure Module extends ModState where
  protocolType : IntEnum
  sigModeType : IntEnum
  pubkeyAlgoType : IntEnum
  hashAlgoType : IntEnum
  sigsumType : IntEnum
  validityType : IntEnum
  importType : IntEnum
  statusType : IntEnum
  /-- `PyUnicode_DecodeASCII` and `PyUnicode_DecodeUTF8` with "replace", which do not fail. -/
  replaceAscii : Bytes → List CodePoint
  replaceUtf8 : Bytes → List CodePoint

variable (m : Module)

/-- `PyUnicode_FromString`: strict UTF-8. -/
def decodeUtf8 (data : Bytes) : Except PyExc PyObject :=
  match String.fromUTF8? ⟨data.toArray⟩ with
  | some text => .ok (message text)
  | none => .error ⟨.unicodeDecodeError, [], []⟩

/-- A fingerprint; NULL becomes `None`. -/
def fingerprint : Option Bytes → PyObject
  | some fpr => .str (m.replaceAscii fpr)
  | none => .none

/-! ## What gpgme hands out -/

structure InvalidKey where
  fpr : Option Bytes
  reason : GpgError

structure NewSig where
  type : Int
  pubkeyAlgo : Int
  hashAlgo : Int
  timestamp : Int
  fpr : Option Bytes
  sigClass : Int

structure RawNotation where
  name : Option Bytes
  value : Bytes
  flags : BitVec 32

structure Sig where
  summary : Int
  fpr : Option Bytes
  status : GpgError
  notations : List RawNotation
  timestamp : Int
  expTimestamp : Int
  wrongKeyUsage : Bool
  validity : Int
  validityReason : GpgError
  pubkeyAlgo : Int
  hashAlgo : Int

structure SignResult where
  invalidSigners : List InvalidKey
  signatures : List NewSig

structure DecryptResult where
  unsupportedAlgorithm : Option Bytes
  wrongKeyUsage : Bool

structure ImportStatus where
  fpr : Option Bytes
  result : GpgError
  status : Int

structure ImportResult where
  /-- The counts, by the names of their attributes. -/
  counts : List (String × Int)
  imports : List ImportStatus

structure GenkeyResult where
  primary : Bool
  sub : Bool
  fpr : Option Bytes

structure EngineInfo where
  protocol : Int
  fileName : Option Bytes
  version : Option Bytes
  reqVersion : Option Bytes
  homeDir : Option Bytes

/-! ## Lists of signatures -/

/-- `PyBool_FromLong` -/
def bool (b : Bool) : PyObject := .int (if b then 1 else 0)

/-- `pygpgme_newsiglist_new` -/
def newsiglistNew : List NewSig → Py (Option (List PyObject))
  | [] => return some []
  | sig :: rest => do
    let type ← enumValueNew m.sigModeType sig.type
    let pubkeyAlgo ← enumValueNew m.pubkeyAlgoType sig.pubkeyAlgo
    let hashAlgo ← enumValueNew m.hashAlgoType sig.hashAlgo
    let item := PyObject.record "gpgme.NewSignature"
      [("type", type), ("pubkey_algo", pubkeyAlgo), ("hash_algo", hashAlgo),
        ("timestamp", some (.int sig.timestamp)), ("fpr", some (fingerprint m sig.fpr)),
        ("sig_class", some (.int sig.sigClass))]
    if ← occurred then return none
    else
      match ← newsiglistNew rest with
      | none => return none
      | some items => return some (item :: items)

/-- One item of `pygpgme_sig_notation_list_new`. -/
def notationNew (raw : RawNotation) : SigNotation where
  name := raw.name.map m.replaceUtf8
  value := if humanReadable raw.flags then .text (m.replaceUtf8 raw.value) else .data raw.value
  flags := raw.flags
  typed := by
    constructor
    · intro readable
      exact ⟨_, if_pos readable⟩
    · rintro ⟨text, same⟩
      by_contra binary
      rw [if_neg binary] at same
      cases same

def sigNotationListNew (notations : List RawNotation) : PyObject :=
  .list (notations.map fun raw => .sigNotation (some (notationNew m raw)))

/-- `pygpgme_siglist_new` -/
def siglistNew : List Sig → Py (Option (List PyObject))
  | [] => return some []
  | sig :: rest => do
    let summary ← enumValueNew m.sigsumType sig.summary
    let status ← errorObject m.toModState sig.status
    let validity ← enumValueNew m.validityType sig.validity
    let validityReason ← errorObject m.toModState sig.validityReason
    let pubkeyAlgo ← enumValueNew m.pubkeyAlgoType sig.pubkeyAlgo
    let hashAlgo ← enumValueNew m.hashAlgoType sig.hashAlgo
    let item := PyObject.record "gpgme.Signature"
      [("summary", summary), ("fpr", some (fingerprint m sig.fpr)), ("status", status),
        ("notations", some (sigNotationListNew m sig.notations)),
        ("timestamp", some (.int sig.timestamp)),
        ("exp_timestamp", some (.int sig.expTimestamp)),
        ("wrong_key_usage", some (bool sig.wrongKeyUsage)), ("validity", validity),
        ("validity_reason", validityReason), ("pubkey_algo", pubkeyAlgo),
        ("hash_algo", hashAlgo)]
    if ← occurred then return none
    else
      match ← siglistNew rest with
      | none => return none
      | some items => return some (item :: items)

/-- What `sign` and `verify` make of a list that was converted or not. -/
def listOf (items : Option (List PyObject)) : Option PyObject := items.map PyObject.list

/-! ## Import and key generation -/

/-- The loop over the import statuses. `Py_BuildValue` gives NULL, with an
exception, when one of its objects is NULL. -/
def importStatuses : List ImportStatus → Py (Option (List PyObject))
  | [] => return some []
  | status :: rest => do
    let result ← errorObject m.toModState status.result
    let flags ← enumValueNew m.importType status.status
    match result, flags with
    | some result, some flags =>
      match ← importStatuses rest with
      | none => return none
      | some items => return some (.tuple [fingerprint m status.fpr, result, flags] :: items)
    | _, _ =>
      if ← occurred then return none
      else
        raise .systemError
        return none

/-- `pygpgme_import_result` -/
def importResult (res : Option ImportResult) : Py (Option PyObject) := do
  gpgme .opImportResult []
  match res with
  | none => return some .none
  | some res =>
    match ← importStatuses m res.imports with
    | none => return none
    | some imports =>
      return some (.record "gpgme.ImportResult"
        (res.counts.map (fun c => (c.1, some (.int c.2))) ++ [("imports", some (.list imports))]))

/-- `pygpgme_genkey_result` -/
def genkeyResult (res : Option GenkeyResult) : Py (Option PyObject) := do
  gpgme .opGenkeyResult []
  match res with
  | none => return some .none
  | some res =>
    return some (.record "gpgme.GenkeyResult"
      [("primary", some (bool res.primary)), ("sub", some (bool res.sub)),
        ("fpr", some (fingerprint m res.fpr))])

/-! ## Engine information -/

/-- A string attribute; one that is not UTF-8 becomes NULL. -/
def engineString : Option Bytes → Py (Option PyObject)
  | none => return some .none
  | some data => attempt (decodeUtf8 data)

/-- `pygpgme_engine_info_list_new` does not look for an exception. -/
def engineInfoListNew : List EngineInfo → Py (List PyObject)
  | [] => return []
  | info :: rest => do
    let protocol ← enumValueNew m.protocolType info.protocol
    let fileName ← engineString info.fileName
    let version ← engineString info.version
    let reqVersion ← engineString info.reqVersion
    let homeDir ← engineString info.homeDir
    let item := PyObject.record "gpgme.EngineInfo"
      [("protocol", protocol), ("file_name", fileName), ("version", version),
        ("req_version", reqVersion), ("home_dir", homeDir)]
    return item :: (← engineInfoListNew rest)

/-! ## Annotations of a raised error -/

/-- The frame of every annotation: the exception is fetched, annotated if it is a
`GpgmeError`, and restored. -/
def annotate (f : PyExc → Py PyExc) : Py Unit := do
  match ← fetch with
  | none => restore none
  | some e =>
    if e.cls.isGpgmeError then restore (some (← f e)) else restore (some e)

/-- A list of pairs of a fingerprint and an error. -/
def invalidKeys : List InvalidKey → Py (List PyObject)
  | [] => return []
  | key :: rest => do
    match ← errorObject m.toModState key.reason with
    | none => crash
    | some reason => return .tuple [fingerprint m key.fpr, reason] :: (← invalidKeys rest)

/-- `decode_encrypt_result` -/
def decodeEncryptResult (res : Option (List InvalidKey)) : Py Unit :=
  annotate fun e => do
    gpgme .opEncryptResult []
    match res with
    | none => return e
    | some invalidRecipients =>
      return e.setAttr "invalid_recipients" (.list (← invalidKeys m invalidRecipients))

/-- `decode_decrypt_result` -/
def decodeDecryptResult (res : Option DecryptResult) : Py Unit :=
  annotate fun e => do
    gpgme .opDecryptResult []
    match res with
    | none => return e
    | some res =>
      let algorithm := match res.unsupportedAlgorithm with
        | some text => PyObject.str (m.replaceUtf8 text)
        | none => .none
      return (e.setAttr "unsupported_algorithm" algorithm).setAttr "wrong_key_usage"
        (bool res.wrongKeyUsage)

/-- A list attribute; the list is given up without asking whether it was converted. -/
def setList (e : PyExc) (name : String) : Option (List PyObject) → Py PyExc
  | some items => return e.setAttr name (.list items)
  | none => crash

/-- The annotation of `sign` and `encrypt_sign`. -/
def annotateSignResult (res : Option SignResult) : Py Unit :=
  annotate fun e => do
    match res with
    | none => return e
    | some res =>
      let e := e.setAttr "invalid_signers" (.list (← invalidKeys m res.invalidSigners))
      setList e "signatures" (← newsiglistNew m res.signatures)

/-- The annotation of `verify` and `decrypt_verify`. -/
def annotateVerifyResult (res : Option (List Sig)) : Py Unit :=
  annotate fun e => do
    match res with
    | none => return e
    | some signatures => setList e "signatures" (← siglistNew m signatures)

/-- The annotation of `import_`, `import_keys` and `genkey`. -/
def annotateResult (res : Option PyObject) : Py Unit :=
  annotate fun e => do
    match res with
    | none => return e
    | some result => return e.setAttr "result" result

end Pygpgme.Source.Results
