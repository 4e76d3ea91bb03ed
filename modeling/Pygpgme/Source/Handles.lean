import Pygpgme.Source.Memory
import Pygpgme.Source.Methods

/-!
# Handles and references of the operations

lib/pygpgme-data.c:156-208 and the methods of lib/pygpgme-context.c that work on data
objects or key arrays, by what they take and give back. Patterns are in
Source/KeyPatterns; exceptions and results are in Source/Methods. The allocation of a
key array succeeds.
-/

set_option autoImplicit false

namespace Pygpgme.Source.Handles
open Pygpgme.Library.Program Pygpgme.Library.Ownership
open Pygpgme.Source.Python Pygpgme.Source.Arguments Pygpgme.Source.Memory
open Pygpgme.Source.Error (GpgError noError)

/-- A `gpgme_data_t`, the `struct pygpgme_data` it was made with, and the references of
that. -/
structure DataHandle where
  data : Token Resource
  closure : Token Resource
  file : Token Resource
  context : Token Resource

/-- A variable of type `gpgme_data_t`. -/
inductive DataVar where
  | uninitialised
  | null
  | handle (h : DataHandle)

def releaseCb (h : DataHandle) : Mem Unit := do
  release h.file
  release h.context
  release h.closure

/-- `gpgme_data_release`, which calls the release callback once. -/
def dataRelease : DataVar → Mem Unit
  | .uninitialised => crash
  | .null => return
  | .handle h => do
    releaseCb h
    release h.data

section
variable (fails : Nat → Bool)

/-- `pygpgme_data_new`: whether it fails, and `*dh`. `err` is what gpgme returns. -/
def dataNew (err : GpgError) (fp : PyObject) (dh : DataVar) : Mem (Bool × DataVar) := do
  match fp with
  | .none => return (false, .null)
  | _ =>
    match ← allocate fails .closure with
    | none =>
      noMemory
      return (true, dh)
    | some closure =>
      if err ≠ noError then
        release closure
        return (true, .null)
      else
        let data ← take .data
        let file ← take .file
        let context ← take .context
        return (false, .handle ⟨data, closure, file, context⟩)

/-! ## Key arrays -/

/-- A sequence of keys: whether it is refused, its reference and the array. -/
def keyArrayNew (o : PyObject) (text itemText : String) :
    Mem (Bool × Option (Token Resource) × Option (Token Resource)) := do
  match sequenceFast o text with
  | .error .crash => crash
  | .error (.raised e) =>
    setPending e
    return (true, none, none)
  | .ok items =>
    let seq ← take .sequence
    let keys ← take .block
    match keyArray itemText (visited items) with
    | .error e =>
      setPending e
      return (true, some seq, some keys)
    | .ok _ => return (false, some seq, some keys)

def recipientArray (recp : PyObject) (text : String) :
    Mem (Bool × Option (Token Resource) × Option (Token Resource)) :=
  keyArrayNew recp text "items in first argument must be gpgme.Key objects"

/-- The recipients of `encrypt`; there is no array for `None`. -/
def recipientArrayOrNone : PyObject →
    Mem (Bool × Option (Token Resource) × Option (Token Resource))
  | .none => return (false, none, none)
  | recp => recipientArray recp "first argument must be a sequence or None"

def keySequenceArray (o : PyObject) :
    Mem (Bool × Option (Token Resource) × Option (Token Resource)) :=
  keyArrayNew o "keys must be a sequence of keys" "keys must be a sequence of key objects"

/-! ## Shapes the methods share

`created` is what gpgme returns for each data object, `err` what it returns for the
operation, and `result` what the method makes of it. -/

variable (created : Nat → GpgError) (err : GpgError) (result : Option PyObject)

/-- `OiOO` -/
def encryptObjects : List PyObject → Except PyExc (PyObject × PyObject × PyObject)
  | [recp, flags, plain, cipher] => do
    let _ ← argInt flags
    return (recp, plain, cipher)
  | _ => wrongCount

/-- The label `end` of `encrypt` and `encrypt_sign`. -/
def encryptEnd (seq keys : Option (Token Resource)) (plain cipher : DataVar)
    (result : Option PyObject) : Mem (Option PyObject) := do
  releaseIfAny keys
  releaseIfAny seq
  dataRelease plain
  dataRelease cipher
  return result

/-- `encrypt` and `encrypt_sign`, after their arguments. -/
def encryptWith (array : Mem (Bool × Option (Token Resource) × Option (Token Resource)))
    (pyPlain pyCipher : PyObject) : Mem (Option PyObject) := do
  let (failed, seq, keys) ← array
  if failed then encryptEnd seq keys .null .null none
  else
    let (failed, plain) ← dataNew fails (created 0) pyPlain .null
    if failed then encryptEnd seq keys plain .null none
    else
      let (failed, cipher) ← dataNew fails (created 1) pyCipher .null
      if failed then encryptEnd seq keys plain cipher none
      else
        operate
        if err ≠ noError then encryptEnd seq keys plain cipher none
        else encryptEnd seq keys plain cipher result

/-- An exception from the arguments. -/
def refuse (e : PyExc) : Mem (Option PyObject) := do
  setPending e
  return none

/-- `import_`, `export`, `edit` and `card_edit`, after their arguments. -/
def withData (py : PyObject) : Mem (Option PyObject) := do
  let (failed, data) ← dataNew fails (created 0) py .uninitialised
  if failed then return none
  else
    operate
    dataRelease data
    if err ≠ noError then return none else return result

/-- `decrypt`, `decrypt_verify` and `sign`, after their arguments. -/
def withTwoData (pyFirst pySecond : PyObject) : Mem (Option PyObject) := do
  let (failed, first) ← dataNew fails (created 0) pyFirst .uninitialised
  if failed then return none
  else
    let (failed, second) ← dataNew fails (created 1) pySecond .uninitialised
    if failed then
      dataRelease first
      return none
    else
      operate
      dataRelease first
      dataRelease second
      if err ≠ noError then return none else return result

/-! ## The methods -/

def contextEncrypt (args : List PyObject) : Mem (Option PyObject) := do
  match encryptObjects args with
  | .error e =>
    setPending e
    encryptEnd none none .null .null none
  | .ok (recp, plain, cipher) =>
    encryptWith fails created err result (recipientArrayOrNone recp) plain cipher

def contextEncryptSign (args : List PyObject) : Mem (Option PyObject) := do
  match encryptObjects args with
  | .error e =>
    setPending e
    encryptEnd none none .null .null none
  | .ok (recp, plain, cipher) =>
    encryptWith fails created err result
      (recipientArray recp "first argument must be a sequence") plain cipher

def contextDecrypt (args : List PyObject) : Mem (Option PyObject) :=
  match twoObjects args with
  | .error e => refuse e
  | .ok (cipher, plain) => withTwoData fails created err result cipher plain

def contextDecryptVerify (args : List PyObject) : Mem (Option PyObject) :=
  match twoObjects args with
  | .error e => refuse e
  | .ok (cipher, plain) => withTwoData fails created err result cipher plain

def contextSign (args : List PyObject) : Mem (Option PyObject) :=
  match signArgs Methods.sigModeNormal args with
  | .error e => refuse e
  | .ok (plain, sig, _) => withTwoData fails created err result plain sig

def contextVerify (args : List PyObject) : Mem (Option PyObject) := do
  match threeObjects args with
  | .error e => refuse e
  | .ok (pySig, pySignedText, pyPlaintext) =>
    let (failed, sig) ← dataNew fails (created 0) pySig .uninitialised
    if failed then return none
    else
      let (failed, signedText) ← dataNew fails (created 1) pySignedText .uninitialised
      if failed then
        dataRelease sig
        return none
      else
        let (failed, plaintext) ← dataNew fails (created 2) pyPlaintext .uninitialised
        if failed then
          dataRelease sig
          dataRelease signedText
          return none
        else
          operate
          dataRelease sig
          dataRelease signedText
          dataRelease plaintext
          if err ≠ noError then return none else return result

def contextImport (args : List PyObject) : Mem (Option PyObject) :=
  match oneObject args with
  | .error e => refuse e
  | .ok keydata => withData fails created err result keydata

/-- From the label `out` of `import_keys`. -/
def importKeysOut (seq keys : Option (Token Resource)) (result : Option PyObject) :
    Mem (Option PyObject) := do
  releaseIfAny keys
  releaseIfAny seq
  return result

def contextImportKeys (args : List PyObject) : Mem (Option PyObject) := do
  match oneObject args with
  | .error e => refuse e
  | .ok pyKeys =>
    let (failed, seq, keys) ← keySequenceArray pyKeys
    if failed then importKeysOut seq keys none
    else
      operate
      if err ≠ noError then importKeysOut seq keys none else importKeysOut seq keys result

/-- The conversion of the patterns is one of the arguments here. -/
def contextExport (args : List PyObject) : Mem (Option PyObject) :=
  match exportArgs args with
  | .error .crash => crash
  | .error (.raised e) => refuse e
  | .ok (_, keydata, _) => withData fails created err result keydata

/-- From the label `out` of `export_keys`. -/
def exportKeysOut (seq keys : Option (Token Resource)) (keydata : DataVar)
    (result : Option PyObject) : Mem (Option PyObject) := do
  dataRelease keydata
  releaseIfAny keys
  releaseIfAny seq
  return result

def contextExportKeys (args : List PyObject) : Mem (Option PyObject) := do
  match signArgs 0 args with
  | .error e => refuse e
  | .ok (pyKeys, pyKeydata, _) =>
    let (failed, seq, keys) ← keySequenceArray pyKeys
    if failed then exportKeysOut seq keys .null none
    else
      let (failed, keydata) ← dataNew fails (created 0) pyKeydata .null
      if failed then exportKeysOut seq keys keydata none
      else
        operate
        if err ≠ noError then exportKeysOut seq keys keydata none
        else exportKeysOut seq keys keydata result

/-- The secret key's data is released first. -/
def contextGenkey (args : List PyObject) : Mem (Option PyObject) := do
  match genkeyArgs args with
  | .error e => refuse e
  | .ok (_, pyPubkey, pySeckey) =>
    let (failed, pubkey) ← dataNew fails (created 0) pyPubkey .null
    if failed then return none
    else
      let (failed, seckey) ← dataNew fails (created 1) pySeckey .null
      if failed then
        dataRelease pubkey
        return none
      else
        operate
        dataRelease seckey
        dataRelease pubkey
        if err ≠ noError then return none else return result

def contextEdit (args : List PyObject) : Mem (Option PyObject) :=
  match editArgs args with
  | .error e => refuse e
  | .ok (_, _, out) => withData fails created err result out

def contextCardEdit (args : List PyObject) : Mem (Option PyObject) :=
  match editArgs args with
  | .error e => refuse e
  | .ok (_, _, out) => withData fails created err result out

end

/-- The methods that take data objects or key arrays. -/
inductive Method where
  | encrypt | encryptSign | decrypt | decryptVerify | sign | verify | import_ | importKeys
  | export | exportKeys | genkey | edit | cardEdit

def Method.call (fails : Nat → Bool) (created : Nat → GpgError) (err : GpgError)
    (result : Option PyObject) (args : List PyObject) : Method → Mem (Option PyObject)
  | .encrypt => contextEncrypt fails created err result args
  | .encryptSign => contextEncryptSign fails created err result args
  | .decrypt => contextDecrypt fails created err result args
  | .decryptVerify => contextDecryptVerify fails created err result args
  | .sign => contextSign fails created err result args
  | .verify => contextVerify fails created err result args
  | .import_ => contextImport fails created err result args
  | .importKeys => contextImportKeys err result args
  | .export => contextExport fails created err result args
  | .exportKeys => contextExportKeys fails created err result args
  | .genkey => contextGenkey fails created err result args
  | .edit => contextEdit fails created err result args
  | .cardEdit => contextCardEdit fails created err result args

/-- The argument that the method iterates over, once the format accepts the others. -/
def Method.sequence (args : List PyObject) : Method → Option PyObject
  | .encrypt | .encryptSign => (encryptObjects args).toOption.map Prod.fst
  | .importKeys => (oneObject args).toOption
  | .export | .exportKeys => (signArgs 0 args).toOption.map Prod.fst
  | _ => none

end Pygpgme.Source.Handles
