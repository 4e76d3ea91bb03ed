import Pygpgme.Source.Results
import Pygpgme.Source.Setters

/-!
# Methods of a Context

lib/pygpgme-context.c:776-2043. A method gets the tuple of its arguments and
returns an object or NULL. What gpgme returns, the callbacks it runs during an
operation, and what the warning filter makes of a deprecation are parameters.
-/

set_option autoImplicit false

namespace Pygpgme.Source.Methods
open Pygpgme.Library.Program
open Pygpgme.Source.Threads (GpgmeFn)
open Pygpgme.Source.Python Pygpgme.Source.Error Pygpgme.Source.Data
open Pygpgme.Source.Arguments Pygpgme.Source.Results

variable (m : Module)

/-! ## Callbacks during an operation -/

/-- A callback of the context, by how the user's callable ends when nothing is pending;
otherwise it makes no difference, for both callbacks clear what is left at their end. -/
inductive ContextCallback where
  | passphrase (outcome : Except PyExc PyObject)
  | progress (outcome : Except PyExc PyObject)

/-- In an operation on data objects gpgme also reads, writes and seeks. `handled` is how
the first method called ends if it deals with an exception that it finds pending. -/
inductive StreamCallback where
  | context (callback : ContextCallback)
  | read (size : BitVec 64) (read : Int → Except PyExc PyObject)
      (handled : Option (Except PyExc PyObject))
  | write (buffer : Bytes) (write : PyObject → Except PyExc PyObject)
      (handled : Option (Except PyExc PyObject))
  | seek (offset whence : Int) (seek : Int → Int → Except PyExc PyObject)
      (tell : Except PyExc PyObject) (handled : Option (Except PyExc PyObject))

inductive EditCallback where
  | stream (callback : StreamCallback)
  | edit (status : Int) (outcome : Except PyExc PyObject)

def ContextCallback.run : ContextCallback → Py Unit
  | .passphrase outcome => do
    let _ ← passphraseCb m.toModState outcome
    return
  | .progress outcome => do
    let _ ← callUser outcome none
    clear

/-- No method looks at `errno`, so what destructors make of it is left out. -/
def StreamCallback.run : StreamCallback → Py Unit
  | .context callback => callback.run m
  | .read size ask handled => do
    let _ ← readCb size ask handled id
    return
  | .write buffer ask handled => do
    let _ ← writeCb buffer ask handled id
    return
  | .seek offset whence ask tell handled => do
    let _ ← seekCb offset whence ask tell handled id
    return

def EditCallback.run : EditCallback → Py Unit
  | .stream callback => callback.run m
  | .edit status outcome => do
    let _ ← editCb m.toModState m.statusType status outcome
    return

/-- What gpgme does once an operation is started. -/
structure Operation (Callback : Type) where
  callbacks : List Callback
  err : GpgError

def runAll {Callback : Type} (run : Callback → Py Unit) : List Callback → Py Unit
  | [] => return
  | callback :: rest => do
    run callback
    runAll run rest

def operation {Callback : Type} (run : Callback → Py Unit) (fn : GpgmeFn) (args : List CArg)
    (op : Operation Callback) : Py GpgError := do
  gpgme fn args
  runAll run op.callbacks
  return op.err

/-! ## Beginnings and ends the methods share -/

/-- `pygpgme_data_new` for one file after the other, up to the first that fails;
`created` is what gpgme returns for each. -/
def dataNews (created : Nat → GpgError) : List PyObject → Py Bool
  | [] => return false
  | fp :: rest => do
    if ← dataNew m.toModState (created 0) fp then return true
    else dataNews (fun i => created (i + 1)) rest

def noneUnlessError (err : GpgError) : Py (Option PyObject) := do
  if ← checkError m.toModState err then return none else return some .none

/-- The list that `sign` and `encrypt_sign` return. -/
def newSignatures : Option SignResult → Py (Option PyObject)
  | some res => do return listOf (← newsiglistNew m res.signatures)
  | none => return some (.list [])

/-- The list that `verify` and `decrypt_verify` return. -/
def signatures : Option (List Sig) → Py (Option PyObject)
  | some signatures => do return listOf (← siglistNew m signatures)
  | none => return some (.list [])

/-- `PyErr_WarnEx`; the binding does not look at what it returns. `warning` is the
class that is raised instead of a warning, if the filter says so. -/
def warnEx (warning : Option ExcClass) (text : String) : Py Unit :=
  match warning with
  | some cls => setString cls text
  | none => return

/-! ## Engines and locale -/

def contextSetEngineInfo (ret : GpgError) (args : List PyObject) : Py (Option PyObject) := do
  match ← attempt (setEngineInfoArgs args) with
  | none => return none
  | some (protocol, fileName, homeDir) =>
    gpgme .ctxSetEngineInfo [.int protocol, .string fileName, .string homeDir]
    noneUnlessError m ret

/-- The arguments are not looked at. -/
def contextGetEngineInfo (infos : List EngineInfo) (_args : List PyObject) :
    Py (Option PyObject) := do
  gpgme .ctxGetEngineInfo []
  return some (.list (← engineInfoListNew m infos))

def contextSetLocale (ret : GpgError) (args : List PyObject) : Py (Option PyObject) := do
  match ← attempt (setLocaleArgs args) with
  | none => return none
  | some (category, value) =>
    gpgme .setLocale [.int category, .string value]
    noneUnlessError m ret

/-! ## Operations without data objects -/

section
variable (op : Operation ContextCallback)

def contextGetKey (key : Nat) (args : List PyObject) : Py (Option PyObject) := do
  match ← attempt (getKeyArgs args) with
  | none => return none
  | some (fpr, secret) =>
    let err ← operation (·.run m) .getKey [.string (some fpr), .int secret] op
    if ← checkError m.toModState err then return none else return some (.key key)

def contextImportKeys (res : Option ImportResult) (args : List PyObject) :
    Py (Option PyObject) := do
  match ← convert (importKeysArgs args) with
  | none => return none
  | some keys =>
    let err ← operation (·.run m) .opImportKeys [.keys (some keys)] op
    let result ← importResult m res
    if ← checkError m.toModState err then
      annotateResult result
      return none
    else return result

def contextDelete (args : List PyObject) : Py (Option PyObject) := do
  match ← attempt (deleteArgs args) with
  | none => return none
  | some (key, flags) =>
    noneUnlessError m
      (← operation (·.run m) .opDeleteExt [.key key, .int flags.toNat] op)

def contextKeylist (args : List PyObject) : Py (Option PyObject) := do
  match ← convert (keylistArgs args) with
  | none => return none
  | some (patterns, secretOnly) =>
    let err ← operation (·.run m) .opKeylistExtStart [.strings patterns, .int secretOnly] op
    if ← checkError m.toModState err then return none
    else return some (.record "gpgme.KeyIter" [])

end

/-! ## Operations on data objects -/

section
variable (created : Nat → GpgError) (op : Operation StreamCallback)

def contextEncrypt (encrypted : Option (List InvalidKey)) (args : List PyObject) :
    Py (Option PyObject) := do
  match ← convert (encryptArgs args) with
  | none => return none
  | some (recp, flags, plain, cipher) =>
    if ← dataNews m created [plain, cipher] then return none
    else
      let err ← operation (·.run m) .opEncrypt
        [.keys recp, .int flags, .data plain, .data cipher] op
      if ← checkError m.toModState err then
        decodeEncryptResult m encrypted
        return none
      else return some .none

def contextEncryptSign (encrypted : Option (List InvalidKey)) (signed : Option SignResult)
    (args : List PyObject) : Py (Option PyObject) := do
  match ← convert (encryptSignArgs args) with
  | none => return none
  | some (recp, flags, plain, cipher) =>
    if ← dataNews m created [plain, cipher] then return none
    else
      let err ← operation (·.run m) .opEncryptSign
        [.keys (some recp), .int flags, .data plain, .data cipher] op
      gpgme .opSignResult []
      if ← checkError m.toModState err then
        decodeEncryptResult m encrypted
        annotateSignResult m signed
        return none
      else newSignatures m signed

def contextDecrypt (decrypted : Option DecryptResult) (args : List PyObject) :
    Py (Option PyObject) := do
  match ← attempt (twoObjects args) with
  | none => return none
  | some (cipher, plain) =>
    if ← dataNews m created [cipher, plain] then return none
    else
      let err ← operation (·.run m) .opDecrypt [.data cipher, .data plain] op
      if ← checkError m.toModState err then
        decodeDecryptResult m decrypted
        return none
      else return some .none

/-- The same error is checked twice; the second check never finds one. -/
def contextDecryptVerify (decrypted : Option DecryptResult) (verified : Option (List Sig))
    (args : List PyObject) : Py (Option PyObject) := do
  match ← attempt (twoObjects args) with
  | none => return none
  | some (cipher, plain) =>
    if ← dataNews m created [cipher, plain] then return none
    else
      let err ← operation (·.run m) .opDecryptVerify [.data cipher, .data plain] op
      if ← checkError m.toModState err then
        decodeDecryptResult m decrypted
        return none
      else
        gpgme .opVerifyResult []
        if ← checkError m.toModState err then
          annotateVerifyResult m verified
          return none
        else signatures m verified

/-- `GPGME_SIG_MODE_NORMAL` -/
def sigModeNormal : Int := 0

def contextSign (signed : Option SignResult) (args : List PyObject) : Py (Option PyObject) := do
  match ← attempt (signArgs sigModeNormal args) with
  | none => return none
  | some (plain, sig, sigMode) =>
    if ← dataNews m created [plain, sig] then return none
    else
      let err ← operation (·.run m) .opSign [.data plain, .data sig, .int sigMode] op
      gpgme .opSignResult []
      if ← checkError m.toModState err then
        annotateSignResult m signed
        return none
      else newSignatures m signed

def contextVerify (verified : Option (List Sig)) (args : List PyObject) :
    Py (Option PyObject) := do
  match ← attempt (threeObjects args) with
  | none => return none
  | some (sig, signedText, plaintext) =>
    if ← dataNews m created [sig, signedText, plaintext] then return none
    else
      let err ← operation (·.run m) .opVerify [.data sig, .data signedText, .data plaintext] op
      gpgme .opVerifyResult []
      if ← checkError m.toModState err then
        annotateVerifyResult m verified
        return none
      else signatures m verified

def contextImport (res : Option ImportResult) (args : List PyObject) : Py (Option PyObject) := do
  match ← attempt (oneObject args) with
  | none => return none
  | some keydata =>
    if ← dataNews m created [keydata] then return none
    else
      let err ← operation (·.run m) .opImport [.data keydata] op
      let result ← importResult m res
      if ← checkError m.toModState err then
        annotateResult result
        return none
      else return result

def contextExport (args : List PyObject) : Py (Option PyObject) := do
  match ← convert (exportArgs args) with
  | none => return none
  | some (patterns, keydata, exportMode) =>
    if ← dataNews m created [keydata] then return none
    else
      noneUnlessError m (← operation (·.run m) .opExportExt
        [.strings patterns, .int exportMode, .data keydata] op)

def contextExportKeys (args : List PyObject) : Py (Option PyObject) := do
  match ← convert (exportKeysArgs args) with
  | none => return none
  | some (keys, keydata, exportMode) =>
    if ← dataNews m created [keydata] then return none
    else
      noneUnlessError m (← operation (·.run m) .opExportKeys
        [.keys (some keys), .int exportMode, .data keydata] op)

def contextGenkey (res : Option GenkeyResult) (args : List PyObject) : Py (Option PyObject) := do
  match ← attempt (genkeyArgs args) with
  | none => return none
  | some (parms, pubkey, seckey) =>
    if ← dataNews m created [pubkey, seckey] then return none
    else
      let err ← operation (·.run m) .opGenkey [.string parms, .data pubkey, .data seckey] op
      let result ← genkeyResult m res
      if ← checkError m.toModState err then
        annotateResult result
        return none
      else return result

end

/-! ## Interactive operations -/

/-- The shape of `edit` and `card_edit`. -/
def editWith (fn : GpgmeFn) (text : String) (warning : Option ExcClass)
    (created : Nat → GpgError) (op : Operation EditCallback) (args : List PyObject) :
    Py (Option PyObject) := do
  match ← attempt (editArgs args) with
  | none => return none
  | some (key, _, out) =>
    warnEx warning text
    if ← dataNews m created [out] then return none
    else noneUnlessError m (← operation (·.run m) fn [.key key, .data out] op)

def contextEdit (warning : Option ExcClass) (created : Nat → GpgError)
    (op : Operation EditCallback) (args : List PyObject) : Py (Option PyObject) :=
  editWith m .opEdit "gpgme.Context.edit is deprecated" warning created op args

def contextCardEdit (warning : Option ExcClass) (created : Nat → GpgError)
    (op : Operation EditCallback) (args : List PyObject) : Py (Option PyObject) :=
  editWith m .opCardEdit "gpgme.Context.card_edit is deprecated" warning created op args

/-! ## The table of methods -/

/-- A method, with everything that gpgme and the warning filter answer to it. -/
inductive Method where
  | setEngineInfo (ret : GpgError)
  | getEngineInfo (infos : List EngineInfo)
  | setLocale (ret : GpgError)
  | getKey (op : Operation ContextCallback) (key : Nat)
  | encrypt (created : Nat → GpgError) (op : Operation StreamCallback)
      (encrypted : Option (List InvalidKey))
  | encryptSign (created : Nat → GpgError) (op : Operation StreamCallback)
      (encrypted : Option (List InvalidKey)) (signed : Option SignResult)
  | decrypt (created : Nat → GpgError) (op : Operation StreamCallback)
      (decrypted : Option DecryptResult)
  | decryptVerify (created : Nat → GpgError) (op : Operation StreamCallback)
      (decrypted : Option DecryptResult) (verified : Option (List Sig))
  | sign (created : Nat → GpgError) (op : Operation StreamCallback) (signed : Option SignResult)
  | verify (created : Nat → GpgError) (op : Operation StreamCallback)
      (verified : Option (List Sig))
  | import_ (created : Nat → GpgError) (op : Operation StreamCallback)
      (res : Option ImportResult)
  | importKeys (op : Operation ContextCallback) (res : Option ImportResult)
  | export_ (created : Nat → GpgError) (op : Operation StreamCallback)
  | exportKeys (created : Nat → GpgError) (op : Operation StreamCallback)
  | genkey (created : Nat → GpgError) (op : Operation StreamCallback)
      (res : Option GenkeyResult)
  | delete (op : Operation ContextCallback)
  | edit (warning : Option ExcClass) (created : Nat → GpgError) (op : Operation EditCallback)
  | cardEdit (warning : Option ExcClass) (created : Nat → GpgError) (op : Operation EditCallback)
  | keylist (op : Operation ContextCallback)

/-- `pygpgme_context_methods` -/
def Method.call (args : List PyObject) : Method → Py (Option PyObject)
  | .setEngineInfo ret => contextSetEngineInfo m ret args
  | .getEngineInfo infos => contextGetEngineInfo m infos args
  | .setLocale ret => contextSetLocale m ret args
  | .getKey op key => contextGetKey m op key args
  | .encrypt created op encrypted => contextEncrypt m created op encrypted args
  | .encryptSign created op encrypted signed =>
    contextEncryptSign m created op encrypted signed args
  | .decrypt created op decrypted => contextDecrypt m created op decrypted args
  | .decryptVerify created op decrypted verified =>
    contextDecryptVerify m created op decrypted verified args
  | .sign created op signed => contextSign m created op signed args
  | .verify created op verified => contextVerify m created op verified args
  | .import_ created op res => contextImport m created op res args
  | .importKeys op res => contextImportKeys m op res args
  | .export_ created op => contextExport m created op args
  | .exportKeys created op => contextExportKeys m created op args
  | .genkey created op res => contextGenkey m created op res args
  | .delete op => contextDelete m op args
  | .edit warning created op => contextEdit m warning created op args
  | .cardEdit warning created op => contextCardEdit m warning created op args
  | .keylist op => contextKeylist m op args

end Pygpgme.Source.Methods
