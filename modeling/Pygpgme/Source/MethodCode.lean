import Pygpgme.Source.Methods
import Pygpgme.Source.ThreadPrograms

/-!
# The lock code of a method call

The methods are modelled twice: as programs of the interpreter that convert arguments
and results, and as code that takes locks. Each call of the first kind has the code
below in the second, with the answers of gpgme reduced to what the locks depend on.
-/

set_option autoImplicit false

namespace Pygpgme.Source.Methods
open Pygpgme.Source.Threads (GpgmeFn Code)
open Pygpgme.Source.Python Pygpgme.Source.Error Pygpgme.Source.Arguments
open Pygpgme.Source.Results

/-! ## What a call asks of gpgme -/

/-- The gpgme functions entered so far, in order. -/
def calls (s : Interp) : List GpgmeFn := (s.entered.map Entry.fn).reverse

/-- The ones that a thread enters on its way through some code. -/
def entries (code : Code) : List GpgmeFn :=
  code.filterMap fun
    | .act (.enter f) => some f
    | _ => none

/-! ## The callbacks of an operation -/

def ContextCallback.kind : ContextCallback → Threads.Callback
  | .passphrase _ => .passphrase
  | .progress _ => .progress

def StreamCallback.kind : StreamCallback → Threads.Callback
  | .context callback => callback.kind
  | .read _ _ _ => .read
  | .write _ _ _ => .write
  | .seek _ _ _ _ _ => .seek

def EditCallback.kind : EditCallback → Threads.Callback
  | .stream callback => callback.kind
  | .edit _ _ => .edit

/-- The code the user wrote does not come back to the Context. -/
def callbackCode {Callback : Type} (kind : Callback → Threads.Callback)
    (op : Operation Callback) : Code :=
  op.callbacks.flatMap fun callback => (kind callback).code []

/-! ## The code of a call -/

/-- What the end of a method looks at. -/
def outcome (err : GpgError) (encrypted : Option (List InvalidKey)) (signed : Option SignResult)
    (verified : Option (List Sig)) (imported : Option ImportResult) : Threads.Outcome where
  err := decide (err ≠ noError)
  invalidRecipients := (encrypted.getD []).length
  invalidSigners := (signed.elim [] SignResult.invalidSigners).length
  signatures := (signed.elim [] SignResult.signatures).length + (verified.getD []).length
  imports := (imported.elim [] ImportResult.imports).length

def contextCode (method : Threads.Method) (op : Operation ContextCallback)
    (imported : Option ImportResult) : Code :=
  method.code (outcome op.err none none none imported) (callbackCode ContextCallback.kind op)

def streamCode (method : Threads.Method) (op : Operation StreamCallback)
    (encrypted : Option (List InvalidKey)) (signed : Option SignResult)
    (verified : Option (List Sig)) (imported : Option ImportResult) : Code :=
  method.code (outcome op.err encrypted signed verified imported)
    (callbackCode StreamCallback.kind op)

def editCode (method : Threads.Method) (op : Operation EditCallback) : Code :=
  method.code (outcome op.err none none none none) (callbackCode EditCallback.kind op)

def Method.code : Method → Code
  | .setEngineInfo _ => Threads.contextSetEngineInfo
  | .getEngineInfo infos => Threads.contextGetEngineInfo infos.length
  | .setLocale _ => Threads.contextSetLocale
  | .getKey op _ => contextCode .getKey op none
  | .encrypt _ op encrypted => streamCode .encrypt op encrypted none none none
  | .encryptSign _ op encrypted signed => streamCode .encryptSign op encrypted signed none none
  | .decrypt _ op _ => streamCode .decrypt op none none none none
  | .decryptVerify _ op _ verified => streamCode .decryptVerify op none none verified none
  | .sign _ op signed => streamCode .sign op none signed none none
  | .verify _ op verified => streamCode .verify op none none verified none
  | .import_ _ op res => streamCode .import_ op none none none res
  | .importKeys op res => contextCode .importKeys op res
  | .export_ _ op => streamCode .export_ op none none none none
  | .exportKeys _ op => streamCode .exportKeys op none none none none
  | .genkey _ op _ => streamCode .genkey op none none none none
  | .delete op => contextCode .delete op none
  | .edit _ _ op => editCode .edit op
  | .cardEdit _ _ op => editCode .cardEdit op
  | .keylist op => contextCode .keylist op none

/-! ## Calls that get as far as gpgme -/

/-- The files among the arguments, when these are accepted. -/
def Method.files (args : List PyObject) : Method → Option (List PyObject)
  | .setEngineInfo _ => (setEngineInfoArgs args).toOption.map fun _ => []
  | .getEngineInfo _ => some []
  | .setLocale _ => (setLocaleArgs args).toOption.map fun _ => []
  | .getKey _ _ => (getKeyArgs args).toOption.map fun _ => []
  | .encrypt _ _ _ => (encryptArgs args).toOption.map fun (_, _, plain, cipher) => [plain, cipher]
  | .encryptSign _ _ _ _ => (encryptSignArgs args).toOption.map fun (_, _, plain, cipher) => [plain, cipher]
  | .decrypt _ _ _ | .decryptVerify _ _ _ _ =>
    (twoObjects args).toOption.map fun (cipher, plain) => [cipher, plain]
  | .sign _ _ _ => (signArgs sigModeNormal args).toOption.map fun (plain, sig, _) => [plain, sig]
  | .verify _ _ _ =>
    (threeObjects args).toOption.map fun (sig, signedText, plaintext) => [sig, signedText, plaintext]
  | .import_ _ _ _ => (oneObject args).toOption.map fun keydata => [keydata]
  | .importKeys _ _ => (importKeysArgs args).toOption.map fun _ => []
  | .export_ _ _ => (exportArgs args).toOption.map fun (_, keydata, _) => [keydata]
  | .exportKeys _ _ => (exportKeysArgs args).toOption.map fun (_, keydata, _) => [keydata]
  | .genkey _ _ _ => (genkeyArgs args).toOption.map fun (_, pubkey, seckey) => [pubkey, seckey]
  | .delete _ => (deleteArgs args).toOption.map fun _ => []
  | .edit _ _ _ | .cardEdit _ _ _ => (editArgs args).toOption.map fun (_, _, out) => [out]
  | .keylist _ => (keylistArgs args).toOption.map fun _ => []

/-- What gpgme returns when the data objects are made. -/
def Method.created : Method → Nat → GpgError
  | .encrypt created _ _ | .encryptSign created _ _ _ | .decrypt created _ _
  | .decryptVerify created _ _ _ | .sign created _ _ | .verify created _ _
  | .import_ created _ _ | .export_ created _ | .exportKeys created _ | .genkey created _ _
  | .edit _ created _ | .cardEdit _ created _ => created
  | _ => fun _ => noError

/-- What the method checks with `pygpgme_check_error`. -/
def Method.err : Method → GpgError
  | .setEngineInfo ret | .setLocale ret => ret
  | .getEngineInfo _ => noError
  | .getKey op _ | .importKeys op _ | .delete op | .keylist op => op.err
  | .encrypt _ op _ | .encryptSign _ op _ _ | .decrypt _ op _ | .decryptVerify _ op _ _
  | .sign _ op _ | .verify _ op _ | .import_ _ op _ | .export_ _ op | .exportKeys _ op
  | .genkey _ op _ => op.err
  | .edit _ _ op | .cardEdit _ _ op => op.err

end Pygpgme.Source.Methods
