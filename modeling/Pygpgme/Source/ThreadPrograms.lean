import Pygpgme.Source.Threads

/-!
# Blocking methods, key iterators, and the programs threads run

lib/pygpgme-context.c:849-2043 and lib/pygpgme-keyiter.c. A `Prog` is Python
code as far as one Context can see it. Its index says who runs it: the
interpreter, or gpgme inside an operation, which may call back into Python.
Nesting is unbounded; what a callback does is again a program.
-/

set_option autoImplicit false

namespace Pygpgme.Source.Threads
open Pygpgme.Library.LockMachine Pygpgme.Library.Transition

/-- What gpgme answered, as far as the code after an operation looks at it: the
operation failed or not, and the lengths of the lists in its result. -/
structure Outcome where
  err : Bool
  invalidRecipients : Nat
  invalidSigners : Nat
  signatures : Nat
  imports : Nat
  deriving DecidableEq, Repr

/-- `pygpgme_check_error` on a failure runs interpreter code (the enum lookups). -/
def checkError (err : Bool) : Code := if err then gilSwitch else []

/-- Convert a list of `length` items out of a fetched result. -/
def convert (f : GpgmeFn) (length : Nat) : Code :=
  .act (.build f) :: (List.replicate length (gilSwitch ++ [.act (.build f)])).flatten

def decodeEncryptResult (o : Outcome) : Code :=
  call .opEncryptResult ++ convert .opEncryptResult o.invalidRecipients

/-- `unsupported_algorithm`, then `wrong_key_usage`. -/
def decodeDecryptResult : Code :=
  call .opDecryptResult ++ convert .opDecryptResult 0 ++ convert .opDecryptResult 0

def importResult (o : Outcome) : Code := call .opImportResult ++ convert .opImportResult o.imports

def genkeyResult : Code := call .opGenkeyResult ++ convert .opGenkeyResult 0

inductive Method where
  | getKey | encrypt | encryptSign | decrypt | decryptVerify | sign | verify
  | import_ | importKeys | export_ | exportKeys | genkey | delete | edit | cardEdit | keylist
  deriving DecidableEq, Repr

/-- The gpgme operation between `begin_allow_threads` and `end_allow_threads`. -/
def Method.op : Method → GpgmeFn
  | .getKey => .getKey
  | .encrypt => .opEncrypt
  | .encryptSign => .opEncryptSign
  | .decrypt => .opDecrypt
  | .decryptVerify => .opDecryptVerify
  | .sign => .opSign
  | .verify => .opVerify
  | .import_ => .opImport
  | .importKeys => .opImportKeys
  | .export_ => .opExportExt
  | .exportKeys => .opExportKeys
  | .genkey => .opGenkey
  | .delete => .opDeleteExt
  | .edit => .opEdit
  | .cardEdit => .opCardEdit
  | .keylist => .opKeylistExtStart

/-- What a method still does after `end_allow_threads`. In `encrypt_sign` the
sign result is fetched before the encrypt result; in `decrypt_verify` a failure
returns before the verify result is looked at. -/
def Method.epilogue (o : Outcome) : Method → Code
  | .encrypt => checkError o.err ++ if o.err then decodeEncryptResult o else []
  | .encryptSign =>
    call .opSignResult ++ checkError o.err ++
      if o.err then
        decodeEncryptResult o ++ convert .opSignResult o.invalidSigners ++
          convert .opSignResult o.signatures
      else convert .opSignResult o.signatures
  | .decrypt => checkError o.err ++ if o.err then decodeDecryptResult else []
  | .decryptVerify =>
    checkError o.err ++
      if o.err then decodeDecryptResult
      else call .opVerifyResult ++ convert .opVerifyResult o.signatures
  | .sign =>
    call .opSignResult ++ checkError o.err ++
      if o.err then
        convert .opSignResult o.invalidSigners ++ convert .opSignResult o.signatures
      else convert .opSignResult o.signatures
  | .verify => call .opVerifyResult ++ checkError o.err ++ convert .opVerifyResult o.signatures
  | .import_ => importResult o ++ checkError o.err
  | .importKeys => importResult o ++ checkError o.err
  | .genkey => genkeyResult ++ checkError o.err
  | .getKey | .export_ | .exportKeys | .delete | .edit | .cardEdit | .keylist => checkError o.err

def Method.code (m : Method) (o : Outcome) (callbacks : Code) : Code :=
  blocking m.op callbacks ++ m.epilogue o

/-- The methods that read a result after they released the mutex, and when. -/
def Method.readsResult (o : Outcome) : Method → Bool
  | .encrypt | .decrypt => o.err
  | .encryptSign | .decryptVerify | .sign | .verify | .import_ | .importKeys | .genkey => true
  | .getKey | .export_ | .exportKeys | .delete | .edit | .cardEdit | .keylist => false

/-! ## pygpgme-keyiter.c: neither function takes the mutex -/

def keyiterNext : Code := [.saveThread] ++ call .opKeylistNext ++ [.restoreThread]

def keyiterDealloc : Code := call .opKeylistEnd

inductive KeyIterCall where
  | next | dealloc
  deriving DecidableEq, Repr

def KeyIterCall.code : KeyIterCall → Code
  | .next => keyiterNext
  | .dealloc => keyiterDealloc

/-- `python` code runs with the interpreter lock, `gpgme` code inside an
operation and without it. -/
inductive Mode where
  | python | gpgme
  deriving DecidableEq, Repr

inductive Prog : Mode → Type where
  | done {m : Mode} : Prog m
  | switch (next : Prog .python) : Prog .python
  | accessor (a : Accessor) (destructor next : Prog .python) : Prog .python
  | engineInfo (infos : Nat) (next : Prog .python) : Prog .python
  | keyIter (k : KeyIterCall) (next : Prog .python) : Prog .python
  | operation (m : Method) (o : Outcome) (callbacks : Prog .gpgme) (next : Prog .python) :
      Prog .python
  | callback (c : Callback) (body : Prog .python) (next : Prog .gpgme) : Prog .gpgme
  deriving Repr

def Prog.code : {m : Mode} → Prog m → Code
  | _, .done => []
  | _, .switch next => gilSwitch ++ next.code
  | _, .accessor a destructor next => a.code destructor.code ++ next.code
  | _, .engineInfo infos next => contextGetEngineInfo infos ++ next.code
  | _, .keyIter k next => k.code ++ next.code
  | _, .operation m o callbacks next => m.code o callbacks.code ++ next.code
  | _, .callback c body next => c.code body.code ++ next.code

/-- A Python thread takes the interpreter lock, runs its program and leaves. -/
def threadCode (p : Prog .python) : Code := [.restoreThread] ++ p.code ++ [.saveThread]

/-- One conversion: the operation of the call it belongs to, the operation whose
result it reads, and the operation whose result the context holds by then. -/
structure Built (Tid : Type) where
  thread : Tid
  own : Nat
  source : Option (Tid × Nat)
  current : Option (Tid × Nat)
  deriving DecidableEq, Repr

/-- The gpgme context. An operation is named by its thread and its number there. -/
structure Ctx (Tid : Type) where
  /-- The gpgme calls each thread is inside of, innermost first. -/
  inside : Tid → List GpgmeFn
  /-- The one result slot: the operation that left the result in it. -/
  slot : Option (Tid × Nat)
  /-- Operations each thread has started. -/
  ops : Tid → Nat
  /-- What each thread's last `gpgme_op_*_result` call returned. -/
  fetched : Tid → GpgmeFn → Option (Tid × Nat)
  built : List (Built Tid)

variable {Tid : Type}

def Ctx.new : Ctx Tid where
  inside := fun _ => []
  slot := none
  ops := fun _ => 0
  fetched := fun _ _ => none
  built := []

variable [DecidableEq Tid]

/-- The assumed gpgme: starting an operation empties the slot, finishing it
stores its own result, a result function returns what the slot holds. -/
def Ctx.act (t : Tid) (a : Act) (c : Ctx Tid) : Ctx Tid :=
  match a with
  | .enter f =>
    let c := { c with inside := Function.update c.inside t (f :: c.inside t) }
    if f.startsOperation then
      { c with slot := none, ops := Function.update c.ops t (c.ops t + 1) }
    else c
  | .leave f =>
    let c := { c with inside := Function.update c.inside t (c.inside t).tail }
    if f.startsOperation then { c with slot := some (t, c.ops t) }
    else if f.isResult then
      { c with fetched := Function.update c.fetched t (Function.update (c.fetched t) f c.slot) }
    else c
  | .build f =>
    { c with built := ⟨t, c.ops t, c.fetched t f, c.slot⟩ :: c.built }

abbrev World (Tid : Type) := State Tid Act (Ctx Tid)

/-- Any number of threads share one initialised Context. -/
def context (prog : Tid → Prog .python) : System (World Tid) Tid :=
  machine Ctx.act (fun t => threadCode (prog t)) Ctx.new

end Pygpgme.Source.Threads
