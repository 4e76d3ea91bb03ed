import Pygpgme.Library.ObjectGraph
import Pygpgme.Library.Program
import Pygpgme.Library.Transition
import Pygpgme.Source.Results

/-!
# References of results, exceptions and callbacks

lib/pygpgme-error.c, pygpgme-signature.c:75-110, 228-267, 391-421, pygpgme-import.c:95-149,
pygpgme-genkey.c:81-108, pygpgme-engine-info.c:58-104, pygpgme-constants.c:1018-1034, the
callbacks and the ends of the methods in pygpgme-context.c and the stream callbacks of
pygpgme-data.c, by the references they take and give up. A request for memory may be
refused anywhere. Values are left out: of a number only that it is converted.
-/

set_option autoImplicit false

namespace Pygpgme.Source.ResultObjects
open Pygpgme.Library.ObjectGraph Pygpgme.Library.Program Pygpgme.Library.Transition
open Pygpgme.Source.Python (ExcClass)
open Pygpgme.Source.Error (GpgError noError)
open Pygpgme.Source.Results

/-- What the binding finds out about an object. -/
inductive Kind where
  | other | long | bytes
  | exception (cls : ExcClass)
  deriving DecidableEq

structure World where
  /-- Python objects, with their blocks of memory as resources. -/
  graph : Objects Nat Nat
  kind : Nat → Kind
  next : Nat
  /-- References in variables, of the program and of the C functions. -/
  held : List Nat
  /-- `PyErr_Occurred`; the reference is the interpreter's. -/
  pending : Option Nat
  /-- Requests for memory so far. -/
  requests : Nat
  /-- Blocks whose objects do not free them. -/
  unfreed : List Nat
  /-- The exceptions that `pygpgme_check_error` gave to `PyErr_SetObject`. -/
  raised : List Nat
  /-- Import results that got no list. -/
  unlisted : List Nat
  /-- Results of `genkey` whose failure was no `GpgmeError`. -/
  skipped : List Nat
  /-- A reference was given up or an object was changed that the caller did not have. -/
  fault : Bool

/-- Stands for the objects that the interpreter has anyway: `None`, the booleans, small
integers, the members of an enum. It keeps a reference to them. -/
def shared : Nat := 0

namespace World

def start : World where
  graph := (Objects.empty.hold shared).create shared [] [shared]
  kind := fun _ => .other
  next := 1
  held := []
  pending := none
  requests := 0
  unfreed := []
  raised := []
  unlisted := []
  skipped := []
  fault := false

/-- A new object that takes over references from variables, and owns its memory. -/
def create (kind : Kind) (children : List Nat) (w : World) : World :=
  { w with
    graph := (w.graph.hold w.next).create w.next children [w.next]
    kind := Function.update w.kind w.next kind
    next := w.next + 1
    held := w.next :: w.held.diff children }

end World

abbrev Own := StateProgram World

/-! ## The interpreter -/

/-- How a request for a value goes. -/
inductive Answer where
  | granted | shared | refused
  deriving DecidableEq

/-- What the interpreter answers: requests by their number, and for the call of an enum
whether the value is known to it. -/
structure Answers where
  memory : Nat → Answer
  known : Nat → Bool

def faulty : Own Unit := modify fun w => { w with fault := true }

def incref (o : Nat) : Own Unit := fun w =>
  if o ∈ w.graph.live then some ((), { w with graph := w.graph.incref o, held := o :: w.held })
  else faulty w

/-- `Py_DECREF`, with the deallocators it runs. -/
def decref (o : Nat) : Own Unit := fun w =>
  if o ∈ w.held then
    some ((), { w with graph := w.graph.release [o], held := w.held.erase o })
  else faulty w

/-- `Py_XDECREF` -/
def xdecref : Option Nat → Own Unit
  | some o => decref o
  | none => return

/-- `Py_DECREF` of what may be NULL. -/
def decrefPointer : Option Nat → Own Unit
  | some o => decref o
  | none => crash

/-- A field of an object takes a reference over; NULL is no reference. -/
def store (o : Nat) : Option Nat → Own Unit
  | none => return
  | some c => fun w =>
    if o ∈ w.graph.live ∧ c ∈ w.held then
      some ((), { w with graph := w.graph.adopt o c, held := w.held.erase c })
    else faulty w

def fresh (kind : Kind) : Own Nat := fun w => some (w.next, w.create kind [])

/-- `PyErr_Fetch`; a type and a traceback come and go with the exception. -/
def fetch : Own (Option Nat) := fun w =>
  some (w.pending, { w with pending := none, held := w.pending.toList ++ w.held })

/-- The interpreter takes the reference to an exception. -/
def setPending (e : Nat) : Own Unit := fun w =>
  if e ∈ w.held ∧ w.pending = none then
    some ((), { w with pending := some e, held := w.held.erase e })
  else faulty w

/-- `PyErr_Restore`, which gives up the exception it replaces. -/
def restore (e : Option Nat) : Own Unit := do
  xdecref (← fetch)
  match e with
  | none => return
  | some e => setPending e

def clear : Own Unit := do xdecref (← fetch)

/-- Raised by the interpreter. -/
def raise (cls : ExcClass) : Own Unit := do restore (some (← fresh (.exception cls)))

/-- `_PyErr_FormatFromCause`: the exception that was pending becomes the cause. -/
def raiseFromCause (cls : ExcClass) : Own Unit := do
  let cause ← fetch
  let e ← fresh (.exception cls)
  store e cause
  restore (some e)

def occurred : Own Bool := fun w => some (w.pending.isSome, w)

def classOf (o : Nat) (w : World) : Option ExcClass :=
  match w.kind o with
  | .exception cls => some cls
  | _ => none

/-- `PyErr_ExceptionMatches`, and `PyErr_GivenExceptionMatches` for one that was fetched. -/
def matchesPending (test : ExcClass → Bool) : Own Bool := fun w =>
  some ((w.pending.bind fun e => classOf e w).any test, w)

def matchesGiven (e : Nat) (test : ExcClass → Bool) : Own Bool := fun w =>
  some ((classOf e w).any test, w)

def kindOf (o : Nat) : Own Kind := fun w => some (w.kind o, w)

section
variable (answers : Answers)

def request : Own Answer := fun w =>
  some (answers.memory w.requests, { w with requests := w.requests + 1 })

def memoryError : ExcClass := .other false false false

/-- A value, new or not; or NULL. -/
def make (kind : Kind) : Own (Option Nat) := do
  match ← request answers with
  | .granted => return some (← fresh kind)
  | .shared =>
    incref shared
    return some shared
  | .refused =>
    raise memoryError
    return none

/-- `PyObject_New` and `PyList_New`: never one that exists. -/
def new : Own (Option Nat) := do
  match ← request answers with
  | .refused =>
    raise memoryError
    return none
  | _ => return some (← fresh .other)

/-- An object of a type whose deallocator does not free its memory. -/
def freshUnfreed : Own Nat := fun w =>
  some (w.next, { w with
    graph := (w.graph.hold w.next).create w.next [] []
    kind := Function.update w.kind w.next .other
    next := w.next + 1
    held := w.next :: w.held
    unfreed := w.next :: w.unfreed })

/-- `PyObject_New` of an `EngineInfo` or a `SigNotation`. -/
def newUnfreed : Own (Option Nat) := do
  match ← request answers with
  | .refused =>
    raise memoryError
    return none
  | _ => return some (← freshUnfreed)

def none_ : Own (Option Nat) := do
  incref shared
  return some shared

/-- `PyBool_FromLong` -/
def bool : Own (Option Nat) := none_

/-- A string, or `None` for NULL. -/
def text : Option Python.Bytes → Own (Option Nat)
  | some _ => make answers .other
  | none => none_

def increfAll : List Nat → Own Unit
  | [] => return
  | o :: rest => do
    incref o
    increfAll rest

def decrefAll : List Nat → Own Unit
  | [] => return
  | o :: rest => do
    decref o
    decrefAll rest

/-- A new object takes over the references of a list. -/
def takeOver (kind : Kind) (items : List Nat) : Own (Option Nat) := fun w =>
  if (items : Multiset Nat) ≤ (w.held : Multiset Nat) then some (some w.next, w.create kind items)
  else (do faulty; return none : Own (Option Nat)) w

def pack (kind : Kind) (items : List Nat) : Own (Option Nat) := do
  match ← request answers with
  | .refused =>
    decrefAll items
    raise memoryError
    return none
  | _ => takeOver kind items

/-- `Py_BuildValue` with `N` for every item: it takes the references, and gives them up
when it fails. -/
def buildValue (items : List (Option Nat)) : Own (Option Nat) := do
  if items.all Option.isSome then pack answers .other items.reduceOption
  else
    decrefAll items.reduceOption
    if ← occurred then return none
    else
      raise .systemError
      return none

/-- `PyList_Append`, whose result nobody looks at. -/
def append : Option Nat → Option Nat → Own Unit
  | none, _ => crash
  | some _, none => raise .systemError
  | some list, some item => do
    match ← request answers with
    | .refused => raise memoryError
    | _ =>
      incref item
      store list (some item)

/-- `PyObject_SetAttrString` on an exception that has no such attribute. -/
def setAttr (o : Nat) : Option Nat → Own Unit
  | none => raise .attributeError
  | some value => do
    match ← request answers with
    | .refused => raise memoryError
    | _ =>
      incref value
      store o (some value)

/-- How code of the user ends: with an object of some kind, or with an exception. -/
inductive Ending where
  | returns (kind : Kind)
  | raises (cls : ExcClass)

def finish : Ending → Own (Option Nat)
  | .returns kind => do
    clear
    make answers kind
  | .raises cls => do
    raise cls
    return none

/-- A result that comes with an exception pending is given up for a `SystemError`. -/
def dropResult : Own (Option Nat) := do
  match ← make answers .other with
  | none => return none
  | some result =>
    decref result
    raiseFromCause .systemError
    return none

/-- How a call ends that finds nothing pending, and one that finds an exception, if it
handles it or raises another. -/
structure UserCall where
  alone : Ending
  handled : Option Ending := none

def callUser (call : UserCall) : Own (Option Nat) := do
  if ← occurred then
    match call.handled with
    | none => dropResult answers
    | some ending => finish answers ending
  else finish answers call.alone

/-! ## Enums and errors -/

def isKnown : Own Bool := fun w => some (answers.known w.requests, w)

/-- The class called with a number; with an exception pending it ends with a
`SystemError`. -/
def callEnum : Own (Option Nat) := do
  if ← occurred then
    raiseFromCause .systemError
    return none
  else if ← isKnown answers then make answers .long
  else
    raise .valueError
    return none

/-- `pygpgme_enum_value_new` -/
def enumValueNew : Own (Option Nat) := do
  match ← make answers .long with
  | none => crash
  | some intValue =>
    match ← callEnum answers with
    | some enumValue =>
      decref intValue
      return some enumValue
    | none =>
      if ← matchesPending ExcClass.isValueError then
        clear
        incref intValue
        decref intValue
        return some intValue
      else
        decref intValue
        return none

/-- `PyObject_CallFunction(state->pygpgme_error, "OOO", ..)` -/
def callError (items : List Nat) : Own (Option Nat) := do
  increfAll items
  match ← pack answers .other items with
  | none => return none
  | some args => pack answers (.exception .gpgmeError) [args]

/-- `pygpgme_error_object` -/
def errorObject (err : GpgError) : Own (Option Nat) := do
  if err = noError then none_
  else
    match ← enumValueNew answers with
    | none => return none
    | some source =>
      match ← enumValueNew answers with
      | none =>
        decref source
        return none
      | some code =>
        match ← make answers .other with
        | none =>
          decref code
          decref source
          return none
        | some strerror =>
          match ← callError answers [source, code, strerror] with
          | none =>
            decref strerror
            decref code
            decref source
            return none
          | some exc =>
            setAttr answers exc (some source)
            setAttr answers exc (some code)
            setAttr answers exc (some strerror)
            decref strerror
            decref code
            decref source
            return some exc

/-- `PyErr_SetObject`, which takes a reference of its own. -/
def setObject (exc : Nat) : Own Unit := do
  incref exc
  restore (some exc)
  modify fun w => { w with raised := exc :: w.raised }

/-- `pygpgme_check_error`: whether `err` is a failure. -/
def checkError (err : GpgError) : Own Bool := do
  if err = noError then return false
  else
    match ← errorObject answers err with
    | none => return true
    | some exc =>
      setObject exc
      return true

/-- `pygpgme_check_pyerror`. Items of `args` are borrowed; `overflows` counts the numbers
among them that do not fit. -/
def checkPyerror (overflows : Bool) : Own Unit := do
  if ← occurred then
    let e ← fetch
    let args ← make answers .other
    if args.isSome && overflows then raise .overflowError
    xdecref e
    xdecref args
    clear

/-! ## Lists of signatures -/

def newsigs (list : Option Nat) : List NewSig → Own (Option Nat)
  | [] => return list
  | sig :: rest => do
    match ← new answers with
    | none =>
      decrefPointer list
      return none
    | some item =>
      store item (← enumValueNew answers)
      store item (← enumValueNew answers)
      store item (← enumValueNew answers)
      store item (← make answers .long)
      store item (← text answers sig.fpr)
      store item (← make answers .long)
      if ← occurred then
        decref item
        decrefPointer list
        return none
      else
        append answers list (some item)
        decref item
        newsigs list rest

/-- `pygpgme_newsiglist_new` -/
def newsiglistNew (sigs : List NewSig) : Own (Option Nat) := do
  newsigs answers (← new answers) sigs

def sigNotations (list : Option Nat) : List RawNotation → Own (Option Nat)
  | [] => return list
  | raw :: rest => do
    match ← newUnfreed answers with
    | none =>
      decrefPointer list
      return none
    | some item =>
      store item (← text answers raw.name)
      store item (← make answers .other)
      append answers list (some item)
      decref item
      sigNotations list rest

/-- `pygpgme_sig_notation_list_new` -/
def sigNotationListNew (notations : List RawNotation) : Own (Option Nat) := do
  sigNotations answers (← new answers) notations

def sigs (list : Option Nat) : List Sig → Own (Option Nat)
  | [] => return list
  | sig :: rest => do
    match ← new answers with
    | none =>
      decrefPointer list
      return none
    | some item =>
      store item (← enumValueNew answers)
      store item (← text answers sig.fpr)
      store item (← errorObject answers sig.status)
      store item (← sigNotationListNew answers sig.notations)
      store item (← make answers .long)
      store item (← make answers .long)
      store item (← bool)
      store item (← enumValueNew answers)
      store item (← errorObject answers sig.validityReason)
      store item (← enumValueNew answers)
      store item (← enumValueNew answers)
      if ← occurred then
        decref item
        decrefPointer list
        return none
      else
        append answers list (some item)
        decref item
        sigs list rest

/-- `pygpgme_siglist_new` -/
def siglistNew (signatures : List Sig) : Own (Option Nat) := do
  sigs answers (← new answers) signatures

/-! ## Other results -/

def lastField (self : Nat) : Own (Option Nat) := fun w =>
  some ((w.graph.children self).getLast?, w)

/-- `PyList_Append` to the field that was set last. -/
def appendToLast (self : Nat) (item : Option Nat) : Own Unit := do
  append answers (← lastField self) item

/-- The loop over the import statuses. -/
def importStatuses (self : Nat) : List ImportStatus → Own (Option Nat)
  | [] => return some self
  | status :: rest => do
    let fpr ← text answers status.fpr
    let result ← errorObject answers status.result
    let flags ← enumValueNew answers
    match ← buildValue answers [fpr, result, flags] with
    | none =>
      decref self
      return none
    | some item =>
      appendToLast answers self (some item)
      decref item
      importStatuses self rest

def addInts (self : Nat) : List (String × Int) → Own Unit
  | [] => return
  | _ :: rest => do
    store self (← make answers .long)
    addInts self rest

/-- `pygpgme_import_result`. Without a list it returns, whatever became of `self`. -/
def importResult : Option ImportResult → Own (Option Nat)
  | none => none_
  | some res => do
    match ← new answers with
    | none => return none
    | some self =>
      addInts answers self res.counts
      match ← new answers with
      | none =>
        modify fun w => { w with unlisted := self :: w.unlisted }
        return none
      | some imports =>
        store self (some imports)
        importStatuses answers self res.imports

/-- `pygpgme_genkey_result` -/
def genkeyResult : Option GenkeyResult → Own (Option Nat)
  | none => none_
  | some res => do
    match ← new answers with
    | none => return none
    | some self =>
      store self (← bool)
      store self (← bool)
      store self (← text answers res.fpr)
      return some self

def engineInfos (list : Option Nat) : List EngineInfo → Own (Option Nat)
  | [] => return list
  | info :: rest => do
    match ← newUnfreed answers with
    | none =>
      decrefPointer list
      return none
    | some item =>
      store item (← enumValueNew answers)
      store item (← text answers info.fileName)
      store item (← text answers info.version)
      store item (← text answers info.reqVersion)
      store item (← text answers info.homeDir)
      append answers list (some item)
      decref item
      engineInfos list rest

/-- `pygpgme_engine_info_list_new` -/
def engineInfoListNew (infos : List EngineInfo) : Own (Option Nat) := do
  engineInfos answers (← new answers) infos

/-! ## Annotations -/

/-- The frame of every annotation. -/
def annotate (f : Nat → Own Unit) : Own Unit := do
  match ← fetch with
  | none => restore none
  | some e =>
    if ← matchesGiven e ExcClass.isGpgmeError then f e
    restore (some e)

def invalidKeys (list : Option Nat) : List InvalidKey → Own Unit
  | [] => return
  | key :: rest => do
    let fpr ← text answers key.fpr
    let reason ← errorObject answers key.reason
    let item ← buildValue answers [fpr, reason]
    append answers list item
    decrefPointer item
    invalidKeys list rest

/-- A list of pairs becomes an attribute. -/
def setInvalidKeys (e : Nat) (keys : List InvalidKey) : Own Unit := do
  let list ← new answers
  invalidKeys answers list keys
  setAttr answers e list
  decrefPointer list

def setList (e : Nat) (list : Option Nat) : Own Unit := do
  setAttr answers e list
  decrefPointer list

/-- `decode_encrypt_result` -/
def decodeEncryptResult (res : Option (List InvalidKey)) : Own Unit :=
  annotate fun e => do
    match res with
    | none => return
    | some keys => setInvalidKeys answers e keys

/-- A value that is set only if there is one. -/
def setValue (e : Nat) : Option Nat → Own Unit
  | none => return
  | some value => do
    setAttr answers e (some value)
    decref value

/-- `decode_decrypt_result` -/
def decodeDecryptResult (res : Option DecryptResult) : Own Unit :=
  annotate fun e => do
    match res with
    | none => return
    | some res =>
      setValue answers e (← text answers res.unsupportedAlgorithm)
      setValue answers e (← bool)

/-- The annotation of `sign` and `encrypt_sign`. -/
def annotateSignResult (res : Option SignResult) : Own Unit :=
  annotate fun e => do
    match res with
    | none => return
    | some res =>
      setInvalidKeys answers e res.invalidSigners
      setList answers e (← newsiglistNew answers res.signatures)

/-- The annotation of `verify` and `decrypt_verify`. -/
def annotateVerifyResult (res : Option (List Sig)) : Own Unit :=
  annotate fun e => do
    match res with
    | none => return
    | some signatures => setList answers e (← siglistNew answers signatures)

/-- The annotation of `import_` and `import_keys`, and the end of the result. -/
def annotateResult (result : Option Nat) : Own Unit := do
  match ← fetch with
  | none =>
    xdecref result
    restore none
  | some e =>
    if (← matchesGiven e ExcClass.isGpgmeError) && result.isSome then setAttr answers e result
    xdecref result
    restore (some e)

/-- A jump goes past the `Py_DECREF` of the result. -/
def skip (result : Option Nat) : Own Unit :=
  modify fun w => { w with skipped := result.toList ++ w.skipped }

/-- The annotation of `genkey`. -/
def annotateGenkey (result : Option Nat) : Own Unit := do
  match ← fetch with
  | none =>
    skip result
    restore none
  | some e =>
    if ← matchesGiven e ExcClass.isGpgmeError then setValue answers e result
    else skip result
    restore (some e)

/-! ## Callbacks -/

/-- `pygpgme_passphrase_cb` -/
def passphraseCb (outcome : UserCall) (overflows : Bool) : Own Unit := do
  let ret ← callUser answers outcome
  checkPyerror answers overflows
  xdecref ret

/-- `pygpgme_progress_cb` -/
def progressCb (outcome : UserCall) : Own Unit := do
  let ret ← callUser answers outcome
  clear
  xdecref ret

/-- `pygpgme_edit_cb` -/
def editCb (outcome : UserCall) (overflows : Bool) : Own Unit := do
  let status ← enumValueNew answers
  let ret ← callUser answers outcome
  decrefPointer status
  checkPyerror answers overflows
  xdecref ret

/-- `set_errno`. `errno` says how the attribute is looked up. -/
def setErrno (errno : UserCall) (overflows : Bool) : Own Unit := do
  match ← fetch with
  | none => crash
  | some e =>
    if ← matchesGiven e ExcClass.isOSError then
      let number ← callUser answers errno
      match number with
      | none => clear
      | some n =>
        if (← kindOf n) = .long then
          if overflows then raise .overflowError
        else clear
      xdecref number
    decref e

/-- `read_cb` -/
def readCb (outcome errno : UserCall) (overflows : Bool) : Own Unit := do
  match ← callUser answers outcome with
  | none => setErrno answers errno overflows
  | some result => decref result

/-- `write_cb` -/
def writeCb (outcome errno : UserCall) (overflows : Bool) : Own Unit := do
  match ← make answers .bytes with
  | none => setErrno answers errno overflows
  | some buffer =>
    let result ← callUser answers outcome
    if result.isNone then setErrno answers errno overflows
    xdecref result
    decref buffer

/-- `seek_cb`, which calls `seek` and `tell`. -/
def seekCb (seek tell errno : UserCall) (overflows : Bool) : Own Unit := do
  match ← callUser answers seek with
  | none => setErrno answers errno overflows
  | some result =>
    decref result
    match ← callUser answers tell with
    | none => setErrno answers errno overflows
    | some position =>
      if (← kindOf position) = .long && overflows then raise .overflowError
      decref position

/-! ## The ends of the methods -/

def noneUnlessError (err : GpgError) : Own (Option Nat) := do
  if ← checkError answers err then return none else none_

/-- A failure that is reported with `details`. -/
def orFail (err : GpgError) (details : Own Unit) (success : Own (Option Nat)) :
    Own (Option Nat) := do
  if ← checkError answers err then
    details
    return none
  else success

def newSignatures : Option SignResult → Own (Option Nat)
  | some res => newsiglistNew answers res.signatures
  | none => new answers

def signatures : Option (List Sig) → Own (Option Nat)
  | some signatures => siglistNew answers signatures
  | none => new answers

def encryptEnd (err : GpgError) (encrypted : Option (List InvalidKey)) : Own (Option Nat) :=
  orFail answers err (decodeEncryptResult answers encrypted) none_

def encryptSignEnd (err : GpgError) (encrypted : Option (List InvalidKey))
    (signed : Option SignResult) : Own (Option Nat) :=
  orFail answers err (do
    decodeEncryptResult answers encrypted
    annotateSignResult answers signed) (newSignatures answers signed)

def decryptEnd (err : GpgError) (decrypted : Option DecryptResult) : Own (Option Nat) :=
  orFail answers err (decodeDecryptResult answers decrypted) none_

def decryptVerifyEnd (err : GpgError) (decrypted : Option DecryptResult)
    (verified : Option (List Sig)) : Own (Option Nat) :=
  orFail answers err (decodeDecryptResult answers decrypted)
    (orFail answers err (annotateVerifyResult answers verified) (signatures answers verified))

def signEnd (err : GpgError) (signed : Option SignResult) : Own (Option Nat) :=
  orFail answers err (annotateSignResult answers signed) (newSignatures answers signed)

def verifyEnd (err : GpgError) (verified : Option (List Sig)) : Own (Option Nat) :=
  orFail answers err (annotateVerifyResult answers verified) (signatures answers verified)

/-- The end of `import_` and `import_keys`. -/
def importEnd (err : GpgError) (res : Option ImportResult) : Own (Option Nat) := do
  let result ← importResult answers res
  if ← checkError answers err then
    annotateResult answers result
    return none
  else return result

def genkeyEnd (err : GpgError) (res : Option GenkeyResult) : Own (Option Nat) := do
  let result ← genkeyResult answers res
  if ← checkError answers err then
    annotateGenkey answers result
    return none
  else return result

/-! ## Sessions -/

/-- A part of a call that takes and gives up references. -/
inductive Part where
  | passphraseCb (outcome : UserCall) (overflows : Bool)
  | progressCb (outcome : UserCall)
  | editCb (outcome : UserCall) (overflows : Bool)
  | readCb (outcome errno : UserCall) (overflows : Bool)
  | writeCb (outcome errno : UserCall) (overflows : Bool)
  | seekCb (seek tell errno : UserCall) (overflows : Bool)
  /-- The end of a method that returns `None`. -/
  | noneUnlessError (err : GpgError)
  | getEngineInfo (infos : List EngineInfo)
  | encrypt (err : GpgError) (encrypted : Option (List InvalidKey))
  | encryptSign (err : GpgError) (encrypted : Option (List InvalidKey))
      (signed : Option SignResult)
  | decrypt (err : GpgError) (decrypted : Option DecryptResult)
  | decryptVerify (err : GpgError) (decrypted : Option DecryptResult)
      (verified : Option (List Sig))
  | sign (err : GpgError) (signed : Option SignResult)
  | verify (err : GpgError) (verified : Option (List Sig))
  | import_ (err : GpgError) (res : Option ImportResult)
  | genkey (err : GpgError) (res : Option GenkeyResult)

/-- What it returns to the program. -/
def Part.run : Part → Own (Option Nat)
  | .passphraseCb outcome overflows => do
    ResultObjects.passphraseCb answers outcome overflows
    return none
  | .progressCb outcome => do
    ResultObjects.progressCb answers outcome
    return none
  | .editCb outcome overflows => do
    ResultObjects.editCb answers outcome overflows
    return none
  | .readCb outcome errno overflows => do
    ResultObjects.readCb answers outcome errno overflows
    return none
  | .writeCb outcome errno overflows => do
    ResultObjects.writeCb answers outcome errno overflows
    return none
  | .seekCb seek tell errno overflows => do
    ResultObjects.seekCb answers seek tell errno overflows
    return none
  | .noneUnlessError err => ResultObjects.noneUnlessError answers err
  | .getEngineInfo infos => engineInfoListNew answers infos
  | .encrypt err encrypted => encryptEnd answers err encrypted
  | .encryptSign err encrypted signed => encryptSignEnd answers err encrypted signed
  | .decrypt err decrypted => decryptEnd answers err decrypted
  | .decryptVerify err decrypted verified => decryptVerifyEnd answers err decrypted verified
  | .sign err signed => signEnd answers err signed
  | .verify err verified => verifyEnd answers err verified
  | .import_ err res => importEnd answers err res
  | .genkey err res => genkeyEnd answers err res

end

/-- What the program does with the objects it gets: it may keep an exception, and gives
up what it likes. -/
inductive Label where
  | run (answers : Answers) (part : Part)
  | catch
  | take (o : Nat)
  | drop (o : Nat)

structure Session where
  world : World
  /-- The references of the program. -/
  program : List Nat

def Session.start : Session := ⟨World.start, []⟩

def Session.step (s : Session) : Label → Option Session
  | .run answers part =>
    ((part.run answers).run s.world).map fun (r, w) => ⟨w, r.toList ++ s.program⟩
  | .catch => (fetch.run s.world).map fun (e, w) => ⟨w, e.toList ++ s.program⟩
  | .take o =>
    if o ∈ s.world.graph.live then
      ((incref o).run s.world).map fun (_, w) => ⟨w, o :: s.program⟩
    else none
  | .drop o =>
    if o ∈ s.program then
      ((decref o).run s.world).map fun (_, w) => ⟨w, s.program.erase o⟩
    else none

end Pygpgme.Source.ResultObjects
