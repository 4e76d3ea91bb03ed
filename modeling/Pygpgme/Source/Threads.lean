import Pygpgme.Library.LockRuns

/-!
# The entry points of a Context as the locks see them

lib/pygpgme-context.c, lib/pygpgme-keyiter.c and the stream callbacks of
lib/pygpgme-data.c, reduced to what matters between threads: the interpreter
lock, `self->mutex`, `self->tstate`, the calls of gpgme functions that take
`self->ctx`, and the reads of a result gpgme keeps in that context. A call that
is refused before it reaches the lock is no step at all. Lengths of the lists
that gpgme returns, and what the callbacks do, are parameters.
-/

set_option autoImplicit false

namespace Pygpgme.Source.Threads
open Pygpgme.Library.LockMachine Pygpgme.Library.Transition

/-- The gpgme functions called with `self->ctx`. -/
inductive GpgmeFn where
  | getProtocol | setProtocol | getArmor | setArmor | getTextmode | setTextmode
  | getOffline | setOffline | getIncludeCerts | setIncludeCerts
  | getKeylistMode | setKeylistMode | getPinentryMode | setPinentryMode
  | getPassphraseCb | setPassphraseCb | getProgressCb | setProgressCb
  | signersEnum | signersClear | signersAdd
  | sigNotationGet | sigNotationClear | sigNotationAdd | getSender | setSender
  | ctxSetEngineInfo | ctxGetEngineInfo | setLocale | getKey
  | opEncrypt | opEncryptSign | opDecrypt | opDecryptVerify | opSign | opVerify
  | opImport | opImportKeys | opExportExt | opExportKeys | opGenkey | opDeleteExt
  | opEdit | opCardEdit | opKeylistExtStart | opKeylistNext | opKeylistEnd
  | opEncryptResult | opSignResult | opDecryptResult | opVerifyResult
  | opImportResult | opGenkeyResult
  deriving DecidableEq, Repr

/-- Starting one of these discards the result the context holds. -/
def GpgmeFn.startsOperation : GpgmeFn → Bool
  | .getKey | .opEncrypt | .opEncryptSign | .opDecrypt | .opDecryptVerify | .opSign
  | .opVerify | .opImport | .opImportKeys | .opExportExt | .opExportKeys | .opGenkey
  | .opDeleteExt | .opEdit | .opCardEdit | .opKeylistExtStart => true
  | _ => false

/-- These return a pointer to the result the context holds. -/
def GpgmeFn.isResult : GpgmeFn → Bool
  | .opEncryptResult | .opSignResult | .opDecryptResult | .opVerifyResult
  | .opImportResult | .opGenkeyResult => true
  | _ => false

/-- `build f` converts a part of what the thread's last call of `f` returned. -/
inductive Act where
  | enter (f : GpgmeFn)
  | leave (f : GpgmeFn)
  | build (f : GpgmeFn)
  deriving DecidableEq, Repr

abbrev Code := List (Instr Act)

/-- The interpreter hands its lock to another thread and takes it back. -/
def gilSwitch : Code := [.saveThread, .restoreThread]

def call (f : GpgmeFn) : Code := [.act (.enter f), .act (.leave f)]

/-! ## pygpgme-context.c:23-55 -/

def beginAllowThreads : Code :=
  [.saveThread, .acquire .blocking, .assertState false, .storeState]

def endAllowThreads : Code :=
  [.assertState true, .loadState, .restoreThread, .clearState, .release]

def lockContext : Code := [.saveThread, .acquire .plain, .restoreThread]

def unlockContext : Code := [.release]

/-- The shape of every accessor: `inner` runs between lock and unlock. -/
def locked (inner : Code) : Code := lockContext ++ inner ++ unlockContext

/-- The shape of every blocking method up to the end of its gpgme operation. -/
def blocking (f : GpgmeFn) (callbacks : Code) : Code :=
  beginAllowThreads ++ [.act (.enter f)] ++ callbacks ++ [.act (.leave f)] ++ endAllowThreads

/-! ## Callbacks run by gpgme during an operation -/

/-- The shape of every callback: restore the stored thread state, run Python
code, store the thread state again. -/
def callbackFrame (body : Code) : Code :=
  [.assertState true, .loadState, .restoreThread] ++ body ++ [.saveThread, .storeState]

def passphraseCb (body : Code) : Code := callbackFrame body
def progressCb (body : Code) : Code := callbackFrame body
def editCb (body : Code) : Code := callbackFrame body
def readCb (body : Code) : Code := callbackFrame body
def writeCb (body : Code) : Code := callbackFrame body
def seekCb (body : Code) : Code := callbackFrame body

inductive Callback where
  | passphrase | progress | edit | read | write | seek
  deriving DecidableEq, Repr

def Callback.code (body : Code) : Callback → Code
  | .passphrase => passphraseCb body
  | .progress => progressCb body
  | .edit => editCb body
  | .read => readCb body
  | .write => writeCb body
  | .seek => seekCb body

theorem Callback.code_eq (c : Callback) (body : Code) : c.code body = callbackFrame body := by
  cases c <;> rfl

/-! ## Accessors: pygpgme-context.c:146-740, 776-799, 819-838 -/

def contextGetProtocol : Code := locked (call .getProtocol)
def contextSetProtocol : Code := locked (call .setProtocol)
def contextGetArmor : Code := locked (call .getArmor)
def contextSetArmor : Code := locked (call .setArmor)
def contextGetTextmode : Code := locked (call .getTextmode)
def contextSetTextmode : Code := locked (call .setTextmode)
def contextGetOffline : Code := locked (call .getOffline)
def contextSetOffline : Code := locked (call .setOffline)
def contextGetIncludeCerts : Code := locked (call .getIncludeCerts)
def contextSetIncludeCerts : Code := locked (call .setIncludeCerts)
def contextGetKeylistMode : Code := locked (call .getKeylistMode)
def contextSetKeylistMode : Code := locked (call .setKeylistMode)
def contextGetPinentryMode : Code := locked (call .getPinentryMode)
def contextSetPinentryMode : Code := locked (call .setPinentryMode)
def contextGetPassphraseCb : Code := locked (call .getPassphraseCb)
def contextGetProgressCb : Code := locked (call .getProgressCb)

/-- `Py_CLEAR` may run the destructor of the replaced callable under the lock. -/
def contextSetPassphraseCb (destructor : Code) : Code :=
  locked (destructor ++ call .setPassphraseCb)

def contextSetProgressCb (destructor : Code) : Code :=
  locked (destructor ++ call .setProgressCb)

/-- `signers` keys are listed, and one more call finds the end. -/
def contextGetSigners (signers : Nat) : Code :=
  locked (List.replicate (signers + 1) (call .signersEnum)).flatten

/-- `added` keys are registered before the end or the first item of another type. -/
def contextSetSigners (added : Nat) : Code :=
  locked (call .signersClear ++ (List.replicate added (call .signersAdd)).flatten)

def contextGetSigNotations : Code := locked (call .sigNotationGet)

def contextSetSigNotations (added : Nat) : Code :=
  locked (call .sigNotationClear ++ (List.replicate added (call .sigNotationAdd)).flatten)

def contextGetSender : Code := locked (call .getSender)
def contextSetSender : Code := locked (call .setSender)
def contextSetEngineInfo : Code := locked (call .ctxSetEngineInfo)
def contextSetLocale : Code := locked (call .setLocale)

/-- The one method that asks gpgme before it locks; converting each of the
`infos` list items runs interpreter code under the lock. -/
def contextGetEngineInfo (infos : Nat) : Code :=
  call .ctxGetEngineInfo ++ lockContext ++ (List.replicate infos gilSwitch).flatten ++
    unlockContext

inductive Accessor where
  | getProtocol | setProtocol | getArmor | setArmor | getTextmode | setTextmode
  | getOffline | setOffline | getIncludeCerts | setIncludeCerts
  | getKeylistMode | setKeylistMode | getPinentryMode | setPinentryMode
  | getPassphraseCb | setPassphraseCb | getProgressCb | setProgressCb
  | getSigners (signers : Nat) | setSigners (added : Nat)
  | getSigNotations | setSigNotations (added : Nat)
  | getSender | setSender | setEngineInfo | setLocale
  deriving DecidableEq, Repr

def Accessor.code (destructor : Code) : Accessor → Code
  | .getProtocol => contextGetProtocol
  | .setProtocol => contextSetProtocol
  | .getArmor => contextGetArmor
  | .setArmor => contextSetArmor
  | .getTextmode => contextGetTextmode
  | .setTextmode => contextSetTextmode
  | .getOffline => contextGetOffline
  | .setOffline => contextSetOffline
  | .getIncludeCerts => contextGetIncludeCerts
  | .setIncludeCerts => contextSetIncludeCerts
  | .getKeylistMode => contextGetKeylistMode
  | .setKeylistMode => contextSetKeylistMode
  | .getPinentryMode => contextGetPinentryMode
  | .setPinentryMode => contextSetPinentryMode
  | .getPassphraseCb => contextGetPassphraseCb
  | .setPassphraseCb => contextSetPassphraseCb destructor
  | .getProgressCb => contextGetProgressCb
  | .setProgressCb => contextSetProgressCb destructor
  | .getSigners signers => contextGetSigners signers
  | .setSigners added => contextSetSigners added
  | .getSigNotations => contextGetSigNotations
  | .setSigNotations added => contextSetSigNotations added
  | .getSender => contextGetSender
  | .setSender => contextSetSender
  | .setEngineInfo => contextSetEngineInfo
  | .setLocale => contextSetLocale

/-- The two assignments that may drop the last reference to a callable. -/
def Accessor.destructs : Accessor → Bool
  | .setPassphraseCb | .setProgressCb => true
  | _ => false

/-- Every accessor is the destructor, if it runs one, and then calls of gpgme
functions that start no operation and read no result, all under the lock. -/
theorem Accessor.code_shape (a : Accessor) (destructor : Code) :
    ∃ fs : List GpgmeFn, (∀ f ∈ fs, f.startsOperation = false ∧ f.isResult = false) ∧
      a.code destructor =
        locked ((if a.destructs then destructor else []) ++ fs.flatMap call) := by
  cases a
  case setPassphraseCb => exact ⟨[.setPassphraseCb], by decide, rfl⟩
  case setProgressCb => exact ⟨[.setProgressCb], by decide, rfl⟩
  case getSigners signers =>
    refine ⟨List.replicate (signers + 1) .signersEnum, ?_, ?_⟩
    · intro f hf
      simp [List.eq_of_mem_replicate hf, GpgmeFn.startsOperation, GpgmeFn.isResult]
    · simp [Accessor.code, Accessor.destructs, contextGetSigners, List.flatMap]
  case setSigners added =>
    refine ⟨.signersClear :: List.replicate added .signersAdd, ?_, ?_⟩
    · intro f hf
      rcases List.mem_cons.mp hf with rfl | hf
      · decide
      · simp [List.eq_of_mem_replicate hf, GpgmeFn.startsOperation, GpgmeFn.isResult]
    · simp [Accessor.code, Accessor.destructs, contextSetSigners, List.flatMap]
  case setSigNotations added =>
    refine ⟨.sigNotationClear :: List.replicate added .sigNotationAdd, ?_, ?_⟩
    · intro f hf
      rcases List.mem_cons.mp hf with rfl | hf
      · decide
      · simp [List.eq_of_mem_replicate hf, GpgmeFn.startsOperation, GpgmeFn.isResult]
    · simp [Accessor.code, Accessor.destructs, contextSetSigNotations, List.flatMap]
  all_goals exact ⟨[_], by decide, rfl⟩

end Pygpgme.Source.Threads
