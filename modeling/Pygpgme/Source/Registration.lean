import Pygpgme.Library.LockGhost
import Pygpgme.Source.ThreadPrograms

/-!
# The two callback attributes of a Context

lib/pygpgme-context.c:57-92 and 440-520. The same fact is kept twice: the
reference in `self->passphrase_cb` (`self->progress_cb`), and the function
registered with gpgme. The steps that read and write either copy are explicit
here; locks and thread states are as in the other entry points. While a thread
waits for its operation, gpgme may call back through the registered function at
any time.
-/

set_option autoImplicit false

namespace Pygpgme.Source.Registration
open Pygpgme.Library.LockMachine Pygpgme.Library.Transition
open Pygpgme.Source
open Pygpgme.Source.Threads (GpgmeFn Method)

inductive Slot where
  | passphrase | progress
  deriving DecidableEq, Repr

/-- A `PyObject *`: `NULL`, `Py_None` or another object. -/
inductive Pointer (Obj : Type) where
  | null | none | object (o : Obj)
  deriving DecidableEq, Repr

/-- A function pointer gpgme keeps: `NULL`, or `pygpgme_passphrase_cb`
(`pygpgme_progress_cb`) with the Context as its hook. -/
inductive CFunction where
  | null | pygpgme
  deriving DecidableEq, Repr

/-- What Python code does with the Context. A deletion assigns `NULL`;
`destructor` counts how often the destructor of the replaced callable lets
another thread run. -/
inductive Call (Obj : Type) where
  | assign (slot : Slot) (value : Pointer Obj) (destructor : Nat)
  | read (slot : Slot)
  | operation (m : Method)
  | switch
  deriving DecidableEq, Repr

inductive Act (Obj : Type) where
  /-- Ghost: the thread starts the call. -/
  | begins (c : Call Obj)
  /-- `Py_CLEAR(self->passphrase_cb)` up to the destructor. -/
  | clear (slot : Slot)
  /-- `self->passphrase_cb = value` -/
  | store (slot : Slot) (value : Pointer Obj)
  /-- `gpgme_set_passphrase_cb` -/
  | setCb (slot : Slot) (f : CFunction)
  /-- `gpgme_get_passphrase_cb` into a local variable. -/
  | getCb (slot : Slot)
  /-- The test of that variable, and `callback`. -/
  | choose (slot : Slot)
  /-- `return callback` -/
  | returns (slot : Slot)
  | enter (f : GpgmeFn)
  | leave (f : GpgmeFn)
  /-- `PyObject_CallFunction(self->passphrase_cb, ...)` -/
  | callFunction (slot : Slot)
  deriving DecidableEq, Repr

abbrev Code (Obj : Type) := List (Instr (Act Obj))

variable {Obj : Type}

def gilSwitch : Code Obj := [.saveThread, .restoreThread]

def switches (n : Nat) : Code Obj := (List.replicate n gilSwitch).flatten

/-! ## pygpgme-context.c:23-55 -/

def beginAllowThreads : Code Obj :=
  [.saveThread, .acquire .blocking, .assertState false, .storeState]

def endAllowThreads : Code Obj :=
  [.assertState true, .loadState, .restoreThread, .clearState, .release]

def lockContext : Code Obj := [.saveThread, .acquire .plain, .restoreThread]

def unlockContext : Code Obj := [.release]

/-! ## pygpgme-context.c:57-92 -/

/-- `body` counts how often the callback lets another thread run. -/
def callback (slot : Slot) (body : Nat) : Code Obj :=
  [.assertState true, .loadState, .restoreThread, .act (.callFunction slot)] ++
    switches body ++ [.saveThread, .storeState]

def passphraseCb (body : Nat) : Code Obj := callback .passphrase body

def progressCb (body : Nat) : Code Obj := callback .progress body

/-! ## pygpgme-context.c:440-520 -/

/-- "callback of None == unset" -/
def Pointer.unset : Pointer Obj → Pointer Obj
  | .none => .null
  | value => value

/-- Either branch on `value != NULL`. -/
def register (slot : Slot) : Pointer Obj → Code Obj
  | .null => [.act (.setCb slot .null)]
  | value => [.act (.store slot value), .act (.setCb slot .pygpgme)]

def contextSetCb (slot : Slot) (value : Pointer Obj) (destructor : Nat) : Code Obj :=
  lockContext ++ [.act (.clear slot)] ++ switches destructor ++ register slot value.unset ++
    unlockContext

def contextGetCb (slot : Slot) : Code Obj :=
  lockContext ++ [.act (.getCb slot), .act (.choose slot)] ++ unlockContext ++
    [.act (.returns slot)]

def contextSetPassphraseCb (value : Pointer Obj) (destructor : Nat) : Code Obj :=
  contextSetCb .passphrase value destructor

def contextSetProgressCb (value : Pointer Obj) (destructor : Nat) : Code Obj :=
  contextSetCb .progress value destructor

def contextGetPassphraseCb : Code Obj := contextGetCb .passphrase

def contextGetProgressCb : Code Obj := contextGetCb .progress

/-- A blocking method up to the end of its operation. -/
def blocking (f : GpgmeFn) : Code Obj :=
  beginAllowThreads ++ [.act (.enter f), .act (.leave f)] ++ endAllowThreads

def Call.body : Call Obj → Code Obj
  | .assign .passphrase value destructor => contextSetPassphraseCb value destructor
  | .assign .progress value destructor => contextSetProgressCb value destructor
  | .read .passphrase => contextGetPassphraseCb
  | .read .progress => contextGetProgressCb
  | .operation m => blocking m.op
  | .switch => gilSwitch

theorem Call.body_assign (slot : Slot) (value : Pointer Obj) (destructor : Nat) :
    (Call.assign slot value destructor).body = contextSetCb slot value destructor := by
  cases slot <;> rfl

theorem Call.body_read (slot : Slot) :
    (Call.read slot : Call Obj).body = contextGetCb slot := by
  cases slot <;> rfl

def Call.code (c : Call Obj) : Code Obj := .act (.begins c) :: c.body

/-- A Python thread takes the interpreter lock, makes its calls and leaves. -/
def threadCode (calls : List (Call Obj)) : Code Obj :=
  [.restoreThread] ++ calls.flatMap Call.code ++ [.saveThread]

/-! ## The same entry points as the locks see them -/

def Slot.setter : Slot → Threads.Accessor
  | .passphrase => .setPassphraseCb
  | .progress => .setProgressCb

def Slot.getter : Slot → Threads.Accessor
  | .passphrase => .getPassphraseCb
  | .progress => .getProgressCb

def Slot.callback : Slot → Threads.Callback
  | .passphrase => .passphrase
  | .progress => .progress

def Slot.set : Slot → GpgmeFn
  | .passphrase => .setPassphraseCb
  | .progress => .setProgressCb

def Slot.get : Slot → GpgmeFn
  | .passphrase => .getPassphraseCb
  | .progress => .getProgressCb

/-- Forget everything but locks, thread states and the calls of gpgme. -/
def erase : Instr (Act Obj) → Threads.Code
  | .saveThread => [.saveThread]
  | .restoreThread => [.restoreThread]
  | .acquire path => [.acquire path]
  | .release => [.release]
  | .loadState => [.loadState]
  | .storeState => [.storeState]
  | .clearState => [.clearState]
  | .assertState set => [.assertState set]
  | .act (.setCb slot _) => Threads.call slot.set
  | .act (.getCb slot) => Threads.call slot.get
  | .act (.enter f) => [.act (.enter f)]
  | .act (.leave f) => [.act (.leave f)]
  | .act _ => []

theorem erase_switches (n : Nat) :
    (switches n : Code Obj).flatMap erase = (List.replicate n Threads.gilSwitch).flatten := by
  induction n with
  | zero => rfl
  | succ n ih =>
    rw [List.replicate_succ, List.flatten_cons, ← ih]
    rfl

theorem erase_register (slot : Slot) (value : Pointer Obj) :
    (register slot value).flatMap erase = Threads.call slot.set := by
  cases value <;> rfl

theorem erase_assign (slot : Slot) (value : Pointer Obj) (destructor : Nat) :
    (Call.assign slot value destructor).body.flatMap erase =
      slot.setter.code (List.replicate destructor Threads.gilSwitch).flatten := by
  rw [Call.body_assign, contextSetCb]
  simp only [List.flatMap_append, erase_switches, erase_register]
  cases slot <;> simp [erase, lockContext, unlockContext, Slot.setter, Slot.set,
    Threads.Accessor.code, Threads.contextSetPassphraseCb, Threads.contextSetProgressCb,
    Threads.locked, Threads.lockContext, Threads.unlockContext]

theorem erase_read (slot : Slot) :
    (Call.read slot : Call Obj).body.flatMap erase = slot.getter.code [] := by
  cases slot <;> rfl

theorem erase_operation (m : Method) :
    (Call.operation m : Call Obj).body.flatMap erase = Threads.blocking m.op [] := rfl

theorem erase_callback (slot : Slot) (body : Nat) :
    (callback slot body : Code Obj).flatMap erase =
      slot.callback.code (List.replicate body Threads.gilSwitch).flatten := by
  rw [Threads.Callback.code_eq, callback]
  simp only [List.flatMap_append, erase_switches]
  rfl

/-! ## State -/

structure Ctx (Tid Obj : Type) where
  /-- `self->passphrase_cb` and `self->progress_cb`. -/
  field : Slot → Pointer Obj
  /-- The functions gpgme has. -/
  registered : Slot → CFunction
  /-- The getters' local variables. -/
  fn : Tid → CFunction
  callback : Tid → Pointer Obj

variable {Tid : Type}

/-- `pygpgme_context_new` and `gpgme_new`. -/
def Ctx.new : Ctx Tid Obj where
  field := fun _ => .null
  registered := fun _ => .null
  fn := fun _ => .null
  callback := fun _ => .null

variable [DecidableEq Tid]

def Ctx.act (t : Tid) (a : Act Obj) (c : Ctx Tid Obj) : Ctx Tid Obj :=
  match a with
  | .clear slot => { c with field := Function.update c.field slot .null }
  | .store slot value => { c with field := Function.update c.field slot value }
  | .setCb slot f => { c with registered := Function.update c.registered slot f }
  | .getCb slot => { c with fn := Function.update c.fn t (c.registered slot) }
  | .choose slot =>
    match c.fn t with
    | .pygpgme => { c with callback := Function.update c.callback t (c.field slot) }
    | .null => { c with callback := Function.update c.callback t .none }
  | _ => c

/-! ## What happened so far -/

/-- An object that Python code got, or that was called, and the value that was
current when the thread took the mutex. -/
structure Use (Obj : Type) where
  slot : Slot
  used : Pointer Obj
  current : Pointer Obj
  deriving DecidableEq, Repr

structure History (Tid Obj : Type) where
  /-- The call each thread made last. -/
  call : Tid → Call Obj
  /-- The value of the assignment that last released the mutex. -/
  assigned : Slot → Pointer Obj
  /-- The same when each thread last took the mutex. -/
  atAcquire : Tid → Slot → Pointer Obj
  reads : List (Use Obj)
  invocations : List (Use Obj)

/-- Before the first assignment the attributes are None. -/
def History.new : History Tid Obj where
  call := fun _ => .switch
  assigned := fun _ => .none
  atAcquire := fun _ _ => .none
  reads := []
  invocations := []

/-- A deleted attribute reads as None. -/
def Pointer.shown : Pointer Obj → Pointer Obj
  | .null => .none
  | value => value

def History.assign (h : History Tid Obj) : Call Obj → History Tid Obj
  | .assign slot value _ => { h with assigned := Function.update h.assigned slot value.shown }
  | _ => h

def History.note (t : Tid) (i : Instr (Act Obj)) (c : Ctx Tid Obj) (h : History Tid Obj) :
    History Tid Obj :=
  match i with
  | .act (.begins call) => { h with call := Function.update h.call t call }
  | .acquire _ => { h with atAcquire := Function.update h.atAcquire t h.assigned }
  | .release => h.assign (h.call t)
  | .act (.returns slot) => { h with reads := ⟨slot, c.callback t, h.atAcquire t slot⟩ :: h.reads }
  | .act (.callFunction slot) =>
    { h with invocations := ⟨slot, c.field slot, h.atAcquire t slot⟩ :: h.invocations }
  | _ => h

/-! ## Runs -/

abbrev World (Tid Obj : Type) := Watched Tid (Act Obj) (Ctx Tid Obj) (History Tid Obj)

/-- A thread takes a step, or gpgme calls back while a thread waits for its operation. -/
inductive Label (Tid : Type) where
  | step (t : Tid)
  | invoke (t : Tid) (slot : Slot) (body : Nat)
  deriving DecidableEq, Repr

/-- gpgme calls the function registered with it, if there is one. -/
def invoke (w : World Tid Obj) (t : Tid) (slot : Slot) (body : Nat) : Option (World Tid Obj) :=
  match w.state.code t, w.state.data.registered slot with
  | .act (.leave _) :: _, .pygpgme =>
    some { w with state := w.state.prepend t (callback slot body) }
  | _, _ => none

def World.next (w : World Tid Obj) : Label Tid → Option (World Tid Obj)
  | .step t => watch History.note Ctx.act w t
  | .invoke t slot body => invoke w t slot body

def World.new (calls : Tid → List (Call Obj)) : World Tid Obj :=
  ⟨start (fun t => threadCode (calls t)) Ctx.new, History.new⟩

/-- Any number of threads share one initialised Context. -/
def context (calls : Tid → List (Call Obj)) : System (World Tid Obj) (Label Tid) where
  init := fun w => w = World.new calls
  step := World.next

end Pygpgme.Source.Registration
