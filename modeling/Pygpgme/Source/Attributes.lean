import Pygpgme.Library.LockAtomicity
import Pygpgme.Source.SignLists
import Pygpgme.Source.ThreadPrograms

/-!
# The attributes of a Context under its mutex

lib/pygpgme-context.c:146-435 and 523-716. gpgme keeps the settings; an accessor
calls gpgme between lock and unlock, one function after the other, and the
interpreter may let other threads run in between. Which functions a setter calls is
what `Setter.set` says. The attributes that hold callables are those of
lib/pygpgme-context.c:440-520, and not here.
-/

set_option autoImplicit false

namespace Pygpgme.Source.Attributes
open Pygpgme.Library.LockMachine Pygpgme.Library.Transition Pygpgme.Library.Program
open Pygpgme.Source.Python Pygpgme.Source.Error Pygpgme.Source.Data Pygpgme.Source.Results
open Pygpgme.Source.Setters Pygpgme.Source.SignLists
open Pygpgme.Source.Threads (GpgmeFn Method)

/-! ## What gpgme keeps -/

inductive Number where
  | protocol | armor | textmode | offline | includeCerts | keylistMode | pinentryMode
  deriving DecidableEq, Repr

structure Settings where
  number : Number → Int
  signers : List Nat
  notations : List RawNotation
  sender : Option Bytes

/-- The function that sets a number. -/
def Number.fn : Number → GpgmeFn
  | .protocol => .setProtocol
  | .armor => .setArmor
  | .textmode => .setTextmode
  | .offline => .setOffline
  | .includeCerts => .setIncludeCerts
  | .keylistMode => .setKeylistMode
  | .pinentryMode => .setPinentryMode

/-- A gpgme function as a setter calls it, and what it returned. -/
structure Answered where
  fn : GpgmeFn
  args : List CArg
  ret : GpgError

/-- gpgme, by what its functions do to the settings of a context. One that returns an
error has changed nothing. Of the values it accepts it may store what it likes. -/
structure Gpgme where
  call : Answered → Settings → Settings
  stored : Number → Int → Int
  address : Option Bytes → Option Bytes
  refused : ∀ c s, c.ret ≠ noError → call c s = s
  setNumber : ∀ (n : Number) value (s : Settings), call ⟨n.fn, [.int value], noError⟩ s =
    { s with number := Function.update s.number n (stored n value) }
  signersClear : ∀ s, call ⟨.signersClear, [], noError⟩ s = { s with signers := [] }
  signersAdd : ∀ handle s, call ⟨.signersAdd, [.key handle], noError⟩ s =
    { s with signers := s.signers ++ [handle] }
  sigNotationClear : ∀ s, call ⟨.sigNotationClear, [], noError⟩ s = { s with notations := [] }
  sigNotationAdd : ∀ name value flags s,
    call ⟨.sigNotationAdd, [.string name, .string value, .int flags], noError⟩ s =
      { s with notations := s.notations ++ [⟨name, value.getD [], BitVec.ofInt 32 flags⟩] }
  setSender : ∀ text s, call ⟨.setSender, [.string text], noError⟩ s =
    { s with sender := address text }

/-- The answer decides. -/
theorem Gpgme.call_eq (g : Gpgme) {fn : GpgmeFn} {args : List CArg}
    {after : Settings → Settings} (accepted : ∀ s, g.call ⟨fn, args, noError⟩ s = after s)
    (ret : GpgError) (s : Settings) :
    g.call ⟨fn, args, ret⟩ s = if ret = noError then after s else s := by
  split
  next ok =>
    rw [ok]
    exact accepted s
  next refused => exact g.refused _ s refused

def Settings.store (g : Gpgme) (n : Number) (value : Int) (s : Settings) : Settings :=
  { s with number := Function.update s.number n (g.stored n value) }

/-! ## Setters -/

inductive Attribute where
  | number (n : Number)
  | signers | sigNotations | sender
  deriving DecidableEq, Repr

/-- The setter, with what gpgme returns to it. -/
def Attribute.setter (answers : Nat → GpgError) : Attribute → Setter
  | .number .protocol => .protocol (answers 0)
  | .number .armor => .armor
  | .number .textmode => .textmode
  | .number .offline => .offline
  | .number .includeCerts => .includeCerts
  | .number .keylistMode => .keylistMode (answers 0)
  | .number .pinentryMode => .pinentryMode (answers 0)
  | .signers => .signers
  | .sigNotations => .sigNotations answers
  | .sender => .sender (answers 0)

/-! The seven setters of numbers are one. -/

/-- The C value of a number. -/
def Number.converted : Number → Int → Int
  | .armor | .textmode | .offline => boolOf
  | .includeCerts => intOf
  | .protocol | .keylistMode | .pinentryMode => unsignedOf

/-- What gpgme answers to it, if its function returns something. -/
def Number.answer (answers : Nat → GpgError) : Number → Option GpgError
  | .protocol | .keylistMode | .pinentryMode => some (answers 0)
  | .armor | .textmode | .offline | .includeCerts => none

theorem Attribute.set_number (state : ModState) (answers : Nat → GpgError) (n : Number)
    (value : Option PyObject) :
    ((Attribute.number n).setter answers).set state value =
      setInteger state n.fn n.converted (n.answer answers) value := by
  cases n <;> rfl

/-- The gpgme functions that return nothing. -/
def void : GpgmeFn → Bool
  | .setArmor | .setTextmode | .setOffline | .setIncludeCerts | .signersClear
  | .sigNotationClear => true
  | _ => false

/-- How many of the functions entered return something. -/
def asked (entered : List Entry) : Nat := entered.countP fun e => !void e.fn

/-- The functions entered, the latest first, with what they return. -/
def answered (answers : Nat → GpgError) : List Entry → List Answered
  | [] => []
  | e :: earlier =>
    ⟨e.fn, e.args, if void e.fn then noError else answers (asked earlier)⟩ ::
      answered answers earlier

/-- An assignment or, without a value, a deletion. The process survives it: neither the
value nor an item that is reached is a `SigNotation` that was never initialised. -/
structure Assignment (state : ModState) where
  attr : Attribute
  value : Option PyObject
  answers : Nat → GpgError
  survives :
    (((attr.setter answers).set state value).run Interp.clean).isSome = true

variable {state : ModState}

/-- What the setter returns, and the interpreter after it. -/
def Assignment.outcome (a : Assignment state) : Int × Interp :=
  (((a.attr.setter a.answers).set state a.value).run Interp.clean).get a.survives

theorem Assignment.ran (a : Assignment state) :
    ((a.attr.setter a.answers).set state a.value).run Interp.clean = some a.outcome :=
  (Option.some_get a.survives).symm

/-- What is known of every run of the setter holds of the one that was made. -/
theorem Assignment.made (a : Assignment state) (Q : Int → Interp → Prop)
    (h : achieves ((a.attr.setter a.answers).set state a.value) Interp.clean Q) :
    Q a.outcome.1 a.outcome.2 :=
  (achieves_of_run a.ran Q).mp h

/-- The calls of gpgme in order. -/
def Assignment.calls (a : Assignment state) : List Answered :=
  (answered a.answers a.outcome.2.entered).reverse

/-! ## Getters -/

/-- The module state, as far as the getters read it. -/
structure ModuleState extends Module where
  keylistModeType : IntEnum
  pinentryModeType : IntEnum

variable (m : ModuleState)

/-- `PyBool_FromLong` -/
def boolFromLong (n : Int) : Py (Option PyObject) := return some (bool (n ≠ 0))

def contextGetProtocol (protocol : Int) : Py (Option PyObject) :=
  enumValueNew m.protocolType protocol

def contextGetArmor (armor : Int) : Py (Option PyObject) := boolFromLong armor

def contextGetTextmode (textmode : Int) : Py (Option PyObject) := boolFromLong textmode

def contextGetOffline (offline : Int) : Py (Option PyObject) := boolFromLong offline

def contextGetIncludeCerts (nrOfCerts : Int) : Py (Option PyObject) := return some (.int nrOfCerts)

def contextGetKeylistMode (mode : Int) : Py (Option PyObject) :=
  enumValueNew m.keylistModeType mode

def contextGetPinentryMode (mode : Int) : Py (Option PyObject) :=
  enumValueNew m.pinentryModeType mode

def contextGetSender : Option Bytes → Py (Option PyObject)
  | none => return some .none
  | some sender => attempt (decodeUtf8 sender)

/-- The getter of a number, from what gpgme returns. -/
def Number.get : Number → Int → Py (Option PyObject)
  | .protocol => contextGetProtocol m
  | .armor => contextGetArmor
  | .textmode => contextGetTextmode
  | .offline => contextGetOffline
  | .includeCerts => contextGetIncludeCerts
  | .keylistMode => contextGetKeylistMode m
  | .pinentryMode => contextGetPinentryMode m

/-- The object or the exception that a function leaves. -/
def ended (p : Py (Option PyObject)) : Option (Except PyExc PyObject) :=
  match p.run Interp.clean with
  | some (some o, _) => some (.ok o)
  | some (none, s) => s.pending.map .error
  | none => none

/-- The same for one that only iterates. -/
def listed (r : Except Stop PyObject) : Option (Except PyExc PyObject) := ended (convert r)

/-- What a getter asks gpgme for. The loop over the signers calls `signersEnum` until
there is no further key: `calls` times. -/
inductive Getter where
  | number (n : Number)
  | signers (calls : Nat)
  | sigNotations | sender
  deriving DecidableEq, Repr

/-! ## Steps under the mutex -/

inductive Act where
  | call (c : Answered)
  | getNumber (n : Number)
  | newList
  | signersEnum (i : Nat)
  | tuple
  | getNotations
  | getSender
  | enter (m : Method)
  | leave (m : Method)

abbrev Code := List (Instr Act)

def gilSwitch : Code := [.saveThread, .restoreThread]

def switches (n : Nat) : Code := (List.replicate n gilSwitch).flatten

/-- How often Python code that a call runs lets other threads run: before it locks,
after each call of gpgme, and after it unlocked. -/
structure Pauses where
  before : Nat
  inside : Nat
  after : Nat
  deriving DecidableEq, Repr

/-- `lock_context` ... `unlock_context` -/
def locked (p : Pauses) (acts : List Act) : Code :=
  switches p.before ++ [.saveThread, .acquire .plain, .restoreThread] ++
    acts.flatMap (fun a => .act a :: switches p.inside) ++ [.release] ++ switches p.after

/-- A callback during an operation. It leaves this Context alone. -/
def callbackFrame (body : Nat) : Code :=
  [.assertState true, .loadState, .restoreThread] ++ switches body ++ [.saveThread, .storeState]

/-- `begin_allow_threads` ... `end_allow_threads` -/
def blocking (m : Method) (callbacks : List Nat) (after : Nat) : Code :=
  [.saveThread, .acquire .blocking, .assertState false, .storeState, .act (.enter m)] ++
    callbacks.flatMap callbackFrame ++
    [.act (.leave m), .assertState true, .loadState, .restoreThread, .clearState, .release] ++
    switches after

def Getter.acts : Getter → List Act
  | .number n => [.getNumber n]
  | .signers calls => .newList :: (List.range calls).map .signersEnum ++ [.tuple]
  | .sigNotations => [.getNotations]
  | .sender => [.getSender]

inductive Call (state : ModState) where
  | assign (a : Assignment state) (pauses : Pauses)
  | get (getter : Getter) (pauses : Pauses)
  | operation (m : Method) (callbacks : List Nat) (after : Nat)

/-- What a call does under the mutex. -/
def Call.acts : Call state → List Act
  | .assign a _ => a.calls.map .call
  | .get getter _ => getter.acts
  | .operation m _ _ => [.enter m, .leave m]

/-- A setter that refuses its value does not get as far as the mutex. -/
def Call.code : Call state → Code
  | .assign a p => if a.calls = [] then switches p.before else locked p (a.calls.map .call)
  | .get getter p => locked p getter.acts
  | .operation m callbacks after => blocking m callbacks after

def threadCode (calls : List (Call state)) : Code :=
  [.restoreThread] ++ calls.flatMap Call.code ++ [.saveThread]

/-! ## State -/

/-- What a thread was given: the object a getter returned, or the settings an
operation found. -/
inductive Seen where
  | got (attr : Attribute) (result : Option (Except PyExc PyObject))
  | started (m : Method) (settings : Settings)
  | finished (m : Method) (settings : Settings)

structure Contents (Tid : Type) where
  settings : Settings
  /-- The latest first. -/
  seen : Tid → List Seen

structure Ctx (Tid : Type) extends Contents Tid where
  /-- The `list` of `pygpgme_context_get_signers`. -/
  list : Tid → List Nat

variable {Tid : Type} [DecidableEq Tid]

def Contents.see (c : Contents Tid) (t : Tid) (x : Seen) : Contents Tid :=
  { c with seen := Function.update c.seen t (x :: c.seen t) }

def Ctx.see (c : Ctx Tid) (t : Tid) (x : Seen) : Ctx Tid :=
  { c with toContents := c.toContents.see t x }

/-- The conversion of a number follows the unlock, from a local variable. -/
def Ctx.act (g : Gpgme) (t : Tid) (a : Act) (c : Ctx Tid) : Ctx Tid :=
  match a with
  | .call call => { c with settings := g.call call c.settings }
  | .getNumber n => c.see t (.got (.number n) (ended (n.get m (c.settings.number n))))
  | .newList => { c with list := Function.update c.list t [] }
  | .signersEnum i =>
    { c with list := Function.update c.list t (c.list t ++ c.settings.signers[i]?.toList) }
  | .tuple => c.see t (.got .signers (listed (contextGetSigners (c.list t))))
  | .getNotations =>
    c.see t (.got .sigNotations
      (listed (contextGetSigNotations m.toModule c.settings.notations)))
  | .getSender => c.see t (.got .sender (ended (contextGetSender c.settings.sender)))
  | .enter method => c.see t (.started method c.settings)
  | .leave method => c.see t (.finished method c.settings)

omit [DecidableEq Tid] in
def Ctx.new (settings : Settings) : Ctx Tid := ⟨⟨settings, fun _ => []⟩, fun _ => []⟩

abbrev World (Tid : Type) := State Tid Act (Ctx Tid)

/-- Any number of threads share one initialised Context. -/
def context (g : Gpgme) (settings : Settings) (prog : Tid → List (Call state)) :
    System (World Tid) Tid :=
  machine (Ctx.act m g) (fun t => threadCode (prog t)) (Ctx.new settings)

end Pygpgme.Source.Attributes
