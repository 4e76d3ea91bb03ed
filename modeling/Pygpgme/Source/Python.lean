import Pygpgme.Library.BitField
import Pygpgme.Library.Program
import Pygpgme.Source.Threads

/-!
# The part of the Python C API that the binding uses

One thread at a time: the pending exception, `errno`, and the gpgme functions
entered so far, each with whether an exception was pending at that moment. `long`,
`size_t` and `ssize_t` have 64 bits and `int` has 32. Objects of types the binding
does not look into are described by what the API finds out about them. Memory is
never exhausted.
-/

set_option autoImplicit false

namespace Pygpgme.Source.Python
open Pygpgme.Library.BitField Pygpgme.Library.Program Pygpgme.Source.Threads

abbrev Bytes := List UInt8
abbrev CodePoint := Fin 0x110000

instance codePoints_nonempty : NeZero 0x110000 := ⟨by decide⟩

/-- A `str` may hold lone surrogates, which UTF-8 cannot encode. -/
def surrogate (c : CodePoint) : Bool := 0xd800 ≤ c.val && c.val ≤ 0xdfff

def encodable (text : List CodePoint) : Bool := !text.any surrogate

def utf8 (text : List CodePoint) : Bytes :=
  text.flatMap fun c => String.utf8EncodeChar (Char.ofNat c.val)

/-- What C sees of a byte string: everything before the first NUL. -/
def cString (data : Bytes) : Bytes := data.takeWhile (· ≠ 0)

def longMin : Int := -(2 ^ 63)
def longMax : Int := 2 ^ 63 - 1
def intMin : Int := -(2 ^ 31)
def intMax : Int := 2 ^ 31 - 1

/-- `other` is any further class, by the tested classes it derives from. -/
inductive ExcClass where
  | gpgmeError | osError | attributeError | typeError | valueError | unicodeEncodeError
  | unicodeDecodeError | overflowError | systemError | deprecationWarning
  | other (ofGpgmeError ofOSError ofValueError : Bool)
  deriving DecidableEq, Repr

def ExcClass.isGpgmeError : ExcClass → Bool
  | .gpgmeError => true
  | .other ofGpgmeError _ _ => ofGpgmeError
  | _ => false

/-- `IOError` is another name of `OSError`. -/
def ExcClass.isOSError : ExcClass → Bool
  | .osError => true
  | .other _ ofOSError _ => ofOSError
  | _ => false

def ExcClass.isValueError : ExcClass → Bool
  | .valueError | .unicodeEncodeError | .unicodeDecodeError => true
  | .other _ _ ofValueError => ofValueError
  | _ => false

/-- `GPGME_SIG_NOTATION_HUMAN_READABLE` -/
def humanReadable (flags : BitVec 32) : Bool := flags &&& 1 ≠ 0

inductive SigValue where
  | text (value : List CodePoint)
  | data (value : Bytes)
  deriving DecidableEq, Repr

/-- A `SigNotation` after `__init__`, which insists on the types. -/
structure SigNotation where
  name : Option (List CodePoint)
  value : SigValue
  flags : BitVec 32
  typed : humanReadable flags = true ↔ ∃ text, value = .text text

inductive PyObject where
  | none
  | int (value : Int)
  /-- A member of an `IntEnum` is an `int`. -/
  | member (enum : String) (value : Int)
  | str (text : List CodePoint)
  | bytes (data : Bytes)
  | tuple (items : List PyObject)
  | list (items : List PyObject)
  /-- A `gpgme.Key`, by its `gpgme_key_t`. -/
  | key (handle : Nat)
  /-- A `gpgme.SigNotation`; `none` when `__init__` never ran. -/
  | sigNotation (fields : Option SigNotation)
  | exc (cls : ExcClass) (args : List PyObject) (attrs : List (String × PyObject))
  /-- An instance of one of the binding's record types; `none` is a NULL field. -/
  | record (type : String) (fields : List (String × Option PyObject))
  /-- Any other object: what `__index__` and iteration give. -/
  | object (index : Except ExcClass Int) (items : Except ExcClass (List PyObject))

/-- An exception instance. -/
structure PyExc where
  cls : ExcClass
  args : List PyObject
  attrs : List (String × PyObject)

def PyExc.toObject (e : PyExc) : PyObject := .exc e.cls e.args e.attrs

/-- `PyObject_SetAttrString` -/
def PyExc.setAttr (e : PyExc) (name : String) (value : PyObject) : PyExc :=
  { e with attrs := (name, value) :: e.attrs }

/-- `PyObject_GetAttrString` -/
def PyExc.getAttr (e : PyExc) (name : String) : Option PyObject := e.attrs.lookup name

/-- Why a conversion has no result: an exception, or a NULL pointer that is read. -/
inductive Stop where
  | crash
  | raised (e : PyExc)

/-- A conversion that reads no NULL pointer. -/
def raising {α : Type} (result : Except PyExc α) : Except Stop α := result.mapError .raised

/-- An argument of a gpgme function; `none` is a NULL pointer. -/
inductive CArg where
  | int (value : Int)
  | string (text : Option Bytes)
  | strings (array : Option (List Bytes))
  | key (handle : Nat)
  | keys (array : Option (List Nat))
  | data (file : PyObject)
  | callback (set : Bool)

/-- A gpgme function entered with the context, and whether an exception was pending. -/
structure Entry where
  fn : GpgmeFn
  args : List CArg
  pending : Bool

structure Interp where
  pending : Option PyExc
  errno : Int
  entered : List Entry

/-- As a function of the binding is called. -/
def Interp.clean : Interp := ⟨none, 0, []⟩

abbrev Py := StateProgram Interp

/-! ## Exceptions -/

def setPending (e : Option PyExc) : Py Unit := modify fun s => { s with pending := e }

/-- Raised by the API itself. -/
def raise (cls : ExcClass) : Py Unit := setPending (some ⟨cls, [], []⟩)

def message (text : String) : PyObject :=
  .str (text.toList.map fun c => Fin.ofNat 0x110000 c.toNat)

def excString (cls : ExcClass) (text : String) : PyExc := ⟨cls, [message text], []⟩

/-- `PyErr_SetString` -/
def setString (cls : ExcClass) (text : String) : Py Unit := setPending (some (excString cls text))

/-- A conversion that does not look at the pending exception: NULL and an exception
when it fails. -/
def attempt {α : Type} (result : Except PyExc α) : Py (Option α) :=
  match result with
  | .ok a => pure (some a)
  | .error e => do
    setPending (some e)
    return none

/-- The same for a conversion that may read a NULL pointer. -/
def convert {α : Type} (result : Except Stop α) : Py (Option α) :=
  match result with
  | .ok a => pure (some a)
  | .error .crash => crash
  | .error (.raised e) => do
    setPending (some e)
    return none

/-- `PyErr_Occurred` -/
def occurred : Py Bool := do return (← get).pending.isSome

/-- `PyErr_Fetch` -/
def fetch : Py (Option PyExc) := do
  let e := (← get).pending
  setPending none
  return e

/-- `PyErr_Restore` -/
def restore (e : Option PyExc) : Py Unit := setPending e

/-- `PyErr_Clear` -/
def clear : Py Unit := setPending none

def setErrno (n : Int) : Py Unit := modify fun s => { s with errno := n }

/-! ## Conversions -/

/-- `PyLong_Check` and the value -/
def PyObject.long? : PyObject → Option Int
  | .int n | .member _ n => some n
  | _ => Option.none

/-- `__index__` -/
def PyObject.index : PyObject → Except ExcClass Int
  | .int n | .member _ n => .ok n
  | .object index _ => index
  | _ => .error .typeError

def FitsLong (n : Int) : Prop := longMin ≤ n ∧ n ≤ longMax

instance (n : Int) : Decidable (FitsLong n) := inferInstanceAs (Decidable (_ ∧ _))

/-- A C `long` from an unbounded integer. -/
def longOf (n : Int) : Py Int :=
  if FitsLong n then pure n
  else do
    raise .overflowError
    return -1

/-- `PyLong_AsLong` -/
def asLong (o : PyObject) : Py Int :=
  match o.index with
  | .ok n => longOf n
  | .error cls => do
    raise cls
    return -1

/-- `PyUnicode_AsUTF8AndSize` -/
def encodeUtf8 (text : List CodePoint) : Except PyExc Bytes :=
  if encodable text then .ok (utf8 text) else .error ⟨.unicodeEncodeError, [], []⟩

/-- The attribute `name` of a notation. -/
def nameObject : Option (List CodePoint) → PyObject
  | some text => .str text
  | none => .none

/-- The attribute `value` of a notation. -/
def valueObject : SigValue → PyObject
  | .text text => .str text
  | .data data => .bytes data

/-- The items that iteration gives. A `SigNotation` is a sequence too, of its name and
its value; before `__init__` these are NULL, and `pygpgme_sig_notation_item` takes a
reference to them all the same. -/
def PyObject.items : PyObject → Except Stop (List PyObject)
  | .tuple items | .list items => .ok items
  | .str text => .ok (text.map fun c => .str [c])
  | .bytes data => .ok (data.map fun b => .int b.toNat)
  | .sigNotation (some item) => .ok [nameObject item.name, valueObject item.value]
  | .sigNotation Option.none => .error .crash
  | .object _ items => items.mapError fun cls => .raised ⟨cls, [], []⟩
  | _ => .error (.raised ⟨.typeError, [], []⟩)

/-- The message of `PySequence_Fast` replaces that of a `TypeError`. -/
def Stop.named (text : String) : Stop → Stop
  | .crash => .crash
  | .raised e => .raised (if e.cls = .typeError then excString .typeError text else e)

/-- `PySequence_Fast` -/
def sequenceFast (o : PyObject) (text : String) : Except Stop (List PyObject) :=
  o.items.mapError (Stop.named text)

/-- Iteration comes to an end, unless it is over a `SigNotation` without fields. -/
theorem items_crash_iff (o : PyObject) : o.items = .error .crash ↔ o = .sigNotation none := by
  constructor
  · intro stops
    cases o with
    | sigNotation fields =>
      cases fields with
      | none => rfl
      | some item => cases stops
    | object index items => cases items <;> cases stops
    | _ => cases stops
  · intro same
    rw [same]
    rfl

theorem sequenceFast_ok {o : PyObject} {items : List PyObject} (found : o.items = .ok items)
    (text : String) : sequenceFast o text = .ok items := by
  rw [sequenceFast, found]
  rfl

theorem sequenceFast_crash_iff (o : PyObject) (text : String) :
    sequenceFast o text = .error .crash ↔ o = .sigNotation none := by
  rw [← items_crash_iff, sequenceFast]
  cases found : o.items with
  | ok items => simp [Except.mapError]
  | error stop => cases stop <;> simp [Except.mapError, Stop.named]

/-- The length of a sequence as an `int`: what a loop over it visits. -/
def cLength (items : List PyObject) : Nat := (BitVec.ofNat 32 items.length).toInt.toNat

def visited (items : List PyObject) : List PyObject := items.take (cLength items)

theorem visited_length_le (items : List PyObject) : (visited items).length ≤ items.length :=
  List.length_take_le' _ _

theorem visited_of_length {items : List PyObject}
    (long : items.length ≤ (visited items).length) : visited items = items :=
  (List.take_prefix _ _).eq_of_length_le long

/-! ## Calls -/

/-- How a call of code the user wrote ends. `outcome` is what it ends with when nothing
is pending. Code that is called with an exception pending runs into it: what it returns
is dropped for a `SystemError`. Only code that deals with the exception itself, by
handling it or by raising another, ends in a way of its own, which is `handled`. -/
def ending (pending : Bool) (outcome : Except PyExc PyObject)
    (handled : Option (Except PyExc PyObject)) : Except PyExc PyObject :=
  if pending then handled.getD (.error ⟨.systemError, [], []⟩) else outcome

/-- A call of code the user wrote: an object and no exception pending, or NULL and an
exception. -/
def callUser (outcome : Except PyExc PyObject)
    (handled : Option (Except PyExc PyObject)) : Py (Option PyObject) := do
  match ending (← occurred) outcome handled with
  | .ok result =>
    clear
    return some result
  | .error e =>
    setPending (some e)
    return none

/-- With nothing pending the code ends as it does by itself. -/
@[simp] theorem ending_quiet (outcome : Except PyExc PyObject)
    (handled : Option (Except PyExc PyObject)) : ending false outcome handled = outcome := rfl

structure IntEnum where
  name : String
  members : List Int

/-- The member equal to `value`, or `value` itself. -/
def IntEnum.value (enum : IntEnum) (value : Int) : PyObject :=
  if value ∈ enum.members then .member enum.name value else .int value

@[simp] theorem IntEnum.long?_value (enum : IntEnum) (value : Int) :
    (enum.value value).long? = some value := by
  unfold IntEnum.value
  split <;> rfl

/-- The class called with a number. Called with an exception pending, it ends with a
`SystemError` at the first thing it does, whatever the number. -/
def IntEnum.call (enum : IntEnum) (value : Int) : Py (Option PyObject) := do
  if ← occurred then
    raise .systemError
    return none
  else if value ∈ enum.members then return some (.member enum.name value)
  else
    raise .valueError
    return none

/-- The call of a gpgme function with the context. -/
def gpgme (fn : GpgmeFn) (args : List CArg) : Py Unit :=
  modify fun s => { s with entered := ⟨fn, args, s.pending.isSome⟩ :: s.entered }

/-! ## What each of them achieves -/

section
variable (s : Interp)

@[simp] theorem achieves_setPending (e : Option PyExc) (Q : Unit → Interp → Prop) :
    achieves (setPending e) s Q ↔ Q () { s with pending := e } :=
  achieves_modify _ s Q

@[simp] theorem achieves_raise (cls : ExcClass) (Q : Unit → Interp → Prop) :
    achieves (raise cls) s Q ↔ Q () { s with pending := some ⟨cls, [], []⟩ } :=
  achieves_setPending s _ Q

@[simp] theorem achieves_setString (cls : ExcClass) (text : String) (Q : Unit → Interp → Prop) :
    achieves (setString cls text) s Q ↔
      Q () { s with pending := some (excString cls text) } :=
  achieves_setPending s _ Q

@[simp] theorem achieves_attempt {α : Type} (result : Except PyExc α)
    (Q : Option α → Interp → Prop) :
    achieves (attempt result) s Q ↔
      match result with
      | .ok a => Q (some a) s
      | .error e => Q none { s with pending := some e } := by
  cases result <;> simp [attempt]

@[simp] theorem achieves_convert {α : Type} (result : Except Stop α)
    (Q : Option α → Interp → Prop) :
    achieves (convert result) s Q ↔
      match result with
      | .ok a => Q (some a) s
      | .error .crash => False
      | .error (.raised e) => Q none { s with pending := some e } := by
  unfold convert
  split <;> simp

@[simp] theorem achieves_occurred (Q : Bool → Interp → Prop) :
    achieves occurred s Q ↔ Q s.pending.isSome s := by
  simp [occurred]

@[simp] theorem achieves_fetch (Q : Option PyExc → Interp → Prop) :
    achieves fetch s Q ↔ Q s.pending { s with pending := none } := by
  simp [fetch]

@[simp] theorem achieves_restore (e : Option PyExc) (Q : Unit → Interp → Prop) :
    achieves (restore e) s Q ↔ Q () { s with pending := e } :=
  achieves_setPending s _ Q

@[simp] theorem achieves_clear (Q : Unit → Interp → Prop) :
    achieves clear s Q ↔ Q () { s with pending := none } :=
  achieves_setPending s _ Q

@[simp] theorem achieves_setErrno (n : Int) (Q : Unit → Interp → Prop) :
    achieves (setErrno n) s Q ↔ Q () { s with errno := n } :=
  achieves_modify _ s Q

@[simp] theorem achieves_longOf (n : Int) (Q : Int → Interp → Prop) :
    achieves (longOf n) s Q ↔
      if FitsLong n then Q n s
      else Q (-1) { s with pending := some ⟨.overflowError, [], []⟩ } := by
  simp [longOf]

@[simp] theorem achieves_callUser (outcome : Except PyExc PyObject)
    (handled : Option (Except PyExc PyObject)) (Q : Option PyObject → Interp → Prop) :
    achieves (callUser outcome handled) s Q ↔
      match ending s.pending.isSome outcome handled with
      | .ok result => Q (some result) { s with pending := none }
      | .error e => Q none { s with pending := some e } := by
  unfold callUser
  rw [achieves_bind, achieves_occurred]
  cases ending s.pending.isSome outcome handled <;> simp

@[simp] theorem achieves_gpgme (fn : GpgmeFn) (args : List CArg) (Q : Unit → Interp → Prop) :
    achieves (gpgme fn args) s Q ↔
      Q () { s with entered := ⟨fn, args, s.pending.isSome⟩ :: s.entered } :=
  achieves_modify _ s Q

end

end Pygpgme.Source.Python
