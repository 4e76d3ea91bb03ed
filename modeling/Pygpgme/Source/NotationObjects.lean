import Pygpgme.Library.Transition
import Pygpgme.Source.SignLists

/-!
# Notation objects, before and after `__init__`

lib/pygpgme-signature.c:267-332, 367-421 and lib/pygpgme-context.c:636-661. A field is
NULL or an object of some type. The type inherits `__new__`, which leaves everything 0;
`__init__` can be called any number of times.
-/

set_option autoImplicit false

namespace Pygpgme.Source.NotationObjects
open Pygpgme.Library.Program Pygpgme.Library.Transition
open Pygpgme.Source.Python Pygpgme.Source.Arguments Pygpgme.Source.Results
open Pygpgme.Source.SignLists (notationNameArg)

/-- A `PyGpgmeSigNotation`; `none` is NULL. -/
structure NotationObject where
  name : Option PyObject
  value : Option PyObject
  flags : BitVec 32

/-- As `tp_alloc` leaves it. -/
def NotationObject.fresh : NotationObject := ⟨none, none, 0⟩

/-! ## The constructor -/

/-- `PyUnicode_Check` -/
def isStr : PyObject → Bool
  | .str _ => true
  | _ => false

/-- `PyBytes_Check` -/
def isBytes : PyObject → Bool
  | .bytes _ => true
  | _ => false

def isNone : PyObject → Bool
  | .none => true
  | _ => false

/-- The argument at a position or with a keyword. -/
def argument (args : List PyObject) (kwargs : List (String × PyObject)) (i : Nat)
    (keyword : String) : Except PyExc (Option PyObject) :=
  match args[i]?, kwargs.lookup keyword with
  | some _, some _ => wrongCount
  | some o, none => .ok (some o)
  | none, found => .ok found

/-- Whether there are too many arguments, or some under another name. -/
def extraneous (args : List PyObject) (kwargs : List (String × PyObject)) : Bool :=
  3 < args.length + kwargs.length ||
    kwargs.any fun arg => arg.1 ≠ "name" && arg.1 ≠ "value" && arg.1 ≠ "flags"

def flagsArg : Option PyObject → Except PyExc (BitVec 32)
  | some o => argUInt o
  | none => .ok 1

/-- `OO|I` with `kwlist`; the flags have a default. -/
def sigNotationArgs (args : List PyObject) (kwargs : List (String × PyObject)) :
    Except PyExc (PyObject × PyObject × BitVec 32) := do
  if extraneous args kwargs then wrongCount
  else
    let name ← argument args kwargs 0 "name"
    let value ← argument args kwargs 1 "value"
    let flags ← argument args kwargs 2 "flags"
    match name, value with
    | some name, some value => return (name, value, ← flagsArg flags)
    | _, _ => wrongCount

/-- The checks of `pygpgme_sig_notation_init`, and its assignments. -/
def sigNotationStore (name value : PyObject) (flags : BitVec 32) (self : NotationObject) :
    Option PyExc × NotationObject :=
  if ¬ (isNone name || isStr name) then
    (some (excString .typeError "name must be a str or None"), self)
  else if humanReadable flags then
    if ¬ isStr value then
      (some (excString .typeError "value must be a str for human readable notations"), self)
    else (none, ⟨some name, some value, flags⟩)
  else if ¬ isBytes value then
    (some (excString .typeError "value must be bytes for non-human readable notations"), self)
  else (none, ⟨some name, some value, flags⟩)

/-- `pygpgme_sig_notation_init`: the exception, if it fails, and the object after it. -/
def sigNotationInit (args : List PyObject) (kwargs : List (String × PyObject))
    (self : NotationObject) : Option PyExc × NotationObject :=
  match sigNotationArgs args kwargs with
  | .error e => (some e, self)
  | .ok (name, value, flags) => sigNotationStore name value flags self

/-- One item of `pygpgme_sig_notation_list_new`. -/
def notationItem (m : Module) (raw : RawNotation) : NotationObject where
  name := match raw.name with
    | some name => some (.str (m.replaceUtf8 name))
    | none => some .none
  value :=
    if humanReadable raw.flags then some (.str (m.replaceUtf8 raw.value))
    else some (.bytes raw.value)
  flags := raw.flags

/-! ## What uses the fields -/

/-- `Py_INCREF`, and the object. -/
def newReference : Option PyObject → Py (Option PyObject)
  | none => crash
  | some o => return some o

/-- `pygpgme_sig_notation_length`; with it and the next one the type is a sequence. -/
def sigNotationLength (_ : NotationObject) : Nat := 2

/-- `pygpgme_sig_notation_item`; `IndexError` is none of the classes the binding tests
for. -/
def sigNotationItem (self : NotationObject) (index : Int) : Py (Option PyObject) :=
  if index = 0 then newReference self.name
  else if index = 1 then newReference self.value
  else do
    setString (.other false false false) "index out of range"
    return none

/-- `PyUnicode_AsUTF8AndSize` -/
def asUTF8AndSize : Option PyObject → Py (Option Bytes)
  | none => crash
  | some (.str text) => attempt (encodeUtf8 text)
  | some _ => do
    raise .typeError
    return none

/-- `PyBytes_AsString` -/
def bytesAsString : Option PyObject → Py (Option Bytes)
  | none => crash
  | some (.bytes data) => return some data
  | some _ => do
    raise .typeError
    return none

/-- `item->name` as a C string; `None` is NULL. -/
def nameString : Option PyObject → Py (Option Bytes)
  | some .none => return none
  | name => asUTF8AndSize name

/-- What `pygpgme_context_set_sig_notations` reads of an item. -/
def notationStrings (item : NotationObject) : Py (Option Bytes × Option Bytes) := do
  let name ← nameString item.name
  let value ←
    (if humanReadable item.flags then asUTF8AndSize item.value else bytesAsString item.value)
  return (name, value)

/-! ## Runs -/

/-- An object, and whether it was made from a gpgme notation or given arguments that
`__init__` accepts. -/
structure Tracked where
  object : NotationObject
  initialised : Bool

/-- What `__init__` accepts, by the arguments. -/
def accepts (args : List PyObject) (kwargs : List (String × PyObject)) : Bool :=
  match sigNotationArgs args kwargs with
  | .error _ => false
  | .ok (name, value, flags) =>
    (isNone name || isStr name) && if humanReadable flags then isStr value else isBytes value

inductive Event where
  /-- `SigNotation.__new__(SigNotation)` -/
  | new
  /-- `SigNotation(...)`; the object of a failed call is gone. -/
  | construct (args : List PyObject) (kwargs : List (String × PyObject))
  | init (object : Nat) (args : List PyObject) (kwargs : List (String × PyObject))
  | listNew (notations : List RawNotation)

def step (m : Module) (s : List Tracked) : Event → Option (List Tracked)
  | .new => some (s ++ [⟨.fresh, false⟩])
  | .construct args kwargs =>
    match sigNotationInit args kwargs .fresh with
    | (some _, _) => some s
    | (none, object) => some (s ++ [⟨object, accepts args kwargs⟩])
  | .init i args kwargs => do
    let self ← s[i]?
    return s.set i ⟨(sigNotationInit args kwargs self.object).2,
      self.initialised || accepts args kwargs⟩
  | .listNew notations => some (s ++ notations.map fun raw => ⟨notationItem m raw, true⟩)

def notationObjects (m : Module) : System (List Tracked) Event where
  init := fun s => s = []
  step := step m

/-! ## Notations as objects -/

/-- The object of a notation. -/
def NotationObject.of (n : SigNotation) : NotationObject :=
  ⟨some (nameObject n.name), some (valueObject n.value), n.flags⟩

/-- The object that stands for the fields of a `SigNotation`. -/
def NotationObject.ofFields : Option SigNotation → NotationObject
  | some n => .of n
  | none => .fresh

theorem notationItem_eq (m : Module) (raw : RawNotation) :
    notationItem m raw = .of (notationNew m raw) := by
  unfold notationItem NotationObject.of notationNew
  simp only [NotationObject.mk.injEq, and_true]
  constructor
  · cases raw.name <;> rfl
  · split <;> rfl

/-- Objects of the right types are those of a notation. -/
theorem exists_of {name value : PyObject} {flags : BitVec 32}
    (named : (isNone name || isStr name) = true)
    (typed : (if humanReadable flags then isStr value else isBytes value) = true) :
    ∃ n, NotationObject.of n = ⟨some name, some value, flags⟩ := by
  have nameOf : ∃ text, nameObject text = name := by
    cases name with
    | none => exact ⟨none, rfl⟩
    | str text => exact ⟨some text, rfl⟩
    | _ => cases named
  obtain ⟨text, rfl⟩ := nameOf
  cases readable : humanReadable flags with
  | true =>
    rw [readable, if_pos rfl] at typed
    cases value with
    | str content =>
      exact ⟨⟨text, .text content, flags, iff_of_true readable ⟨content, rfl⟩⟩, rfl⟩
    | _ => cases typed
  | false =>
    rw [readable, if_neg Bool.false_ne_true] at typed
    cases value with
    | bytes content =>
      exact ⟨⟨text, .data content, flags, iff_of_false (by simp [readable]) (by simp)⟩, rfl⟩
    | _ => cases typed

/-- `__init__` stores a notation, or fails and stores nothing. -/
theorem sigNotationInit_cases (args : List PyObject) (kwargs : List (String × PyObject))
    (self : NotationObject) :
    (accepts args kwargs = true ∧ ∃ n, sigNotationInit args kwargs self = (none, .of n)) ∨
      (accepts args kwargs = false ∧ ∃ e, sigNotationInit args kwargs self = (some e, self)) := by
  unfold accepts sigNotationInit
  cases sigNotationArgs args kwargs with
  | error e => exact .inr ⟨rfl, e, rfl⟩
  | ok parsed =>
    obtain ⟨name, value, flags⟩ := parsed
    unfold sigNotationStore
    by_cases named : (isNone name || isStr name) = true
    · by_cases typed : (if humanReadable flags then isStr value else isBytes value) = true
      · obtain ⟨n, same⟩ := exists_of named typed
        refine .inl ⟨by simp [named, typed], n, ?_⟩
        rw [same]
        cases readable : humanReadable flags <;> simp_all
      · refine .inr ⟨by simp [named, typed], ?_⟩
        cases readable : humanReadable flags <;> simp_all
    · exact .inr ⟨by simp [named], _, if_pos named⟩

/-- What was made of an attempt to make a notation. -/
def outcome (self : NotationObject) : Except PyExc SigNotation → Option PyExc × NotationObject
  | .ok n => (none, .of n)
  | .error e => (some e, self)

theorem sigNotationStore_refines (name value : PyObject) (flags : BitVec 32)
    (self : NotationObject) :
    sigNotationStore name value flags self =
      outcome self (SignLists.sigNotationOf name value flags) := by
  unfold sigNotationStore SignLists.sigNotationOf
  cases parsed : notationNameArg name with
  | error e =>
    have refused : (isNone name || isStr name) = false ∧
        e = excString .typeError "name must be a str or None" := by
      cases name <;> cases parsed <;> exact ⟨rfl, rfl⟩
    rw [refused.1, refused.2]
    rfl
  | ok text =>
    have named : (isNone name || isStr name) = true ∧ nameObject text = name := by
      cases name <;> cases parsed <;> exact ⟨rfl, rfl⟩
    obtain ⟨named, rfl⟩ := named
    simp only [named, not_true_eq_false, if_false]
    by_cases readable : humanReadable flags = true
    · cases value <;> simp [readable, isStr] <;> rfl
    · cases value <;> simp [readable, isBytes] <;> rfl

/-- Without keywords, `__init__` stores the notation that its arguments stand for. -/
theorem sigNotationInit_refines (args : List PyObject) (self : NotationObject) :
    sigNotationInit args [] self = outcome self (SignLists.sigNotationInit args) := by
  unfold sigNotationInit
  rcases args with _ | ⟨name, _ | ⟨value, _ | ⟨flags, _ | ⟨fourth, rest⟩⟩⟩⟩
  · rfl
  · rfl
  · exact sigNotationStore_refines name value 1 self
  · have parsed : sigNotationArgs [name, value, flags] [] =
        (argUInt flags).map fun flags => (name, value, flags) := by
      change (do return (name, value, ← argUInt flags)) = _
      cases argUInt flags <;> rfl
    have constructed : SignLists.sigNotationInit [name, value, flags] =
        (argUInt flags).bind (SignLists.sigNotationOf name value) := rfl
    rw [parsed, constructed]
    cases argUInt flags with
    | error e => rfl
    | ok flags => exact sigNotationStore_refines name value flags self
  · have extra : extraneous (name :: value :: flags :: fourth :: rest) [] = true := by
      simp [extraneous]
    have refused : sigNotationArgs (name :: value :: flags :: fourth :: rest) [] = wrongCount :=
      if_pos extra
    rw [refused]
    rfl

end Pygpgme.Source.NotationObjects
