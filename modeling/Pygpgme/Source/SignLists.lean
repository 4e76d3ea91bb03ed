import Pygpgme.Library.ListLog
import Pygpgme.Source.Results
import Pygpgme.Source.Setters

/-!
# The signers and notations of a context

lib/pygpgme-context.c:527-560, 603-616 and lib/pygpgme-signature.c:267-303. gpgme
keeps both lists: they are replayed from the calls a setter made. It copies the C
strings of a notation; a missing value has length 0.
-/

set_option autoImplicit false

namespace Pygpgme.Source.SignLists
open Pygpgme.Library.BitField Pygpgme.Library.ListLog Pygpgme.Source.Python Pygpgme.Source.Error
open Pygpgme.Source.Arguments Pygpgme.Source.Results

/-! ## What gpgme keeps -/

def signerCall : Entry → Option (Call Nat)
  | ⟨.signersClear, [], _⟩ => some .clear
  | ⟨.signersAdd, [.key handle], _⟩ => some (.add handle)
  | _ => none

def notationCall : Entry → Option (Call RawNotation)
  | ⟨.sigNotationClear, [], _⟩ => some .clear
  | ⟨.sigNotationAdd, [.string name, .string value, .int flags], _⟩ =>
    some (.add ⟨name, value.getD [], BitVec.ofInt 32 flags⟩)
  | _ => none

/-- The list after the functions entered, from the one before; `rets` is what gpgme
returns for each addition. -/
def listAfter {α : Type} (call : Entry → Option (Call α)) (rets : Nat → GpgError)
    (before : List α) (entered : List Entry) : List α :=
  (replay (fun i => rets i = noError) call ⟨before, 0⟩ entered).items

/-! ## Getters -/

variable (m : Module)

/-- `PySequence_Tuple` -/
def sequenceTuple : PyObject → Except Stop PyObject := fun o => do
  return .tuple (← o.items)

def contextGetSigners (signers : List Nat) : Except Stop PyObject :=
  sequenceTuple (.list (signers.map PyObject.key))

def contextGetSigNotations (notations : List RawNotation) : Except Stop PyObject :=
  sequenceTuple (sigNotationListNew m notations)

/-! ## The constructor of a notation -/

def notationNameArg : PyObject → Except PyExc (Option (List CodePoint))
  | .none => .ok none
  | .str text => .ok (some text)
  | _ => .error (excString .typeError "name must be a str or None")

/-- `pygpgme_sig_notation_init` after its arguments were taken apart. -/
def sigNotationOf (name value : PyObject) (flags : BitVec 32) : Except PyExc SigNotation := do
  let name ← notationNameArg name
  if readable : humanReadable flags = true then
    match value with
    | .str text => return ⟨name, .text text, flags, iff_of_true readable ⟨text, rfl⟩⟩
    | _ => .error (excString .typeError "value must be a str for human readable notations")
  else
    match value with
    | .bytes data => return ⟨name, .data data, flags, iff_of_false readable (by simp)⟩
    | _ => .error (excString .typeError "value must be bytes for non-human readable notations")

/-- `OO|I`; a notation is human readable by default. -/
def sigNotationInit : List PyObject → Except PyExc SigNotation
  | [name, value] => sigNotationOf name value 1
  | [name, value, flags] => do sigNotationOf name value (← argUInt flags)
  | _ => wrongCount

theorem notationNameArg_object (name : Option (List CodePoint)) :
    notationNameArg (nameObject name) = .ok name := by
  cases name <;> rfl

theorem narrow_toNat (flags : BitVec 32) : narrow 32 (flags.toNat : Int) = flags := by
  simp [narrow]

/-- Every notation is what the constructor makes of its own attributes. -/
theorem sigNotationInit_self (item : SigNotation) :
    sigNotationInit [nameObject item.name, valueObject item.value, .int item.flags.toNat] =
      .ok item := by
  obtain ⟨name, value, flags, typed⟩ := item
  have parsed : argUInt (.int flags.toNat) = .ok flags := congrArg _ (narrow_toNat flags)
  change (do sigNotationOf _ _ (← argUInt (.int flags.toNat))) = _
  rw [parsed]
  change sigNotationOf (nameObject name) (valueObject value) flags = _
  rw [sigNotationOf, notationNameArg_object]
  cases value with
  | text text =>
    have readable : humanReadable flags = true := typed.mpr ⟨text, rfl⟩
    simp [valueObject, readable]
  | data data =>
    have binary : humanReadable flags = false := by simpa using typed
    simp [valueObject, binary]

end Pygpgme.Source.SignLists
