import Pygpgme.Source.Arguments

/-!
# Attribute setters of a Context

lib/pygpgme-context.c:163-716. A setter gets the new value, or NULL when the
attribute is deleted, and returns 0 or -1. What gpgme returns is a parameter.
-/

set_option autoImplicit false

namespace Pygpgme.Source.Setters
open Pygpgme.Library.BitField Pygpgme.Library.Program Pygpgme.Source.Threads
open Pygpgme.Source.Python Pygpgme.Source.Error Pygpgme.Source.Data Pygpgme.Source.Arguments

variable (state : ModState)

def canNotDelete : Py Int := do
  setString .attributeError "Can not delete attribute"
  return -1

/-- The shape of the setters with an integer value; `ret` is NULL for a gpgme
function that returns nothing. -/
def setInteger (fn : GpgmeFn) (convert : Int → Int) (ret : Option GpgError) :
    Option PyObject → Py Int
  | none => canNotDelete
  | some value => do
    let converted := convert (← asLong value)
    if ← occurred then return -1
    else
      gpgme fn [.int converted]
      match ret with
      | none => return 0
      | some err => if ← checkError state err then return -1 else return 0

/-- A C enumeration or `unsigned int` from a `long`. -/
def unsignedOf (n : Int) : Int := (narrow 32 n).toNat

def boolOf (n : Int) : Int := if n ≠ 0 then 1 else 0

def contextSetProtocol (ret : GpgError) : Option PyObject → Py Int :=
  setInteger state .setProtocol unsignedOf (some ret)

def contextSetArmor : Option PyObject → Py Int := setInteger state .setArmor boolOf none

def contextSetTextmode : Option PyObject → Py Int := setInteger state .setTextmode boolOf none

def contextSetOffline : Option PyObject → Py Int := setInteger state .setOffline boolOf none

def contextSetIncludeCerts : Option PyObject → Py Int :=
  setInteger state .setIncludeCerts intOf none

def contextSetKeylistMode (ret : GpgError) : Option PyObject → Py Int :=
  setInteger state .setKeylistMode unsignedOf (some ret)

def contextSetPinentryMode (ret : GpgError) : Option PyObject → Py Int :=
  setInteger state .setPinentryMode unsignedOf (some ret)

/-- The shape of the two callback setters: `None` and deletion unset it. -/
def setCallback (fn : GpgmeFn) : Option PyObject → Py Int
  | none | some .none => do
    gpgme fn [.callback false]
    return 0
  | some _ => do
    gpgme fn [.callback true]
    return 0

def contextSetPassphraseCb : Option PyObject → Py Int := setCallback .setPassphraseCb

def contextSetProgressCb : Option PyObject → Py Int := setCallback .setProgressCb

def addSigners : List PyObject → Py Int
  | [] => return 0
  | .key handle :: rest => do
    gpgme .signersAdd [.key handle]
    addSigners rest
  | _ :: _ => do
    setString .typeError "signers must be a sequence of keys"
    return -1

def contextSetSigners : Option PyObject → Py Int
  | none => canNotDelete
  | some value => do
    match ← convert (sequenceFast value "signers must be a sequence of keys") with
    | none => return -1
    | some signers =>
      gpgme .signersClear []
      addSigners (visited signers)

/-- `item->name` as a C string; `None` is NULL. -/
def notationName : Option (List CodePoint) → Py (Option Bytes)
  | none => return none
  | some text => attempt (encodeUtf8 text)

/-- `item->value` as a C string, converted by the flags. -/
def notationValue (flags : BitVec 32) : SigValue → Except PyExc Bytes
  | .text text =>
    if humanReadable flags then encodeUtf8 text else .error ⟨.typeError, [], []⟩
  | .data data =>
    if humanReadable flags then .error ⟨.typeError, [], []⟩ else .ok data

/-- The loop of `pygpgme_context_set_sig_notations`; `rets` is what gpgme returns
for each item. -/
def addNotations (rets : Nat → GpgError) (i : Nat) : List PyObject → Py Int
  | [] => return 0
  | .sigNotation none :: _ => crash
  | .sigNotation (some item) :: rest => do
    let name ← notationName item.name
    let value ← attempt (notationValue item.flags item.value)
    gpgme .sigNotationAdd
      [.string (name.map cString), .string (value.map cString), .int item.flags.toNat]
    if ← checkError state (rets i) then return -1 else addNotations rets (i + 1) rest
  | _ :: _ => do
    setString .typeError "sig_notations items must be gpgme.SigNotation objects"
    return -1

def contextSetSigNotations (rets : Nat → GpgError) : Option PyObject → Py Int
  | none => canNotDelete
  | some value => do
    match ← convert (sequenceFast value "notations must be a sequence of tuples") with
    | none => return -1
    | some notations =>
      gpgme .sigNotationClear []
      addNotations state rets 0 (visited notations)

/-- The end of `pygpgme_context_set_sender`. -/
def setSenderAddress (ret : GpgError) (address : Option Bytes) : Py Int := do
  gpgme .setSender [.string (address.map cString)]
  if ← checkError state ret then return -1 else return 0

def contextSetSender (ret : GpgError) : Option PyObject → Py Int
  | none => canNotDelete
  | some .none => setSenderAddress state ret none
  | some (.str text) => do setSenderAddress state ret (← attempt (encodeUtf8 text))
  | some _ => do
    setString .typeError "sender must be a string or None"
    return -1

/-! ## The table of setters -/

/-- A setter, with what gpgme returns to it. -/
inductive Setter where
  | protocol (ret : GpgError)
  | armor | textmode | offline | includeCerts
  | keylistMode (ret : GpgError)
  | pinentryMode (ret : GpgError)
  | passphraseCb | progressCb | signers
  | sigNotations (rets : Nat → GpgError)
  | sender (ret : GpgError)

/-- `pygpgme_context_getsets` -/
def Setter.set (value : Option PyObject) : Setter → Py Int
  | .protocol ret => contextSetProtocol state ret value
  | .armor => contextSetArmor state value
  | .textmode => contextSetTextmode state value
  | .offline => contextSetOffline state value
  | .includeCerts => contextSetIncludeCerts state value
  | .keylistMode ret => contextSetKeylistMode state ret value
  | .pinentryMode ret => contextSetPinentryMode state ret value
  | .passphraseCb => contextSetPassphraseCb value
  | .progressCb => contextSetProgressCb value
  | .signers => contextSetSigners value
  | .sigNotations rets => contextSetSigNotations state rets value
  | .sender ret => contextSetSender state ret value

/-! ## What an integer setter achieves -/

theorem achieves_setInteger {value : PyObject} {v : Int} (isInt : value.long? = some v)
    (fn : GpgmeFn) (convert : Int → Int) (ret : Option GpgError) {s : Interp}
    (quiet : s.pending = none) (Q : Int → Interp → Prop) :
    achieves (setInteger state fn convert ret (some value)) s Q ↔
      if FitsLong v then
        if ret.getD noError = noError then
          Q 0 { s with entered := ⟨fn, [.int (convert v)], false⟩ :: s.entered }
        else Q (-1) { s with
          pending := some (errorExc state (ret.getD noError))
          entered := ⟨fn, [.int (convert v)], false⟩ :: s.entered }
      else Q (-1) { s with pending := some overflowError } := by
  have index : value.index = .ok v := by
    cases value <;> cases isInt <;> rfl
  unfold setInteger asLong
  by_cases fits : FitsLong v
  · cases ret with
    | none => simp [index, fits, quiet]
    | some err => by_cases success : err = noError <;> simp [index, fits, quiet, success]
  · simp [index, fits, overflowError]

end Pygpgme.Source.Setters
