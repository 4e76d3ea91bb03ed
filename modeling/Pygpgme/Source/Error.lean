import Pygpgme.Source.Python

/-!
# gpgme error values and Python exceptions

lib/pygpgme-error.c, `pygpgme_enum_value_new` of lib/pygpgme-constants.c, and the
two callbacks that pass a Python exception on to gpgme. What libgpg-error does
comes first.
-/

set_option autoImplicit false

namespace Pygpgme.Source.Error
open Pygpgme.Library.BitField Pygpgme.Library.Program Pygpgme.Source.Python

/-! ## libgpg-error -/

/-- `gpgme_error_t`: the source in bits 24 to 30, the code in bits 0 to 15. -/
abbrev GpgError := BitVec 32

def errSource (err : GpgError) : BitVec 32 := (err >>> 24) &&& 0x7f

def errCode (err : GpgError) : BitVec 32 := err &&& 0xffff

/-- `gpgme_err_make` -/
def errMake (source code : BitVec 32) : GpgError :=
  if code = 0 then 0 else ((source &&& 0x7f) <<< 24) ||| (code &&& 0xffff)

def noError : GpgError := 0

def generalCode : BitVec 32 := 1
def eofCode : BitVec 32 := 16383
def gpgmeSource : BitVec 32 := 7

/-- `GPGME_ERR_SOURCE_DEFAULT`, which is `GPG_ERR_SOURCE_USER_1` -/
def defaultSource : BitVec 32 := 32

/-- `gpgme_error` -/
def gpgmeError (code : BitVec 32) : GpgError := errMake defaultSource code

theorem toNat_errSource (err : GpgError) :
    (errSource err).toNat = err.toNat / 2 ^ 24 % 2 ^ 7 :=
  toNat_shift_and_mask err _ 24 rfl

theorem toNat_errCode (err : GpgError) : (errCode err).toNat = err.toNat % 2 ^ 16 :=
  toNat_and_mask err _ rfl

theorem toNat_errMake (source : BitVec 32) {code : BitVec 32} (nonzero : code ≠ 0) :
    (errMake source code).toNat =
      source.toNat % 2 ^ 7 * 2 ^ 24 + code.toNat % 2 ^ 16 := by
  have high : (source &&& 0x7f).toNat = source.toNat % 2 ^ 7 := toNat_and_mask source _ rfl
  have low : (code &&& 0xffff).toNat = code.toNat % 2 ^ 16 := toNat_and_mask code _ rfl
  rw [errMake, if_neg nonzero, toNat_join, high, low]
  · rw [low]
    omega
  · rw [high]
    omega

/-- The code field survives, also when it is empty. -/
theorem toNat_errCode_errMake (source code : BitVec 32) :
    (errCode (errMake source code)).toNat = code.toNat % 2 ^ 16 := by
  rw [toNat_errCode]
  by_cases zero : code = 0
  · simp [zero, errMake]
  · rw [toNat_errMake source zero]
    omega

/-- `gpgme_err_code_from_errno`, as far as the binding relies on it. -/
structure ErrnoCodes where
  code : BitVec 32 → GpgError
  zero : code 0 = noError
  nonzero : ∀ n, n ≠ 0 → errCode (code n) ≠ 0

/-! ## The module state these functions read -/

structure ModState where
  errSourceType : IntEnum
  errCodeType : IntEnum
  /-- What `gpgme_strerror_r` says, decoded. -/
  strerror : GpgError → List CodePoint
  errnoCodes : ErrnoCodes

variable (state : ModState)

/-- `pygpgme_enum_value_new` -/
def enumValueNew (enum : IntEnum) (value : Int) : Py (Option PyObject) := do
  match ← enum.call value with
  | some result => return some result
  | none =>
    match (← get).pending with
    | some e =>
      if e.cls.isValueError then
        clear
        return some (.int value)
      else return none
    | none => return none

/-- The exception built from an error value. -/
def errorExc (err : GpgError) : PyExc :=
  let source := state.errSourceType.value (errSource err).toNat
  let code := state.errCodeType.value (errCode err).toNat
  let strerror := PyObject.str (state.strerror err)
  ⟨.gpgmeError, [source, code, strerror],
    [("strerror", strerror), ("code", code), ("source", source)]⟩

/-- `pygpgme_error_object` -/
def errorObject (err : GpgError) : Py (Option PyObject) := do
  if err = noError then return some .none
  else
    match ← enumValueNew state.errSourceType (errSource err).toNat with
    | none => return none
    | some source =>
      match ← enumValueNew state.errCodeType (errCode err).toNat with
      | none => return none
      | some code =>
        let strerror := PyObject.str (state.strerror err)
        return some (.exc .gpgmeError [source, code, strerror]
          [("strerror", strerror), ("code", code), ("source", source)])

/-- `PyErr_SetObject(state->pygpgme_error, exc)` -/
def setObject : PyObject → Py Unit
  | .exc cls args attrs => setPending (some ⟨cls, args, attrs⟩)
  | _ => pure ()

/-- `pygpgme_check_error`: whether `err` is a failure, which is then raised. -/
def checkError (err : GpgError) : Py Bool := do
  if err = noError then return false
  else
    match ← errorObject state err with
    | none => return true
    | some exc =>
      setObject exc
      return true

/-- The arguments are narrowed from `long` to `int` on the way. -/
def errMakeLong (source code : Int) : GpgError := errMake (narrow 32 source) (narrow 32 code)

/-- What `pygpgme_check_pyerror` makes of the exception it fetched. -/
def pyerrorValue (e : PyExc) : Py GpgError :=
  let general := gpgmeError generalCode
  match e.args with
  | [] => pure general
  | source :: rest =>
    if e.cls.isGpgmeError then
      match rest with
      | [] => pure general
      | code :: _ =>
        match source.long?, code.long? with
        | some source, some code => do return errMakeLong (← longOf source) (← longOf code)
        | _, _ => pure general
    else if e.cls.isOSError then
      match source.long? with
      | some source => do return state.errnoCodes.code (narrow 32 (← longOf source))
      | none => pure general
    else pure general

/-- `pygpgme_check_pyerror` -/
def checkPyerror : Py GpgError := do
  match ← fetch with
  | none => return noError
  | some e =>
    let err ← pyerrorValue state e
    clear
    return err

/-- `pygpgme_passphrase_cb`, after the call ended with `outcome`: what the user's callable
ends with, or a `UnicodeDecodeError` for a hint that is not UTF-8. -/
def passphraseCb (outcome : Except PyExc PyObject) : Py GpgError := do
  let _ ← callUser outcome none
  checkPyerror state

/-- `pygpgme_edit_cb`. The status is converted before the call and given up after
it; a conversion that failed leaves nothing to give up. -/
def editCb (statusType : IntEnum) (status : Int) (outcome : Except PyExc PyObject) :
    Py GpgError := do
  match ← enumValueNew statusType status with
  | none => crash
  | some _ =>
    let _ ← callUser outcome none
    checkPyerror state

/-! ## What each of them achieves -/

section
variable (s : Interp)

@[simp] theorem achieves_enumValueNew (enum : IntEnum) (value : Int)
    (Q : Option PyObject → Interp → Prop) :
    achieves (enumValueNew enum value) s Q ↔
      if s.pending.isSome = true then Q none { s with pending := some ⟨.systemError, [], []⟩ }
      else Q (some (enum.value value)) s := by
  cases pending : s.pending with
  | some e => simp [enumValueNew, IntEnum.call, pending, ExcClass.isValueError]
  | none =>
    by_cases member : value ∈ enum.members
    · simp [enumValueNew, IntEnum.call, member, pending, IntEnum.value]
    · have same : { s with pending := none } = s := by rw [← pending]
      simp [enumValueNew, IntEnum.call, member, pending, IntEnum.value, ExcClass.isValueError,
        same]

@[simp] theorem achieves_errorObject (err : GpgError) (Q : Option PyObject → Interp → Prop) :
    achieves (errorObject state err) s Q ↔
      if err = noError then Q (some .none) s
      else if s.pending.isSome = true then
        Q none { s with pending := some ⟨.systemError, [], []⟩ }
      else Q (some (errorExc state err).toObject) s := by
  by_cases quiet : err = noError
  · simp [errorObject, quiet]
  · simp only [errorObject, achieves_bind, if_neg quiet, achieves_enumValueNew]
    cases pending : s.pending with
    | some e => simp
    | none => simp [errorExc, PyExc.toObject]

@[simp] theorem achieves_checkError (err : GpgError) (Q : Bool → Interp → Prop) :
    achieves (checkError state err) s Q ↔
      if err = noError then Q false s
      else if s.pending.isSome = true then
        Q true { s with pending := some ⟨.systemError, [], []⟩ }
      else Q true { s with pending := some (errorExc state err) } := by
  by_cases quiet : err = noError
  · simp [checkError, quiet]
  · simp only [checkError, if_neg quiet, achieves_bind, achieves_errorObject]
    split
    · simp
    · simp [PyExc.toObject, setObject]

end

/-- The number that a conversion to `long` gives. -/
def longValue (n : Int) : Int := if FitsLong n then n else -1

/-- The value `pyerrorValue` returns, whatever else it leaves behind. -/
def pyerrorCode (e : PyExc) : GpgError :=
  match e.args with
  | [] => gpgmeError generalCode
  | source :: rest =>
    if e.cls.isGpgmeError then
      match rest with
      | [] => gpgmeError generalCode
      | code :: _ =>
        match source.long?, code.long? with
        | some source, some code => errMakeLong (longValue source) (longValue code)
        | _, _ => gpgmeError generalCode
    else if e.cls.isOSError then
      match source.long? with
      | some source => state.errnoCodes.code (narrow 32 (longValue source))
      | none => gpgmeError generalCode
    else gpgmeError generalCode

/-- A conversion that does not fit leaves an `OverflowError` behind, which is
cleared at the end. -/
theorem achieves_longOf_then_clear (n : Int) (s : Interp) (Q : Int → Interp → Prop) :
    achieves (longOf n) s (fun a s' => Q a { s' with pending := none }) ↔
      Q (longValue n) { s with pending := none } := by
  rw [achieves_longOf, longValue]
  split <;> rfl

theorem achieves_pyerrorValue_then_clear (e : PyExc) (s : Interp)
    (Q : GpgError → Interp → Prop) :
    achieves (pyerrorValue state e) s (fun err s' => Q err { s' with pending := none }) ↔
      Q (pyerrorCode state e) { s with pending := none } := by
  unfold pyerrorValue pyerrorCode
  cases e.args with
  | nil => simp
  | cons source rest =>
    cases ofGpgmeError : e.cls.isGpgmeError with
    | true =>
      cases rest with
      | nil => simp
      | cons code others =>
        cases sourceLong : source.long? with
        | none => simp [sourceLong]
        | some a =>
          cases codeLong : code.long? with
          | none => simp [sourceLong, codeLong]
          | some b =>
            simp only [sourceLong, codeLong, if_true, achieves_bind, achieves_pure]
            have second := fun s' x =>
              achieves_longOf_then_clear b s' fun y => Q (errMakeLong x y)
            simp only [second]
            exact achieves_longOf_then_clear a s fun x => Q (errMakeLong x (longValue b))
    | false =>
      cases ofOSError : e.cls.isOSError with
      | false => simp
      | true =>
        cases sourceLong : source.long? with
        | none => simp [sourceLong]
        | some a =>
          simp only [sourceLong, if_true, Bool.false_eq_true, if_false, achieves_bind,
            achieves_pure]
          exact achieves_longOf_then_clear a s fun x => Q (state.errnoCodes.code (narrow 32 x))

@[simp] theorem achieves_checkPyerror (s : Interp) (Q : GpgError → Interp → Prop) :
    achieves (checkPyerror state) s Q ↔
      Q (match s.pending with
        | none => noError
        | some e => pyerrorCode state e) { s with pending := none } := by
  unfold checkPyerror
  rw [achieves_bind, achieves_fetch]
  cases s.pending with
  | none => simp
  | some e =>
    simp only [achieves_bind, achieves_clear, achieves_pure]
    exact achieves_pyerrorValue_then_clear state e _ Q

end Pygpgme.Source.Error
