import Pygpgme.Source.Error

/-!
# Python file objects as gpgme data objects

lib/pygpgme-data.c: the stream callbacks between gpgme and the `read`, `write`,
`seek` and `tell` methods of a file object. What a method does when it is called
is a parameter of the callback.
-/

set_option autoImplicit false

namespace Pygpgme.Source.Data
open Pygpgme.Library.BitField Pygpgme.Library.Program
open Pygpgme.Source.Python Pygpgme.Source.Error

def EINVAL : Int := 22

/-- A C `int` from a `long`. -/
def intOf (n : Int) : Int := (narrow 32 n).toInt

/-- `set_errno`, called when an exception is set. It gives up the exception last, with
its traceback: `destructors` is what the code that runs then makes of `errno`. -/
def setErrnoFromExc (destructors : Int → Int) : Py Unit := do
  match ← fetch with
  | none => crash
  | some e =>
    let number ←
      if e.cls.isOSError then
        match (e.getAttr "errno").bind PyObject.long? with
        | some n => pure (intOf (← longOf n))
        | none => do
          clear
          pure EINVAL
      else pure EINVAL
    setErrno (destructors number)

/-- `read_cb`: the count it returns and the bytes it copied into the buffer of
`size` bytes. The size is passed on as a `long`. -/
def readCb (size : BitVec 64) (read : Int → Except PyExc PyObject)
    (handled : Option (Except PyExc PyObject)) (destructors : Int → Int) : Py (Int × Bytes) := do
  match ← callUser (read size.toInt) handled with
  | none =>
    setErrnoFromExc destructors
    return (-1, [])
  | some (.bytes data) =>
    let resultSize := if data.length > size.toNat then size.toNat else data.length
    return (resultSize, data.take resultSize)
  | some _ =>
    setErrno EINVAL
    return (-1, [])

/-- `PyBytes_FromStringAndSize` refuses a size that is negative as a `ssize_t`. -/
def bytesFromBuffer (buffer : Bytes) : Py (Option PyObject) :=
  if FitsLong buffer.length then pure (some (.bytes buffer))
  else do
    raise .systemError
    return none

/-- `write_cb`; what `write` returned is not looked at. -/
def writeCb (buffer : Bytes) (write : PyObject → Except PyExc PyObject)
    (handled : Option (Except PyExc PyObject)) (destructors : Int → Int) : Py Int := do
  match ← bytesFromBuffer buffer with
  | none =>
    setErrnoFromExc id
    return -1
  | some pyBuffer =>
    match ← callUser (write pyBuffer) handled with
    | none =>
      setErrnoFromExc destructors
      return -1
    | some _ => return buffer.length

/-- `seek_cb`: the new position, asked for with `tell`. -/
def seekCb (offset whence : Int) (seek : Int → Int → Except PyExc PyObject)
    (tell : Except PyExc PyObject) (handled : Option (Except PyExc PyObject))
    (destructors : Int → Int) : Py Int := do
  match ← callUser (seek offset whence) handled with
  | none =>
    setErrnoFromExc destructors
    return -1
  | some _ =>
    match ← callUser tell none with
    | none =>
      setErrnoFromExc destructors
      return -1
    | some result =>
      match result.long? with
      | none =>
        setErrno EINVAL
        return -1
      | some n => longOf n

/-- `pygpgme_data_new`: whether it failed. `ret` is what `gpgme_data_new_from_cbs`
returns. -/
def dataNew (state : ModState) (ret : GpgError) (fp : PyObject) : Py Bool :=
  match fp with
  | .none => pure false
  | _ => checkError state ret

/-! ## What each of them achieves -/

/-- The number that `set_errno` finds in an exception. -/
def errnoAttr (e : PyExc) : Option Int :=
  if e.cls.isOSError then (e.getAttr "errno").bind PyObject.long? else none

def errnoValue (e : PyExc) : Int :=
  match errnoAttr e with
  | some n => intOf (longValue n)
  | none => EINVAL

/-- `set_errno` leaves an `OverflowError` of its own behind. -/
def errnoOverflows (e : PyExc) : Bool :=
  match errnoAttr e with
  | some n => decide ¬ FitsLong n
  | none => false

def overflowError : PyExc := ⟨.overflowError, [], []⟩

variable (s : Interp)

@[simp] theorem achieves_setErrnoFromExc (destructors : Int → Int) (Q : Unit → Interp → Prop) :
    achieves (setErrnoFromExc destructors) s Q ↔
      match s.pending with
      | none => False
      | some e => Q () { s with
          pending := if errnoOverflows e then some overflowError else none
          errno := destructors (errnoValue e) } := by
  unfold setErrnoFromExc
  rw [achieves_bind, achieves_fetch]
  cases s.pending with
  | none => simp
  | some e =>
    unfold errnoOverflows errnoValue errnoAttr
    cases ofOSError : e.cls.isOSError with
    | false => simp [ofOSError]
    | true =>
      cases number : (e.getAttr "errno").bind PyObject.long? with
      | none => simp [ofOSError, number]
      | some n =>
        by_cases fits : FitsLong n
        · simp [ofOSError, number, fits, longValue]
        · simp [ofOSError, number, fits, longValue, overflowError]

section
variable (handled : Option (Except PyExc PyObject)) (destructors : Int → Int)

theorem achieves_readCb (size : BitVec 64) (read : Int → Except PyExc PyObject)
    (Q : Int × Bytes → Interp → Prop) :
    achieves (readCb size read handled destructors) s Q ↔
      match ending s.pending.isSome (read size.toInt) handled with
      | .ok (.bytes data) =>
        Q ((min data.length size.toNat : Nat), data.take size.toNat) { s with pending := none }
      | .ok _ => Q (-1, []) { s with pending := none, errno := EINVAL }
      | .error e => Q (-1, []) { s with
          pending := if errnoOverflows e then some overflowError else none
          errno := destructors (errnoValue e) } := by
  unfold readCb
  rw [achieves_bind, achieves_callUser]
  cases ending s.pending.isSome (read size.toInt) handled with
  | error e => simp
  | ok result =>
    cases result with
    | bytes data =>
      by_cases larger : data.length > size.toNat
      · simp [larger, Nat.min_eq_right (Nat.le_of_lt larger)]
      · have fits : data.length ≤ size.toNat := by omega
        simp [larger, Nat.min_eq_left fits, List.take_of_length_le fits]
    | _ => simp

theorem achieves_writeCb (buffer : Bytes) (write : PyObject → Except PyExc PyObject)
    (Q : Int → Interp → Prop) :
    achieves (writeCb buffer write handled destructors) s Q ↔
      if FitsLong buffer.length then
        match ending s.pending.isSome (write (.bytes buffer)) handled with
        | .ok _ => Q buffer.length { s with pending := none }
        | .error e => Q (-1) { s with
            pending := if errnoOverflows e then some overflowError else none
            errno := destructors (errnoValue e) }
      else Q (-1) { s with pending := none, errno := EINVAL } := by
  unfold writeCb bytesFromBuffer
  by_cases fits : FitsLong buffer.length
  · simp only [fits, if_true, achieves_bind, achieves_pure, achieves_callUser]
    cases ending s.pending.isSome (write (.bytes buffer)) handled <;> simp
  · simp [fits, errnoOverflows, errnoValue, errnoAttr, ExcClass.isOSError]

theorem achieves_seekCb (offset whence : Int) (seek : Int → Int → Except PyExc PyObject)
    (tell : Except PyExc PyObject) (Q : Int → Interp → Prop) :
    achieves (seekCb offset whence seek tell handled destructors) s Q ↔
      match ending s.pending.isSome (seek offset whence) handled, tell with
      | .error e, _ | .ok _, .error e => Q (-1) { s with
          pending := if errnoOverflows e then some overflowError else none
          errno := destructors (errnoValue e) }
      | .ok _, .ok result =>
        match result.long? with
        | none => Q (-1) { s with pending := none, errno := EINVAL }
        | some n => Q (longValue n) { s with
            pending := if FitsLong n then none else some overflowError } := by
  unfold seekCb
  rw [achieves_bind, achieves_callUser]
  cases ending s.pending.isSome (seek offset whence) handled with
  | error e => simp
  | ok position =>
    simp only [achieves_bind, achieves_callUser, Option.isSome_none, ending_quiet]
    cases tell with
    | error e => simp
    | ok result =>
      cases number : result.long? with
      | none => simp [number]
      | some n =>
        by_cases fits : FitsLong n
        · simp [number, fits, longValue]
        · simp [number, fits, longValue, overflowError]

end

end Pygpgme.Source.Data
