import Pygpgme.Library.RequestReply
import Pygpgme.Source.Data

/-!
# gpgme data objects on an io.BytesIO

lib/pygpgme-data.c: what gpgme asks of a data object goes through `read_cb`, `write_cb`
and `seek_cb` to the methods of the file object. `io.BytesIO` is the one that the tests
and the documentation of the module use; its methods are as in the Python documentation.
-/

set_option autoImplicit false

namespace Pygpgme.Source.FileObjects
open Pygpgme.Library.Program
open Pygpgme.Source.Python Pygpgme.Source.Data

/-- `PY_SSIZE_T_MAX` -/
def ssizeMax : Nat := 2 ^ 63 - 1

/-- The buffer and the position are of a size Python can count. -/
structure BytesIO where
  buffer : Bytes
  pos : Nat
  bufferFits : buffer.length ≤ ssizeMax
  posFits : pos ≤ ssizeMax

namespace BytesIO

/-- `io.BytesIO()` -/
def new : BytesIO := ⟨[], 0, Nat.zero_le _, Nat.zero_le _⟩

/-- A negative size asks for everything. -/
def rest (f : BytesIO) (size : Int) : Bytes :=
  if size < 0 then f.buffer.drop f.pos else (f.buffer.drop f.pos).take size.toNat

theorem rest_fits (f : BytesIO) (size : Int) : f.pos + (f.rest size).length ≤ ssizeMax := by
  have buffer := f.bufferFits
  have pos := f.posFits
  unfold rest
  split
  · rw [List.length_drop]
    omega
  · rw [List.length_take, List.length_drop]
    omega

def read (f : BytesIO) (size : Int) : Except PyExc PyObject × BytesIO :=
  (.ok (.bytes (f.rest size)), { f with
    pos := f.pos + (f.rest size).length
    posFits := f.rest_fits size })

/-- What is between the end and the position is filled with zeros. -/
def written (f : BytesIO) (data : Bytes) : Bytes :=
  f.buffer.take f.pos ++ List.replicate (f.pos - f.buffer.length) 0 ++ data ++
    f.buffer.drop (f.pos + data.length)

theorem written_fits (f : BytesIO) {data : Bytes} (fits : f.pos + data.length ≤ ssizeMax) :
    (f.written data).length ≤ ssizeMax := by
  have buffer := f.bufferFits
  simp only [written, List.length_append, List.length_take, List.length_replicate,
    List.length_drop]
  omega

def write (f : BytesIO) : PyObject → Except PyExc PyObject × BytesIO
  | .bytes [] => (.ok (.int 0), f)
  | .bytes data =>
    if fits : f.pos + data.length ≤ ssizeMax then
      (.ok (.int data.length), ⟨f.written data, f.pos + data.length, f.written_fits fits, fits⟩)
    else (.error (excString .overflowError "new buffer size too large"), f)
  | _ => (.error ⟨.typeError, [], []⟩, f)

theorem write_cons (f : BytesIO) {b : UInt8} {bs : Bytes}
    (fits : f.pos + (b :: bs).length ≤ ssizeMax) :
    f.write (.bytes (b :: bs)) = (.ok (.int (b :: bs).length),
      ⟨f.written (b :: bs), f.pos + (b :: bs).length, f.written_fits fits, fits⟩) :=
  dif_pos fits

theorem write_over (f : BytesIO) {b : UInt8} {bs : Bytes}
    (outside : ¬ f.pos + (b :: bs).length ≤ ssizeMax) :
    f.write (.bytes (b :: bs)) =
      (.error (excString .overflowError "new buffer size too large"), f) :=
  dif_neg outside

/-- A relative position before the start is the start. -/
def moveTo (f : BytesIO) (pos : Int) : Except PyExc PyObject × BytesIO :=
  if fits : pos ≤ ssizeMax then
    (.ok (.int pos.toNat), { f with
      pos := pos.toNat
      posFits := Int.toNat_le.mpr fits })
  else (.error (excString .overflowError "new position too large"), f)

theorem moveTo_fits (f : BytesIO) {pos : Int} (fits : pos ≤ ssizeMax) :
    f.moveTo pos = (.ok (.int pos.toNat), { f with
      pos := pos.toNat
      posFits := Int.toNat_le.mpr fits }) :=
  dif_pos fits

theorem moveTo_over (f : BytesIO) {pos : Int} (outside : ¬ pos ≤ ssizeMax) :
    f.moveTo pos = (.error (excString .overflowError "new position too large"), f) :=
  dif_neg outside

def seek (f : BytesIO) (pos whence : Int) : Except PyExc PyObject × BytesIO :=
  if whence = 0 then
    if pos < 0 then (.error (excString .valueError "negative seek value"), f) else f.moveTo pos
  else if whence = 1 then f.moveTo (f.pos + pos)
  else if whence = 2 then f.moveTo (f.buffer.length + pos)
  else (.error (excString .valueError "invalid whence"), f)

def tell (f : BytesIO) : Except PyExc PyObject := .ok (.int f.pos)

end BytesIO

/-! ## Calls of gpgme -/

/-- A call of `gpgme_data_read`, `gpgme_data_write` or `gpgme_data_seek`. -/
inductive Request where
  | read (size : BitVec 64)
  | write (buffer : Bytes)
  | seek (offset : BitVec 64) (whence : BitVec 32)

/-- What gpgme gets back; `errno` is looked at after -1 only. -/
inductive Reply where
  | read (buffer : Bytes)
  | written (count : Int)
  | position (offset : Int)
  | failed (errno : Int)
  | crashed
  deriving DecidableEq, Repr

/-- A data object: its file object and the interpreter around it. -/
structure DataObject where
  fp : BytesIO
  interp : Interp

namespace DataObject

def answer (d : DataObject) : Request → Reply × DataObject
  | .read size =>
    match (readCb size (fun n => (d.fp.read n).1) none id).run d.interp with
    | some ((count, buffer), interp) =>
      (if count = -1 then .failed interp.errno else .read (buffer.take count.toNat),
        ⟨(d.fp.read size.toInt).2, interp⟩)
    | none => (.crashed, d)
  | .write buffer =>
    match (writeCb buffer (fun b => (d.fp.write b).1) none id).run d.interp with
    | some (count, interp) =>
      (if count = -1 then .failed interp.errno else .written count,
        ⟨(d.fp.write (.bytes buffer)).2, interp⟩)
    | none => (.crashed, d)
  | .seek offset whence =>
    let moved := (d.fp.seek offset.toInt whence.toInt).2
    match (seekCb offset.toInt whence.toInt (fun n w => (d.fp.seek n w).1) moved.tell none id).run
        d.interp with
    | some (offset, interp) =>
      (if offset = -1 then .failed interp.errno else .position offset, ⟨moved, interp⟩)
    | none => (.crashed, d)

/-! What each answer is, once the callback is known. -/

theorem answer_read {d : DataObject} {size : BitVec 64} {count : Int} {buffer : Bytes}
    {interp : Interp}
    (ran : (readCb size (fun n => (d.fp.read n).1) none id).run d.interp =
      some ((count, buffer), interp)) :
    d.answer (.read size) =
      (if count = -1 then .failed interp.errno else .read (buffer.take count.toNat),
        ⟨(d.fp.read size.toInt).2, interp⟩) := by
  simp only [answer, ran]

theorem answer_write {d : DataObject} {buffer : Bytes} {count : Int} {interp : Interp}
    (ran : (writeCb buffer (fun b => (d.fp.write b).1) none id).run d.interp =
      some (count, interp)) :
    d.answer (.write buffer) =
      (if count = -1 then .failed interp.errno else .written count,
        ⟨(d.fp.write (.bytes buffer)).2, interp⟩) := by
  simp only [answer, ran]

theorem answer_seek {d : DataObject} {offset : BitVec 64} {whence : BitVec 32} {moved : BytesIO}
    (moves : (d.fp.seek offset.toInt whence.toInt).2 = moved) {pos : Int} {interp : Interp}
    (ran : (seekCb offset.toInt whence.toInt (fun n w => (d.fp.seek n w).1) moved.tell none id).run
      d.interp = some (pos, interp)) :
    d.answer (.seek offset whence) =
      (if pos = -1 then .failed interp.errno else .position pos, ⟨moved, interp⟩) := by
  subst moves
  simp only [answer, ran]

end DataObject

end Pygpgme.Source.FileObjects
