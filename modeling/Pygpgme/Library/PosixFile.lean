import Mathlib.Algebra.GroupWithZero.Nat
import Mathlib.Data.List.Basic
import Pygpgme.Library.RequestReply

/-!
# Files with a position

What POSIX says of a regular file: `read` and `write` move the position, `lseek` sets it,
also beyond the end. A gap between the end and what is written is filled.
-/

set_option autoImplicit false

namespace Pygpgme.Library.PosixFile
open Pygpgme.Library.RequestReply

variable {α : Type}

structure File (α : Type) where
  content : List α
  pos : Nat

inductive Request (α : Type) where
  | read (size : Nat)
  | write (data : List α)
  /-- SEEK_SET, SEEK_CUR and SEEK_END are 0, 1 and 2. -/
  | seek (offset whence : Int)

inductive Reply (α : Type) where
  | data (read : List α)
  | written (count : Nat)
  | position (pos : Nat)
  /-- EINVAL -/
  | invalid
  deriving DecidableEq

def Reply.bytes : Reply α → List α
  | .data read => read
  | _ => []

namespace File

/-- What an offset is added to. -/
def origin (f : File α) (whence : Int) : Option Nat :=
  if whence = 0 then some 0
  else if whence = 1 then some f.pos
  else if whence = 2 then some f.content.length
  else none

/-- The content with `data` from `pos` on. -/
def overwrite (gap : α) (content : List α) (pos : Nat) (data : List α) : List α :=
  content.take pos ++ List.replicate (pos - content.length) gap ++ data ++
    content.drop (pos + data.length)

def step (gap : α) (f : File α) : Request α → Reply α × File α
  | .read size =>
    let data := (f.content.drop f.pos).take size
    (.data data, { f with pos := f.pos + data.length })
  | .write [] => (.written 0, f)
  | .write data =>
    (.written data.length,
      { content := overwrite gap f.content f.pos data, pos := f.pos + data.length })
  | .seek offset whence =>
    match f.origin whence with
    | none => (.invalid, f)
    | some origin =>
      if origin + offset < 0 then (.invalid, f)
      else (.position (origin + offset).toNat, { f with pos := (origin + offset).toNat })

/-! ## Writing, going back and reading -/

variable {gap : α}

theorem overwrite_end (content data : List α) :
    overwrite gap content content.length data = content ++ data := by
  simp [overwrite]

/-- Pieces that are written at the end follow one another. -/
theorem after_writes (gap : α) (chunks : List (List α)) (f : File α)
    (atEnd : f.pos = f.content.length) :
    after (step gap) f (chunks.map .write) =
      ⟨f.content ++ chunks.flatten, (f.content ++ chunks.flatten).length⟩ := by
  induction chunks generalizing f with
  | nil =>
    cases f
    simpa [after] using atEnd
  | cons data rest ih =>
    cases data with
    | nil => simpa [after, step] using ih f atEnd
    | cons b bs =>
      have written : (step gap f (.write (b :: bs))).2 =
          ⟨f.content ++ b :: bs, (f.content ++ b :: bs).length⟩ := by
        simp only [step, atEnd, overwrite_end, List.length_append]
      simp only [List.map_cons, after]
      rw [written, ih _ rfl, List.flatten_cons, List.append_assoc]

theorem replies_writes (chunks : List (List α)) (f : File α) :
    (replies (step gap) f (chunks.map .write)).flatMap Reply.bytes = [] := by
  induction chunks generalizing f with
  | nil => rfl
  | cons data rest ih =>
    cases data with
    | nil => exact ih _
    | cons b bs => exact ih _

/-- Pieces that are read follow one another. -/
theorem replies_reads (sizes : List Nat) (f : File α) :
    (replies (step gap) f (sizes.map .read)).flatMap Reply.bytes =
      (f.content.drop f.pos).take sizes.sum := by
  induction sizes generalizing f with
  | nil => simp [replies]
  | cons size rest ih =>
    simp only [List.map_cons, replies, step, List.flatMap_cons, ih, Reply.bytes, List.sum_cons]
    rw [List.take_add]
    congr 1
    by_cases enough : size ≤ (f.content.drop f.pos).length
    · rw [List.length_take_of_le enough, List.drop_drop]
    · have past : (f.content.drop f.pos).length ≤ size := by omega
      have none_ : (f.content.drop f.pos).drop size = [] := List.drop_eq_nil_of_le past
      have none' : f.content.drop (f.pos + ((f.content.drop f.pos).take size).length) = [] := by
        apply List.drop_eq_nil_of_le
        rw [List.take_of_length_le past, List.length_drop]
        omega
      rw [none_, none']

/-- What was written from the start on is read after going back to it. -/
theorem replies_round_trip (chunks : List (List α)) (sizes : List Nat) :
    (replies (step gap) ⟨[], 0⟩ (chunks.map .write ++ .seek 0 0 :: sizes.map .read)).flatMap
      Reply.bytes = chunks.flatten.take sizes.sum := by
  rw [replies_append, List.flatMap_append, replies_writes, List.nil_append,
    after_writes gap chunks ⟨[], 0⟩ rfl, List.nil_append]
  have back : step gap ⟨chunks.flatten, chunks.flatten.length⟩ (.seek 0 0) =
      (.position 0, ⟨chunks.flatten, 0⟩) := rfl
  rw [replies, List.flatMap_cons, back, replies_reads, List.drop_zero]
  rfl

end File

end Pygpgme.Library.PosixFile
