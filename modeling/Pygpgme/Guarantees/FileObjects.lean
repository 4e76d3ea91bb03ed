import Pygpgme.Library.PosixFile
import Pygpgme.Source.FileObjects

/-!
# A data object on an io.BytesIO is a file

gpgme was written for file descriptors. Through the three callbacks an `io.BytesIO`
answers every sequence of reads, writes and seeks as a regular file would, with the same
error number where that refuses, up to the first request at which the two are different:
a relative seek to before the start, or a position that Python cannot count. Memory for
the buffer is granted.
-/

set_option autoImplicit false

namespace Pygpgme.Guarantees.FileObjects
open Pygpgme.Library.Program Pygpgme.Library.RequestReply
open Pygpgme.Library.PosixFile (File)
open Pygpgme.Source.Python Pygpgme.Source.Data Pygpgme.Source.FileObjects
open Pygpgme.Source.Error (longValue)

/-! ## What a regular file answers -/

def asFile : Request → Library.PosixFile.Request UInt8
  | .read size => .read size.toNat
  | .write buffer => .write buffer
  | .seek offset whence => .seek offset.toInt whence.toInt

def asReply : Library.PosixFile.Reply UInt8 → Reply
  | .data buffer => .read buffer
  | .written count => .written count
  | .position pos => .position pos
  | .invalid => .failed EINVAL

/-- Gaps are filled with zeros. -/
def fileAnswer : File UInt8 → Request → Reply × File UInt8 := through asFile asReply (File.step 0)

/-- Where an `io.BytesIO` is no regular file. -/
def Strays (f : File UInt8) : Request → Prop
  | .read _ => False
  | .write buffer => buffer ≠ [] ∧ ssizeMax < f.pos + buffer.length
  | .seek offset whence => whence ≠ 0 ∧ ∃ origin, f.origin whence.toInt = some origin ∧
      (origin + offset.toInt < 0 ∨ ssizeMax < origin + offset.toInt)

structure Related (f : File UInt8) (d : DataObject) : Prop where
  content : d.fp.buffer = f.content
  pos : d.fp.pos = f.pos
  quiet : d.interp.pending = none

/-! ## One request -/

section
variable {f : File UInt8} {d : DataObject}

theorem run_of_achieves {α : Type} {p : Py α} {s s' : Interp} {a : α}
    (h : achieves p s fun b t => b = a ∧ t = s') : p.run s = some (a, s') := by
  obtain ⟨b, t, ran, rfl, rfl⟩ := h
  exact ran

/-- A size that is negative as a `long` is larger than any buffer. -/
theorem rest_eq (b : BytesIO) (size : BitVec 64) :
    b.rest size.toInt = (b.buffer.drop b.pos).take size.toNat := by
  have fits := b.bufferFits
  have bound := size.isLt
  unfold BytesIO.rest
  rw [BitVec.toInt_eq_toNat_cond]
  split
  next small =>
    rw [if_neg (by omega), Int.toNat_natCast]
  next large =>
    rw [if_pos (by omega), List.take_of_length_le]
    rw [List.length_drop]
    unfold ssizeMax at fits
    omega

theorem read_agrees (h : Related f d) (size : BitVec 64) :
    (d.answer (.read size)).1 = (fileAnswer f (.read size)).1 ∧
      Related (fileAnswer f (.read size)).2 (d.answer (.read size)).2 := by
  have data : d.fp.rest size.toInt = (f.content.drop f.pos).take size.toNat := by
    rw [rest_eq, h.content, h.pos]
  have ran : (readCb size (fun n => (d.fp.read n).1) none id).run d.interp =
      some ((((((f.content.drop f.pos).take size.toNat).length : Nat) : Int),
        (f.content.drop f.pos).take size.toNat), d.interp) := by
    apply run_of_achieves
    rw [achieves_readCb]
    simp only [h.quiet, Option.isSome_none, ending_quiet, BytesIO.read, data]
    refine ⟨?_, ?_⟩
    · rw [List.take_take, Nat.min_self, List.length_take, Nat.min_comm size.toNat, Nat.min_assoc,
        Nat.min_self]
    · rw [← h.quiet]
  have counted : ¬ ((((f.content.drop f.pos).take size.toNat).length : Nat) : Int) = -1 := by omega
  rw [DataObject.answer_read ran, if_neg counted, Int.toNat_natCast, List.take_length]
  refine ⟨rfl, h.content, ?_, h.quiet⟩
  simp only [ BytesIO.read, data, h.pos]
  rfl

theorem fits_of_ssize {n : Nat} (fits : n ≤ ssizeMax) : FitsLong n := by
  unfold ssizeMax at fits
  unfold FitsLong longMin longMax
  omega

theorem write_agrees (h : Related f d) {buffer : Bytes} (near : ¬ Strays f (.write buffer)) :
    (d.answer (.write buffer)).1 = (fileAnswer f (.write buffer)).1 ∧
      Related (fileAnswer f (.write buffer)).2 (d.answer (.write buffer)).2 := by
  cases buffer with
  | nil =>
    have ran : (writeCb [] (fun b => (d.fp.write b).1) none id).run d.interp =
        some (0, d.interp) := by
      apply run_of_achieves
      have small : FitsLong (([] : Bytes).length : Int) := fits_of_ssize (Nat.zero_le _)
      rw [achieves_writeCb, if_pos small]
      simp only [h.quiet, Option.isSome_none, ending_quiet, BytesIO.write]
      exact ⟨rfl, by rw [← h.quiet]⟩
    rw [DataObject.answer_write ran]
    exact ⟨rfl, h⟩
  | cons b bs =>
    have fits : d.fp.pos + (b :: bs).length ≤ ssizeMax := by
      rw [h.pos]
      by_contra far
      exact near ⟨List.cons_ne_nil b bs, by omega⟩
    have ran : (writeCb (b :: bs) (fun o => (d.fp.write o).1) none id).run d.interp =
        some (((b :: bs).length : Int), d.interp) := by
      apply run_of_achieves
      rw [achieves_writeCb, if_pos (fits_of_ssize (by omega)), d.fp.write_cons fits, h.quiet,
        Option.isSome_none, ending_quiet]
      exact ⟨rfl, by rw [← h.quiet]⟩
    have counted : ¬ ((b :: bs).length : Int) = -1 := by omega
    rw [DataObject.answer_write ran, if_neg counted, d.fp.write_cons fits]
    refine ⟨rfl, ?_, ?_, h.quiet⟩
    · change d.fp.written (b :: bs) = _
      unfold BytesIO.written
      rw [h.content, h.pos]
      rfl
    · change d.fp.pos + (b :: bs).length = _
      rw [h.pos]
      rfl

theorem write_strays (h : Related f d) {buffer : Bytes} (far : Strays f (.write buffer)) :
    (d.answer (.write buffer)).1 ≠ (fileAnswer f (.write buffer)).1 := by
  obtain ⟨some_, beyond⟩ := far
  cases buffer with
  | nil => exact absurd rfl some_
  | cons b bs =>
    have outside : ¬ d.fp.pos + (b :: bs).length ≤ ssizeMax := by
      rw [h.pos]
      omega
    have failed : achieves (writeCb (b :: bs) (fun o => (d.fp.write o).1) none id) d.interp
        fun count _ => count = -1 := by
      simp only [achieves_writeCb, d.fp.write_over outside, h.quiet, Option.isSome_none,
        ending_quiet, ite_self]
    obtain ⟨count, s', ran, rfl⟩ := failed
    have asFile : (fileAnswer f (.write (b :: bs))).1 = .written (b :: bs).length := rfl
    rw [DataObject.answer_write ran, if_pos rfl, asFile]
    intro same
    cases same

/-! ## Seeks -/

/-- What `seek_cb` makes of a seek that succeeds. -/
theorem seekCb_moved {d : DataObject} (quiet : d.interp.pending = none) {offset whence : Int}
    {moved : BytesIO} {pos : PyObject} (ok : d.fp.seek offset whence = (.ok pos, moved)) :
    (seekCb offset whence (fun n w => (d.fp.seek n w).1) moved.tell none id).run d.interp =
      some ((moved.pos : Int), d.interp) := by
  have fits : FitsLong moved.pos := fits_of_ssize moved.posFits
  apply run_of_achieves
  rw [achieves_seekCb, ok, quiet, Option.isSome_none, ending_quiet]
  simp only [ BytesIO.tell, PyObject.long?, longValue, if_pos fits]
  exact ⟨trivial, by rw [← quiet]⟩

/-- And of one that is refused. -/
theorem seekCb_refused {d : DataObject} (quiet : d.interp.pending = none)
    {offset whence : Int} {moved : BytesIO} {e : PyExc}
    (refused : d.fp.seek offset whence = (.error e, moved)) (plain : e.cls.isOSError = false) :
    (seekCb offset whence (fun n w => (d.fp.seek n w).1) moved.tell none id).run d.interp =
      some (-1, { d.interp with pending := none, errno := EINVAL }) := by
  apply run_of_achieves
  rw [achieves_seekCb, refused, quiet, Option.isSome_none, ending_quiet]
  simp only [errnoOverflows, errnoValue, errnoAttr, plain]
  exact ⟨trivial, rfl⟩

/-- How the position a seek leads to is checked. -/
theorem moveTo_answer (h : Related f d) {offset : BitVec 64} {whence : BitVec 32} {pos : Int}
    (moves : d.fp.seek offset.toInt whence.toInt = d.fp.moveTo pos) :
    d.answer (.seek offset whence) =
      if fits : pos ≤ ssizeMax then
        (.position pos.toNat, ⟨{ d.fp with
          pos := pos.toNat
          posFits := Int.toNat_le.mpr fits }, d.interp⟩)
      else (.failed EINVAL, ⟨d.fp, { d.interp with pending := none, errno := EINVAL }⟩) := by
  split
  next fits =>
    rw [d.fp.moveTo_fits fits] at moves
    have counted : ¬ ((pos.toNat : Nat) : Int) = -1 := by omega
    rw [DataObject.answer_seek (congrArg Prod.snd moves) (seekCb_moved h.quiet moves)]
    rw [if_neg counted]
  next outside =>
    rw [d.fp.moveTo_over outside] at moves
    rw [DataObject.answer_seek (congrArg Prod.snd moves) (seekCb_refused h.quiet moves rfl)]
    rw [if_pos rfl]

theorem refused_answer (h : Related f d) {offset : BitVec 64} {whence : BitVec 32} {e : PyExc}
    (refused : d.fp.seek offset.toInt whence.toInt = (.error e, d.fp))
    (plain : e.cls.isOSError = false) :
    d.answer (.seek offset whence) =
      (.failed EINVAL, ⟨d.fp, { d.interp with pending := none, errno := EINVAL }⟩) := by
  rw [DataObject.answer_seek (congrArg Prod.snd refused) (seekCb_refused h.quiet refused plain)]
  rw [if_pos rfl]

/-- The three kinds of seek: absolute, relative, and with another `whence`. -/
inductive SeekKind (f : File UInt8) (d : DataObject) (offset : BitVec 64) (whence : BitVec 32) :
    Prop
  | absolute (zero : whence = 0)
  | relative (origin : Nat) (other : whence ≠ 0) (from_ : f.origin whence.toInt = some origin)
    (moves : d.fp.seek offset.toInt whence.toInt = d.fp.moveTo (origin + offset.toInt))
  | unknown (none_ : f.origin whence.toInt = none)
    (refused : d.fp.seek offset.toInt whence.toInt =
      (.error (excString .valueError "invalid whence"), d.fp))

theorem seek_kind (h : Related f d) (offset : BitVec 64) (whence : BitVec 32) :
    SeekKind f d offset whence := by
  by_cases zero : whence = 0
  · exact .absolute zero
  have nonzero : whence.toInt ≠ 0 := fun same => zero (BitVec.toInt_inj.mp same)
  by_cases one : whence.toInt = 1
  · refine .relative f.pos zero ?_ ?_
    · simp [File.origin, one]
    · simp [ BytesIO.seek, one, h.pos]
  by_cases two : whence.toInt = 2
  · refine .relative f.content.length zero ?_ ?_
    · simp [File.origin, two]
    · simp [ BytesIO.seek, two, h.content]
  · refine .unknown ?_ ?_
    · simp [File.origin, nonzero, one, two]
    · simp [ BytesIO.seek, nonzero, one, two]

/-- The answer to a seek from a known origin. -/
theorem file_seek {offset : BitVec 64} {whence : BitVec 32} (origin : Nat)
    (from_ : f.origin whence.toInt = some origin) :
    fileAnswer f (.seek offset whence) =
      if origin + offset.toInt < 0 then (.failed EINVAL, f)
      else (.position (origin + offset.toInt).toNat,
        { f with pos := (origin + offset.toInt).toNat }) := by
  simp only [fileAnswer, through, asFile, File.step, from_]
  split <;> rfl

theorem Related.failed (h : Related f d) {errno : Int} :
    Related f ⟨d.fp, { d.interp with pending := none, errno := errno }⟩ :=
  ⟨h.content, h.pos, rfl⟩

theorem seek_agrees (h : Related f d) {offset : BitVec 64} {whence : BitVec 32}
    (near : ¬ Strays f (.seek offset whence)) :
    (d.answer (.seek offset whence)).1 = (fileAnswer f (.seek offset whence)).1 ∧
      Related (fileAnswer f (.seek offset whence)).2 (d.answer (.seek offset whence)).2 := by
  have small : offset.toInt ≤ ssizeMax := by
    have bound := offset.toInt_lt
    unfold ssizeMax
    omega
  rcases seek_kind h offset whence with zero | ⟨origin, other, from_, moves⟩ | ⟨none_, refused⟩
  · subst zero
    rw [file_seek 0 rfl]
    by_cases negative : offset.toInt < 0
    · have refused : d.fp.seek offset.toInt (0 : BitVec 32).toInt =
          (.error (excString .valueError "negative seek value"), d.fp) := by
        simp [ BytesIO.seek, negative]
      rw [refused_answer h refused rfl, if_pos (by simpa using negative)]
      exact ⟨rfl, h.failed⟩
    · have moves : d.fp.seek offset.toInt (0 : BitVec 32).toInt = d.fp.moveTo offset.toInt := by
        simp [ BytesIO.seek, negative]
      rw [moveTo_answer h moves, dif_pos small, if_neg (by simpa using negative)]
      simp only [Nat.cast_zero, zero_add]
      exact ⟨trivial, h.content, rfl, h.quiet⟩
  · rw [file_seek origin from_]
    have inside : 0 ≤ origin + offset.toInt ∧ origin + offset.toInt ≤ ssizeMax := by
      by_contra outside
      exact near ⟨other, origin, from_, by omega⟩
    rw [moveTo_answer h moves, dif_pos inside.2, if_neg (by omega)]
    exact ⟨rfl, h.content, rfl, h.quiet⟩
  · rw [refused_answer h refused rfl]
    simp only [fileAnswer, through, asFile, File.step, none_]
    exact ⟨rfl, h.failed⟩

theorem seek_strays (h : Related f d) {offset : BitVec 64} {whence : BitVec 32}
    (far : Strays f (.seek offset whence)) :
    (d.answer (.seek offset whence)).1 ≠ (fileAnswer f (.seek offset whence)).1 := by
  obtain ⟨other, origin, from_, outside⟩ := far
  rcases seek_kind h offset whence with zero | ⟨origin', _, from', moves⟩ | ⟨none_, _⟩
  · exact absurd zero other
  · obtain rfl := Option.some.inj (from_.symm.trans from')
    rw [file_seek origin from_, moveTo_answer h moves]
    rcases outside with before | beyond
    · -- the start instead of a refusal
      have fits : origin + offset.toInt ≤ ssizeMax := by omega
      rw [dif_pos fits, if_pos before]
      exact Reply.noConfusion
    · rw [dif_neg (by omega), if_neg (by omega)]
      exact Reply.noConfusion
  · rw [from_] at none_
    cases none_

end

/-! ## Every sequence of requests -/

theorem data_object_agrees : Agree fileAnswer DataObject.answer Strays Related where
  same := by
    intro f d request h near
    cases request with
    | read size => exact read_agrees h size
    | write buffer => exact write_agrees h near
    | seek offset whence => exact seek_agrees h near
  differ := by
    intro f d request h far
    cases request with
    | read size => cases far
    | write buffer => exact write_strays h far
    | seek offset whence => exact seek_strays h far

/-- A file with the content and the position of an `io.BytesIO`. -/
def file (b : BytesIO) : File UInt8 := ⟨b.buffer, b.pos⟩

theorem related_file (b : BytesIO) (errno : Int) : Related (file b) ⟨b, ⟨none, errno, []⟩⟩ :=
  ⟨rfl, rfl, rfl⟩

/-- Whatever gpgme asks of a data object on an `io.BytesIO`, in any order: the answers are
those of a regular file, error numbers included, if and only if no relative seek leads to
before the start and no request leads to a position that Python cannot count. Then the
contents and the positions are the same as well. -/
theorem bytesIO_is_file_iff (b : BytesIO) (errno : Int) (requests : List Request) :
    let d : DataObject := ⟨b, ⟨none, errno, []⟩⟩
    (replies DataObject.answer d requests = replies fileAnswer (file b) requests ↔
        ¬ Meets fileAnswer Strays (file b) requests) ∧
      (¬ Meets fileAnswer Strays (file b) requests →
        file (after DataObject.answer d requests).fp = after fileAnswer (file b) requests) := by
  have start := related_file b errno
  refine ⟨data_object_agrees.replies_eq_iff requests start, fun never => ?_⟩
  obtain ⟨content, pos, -⟩ := data_object_agrees.after_related requests start never
  exact congrArg₂ File.mk content pos

/-! ## What is written is read back -/

theorem writes_near (chunks : List Bytes) (f : File UInt8) (atEnd : f.pos = f.content.length)
    (fits : f.content.length + chunks.flatten.length ≤ ssizeMax) :
    ¬ Meets fileAnswer Strays f (chunks.map .write) := by
  induction chunks generalizing f with
  | nil => exact id
  | cons data rest ih =>
    rw [List.flatten_cons, List.length_append] at fits
    have next : (fileAnswer f (.write data)).2 =
        ⟨f.content ++ data, (f.content ++ data).length⟩ := by
      have written := File.after_writes (0 : UInt8) [data] f atEnd
      rw [List.flatten_singleton] at written
      exact written
    rintro (⟨_, beyond⟩ | later)
    · omega
    · rw [next] at later
      refine ih _ rfl ?_ later
      rw [List.length_append]
      omega

/-- The bytes that a reply brings. -/
def received : Reply → Bytes
  | .read buffer => buffer
  | _ => []

theorem received_asReply (reply : Library.PosixFile.Reply UInt8) :
    received (asReply reply) = reply.bytes := by
  cases reply <;> rfl

/-- Output that gpgme writes to a new `io.BytesIO`, in pieces of any size, is what it reads
from there after going back to the start, in pieces of any other size. -/
theorem written_is_read (errno : Int) (chunks : List Bytes) (sizes : List (BitVec 64))
    (fits : chunks.flatten.length ≤ ssizeMax) :
    (replies DataObject.answer ⟨.new, ⟨none, errno, []⟩⟩
        (chunks.map .write ++ .seek 0 0 :: sizes.map .read)).flatMap received =
      chunks.flatten.take (sizes.map BitVec.toNat).sum := by
  have near : ¬ Meets fileAnswer Strays (file .new)
      (chunks.map .write ++ .seek 0 0 :: sizes.map .read) := by
    rw [meets_append]
    rintro (writes | seek | reads)
    · exact writes_near chunks _ rfl (by simpa [file, BytesIO.new] using fits) writes
    · exact seek.1 rfl
    · refine not_meets_of_forall _ _ (fun request mem s strays => ?_) reads
      obtain ⟨size, -, rfl⟩ := List.mem_map.mp mem
      exact strays
  rw [(data_object_agrees.replies_eq_iff _ (related_file .new errno)).mpr near]
  have asked : (chunks.map Request.write ++ Request.seek 0 0 :: sizes.map Request.read).map asFile =
      chunks.map .write ++ .seek 0 0 :: (sizes.map BitVec.toNat).map .read := by
    simp only [List.map_append, List.map_cons, List.map_map]
    rfl
  have brings : (fun reply => received (asReply reply)) = Library.PosixFile.Reply.bytes :=
    funext received_asReply
  rw [fileAnswer, replies_through, List.flatMap_map, asked, brings]
  exact File.replies_round_trip chunks (sizes.map BitVec.toNat)

/-- Two pieces, read in three. -/
theorem written_is_read_pieces :
    (replies DataObject.answer ⟨.new, ⟨none, 0, []⟩⟩
        ([[1, 2, 3], [4]].map .write ++ .seek 0 0 :: [2, 1, 5].map .read)).flatMap received =
      [1, 2, 3, 4] := by
  rw [written_is_read 0 [[1, 2, 3], [4]] [2, 1, 5] (by decide)]
  rfl

end Pygpgme.Guarantees.FileObjects
