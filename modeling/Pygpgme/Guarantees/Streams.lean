import Mathlib.Data.List.Basic
import Pygpgme.Library.Transition
import Pygpgme.Source.Data

/-!
# Bytes between gpgme and a Python file object

Output: gpgme offers a buffer, counts what `write_cb` returns as written and
offers the rest again. Input: gpgme asks for bytes with buffers of any size. Both
are runs against a file object in any state; the file may raise at any call.
-/

set_option autoImplicit false

namespace Pygpgme.Guarantees.Streams
open Pygpgme.Library.Program Pygpgme.Library.Transition
open Pygpgme.Source.Python Pygpgme.Source.Error Pygpgme.Source.Data

variable {σ : Type}

/-! ## Output -/

/-- A file object that follows the protocol of the `io` module: `write` raises, or
accepts some prefix and returns its length. -/
structure Writer (σ : Type) where
  write : σ → PyObject → σ × Except PyExc PyObject
  accepted : σ → Bytes
  io : ∀ file b,
    (∃ e, (write file (.bytes b)).2 = .error e ∧
      accepted (write file (.bytes b)).1 = accepted file) ∨
    ∃ n v, n ≤ b.length ∧ (write file (.bytes b)).2 = .ok v ∧ v.long? = some (n : Int) ∧
      accepted (write file (.bytes b)).1 = accepted file ++ b.take n

structure Output (σ : Type) where
  file : σ
  interp : Interp
  /-- The part of the current buffer that gpgme has not written yet. -/
  rest : Bytes
  /-- What gpgme counts as written. -/
  written : Bytes
  stopped : Bool
  /-- What each call returned, and how many bytes the file accepted in it. -/
  counts : List (Int × Nat)

/-- gpgme has further output, or offers up to `size` bytes of the current one. -/
inductive OutputEvent where
  | buffer (data : Bytes)
  | offer (size : Nat)
  deriving DecidableEq, Repr

def Output.offered (s : Output σ) (size : Nat) : Bytes := s.rest.take size

/-- The file after a call of `write_cb`, which calls `write` only with a buffer that
fits into a bytes object. -/
def Writer.after (w : Writer σ) (file : σ) (offered : Bytes) : σ :=
  if FitsLong offered.length then (w.write file (.bytes offered)).1 else file

def Writer.outcome (w : Writer σ) (file : σ) (b : PyObject) : Except PyExc PyObject :=
  (w.write file b).2

def Output.step (w : Writer σ) (s : Output σ) : OutputEvent → Option (Output σ)
  | .buffer data =>
    if s.stopped = false ∧ s.rest = [] then some { s with rest := data } else none
  | .offer size =>
    if s.stopped then none
    else
      let offered := s.offered size
      match (writeCb offered (w.outcome s.file) none id).run s.interp with
      | none => none
      | some (count, interp) =>
        let file := w.after s.file offered
        let taken := (w.accepted file).length - (w.accepted s.file).length
        some
          { file := file
            interp := interp
            rest := s.rest.drop count.toNat
            written := s.written ++ offered.take count.toNat
            stopped := decide (count < 0)
            counts := (count, taken) :: s.counts }

def output (w : Writer σ) (file : σ) : System (Output σ) OutputEvent where
  init := fun s => s = ⟨file, Interp.clean, [], [], false, []⟩
  step := Output.step w

/-- Every call returned what the file accepted in it, and what gpgme counts as
written is what the file accepted. -/
structure Lossless (w : Writer σ) (start : σ) (s : Output σ) : Prop where
  counts : ∀ c ∈ s.counts, c.1 = c.2 ∨ c.1 = -1 ∧ c.2 = 0
  written : w.accepted s.file = w.accepted start ++ s.written

/-- The call of `write` that comes next raises, or accepts all it is offered. -/
def WholeWrite (w : Writer σ) (s : Output σ) : OutputEvent → Prop
  | .buffer _ => True
  | .offer size =>
    FitsLong (s.offered size).length →
      ∀ v, w.outcome s.file (.bytes (s.offered size)) = .ok v →
        w.accepted (w.after s.file (s.offered size)) =
          w.accepted s.file ++ s.offered size

/-- What `write_cb` returns. -/
def writeCount (w : Writer σ) (file : σ) (offered : Bytes) : Int :=
  if FitsLong offered.length then
    match w.outcome file (.bytes offered) with
    | .ok _ => offered.length
    | .error _ => -1
  else -1

/-- A call that counts something leaves nothing pending; the others are the last. -/
theorem offer_quiet {w : Writer σ} {s s' : Output σ} {size : Nat}
    (taken : s.step w (.offer size) = some s') (more : s'.stopped = false) :
    s'.interp.pending = none := by
  have clears : achieves (writeCb (s.offered size) (w.outcome s.file) none id) s.interp
      fun count t => ¬ count < 0 → t.pending = none := by
    rw [achieves_writeCb]
    split
    · cases ending s.interp.pending.isSome (w.outcome s.file (.bytes (s.offered size))) none <;>
        simp
    · simp
  obtain ⟨count, interp, ran, quiet⟩ := clears
  simp only [Output.step, ran] at taken
  split at taken
  · cases taken
  · cases taken
    exact quiet (of_decide_eq_false more)

theorem output_quiet {w : Writer σ} {start : σ} {P : Output σ → OutputEvent → Prop}
    {s : Output σ} (reached : Reach (output w start) P s) :
    s.stopped = false → s.interp.pending = none := by
  induction reached with
  | init at_start =>
    cases at_start
    exact fun _ => rfl
  | step event before _ taken quiet =>
    intro more
    cases event with
    | buffer data =>
      simp only [output, Output.step, Option.ite_none_right_eq_some, Option.some.injEq] at taken
      rw [← taken.2] at more ⊢
      exact quiet more
    | offer size => exact offer_quiet taken more

/-- What one offer changes. -/
theorem offer_step {w : Writer σ} {s s' : Output σ} {size : Nat}
    (quiet : s.stopped = false → s.interp.pending = none)
    (taken : s.step w (.offer size) = some s') :
    s'.file = w.after s.file (s.offered size) ∧
      s'.written = s.written ++
        (s.offered size).take (writeCount w s.file (s.offered size)).toNat ∧
      s'.counts = (writeCount w s.file (s.offered size),
        (w.accepted (w.after s.file (s.offered size))).length -
          (w.accepted s.file).length) :: s.counts := by
  have running : s.stopped = false := by
    cases stopped : s.stopped with
    | false => rfl
    | true => simp [Output.step, stopped] at taken
  have returns : achieves (writeCb (s.offered size) (w.outcome s.file) none id) s.interp
      fun count _ => count = writeCount w s.file (s.offered size) := by
    rw [achieves_writeCb, writeCount, quiet running]
    split
    · cases w.outcome s.file (.bytes (s.offered size)) <;> simp
    · rfl
  obtain ⟨count, interp, ran, rfl⟩ := returns
  simp only [Output.step, ran] at taken
  split at taken
  · cases taken
  · cases taken
    exact ⟨rfl, rfl, rfl⟩

/-- The three ways an offer can go. -/
theorem offer_cases (w : Writer σ) (file : σ) (offered : Bytes) :
    (writeCount w file offered = -1 ∧ w.accepted (w.after file offered) = w.accepted file ∧
        (FitsLong offered.length → ∃ e, w.outcome file (.bytes offered) = .error e)) ∨
      ∃ n v, n ≤ offered.length ∧ FitsLong offered.length ∧
        w.outcome file (.bytes offered) = .ok v ∧
        writeCount w file offered = offered.length ∧
        w.accepted (w.after file offered) = w.accepted file ++ offered.take n := by
  unfold writeCount Writer.after
  by_cases fits : FitsLong offered.length
  · simp only [fits, if_true, forall_const]
    rcases w.io file offered with ⟨e, raised, same⟩ | ⟨n, v, bound, returned, _, accepted⟩
    · have failed : w.outcome file (.bytes offered) = .error e := raised
      refine .inl ⟨?_, same, e, failed⟩
      rw [failed]
    · have succeeded : w.outcome file (.bytes offered) = .ok v := returned
      refine .inr ⟨n, v, bound, trivial, succeeded, ?_, accepted⟩
      rw [succeeded]
  · simp [fits]

theorem Lossless.offer {w : Writer σ} {start : σ} {s s' : Output σ} {size : Nat}
    (quiet : s.stopped = false → s.interp.pending = none)
    (h : Lossless w start s) (whole : WholeWrite w s (.offer size))
    (taken : s.step w (.offer size) = some s') : Lossless w start s' := by
  obtain ⟨file, written, counts⟩ := offer_step quiet taken
  rcases offer_cases w s.file (s.offered size) with
    ⟨count, same, _⟩ | ⟨n, v, bound, fits, succeeded, count, accepted⟩
  · constructor
    · rw [counts, count, same]
      simpa using h.counts
    · rw [file, written, count, same, h.written]
      simp
  · have all := whole fits v succeeded
    constructor
    · rw [counts, count, all]
      simpa using h.counts
    · rw [file, written, count, all, h.written]
      simp

/-- A short write is reported as a whole one, and the bytes in between are lost. -/
theorem not_lossless_of_short {w : Writer σ} {start : σ} {s s' : Output σ} {size : Nat}
    (quiet : s.stopped = false → s.interp.pending = none)
    (short : ¬ WholeWrite w s (.offer size)) (taken : s.step w (.offer size) = some s') :
    ¬ Lossless w start s' := by
  intro h
  obtain ⟨file, written, counts⟩ := offer_step quiet taken
  have reported := h.counts _ (by rw [counts]; exact List.mem_cons_self)
  apply short
  intro fits v succeeded
  rcases offer_cases w s.file (s.offered size) with
    ⟨_, _, raises⟩ | ⟨n, u, bound, _, _, count, accepted⟩
  · obtain ⟨e, raised⟩ := raises fits
    rw [raised] at succeeded
    cases succeeded
  · rw [count, accepted] at reported
    simp only [List.length_append, List.length_take] at reported
    have full : n = (s.offered size).length := by omega
    rw [accepted, full, List.take_length]

/-- In every run in which each `write` raises or accepts all it is offered, nothing
is lost or repeated and every call returns what the file accepted; and the first
call in which `write` accepts less breaks this. -/
theorem writes_lossless_iff_whole (w : Writer σ) (start : σ) :
    (∀ s, Reach (output w start) (WholeWrite w) s → Lossless w start s) ∧
      ∀ s event s', Reachable (output w start) s → (output w start).step s event = some s' →
        ¬ WholeWrite w s event → ¬ Lossless w start s' := by
  constructor
  · intro s reached
    induction reached with
    | init at_start =>
      cases at_start
      constructor
      · simp
      · simp
    | step event before whole taken h =>
      cases event with
      | buffer data =>
        simp only [output, Output.step, Option.ite_none_right_eq_some, Option.some.injEq] at taken
        rw [← taken.2]
        exact ⟨h.counts, h.written⟩
      | offer size => exact h.offer (output_quiet before) whole taken
  · intro s event s' reached taken short
    cases event with
    | buffer data => exact absurd trivial short
    | offer size => exact not_lossless_of_short (output_quiet reached) short taken

/-- A file that accepts up to `limit` bytes in one call. -/
def limited (limit : Nat) : Writer Bytes where
  write := fun file o =>
    match o with
    | .bytes b => (file ++ b.take limit, .ok (.int (min limit b.length : Nat)))
    | _ => (file, .error ⟨.typeError, [], []⟩)
  accepted := id
  io := by
    intro file b
    refine .inr ⟨min limit b.length, _, by omega, rfl, rfl, ?_⟩
    simp [List.take_eq_take_min]

/-- A buffer of three bytes that the file takes at once. -/
theorem writes_lossless_iff_whole_limited :
    ∃ s, Reach (output (limited 3) []) (WholeWrite (limited 3)) s ∧ s.written = [1, 2, 3] ∧
      Lossless (limited 3) [] s := by
  have filled : Reach (output (limited 3) []) (WholeWrite (limited 3))
      ⟨[], Interp.clean, [1, 2, 3], [], false, []⟩ :=
    .step (.buffer [1, 2, 3]) (.init rfl) trivial rfl
  have wrote : Reach (output (limited 3) []) (WholeWrite (limited 3))
      ⟨[1, 2, 3], Interp.clean, [], [1, 2, 3], false, [(3, 3)]⟩ :=
    .step (.offer 3) filled (fun _ _ _ => rfl) rfl
  exact ⟨_, wrote, rfl, (writes_lossless_iff_whole (limited 3) []).1 _ wrote⟩

/-- The same buffer with a file that takes two bytes at a time. -/
theorem short_write_not_lossless :
    ¬ ∀ s, Reachable (output (limited 2) []) s → Lossless (limited 2) [] s := by
  intro lossless
  have filled : Reachable (output (limited 2) []) ⟨[], Interp.clean, [1, 2, 3], [], false, []⟩ :=
    .step (.buffer [1, 2, 3]) (.init rfl) trivial rfl
  have wrote : Reachable (output (limited 2) [])
      ⟨[1, 2], Interp.clean, [], [1, 2, 3], false, [(3, 2)]⟩ :=
    .step (.offer 3) filled trivial rfl
  have lost := (lossless _ wrote).written
  revert lost
  decide

/-! ## Input -/

/-- Any file object: `read` may raise, or return anything. A call may find an exception
pending that an earlier one left behind; `handled` is how it ends if it deals with that
exception. -/
structure Reader (σ : Type) where
  read : σ → Int → σ × Except PyExc PyObject
  handled : σ → Int → Option (Except PyExc PyObject)

/-- One call of `read_cb`: whether nothing was pending as it started, what the file did,
and what gpgme got. -/
structure ReadCall where
  size : BitVec 64
  quiet : Bool
  outcome : Except PyExc PyObject
  count : Int
  copied : Bytes

/-- The bytes that a call of `read` returned. -/
def returnedBytes : Except PyExc PyObject → Bytes
  | .ok (.bytes data) => data
  | _ => []

structure Input (σ : Type) where
  file : σ
  interp : Interp
  returned : Bytes
  delivered : Bytes
  calls : List ReadCall

def Input.step (r : Reader σ) (s : Input σ) (size : BitVec 64) : Option (Input σ) :=
  let handled := r.handled s.file size.toInt
  match (readCb size (fun n => (r.read s.file n).2) handled id).run s.interp with
  | none => none
  | some ((count, copied), interp) =>
    let outcome := (r.read s.file size.toInt).2
    some
      { file := (r.read s.file size.toInt).1
        interp := interp
        returned := s.returned ++ returnedBytes outcome
        delivered := s.delivered ++ copied
        calls := s.calls ++ [⟨size, s.interp.pending.isNone, outcome, count, copied⟩] }

def input (r : Reader σ) (file : σ) : System (Input σ) (BitVec 64) where
  init := fun s => s = ⟨file, Interp.clean, [], [], []⟩
  step := Input.step r

/-- A result that is not bytes delivers nothing and is reported; of a bytes object
the first `size` bytes are delivered. -/
def ReadCall.Clips (c : ReadCall) : Prop :=
  match c.outcome with
  | .ok (.bytes data) =>
    c.count = (min data.length c.size.toNat : Nat) ∧ c.copied = data.take c.size.toNat
  | _ => c.count = -1 ∧ c.copied = []

/-- The file raised an `OSError` with a number that no C `long` holds: `set_errno` leaves
an exception of its own behind, which the next call finds pending. -/
def ReadCall.Overflows (c : ReadCall) : Prop :=
  ∃ e, c.outcome = .error e ∧ errnoOverflows e = true

/-- The file returned no more than it was asked for. -/
def ReadCall.Within (c : ReadCall) : Prop :=
  (returnedBytes c.outcome).length ≤ c.size.toNat

theorem ReadCall.Clips.copied_eq {c : ReadCall} (h : c.Clips) :
    c.copied = (returnedBytes c.outcome).take c.size.toNat := by
  unfold ReadCall.Clips at h
  split at h
  next data outcome => rw [outcome]; exact h.2
  next other =>
    have none_returned : returnedBytes c.outcome = [] := by
      unfold returnedBytes
      split
      next data outcome => exact absurd outcome (other data)
      · rfl
    rw [h.2, none_returned, List.take_nil]

/-- A count of 0 for a request of some bytes means the end of the file. -/
theorem ReadCall.Clips.end_of_file {c : ReadCall} (h : c.Clips) (zero : c.count = 0)
    (asked : c.size ≠ 0) : c.outcome = .ok (.bytes []) := by
  unfold ReadCall.Clips at h
  split at h
  next data outcome =>
    have positive : c.size.toNat ≠ 0 := fun h => asked (BitVec.eq_of_toNat_eq h)
    have empty : data.length = 0 := by omega
    rw [outcome, List.length_eq_zero_iff.mp empty]
  next => omega

/-- What gpgme got, by the calls so far. All is said of calls that start with nothing
pending, as each one does that no call with an overflowing error number precedes. -/
structure ReadsClip (s : Input σ) : Prop where
  calls : ∀ c ∈ s.calls, c.quiet → c.Clips
  ending : ∀ c ∈ s.calls, c.quiet → c.count = 0 → c.size ≠ 0 → c.outcome = .ok (.bytes [])
  delivered : s.delivered = s.calls.flatMap ReadCall.copied
  returned : s.returned = s.calls.flatMap fun c => returnedBytes c.outcome
  complete : (∀ c ∈ s.calls, c.quiet) →
    (s.delivered = s.returned ↔ ∀ c ∈ s.calls, c.Within)
  quiet : ∀ before c, before ++ [c] <+: s.calls → (∀ b ∈ before, ¬ b.Overflows) → c.quiet

/-- What one request adds. -/
theorem readCall_clips {r : Reader σ} {s s' : Input σ} {size : BitVec 64}
    (taken : s.step r size = some s') :
    ∃ c : ReadCall, c.quiet = s.interp.pending.isNone ∧
      (c.quiet → c.Clips ∧ (¬ c.Overflows → s'.interp.pending = none)) ∧
      s'.calls = s.calls ++ [c] ∧ s'.delivered = s.delivered ++ c.copied ∧
      s'.returned = s.returned ++ returnedBytes c.outcome := by
  have clips : achieves (readCb size (fun n => (r.read s.file n).2)
      (r.handled s.file size.toInt) id) s.interp fun got t =>
      s.interp.pending = none →
        (⟨size, true, (r.read s.file size.toInt).2, got.1, got.2⟩ : ReadCall).Clips ∧
        ((∀ e, (r.read s.file size.toInt).2 = .error e → errnoOverflows e = false) →
          t.pending = none) := by
    rw [achieves_readCb]
    cases pending : s.interp.pending with
    | some e =>
      -- Nothing is said of a call that finds an exception pending.
      simp only [reduceCtorEq, false_implies]
      split <;> trivial
    | none =>
      unfold ReadCall.Clips
      simp only [Option.isSome_none, ending_quiet, forall_const]
      cases (r.read s.file size.toInt).2 with
      | error e => simp +contextual
      | ok result => cases result <;> simp
  obtain ⟨⟨count, copied⟩, interp, ran, h⟩ := clips
  simp only [Input.step, ran, Option.some.injEq] at taken
  subst taken
  refine ⟨_, rfl, ?_, rfl, rfl, rfl⟩
  intro quiet
  have nothing := Option.isNone_iff_eq_none.mp quiet
  obtain ⟨clips, settles⟩ := h nothing
  refine ⟨by simpa only [nothing, Option.isNone_none] using clips, ?_⟩
  intro mild
  apply settles
  intro e raised
  rw [← Bool.not_eq_true]
  exact fun overflows => mild ⟨e, raised, overflows⟩

theorem length_clipped_le (calls : List ReadCall) :
    (calls.flatMap fun c => (returnedBytes c.outcome).take c.size.toNat).length ≤
      (calls.flatMap fun c => returnedBytes c.outcome).length := by
  induction calls with
  | nil => exact Nat.le_refl 0
  | cons c rest ih =>
    simp only [List.flatMap_cons, List.length_append, List.length_take]
    omega

/-- Clipped pieces add up to the whole exactly when no piece was clipped. -/
theorem clipped_flatMap_eq_iff (calls : List ReadCall) :
    (calls.flatMap fun c => (returnedBytes c.outcome).take c.size.toNat) =
        (calls.flatMap fun c => returnedBytes c.outcome) ↔ ∀ c ∈ calls, c.Within := by
  constructor
  · intro same
    induction calls with
    | nil => simp
    | cons c rest ih =>
      have lengths := congrArg List.length same
      have shorter := length_clipped_le rest
      simp only [List.flatMap_cons, List.length_append, List.length_take] at lengths
      have within : c.Within := by
        unfold ReadCall.Within
        omega
      have first := List.take_of_length_le within
      simp only [List.flatMap_cons, first, List.append_cancel_left_eq] at same
      intro d member
      rcases List.mem_cons.mp member with rfl | later
      · exact within
      · exact ih same d later
  · intro within
    apply List.flatMap_congr
    intro c member
    exact List.take_of_length_le (within c member)

/-- What every request preserves. -/
structure PiecesHold (s : Input σ) : Prop where
  calls : ∀ c ∈ s.calls, c.quiet → c.Clips
  delivered : s.delivered = s.calls.flatMap ReadCall.copied
  returned : s.returned = s.calls.flatMap fun c => returnedBytes c.outcome
  quiet : ∀ before c, before ++ [c] <+: s.calls → (∀ b ∈ before, ¬ b.Overflows) → c.quiet
  settled : (∀ c ∈ s.calls, ¬ c.Overflows) → s.interp.pending = none

theorem PiecesHold.request {r : Reader σ} {s s' : Input σ} {size : BitVec 64}
    (h : PiecesHold s) (taken : s.step r size = some s') : PiecesHold s' := by
  obtain ⟨c, entered, clips, appended, copied, got⟩ := readCall_clips taken
  have starts_quiet : (∀ b ∈ s.calls, ¬ b.Overflows) → c.quiet := by
    intro mild
    rw [entered, h.settled mild]
    rfl
  constructor
  · intro d member
    rw [appended] at member
    rcases List.mem_append.mp member with older | new
    · exact h.calls d older
    · rw [List.mem_singleton.mp new]
      exact fun starts => (clips starts).1
  · rw [copied, appended, h.delivered, List.flatMap_append, List.flatMap_singleton]
  · rw [got, appended, h.returned, List.flatMap_append, List.flatMap_singleton]
  · intro before d first mild
    rw [appended] at first
    rcases List.prefix_concat_iff.mp first with same | older
    · obtain ⟨rfl, last⟩ := List.append_inj' same rfl
      cases last
      exact starts_quiet mild
    · exact h.quiet before d older mild
  · intro mild
    rw [appended] at mild
    have starts := starts_quiet fun b member => mild b (List.mem_append_left _ member)
    exact (clips starts).2 (mild c (List.mem_append_right _ (List.mem_singleton_self c)))

/-- For every file object and every sequence of requests: of each bytes object the file
returned gpgme gets the first `size` bytes, so it gets all of them exactly when no read
returned more than it was asked for; 0 for a request of some bytes only at `b''`; and -1
with no bytes when the file raised or returned no bytes. -/
theorem reads_clip (r : Reader σ) (start : σ) (s : Input σ)
    (reached : Reachable (input r start) s) : ReadsClip s := by
  have pieces : PiecesHold s := by
    apply Reach.invariant _ _ reached
    · rintro t rfl
      constructor <;> simp [Interp.clean]
    · intro t size t' h _ taken
      exact h.request taken
  refine ⟨pieces.calls, ?_, pieces.delivered, pieces.returned, ?_, pieces.quiet⟩
  · intro c member starts zero asked
    exact (pieces.calls c member starts).end_of_file zero asked
  · intro all_quiet
    have copied := List.flatMap_congr fun c member =>
      (pieces.calls c member (all_quiet c member)).copied_eq
    rw [pieces.delivered, pieces.returned, copied]
    exact clipped_flatMap_eq_iff s.calls

/-- A file that hands out three bytes whatever it is asked for. -/
def threeBytes : Reader Unit where
  read := fun _ _ => ((), .ok (.bytes [1, 2, 3]))
  handled := fun _ _ => none

theorem reads_clip_threeBytes :
    ∃ s, Reachable (input threeBytes ()) s ∧ s.delivered = [1, 2, 1, 2, 3] ∧
      (∀ c ∈ s.calls, c.quiet) ∧ ReadsClip s := by
  have asked : Reachable (input threeBytes ())
      ⟨(), Interp.clean, [1, 2, 3, 1, 2, 3], [1, 2, 1, 2, 3],
        [⟨2, true, .ok (.bytes [1, 2, 3]), 2, [1, 2]⟩,
          ⟨8, true, .ok (.bytes [1, 2, 3]), 3, [1, 2, 3]⟩]⟩ :=
    .step 8 (.step 2 (.init rfl) trivial rfl) trivial rfl
  exact ⟨_, asked, rfl, by simp, reads_clip threeBytes () _ asked⟩

/-- Asked for two bytes, it loses the third without a word. -/
theorem oversized_read_loses_bytes :
    ¬ ∀ s, Reachable (input threeBytes ()) s →
      s.delivered = s.returned ∨ ∃ c ∈ s.calls, c.count = -1 := by
  intro lossless
  have asked : Reachable (input threeBytes ())
      ⟨(), Interp.clean, [1, 2, 3], [1, 2], [⟨2, true, .ok (.bytes [1, 2, 3]), 2, [1, 2]⟩]⟩ :=
    .step 2 (.init rfl) trivial rfl
  have claimed := lossless _ asked
  revert claimed
  simp

end Pygpgme.Guarantees.Streams
