import Pygpgme.Source.Data

/-!
# Errors of the stream callbacks

A failed callback must return -1, set `errno` and leave no exception. `set_errno`
converts whatever `errno` attribute the exception has before it gives the exception up,
`seek_cb` whatever number `tell` returns, and `write_cb` ignores what `write` returns. So
this holds exactly when those numbers are what their names say, and `errno` survives the
destructors of the exception.
-/

set_option autoImplicit false

namespace Pygpgme.Guarantees.StreamErrors
open Pygpgme.Library.BitField Pygpgme.Library.Program
open Pygpgme.Source.Python Pygpgme.Source.Error Pygpgme.Source.Data

/-- gpgme calls `cb` with no exception pending. It returns -1 exactly when a method
`failed`, and leaves none pending; a failure sets `errno`, whatever it was, to a number
other than 0. -/
structure ReportsCleanly {α : Type} (cb : Py α) (count : α → Int) (failed : Prop) : Prop where
  verdict : ∀ before, before.pending = none →
    achieves cb before fun r after => (count r = -1 ↔ failed) ∧ after.pending = none
  errno : failed → ∃ n, n ≠ 0 ∧ ∀ before, before.pending = none →
    achieves cb before fun _ after => after.errno = n

/-! ## When a method failed -/

def ReadFailed (outcome : Except PyExc PyObject) : Prop := ∀ data, outcome ≠ .ok (.bytes data)

/-- What `write` returns is the number of bytes it accepted. -/
def usableCount (buffer : Bytes) (o : PyObject) : Prop :=
  ∃ n, o.long? = some n ∧ 0 ≤ n ∧ n ≤ buffer.length

/-- `write` is called with a buffer that fits into a bytes object. -/
def WriteFailed (buffer : Bytes) (write : PyObject → Except PyExc PyObject) : Prop :=
  FitsLong buffer.length ∧ ∀ result, write (.bytes buffer) = .ok result →
    ¬ usableCount buffer result

/-- A position is a number that is not negative and fits into an `off_t`. -/
def usablePosition (o : PyObject) : Prop := ∃ n, o.long? = some n ∧ 0 ≤ n ∧ n ≤ longMax

def SeekFailed (sought tell : Except PyExc PyObject) : Prop :=
  (∃ e, sought = .error e) ∨ ∀ position, tell = .ok position → ¬ usablePosition position

/-! ## When `errno` can be set -/

/-- The `errno` attribute as an `int`, if the exception has one that is a number. -/
def errnoNumber (e : PyExc) : Int :=
  match errnoAttr e with
  | some n => n.bmod (2 ^ 32)
  | none => EINVAL

section
variable (destructors : Int → Int)

/-- The attribute fits into a `long`, and what the destructors of the exception leave of
the number is not 0. -/
def Reportable (e : PyExc) : Prop :=
  (∀ n, errnoAttr e = some n → FitsLong n) ∧ destructors (errnoNumber e) ≠ 0

/-- Every exception that is raised is reportable. -/
def RaisesReportable (outcome : Except PyExc PyObject) : Prop :=
  ∀ e, outcome = .error e → Reportable destructors e

end

/-- A number of bytes that `write` returns is one. -/
def CountsBytes (buffer : Bytes) (outcome : Except PyExc PyObject) : Prop :=
  ∀ result, outcome = .ok result → usableCount buffer result

/-- A number that `tell` returns is a position. -/
def TellsPosition (outcome : Except PyExc PyObject) : Prop :=
  ∀ position, outcome = .ok position → ∀ n, position.long? = some n → 0 ≤ n ∧ n ≤ longMax

theorem intOf_eq_bmod (n : Int) : intOf n = n.bmod (2 ^ 32) :=
  BitVec.toInt_ofInt n

theorem reportable_iff (destructors : Int → Int) (e : PyExc) :
    Reportable destructors e ↔ errnoOverflows e = false ∧ destructors (errnoValue e) ≠ 0 := by
  unfold Reportable errnoNumber errnoOverflows errnoValue
  cases errnoAttr e with
  | none => simp
  | some n =>
    by_cases fits : FitsLong n
    · simp [fits, longValue, intOf_eq_bmod]
    · simp [fits]

/-- Where no destructor touches `errno`, the attribute must not become 0 as an `int`. -/
theorem reportable_id_iff (e : PyExc) :
    Reportable id e ↔ ∀ n, errnoAttr e = some n → FitsLong n ∧ n % 4294967296 ≠ 0 := by
  unfold Reportable errnoNumber
  cases errnoAttr e with
  | none => simp [EINVAL]
  | some n =>
    have zero : n.bmod (2 ^ 32) = 0 ↔ n % 4294967296 = 0 := by
      rw [← Int.dvd_iff_emod_eq_zero, ← Int.dvd_iff_bmod_eq_zero]
      rfl
    simp only [Option.some.injEq, forall_eq', id_eq, ne_eq, zero]

/-! ## A callback that ends in one way -/

section
variable {α : Type} {cb : Py α} {count : α → Int} {failed : Prop}

/-- A callback that returns `r`, leaves `pending` and sets `errno` to `n`. -/
theorem reportsCleanly_of_set (r : α) (pending : Option PyExc) (n : Int)
    (ends : ∀ before, before.pending = none → ∀ (Q : α → Interp → Prop),
      achieves cb before Q ↔ Q r { before with pending := pending, errno := n }) :
    ReportsCleanly cb count failed ↔
      (count r = -1 ↔ failed) ∧ pending = none ∧ (failed → n ≠ 0) := by
  constructor
  · intro clean
    have verdict := (ends Interp.clean rfl _).mp (clean.verdict Interp.clean rfl)
    refine ⟨verdict.1, verdict.2, ?_⟩
    intro fails
    obtain ⟨value, nonzero, set⟩ := clean.errno fails
    have same : n = value := (ends Interp.clean rfl _).mp (set Interp.clean rfl)
    rwa [same]
  · intro shape
    obtain ⟨verdict, quiet, nonzero⟩ := shape
    constructor
    · intro before quiet_before
      rw [ends before quiet_before]
      exact ⟨verdict, quiet⟩
    · intro fails
      refine ⟨n, nonzero fails, ?_⟩
      intro before quiet_before
      rw [ends before quiet_before]

/-- A callback that does not touch `errno` must not have failed. -/
theorem reportsCleanly_of_kept (r : α) (pending : Option PyExc)
    (ends : ∀ before, before.pending = none → ∀ (Q : α → Interp → Prop),
      achieves cb before Q ↔ Q r { before with pending := pending }) :
    ReportsCleanly cb count failed ↔ ¬ failed ∧ count r ≠ -1 ∧ pending = none := by
  constructor
  · intro clean
    have verdict := (ends Interp.clean rfl _).mp (clean.verdict Interp.clean rfl)
    have succeeded : ¬ failed := by
      intro fails
      obtain ⟨value, nonzero, set⟩ := clean.errno fails
      have same : (0 : Int) = value := (ends Interp.clean rfl _).mp (set Interp.clean rfl)
      exact nonzero same.symm
    exact ⟨succeeded, fun minus => succeeded (verdict.1.mp minus), verdict.2⟩
  · intro shape
    obtain ⟨succeeded, count, quiet⟩ := shape
    constructor
    · intro before quiet_before
      rw [ends before quiet_before]
      exact ⟨⟨fun minus => absurd minus count, fun fails => absurd fails succeeded⟩, quiet⟩
    · exact fun fails => absurd fails succeeded

/-- A method raised: the exception decides. -/
theorem reportsCleanly_of_raised (destructors : Int → Int) (r : α) (e : PyExc)
    (minus : count r = -1) (fails : failed)
    (ends : ∀ before, before.pending = none → ∀ (Q : α → Interp → Prop),
      achieves cb before Q ↔ Q r { before with
        pending := if errnoOverflows e then some overflowError else none
        errno := destructors (errnoValue e) }) :
    ReportsCleanly cb count failed ↔ Reportable destructors e := by
  rw [reportsCleanly_of_set r _ _ ends, reportable_iff]
  cases errnoOverflows e <;> simp [minus, fails]

end

/-! ## The three callbacks -/

section
variable (destructors : Int → Int)

theorem readCb_reportsCleanly (size : BitVec 64) (read : Int → Except PyExc PyObject) :
    ReportsCleanly (readCb size read none destructors) Prod.fst
        (ReadFailed (read size.toInt)) ↔
      RaisesReportable destructors (read size.toInt) := by
  cases outcome : read size.toInt with
  | error e =>
    have fails : ReadFailed (.error e) := by simp [ReadFailed]
    rw [reportsCleanly_of_raised destructors (-1, []) e rfl fails]
    · simp [RaisesReportable]
    · intro before quiet Q
      rw [achieves_readCb, outcome, quiet, Option.isSome_none, ending_quiet]
  | ok result =>
    have reportable : RaisesReportable destructors (.ok result) := by simp [RaisesReportable]
    simp only [reportable, iff_true]
    cases result with
    | bytes data =>
      have succeeded : ¬ ReadFailed (.ok (.bytes data)) := by simp [ReadFailed]
      rw [reportsCleanly_of_kept (((min data.length size.toNat : Nat) : Int),
        data.take size.toNat) none]
      · have counted : ((min data.length size.toNat : Nat) : Int) ≠ -1 := by omega
        exact ⟨succeeded, counted, rfl⟩
      · intro before quiet Q
        rw [achieves_readCb, outcome, quiet, Option.isSome_none, ending_quiet]
    | _ =>
      rw [reportsCleanly_of_set (-1, []) none EINVAL]
      · simp [ReadFailed, EINVAL]
      · intro before quiet Q
        rw [achieves_readCb, outcome, quiet, Option.isSome_none, ending_quiet]

theorem writeCb_reportsCleanly (buffer : Bytes) (write : PyObject → Except PyExc PyObject) :
    ReportsCleanly (writeCb buffer write none destructors) id (WriteFailed buffer write) ↔
      FitsLong buffer.length ∧ RaisesReportable destructors (write (.bytes buffer)) ∧
        CountsBytes buffer (write (.bytes buffer)) := by
  by_cases fits : FitsLong buffer.length
  · cases outcome : write (.bytes buffer) with
    | error e =>
      have fails : WriteFailed buffer write := ⟨fits, by simp [outcome]⟩
      rw [reportsCleanly_of_raised destructors (-1) e rfl fails]
      · simp [RaisesReportable, CountsBytes, fits]
      · intro before quiet Q
        rw [achieves_writeCb, if_pos fits, outcome, quiet, Option.isSome_none, ending_quiet]
    | ok result =>
      -- The length is returned, whatever `write` says.
      have failed : WriteFailed buffer write ↔ ¬ usableCount buffer result := by
        simp [WriteFailed, fits, outcome]
      have counted : (buffer.length : Int) ≠ -1 := by omega
      rw [reportsCleanly_of_kept (buffer.length : Int) none]
      · rw [failed]
        simp [RaisesReportable, CountsBytes, fits, counted]
      · intro before quiet Q
        rw [achieves_writeCb, if_pos fits, outcome, quiet, Option.isSome_none, ending_quiet]
  · have succeeded : ¬ WriteFailed buffer write := fun fails => fits fails.1
    rw [reportsCleanly_of_set (-1) none EINVAL]
    · simp [fits, succeeded]
    · intro before _ Q
      rw [achieves_writeCb, if_neg fits]

theorem seekCb_reportsCleanly (offset whence : Int) (seek : Int → Int → Except PyExc PyObject)
    (tell : Except PyExc PyObject) :
    ReportsCleanly (seekCb offset whence seek tell none destructors) id
        (SeekFailed (seek offset whence) tell) ↔
      RaisesReportable destructors (seek offset whence) ∧
        ((∃ position, seek offset whence = .ok position) →
          RaisesReportable destructors tell ∧ TellsPosition tell) := by
  cases sought : seek offset whence with
  | error e =>
    have fails : SeekFailed (.error e) tell := .inl ⟨e, rfl⟩
    rw [reportsCleanly_of_raised destructors (-1) e rfl fails]
    · simp [RaisesReportable]
    · intro before quiet Q
      rw [achieves_seekCb, sought, quiet, Option.isSome_none, ending_quiet]
  | ok position =>
    cases tell with
    | error e =>
      have fails : SeekFailed (.ok position) (.error e) := .inr (by simp)
      rw [reportsCleanly_of_raised destructors (-1) e rfl fails]
      · simp [RaisesReportable, TellsPosition]
      · intro before quiet Q
        rw [achieves_seekCb, sought, quiet, Option.isSome_none, ending_quiet]
    | ok result =>
      cases number : result.long? with
      | none =>
        rw [reportsCleanly_of_set (-1) none EINVAL]
        · simp [RaisesReportable, TellsPosition, SeekFailed, usablePosition, number, EINVAL]
        · intro before quiet Q
          rw [achieves_seekCb, sought, quiet, Option.isSome_none, ending_quiet]
          simp only [number]
      | some n =>
        rw [reportsCleanly_of_kept (longValue n)
          (if FitsLong n then none else some overflowError)]
        · have told : TellsPosition (.ok result) ↔ 0 ≤ n ∧ n ≤ longMax := by
            simp [TellsPosition, number]
          have failed : SeekFailed (.ok position) (.ok result) ↔ ¬ (0 ≤ n ∧ n ≤ longMax) := by
            simp [SeekFailed, usablePosition, number]
          have quiet : (if FitsLong n then none else some overflowError) = none ↔ FitsLong n := by
            split <;> simp_all
          have fits : 0 ≤ n → n ≤ longMax → longValue n ≠ -1 ∧ FitsLong n := by
            intro low high
            have fits : FitsLong n := ⟨by unfold longMin; omega, high⟩
            rw [longValue, if_pos fits]
            exact ⟨by omega, fits⟩
          rw [told, failed, quiet]
          simpa [RaisesReportable] using fits
        · intro before quiet Q
          rw [achieves_seekCb, sought, quiet, Option.isSome_none, ending_quiet]
          simp only [number]

end

/-- A callback, with what the methods of the file do when it calls them. -/
inductive Call where
  | read (size : BitVec 64) (ask : Int → Except PyExc PyObject)
  | write (buffer : Bytes) (ask : PyObject → Except PyExc PyObject)
  | seek (offset whence : Int) (ask : Int → Int → Except PyExc PyObject)
      (tell : Except PyExc PyObject)

section
variable (destructors : Int → Int)

def Call.Clean : Call → Prop
  | .read size ask =>
    ReportsCleanly (readCb size ask none destructors) Prod.fst (ReadFailed (ask size.toInt))
  | .write buffer ask =>
    ReportsCleanly (writeCb buffer ask none destructors) id (WriteFailed buffer ask)
  | .seek offset whence ask tell =>
    ReportsCleanly (seekCb offset whence ask tell none destructors) id
      (SeekFailed (ask offset whence) tell)

/-- The exceptions raised have a usable `errno`, the buffer fits into a bytes object,
`write` returns how much of it was accepted, and `tell` returns a position. -/
def Call.Reportable : Call → Prop
  | .read size ask => RaisesReportable destructors (ask size.toInt)
  | .write buffer ask => FitsLong buffer.length ∧
    RaisesReportable destructors (ask (.bytes buffer)) ∧ CountsBytes buffer (ask (.bytes buffer))
  | .seek offset whence ask tell =>
    RaisesReportable destructors (ask offset whence) ∧
      ((∃ position, ask offset whence = .ok position) →
        RaisesReportable destructors tell ∧ TellsPosition tell)

/-- For every behaviour of the file object, and whatever the destructors of its exceptions
do to `errno`, a callback reports errors cleanly exactly when they are reportable. -/
theorem stream_callback_clean_iff (call : Call) :
    call.Clean destructors ↔ call.Reportable destructors := by
  cases call with
  | read size ask => exact readCb_reportsCleanly destructors size ask
  | write buffer ask => exact writeCb_reportsCleanly destructors buffer ask
  | seek offset whence ask tell =>
    exact seekCb_reportsCleanly destructors offset whence ask tell

end

/-- A file that says it is at 2⁶³. -/
def beyondLong : Except PyExc PyObject := .ok (.int (longMax + 1))

/-- -1 is returned, `errno` stays what it was, and an `OverflowError` is left behind. -/
theorem seek_beyond_long :
    ¬ (Call.seek 0 1 (fun _ _ => .ok .none) beyondLong).Clean id ∧
      achieves (seekCb 0 1 (fun _ _ => .ok .none) beyondLong none id) Interp.clean fun r after =>
        r = -1 ∧ after.errno = 0 ∧ after.pending.isSome = true := by
  constructor
  · intro clean
    have told := ((seekCb_reportsCleanly id 0 1 (fun _ _ => .ok .none) beyondLong).mp clean).2
    have position := (told ⟨_, rfl⟩).2 _ rfl _ rfl
    unfold longMax at position
    omega
  · rw [achieves_seekCb]
    change longValue (longMax + 1) = -1 ∧ (0 : Int) = 0 ∧
      (if FitsLong (longMax + 1) then none else some overflowError).isSome = true
    decide

end Pygpgme.Guarantees.StreamErrors
