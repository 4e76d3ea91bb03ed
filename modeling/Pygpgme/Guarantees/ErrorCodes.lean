import Pygpgme.Source.Error

/-!
# Errors across the Python boundary

A gpgme error that becomes a `GpgmeError` and is raised again inside a callback
comes back as the same number. In the other direction, an exception that the user
built may name the code 0, or an `errno` of 0, and then the failed callback looks
like a successful one to gpgme; no other exception is lost.
-/

set_option autoImplicit false

namespace Pygpgme.Guarantees.ErrorCodes
open Pygpgme.Library.BitField Pygpgme.Library.Program
open Pygpgme.Source.Python Pygpgme.Source.Error

/-! ## Which exceptions are reported as failures -/

/-- What gpgme must learn after a callback, and what must be left of the exception. -/
def FailureReported (state : ModState) (s : Interp) : Prop :=
  achieves (checkPyerror state) s fun err s' =>
    (s.pending.isSome = true → errCode err ≠ 0) ∧ (err = noError ↔ s.pending = none) ∧
      s'.pending = none

/-- A `GpgmeError` whose code is a multiple of 65536. -/
def CodeMaskedAway (e : PyExc) : Prop :=
  e.cls.isGpgmeError = true ∧ ∃ source code rest s c, e.args = source :: code :: rest ∧
    source.long? = some s ∧ code.long? = some c ∧ FitsLong c ∧ c % 65536 = 0

/-- An `OSError` whose first argument is a multiple of 2³². -/
def ErrnoZero (e : PyExc) : Prop :=
  e.cls.isGpgmeError = false ∧ e.cls.isOSError = true ∧ ∃ source rest n,
    e.args = source :: rest ∧ source.long? = some n ∧ FitsLong n ∧ n % 4294967296 = 0

theorem longValue_emod_eq_zero (n : Int) {m : Int} (even : 2 ∣ m) :
    longValue n % m = 0 ↔ FitsLong n ∧ n % m = 0 := by
  unfold longValue
  split
  next fits => simp [fits]
  next exceeds =>
    simp only [exceeds, false_and, iff_false]
    intro divisible
    have divides : (2 : Int) ∣ -1 := even.trans (Int.dvd_of_emod_eq_zero divisible)
    omega

/-- gpgme takes such a value for a success. -/
def NoCode (err : GpgError) : Prop := errCode err = 0

theorem noCode_iff (err : GpgError) : NoCode err ↔ (errCode err).toNat = 0 := by
  unfold NoCode
  rw [← BitVec.toNat_inj]
  rfl

theorem noCode_errMakeLong (source code : Int) :
    NoCode (errMakeLong source code) ↔ code % 65536 = 0 := by
  have packed := toNat_errCode_errMake (narrow 32 source) (narrow 32 code)
  have narrowed : ((narrow 32 code).toNat : Int) = code % 2 ^ 32 := toNat_narrow code
  rw [noCode_iff, errMakeLong, packed]
  omega

theorem noCode_errno (codes : ErrnoCodes) (n : Int) :
    NoCode (codes.code (narrow 32 n)) ↔ n % 4294967296 = 0 := by
  have narrowed : ((narrow 32 n).toNat : Int) = n % 2 ^ 32 := toNat_narrow n
  have zero : narrow 32 n = 0 ↔ n % 4294967296 = 0 := by
    rw [← BitVec.toNat_inj]
    simp only [BitVec.ofNat_eq_ofNat, BitVec.toNat_ofNat, Nat.zero_mod]
    omega
  rw [← zero]
  constructor
  · intro lost
    by_contra nonzero
    exact codes.nonzero _ nonzero lost
  · intro h
    rw [h, codes.zero]
    rfl

theorem not_noCode_general : ¬ NoCode (gpgmeError generalCode) := by
  unfold NoCode
  decide

/-- The two kinds of exceptions that are reported with the code 0. -/
theorem noCode_pyerrorCode (state : ModState) (e : PyExc) :
    NoCode (pyerrorCode state e) ↔ CodeMaskedAway e ∨ ErrnoZero e := by
  unfold pyerrorCode CodeMaskedAway ErrnoZero
  cases e.args with
  | nil => simp [not_noCode_general]
  | cons source rest =>
    cases ofGpgmeError : e.cls.isGpgmeError with
    | true =>
      cases rest with
      | nil => simp [not_noCode_general]
      | cons code others =>
        cases sourceLong : source.long? with
        | none => simp [not_noCode_general, sourceLong]
        | some a =>
          cases codeLong : code.long? with
          | none => simp [not_noCode_general, codeLong]
          | some b =>
            have masked := longValue_emod_eq_zero b (by omega : (2 : Int) ∣ 65536)
            simp [sourceLong, codeLong, noCode_errMakeLong, masked]
    | false =>
      cases ofOSError : e.cls.isOSError with
      | false => simp [not_noCode_general]
      | true =>
        cases sourceLong : source.long? with
        | none => simp [not_noCode_general, sourceLong]
        | some a =>
          have masked := longValue_emod_eq_zero a (by omega : (2 : Int) ∣ 4294967296)
          simp [sourceLong, noCode_errno, masked]

/-- A failed callback is reported as a failure exactly for the exceptions that do
not carry a code, or an `errno`, that the narrowing turns into 0. -/
theorem failure_reported_iff (state : ModState) (s : Interp) :
    FailureReported state s ↔
      ∀ e, s.pending = some e → ¬ CodeMaskedAway e ∧ ¬ ErrnoZero e := by
  unfold FailureReported
  rw [achieves_checkPyerror]
  cases s.pending with
  | none => simp
  | some e =>
    have lost := noCode_pyerrorCode state e
    have zero : pyerrorCode state e = noError → NoCode (pyerrorCode state e) := by
      intro h
      rw [h]
      rfl
    simp only [Option.isSome_some, forall_const, reduceCtorEq, iff_false, and_true,
      Option.some.injEq, forall_eq']
    constructor
    · rintro ⟨reported, _⟩
      exact not_or.mp fun masked => reported (lost.mpr masked)
    · rintro ⟨notMasked, notErrno⟩
      have reported : errCode (pyerrorCode state e) ≠ 0 := fun h =>
        (lost.mp h).elim notMasked notErrno
      exact ⟨reported, fun h => reported (zero h)⟩

/-- A module state with the smallest enums, and every `errno` unknown to libgpg-error. -/
def plainState : ModState where
  errSourceType := ⟨"ErrSource", [0, 7]⟩
  errCodeType := ⟨"ErrCode", [1, 99]⟩
  strerror := fun _ => []
  errnoCodes :=
    { code := fun n => if n = 0 then noError else 16382
      zero := rfl
      nonzero := fun n nonzero => by
        rw [if_neg nonzero]
        decide }

/-- `raise GpgmeError(7, 0)` in a passphrase callback. -/
theorem gpgmeError_without_code_not_reported :
    ¬ FailureReported plainState ⟨some ⟨.gpgmeError, [.int 7, .int 0], []⟩, 0, []⟩ := by
  unfold FailureReported
  rw [achieves_checkPyerror]
  rintro ⟨reported, _⟩
  exact reported rfl (by decide)

/-! ## The round trip of an error value -/

/-- The numbers of an error value, as arguments and as attributes. -/
structure Carries (e : PyExc) (err : GpgError) : Prop where
  cls : e.cls.isGpgmeError = true
  args : ∃ source code rest, e.args = source :: code :: rest ∧
    source.long? = some ((errSource err).toNat : Int) ∧
    code.long? = some ((errCode err).toNat : Int)
  source : ∃ v, e.getAttr "source" = some v ∧ v.long? = some ((errSource err).toNat : Int)
  code : ∃ v, e.getAttr "code" = some v ∧ v.long? = some ((errCode err).toNat : Int)

theorem errorExc_carries (state : ModState) (err : GpgError) :
    Carries (errorExc state err) err where
  cls := rfl
  args := ⟨_, _, _, rfl, by simp, by simp⟩
  source := ⟨_, rfl, by simp⟩
  code := ⟨_, rfl, by simp⟩

theorem fitsLong_toNat (word : BitVec 32) : FitsLong word.toNat := by
  have bound := word.isLt
  unfold FitsLong longMin longMax
  omega

/-- Unpacking and packing again changes nothing but the bits outside both fields. -/
theorem errMakeLong_fields {err : GpgError}
    (fields : err = (errSource err <<< 24) ||| errCode err) (failed : errCode err ≠ 0) :
    errMakeLong (errSource err).toNat (errCode err).toNat = err := by
  have sourceBound : (errSource err).toNat < 2 ^ 7 := by
    rw [toNat_errSource]
    omega
  have codeBound : (errCode err).toNat < 2 ^ 16 := by
    rw [toNat_errCode]
    omega
  have sourceSame : (narrow 32 (errSource err).toNat).toNat = (errSource err).toNat :=
    toNat_narrow_of_lt (by omega)
  have codeSame : (narrow 32 (errCode err).toNat).toNat = (errCode err).toNat :=
    toNat_narrow_of_lt (by omega)
  have nonzero : narrow 32 (errCode err).toNat ≠ 0 := by
    intro zero
    apply failed
    apply BitVec.eq_of_toNat_eq
    rw [← codeSame, zero]
  have joined : err.toNat = (errSource err).toNat * 2 ^ 24 + (errCode err).toNat := by
    have := toNat_join (errSource err) (errCode err) (by omega : _ < 2 ^ 24) (by omega)
    rw [← this, ← fields]
  apply BitVec.eq_of_toNat_eq
  rw [errMakeLong, toNat_errMake _ nonzero, sourceSame, codeSame, joined]
  omega

theorem pyerrorCode_of_carries (state : ModState) {e : PyExc} {err : GpgError}
    (fields : err = (errSource err <<< 24) ||| errCode err) (failed : errCode err ≠ 0)
    (carries : Carries e err) : pyerrorCode state e = err := by
  obtain ⟨source, code, rest, args, sourceLong, codeLong⟩ := carries.args
  have sourceValue : longValue (errSource err).toNat = (errSource err).toNat :=
    if_pos (fitsLong_toNat _)
  have codeValue : longValue (errCode err).toNat = (errCode err).toNat :=
    if_pos (fitsLong_toNat _)
  simp only [pyerrorCode, args, carries.cls, if_true, sourceLong, codeLong, sourceValue,
    codeValue]
  exact errMakeLong_fields fields failed

/-- What raising an error value has to leave pending. -/
def RaisesSame (err : GpgError) (raised : Bool) (s : Interp) : Prop :=
  raised = true ∧ ∃ e, s.pending = some e ∧ Carries e err

/-- For every error value made of its two fields with a code that is not 0: the
exception raised for it carries its source and code; raised again in a passphrase
or an edit callback, any exception that carries them comes back as the same value;
and an operation failing with that value raises one that carries them again. -/
theorem error_round_trip (state : ModState) (statusType : IntEnum) (status : Int)
    (err : GpgError) (fields : err = (errSource err <<< 24) ||| errCode err)
    (failed : errCode err ≠ 0) (s : Interp) (quiet : s.pending = none) :
    achieves (checkError state err) s (RaisesSame err) ∧
      ∀ e, Carries e err →
        achieves (passphraseCb state (.error e)) s
          (fun back s' => back = err ∧ s'.pending = none) ∧
        achieves (editCb state statusType status (.error e)) s
          (fun back s' => back = err ∧ s'.pending = none) ∧
        achieves (passphraseCb state (.error e) >>= checkError state) s (RaisesSame err) ∧
        achieves (editCb state statusType status (.error e) >>= checkError state) s
          (RaisesSame err) := by
  have nonzero : err ≠ noError := by
    rintro rfl
    exact failed rfl
  have carried := errorExc_carries state err
  refine ⟨by simp [nonzero, quiet, carried, RaisesSame], fun e carries => ?_⟩
  have same := pyerrorCode_of_carries state fields failed carries
  refine ⟨?_, ?_, ?_, ?_⟩
  · simp [passphraseCb, same, quiet]
  · simp [editCb, same, quiet]
  · simp [passphraseCb, same, quiet, nonzero, carried, RaisesSame]
  · simp [editCb, same, quiet, nonzero, carried, RaisesSame]

/-- A code that no enum has, from the gpgme source. -/
theorem error_round_trip_unknown_code :
    achieves (checkError plainState 0x07001234) Interp.clean (RaisesSame 0x07001234) :=
  (error_round_trip plainState ⟨"Status", [0]⟩ 5 0x07001234 (by decide) (by decide)
    Interp.clean rfl).1

end Pygpgme.Guarantees.ErrorCodes
