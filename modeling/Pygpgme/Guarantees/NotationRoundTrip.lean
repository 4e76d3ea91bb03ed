import Pygpgme.Guarantees.FailureDetails
import Pygpgme.Guarantees.ListSetters
import Pygpgme.Source.Utf8

/-!
# Notations written and read back

What is written goes through NUL-terminated strings, what is read has a length. A
notation survives exactly when each of its strings is UTF-8 without a NUL.
-/

set_option autoImplicit false

namespace Pygpgme.Guarantees.NotationRoundTrip
open Pygpgme.Library.Program Pygpgme.Library.ListLog
open Pygpgme.Source.Python Pygpgme.Source.Error Pygpgme.Source.Results Pygpgme.Source.Setters
open Pygpgme.Source.SignLists Pygpgme.Source.Utf8
open Pygpgme.Guarantees.ListSetters
open Pygpgme.Guarantees.FailureDetails (plainModule)

/-- A module that decodes UTF-8. -/
def utf8Module (m : Module) : Module := { m with replaceUtf8 := decodeReplace }

def notationObject (item : SigNotation) : PyObject := .sigNotation (some item)

/-- If the assignment does not raise, the getter gives the notations assigned. -/
def RoundTrip (m : Module) (rets : Nat → GpgError) (before : List RawNotation)
    (value : PyObject) (errno : Int) : Prop :=
  ∀ notations : List SigNotation, value.items = .ok (notations.map notationObject) →
    achieves (contextSetSigNotations m.toModState rets (some value)) ⟨none, errno, []⟩
      fun r s => r ≠ -1 →
        contextGetSigNotations m (notationsAfter rets before s.entered) =
          .ok (.tuple (notations.map notationObject))

/-! ## One notation -/

/-- The string that comes back, if one was passed. -/
theorem decoded_text {text : List CodePoint} (valid : encodable text = true) :
    decodeReplace (cString (utf8 text)) = text.takeWhile (· ≠ 0) := by
  rw [cString_utf8 valid, decodeReplace_utf8 (encodable_takeWhile valid _)]

theorem name_survives (m : Module) (name : Option (List CodePoint)) :
    ((name.bind encoded).map cString).map (utf8Module m).replaceUtf8 = name ↔
      ∀ text, name = some text → CleanText text := by
  cases name with
  | none => simp
  | some text =>
    cases valid : encodable text with
    | true =>
      simp only [Option.bind_some, encoded, valid, if_true, Option.map_some, utf8Module,
        decoded_text valid, Option.some.injEq, takeWhile_nonzero_iff]
      simp [CleanText, valid]
    | false => simp [encoded, valid, CleanText]

theorem text_survives (m : Module) (text : List CodePoint) :
    (utf8Module m).replaceUtf8 (((encoded text).map cString).getD []) = text ↔
      CleanText text := by
  cases valid : encodable text with
  | true =>
    simp only [encoded, valid, if_true, Option.map_some, Option.getD_some, utf8Module,
      decoded_text valid, takeWhile_nonzero_iff]
    simp [CleanText, valid]
  | false =>
    have nonempty : [] ≠ text := by
      rintro rfl
      simp [encodable] at valid
    simp [encoded, valid, CleanText, utf8Module, decodeReplace, nonempty]

theorem notation_survives (m : Module) (item : SigNotation) :
    notationNew (utf8Module m) (passed item) = item ↔ Clean item := by
  obtain ⟨name, value, flags, typed⟩ := item
  unfold Clean
  rw [← name_survives m name]
  cases value with
  | text text =>
    have readable : humanReadable flags = true := typed.mpr ⟨text, rfl⟩
    simp [notationNew, passed, readable, valueBytes, CleanValue, ← text_survives m text]
  | data data =>
    have binary : humanReadable flags = false := by simpa using typed
    simp [notationNew, passed, binary, valueBytes, CleanValue, cString_eq_iff data]

/-! ## The whole list -/

theorem visited_map (notations : List SigNotation) : ∃ n,
    visited (notations.map notationObject) = (notations.take n).map notationObject := by
  refine ⟨cLength (notations.map notationObject), ?_⟩
  rw [visited, List.map_take]

/-- Among notations, only an answer of gpgme ends the loop. -/
theorem takenNotations_map (rets : Nat → GpgError) (notations : List SigNotation) : ∀ i,
    takenNotations rets i (notations.map notationObject) <+: notations := by
  induction notations with
  | nil => exact fun _ => List.prefix_rfl
  | cons item rest ih =>
    intro i
    unfold takenNotations
    simp only [List.map_cons, notationObject]
    split
    next => exact (List.prefix_cons_inj item).mpr (ih (i + 1))
    next => exact List.nil_prefix

theorem takenNotations_eq_iff (rets : Nat → GpgError) (notations : List SigNotation) : ∀ i,
    takenNotations rets i (notations.map notationObject) = notations ↔
      ∀ k, k < notations.length → rets (i + k) = noError := by
  induction notations with
  | nil =>
    intro i
    simp [takenNotations]
  | cons item rest ih =>
    intro i
    unfold takenNotations
    simp only [List.map_cons, notationObject]
    constructor
    · intro all k small
      split at all
      next ok =>
        cases k with
        | zero => exact ok
        | succ k =>
          have later := (ih (i + 1)).mp (List.cons.inj all).2 k (Nat.lt_of_succ_lt_succ small)
          rwa [Nat.add_right_comm] at later
      next => cases all
    · intro ok
      have first : rets i = noError := ok 0 (Nat.zero_lt_succ _)
      rw [if_pos first]
      apply congrArg
      apply (ih (i + 1)).mpr
      intro k small
      have later := ok (k + 1) (Nat.succ_lt_succ small)
      rwa [Nat.add_right_comm]

theorem initialised (notations : List SigNotation) (k : Nat) :
    (notations.map notationObject)[k]? ≠ some (.sigNotation none) := by
  rw [List.getElem?_map]
  cases notations[k]? with
  | none => simp
  | some item => simp [notationObject]

/-- gpgme refuses one of the notations, or none is left out and all of them are clean. -/
def roundTripHolds (rets : Nat → GpgError) (value : PyObject) : Prop :=
  ∀ notations : List SigNotation, value.items = .ok (notations.map notationObject) →
    (∀ i, i < (visited (notations.map notationObject)).length → rets i = noError) →
      visited (notations.map notationObject) = notations.map notationObject ∧
        ∀ item ∈ notations, Clean item

theorem notationObject_injective : Function.Injective notationObject := by
  intro item other same
  simpa [notationObject] using same

/-- What is read when only the first of the notations were written. -/
theorem read_back_iff (m : Module) {written notations : List SigNotation}
    (first : written <+: notations) :
    contextGetSigNotations (utf8Module m) (written.map passed) =
        .ok (.tuple (notations.map notationObject)) ↔
      written = notations ∧ ∀ item ∈ notations, Clean item := by
  have read : contextGetSigNotations (utf8Module m) (written.map passed) =
      .ok (.tuple (written.map fun item =>
        notationObject (notationNew (utf8Module m) (passed item)))) := by
    simp only [contextGetSigNotations, sequenceTuple, sigNotationListNew, List.map_map]
    rfl
  rw [read, Except.ok.injEq, PyObject.tuple.injEq]
  constructor
  · intro same
    have length := congrArg List.length same
    rw [List.length_map, List.length_map] at length
    have whole : written = notations := first.eq_of_length length
    rw [whole, List.map_inj_left] at same
    refine ⟨whole, fun item member => ?_⟩
    exact (notation_survives m item).mp (notationObject_injective (same item member))
  · intro post
    obtain ⟨whole, clean⟩ := post
    rw [whole, List.map_inj_left]
    intro item member
    rw [(notation_survives m item).mpr (clean item member)]

theorem assigned_read_back_iff (m : Module) (rets : Nat → GpgError) (before : List RawNotation)
    {value : PyObject} (errno : Int) {notations : List SigNotation}
    (found : value.items = .ok (notations.map notationObject)) :
    achieves (contextSetSigNotations (utf8Module m).toModState rets (some value))
        ⟨none, errno, []⟩ (fun r s => r ≠ -1 →
          contextGetSigNotations (utf8Module m) (notationsAfter rets before s.entered) =
            .ok (.tuple (notations.map notationObject))) ↔
      ((∀ i, i < (visited (notations.map notationObject)).length → rets i = noError) →
        visited (notations.map notationObject) = notations.map notationObject ∧
          ∀ item ∈ notations, Clean item) := by
  obtain ⟨n, seen⟩ := visited_map notations
  have started := initialised (notations.take n)
    (takenNotations rets 0 ((notations.take n).map notationObject)).length
  have shorter := takenNotations_map rets (notations.take n) 0
  have accepts := takenNotations_eq_iff rets (notations.take n) 0
  simp only [Nat.zero_add] at accepts
  rw [← seen] at started
  apply achieves_iff_of
    (notations_assigned rets (utf8Module m).toModState found before errno started)
  intro r s post
  obtain ⟨result, after⟩ := post
  rw [after, seen, List.length_map, notationObject_injective.list_map.eq_iff]
  rw [seen, List.length_map] at result
  split at result
  next all =>
    have taken := shorter.eq_of_length all
    have ok := accepts.mp taken
    rw [taken, read_back_iff m (List.take_prefix n notations), result]
    exact ⟨fun back _ => back (by decide), fun whole _ => whole ok⟩
  next some =>
    have refused : ¬ ∀ i, i < (notations.take n).length → rets i = noError := by
      intro ok
      rw [accepts.mpr ok] at some
      exact some rfl
    exact iff_of_true (fun raised => absurd result raised) (fun ok => absurd ok refused)

/-- The round trip of `sig_notations`. -/
theorem round_trip_iff (m : Module) (rets : Nat → GpgError) (before : List RawNotation)
    (value : PyObject) (errno : Int) :
    RoundTrip (utf8Module m) rets before value errno ↔ roundTripHolds rets value := by
  apply forall_congr'
  intro notations
  apply imp_congr_right
  intro found
  exact assigned_read_back_iff m rets before errno found

/-- `SigNotation("n", "a\0b")` -/
def nulNotation : SigNotation where
  name := some [0x6e]
  value := .text [0x61, 0, 0x62]
  flags := 1
  typed := iff_of_true (by decide) ⟨_, rfl⟩

/-- It comes back with the value `"a"`. -/
theorem embedded_nul_lost :
    ¬ RoundTrip (utf8Module plainModule) (fun _ => noError) []
      (.list [notationObject nulNotation]) 0 := by
  intro round
  have back := (assigned_read_back_iff plainModule (fun _ => noError) [] 0 rfl).mp
    (round [nulNotation] rfl) (fun _ _ => rfl)
  have clean : Clean nulNotation := back.2 nulNotation (List.mem_singleton_self _)
  exact clean.2.2 (by decide)

end Pygpgme.Guarantees.NotationRoundTrip
