import Mathlib.Data.List.Forall2
import Pygpgme.Source.SignLists
import Pygpgme.Source.Utf8

/-!
# Assigning to `signers` and `sig_notations`

Both setters clear the list and then add item after item. What is in the list when
they come back is computed for every sequence and every answer of gpgme; from that
follows exactly when an assignment changes all of the list or nothing.
-/

set_option autoImplicit false

namespace Pygpgme.Guarantees.ListSetters
open Pygpgme.Library.Program Pygpgme.Library.ListLog
open Pygpgme.Source.Python Pygpgme.Source.Error Pygpgme.Source.Results
open Pygpgme.Source.Setters Pygpgme.Source.SignLists Pygpgme.Source.Utf8

/-- An assignment that raises leaves the list as it was; after any other the list
has every item, in order and once. -/
def AllOrNothing {α : Type} (set : Option PyObject → Py Int) (value : Option PyObject)
    (errno : Int) (after : List Entry → List α) (before : List α)
    (registered : PyObject → α → Prop) : Prop :=
  achieves (set value) ⟨none, errno, []⟩ fun r s =>
    if r = -1 then after s.entered = before
    else ∃ o items, value = some o ∧ o.items = .ok items ∧
      List.Forall₂ registered items (after s.entered)

variable (rets : Nat → GpgError)

/-! ## Signers -/

/-- The keys before the first item that is none. -/
def leadingKeys : List PyObject → List Nat
  | .key handle :: rest => handle :: leadingKeys rest
  | _ => []

/-- gpgme adds the item of this position. -/
abbrev Adds (i : Nat) : Prop := rets i = noError

theorem addSigners_kept (before : Kept Nat) (items : List PyObject) : ∀ s,
    achieves (addSigners items) s fun r s' =>
      r = (if (leadingKeys items).length = items.length then 0 else -1) ∧
        replay (Adds rets) signerCall before s'.entered =
          (replay (Adds rets) signerCall before s.entered).addAll (Adds rets)
            (leadingKeys items) := by
  induction items with
  | nil =>
    intro s
    simp [addSigners, leadingKeys]
  | cons item rest ih =>
    intro s
    unfold addSigners
    split
    next same => cases same
    next handle rest' same =>
      cases same
      rw [achieves_bind, achieves_gpgme]
      apply achieves_mono (ih _)
      intro r s' post
      obtain ⟨result, kept⟩ := post
      constructor
      · simpa [leadingKeys] using result
      · simpa [leadingKeys, replay, signerCall] using kept
    next noKey same =>
      cases same
      have stops : leadingKeys (item :: rest) = [] := by
        unfold leadingKeys
        split <;> simp_all
      simp [stops]

/-! ## Notations -/

/-- NULL stands for a string that cannot be encoded. -/
def encoded (text : List CodePoint) : Option Bytes :=
  if encodable text then some (utf8 text) else none

def valueBytes : SigValue → Option Bytes
  | .text text => encoded text
  | .data data => some data

/-- A notation as gpgme gets it. -/
def passed (item : SigNotation) : RawNotation where
  name := (item.name.bind encoded).map cString
  value := ((valueBytes item.value).map cString).getD []
  flags := item.flags

/-- A notation with the whole of its strings, if these can be encoded. -/
def wholeNotation (item : SigNotation) : Option RawNotation :=
  match item.name, valueBytes item.value with
  | _, none => none
  | none, some value => some ⟨none, value, item.flags⟩
  | some name, some value => (encoded name).map fun name => ⟨some name, value, item.flags⟩

def CleanText (text : List CodePoint) : Prop := encodable text = true ∧ 0 ∉ text

def CleanValue : SigValue → Prop
  | .text text => CleanText text
  | .data data => 0 ∉ data

/-- The strings can be encoded and have no NUL. -/
def Clean (item : SigNotation) : Prop :=
  (∀ text, item.name = some text → CleanText text) ∧ CleanValue item.value

theorem encodable_takeWhile {text : List CodePoint} (valid : encodable text = true)
    (p : CodePoint → Bool) : encodable (text.takeWhile p) = true := by
  unfold encodable at valid ⊢
  simp only [Bool.not_eq_true', List.any_eq_false] at valid ⊢
  exact fun c member => valid c ((List.takeWhile_prefix p).subset member)

/-- A string survives the NUL that ends it exactly when it is clean. -/
theorem cString_encoded_iff (text : List CodePoint) :
    (∃ data, encoded text = some data ∧ cString data = data) ↔ CleanText text := by
  cases valid : encodable text with
  | false => simp [encoded, valid, CleanText]
  | true =>
    have same : cString (utf8 text) = utf8 text ↔ text.takeWhile (· ≠ 0) = text := by
      rw [cString_utf8 valid]
      constructor
      · intro equal
        have back := congrArg decodeReplace equal
        rwa [decodeReplace_utf8 (encodable_takeWhile valid _), decodeReplace_utf8 valid] at back
      · intro equal
        rw [equal]
    rw [takeWhile_nonzero_iff] at same
    simp [encoded, valid, CleanText, same]

theorem cString_value_iff (value : SigValue) :
    (∃ data, valueBytes value = some data ∧ cString data = data) ↔ CleanValue value := by
  cases value with
  | text text => exact cString_encoded_iff text
  | data data => simp [valueBytes, CleanValue, cString_eq_iff]

/-- gpgme gets the whole of the clean notations and of no others. -/
theorem wholeNotation_passed_iff (item : SigNotation) :
    wholeNotation item = some (passed item) ↔ Clean item := by
  obtain ⟨name, value, flags, typed⟩ := item
  unfold Clean
  rw [← cString_value_iff]
  cases read : valueBytes value with
  | none => simp [wholeNotation, read]
  | some data =>
    cases name with
    | none => simp [wholeNotation, passed, read, eq_comm]
    | some text =>
      have name_whole := cString_encoded_iff text
      cases encodes : encoded text with
      | none =>
        have unclean : ¬ CleanText text := by simpa [encodes] using name_whole
        simp [wholeNotation, read, encodes, unclean]
      | some bytes =>
        rw [encodes] at name_whole
        simp only [Option.some.injEq, exists_eq_left'] at name_whole
        simp [wholeNotation, passed, read, encodes, ← name_whole, eq_comm]

/-- The notations before the first item that is none or that gpgme refuses. -/
def takenNotations (i : Nat) : List PyObject → List SigNotation
  | .sigNotation (some item) :: rest =>
    if rets i = noError then item :: takenNotations (i + 1) rest else []
  | _ => []

theorem notationName_encoded (name : Option (List CodePoint)) (s : Interp) :
    achieves (notationName name) s fun r s' => r = name.bind encoded ∧ s'.entered = s.entered := by
  cases name with
  | none => simp [notationName]
  | some text =>
    cases encodes : encodable text <;> simp [notationName, encodeUtf8, encoded, encodes]

theorem notationValue_encoded (item : SigNotation) (s : Interp) :
    achieves (attempt (notationValue item.flags item.value)) s fun r s' =>
      r = valueBytes item.value ∧ s'.entered = s.entered := by
  have typed := item.typed
  cases value : item.value with
  | text text =>
    have readable : humanReadable item.flags = true := typed.mpr ⟨text, value⟩
    cases encodes : encodable text <;>
      simp [notationValue, readable, encodeUtf8, valueBytes, encoded, encodes]
  | data data =>
    have binary : humanReadable item.flags = false := by
      rw [value] at typed
      simpa using typed
    simp [notationValue, binary, valueBytes]

section
variable (state : ModState) (before : Kept RawNotation)

abbrev notationsKept (entered : List Entry) : Kept RawNotation :=
  replay (Adds rets) notationCall before entered

/-- One notation: gpgme is asked to add it, and its answer decides. -/
theorem addNotation_step (i : Nat) (item : SigNotation) (rest : List PyObject) (s : Interp)
    (Q : Int → Interp → Prop) (C : Prop)
    (answered : ∀ s', notationsKept rets before s'.entered =
      (notationsKept rets before s.entered).call (Adds rets) (.add (passed item)) →
      (achieves (do
        if ← checkError state (rets i) then return -1
        else addNotations state rets (i + 1) rest) s' Q ↔ C)) :
    achieves (addNotations state rets i (.sigNotation (some item) :: rest)) s Q ↔ C := by
  unfold addNotations
  apply achieves_bind_iff_of (notationName_encoded item.name s)
  rintro name s₁ ⟨rfl, entered₁⟩
  apply achieves_bind_iff_of (notationValue_encoded item s₁)
  rintro value s₂ ⟨rfl, entered₂⟩
  rw [achieves_bind, achieves_gpgme]
  apply answered
  simp [notationsKept, replay, notationCall, passed, entered₁, entered₂]

theorem addNotation_accepted {i : Nat} (ok : rets i = noError) (item : SigNotation)
    (rest : List PyObject) (s : Interp) (Q : Int → Interp → Prop) (C : Prop)
    (goes : ∀ s', notationsKept rets before s'.entered =
      (notationsKept rets before s.entered).call (Adds rets) (.add (passed item)) →
      (achieves (addNotations state rets (i + 1) rest) s' Q ↔ C)) :
    achieves (addNotations state rets i (.sigNotation (some item) :: rest)) s Q ↔ C := by
  apply addNotation_step rets state before
  intro s' called
  rw [achieves_bind, achieves_checkError, if_pos ok]
  exact goes s' called

theorem addNotation_refused {i : Nat} (refused : rets i ≠ noError) (item : SigNotation)
    (rest : List PyObject) (s : Interp) :
    achieves (addNotations state rets i (.sigNotation (some item) :: rest)) s fun r s' =>
      r = -1 ∧ notationsKept rets before s'.entered =
        (notationsKept rets before s.entered).call (Adds rets) (.add (passed item)) := by
  rw [addNotation_step rets state before i item rest s _ True]
  · trivial
  · intro s' called
    rw [achieves_bind, achieves_checkError, if_neg refused, iff_true]
    split <;> simp [called]

theorem addNotations_crash (items : List PyObject) : ∀ i s (Q : Int → Interp → Prop),
    items[(takenNotations rets i items).length]? = some (.sigNotation none) →
      ¬ achieves (addNotations state rets i items) s Q := by
  induction items with
  | nil =>
    intro i s Q next
    simp at next
  | cons item rest ih =>
    intro i s Q next
    unfold takenNotations at next
    split at next
    next item rest' same =>
      cases same
      split at next
      next ok =>
        rw [addNotation_accepted rets state ⟨[], 0⟩ ok item rest s Q False]
        · exact id
        · intro s' _
          exact iff_false_intro (ih (i + 1) s' Q (by simpa using next))
      next => simp at next
    next =>
      simp only [List.length_nil, List.getElem?_cons_zero, Option.some.injEq] at next
      rw [next]
      simp [addNotations]

theorem addNotations_kept (items : List PyObject) : ∀ i s,
    items[(takenNotations rets i items).length]? ≠ some (.sigNotation none) →
    (notationsKept rets before s.entered).asked = i →
    achieves (addNotations state rets i items) s fun r s' =>
      r = (if (takenNotations rets i items).length = items.length then 0 else -1) ∧
        (notationsKept rets before s'.entered).items =
          (notationsKept rets before s.entered).items ++
            (takenNotations rets i items).map passed := by
  induction items with
  | nil =>
    intro i s _ _
    simp [addNotations, takenNotations]
  | cons item rest ih =>
    intro i s next asked
    unfold takenNotations at next ⊢
    split
    next item rest' same =>
      cases same
      by_cases ok : rets i = noError
      · simp only [if_pos ok] at next ⊢
        rw [addNotation_accepted rets state before ok item rest s _ True]
        · trivial
        · intro s' called
          rw [iff_true]
          have later := ih (i + 1) s' (by simpa using next) (by simp [called, Kept.call, asked])
          apply achieves_mono later
          intro r s'' post
          obtain ⟨result, kept⟩ := post
          constructor
          · simpa using result
          · rw [kept, called]
            simp [Kept.call, Adds, asked, ok]
      · simp only [if_neg ok]
        apply achieves_mono (addNotation_refused rets state before ok item rest s)
        intro r s' post
        obtain ⟨result, kept⟩ := post
        rw [kept]
        simp [result, Kept.call, asked, ok]
    next noItem =>
      unfold addNotations
      split
      next same => cases same
      next same =>
        cases same
        simp at next
      next item rest' same =>
        cases same
        exact absurd rfl (noItem _ _)
      next => simp

end

/-! ## All or nothing -/

/-- The items of the one sequence there is. -/
theorem items_found {value : PyObject} {items : List PyObject} (found : value.items = .ok items)
    (P : List PyObject → Prop) :
    (∃ o found, some value = some o ∧ o.items = .ok found ∧ P found) ↔ P items := by
  simp [found]

def signersAfter (before : List Nat) : List Entry → List Nat := listAfter signerCall rets before

def notationsAfter (before : List RawNotation) : List Entry → List RawNotation :=
  listAfter notationCall rets before

def SignersSet (before : List Nat) (value : Option PyObject) (errno : Int) : Prop :=
  AllOrNothing contextSetSigners value errno (signersAfter rets before) before
    fun item handle => item = .key handle

def NotationsSet (state : ModState) (before : List RawNotation) (value : Option PyObject)
    (errno : Int) : Prop :=
  AllOrNothing (contextSetSigNotations state rets) value errno (notationsAfter rets before)
    before fun item raw => ∃ fields, item = .sigNotation (some fields) ∧
      wholeNotation fields = some raw

/-- Iteration comes to an end. The keys are all there, short enough in number and
accepted; or those before the first other item leave the list as it was. -/
def signersHold (before : List Nat) : Option PyObject → Prop
  | none => True
  | some value => value ≠ .sigNotation none ∧ ∀ items, value.items = .ok items →
    if (leadingKeys (visited items)).length = (visited items).length then
      visited items = items ∧ ∀ i, i < items.length → rets i = noError
    else accepted (Adds rets) 0 (leadingKeys (visited items)) = before

/-- The same for notations, which also have to be initialised and clean. -/
def notationsHold (before : List RawNotation) : Option PyObject → Prop
  | none => True
  | some value => value ≠ .sigNotation none ∧ ∀ items, value.items = .ok items →
    match (visited items)[(takenNotations rets 0 (visited items)).length]? with
    | none => visited items = items ∧ ∀ item ∈ takenNotations rets 0 items, Clean item
    | some (.sigNotation none) => False
    | some _ => (takenNotations rets 0 (visited items)).map passed = before

/-- Only keys are leading keys. -/
theorem leadingKeys_forall₂ {items : List PyObject}
    (all : (leadingKeys items).length = items.length) :
    List.Forall₂ (fun item handle => item = PyObject.key handle) items (leadingKeys items) := by
  induction items with
  | nil => exact .nil
  | cons item rest ih =>
    unfold leadingKeys at all ⊢
    split at all
    next same =>
      cases same
      exact .cons rfl (ih (by simpa using all))
    next => simp at all

/-- What an assignment of a sequence leaves in the list. -/
theorem signers_assigned {value : PyObject} {items : List PyObject}
    (found : value.items = .ok items) (before : List Nat) (errno : Int) :
    achieves (contextSetSigners (some value)) ⟨none, errno, []⟩ fun r s =>
      r = (if (leadingKeys (visited items)).length = (visited items).length then 0 else -1) ∧
        signersAfter rets before s.entered =
          accepted (Adds rets) 0 (leadingKeys (visited items)) := by
  simp only [contextSetSigners, sequenceFast_ok found, achieves_bind, achieves_convert,
    achieves_gpgme]
  apply achieves_mono (addSigners_kept rets ⟨before, 0⟩ (visited items) _)
  intro r s post
  obtain ⟨result, kept⟩ := post
  refine ⟨result, ?_⟩
  unfold signersAfter listAfter
  rw [kept]
  simp [replay, signerCall, Kept.call, Kept.addAll]

theorem signersSet_iff (before : List Nat) (value : Option PyObject) (errno : Int) :
    SignersSet rets before value errno ↔ signersHold rets before value := by
  cases value with
  | none => simp [SignersSet, AllOrNothing, contextSetSigners, canNotDelete, signersHold,
      signersAfter, listAfter, replay]
  | some value =>
    unfold SignersSet AllOrNothing
    simp only [signersHold, ne_eq, ← items_crash_iff value]
    cases found : value.items with
    | error stop =>
      cases stop <;> simp [contextSetSigners, sequenceFast, found, Except.mapError, Stop.named,
        signersAfter, listAfter, replay]
    | ok items =>
      apply achieves_iff_of (signers_assigned rets found before errno)
      intro r s post
      obtain ⟨result, after⟩ := post
      rw [after, items_found found]
      simp only [reduceCtorEq, not_false_eq_true, true_and, Except.ok.injEq, forall_eq']
      split at result
      next all =>
        rw [result, if_neg (by decide), if_pos all]
        have bound := visited_length_le items
        constructor
        · intro registered
          have shorter := accepted_length_le (Adds rets) (leadingKeys (visited items)) 0
          have same := registered.length_eq
          constructor
          · apply visited_of_length
            omega
          · intro i small
            have full := (accepted_length_iff (Adds rets) (leadingKeys (visited items)) 0).mp
              (by omega) i (by omega)
            rwa [Nat.zero_add] at full
        · intro post
          obtain ⟨whole, ok⟩ := post
          rw [whole] at all ⊢
          rw [accepted_of_all (Adds rets) _ 0 (fun k small => by
            rw [Nat.zero_add]
            exact ok k (by omega))]
          exact leadingKeys_forall₂ all
      next some => simp [result, some]

theorem takenNotations_length_le (items : List PyObject) :
    ∀ i, (takenNotations rets i items).length ≤ items.length := by
  induction items with
  | nil => exact fun _ => Nat.le_refl 0
  | cons item rest ih =>
    intro i
    unfold takenNotations
    split
    next same =>
      cases same
      split
      next => exact Nat.succ_le_succ (ih (i + 1))
      next => exact Nat.zero_le _
    next => exact Nat.zero_le _

/-- Only notations are taken. -/
theorem takenNotations_all {items : List PyObject} : ∀ {i},
    (takenNotations rets i items).length = items.length →
      items = (takenNotations rets i items).map fun item => .sigNotation (some item) := by
  induction items with
  | nil => exact fun _ => rfl
  | cons item rest ih =>
    intro i all
    unfold takenNotations at all ⊢
    split at all
    next same =>
      cases same
      split at all
      next ok =>
        rw [if_pos ok, List.map_cons, ← ih (by simpa using all)]
      next => simp at all
    next => simp at all

theorem notations_assigned (state : ModState) {value : PyObject} {items : List PyObject}
    (found : value.items = .ok items) (before : List RawNotation) (errno : Int)
    (initialised : (visited items)[(takenNotations rets 0 (visited items)).length]? ≠
      some (.sigNotation none)) :
    achieves (contextSetSigNotations state rets (some value)) ⟨none, errno, []⟩ fun r s =>
      r = (if (takenNotations rets 0 (visited items)).length = (visited items).length then 0
        else -1) ∧
        notationsAfter rets before s.entered =
          (takenNotations rets 0 (visited items)).map passed := by
  simp only [contextSetSigNotations, sequenceFast_ok found, achieves_bind, achieves_convert,
    achieves_gpgme]
  apply achieves_mono
    (addNotations_kept rets state ⟨before, 0⟩ (visited items) 0 _ initialised rfl)
  intro r s post
  obtain ⟨result, kept⟩ := post
  refine ⟨result, ?_⟩
  unfold notationsAfter listAfter
  rw [kept]
  simp [replay, notationCall, Kept.call]

theorem notations_crash (state : ModState) {value : PyObject} {items : List PyObject}
    (found : value.items = .ok items) (s : Interp) (Q : Int → Interp → Prop)
    (uninitialised : (visited items)[(takenNotations rets 0 (visited items)).length]? =
      some (.sigNotation none)) :
    ¬ achieves (contextSetSigNotations state rets (some value)) s Q := by
  simp only [contextSetSigNotations, sequenceFast_ok found, achieves_bind, achieves_convert,
    achieves_gpgme]
  exact addNotations_crash rets state (visited items) 0 _ Q uninitialised

theorem notationsSet_iff (state : ModState) (before : List RawNotation)
    (value : Option PyObject) (errno : Int) :
    NotationsSet rets state before value errno ↔ notationsHold rets before value := by
  cases value with
  | none => simp [NotationsSet, AllOrNothing, contextSetSigNotations, canNotDelete, notationsHold,
      notationsAfter, listAfter, replay]
  | some value =>
    unfold NotationsSet AllOrNothing
    simp only [notationsHold, ne_eq, ← items_crash_iff value]
    cases found : value.items with
    | error stop =>
      cases stop <;> simp [contextSetSigNotations, sequenceFast, found, Except.mapError,
        Stop.named, notationsAfter, listAfter, replay]
    | ok items =>
      simp only [reduceCtorEq, not_false_eq_true, true_and, Except.ok.injEq, forall_eq']
      by_cases crashes : (visited items)[(takenNotations rets 0 (visited items)).length]? =
          some (.sigNotation none)
      · rw [crashes, iff_false]
        exact notations_crash rets state found _ _ crashes
      apply achieves_iff_of (notations_assigned rets state found before errno crashes)
      intro r s post
      obtain ⟨result, after⟩ := post
      rw [after, items_found found]
      split at result
      next all =>
        have bound := visited_length_le items
        have registered (whole : visited items = items) :
            List.Forall₂ (fun item raw => ∃ fields, item = PyObject.sigNotation (some fields) ∧
                wholeNotation fields = some raw)
              items ((takenNotations rets 0 (visited items)).map passed) ↔
            ∀ item ∈ takenNotations rets 0 items, Clean item := by
          rw [whole] at all ⊢
          conv_lhs => arg 2; rw [takenNotations_all rets all]
          rw [List.forall₂_map_left_iff, List.forall₂_map_right_iff, List.forall₂_same]
          simp [wholeNotation_passed_iff]
        rw [result, if_neg (by decide), List.getElem?_eq_none (by omega)]
        constructor
        · intro entries
          have same := entries.length_eq
          rw [List.length_map] at same
          have whole : visited items = items := visited_of_length (by omega)
          exact ⟨whole, (registered whole).mp entries⟩
        · intro post
          obtain ⟨whole, encodes⟩ := post
          exact (registered whole).mpr encodes
      next some =>
        have bound := takenNotations_length_le rets (visited items) 0
        rw [result, if_pos rfl]
        cases next : (visited items)[(takenNotations rets 0 (visited items)).length]? with
        | none =>
          rw [List.getElem?_eq_none_iff] at next
          omega
        | some item =>
          rw [next] at crashes
          split
          next same => cases same
          next same => exact absurd same crashes
          next => rfl

/-- Both setters, for every value and every answer of gpgme. -/
theorem all_or_nothing_iff (state : ModState) (value : Option PyObject) (errno : Int) :
    (∀ before, SignersSet rets before value errno ↔ signersHold rets before value) ∧
      ∀ before, NotationsSet rets state before value errno ↔ notationsHold rets before value :=
  ⟨fun before => signersSet_iff rets before value errno,
    fun before => notationsSet_iff rets state before value errno⟩

/-- `ctx.signers = [key, None]` raises, and only `key` signs from then on. -/
theorem half_replaced_signers :
    ¬ SignersSet (fun _ => noError) [1] (some (.list [.key 2, .none])) 0 := by
  rw [signersSet_iff]
  intro holds
  have partly := holds.2 _ rfl
  simp [visited, cLength, leadingKeys, accepted, Adds] at partly

end Pygpgme.Guarantees.ListSetters
