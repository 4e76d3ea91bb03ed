import Pygpgme.Source.PatternCopies
import Pygpgme.Source.Utf8

/-!
# The pattern array of `export` and `keylist`

What gpgme reads from the array is compared with the patterns themselves. The copies
end at the first NUL, and the length of the sequence goes through an `int`.
-/

set_option autoImplicit false

namespace Pygpgme.Guarantees.KeyPatterns
open Pygpgme.Library.Program Pygpgme.Source
open Pygpgme.Source.Python Pygpgme.Source.Memory Pygpgme.Source.KeyPatterns
open Pygpgme.Source.Arguments (keyPattern keyPatterns)
open Pygpgme.Source.PatternCopies Pygpgme.Source.Utf8

/-- The strings up to the first NULL; without one, reading leaves the array. -/
def readStrings : List (Option CString) → Option (List Bytes)
  | [] => none
  | none :: _ => some []
  | some copy :: rest => (readStrings rest).map (copy.text :: ·)

theorem readStrings_filled (copies : List CString) (free : Nat) :
    readStrings (filled copies (free + 1)) = some (copies.map CString.text) := by
  induction copies with
  | nil => rfl
  | cons copy rest ih =>
    change (readStrings (filled rest (free + 1))).map _ = _
    rw [ih]
    rfl

/-- The array is all of each pattern, in order; it is NULL for `None`. -/
def Faithful : PyObject → Option CStrings → Prop
  | .none, array => array = none
  | pattern, some array => ∃ items strings, patternItems pattern = .ok items ∧
    readStrings array.slots = some strings ∧ items.map wholeBytes = strings.map some
  | _, none => False

theorem faithful_items {pattern : PyObject} {items : List PyObject}
    (found : patternItems pattern = .ok items) (array : CStrings) :
    Faithful pattern (some array) ↔ ∃ strings, readStrings array.slots = some strings ∧
      items.map wholeBytes = strings.map some := by
  cases pattern with
  | none => cases found
  | _ => simp [Faithful, found]

/-- Patterns that differ as byte strings give arrays that differ. -/
theorem faithful_injective {first second : PyObject} {left right : List PyObject}
    (leftItems : patternItems first = .ok left) (rightItems : patternItems second = .ok right)
    {a b : CStrings} (leftRead : Faithful first (some a)) (rightRead : Faithful second (some b))
    (same : readStrings a.slots = readStrings b.slots) :
    left.map wholeBytes = right.map wholeBytes := by
  obtain ⟨strings, read, whole⟩ := (faithful_items leftItems a).mp leftRead
  obtain ⟨others, read', whole'⟩ := (faithful_items rightItems b).mp rightRead
  rw [same, read', Option.some.injEq] at read
  rw [whole, whole', read]

section
variable (fails : Nat → Bool)

/-- A parse that succeeds made a faithful array and no allocation failed; any other
returns -1 and NULL, with an exception. -/
def PatternsFaithful (pattern : PyObject) : Prop :=
  achieves (parseKeyPatterns fails pattern) .start fun r s =>
    if r.1 = 0 then Faithful pattern r.2 ∧ Succeed fails 0 s.attempts
    else r = (-1, none) ∧ s.pending.isSome = true

/-- Iteration comes to an end. Whenever the parse succeeds, the loop visits every item and
none has a NUL. -/
def patternsHold (pattern : PyObject) : Prop :=
  pattern ≠ .sigNotation none ∧ ∀ items, patternItems pattern = .ok items → AllCopied fails items →
    visited items = items ∧ ∀ item ∈ items, ∀ data, wholeBytes item = some data → 0 ∉ data

theorem wholeBytes_cString_iff (item : PyObject) :
    wholeBytes item = (wholeBytes item).map cString ↔
      ∀ data, wholeBytes item = some data → 0 ∉ data := by
  cases wholeBytes item with
  | none => simp
  | some data =>
    simp only [Option.map_some, Option.some.injEq, forall_eq']
    rw [eq_comm, cString_eq_iff]

/-- Copies of what the loop visited, compared with all of each item. -/
theorem copies_whole_iff {items : List PyObject} {copies : List CString}
    (copied : copies.map (fun copy => some copy.text) =
      (visited items).map fun item => (wholeBytes item).map cString) :
    items.map wholeBytes = (copies.map CString.text).map some ↔
      visited items = items ∧ ∀ item ∈ items, ∀ data, wholeBytes item = some data → 0 ∉ data := by
  rw [List.map_map]
  change items.map wholeBytes = copies.map (fun copy => some copy.text) ↔ _
  rw [copied]
  constructor
  · intro same
    have length := congrArg List.length same
    rw [List.length_map, List.length_map] at length
    have all : visited items = items := visited_of_length (by omega)
    rw [all, List.map_inj_left] at same
    exact ⟨all, fun item member => (wholeBytes_cString_iff item).mp (same item member)⟩
  · intro post
    obtain ⟨all, clean⟩ := post
    rw [all, List.map_inj_left]
    exact fun item member => (wholeBytes_cString_iff item).mpr (clean item member)

theorem patternsFaithful_of_items {pattern : PyObject} {items : List PyObject}
    (found : patternItems pattern = .ok items) :
    PatternsFaithful fails pattern ↔ (AllCopied fails items → visited items = items ∧
      ∀ item ∈ items, ∀ data, wholeBytes item = some data → 0 ∉ data) := by
  apply achieves_iff_of (parseKeyPatterns_spec fails found)
  intro r s post
  obtain ⟨copies, leaked, _, _, ends⟩ := post
  by_cases all : AllCopied fails items
  · rw [if_pos all] at ends
    obtain ⟨⟨array, rfl, shape, _⟩, copied, attempts, _⟩ := ends
    have length := congrArg List.length copied
    rw [List.length_map, List.length_map] at length
    rw [if_pos rfl, attempts, and_iff_left all.2.2, faithful_items found, shape]
    rcases slotCount_of_fits all.1 with room | ⟨empty, unseen, some⟩
    · have free : slotCount items - copies.length = 0 + 1 := by omega
      rw [free, readStrings_filled]
      simp only [Option.some.injEq, exists_eq_left', copies_whole_iff copied, all, forall_const]
    · rw [unseen] at length
      rw [List.length_nil, List.length_eq_zero_iff] at length
      rw [empty, length, unseen]
      apply iff_of_false
      · rintro ⟨strings, read, _⟩
        cases read
      · intro hold
        exact some (hold all).1.symm
  · rw [if_neg all] at ends
    obtain ⟨rfl, _, raised⟩ := ends
    rw [if_neg (by decide)]
    exact iff_of_true ⟨rfl, raised⟩ (fun copied => absurd copied all)

/-- `parse_key_patterns`, for every argument and every pattern of failing allocations. -/
theorem patterns_faithful_iff (pattern : PyObject) :
    PatternsFaithful fails pattern ↔ patternsHold fails pattern := by
  unfold patternsHold
  rw [ne_eq, ← patternItems_crash_iff]
  cases found : patternItems pattern with
  | ok items =>
    rw [patternsFaithful_of_items fails found]
    simp
  | error stop =>
    cases stop with
    | crash =>
      rw [(patternItems_crash_iff pattern).mp found]
      exact iff_of_false (parseKeyPatterns_crash fails .start _) (fun hold => hold.1 rfl)
    | raised e =>
      apply iff_of_true _ ⟨by simp, by simp⟩
      by_cases absent : pattern = .none
      · rw [absent]
        apply achieves_mono (parseKeyPatterns_none fails)
        rintro r s ⟨rfl, _, attempts, _⟩
        rw [if_pos rfl, attempts]
        exact ⟨rfl, succeed_zero fails 0⟩
      · apply achieves_mono (parseKeyPatterns_refused fails absent found)
        rintro r s ⟨rfl, _, raised⟩
        rw [if_neg (by decide)]
        exact ⟨rfl, raised⟩

end

/-- `keylist("a\\0b")` lists what matches "a". -/
theorem embedded_nul_widens : ¬ PatternsFaithful (fun _ => false) (.str [0x61, 0, 0x62]) := by
  rw [patternsFaithful_of_items _ rfl]
  intro hold
  have copied : AllCopied (fun _ => false) [.str [0x61, 0, 0x62]] := by decide
  exact (hold copied).2 _ (List.mem_singleton_self _) [0x61, 0, 0x62] (by decide) (by decide)

/-! ## When memory is never exhausted -/

theorem keyPattern_ok_iff (item : PyObject) (text : Bytes) :
    keyPattern item = .ok text ↔ (wholeBytes item).map cString = some text := by
  cases item with
  | bytes data => simp [keyPattern, wholeBytes]
  | str value =>
    cases valid : encodable value with
    | true =>
      have encoded : keyPattern (.str value) = .ok (cString (utf8 value)) := by
        simp only [keyPattern, encodeUtf8, valid]
        rfl
      simp [encoded, wholeBytes, valid]
    | false =>
      have refused : keyPattern (.str value) = .error ⟨.unicodeEncodeError, [], []⟩ := by
        simp only [keyPattern, encodeUtf8, valid]
        rfl
      simp [refused, wholeBytes, valid]
  | _ => exact iff_of_false (by intro accepted; cases accepted) (by simp [wholeBytes])

theorem keyPatterns_ok_iff (items : List PyObject) : ∀ strings,
    keyPatterns items = .ok strings ↔
      items.map (fun item => (wholeBytes item).map cString) = strings.map some := by
  induction items with
  | nil =>
    intro strings
    cases strings <;> simp [keyPatterns]
  | cons item rest ih =>
    intro strings
    have first := keyPattern_ok_iff item
    rw [keyPatterns, List.map_cons]
    cases step : keyPattern item with
    | error e =>
      apply iff_of_false (by intro accepted; cases accepted)
      cases strings with
      | nil => simp
      | cons text others =>
        intro same
        rw [(first text).mpr (List.cons.inj same).1] at step
        cases step
    | ok text =>
      rw [(first text).mp step]
      cases later : keyPatterns rest with
      | error e =>
        apply iff_of_false (by intro accepted; cases accepted)
        cases strings with
        | nil => simp
        | cons other others =>
          intro same
          rw [(ih others).mpr (List.cons.inj same).2] at later
          cases later
      | ok others =>
        rw [(ih others).mp later]
        change Except.ok (text :: others) = Except.ok strings ↔ _
        rw [Except.ok.injEq, ← List.map_cons]
        exact (Option.some_injective _).list_map.eq_iff.symm

theorem argument_shapes (pattern : PyObject) :
    pattern = .none ∨
      Arguments.parseKeyPatterns pattern = (do return some [← raising (keyPattern pattern)]) ∧
        patternItems pattern = .ok [pattern] ∨
      Arguments.parseKeyPatterns pattern = (do
        let items ← sequenceFast pattern "first argument must be a string or sequence of strings"
        return some (← raising (keyPatterns (visited items)))) ∧
        patternItems pattern = pattern.items := by
  cases pattern with
  | none => exact .inl rfl
  | str text => exact .inr (.inl ⟨rfl, rfl⟩)
  | bytes data => exact .inr (.inl ⟨rfl, rfl⟩)
  | _ => exact .inr (.inr ⟨rfl, rfl⟩)

/-- The conversion of arguments, on the patterns the argument stands for. -/
theorem parseKeyPatterns_ok_iff {pattern : PyObject} {items : List PyObject}
    (found : patternItems pattern = .ok items) (strings : List Bytes) :
    Arguments.parseKeyPatterns pattern = .ok (some strings) ↔
      keyPatterns (visited items) = .ok strings := by
  rcases argument_shapes pattern with rfl | ⟨same, single⟩ | ⟨same, sequence⟩
  · cases found
  · rw [single] at found
    cases found
    rw [same, visited_single, keyPatterns, keyPatterns]
    cases keyPattern pattern with
    | error e =>
      exact iff_of_false (by intro accepted; cases accepted) (by intro accepted; cases accepted)
    | ok text =>
      change Except.ok (some [text]) = Except.ok (some strings) ↔
        Except.ok [text] = Except.ok strings
      simp
  · rw [sequence] at found
    rw [same, sequenceFast_ok found]
    change (do return some (← raising (keyPatterns (visited items)))) = _ ↔ _
    cases keyPatterns (visited items) with
    | error e =>
      exact iff_of_false (by intro accepted; cases accepted) (by intro accepted; cases accepted)
    | ok others =>
      change Except.ok (some others) = Except.ok (some strings) ↔
        Except.ok others = Except.ok strings
      simp

/-- Then an argument of moderate length is parsed as by the conversion of arguments. -/
theorem parse_refines {pattern : PyObject} {items : List PyObject}
    (found : patternItems pattern = .ok items) (short : items.length < 2 ^ 31 - 1) :
    achieves (parseKeyPatterns (fun _ => false) pattern) .start fun r _ =>
      ∀ strings, Arguments.parseKeyPatterns pattern = .ok (some strings) ↔
        r.2.bind (fun array => readStrings array.slots) = some strings := by
  have count := slotCount_of_short short
  have seen : visited items = items := by
    apply visited_of_length
    rw [visited_length, if_pos (by omega)]
    omega
  apply achieves_mono (parseKeyPatterns_spec _ found)
  intro r s post strings
  obtain ⟨copies, leaked, _, _, ends⟩ := post
  rw [parseKeyPatterns_ok_iff found, keyPatterns_ok_iff, seen]
  rw [seen] at ends
  split at ends
  next all =>
    obtain ⟨⟨array, rfl, shape, _⟩, copied, _⟩ := ends
    have length := congrArg List.length copied
    rw [List.length_map, List.length_map] at length
    have free : slotCount items - copies.length = 0 + 1 := by omega
    rw [← copied, Option.bind_some, shape, free, readStrings_filled, Option.some.injEq]
    have texts : copies.map (fun copy => some copy.text) = (copies.map CString.text).map some := by
      rw [List.map_map]
      rfl
    rw [texts, (Option.some_injective _).list_map.eq_iff]
  next part =>
    obtain ⟨rfl, _⟩ := ends
    apply iff_of_false _ (by simp)
    intro whole
    apply part
    refine ⟨by omega, ?_, fun _ _ => rfl⟩
    intro item member
    rw [seen] at member
    have copied : (wholeBytes item).map cString ∈ strings.map some := by
      rw [← whole]
      exact List.mem_map.mpr ⟨item, member, rfl⟩
    obtain ⟨text, _, same⟩ := List.mem_map.mp copied
    rw [← Option.isSome_map, ← same]
    rfl

end Pygpgme.Guarantees.KeyPatterns
