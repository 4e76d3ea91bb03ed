import Pygpgme.Source.KeyPatterns

/-!
# What `parse_key_patterns` copies and owns

Which patterns are copied is a function of the argument and of the allocations that
fail. The array, the exception and the ledger at the end follow from it, for the loop
by induction over the sequence.
-/

set_option autoImplicit false

namespace Pygpgme.Source.PatternCopies
open Pygpgme.Library.Program Pygpgme.Library.Ownership
open Pygpgme.Source.Python Pygpgme.Source.Memory Pygpgme.Source.KeyPatterns

variable (fails : Nat → Bool)

/-- Allocations before a pattern is copied: the bytes of a `str`. -/
def encodings : PyObject → Nat
  | .str _ => 1
  | _ => 0

/-- The bytes of a pattern when `n` allocations were made before. -/
def encodedBytes (n : Nat) : PyObject → Option Bytes
  | .bytes data => some data
  | .str text => if fails n || !encodable text then none else some (utf8 text)
  | _ => none

/-- The copy of it, one more allocation. -/
def copiedBytes (n : Nat) (item : PyObject) : Option Bytes :=
  match encodedBytes fails n item with
  | some data => if fails (n + encodings item) then none else some (cString data)
  | none => none

/-- The patterns that are copied, up to the first that is not. -/
def copiedItems (n : Nat) : List PyObject → List Bytes
  | [] => []
  | item :: rest =>
    match copiedBytes fails n item with
    | some text => text :: copiedItems (n + (encodings item + 1)) rest
    | none => []

/-! ## One pattern -/

theorem patternBytes_spec (item : PyObject) (s : Process) :
    achieves (patternBytes fails item) s fun r s' =>
      match encodedBytes fails s.attempts item with
      | some data => ∃ ref, r = some ⟨ref, data⟩ ∧
        s'.ledger.owned = ref ::ₘ s.ledger.owned ∧
        s'.attempts = s.attempts + encodings item ∧ s'.pending = s.pending
      | none => r = none ∧ s'.ledger.owned = s.ledger.owned ∧ s'.pending.isSome = true := by
  cases item with
  | bytes data => simp [patternBytes, encodedBytes, encodings]
  | str text =>
    cases failing : fails s.attempts with
    | true => simp [patternBytes, asUTF8String, encodedBytes, failing]
    | false =>
      cases valid : encodable text <;>
        simp [patternBytes, asUTF8String, encodeUtf8, encodedBytes, encodings, failing, valid]
  | _ => simp [patternBytes, encodedBytes]

/-- A copy of bytes that are owned: one more block, or the bytes are given back. -/
theorem strdup_spec (bytes : BytesRef) {owned : Multiset (Token Resource)} {s : Process}
    (holds : s.ledger.owned = bytes.ref ::ₘ owned) :
    achieves (strdup fails bytes) s fun r s' =>
      if fails s.attempts then
        r = none ∧ s'.ledger.owned = owned ∧ s'.pending.isSome = true
      else ∃ copy, r = some copy ∧ copy.text = cString bytes.data ∧
        s'.ledger.owned = copy.block ::ₘ bytes.ref ::ₘ owned ∧
        s'.attempts = s.attempts + 1 ∧ s'.pending = s.pending := by
  cases failing : fails s.attempts with
  | true => simp [strdup, failing, holds]
  | false =>
    simp only [strdup, achieves_bind, achieves_allocate, failing, Bool.false_eq_true, if_false,
      achieves_pure, and_true]
    exact ⟨_, rfl, rfl, congrArg _ holds⟩

theorem copyPattern_spec (i : Nat) (item : PyObject) (patterns : CStrings) (s : Process) :
    achieves (copyPattern fails i item patterns) s fun r s' =>
      match copiedBytes fails s.attempts item with
      | some text => ∃ copy ref, copy.text = text ∧ r = (0, patterns.store i copy) ∧
        s'.ledger.owned = copy.block ::ₘ ref ::ₘ s.ledger.owned ∧
        s'.attempts = s.attempts + (encodings item + 1) ∧ s'.pending = s.pending
      | none => r = (-1, patterns) ∧ s'.ledger.owned = s.ledger.owned ∧
        s'.pending.isSome = true := by
  unfold copyPattern copiedBytes
  apply achieves_bind_of (patternBytes_spec fails item s)
  intro r s₁ spec
  cases encoded : encodedBytes fails s.attempts item with
  | none =>
    rw [encoded] at spec
    obtain ⟨rfl, spec⟩ := spec
    simpa using spec
  | some data =>
    rw [encoded] at spec
    obtain ⟨ref, rfl, owned, attempts, pending⟩ := spec
    apply achieves_bind_of (strdup_spec fails ⟨ref, data⟩ owned)
    intro r s₂ spec
    rw [attempts] at spec
    cases failing : fails (s.attempts + encodings item) with
    | true =>
      rw [if_pos failing] at spec
      obtain ⟨rfl, spec⟩ := spec
      simpa [failing] using spec
    | false =>
      rw [if_neg (by simp [failing])] at spec
      obtain ⟨copy, rfl, text, owned, attempts', pending'⟩ := spec
      rw [achieves_pure]
      refine ⟨copy, ref, text, rfl, owned, ?_, pending'.trans pending⟩
      omega

/-! ## The loop -/

/-- The blocks of some copies. -/
def blocks (copies : List CString) : Multiset (Token Resource) :=
  (copies.map CString.block : List (Token Resource))

@[simp] theorem blocks_cons (copy : CString) (rest : List CString) :
    blocks (copy :: rest) = copy.block ::ₘ blocks rest := rfl

/-- An array with some copies in front of its NULLs. -/
def filled (copies : List CString) (free : Nat) : List (Option CString) :=
  copies.map some ++ List.replicate free none

theorem filled_set (copies : List CString) (free : Nat) (copy : CString) :
    (filled copies (free + 1)).set copies.length (some copy) = filled (copies ++ [copy]) free := by
  have length : copies.length = (copies.map some).length + 0 := by simp
  unfold filled
  rw [length, List.set_append_right _ _ (by omega), Nat.add_sub_cancel_left]
  simp [List.replicate_succ]

/-- Allocations of a sequence that is copied as a whole. -/
def totalAllocations (items : List PyObject) : Nat := (items.map fun item => encodings item + 1).sum

theorem copyPatterns_spec (items : List PyObject) : ∀ (copies : List CString) (free : Nat)
    (patterns : CStrings) (s : Process), patterns.slots = filled copies free →
    items.length ≤ free →
    achieves (copyPatterns fails copies.length items patterns) s fun r s' =>
      ∃ (new : List CString) (leaked : Multiset (Token Resource)),
        new.map CString.text = copiedItems fails s.attempts items ∧
        leaked.card = new.length ∧
        r.2 = ⟨patterns.block, filled (copies ++ new) (free - new.length)⟩ ∧
        s'.ledger.owned = leaked + blocks new + s.ledger.owned ∧
        (if new.length = items.length then
          r.1 = 0 ∧ s'.attempts = s.attempts + totalAllocations items ∧ s'.pending = s.pending
        else r.1 = -1 ∧ s'.pending.isSome = true) := by
  induction items with
  | nil =>
    intro copies free patterns s shape _
    rw [copyPatterns, achieves_pure]
    exact ⟨[], 0, by simp [copiedItems, ← shape, totalAllocations, blocks]⟩
  | cons item rest ih =>
    intro copies free patterns s shape room
    unfold copyPatterns copiedItems
    apply achieves_bind_of (copyPattern_spec fails copies.length item patterns s)
    intro r s₁ spec
    cases copied : copiedBytes fails s.attempts item with
    | none =>
      rw [copied] at spec
      obtain ⟨rfl, owned, raised⟩ := spec
      simp only [achieves_ite, achieves_pure]
      exact ⟨[], 0, by simp [← shape, blocks, owned, raised]⟩
    | some text =>
      rw [copied] at spec
      obtain ⟨copy, ref, same, rfl, owned, attempts, pending⟩ := spec
      obtain ⟨free, rfl⟩ : ∃ n, free = n + 1 := ⟨free - 1, by simp at room; omega⟩
      have stored : (patterns.store copies.length copy).slots = filled (copies ++ [copy]) free := by
        rw [CStrings.store, shape, filled_set]
      have later := ih (copies ++ [copy]) free _ s₁ stored (by simpa using room)
      rw [List.length_append] at later
      apply achieves_mono later
      rintro ⟨result, array⟩ s₂ ⟨new, leaked, texts, card, rfl, owned', ends⟩
      refine ⟨copy :: new, ref ::ₘ leaked, ?_, ?_, ?_, ?_, ?_⟩
      · rw [List.map_cons, same, texts, attempts]
      · rw [Multiset.card_cons, card, List.length_cons]
      · simp [CStrings.store]
      · rw [owned', owned, blocks_cons]
        simp only [Multiset.add_cons, Multiset.cons_add]
      · simp only [List.length_cons, Nat.add_right_cancel_iff]
        split at ends
        next all =>
          rw [if_pos all, ends.2.2, pending, ends.2.1, attempts, totalAllocations,
            totalAllocations, List.map_cons, List.sum_cons]
          exact ⟨ends.1, by omega, rfl⟩
        next some =>
          rw [if_neg some]
          exact ends

/-! ## Freeing -/

theorem freeStrings_spec (copies : List CString) {free : Nat} (room : 0 < free) :
    ∀ {owned : Multiset (Token Resource)} {s : Process},
      s.ledger.owned = blocks copies + owned →
      achieves (freeStrings (filled copies free)) s fun _ s' =>
        s'.ledger.owned = owned ∧ s'.attempts = s.attempts ∧ s'.pending = s.pending := by
  induction copies with
  | nil =>
    intro owned s holds
    obtain ⟨free, rfl⟩ : ∃ n, free = n + 1 := ⟨free - 1, by omega⟩
    simpa [filled, List.replicate_succ, freeStrings, blocks] using holds
  | cons copy rest ih =>
    intro owned s holds
    change achieves (freeStrings (some copy :: filled rest free)) s _
    rw [blocks_cons, Multiset.cons_add] at holds
    rw [freeStrings, achieves_bind, achieves_release]
    refine ⟨by simp [holds], ih ?_⟩
    simp [holds]

theorem freeKeyPatterns_spec {patterns : CStrings} {copies : List CString} {free : Nat}
    (shape : patterns.slots = filled copies free) (room : 0 < free)
    {owned : Multiset (Token Resource)} {s : Process}
    (holds : s.ledger.owned = patterns.block ::ₘ (blocks copies + owned)) :
    achieves (freeKeyPatterns patterns) s fun _ s' =>
      s'.ledger.owned = owned ∧ s'.attempts = s.attempts ∧ s'.pending = s.pending := by
  have split : s.ledger.owned = blocks copies + patterns.block ::ₘ owned := by
    rw [holds, Multiset.add_cons]
  unfold freeKeyPatterns
  rw [shape]
  apply achieves_bind_of (freeStrings_spec copies room split)
  intro _ s₁ post
  obtain ⟨owned₁, attempts, pending⟩ := post
  rw [achieves_release]
  refine ⟨by simp [owned₁], ?_, attempts, pending⟩
  simp [owned₁]

/-- What `list` owns at the label `end`. -/
def listTokens : Option (Token Resource) → Multiset (Token Resource)
  | some list => {list}
  | none => 0

theorem releaseIfAny_spec (list : Option (Token Resource)) {owned : Multiset (Token Resource)}
    {s : Process} (holds : s.ledger.owned = listTokens list + owned) :
    achieves (releaseIfAny list) s fun _ s' =>
      s'.ledger.owned = owned ∧ s'.attempts = s.attempts ∧ s'.pending = s.pending := by
  cases list with
  | none => simpa [releaseIfAny, listTokens] using holds
  | some list => simp [releaseIfAny, holds, listTokens]

theorem parseEnd_frees (list : Option (Token Resource)) {result : Int} (failed : result < 0)
    {patterns : CStrings} {copies : List CString} {free : Nat}
    (shape : patterns.slots = filled copies free) (room : 0 < free)
    {owned : Multiset (Token Resource)} {s : Process}
    (holds : s.ledger.owned = listTokens list + patterns.block ::ₘ (blocks copies + owned)) :
    achieves (parseEnd list result (some patterns)) s fun r s' =>
      r = (result, none) ∧ s'.ledger.owned = owned ∧ s'.pending = s.pending := by
  unfold parseEnd
  apply achieves_bind_of (releaseIfAny_spec list holds)
  intro _ s₁ post
  obtain ⟨owned₁, _, pending₁⟩ := post
  simp only [if_pos failed]
  apply achieves_bind_of (freeKeyPatterns_spec shape room owned₁)
  intro _ s₂ post
  obtain ⟨owned₂, _, pending₂⟩ := post
  rw [achieves_pure]
  exact ⟨rfl, owned₂, pending₂.trans pending₁⟩

theorem parseEnd_keeps (list : Option (Token Resource)) {result : Int}
    {patterns : Option CStrings} (keeps : patterns = none ∨ 0 ≤ result)
    {owned : Multiset (Token Resource)} {s : Process}
    (holds : s.ledger.owned = listTokens list + owned) :
    achieves (parseEnd list result patterns) s fun r s' =>
      r = (result, patterns) ∧ s'.ledger.owned = owned ∧ s'.attempts = s.attempts ∧
        s'.pending = s.pending := by
  unfold parseEnd
  apply achieves_bind_of (releaseIfAny_spec list holds)
  intro _ s₁ same
  cases patterns with
  | none => simpa using same
  | some patterns =>
    have success : ¬ result < 0 := by simpa using keeps
    simpa [success] using same

/-! ## The array -/

theorem callocStrings_spec (count : Nat) (s : Process) :
    achieves (callocStrings fails count) s fun r s' =>
      s'.attempts = s.attempts + 1 ∧
        if fails s.attempts = false ∧ count * 8 < 2 ^ 64 then
          ∃ patterns, r = some patterns ∧ patterns.slots = filled [] count ∧
            s'.ledger.owned = patterns.block ::ₘ s.ledger.owned ∧ s'.pending = s.pending
        else r = none ∧ s'.ledger.owned = s.ledger.owned ∧ s'.pending.isSome = true := by
  have accepted : (fails s.attempts || decide (2 ^ 64 ≤ count * 8)) = false ↔
      fails s.attempts = false ∧ count * 8 < 2 ^ 64 := by simp
  unfold callocStrings
  rw [achieves_bind, achieves_allocate]
  by_cases success : fails s.attempts = false ∧ count * 8 < 2 ^ 64
  · have granted := accepted.mpr success
    simp only [granted, Bool.false_eq_true, if_false, if_pos success, achieves_pure, true_and,
      and_true]
    exact ⟨_, rfl, rfl, rfl⟩
  · have refused := mt accepted.mp success
    rw [Bool.not_eq_false] at refused
    simp only [refused, if_true, if_neg success, achieves_bind, achieves_noMemory, achieves_pure,
      Option.isSome_some, and_self]

theorem visited_length (items : List PyObject) : (visited items).length =
    if items.length % 2 ^ 32 < 2 ^ 31 then items.length % 2 ^ 32 else 0 := by
  rw [visited, List.length_take, cLength, BitVec.toInt_eq_toNat_cond, BitVec.toNat_ofNat]
  have small := Nat.mod_le items.length (2 ^ 32)
  split <;> split <;> omega

theorem slotCount_of_short {items : List PyObject} (short : items.length < 2 ^ 31 - 1) :
    slotCount items = items.length + 1 := by
  have one : BitVec.toNat (1 : BitVec 32) = 1 := rfl
  have positive : ¬ 2 ^ (32 - 1) ≤ (items.length % 2 ^ 32 + 1) % 2 ^ 32 := by omega
  unfold slotCount
  rw [BitVec.toNat_signExtend, BitVec.msb_eq_decide, BitVec.toNat_setWidth, BitVec.toNat_add,
    BitVec.toNat_ofNat, one]
  simp only [positive, decide_false, Bool.false_eq_true, if_false]
  omega

/-- An array that is not too large has room for the NULL, or no slot at all. -/
theorem slotCount_of_fits {items : List PyObject} (fits : slotCount items * 8 < 2 ^ 64) :
    slotCount items = (visited items).length + 1 ∨
      slotCount items = 0 ∧ visited items = [] ∧ items ≠ [] := by
  rw [← List.length_eq_zero_iff, ← List.length_pos_iff, visited_length]
  unfold slotCount at fits ⊢
  have one : BitVec.toNat (1 : BitVec 32) = 1 := rfl
  rw [BitVec.toNat_signExtend, BitVec.msb_eq_decide, BitVec.toNat_setWidth, BitVec.toNat_add,
    BitVec.toNat_ofNat, one] at fits ⊢
  by_cases negative : 2 ^ (32 - 1) ≤ (items.length % 2 ^ 32 + 1) % 2 ^ 32
  · simp only [negative, decide_true, if_true] at fits
    omega
  · simp only [negative, decide_false, Bool.false_eq_true, if_false] at fits ⊢
    split <;> omega

/-! ## Which patterns are copied, in terms of the argument -/

/-- All the bytes of a pattern, if it has any. -/
def wholeBytes : PyObject → Option Bytes
  | .bytes data => some data
  | .str text => if encodable text then some (utf8 text) else none
  | _ => none

/-- These allocations succeed, when `n` were made before. -/
def Succeed (n count : Nat) : Prop := ∀ i, i < count → fails (n + i) = false

instance (n count : Nat) : Decidable (Succeed fails n count) :=
  inferInstanceAs (Decidable (∀ i, i < count → fails (n + i) = false))

@[simp] theorem succeed_zero (n : Nat) : Succeed fails n 0 :=
  fun i small => absurd small (Nat.not_lt_zero i)

theorem succeed_add (n first rest : Nat) :
    Succeed fails n (first + rest) ↔ Succeed fails n first ∧ Succeed fails (n + first) rest := by
  constructor
  · intro all
    constructor
    · intro i small
      exact all i (by omega)
    · intro i small
      rw [Nat.add_assoc]
      exact all (first + i) (by omega)
  · intro post i small
    obtain ⟨left, right⟩ := post
    by_cases early : i < first
    · exact left i early
    · have late := right (i - first) (by omega)
      rwa [Nat.add_assoc, Nat.add_sub_cancel' (by omega)] at late

theorem succeed_one (n : Nat) : Succeed fails n 1 ↔ fails n = false := by
  constructor
  · exact fun all => all 0 (Nat.lt_succ_self 0)
  · intro success i small
    rwa [show i = 0 by omega]

theorem encodedBytes_eq_some_iff (n : Nat) (item : PyObject) (data : Bytes) :
    encodedBytes fails n item = some data ↔
      wholeBytes item = some data ∧ Succeed fails n (encodings item) := by
  cases item with
  | str text =>
    rw [encodings, succeed_one]
    cases failing : fails n <;> cases valid : encodable text <;>
      simp [encodedBytes, wholeBytes, failing, valid]
  | _ => simp [encodedBytes, wholeBytes, encodings]

theorem encodedBytes_isSome_iff (n : Nat) (item : PyObject) :
    (encodedBytes fails n item).isSome = true ↔
      (wholeBytes item).isSome = true ∧ Succeed fails n (encodings item) := by
  simp only [Option.isSome_iff_exists, encodedBytes_eq_some_iff, exists_and_right]

theorem copiedBytes_eq_some_iff (n : Nat) (item : PyObject) (text : Bytes) :
    copiedBytes fails n item = some text ↔
      (wholeBytes item).map cString = some text ∧ Succeed fails n (encodings item + 1) := by
  rw [succeed_add, succeed_one, Option.map_eq_some_iff]
  unfold copiedBytes
  cases encoded : encodedBytes fails n item with
  | some data =>
    have whole := (encodedBytes_eq_some_iff fails n item data).mp encoded
    cases failing : fails (n + encodings item) <;> simp [whole]
  | none =>
    have other : ∀ data, ¬ (wholeBytes item = some data ∧ Succeed fails n (encodings item)) := by
      intro data whole
      rw [(encodedBytes_eq_some_iff fails n item data).mpr whole] at encoded
      cases encoded
    simp only [reduceCtorEq, false_iff]
    intro post
    obtain ⟨⟨data, whole, _⟩, success, _⟩ := post
    exact other data ⟨whole, success⟩

theorem copiedBytes_isSome_iff (n : Nat) (item : PyObject) :
    (copiedBytes fails n item).isSome = true ↔
      (wholeBytes item).isSome = true ∧ Succeed fails n (encodings item + 1) := by
  simp only [Option.isSome_iff_exists, copiedBytes_eq_some_iff, Option.map_eq_some_iff]
  constructor
  · intro post
    obtain ⟨_, ⟨data, whole, _⟩, success⟩ := post
    exact ⟨⟨data, whole⟩, success⟩
  · intro post
    obtain ⟨⟨data, whole⟩, success⟩ := post
    exact ⟨cString data, ⟨data, whole, rfl⟩, success⟩

/-- Every item is copied exactly when each has bytes and all allocations succeed. -/
theorem copiedItems_length_iff (items : List PyObject) : ∀ n,
    (copiedItems fails n items).length = items.length ↔
      (∀ item ∈ items, (wholeBytes item).isSome = true) ∧
        Succeed fails n (totalAllocations items) := by
  induction items with
  | nil =>
    intro n
    simp [copiedItems, totalAllocations]
  | cons item rest ih =>
    intro n
    have total : totalAllocations (item :: rest) = encodings item + 1 + totalAllocations rest := rfl
    have first := copiedBytes_isSome_iff fails n item
    rw [total, succeed_add, List.forall_mem_cons]
    unfold copiedItems
    cases copied : copiedBytes fails n item with
    | some text =>
      rw [copied] at first
      obtain ⟨copyable, success⟩ := first.mp rfl
      simp only [List.length_cons, Nat.add_right_cancel_iff, ih, copyable, true_and]
      exact and_congr_right fun _ => (and_iff_right success).symm
    | none =>
      rw [copied] at first
      apply iff_of_false (by simp)
      intro post
      obtain ⟨⟨copyable, _⟩, success, _⟩ := post
      cases first.mpr ⟨copyable, success⟩

theorem copiedItems_length_le (items : List PyObject) : ∀ n,
    (copiedItems fails n items).length ≤ items.length := by
  induction items with
  | nil => exact fun _ => Nat.le_refl 0
  | cons item rest ih =>
    intro n
    unfold copiedItems
    split
    next => exact Nat.succ_le_succ (ih _)
    next => exact Nat.zero_le _

theorem copiedItems_whole (items : List PyObject) : ∀ n,
    (copiedItems fails n items).length = items.length →
      (copiedItems fails n items).map some = items.map fun item => (wholeBytes item).map cString := by
  induction items with
  | nil => exact fun _ _ => rfl
  | cons item rest ih =>
    intro n all
    unfold copiedItems at all ⊢
    cases copied : copiedBytes fails n item with
    | some text =>
      rw [copied] at all
      have later := ih _ (Nat.succ.inj all)
      have whole := ((copiedBytes_eq_some_iff fails n item text).mp copied).1
      rw [List.map_cons, List.map_cons, later, whole]
    | none =>
      rw [copied] at all
      cases all

theorem copiedItems_ne_nil_iff (items : List PyObject) (n : Nat) :
    copiedItems fails n items ≠ [] ↔ ∃ first rest, items = first :: rest ∧
      (wholeBytes first).isSome = true ∧ Succeed fails n (encodings first + 1) := by
  cases items with
  | nil => simp [copiedItems]
  | cons item rest =>
    have first := copiedBytes_isSome_iff fails n item
    unfold copiedItems
    cases copied : copiedBytes fails n item with
    | some text =>
      rw [copied] at first
      exact iff_of_true (List.cons_ne_nil _ _) ⟨item, rest, rfl, first.mp rfl⟩
    | none =>
      rw [copied] at first
      apply iff_of_false (fun nonempty => nonempty rfl)
      rintro ⟨_, _, same, copyable, success⟩
      cases same
      cases first.mpr ⟨copyable, success⟩

/-! ## The whole function -/

/-- The patterns that an argument stands for: itself, or its items. -/
def patternItems : PyObject → Except Stop (List PyObject)
  | .str text => .ok [.str text]
  | .bytes data => .ok [.bytes data]
  | pattern => pattern.items

theorem patternItems_crash_iff (pattern : PyObject) :
    patternItems pattern = .error .crash ↔ pattern = .sigNotation none := by
  rw [← items_crash_iff]
  unfold patternItems
  split
  next => simp [PyObject.items]
  next => simp [PyObject.items]
  next => rfl

/-- The array can be allocated, every pattern the loop visits has bytes, and no
allocation fails. -/
def AllCopied (items : List PyObject) : Prop :=
  slotCount items * 8 < 2 ^ 64 ∧ (∀ item ∈ visited items, (wholeBytes item).isSome = true) ∧
    Succeed fails 0 (1 + totalAllocations (visited items))

instance (items : List PyObject) : Decidable (AllCopied fails items) :=
  inferInstanceAs (Decidable (_ ∧ _ ∧ _))

/-- The same for the first pattern only. -/
def FirstCopied (items : List PyObject) : Prop :=
  slotCount items * 8 < 2 ^ 64 ∧ ∃ first rest, visited items = first :: rest ∧
    (wholeBytes first).isSome = true ∧ Succeed fails 0 (1 + (encodings first + 1))

/-- The end of `parse_key_patterns`. `leaked` are the references it forgets. -/
def Parsed (items : List PyObject) (r : Int × Option CStrings) (s : Process) : Prop :=
  ∃ (copies : List CString) (leaked : Multiset (Token Resource)),
    leaked.card = copies.length ∧ (copies ≠ [] ↔ FirstCopied fails items) ∧
    if AllCopied fails items then
      (∃ patterns, r = (0, some patterns) ∧
        patterns.slots = filled copies (slotCount items - copies.length) ∧
        s.ledger.owned = patterns.block ::ₘ (blocks copies + leaked)) ∧
      copies.map (fun copy => some copy.text) =
        (visited items).map (fun item => (wholeBytes item).map cString) ∧
      s.attempts = 1 + totalAllocations (visited items) ∧ s.pending = none
    else r = (-1, none) ∧ s.ledger.owned = leaked ∧ s.pending.isSome = true

theorem not_granted {items : List PyObject}
    (refused : ¬ (fails 0 = false ∧ slotCount items * 8 < 2 ^ 64)) :
    ¬ AllCopied fails items ∧ ¬ FirstCopied fails items := by
  constructor
  · intro post
    obtain ⟨fits, _, success⟩ := post
    exact refused ⟨success 0 (by omega), fits⟩
  · intro post
    obtain ⟨fits, _, _, _, _, success⟩ := post
    exact refused ⟨success 0 (by omega), fits⟩

theorem allCopied_iff {items : List PyObject} (granted : fails 0 = false)
    (fits : slotCount items * 8 < 2 ^ 64) :
    (copiedItems fails 1 (visited items)).length = (visited items).length ↔
      AllCopied fails items := by
  simp only [copiedItems_length_iff, AllCopied, succeed_add, succeed_one, granted, fits, true_and,
    Nat.zero_add]

theorem firstCopied_iff {items : List PyObject} (granted : fails 0 = false)
    (fits : slotCount items * 8 < 2 ^ 64) :
    copiedItems fails 1 (visited items) ≠ [] ↔ FirstCopied fails items := by
  simp only [copiedItems_ne_nil_iff, FirstCopied, succeed_add, succeed_one, granted, fits,
    true_and, Nat.zero_add]

theorem Parsed.failed {items : List PyObject} (copies : List CString) {s : Process}
    (first : copies ≠ [] ↔ FirstCopied fails items) (failed : ¬ AllCopied fails items)
    (leaked : s.ledger.owned.card = copies.length) (raised : s.pending.isSome = true) :
    Parsed fails items (-1, none) s := by
  refine ⟨copies, s.ledger.owned, leaked, first, ?_⟩
  rw [if_neg failed]
  exact ⟨rfl, rfl, raised⟩

/-- At the label `end`: the list, the array, the copies, and what was leaked. -/
theorem owned_at_end (leaked copied list : Multiset (Token Resource)) (block : Token Resource) :
    leaked + copied + block ::ₘ (list + 0) = list + block ::ₘ (copied + leaked) := by
  simp only [Multiset.add_cons, Multiset.add_zero]
  rw [Multiset.add_comm leaked, Multiset.add_comm]

theorem parseSequence_spec {pattern : PyObject} {items : List PyObject}
    (found : pattern.items = .ok items) :
    achieves (parseSequence fails pattern) .start (Parsed fails items) := by
  unfold parseSequence
  simp only [sequenceFast_ok found, achieves_bind, achieves_take]
  generalize started : (Process.start.ledger.take .sequence).1 = list
  have owned₀ : (Process.start.ledger.take .sequence).2.owned = listTokens (some list) + 0 := by
    rw [← started]
    rfl
  apply achieves_mono (callocStrings_spec fails (slotCount items) _)
  intro r s₁ post
  obtain ⟨made, spec⟩ := post
  have attempts₁ : s₁.attempts = 1 := made
  by_cases granted : fails 0 = false ∧ slotCount items * 8 < 2 ^ 64
  · rw [if_pos (by exact granted)] at spec
    obtain ⟨patterns, rfl, shape, owned₁, pending₁⟩ := spec
    have room := slotCount_of_fits granted.2
    have enough : (visited items).length ≤ slotCount items := by
      rcases room with room | ⟨_, none, _⟩
      · omega
      · simp [none]
    apply achieves_bind_of
      (copyPatterns_spec fails (visited items) [] (slotCount items) patterns s₁ shape enough)
    rintro ⟨result, array⟩ s₂ ⟨copies, leaked, texts, card, rfl, owned₂, ends⟩
    rw [attempts₁] at texts
    have length := congrArg List.length texts
    rw [List.length_map] at length
    have first : copies ≠ [] ↔ FirstCopied fails items := by
      rw [← firstCopied_iff fails granted.1 granted.2]
      exact not_congr (by rw [← List.length_eq_zero_iff, length, List.length_eq_zero_iff])
    have whole : copies.length = (visited items).length ↔ AllCopied fails items := by
      rw [← allCopied_iff fails granted.1 granted.2, length]
    rw [owned₁, owned₀, owned_at_end] at owned₂
    split at ends
    next all =>
      have copied := whole.mp all
      obtain ⟨rfl, attempts₂, pending₂⟩ := ends
      apply achieves_mono (parseEnd_keeps (some list) (.inr (Int.le_refl 0)) owned₂)
      rintro r s₃ ⟨rfl, owned₃, attempts₃, pending₃⟩
      refine ⟨copies, leaked, card, first, ?_⟩
      rw [if_pos copied]
      refine ⟨⟨_, rfl, rfl, owned₃⟩, ?_, ?_, ?_⟩
      · rw [← copiedItems_whole fails _ 1 (by rw [← length, all]), ← texts, List.map_map]
        rfl
      · rw [attempts₃, attempts₂, attempts₁]
      · rw [pending₃, pending₂, pending₁]
        rfl
    next part =>
      obtain ⟨rfl, raised⟩ := ends
      have bound := copiedItems_length_le fails (visited items) 1
      have free : 0 < slotCount items - copies.length := by
        rcases room with room | ⟨_, none, _⟩
        · omega
        · have empty := congrArg List.length none
          rw [List.length_nil] at empty
          omega
      apply achieves_mono (parseEnd_frees (some list) (Int.negSucc_lt_zero 0) (by exact rfl) free
        (by exact owned₂))
      rintro r s₃ ⟨rfl, owned₃, pending₃⟩
      apply Parsed.failed fails _ first (mt whole.mpr part)
      · rw [owned₃, card]
      · rw [pending₃]
        exact raised
  · rw [if_neg (by exact granted)] at spec
    obtain ⟨rfl, owned₁, raised⟩ := spec
    have none := not_granted fails granted
    apply achieves_mono (parseEnd_keeps (some list) (.inl rfl) (owned₁.trans owned₀))
    rintro r s₂ ⟨rfl, owned₂, _, pending₂⟩
    apply Parsed.failed fails [] (by simp [none.2]) none.1
    · rw [owned₂]
      rfl
    · rw [pending₂]
      exact raised

theorem slotCount_single (pattern : PyObject) : slotCount [pattern] = 2 := rfl

theorem visited_single (pattern : PyObject) : visited [pattern] = [pattern] := rfl

theorem allCopied_single (pattern : PyObject) :
    AllCopied fails [pattern] ↔ (wholeBytes pattern).isSome = true ∧
      Succeed fails 0 (1 + (encodings pattern + 1)) := by
  simp [AllCopied, slotCount_single, visited_single, totalAllocations]

theorem firstCopied_single (pattern : PyObject) :
    FirstCopied fails [pattern] ↔ AllCopied fails [pattern] := by
  rw [allCopied_single, FirstCopied, slotCount_single, visited_single]
  constructor
  · rintro ⟨_, first, rest, same, copied⟩
    cases same
    exact copied
  · exact fun copied => ⟨by decide, pattern, [], rfl, copied⟩

/-- A pattern by itself that is not copied: nothing is kept. -/
theorem single_failed {pattern : PyObject} (failed : ¬ AllCopied fails [pattern]) {s : Process}
    (nothing : s.ledger.owned = 0) (raised : s.pending.isSome = true) :
    Parsed fails [pattern] (-1, none) s := by
  apply Parsed.failed fails []
  · rw [firstCopied_single]
    exact iff_of_false (fun nonempty => nonempty rfl) failed
  · exact failed
  · rw [nothing]
    rfl
  · exact raised

theorem parseSingle_spec (pattern : PyObject) :
    achieves (parseSingle fails pattern) .start (Parsed fails [pattern]) := by
  have order : 1 + (encodings pattern + 1) = encodings pattern + 1 + 1 := by omega
  have single := allCopied_single fails pattern
  have bytes := encodedBytes_isSome_iff fails 0 pattern
  rw [order, succeed_add, succeed_add, succeed_one, succeed_one, ← and_assoc, ← and_assoc,
    ← bytes, Nat.zero_add, Nat.zero_add] at single
  unfold parseSingle
  apply achieves_bind_of (patternBytes_spec fails pattern .start)
  intro r s₁ spec
  cases encoded : encodedBytes fails Process.start.attempts pattern with
  | none =>
    have failed : ¬ AllCopied fails [pattern] := by
      rw [single, show encodedBytes fails 0 pattern = none from encoded]
      simp
    rw [encoded] at spec
    obtain ⟨rfl, owned₁, raised⟩ := spec
    apply achieves_mono (parseEnd_keeps none (.inl rfl) (Multiset.zero_add _).symm)
    rintro r s₂ ⟨rfl, owned₂, _, pending₂⟩
    exact single_failed fails failed (owned₂.trans owned₁) (by rw [pending₂, raised])
  | some data =>
    rw [encoded] at spec
    obtain ⟨ref, rfl, held₁, made₁, pending₁⟩ := spec
    have owned₁ : s₁.ledger.owned = ref ::ₘ 0 := held₁
    have attempts₁ : s₁.attempts = encodings pattern := made₁.trans (Nat.zero_add _)
    rw [show encodedBytes fails 0 pattern = some data from encoded] at single
    apply achieves_bind_of (callocStrings_spec fails 2 s₁)
    intro r s₂ post
    obtain ⟨attempts₂, spec⟩ := post
    rw [attempts₁] at attempts₂ spec
    by_cases granted : fails (encodings pattern) = false
    · rw [if_pos ⟨granted, by decide⟩] at spec
      obtain ⟨patterns, rfl, shape, owned₂, pending₂⟩ := spec
      rw [owned₁, Multiset.cons_swap] at owned₂
      apply achieves_bind_of (strdup_spec fails ⟨ref, data⟩ owned₂)
      intro r s₃ spec
      rw [attempts₂] at spec
      cases failing : fails (encodings pattern + 1) with
      | true =>
        rw [if_pos failing] at spec
        obtain ⟨rfl, owned₃, raised⟩ := spec
        have ending : s₃.ledger.owned =
            listTokens none + patterns.block ::ₘ (blocks [] + 0) := owned₃
        apply achieves_mono (parseEnd_frees none (Int.negSucc_lt_zero 0) shape (by decide) ending)
        rintro r s₄ ⟨rfl, owned₄, pending₄⟩
        exact single_failed fails (by simp [single, failing]) owned₄ (by rw [pending₄, raised])
      | false =>
        rw [if_neg (by simp [failing])] at spec
        obtain ⟨copy, rfl, text, owned₃, attempts₃, pending₃⟩ := spec
        have copied : AllCopied fails [pattern] := single.mpr ⟨⟨rfl, granted⟩, failing⟩
        have whole := ((encodedBytes_eq_some_iff fails 0 pattern data).mp encoded).1
        have ending : s₃.ledger.owned =
            listTokens none + patterns.block ::ₘ (blocks [copy] + ref ::ₘ 0) := by
          have moved : blocks [copy] + ref ::ₘ 0 = copy.block ::ₘ ref ::ₘ 0 := rfl
          rw [owned₃, listTokens, Multiset.zero_add, moved, Multiset.cons_swap patterns.block,
            Multiset.cons_swap patterns.block]
        apply achieves_mono (parseEnd_keeps none (.inr (Int.le_refl 0)) ending)
        rintro r s₄ ⟨rfl, owned₄, attempts₄, pending₄⟩
        refine ⟨[copy], ref ::ₘ 0, rfl, ?_, ?_⟩
        · rw [firstCopied_single]
          exact iff_of_true (List.cons_ne_nil _ _) copied
        · rw [if_pos copied]
          refine ⟨⟨_, rfl, ?_, owned₄⟩, ?_, ?_, ?_⟩
          · rw [CStrings.store, shape, slotCount_single]
            rfl
          · simp [visited_single, whole, text]
          · rw [attempts₄, attempts₃, visited_single]
            simp [totalAllocations]
            omega
          · rw [pending₄, pending₃, pending₂, pending₁]
            rfl
    · rw [if_neg (fun all => granted all.1)] at spec
      obtain ⟨rfl, owned₂, raised⟩ := spec
      rw [owned₁] at owned₂
      rw [achieves_bind, achieves_release]
      refine ⟨by simp [owned₂], ?_⟩
      apply achieves_mono (parseEnd_keeps none (.inl rfl) (Multiset.zero_add _).symm)
      rintro r s₃ ⟨rfl, owned₃, _, pending₃⟩
      apply single_failed fails (by simp [single, granted]) _ (by rw [pending₃, raised])
      rw [owned₃]
      simp [owned₂]

theorem parseSequence_refused {pattern : PyObject} {e : PyExc}
    (found : pattern.items = .error (.raised e)) :
    achieves (parseSequence fails pattern) .start fun r s =>
      r = (-1, none) ∧ s.ledger.owned = 0 ∧ s.pending.isSome = true := by
  unfold parseSequence sequenceFast
  simp only [found, Except.mapError, Stop.named]
  rw [achieves_bind, Memory.achieves_setPending]
  apply achieves_mono (parseEnd_keeps none (.inl rfl) (Multiset.zero_add _).symm)
  rintro r s ⟨rfl, owned, _, pending⟩
  refine ⟨rfl, owned, ?_⟩
  rw [pending]
  rfl

/-- The three shapes of the argument. -/
theorem parse_shapes (pattern : PyObject) :
    pattern = .none ∨
      parseKeyPatterns fails pattern = parseSingle fails pattern ∧
        patternItems pattern = .ok [pattern] ∨
      parseKeyPatterns fails pattern = parseSequence fails pattern ∧
        patternItems pattern = pattern.items := by
  cases pattern with
  | none => exact .inl rfl
  | str text => exact .inr (.inl ⟨rfl, rfl⟩)
  | bytes data => exact .inr (.inl ⟨rfl, rfl⟩)
  | _ => exact .inr (.inr ⟨rfl, rfl⟩)

/-- An argument that stands for patterns is parsed so. -/
theorem parseKeyPatterns_spec {pattern : PyObject} {items : List PyObject}
    (found : patternItems pattern = .ok items) :
    achieves (parseKeyPatterns fails pattern) .start (Parsed fails items) := by
  rcases parse_shapes fails pattern with rfl | ⟨same, single⟩ | ⟨same, sequence⟩
  · cases found
  · rw [single] at found
    cases found
    rw [same]
    exact parseSingle_spec fails pattern
  · rw [sequence] at found
    rw [same]
    exact parseSequence_spec fails found

/-- Any other argument is refused before anything is taken, -/
theorem parseKeyPatterns_refused {pattern : PyObject} {e : PyExc}
    (other : pattern ≠ .none) (found : patternItems pattern = .error (.raised e)) :
    achieves (parseKeyPatterns fails pattern) .start fun r s =>
      r = (-1, none) ∧ s.ledger.owned = 0 ∧ s.pending.isSome = true := by
  rcases parse_shapes fails pattern with rfl | ⟨same, single⟩ | ⟨same, sequence⟩
  · exact absurd rfl other
  · rw [single] at found
    cases found
  · rw [sequence] at found
    rw [same]
    exact parseSequence_refused fails found

/-- unless the iteration over it ends the process. -/
theorem parseKeyPatterns_crash (s : Process) (Q : Int × Option CStrings → Process → Prop) :
    ¬ achieves (parseKeyPatterns fails (.sigNotation none)) s Q := by
  change ¬ achieves (parseSequence fails (.sigNotation none)) s Q
  unfold parseSequence
  rw [(sequenceFast_crash_iff _ _).mpr rfl]
  exact (achieves_crash s Q).mp

theorem parseKeyPatterns_none :
    achieves (parseKeyPatterns fails .none) .start fun r s =>
      r = (0, none) ∧ s.ledger.owned = 0 ∧ s.attempts = 0 ∧ s.pending = none :=
  parseEnd_keeps none (.inl rfl) rfl

end Pygpgme.Source.PatternCopies
