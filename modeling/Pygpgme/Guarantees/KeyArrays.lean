import Pygpgme.Guarantees.ListSetters
import Pygpgme.Source.KeyArrays
import Pygpgme.Source.PatternCopies

/-!
# Key sequences on their way to gpgme

The request, the loop and the NULL at the end agree as long as `length + 1` is an `int`.
Of a longer sequence gpgme sees some keys or none, or the call crashes, and an item that
the loop does not visit can be anything.
-/

set_option autoImplicit false

namespace Pygpgme.Guarantees.KeyArrays
open Pygpgme.Source.Python Pygpgme.Source.Arguments
open Pygpgme.Source.KeyLifetime (Operation)
open Pygpgme.Source.KeyPatterns (slotCount)
open Pygpgme.Source.PatternCopies (visited_length)
open Pygpgme.Source.KeyArrays
open Pygpgme.Guarantees.ListSetters (leadingKeys)

variable (alloc : Allocator)

/-- The array has one slot more than there are keys, no store is outside of it, and gpgme
gets the keys in order with a NULL after them. -/
def GivenWhole (op : Operation) (handles : List Nat) : Prop :=
  ∀ o : PyObject, o.items = .ok (handles.map .key) →
    call alloc op none o = .started (some (handles.map Slot.key ++ [.null]))

def isKey : PyObject → Bool
  | .key _ => true
  | _ => false

/-- A sequence with some other object gives a `TypeError`, and gpgme is not started. -/
def RefusesOthers (op : Operation) (items : List PyObject) : Prop :=
  (∃ item ∈ items, isKey item = false) → ∀ (o : PyObject) (data : Option PyExc),
    o.items = .ok items → ∃ e, call alloc op data o = .raised e ∧ e.cls = .typeError

/-- The length as an `int` is one to which 1 can be added, and so much memory is granted. -/
def Granted (items : List PyObject) : Prop :=
  items.length % 2 ^ 32 + 1 < 2 ^ 31 ∧
    alloc.grants ((items.length % 2 ^ 32 + 1) * 8) = true

/-! ## Blocks -/

variable {alloc} {items : List PyObject}

theorem visited_of_small (small : items.length % 2 ^ 32 + 1 < 2 ^ 31) :
    (visited items).length = items.length % 2 ^ 32 := by
  rw [visited_length]
  split <;> omega

theorem slotCount_of_small (small : items.length % 2 ^ 32 + 1 < 2 ^ 31) :
    slotCount items = items.length % 2 ^ 32 + 1 := by
  rcases slotCount_cases items with fits | exceeds
  · exact fits.2
  · omega

theorem mallocKeys_granted (granted : Granted alloc items) :
    mallocKeys alloc items =
      some (List.replicate ((visited items).length + 1) .uninitialised) := by
  obtain ⟨small, grants⟩ := granted
  have size : slotCount items * 8 % 2 ^ 64 = (items.length % 2 ^ 32 + 1) * 8 := by
    rw [slotCount_of_small small]
    omega
  have slots : (items.length % 2 ^ 32 + 1) * 8 / 8 = items.length % 2 ^ 32 + 1 := by omega
  rw [mallocKeys, size, if_pos grants, slots, visited_of_small small]

theorem callocKeys_granted (granted : Granted alloc items) :
    callocKeys alloc items = some (List.replicate ((visited items).length + 1) .null) := by
  obtain ⟨small, grants⟩ := granted
  rw [callocKeys, slotCount_of_small small, if_pos grants, visited_of_small small]

/-- No block, or one without a slot. -/
def Useless (keys : KeyPointer) : Prop := keys = none ∨ keys = some []

/-- A request that is refused, or one for no bytes. -/
theorem useless_of_request {size count : Nat} {init : Slot}
    (request : alloc.grants size = true → count = 0) :
    Useless (if alloc.grants size then some (List.replicate count init) else none) := by
  split
  next granted => exact .inr (by rw [request granted]; rfl)
  next => exact .inl rfl

theorem mallocKeys_refused (refused : ¬ Granted alloc items) :
    Useless (mallocKeys alloc items) := by
  apply useless_of_request
  intro granted
  have bounded := alloc.bounded _ granted
  rcases slotCount_cases items with fits | exceeds
  · have size : slotCount items * 8 % 2 ^ 64 = (items.length % 2 ^ 32 + 1) * 8 := by omega
    rw [size] at granted
    exact absurd ⟨fits.1, granted⟩ refused
  · omega

theorem callocKeys_refused (refused : ¬ Granted alloc items) :
    Useless (callocKeys alloc items) := by
  apply useless_of_request
  intro granted
  have bounded := alloc.bounded _ granted
  rcases slotCount_cases items with fits | exceeds
  · rw [fits.2] at granted
    exact absurd ⟨fits.1, granted⟩ refused
  · omega

/-! ## Loops -/

theorem leadingKeys_split (items : List PyObject) :
    ∃ rest, items = (leadingKeys items).map PyObject.key ++ rest ∧
      ∀ item, rest.head? = some item → isKey item = false := by
  fun_induction leadingKeys items with
  | case1 handle rest ih =>
    obtain ⟨others, same, stops⟩ := ih
    exact ⟨others, congrArg (PyObject.key handle :: ·) same, stops⟩
  | case2 items other =>
    refine ⟨items, rfl, ?_⟩
    intro item first
    cases items with
    | nil => cases first
    | cons head rest =>
      cases first
      unfold isKey
      split
      next handle => exact absurd rfl (other handle rest)
      next => rfl

theorem isKey_eq_false {item : PyObject} (other : isKey item = false) (handle : Nat) :
    item ≠ .key handle := by
  intro same
  subst same
  cases other

/-- The loop with room for all that it visits and one slot more. -/
theorem storeKeys_granted (text : String) (init : Slot) (items : List PyObject) :
    storeKeys text 0 (some (List.replicate (items.length + 1) init)) items =
      if (leadingKeys items).length = items.length then
        .ok (some ((leadingKeys items).map Slot.key ++ [init]))
      else .error (.raised (excString .typeError text)) := by
  obtain ⟨rest, split, stops⟩ := leadingKeys_split items
  have lengths : items.length = (leadingKeys items).length + rest.length := by
    conv_lhs => rw [split]
    simp
  have room : (leadingKeys items).length ≤ (List.replicate (items.length + 1) init).length := by
    rw [List.length_replicate]
    omega
  have loop := storeKeys_keys text (leadingKeys items) rest [] _ room
  rw [← split] at loop
  rw [List.length_nil, List.nil_append] at loop
  rw [loop]
  cases rest with
  | nil =>
    rw [List.length_nil, Nat.add_zero] at lengths
    have left : items.length + 1 - (leadingKeys items).length = 1 := by omega
    rw [if_pos lengths.symm, List.drop_replicate, left]
    simp [storeKeys]
  | cons item others =>
    have shorter : (leadingKeys items).length ≠ items.length := by simp [lengths]
    rw [if_neg shorter]
    exact storeKeys_other text _ _ others (isKey_eq_false (stops item rfl))

/-! ## The four operations -/

/-- What becomes of the visited items when there is memory for them. -/
def filled (text : String) (items : List PyObject) : Except Stop KeyPointer :=
  if (leadingKeys items).length = items.length then
    .ok (some ((leadingKeys items).map Slot.key ++ [.null]))
  else .error (.raised (excString .typeError text))

/-- What becomes of them when there is not: there is nothing to store, or a store crashes,
or the first of them is refused. -/
inductive Unfilled (items : List PyObject) : Except Stop KeyPointer → Prop where
  | nothing {keys : KeyPointer} (empty : items = []) (useless : Useless keys) :
      Unfilled items (.ok keys)
  | crashed (noOther : leadingKeys items ≠ [] ∨ items = []) : Unfilled items (.error .crash)
  | refused (some : items ≠ []) (first : leadingKeys items = []) (text : String) :
      Unfilled items (.error (.raised (excString .typeError text)))

/-- The loop with nowhere to store a key. -/
theorem storeKeys_useless (text : String) {keys : KeyPointer} (useless : Useless keys)
    (items : List PyObject) : Unfilled items (storeKeys text 0 keys items) := by
  obtain ⟨rest, split, stops⟩ := leadingKeys_split items
  cases leading : leadingKeys items with
  | cons handle others =>
    have crashes : storeKeys text 0 keys items = .error .crash := by
      rw [split, leading]
      rcases useless with rfl | rfl <;> rfl
    rw [crashes]
    exact .crashed (.inl (by simp [leading]))
  | nil =>
    rw [leading, List.map_nil, List.nil_append] at split
    subst split
    cases items with
    | nil => exact .nothing rfl useless
    | cons item others =>
      rw [storeKeys_other text 0 keys others (isKey_eq_false (stops item rfl))]
      exact .refused (by simp) leading text

theorem store_useless {keys : KeyPointer} (useless : Useless keys) (slot : Slot) :
    store keys 0 slot = .error .crash := by
  rcases useless with rfl | rfl <;> rfl

/-- NULL is stored behind the keys. -/
theorem store_null (handles : List Nat) (slot : Slot) :
    store (some (handles.map Slot.key ++ [slot])) handles.length .null =
      .ok (some (handles.map Slot.key ++ [.null])) := by
  simp [store]

theorem fillRecipients_granted (granted : Granted alloc items) :
    fillRecipients alloc items =
      filled "items in first argument must be gpgme.Key objects" (visited items) := by
  unfold fillRecipients filled
  rw [mallocKeys_granted granted, storeKeys_granted]
  split
  next all =>
    rw [← all]
    exact store_null _ _
  next => rfl

theorem fillKeys_granted (granted : Granted alloc items) :
    fillKeys alloc items = filled "keys must be a sequence of key objects" (visited items) := by
  unfold fillKeys
  rw [callocKeys_granted granted]
  exact storeKeys_granted _ _ _

theorem fillRecipients_refused (refused : ¬ Granted alloc items) :
    Unfilled (visited items) (fillRecipients alloc items) := by
  have loop := storeKeys_useless "items in first argument must be gpgme.Key objects"
    (mallocKeys_refused refused) (visited items)
  unfold fillRecipients
  generalize storeKeys _ 0 _ (visited items) = stored at loop ⊢
  cases loop with
  | nothing empty useless =>
    rw [empty]
    change Unfilled [] (store _ 0 .null)
    rw [store_useless useless]
    exact .crashed (.inr rfl)
  | crashed noOther => exact .crashed noOther
  | refused some first text => exact .refused some first text

theorem fillKeys_refused (refused : ¬ Granted alloc items) :
    Unfilled (visited items) (fillKeys alloc items) :=
  storeKeys_useless _ (callocKeys_refused refused) _

/-- The array of each operation, and the text of its `TypeError`. -/
def fill (alloc : Allocator) : Operation → List PyObject → Except Stop KeyPointer
  | .encrypt | .encryptSign => fillRecipients alloc
  | .importKeys | .exportKeys => fillKeys alloc

def itemText : Operation → String
  | .encrypt | .encryptSign => "items in first argument must be gpgme.Key objects"
  | .importKeys | .exportKeys => "keys must be a sequence of key objects"

theorem not_none_of_items {o : PyObject} (found : o.items = .ok items) : o ≠ .none := by
  intro none
  subst none
  cases found

theorem array_eq (op : Operation) {o : PyObject} (found : o.items = .ok items) :
    array alloc op o = fill alloc op items := by
  have sequence : ∀ text, sequenceFast o text = .ok items := sequenceFast_ok found
  have recipients : ∀ text, recipientArray alloc o text = fillRecipients alloc items := by
    intro text
    rw [recipientArray, sequence]
    rfl
  cases op with
  | encrypt =>
    change recipientArrayOrNone alloc o = _
    unfold recipientArrayOrNone
    split
    next => exact absurd rfl (not_none_of_items found)
    next => exact recipients _
  | encryptSign => exact recipients _
  | _ =>
    change keySequenceArray alloc o = _
    rw [keySequenceArray, sequence]
    rfl

theorem array_granted (op : Operation) {o : PyObject} (found : o.items = .ok items)
    (granted : Granted alloc items) :
    array alloc op o = filled (itemText op) (visited items) := by
  rw [array_eq op found]
  cases op with
  | encrypt | encryptSign => exact fillRecipients_granted granted
  | importKeys | exportKeys => exact fillKeys_granted granted

theorem array_refused (op : Operation) {o : PyObject} (found : o.items = .ok items)
    (refused : ¬ Granted alloc items) : Unfilled (visited items) (array alloc op o) := by
  rw [array_eq op found]
  cases op with
  | encrypt | encryptSign => exact fillRecipients_refused refused
  | importKeys | exportKeys => exact fillKeys_refused refused

theorem keyArray_eq (text : String) (items : List PyObject) :
    keyArray text items =
      if (leadingKeys items).length = items.length then .ok (leadingKeys items)
      else .error (excString .typeError text) := by
  induction items with
  | nil => rfl
  | cons item rest ih =>
    cases item with
    | key handle =>
      change (keyArray text rest >>= fun handles => pure (handle :: handles)) = _
      rw [ih]
      change _ = if (leadingKeys rest).length + 1 = rest.length + 1 then _ else _
      simp only [Nat.add_right_cancel_iff]
      split <;> rfl
    | _ => rfl

/-- With memory for it, the array is what the conversion of the argument finds, with a
NULL after it. -/
theorem array_refines (op : Operation) {o : PyObject} (found : o.items = .ok items)
    (granted : Granted alloc items) :
    array alloc op o = ((op.keyArray o).map fun handles =>
      some (handles.map Slot.key ++ [.null])) := by
  have conversion : op.keyArray o = raising (keyArray (itemText op) (visited items)) := by
    have recipients_eq : ∀ text, recipients o text =
        raising (keyArray "items in first argument must be gpgme.Key objects"
          (visited items)) := by
      intro text
      rw [recipients, sequenceFast_ok found]
      rfl
    cases op with
    | encrypt =>
      change (recipientsOrNone o >>= fun keys => pure (keys.getD [])) = _
      unfold recipientsOrNone
      split
      next => exact absurd rfl (not_none_of_items found)
      next =>
        rw [recipients_eq, itemText]
        cases keyArray _ (visited items) <;> rfl
    | encryptSign => exact recipients_eq _
    | _ =>
      change keySequence o = _
      rw [keySequence, sequenceFast_ok found]
      rfl
  rw [array_granted op found granted, conversion, keyArray_eq, filled]
  split <;> rfl

/-- How the call goes on from its array, where the data objects can be made. -/
theorem call_started_iff (op : Operation) (o : PyObject) (keys : KeyPointer) :
    call alloc op none o = .started keys ↔ array alloc op o = .ok keys := by
  unfold call
  split
  next failed => simp [failed]
  next failed => simp [failed]
  next made => cases op <;> simp [made]

/-! ## Sequences of keys -/

theorem leadingKeys_map (handles : List Nat) : leadingKeys (handles.map PyObject.key) = handles := by
  induction handles with
  | nil => rfl
  | cons handle rest ih => exact congrArg (handle :: ·) ih

/-- Of a sequence of keys those are stored that the loop visits. -/
theorem array_keys (op : Operation) {o : PyObject} {handles : List Nat}
    (found : o.items = .ok (handles.map PyObject.key))
    (granted : Granted alloc (handles.map PyObject.key)) :
    array alloc op o =
      .ok (some ((handles.take (handles.length % 2 ^ 32)).map Slot.key ++ [.null])) := by
  have length := visited_of_small granted.1
  rw [List.length_map] at length
  have prefix_ : visited (handles.map PyObject.key) <+: handles.map PyObject.key :=
    List.take_prefix _ _
  have seen : visited (handles.map PyObject.key) =
      (handles.take (handles.length % 2 ^ 32)).map PyObject.key := by
    rw [List.map_take, ← length]
    exact List.prefix_iff_eq_take.mp prefix_
  rw [array_granted op found granted, seen, filled, leadingKeys_map, List.length_map, if_pos rfl]

/-- A sequence of keys is given to gpgme whole if and only if one more than its length is
an `int`, and memory for them is granted. -/
theorem givenWhole_iff (alloc : Allocator) (op : Operation) (handles : List Nat) :
    GivenWhole alloc op handles ↔
      handles.length + 1 < 2 ^ 31 ∧ alloc.grants ((handles.length + 1) * 8) = true := by
  constructor
  · intro whole
    have found : PyObject.items (.list (handles.map PyObject.key)) =
        .ok (handles.map PyObject.key) := rfl
    have made := (call_started_iff op _ _).mp (whole _ found)
    by_cases granted : Granted alloc (handles.map PyObject.key)
    · rw [array_keys op found granted] at made
      have slots := congrArg List.length (Option.some.inj (Except.ok.inj made))
      simp only [List.length_append, List.length_map, List.length_take,
        List.length_singleton] at slots
      obtain ⟨small, grants⟩ := granted
      rw [List.length_map] at small grants
      have same : handles.length % 2 ^ 32 = handles.length := by
        have below := Nat.mod_le handles.length (2 ^ 32)
        omega
      rw [same] at small grants
      exact ⟨small, grants⟩
    · have unfilled := array_refused op found granted
      rw [made] at unfilled
      cases unfilled with
      | nothing _ useless => rcases useless with useless | useless <;> simp at useless
  · intro room o found
    have same : handles.length % 2 ^ 32 = handles.length := by omega
    have granted : Granted alloc (handles.map PyObject.key) := by
      unfold Granted
      rw [List.length_map, same]
      exact room
    rw [call_started_iff, array_keys op found granted, same, List.take_length]

/-! ## Sequences with other objects -/

theorem call_raised_of_array (op : Operation) (data : Option PyExc) {o : PyObject} {e : PyExc}
    (raised : array alloc op o = .error (.raised e)) : call alloc op data o = .raised e := by
  unfold call
  rw [raised]

/-- Where the first object is that is no key. -/
def firstOther (items : List PyObject) : Nat := (leadingKeys items).length

theorem exists_other_iff (items : List PyObject) :
    (∃ item ∈ items, isKey item = false) ↔ firstOther items < items.length := by
  unfold firstOther
  fun_induction leadingKeys items with
  | case1 handle rest ih =>
    have key : isKey (.key handle) = true := rfl
    simpa [key] using ih
  | case2 items other =>
    cases items with
    | nil => simp
    | cons item rest =>
      have refused : isKey item = false := by
        unfold isKey
        split
        next handle => exact absurd rfl (other handle rest)
        next => rfl
      simp [refused]

theorem leadingKeys_take (items : List PyObject) : ∀ n,
    leadingKeys (items.take n) = (leadingKeys items).take n := by
  fun_induction leadingKeys items with
  | case1 handle rest ih =>
    intro n
    cases n with
    | zero => rfl
    | succ n => exact congrArg (handle :: ·) (ih n)
  | case2 items other =>
    intro n
    rw [List.take_nil]
    unfold leadingKeys
    split
    next handle rest cut =>
      have first : items ≠ [] := by
        intro empty
        simp [empty] at cut
      obtain ⟨item, others, rfl⟩ := List.exists_cons_of_ne_nil first
      cases n with
      | zero => cases cut
      | succ n =>
        rw [List.take_succ_cons] at cut
        exact absurd ((List.cons.inj cut).1 ▸ rfl) (other handle others)
    next => rfl

/-- The loop gets to that object, if it is within the length as an `int`. -/
theorem firstOther_visited (items : List PyObject) :
    firstOther (visited items) = min (cLength items) (firstOther items) := by
  rw [firstOther, visited, leadingKeys_take, List.length_take, firstOther]

theorem call_raised_iff (op : Operation) (o : PyObject) (e : PyExc) :
    call alloc op none o = .raised e ↔ array alloc op o = .error (.raised e) := by
  unfold call
  split
  next failed => simp [failed]
  next failed => simp [failed]
  next made => cases op <;> simp [made]

/-- A sequence with some other object is refused if and only if the loop gets there: the
object is within the length as an `int`, and the keys before it can be stored. -/
theorem refusesOthers_iff (alloc : Allocator) (op : Operation) (items : List PyObject) :
    RefusesOthers alloc op items ↔ (firstOther items < items.length →
      firstOther items < cLength items ∧ (firstOther items = 0 ∨ Granted alloc items)) := by
  have length : (visited items).length = min (cLength items) items.length := List.length_take
  have seen := firstOther_visited items
  unfold RefusesOthers
  rw [exists_other_iff]
  constructor
  · intro refuses other
    have found : PyObject.items (.list items) = .ok items := rfl
    obtain ⟨e, raised, _⟩ := refuses other (.list items) none found
    rw [call_raised_iff] at raised
    by_cases granted : Granted alloc items
    · rw [array_granted op found granted, filled] at raised
      split at raised
      next => cases raised
      next short =>
        change firstOther (visited items) ≠ _ at short
        exact ⟨by omega, .inr granted⟩
    · have unfilled := array_refused op found granted
      rw [raised] at unfilled
      cases unfilled with
      | refused some first text =>
        have reached := List.length_pos_iff.mpr some
        have first : firstOther (visited items) = 0 := congrArg List.length first
        omega
  · intro reached other o data found
    obtain ⟨within, room⟩ := reached other
    by_cases granted : Granted alloc items
    · have short : (leadingKeys (visited items)).length ≠ (visited items).length := by
        change firstOther (visited items) ≠ _
        omega
      have raised := array_granted op found granted
      rw [filled, if_neg short] at raised
      exact ⟨_, call_raised_of_array op data raised, rfl⟩
    · have first : firstOther items = 0 := room.resolve_right granted
      have unfilled := array_refused op found granted
      have none : leadingKeys (visited items) = [] := by
        apply List.eq_nil_of_length_eq_zero
        change firstOther (visited items) = 0
        omega
      have some : visited items ≠ [] := by
        apply List.ne_nil_of_length_pos
        omega
      generalize result : array alloc op o = made at unfilled
      cases unfilled with
      | nothing empty => exact absurd empty some
      | crashed noOther => exact absurd none (noOther.resolve_right some)
      | refused _ _ text => exact ⟨_, call_raised_of_array op data result, rfl⟩

/-- For every operation, sequence and allocator: keys reach gpgme whole, and other objects
are refused, exactly under these conditions on the length. -/
theorem key_sequences_iff (alloc : Allocator) (op : Operation) :
    (∀ handles, GivenWhole alloc op handles ↔
      handles.length + 1 < 2 ^ 31 ∧ alloc.grants ((handles.length + 1) * 8) = true) ∧
    ∀ items, RefusesOthers alloc op items ↔ (firstOther items < items.length →
      firstOther items < cLength items ∧ (firstOther items = 0 ∨ Granted alloc items)) :=
  ⟨givenWhole_iff alloc op, refusesOthers_iff alloc op⟩

/-- An allocator that grants every request there can be. -/
def roomy : Allocator where
  grants size := decide (size < 2 ^ 63)
  bounded := by simp

/-- Of 2³² recipients gpgme gets none. -/
theorem recipients_dropped :
    ¬ GivenWhole roomy .encrypt (List.replicate (2 ^ 32) 1) ∧
      call roomy .encrypt none (.list ((List.replicate (2 ^ 32) 1).map .key)) =
        .started (some [.null]) := by
  have length : (List.replicate (2 ^ 32) 1).length = 2 ^ 32 := List.length_replicate
  constructor
  · rw [givenWhole_iff, length]
    omega
  · have granted : Granted roomy ((List.replicate (2 ^ 32) 1).map .key) := by
      unfold Granted
      rw [List.length_map, length]
      decide
    rw [call_started_iff, array_keys .encrypt rfl granted, length]
    rfl

end Pygpgme.Guarantees.KeyArrays
