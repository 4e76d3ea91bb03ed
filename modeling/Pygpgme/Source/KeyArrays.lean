import Pygpgme.Source.KeyLifetime
import Pygpgme.Source.KeyPatterns

/-!
# Key arrays in C memory

lib/pygpgme-context.c:957-976, 1044-1060, 1554-1569 and 1748-1763. The length of the
sequence is an `int`, and so is one more than it; the bytes that are asked for are a
`size_t`. A store outside of the block, or through NULL, crashes.
-/

set_option autoImplicit false

namespace Pygpgme.Source.KeyArrays
open Pygpgme.Source.Python Pygpgme.Source.Arguments
open Pygpgme.Source.KeyLifetime (Operation)
open Pygpgme.Source.KeyPatterns (slotCount)

/-- A `gpgme_key_t` in an array. -/
inductive Slot where
  | uninitialised
  | null
  | key (handle : Nat)
  deriving DecidableEq, Repr

/-- A `gpgme_key_t *`, by the block it points to; `none` is NULL. -/
abbrev KeyPointer := Option (List Slot)

/-- Which requests succeed, by their bytes. No object is larger than `PTRDIFF_MAX`. -/
structure Allocator where
  grants : Nat → Bool
  bounded : ∀ size, grants size = true → size < 2 ^ 63

def store (keys : KeyPointer) (i : Nat) (slot : Slot) : Except Stop KeyPointer :=
  match keys with
  | some slots => if i < slots.length then .ok (some (slots.set i slot)) else .error .crash
  | none => .error .crash

/-- The loop over the items. -/
def storeKeys (text : String) (i : Nat) (keys : KeyPointer) :
    List PyObject → Except Stop KeyPointer
  | [] => .ok keys
  | .key handle :: rest => do
    let keys ← store keys i (.key handle)
    storeKeys text (i + 1) keys rest
  | _ :: _ => .error (.raised (excString .typeError text))

section
variable (alloc : Allocator)

/-- `malloc((length + 1) * sizeof (gpgme_key_t))`; the product is a `size_t`. -/
def mallocKeys (items : List PyObject) : KeyPointer :=
  let size := slotCount items * 8 % 2 ^ 64
  if alloc.grants size then some (List.replicate (size / 8) .uninitialised) else none

/-- `PyMem_Calloc(length + 1, sizeof (gpgme_key_t))`, which checks the product. -/
def callocKeys (items : List PyObject) : KeyPointer :=
  if alloc.grants (slotCount items * 8) then some (List.replicate (slotCount items) .null)
  else none

/-- The array of recipients of `encrypt` and `encrypt_sign`; `i` is past the last key
when NULL is stored. -/
def fillRecipients (items : List PyObject) : Except Stop KeyPointer := do
  let recp ← storeKeys "items in first argument must be gpgme.Key objects" 0
    (mallocKeys alloc items) (visited items)
  store recp (visited items).length .null

/-- The array of `import_keys` and `export_keys`. -/
def fillKeys (items : List PyObject) : Except Stop KeyPointer :=
  storeKeys "keys must be a sequence of key objects" 0 (callocKeys alloc items) (visited items)

def recipientArray (o : PyObject) (text : String) : Except Stop KeyPointer := do
  fillRecipients alloc (← sequenceFast o text)

/-- There is no array for `None`. -/
def recipientArrayOrNone : PyObject → Except Stop KeyPointer
  | .none => .ok none
  | o => recipientArray alloc o "first argument must be a sequence or None"

def keySequenceArray (o : PyObject) : Except Stop KeyPointer := do
  fillKeys alloc (← sequenceFast o "keys must be a sequence of keys")

def array : Operation → PyObject → Except Stop KeyPointer
  | .encrypt, o => recipientArrayOrNone alloc o
  | .encryptSign, o => recipientArray alloc o "first argument must be a sequence"
  | .importKeys, o => keySequenceArray alloc o
  | .exportKeys, o => keySequenceArray alloc o

/-- How a call goes as far as its keys are concerned. -/
inductive Outcome where
  | crashed
  | raised (e : PyExc)
  /-- gpgme is started with the array. -/
  | started (keys : KeyPointer)

/-- A call whose other arguments are in order. `data` is what `pygpgme_data_new` raises,
if it fails; `import_keys` has no data object. -/
def call (op : Operation) (data : Option PyExc) (o : PyObject) : Outcome :=
  match array alloc op o with
  | .error .crash => .crashed
  | .error (.raised e) => .raised e
  | .ok keys =>
    match op, data with
    | .importKeys, _ | _, none => .started keys
    | _, some e => .raised e

end

/-! ## The loop -/

section
variable (text : String)

/-- Keys for which there is room are stored one after the other. -/
theorem storeKeys_keys (handles : List Nat) (rest : List PyObject) :
    ∀ (stored free : List Slot), handles.length ≤ free.length →
      storeKeys text stored.length (some (stored ++ free)) (handles.map PyObject.key ++ rest) =
        storeKeys text (stored.length + handles.length)
          (some (stored ++ handles.map Slot.key ++ free.drop handles.length)) rest := by
  induction handles with
  | nil => simp
  | cons handle others ih =>
    intro stored free room
    obtain ⟨slot, free, rfl⟩ := List.exists_cons_of_length_pos (Nat.lt_of_lt_of_le
      (Nat.succ_pos _) room)
    have inside : stored.length < (stored ++ slot :: free).length := by simp
    have set : (stored ++ slot :: free).set stored.length (.key handle) =
        (stored ++ [.key handle]) ++ free := by simp
    have next := ih (stored ++ [.key handle]) free (Nat.le_of_succ_le_succ room)
    rw [List.length_append, List.length_singleton] at next
    have position : stored.length + 1 + others.length = stored.length + (others.length + 1) := by
      omega
    calc storeKeys text stored.length (some (stored ++ slot :: free))
          ((handle :: others).map PyObject.key ++ rest)
        = storeKeys text (stored.length + 1) (some ((stored ++ [.key handle]) ++ free))
            (others.map PyObject.key ++ rest) := by
          simp only [List.map_cons, List.cons_append, storeKeys, store, if_pos inside, set]
          rfl
      _ = _ := by
          rw [next, position]
          simp

/-- The first item that is no key is refused. -/
theorem storeKeys_other (i : Nat) (keys : KeyPointer) {item : PyObject} (rest : List PyObject)
    (other : ∀ handle, item ≠ .key handle) :
    storeKeys text i keys (item :: rest) = .error (.raised (excString .typeError text)) := by
  unfold storeKeys
  split
  next same => cases same
  next handle _ same => exact absurd (List.cons.inj same).1 (other handle)
  next same => rfl

end

/-! ## The requests -/

/-- How many slots are asked for: `length + 1` of them, or else none or more than there
can be. -/
theorem slotCount_cases (items : List PyObject) :
    (items.length % 2 ^ 32 + 1 < 2 ^ 31 ∧ slotCount items = items.length % 2 ^ 32 + 1) ∨
      (2 ^ 31 ≤ items.length % 2 ^ 32 + 1 ∧ (slotCount items = 0 ∨
        2 ^ 64 - 2 ^ 31 ≤ slotCount items ∧ slotCount items < 2 ^ 64)) := by
  have one : BitVec.toNat (1 : BitVec 32) = 1 := rfl
  unfold slotCount
  rw [BitVec.toNat_signExtend, BitVec.msb_eq_decide, BitVec.toNat_setWidth, BitVec.toNat_add,
    BitVec.toNat_ofNat, one]
  by_cases negative : 2 ^ (32 - 1) ≤ (items.length % 2 ^ 32 + 1) % 2 ^ 32
  · simp only [negative, decide_true, if_true]
    omega
  · simp only [negative, decide_false, Bool.false_eq_true, if_false]
    omega

end Pygpgme.Source.KeyArrays
