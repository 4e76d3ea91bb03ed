import Pygpgme.Library.RefCount
import Pygpgme.Library.Transition
import Pygpgme.Source.Arguments

/-!
# Key references while an operation has an array of keys

`encrypt`, `encrypt_sign`, `import_keys` and `export_keys` called with a list. The list
is counted, its `gpgme.Key` objects are, and the `gpgme_key_t` each of them holds. An
array has pointers only. Whenever the call does not keep the GIL, other threads and its
own callbacks do what they like with the list and the references that are theirs.
-/

set_option autoImplicit false

namespace Pygpgme.Source.KeyLifetime
open Pygpgme.Library.RefCount Pygpgme.Library.Transition
open Pygpgme.Source.Python Pygpgme.Source.Arguments

inductive Operation where
  | encrypt | encryptSign | importKeys | exportKeys
  deriving DecidableEq

/-- The array the operation makes of its argument; there are no keys in NULL. -/
def Operation.keyArray : Operation → PyObject → Except Stop (List Nat)
  | .encrypt, o => do return (← recipientsOrNone o).getD []
  | .encryptSign, o => recipients o "first argument must be a sequence"
  | .importKeys, o => keySequence o
  | .exportKeys, o => keySequence o

/-- How far a call is: its array is made, it waits for the context, gpgme runs the
operation, gpgme has returned. -/
inductive Stage where
  | prepared | waiting | operating | returned
  deriving DecidableEq

structure Call where
  op : Operation
  keys : List Nat
  stage : Stage

/-- An element of a list. -/
inductive Item where
  | key (object : Nat)
  | other

def Item.keyObject : Item → Option Nat
  | .key o => some o
  | .other => none

def keyObjects (items : List Item) : List Nat := items.filterMap Item.keyObject

/-- As an operation sees it, where `target` is `self->key` of each Key object. -/
def Item.seen (target : Nat → Nat) : Item → PyObject
  | .key o => .key (target o)
  | .other => .none

/-- Key objects and keys are named by numbers. gpgme never makes a key of the same
name twice. -/
structure World where
  heap : Heap Nat Nat
  items : List Item
  listRefs : Nat
  /-- How many keys gpgme has made. -/
  made : Nat
  call : Option Call

/-- An empty list with a reference to it. -/
def World.start : World := ⟨Heap.empty fun _ => 0, [], 1, 0, none⟩

namespace World

variable (w : World)

/-! ## The call -/

/-- `Py_DECREF` of the list, which gives up its elements with the last reference. -/
def releaseList : Option World :=
  if w.listRefs = 1 then do
    let heap ← Heap.decrefAll (keyObjects w.items) w.heap
    return { w with heap := heap, items := [], listRefs := 0 }
  else some { w with listRefs := w.listRefs - 1 }

/-- `PySequence_Fast`, which returns the list itself, and the loop that makes the
array. -/
def begin (op : Operation) : Option World :=
  if w.call.isNone ∧ 0 < w.listRefs then
    match op.keyArray (.list (w.items.map (Item.seen w.heap.target))) with
    | .error .crash => none
    | .error (.raised _) => some w
    | .ok keys => some { w with listRefs := w.listRefs + 1, call := some ⟨op, keys, .prepared⟩ }
  else none

def advance (before after : Stage) : Option World := do
  let call ← w.call
  if call.stage = before then some { w with call := some { call with stage := after } } else none

/-- The array is freed, and the reference to the list given up. -/
def leave (before : Stage) : Option World := do
  let call ← w.call
  if call.stage = before then releaseList { w with call := none } else none

/-- `pygpgme_data_new` fails; `import_keys` has no data object. -/
def noData : Option World :=
  if w.call.any fun call => call.op = .importKeys then none else w.leave .prepared

/-! ## Everybody else -/

/-- `keys[start:stop] = new`, and with it every other change of a list. -/
def assign (start stop : Nat) (new : List Item) : Option World :=
  if start ≤ stop ∧ 0 < w.listRefs then do
    let heap ← Heap.increfAll (keyObjects new) w.heap
    let heap ← Heap.decrefAll (keyObjects ((w.items.take stop).drop start)) heap
    return { w with heap := heap, items := w.items.take start ++ new ++ w.items.drop stop }
  else none

def take (o : Nat) : Option World :=
  if alive : 0 < w.heap.refs o then some { w with heap := w.heap.incref o alive } else none

/-- The references of the list are not for others to give up. -/
def drop (o : Nat) : Option World :=
  if held : (keyObjects w.items).count o < w.heap.refs o then
    some { w with heap := w.heap.decref o (by omega) }
  else none

def takeList : Option World :=
  if 0 < w.listRefs then some { w with listRefs := w.listRefs + 1 } else none

/-- Nor is the one of the call. -/
def dropList : Option World :=
  if (if w.call.isSome then 1 else 0) < w.listRefs then w.releaseList else none

/-- gpgme returns a new key. -/
def makeKey : World := { w with heap := w.heap.hold w.made, made := w.made + 1 }

/-- `pygpgme_key_new` -/
def keyNew (o key : Nat) : Option World :=
  if free : w.heap.refs o = 0 then
    if 0 < w.heap.counts key then some { w with heap := w.heap.create o key free } else none
  else none

def keyRef (key : Nat) : Option World :=
  if 0 < w.heap.counts key then some { w with heap := w.heap.hold key } else none

def keyUnref (key : Nat) : Option World :=
  if held : 0 < w.heap.outside key then some { w with heap := w.heap.unhold key held } else none

/-! What each of these did when it was possible. -/

variable {w} {w' : World}

theorem assign_eq_some {start stop : Nat} {new : List Item}
    (done : w.assign start stop new = some w') :
    start ≤ stop ∧ (∀ o ∈ keyObjects new, 0 < w.heap.refs o) ∧
      ∃ heap, Heap.SameResources w.heap heap ∧
      (∀ o, heap.refs o + (keyObjects ((w.items.take stop).drop start)).count o =
        w.heap.refs o + (keyObjects new).count o) ∧
      w' = { w with heap := heap, items := w.items.take start ++ new ++ w.items.drop stop } := by
  unfold assign at done
  split at done
  next ready =>
    obtain ⟨more, increfs, done⟩ := Option.bind_eq_some_iff.mp done
    obtain ⟨heap, decrefs, done⟩ := Option.bind_eq_some_iff.mp done
    cases done
    obtain ⟨same, refs⟩ := Heap.increfAll_spec _ increfs
    obtain ⟨same', refs'⟩ := Heap.decrefAll_spec _ decrefs
    refine ⟨ready.1, Heap.increfAll_alive _ increfs, heap,
      ⟨same'.target.trans same.target, same'.outside.trans same.outside⟩, ?_, rfl⟩
    intro o
    have before := refs o
    have after := refs' o
    omega
  next => cases done

theorem take_eq_some {o : Nat} (done : w.take o = some w') :
    ∃ alive, w' = { w with heap := w.heap.incref o alive } := by
  simp only [take, Option.dite_none_right_eq_some, Option.some.injEq] at done
  obtain ⟨alive, rfl⟩ := done
  exact ⟨alive, rfl⟩

theorem drop_eq_some {o : Nat} (done : w.drop o = some w') :
    (keyObjects w.items).count o < w.heap.refs o ∧
      ∃ alive, w' = { w with heap := w.heap.decref o alive } := by
  simp only [drop, Option.dite_none_right_eq_some, Option.some.injEq] at done
  obtain ⟨held, rfl⟩ := done
  exact ⟨held, _, rfl⟩

theorem takeList_eq_some (done : w.takeList = some w') :
    w' = { w with listRefs := w.listRefs + 1 } := by
  simp only [takeList, Option.ite_none_right_eq_some, Option.some.injEq] at done
  exact done.2.symm

theorem dropList_eq_some (done : w.dropList = some w') :
    (if w.call.isSome then 1 else 0) < w.listRefs ∧ w.releaseList = some w' := by
  simpa only [dropList, Option.ite_none_right_eq_some] using done

theorem releaseList_call (done : w.releaseList = some w') : w'.call = w.call := by
  unfold releaseList at done
  split at done
  next =>
    obtain ⟨heap, _, done⟩ := Option.bind_eq_some_iff.mp done
    cases done
    rfl
  next =>
    cases done
    rfl

theorem keyNew_eq_some {o key : Nat} (done : w.keyNew o key = some w') :
    ∃ free, w' = { w with heap := w.heap.create o key free } := by
  simp only [keyNew, Option.dite_none_right_eq_some, Option.ite_none_right_eq_some,
    Option.some.injEq] at done
  obtain ⟨free, _, rfl⟩ := done
  exact ⟨free, rfl⟩

theorem keyRef_eq_some {key : Nat} (done : w.keyRef key = some w') :
    w' = { w with heap := w.heap.hold key } := by
  simp only [keyRef, Option.ite_none_right_eq_some, Option.some.injEq] at done
  exact done.2.symm

theorem keyUnref_eq_some {key : Nat} (done : w.keyUnref key = some w') :
    ∃ held, w' = { w with heap := w.heap.unhold key held } := by
  simp only [keyUnref, Option.dite_none_right_eq_some, Option.some.injEq] at done
  obtain ⟨held, rfl⟩ := done
  exact ⟨held, rfl⟩

end World

/-- Steps of code that is not the call's. -/
inductive Mutation where
  | assign (start stop : Nat) (new : List Item)
  | take (object : Nat)
  | drop (object : Nat)
  | takeList
  | dropList
  | makeKey
  | keyNew (object key : Nat)
  | keyRef (key : Nat)
  | keyUnref (key : Nat)

def World.mutate (w : World) : Mutation → Option World
  | .assign start stop new => w.assign start stop new
  | .take o => w.take o
  | .drop o => w.drop o
  | .takeList => w.takeList
  | .dropList => w.dropList
  | .makeKey => some w.makeKey
  | .keyNew o key => w.keyNew o key
  | .keyRef key => w.keyRef key
  | .keyUnref key => w.keyUnref key

/-- Nobody else touches the variables of the call. -/
theorem World.mutate_call {w w' : World} {mutation : Mutation}
    (done : w.mutate mutation = some w') : w'.call = w.call := by
  cases mutation with
  | assign start stop new =>
    obtain ⟨_, _, _, _, _, rfl⟩ := assign_eq_some done
    rfl
  | take o =>
    obtain ⟨_, rfl⟩ := take_eq_some done
    rfl
  | drop o =>
    obtain ⟨_, _, rfl⟩ := drop_eq_some done
    rfl
  | takeList => rw [takeList_eq_some done]
  | dropList => exact releaseList_call (dropList_eq_some done).2
  | makeKey =>
    cases done
    rfl
  | keyNew o key =>
    obtain ⟨_, rfl⟩ := keyNew_eq_some done
    rfl
  | keyRef key => rw [keyRef_eq_some done]
  | keyUnref key =>
    obtain ⟨_, rfl⟩ := keyUnref_eq_some done
    rfl

inductive Label where
  | begin (op : Operation)
  | noData
  /-- `begin_allow_threads` lets the GIL go. -/
  | allowThreads
  | enter
  | exit
  | finish
  | others (mutation : Mutation)

/-- The call keeps the GIL from the first look at the list to `begin_allow_threads`. -/
def World.keepsGil (w : World) : Bool :=
  w.call.any fun call => call.stage = .prepared

def World.step (w : World) : Label → Option World
  | .begin op => w.begin op
  | .noData => w.noData
  | .allowThreads => w.advance .prepared .waiting
  | .enter => w.advance .waiting .operating
  | .exit => w.advance .operating .returned
  | .finish => w.leave .returned
  | .others mutation => if w.keepsGil then none else w.mutate mutation

def keyLifetime : System World Label where
  init := fun w => w = World.start
  step := World.step

end Pygpgme.Source.KeyLifetime
