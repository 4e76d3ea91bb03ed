import Pygpgme.Source.KeyLifetime

/-!
# The keys of an array while gpgme uses them

Nothing but the list and other holders keeps the keys of an array. They are there for
the whole operation in every run in which nobody gives up the last reference to one of
them after the GIL was let go.
-/

set_option autoImplicit false

namespace Pygpgme.Guarantees.KeyLifetime
open Pygpgme.Library.RefCount Pygpgme.Library.Transition
open Pygpgme.Source.Python Pygpgme.Source.Arguments Pygpgme.Source.KeyLifetime

/-- While gpgme runs the operation, each key it was handed has a reference. -/
def KeysAlive (w : World) : Prop :=
  ∀ call, w.call = some call → call.stage = .operating → ∀ key ∈ call.keys,
    0 < w.heap.counts key

/-- The references to Key objects that a step takes. -/
def taken : Mutation → List Nat
  | .assign _ _ new => keyObjects new
  | .take o => [o]
  | _ => []

/-- Those it gives up. -/
def givenUp (w : World) : Mutation → List Nat
  | .assign start stop _ => keyObjects ((w.items.take stop).drop start)
  | .drop o => [o]
  | _ => []

/-- How many references to the key itself it gives up. -/
def unrefs (key : Nat) : Mutation → Nat
  | .keyUnref other => if other = key then 1 else 0
  | _ => 0

/-- The key has a reference that the step does not give up: through a Key object, or
one of somebody else's. -/
def Spares (w : World) (mutation : Mutation) (key : Nat) : Prop :=
  (∃ o ∈ w.heap.objects, w.heap.target o = key ∧
    (givenUp w mutation).count o < w.heap.refs o + (taken mutation).count o) ∨
  unrefs key mutation < w.heap.outside key

/-- From the moment the GIL is let go until gpgme returns, a step of other code spares
every key of the array. -/
def Considerate (w : World) : Label → Prop
  | .others mutation => ∀ call ∈ w.call, call.stage = .waiting ∨ call.stage = .operating →
      ∀ key ∈ call.keys, Spares w mutation key
  | _ => True

/-- What holds in each state of a considerate run. -/
structure Kept (w : World) : Prop where
  listed : ∀ o, (keyObjects w.items).count o ≤ w.heap.refs o
  listHeld : w.call.isSome → 0 < w.listRefs
  keys : ∀ call, w.call = some call → call.stage ≠ .returned → ∀ key ∈ call.keys,
    0 < w.heap.counts key

theorem Kept.alive {w : World} (kept : Kept w) : KeysAlive w := by
  intro call calling operating
  apply kept.keys call calling
  rw [operating]
  decide

theorem Kept.start : Kept .start where
  listed := by simp [World.start, keyObjects]
  listHeld := by simp [World.start]
  keys := by simp [World.start]

/-! ## The array -/

/-- A conversion that reads no NULL pointer gives what it gives by itself. -/
theorem raising_ok_iff {α : Type} {result : Except PyExc α} {a : α} :
    raising result = .ok a ↔ result = .ok a := by
  cases result <;> simp [raising, Except.mapError]

theorem keyArray_mem {text : String} {items : List PyObject} {keys : List Nat}
    (made : keyArray text items = .ok keys) {key : Nat} (member : key ∈ keys) :
    .key key ∈ items := by
  fun_induction keyArray text items generalizing keys with
  | case1 =>
    cases made
    cases member
  | case2 handle rest ih =>
    cases others : keyArray text rest with
    | error e => simp [others] at made
    | ok found =>
      have array : handle :: found = keys := by simpa [others] using made
      rw [← array] at member
      rcases List.mem_cons.mp member with first | later
      · rw [first]
        exact List.mem_cons_self
      · exact List.mem_cons_of_mem _ (ih others later)
  | case3 => cases made

/-- Each operation stores keys that the list has. -/
theorem operationKeys_mem {op : Operation} {items : List PyObject} {keys : List Nat}
    (made : op.keyArray (.list items) = .ok keys) {key : Nat} (member : key ∈ keys) :
    .key key ∈ items := by
  have visited_mem : .key key ∈ visited items → .key key ∈ items := List.mem_of_mem_take
  apply visited_mem
  cases op with
  | encrypt =>
    cases found : recipients (.list items) "first argument must be a sequence or None" with
    | error e => simp [Operation.keyArray, recipientsOrNone, found] at made
    | ok array =>
      have same : array = keys := by
        simpa [Operation.keyArray, recipientsOrNone, found] using made
      exact keyArray_mem (raising_ok_iff.mp found) (same ▸ member)
  | encryptSign => exact keyArray_mem (raising_ok_iff.mp made) member
  | importKeys => exact keyArray_mem (raising_ok_iff.mp made) member
  | exportKeys => exact keyArray_mem (raising_ok_iff.mp made) member

theorem mem_keyObjects {items : List Item} {o : Nat} (member : .key o ∈ items) :
    o ∈ keyObjects items :=
  List.mem_filterMap.mpr ⟨.key o, member, rfl⟩

/-- The list holds the Key objects whose keys are stored. -/
theorem Kept.stored {w : World} (kept : Kept w) {op : Operation} {keys : List Nat}
    (made : op.keyArray (.list (w.items.map (Item.seen w.heap.target))) = .ok keys) :
    ∀ key ∈ keys, 0 < w.heap.counts key := by
  intro key member
  obtain ⟨item, listed, seen⟩ := List.mem_map.mp (operationKeys_mem made member)
  cases item with
  | other => cases seen
  | key o =>
    have alive : 0 < w.heap.refs o := by
      have counted := List.count_pos_iff.mpr (mem_keyObjects listed)
      have held := kept.listed o
      omega
    cases seen
    exact w.heap.counts_pos_of_alive alive

/-! ## Steps of the call -/

theorem Kept.begin {w w' : World} (kept : Kept w) (op : Operation)
    (taken : w.begin op = some w') : Kept w' := by
  unfold World.begin at taken
  split at taken
  next ready =>
    split at taken
    next => cases taken
    next =>
      cases taken
      exact kept
    next keys made =>
      cases taken
      constructor
      · exact kept.listed
      · intro _
        exact Nat.succ_pos _
      · intro call calling _
        cases calling
        exact kept.stored made
  next => cases taken

theorem Kept.advance {w w' : World} (kept : Kept w) {before after : Stage}
    (early : before ≠ .returned) (taken : w.advance before after = some w') : Kept w' := by
  unfold World.advance at taken
  obtain ⟨call, calling, taken⟩ := Option.bind_eq_some_iff.mp taken
  split at taken
  next same =>
    cases taken
    constructor
    · exact kept.listed
    · intro _
      exact kept.listHeld (by simp [calling])
    · intro other calling' _
      cases calling'
      exact kept.keys call calling (by rwa [same])
  next => cases taken

/-- Without a call there is nothing to keep but the elements of the list, and these go
with it. -/
theorem Kept.releaseList {w w' : World} (kept : Kept w)
    (held : w.call.isSome → 1 < w.listRefs) (taken : w.releaseList = some w') : Kept w' := by
  unfold World.releaseList at taken
  split at taken
  next last =>
    have idle : w.call = none := by
      rw [← Option.not_isSome_iff_eq_none]
      intro calling
      have more := held calling
      omega
    obtain ⟨heap, _, done⟩ := Option.bind_eq_some_iff.mp taken
    cases done
    exact ⟨by simp [keyObjects], by simp [idle], by simp [idle]⟩
  next =>
    cases taken
    constructor
    · exact kept.listed
    · intro calling
      have more := held calling
      simp only
      omega
    · exact kept.keys

theorem Kept.leave {w w' : World} (kept : Kept w) {before : Stage}
    (taken : w.leave before = some w') : Kept w' := by
  unfold World.leave at taken
  obtain ⟨call, _, taken⟩ := Option.bind_eq_some_iff.mp taken
  split at taken
  next =>
    have left : Kept { w with call := none } := ⟨kept.listed, by simp, by simp⟩
    exact left.releaseList (by simp) taken
  next => cases taken

/-! ## Steps of other code -/

/-- What a step of other code does to the references while there is a call. -/
structure Effect (w : World) (mutation : Mutation) (w' : World) : Prop where
  listHeld : 0 < w.listRefs → 0 < w'.listRefs
  refs : ∀ o, 0 < w.heap.refs o →
    w'.heap.refs o + (givenUp w mutation).count o = w.heap.refs o + (taken mutation).count o
  target : ∀ o, 0 < w.heap.refs o → w'.heap.target o = w.heap.target o
  outside : ∀ key, w.heap.outside key ≤ w'.heap.outside key + unrefs key mutation

theorem mutate_effect {w w' : World} {mutation : Mutation} (calling : w.call.isSome)
    (done : w.mutate mutation = some w') : Effect w mutation w' := by
  cases mutation with
  | assign start stop new =>
    obtain ⟨_, _, heap, same, refs, rfl⟩ := World.assign_eq_some done
    refine ⟨id, fun o _ => refs o, fun o _ => congrFun same.target o, ?_⟩
    intro key
    simp [same.outside]
  | take o =>
    obtain ⟨alive, rfl⟩ := World.take_eq_some done
    refine ⟨id, ?_, by simp, by simp⟩
    intro p _
    by_cases same : p = o
    · simp [same, givenUp, taken]
    · simp [givenUp, taken, same, Ne.symm same]
  | drop o =>
    obtain ⟨_, alive, rfl⟩ := World.drop_eq_some done
    refine ⟨id, ?_, by simp, by simp⟩
    intro p _
    by_cases same : p = o
    · subst same
      simp [givenUp, taken]
      omega
    · simp [givenUp, taken, same, Ne.symm same]
  | takeList =>
    rw [World.takeList_eq_some done]
    exact ⟨Nat.lt_succ_of_lt, fun o _ => rfl, fun o _ => rfl, fun key => Nat.le_refl _⟩
  | dropList =>
    obtain ⟨more, done⟩ := World.dropList_eq_some done
    rw [if_pos calling] at more
    have others : w.listRefs ≠ 1 := by omega
    rw [World.releaseList, if_neg others] at done
    cases done
    refine ⟨?_, fun o _ => rfl, fun o _ => rfl, fun key => Nat.le_refl _⟩
    intro _
    simp only
    omega
  | makeKey =>
    cases done
    exact ⟨id, fun o _ => rfl, fun o _ => rfl, w.heap.outside_le_hold w.made⟩
  | keyNew o key =>
    obtain ⟨free, rfl⟩ := World.keyNew_eq_some done
    have older : ∀ p, 0 < w.heap.refs p → p ≠ o := by
      intro p alive same
      rw [same] at alive
      omega
    refine ⟨id, ?_, ?_, fun key => Nat.le_refl _⟩
    · intro p alive
      simp [givenUp, taken, Function.update_of_ne (older p alive)]
    · intro p alive
      simp [Function.update_of_ne (older p alive)]
  | keyRef key =>
    rw [World.keyRef_eq_some done]
    exact ⟨id, fun o _ => rfl, fun o _ => rfl, w.heap.outside_le_hold key⟩
  | keyUnref key =>
    obtain ⟨held, rfl⟩ := World.keyUnref_eq_some done
    refine ⟨id, fun o _ => rfl, fun o _ => rfl, ?_⟩
    intro other
    by_cases same : other = key
    · subst same
      simp [unrefs]
      omega
    · simp [Function.update_of_ne same]

/-- A key that is spared is there after the step. -/
theorem Effect.spared {w w' : World} {mutation : Mutation} (effect : Effect w mutation w')
    {key : Nat} (spares : Spares w mutation key) : 0 < w'.heap.counts key := by
  rw [Heap.counts_pos_iff]
  rcases spares with ⟨o, member, holds, more⟩ | others
  · have alive := (w.heap.alive o).mp member
    have refs := effect.refs o alive
    refine .inl ⟨o, by omega, ?_⟩
    rw [effect.target o alive, holds]
  · have outside := effect.outside key
    exact .inr (by omega)

/-- The slices of a list that an assignment keeps and gives up. -/
theorem count_slices {items : List Item} {start stop : Nat} (ordered : start ≤ stop) (o : Nat) :
    (keyObjects items).count o = (keyObjects (items.take start)).count o +
      (keyObjects ((items.take stop).drop start)).count o +
        (keyObjects (items.drop stop)).count o := by
  have first : items.take start = (items.take stop).take start := by
    rw [List.take_take, Nat.min_eq_left ordered]
  have split : items = items.take start ++ (items.take stop).drop start ++ items.drop stop := by
    rw [first, List.take_append_drop, List.take_append_drop]
  conv => lhs; rw [split]
  simp only [keyObjects, List.filterMap_append, List.count_append]

/-- The elements of the list stay counted. -/
theorem Kept.mutate_listed {w w' : World} (kept : Kept w) {mutation : Mutation}
    (done : w.mutate mutation = some w') (o : Nat) :
    (keyObjects w'.items).count o ≤ w'.heap.refs o := by
  have listed := kept.listed o
  cases mutation with
  | assign start stop new =>
    obtain ⟨ordered, _, heap, _, refs, rfl⟩ := World.assign_eq_some done
    have changed := refs o
    rw [count_slices ordered o] at listed
    simp only [keyObjects, List.filterMap_append, List.count_append] at listed changed ⊢
    omega
  | take p =>
    obtain ⟨alive, rfl⟩ := World.take_eq_some done
    by_cases same : o = p
    · subst same
      simp
      omega
    · simpa [Function.update_of_ne same] using listed
  | drop p =>
    obtain ⟨held, alive, rfl⟩ := World.drop_eq_some done
    by_cases same : o = p
    · subst same
      simp
      omega
    · simpa [Function.update_of_ne same] using listed
  | takeList =>
    rw [World.takeList_eq_some done]
    exact listed
  | dropList =>
    obtain ⟨more, done⟩ := World.dropList_eq_some done
    apply (kept.releaseList _ done).listed
    intro calling
    rwa [if_pos calling] at more
  | makeKey =>
    cases done
    exact listed
  | keyNew p key =>
    obtain ⟨free, rfl⟩ := World.keyNew_eq_some done
    by_cases same : o = p
    · subst same
      simp
      omega
    · simpa [Function.update_of_ne same] using listed
  | keyRef key =>
    rw [World.keyRef_eq_some done]
    exact listed
  | keyUnref key =>
    obtain ⟨held, rfl⟩ := World.keyUnref_eq_some done
    exact listed

theorem Kept.mutate {w w' : World} (kept : Kept w) {mutation : Mutation}
    (free : w.keepsGil = false) (considerate : Considerate w (.others mutation))
    (done : w.mutate mutation = some w') : Kept w' := by
  have same := World.mutate_call done
  constructor
  · exact kept.mutate_listed done
  · intro calling
    rw [same] at calling
    exact (mutate_effect calling done).listHeld (kept.listHeld calling)
  · intro call calling early key member
    rw [same] at calling
    have effect := mutate_effect (by simp [calling]) done
    apply effect.spared
    apply considerate call calling _ key member
    cases stage : call.stage with
    | prepared => simp [World.keepsGil, calling, stage] at free
    | waiting => exact .inl rfl
    | operating => exact .inr rfl
    | returned => exact absurd stage early

/-- A step that gives nothing up spares what is there. -/
theorem spares_of_nothing {w : World} {mutation : Mutation} {key : Nat}
    (there : 0 < w.heap.counts key) (objects : givenUp w mutation = [])
    (others : unrefs key mutation = 0) : Spares w mutation key := by
  rcases (w.heap.counts_pos_iff key).mp there with ⟨o, alive, holds⟩ | held
  · refine .inl ⟨o, (w.heap.alive o).mpr alive, holds, ?_⟩
    rw [objects, List.count_nil]
    omega
  · exact .inr (by omega)

/-- A key that is still there was spared. -/
theorem spares_of_kept {w w' : World} {mutation : Mutation} {key : Nat}
    (there : 0 < w.heap.counts key) (done : w.mutate mutation = some w')
    (still : 0 < w'.heap.counts key) : Spares w mutation key := by
  have holders := (w'.heap.counts_pos_iff key).mp still
  cases mutation with
  | assign start stop new =>
    obtain ⟨_, alive, heap, same, refs, rfl⟩ := World.assign_eq_some done
    simp only [same.target, same.outside] at holders
    rcases holders with ⟨o, left, holds⟩ | held
    · have changed := refs o
      have before : 0 < w.heap.refs o := by
        by_cases new_ : o ∈ keyObjects new
        · exact alive o new_
        · rw [List.count_eq_zero_of_not_mem new_] at changed
          omega
      refine .inl ⟨o, (w.heap.alive o).mpr before, holds, ?_⟩
      simp only [givenUp, taken]
      omega
    · exact .inr held
  | drop p =>
    obtain ⟨_, alive, rfl⟩ := World.drop_eq_some done
    simp only [Heap.refs_decref, Heap.target_decref, Heap.outside_decref] at holders
    rcases holders with ⟨o, left, holds⟩ | held
    · have spared : [p].count o < w.heap.refs o := by
        by_cases same : o = p
        · subst same
          rw [Function.update_self] at left
          rw [List.count_singleton_self]
          omega
        · rw [Function.update_of_ne same] at left
          rwa [List.count_eq_zero_of_not_mem (by simpa using same)]
      exact .inl ⟨o, (w.heap.alive o).mpr (by omega), holds, spared⟩
    · exact .inr held
  | keyUnref other =>
    obtain ⟨held, rfl⟩ := World.keyUnref_eq_some done
    simp only [Heap.refs_unhold, Heap.target_unhold, Heap.outside_unhold] at holders
    rcases holders with ⟨o, left, holds⟩ | held
    · exact .inl ⟨o, (w.heap.alive o).mpr left, holds, left⟩
    · refine .inr ?_
      by_cases same : key = other
      · subst same
        rw [Function.update_self] at held
        simp only [unrefs, if_true]
        omega
      · rw [Function.update_of_ne same] at held
        simpa [unrefs, Ne.symm same] using held
  | _ => exact spares_of_nothing there rfl rfl

/-! ## Nothing is given up that is not held -/

theorem Kept.assign_possible {w : World} (kept : Kept w) {start stop : Nat} {new : List Item}
    (ordered : start ≤ stop) (held : 0 < w.listRefs)
    (alive : ∀ o ∈ keyObjects new, 0 < w.heap.refs o) :
    ∃ w', w.assign start stop new = some w' := by
  obtain ⟨more, increfs⟩ := Heap.increfAll_some _ alive
  have refs := (Heap.increfAll_spec _ increfs).2
  have removed : ∀ o, (keyObjects ((w.items.take stop).drop start)).count o ≤ more.refs o := by
    intro o
    have listed := kept.listed o
    have added := refs o
    rw [count_slices ordered o] at listed
    omega
  obtain ⟨heap, decrefs⟩ := Heap.decrefAll_some _ removed
  refine ⟨{ w with heap := heap, items := w.items.take start ++ new ++ w.items.drop stop }, ?_⟩
  simp [World.assign, ordered, held, increfs, decrefs]

theorem Kept.releaseList_possible {w : World} (kept : Kept w) :
    ∃ w', w.releaseList = some w' := by
  obtain ⟨heap, decrefs⟩ := Heap.decrefAll_some _ kept.listed
  by_cases last : w.listRefs = 1
  · refine ⟨{ w with heap := heap, items := [], listRefs := 0 }, ?_⟩
    simp [World.releaseList, last, decrefs]
  · refine ⟨{ w with listRefs := w.listRefs - 1 }, ?_⟩
    simp [World.releaseList, last]

/-! ## Runs -/

theorem Kept.step {w w' : World} (kept : Kept w) {label : Label}
    (considerate : Considerate w label) (done : w.step label = some w') : Kept w' := by
  cases label with
  | begin op => exact kept.begin op done
  | noData =>
    simp only [World.step, World.noData, Option.ite_none_left_eq_some] at done
    exact kept.leave done.2
  | allowThreads => exact kept.advance (by decide) done
  | enter => exact kept.advance (by decide) done
  | exit => exact kept.advance (by decide) done
  | finish => exact kept.leave done
  | others mutation =>
    simp only [World.step, Option.ite_none_left_eq_some, Bool.not_eq_true] at done
    exact kept.mutate done.1 considerate done.2

theorem Kept.of_reach {w : World} (reached : Reach keyLifetime Considerate w) : Kept w := by
  apply Reach.invariant _ _ reached
  · intro t new
    rw [new]
    exact Kept.start
  · intro t label t' kept considerate done
    exact kept.step considerate done

/-- In every run in which the others spare the keys of the array once the GIL was let
go, each of these keys is there as long as gpgme runs the operation. -/
theorem keys_alive (w : World) (reached : Reach keyLifetime Considerate w) : KeysAlive w :=
  (Kept.of_reach reached).alive

/-- Nothing less would do: while gpgme runs, a step that does not spare a key frees it. -/
theorem considerate_of_alive {w w' : World} (reached : Reach keyLifetime Considerate w)
    {call : Call} (calling : w.call = some call) (operating : call.stage = .operating)
    {mutation : Mutation} (done : w.mutate mutation = some w') (alive : KeysAlive w') :
    Considerate w (.others mutation) := by
  intro other calling' _ key member
  have same : call = other := Option.some.inj (calling.symm.trans calling')
  rw [← same] at member
  have there := keys_alive w reached call calling operating key member
  have still := alive call ((World.mutate_call done).trans calling) operating key member
  exact spares_of_kept there done still

instance (w : World) (mutation : Mutation) (key : Nat) : Decidable (Spares w mutation key) :=
  inferInstanceAs (Decidable (_ ∨ _))

/-- `Considerate`, checked. -/
def considerate (w : World) : Label → Bool
  | .others mutation => w.call.all fun call =>
      decide (call.stage = .waiting ∨ call.stage = .operating →
        ∀ key ∈ call.keys, Spares w mutation key)
  | _ => true

theorem considerate_sound (w : World) (label : Label) (checked : considerate w label = true) :
    Considerate w label := by
  cases label with
  | others mutation =>
    intro call calling
    have calling : w.call = some call := calling
    simp only [considerate, calling, Option.all_some, decide_eq_true_eq] at checked
    exact checked
  | _ => trivial

/-- A list with one key, whose object nobody else has. -/
def oneKeyList : List Label :=
  [.others .makeKey, .others (.keyNew 0 0), .others (.keyUnref 0), .others (.assign 0 0 [.key 0]),
    .others (.drop 0)]

/-- The key is taken out of the list by someone who goes on using it. -/
theorem keys_alive_after_pop :
    ∃ w, runIf keyLifetime considerate .start (oneKeyList ++ [.begin .encrypt, .allowThreads,
        .others (.take 0), .others (.assign 0 1 []), .enter]) = some w ∧
      w.call.map (fun call => (call.keys, call.stage)) = some ([0], .operating) ∧
      KeysAlive w := by
  have executed : ((runIf keyLifetime considerate .start (oneKeyList ++ [.begin .encrypt,
      .allowThreads, .others (.take 0), .others (.assign 0 1 []), .enter])).map fun w =>
        w.call.map fun call => (call.keys, call.stage)) = some (some ([0], .operating)) := by
    decide
  obtain ⟨w, hw, seen⟩ := Option.map_eq_some_iff.mp executed
  exact ⟨w, hw, seen, keys_alive w (Reach.of_runIf considerate_sound _ (.init rfl) hw)⟩

/-- A read callback clears the list of the recipients. -/
theorem cleared_list_frees_key : ¬ ∀ w, Reachable keyLifetime w → KeysAlive w := by
  intro alive
  have executed : ((run keyLifetime .start (oneKeyList ++ [.begin .encrypt, .allowThreads, .enter,
      .others (.assign 0 1 [])])).map fun w => (w.call.map fun call => (call.keys, call.stage),
        w.heap.counts 0)) = some (some ([0], .operating), 0) := by
    decide
  obtain ⟨w, hw, seen⟩ := Option.map_eq_some_iff.mp executed
  obtain ⟨calling, gone⟩ := Prod.mk.inj seen
  obtain ⟨call, found, same⟩ := Option.map_eq_some_iff.mp calling
  obtain ⟨keys, stage⟩ := Prod.mk.inj same
  have positive := alive w (Reachable.of_run _ (.init rfl) hw) call found stage 0 (by simp [keys])
  omega

end Pygpgme.Guarantees.KeyLifetime
