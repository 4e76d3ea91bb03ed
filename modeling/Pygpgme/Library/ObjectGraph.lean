import Mathlib.Data.Finset.Max
import Mathlib.Data.List.Count
import Mathlib.Logic.Function.Basic

/-!
# Reference counts of objects that refer to each other

An object holds references to other objects, its children, and to counted resources
of another system. References that no object holds are the roots, resource references
that no object holds are `outside`. Giving up the last reference to an object destroys
it, which gives up what it holds: `release` works off a list of references, and those
still on the list count as roots, so `Counted` holds at every turn.
-/

set_option autoImplicit false

namespace Pygpgme.Library.ObjectGraph

structure Objects (O R : Type) where
  live : List O
  refs : O → Nat
  children : O → List O
  resources : O → List R
  counts : R → Nat

namespace Objects

variable {O R : Type} [DecidableEq O] [DecidableEq R]

/-- Every count is the number of references that exist. -/
structure Counted (g : Objects O R) (roots : List O) (outside : List R) : Prop where
  nodup : g.live.Nodup
  alive : ∀ o, o ∈ g.live ↔ 0 < g.refs o
  refs : ∀ o, g.refs o = roots.count o + (g.live.flatMap g.children).count o
  counts : ∀ r, g.counts r = (g.live.flatMap g.resources).count r + outside.count r

def empty : Objects O R where
  live := []
  refs := fun _ => 0
  children := fun _ => []
  resources := fun _ => []
  counts := fun _ => 0

theorem empty_counted : (empty : Objects O R).Counted [] [] := by
  constructor <;> simp [empty]

/-! ## Changes -/

def incref (g : Objects O R) (o : O) : Objects O R :=
  { g with refs := Function.update g.refs o (g.refs o + 1) }

/-- A resource reference more. -/
def hold (g : Objects O R) (r : R) : Objects O R :=
  { g with counts := Function.update g.counts r (g.counts r + 1) }

/-- Resource references less. -/
def unhold (g : Objects O R) (rs : List R) : Objects O R :=
  { g with counts := fun r => g.counts r - rs.count r }

/-- A new object with one reference to it, which takes over references. -/
def create (g : Objects O R) (o : O) (cs : List O) (rs : List R) : Objects O R where
  live := o :: g.live
  refs := Function.update g.refs o 1
  children := Function.update g.children o cs
  resources := Function.update g.resources o rs
  counts := g.counts

/-- `o` takes over one more reference. -/
def adopt (g : Objects O R) (o c : O) : Objects O R :=
  { g with children := Function.update g.children o (g.children o ++ [c]) }

/-- The object goes; its resource references are given up. -/
def free (g : Objects O R) (o : O) : Objects O R :=
  { g with
    live := g.live.erase o
    refs := Function.update g.refs o 0
    counts := fun r => g.counts r - (g.resources o).count r }

def drop (g : Objects O R) (o : O) : Objects O R :=
  { g with refs := Function.update g.refs o (g.refs o - 1) }

/-- Give up the references of a list and those that go with them, in at most `fuel` turns. -/
def releaseWithin : Nat → List O → Objects O R → Objects O R
  | 0, _, g => g
  | _ + 1, [], g => g
  | fuel + 1, o :: rest, g =>
    if g.refs o = 1 then releaseWithin fuel (g.children o ++ rest) (g.free o)
    else releaseWithin fuel rest (g.drop o)

/-- Each reference is given up once at most. -/
def turns (g : Objects O R) (pending : List O) : Nat :=
  pending.length + (g.live.flatMap g.children).length

def release (g : Objects O R) (pending : List O) : Objects O R :=
  releaseWithin (g.turns pending) pending g

/-! ## What they keep -/

section
variable {g : Objects O R} {roots : List O} {outside : List R}

theorem count_flatMap_erase {α β : Type} [DecidableEq α] [DecidableEq β] {l : List α} {a : α}
    (mem : a ∈ l) (f : α → List β) (b : β) :
    (l.flatMap f).count b = (f a).count b + ((l.erase a).flatMap f).count b := by
  have perm := (List.perm_cons_erase mem).flatMap_right f
  rw [perm.count_eq, List.flatMap_cons, List.count_append]

theorem Counted.live_of_ref (h : g.Counted roots outside) {o : O} (ref : 0 < g.refs o) :
    o ∈ g.live := (h.alive o).mpr ref

theorem Counted.root_live (h : g.Counted roots outside) {o : O} (root : o ∈ roots) :
    o ∈ g.live := by
  have refs := h.refs o
  have counted := List.count_pos_iff.mpr root
  exact h.live_of_ref (by omega)

theorem Counted.child_live (h : g.Counted roots outside) {o c : O} (live : o ∈ g.live)
    (child : c ∈ g.children o) : c ∈ g.live := by
  have refs := h.refs c
  have counted := List.count_pos_iff.mpr (List.mem_flatMap.mpr ⟨o, live, child⟩)
  exact h.live_of_ref (by omega)

theorem Counted.resource_counted (h : g.Counted roots outside) {o : O} {r : R}
    (live : o ∈ g.live) (resource : r ∈ g.resources o) : 0 < g.counts r := by
  have counts := h.counts r
  have counted := List.count_pos_iff.mpr (List.mem_flatMap.mpr ⟨o, live, resource⟩)
  omega

theorem Counted.incref (h : g.Counted roots outside) {o : O} (live : o ∈ g.live) :
    (g.incref o).Counted (o :: roots) outside := by
  refine ⟨h.nodup, fun p => ?_, fun p => ?_, h.counts⟩
  · have alive := h.alive p
    simp only [Objects.incref]
    by_cases same : p = o
    · subst same
      simp [live]
    · rwa [Function.update_of_ne same]
  · have refs := h.refs p
    simp only [Objects.incref]
    by_cases same : p = o
    · subst same
      rw [Function.update_self, List.count_cons_self]
      omega
    · rwa [Function.update_of_ne same, List.count_cons_of_ne (Ne.symm same)]

theorem Counted.hold (h : g.Counted roots outside) (r : R) :
    (g.hold r).Counted roots (r :: outside) := by
  refine ⟨h.nodup, h.alive, h.refs, fun s => ?_⟩
  have counts := h.counts s
  simp only [Objects.hold]
  by_cases same : s = r
  · subst same
    rw [Function.update_self, List.count_cons_self]
    omega
  · rwa [Function.update_of_ne same, List.count_cons_of_ne (Ne.symm same)]

theorem Counted.unhold {rs : List R} (h : g.Counted roots (rs ++ outside)) :
    (g.unhold rs).Counted roots outside := by
  refine ⟨h.nodup, h.alive, h.refs, fun r => ?_⟩
  have counts := h.counts r
  rw [List.count_append] at counts
  simp only [Objects.unhold]
  omega

/-- Only how often each reference occurs matters. -/
theorem Counted.congr {roots' : List O} {outside' : List R} (h : g.Counted roots outside)
    (same : ∀ o, roots'.count o = roots.count o)
    (same' : ∀ r, outside'.count r = outside.count r) : g.Counted roots' outside' :=
  ⟨h.nodup, h.alive, fun o => by rw [same o]; exact h.refs o,
    fun r => by rw [same' r]; exact h.counts r⟩

theorem flatMap_update {α β : Type} [DecidableEq α] {l : List α} {a : α} (absent : a ∉ l)
    (f : α → List β) (b : List β) : l.flatMap (Function.update f a b) = l.flatMap f := by
  apply List.flatMap_congr
  intro x mem
  have other : x ≠ a := fun same => absent (same ▸ mem)
  rw [Function.update_of_ne other]

theorem Counted.create {cs : List O} {rs : List R} (h : g.Counted (cs ++ roots) (rs ++ outside))
    {o : O} (free : o ∉ g.live) : (g.create o cs rs).Counted (o :: roots) outside := by
  have unreferenced : g.refs o = 0 := by
    have alive := h.alive o
    by_contra refs
    exact free (alive.mpr (by omega))
  refine ⟨List.nodup_cons.mpr ⟨free, h.nodup⟩, fun p => ?_, fun p => ?_, fun r => ?_⟩
  · have alive := h.alive p
    simp only [Objects.create, List.mem_cons]
    by_cases same : p = o
    · simp [same]
    · simp only [same, false_or]
      rwa [Function.update_of_ne same]
  · have refs := h.refs p
    rw [List.count_append] at refs
    simp only [Objects.create, List.flatMap_cons, Function.update_self, flatMap_update free,
      List.count_append]
    by_cases same : p = o
    · subst same
      rw [Function.update_self, List.count_cons_self]
      omega
    · rw [Function.update_of_ne same, List.count_cons_of_ne (Ne.symm same)]
      omega
  · have counts := h.counts r
    rw [List.count_append] at counts
    simp only [Objects.create, List.flatMap_cons, Function.update_self, flatMap_update free,
      List.count_append]
    omega

theorem Counted.adopt {o c : O} (h : g.Counted (c :: roots) outside) (live : o ∈ g.live) :
    (g.adopt o c).Counted roots outside := by
  refine ⟨h.nodup, h.alive, fun p => ?_, h.counts⟩
  have refs := h.refs p
  have gone : o ∉ g.live.erase o := fun mem => (h.nodup.mem_erase_iff.mp mem).1 rfl
  rw [count_flatMap_erase live, List.count_cons] at refs
  simp only [Objects.adopt]
  rw [count_flatMap_erase live, flatMap_update gone, Function.update_self, List.count_append,
    List.count_cons, List.count_nil, refs]
  omega

theorem Counted.drop {o : O} (h : g.Counted (o :: roots) outside) (more : g.refs o ≠ 1) :
    (g.drop o).Counted roots outside := by
  have mine := h.refs o
  rw [List.count_cons_self] at mine
  refine ⟨h.nodup, fun p => ?_, fun p => ?_, h.counts⟩
  · have alive := h.alive p
    simp only [Objects.drop]
    by_cases same : p = o
    · subst same
      rw [Function.update_self, alive]
      omega
    · rwa [Function.update_of_ne same]
  · have refs := h.refs p
    simp only [Objects.drop]
    by_cases same : p = o
    · subst same
      rw [Function.update_self]
      omega
    · rwa [Function.update_of_ne same, ← List.count_cons_of_ne (Ne.symm same)]

/-- What the object held is next on the list. -/
theorem Counted.free {o : O} (h : g.Counted (o :: roots) outside) (last : g.refs o = 1) :
    (g.free o).Counted (g.children o ++ roots) outside := by
  have live : o ∈ g.live := (h.alive o).mpr (by omega)
  have mine := h.refs o
  rw [List.count_cons_self, count_flatMap_erase live] at mine
  refine ⟨h.nodup.erase o, fun p => ?_, fun p => ?_, fun r => ?_⟩
  · have alive := h.alive p
    simp only [Objects.free]
    rw [h.nodup.mem_erase_iff]
    by_cases same : p = o
    · simp [same]
    · rw [Function.update_of_ne same]
      simp [same, alive]
  · have refs := h.refs p
    rw [count_flatMap_erase live] at refs
    simp only [Objects.free, List.count_append]
    by_cases same : p = o
    · subst same
      rw [Function.update_self]
      omega
    · rw [Function.update_of_ne same]
      rw [List.count_cons_of_ne (Ne.symm same)] at refs
      omega
  · have counts := h.counts r
    rw [count_flatMap_erase live] at counts
    simp only [Objects.free]
    omega

theorem turns_free {o : O} {rest : List O} (live : o ∈ g.live) :
    (g.free o).turns (g.children o ++ rest) + 1 = g.turns (o :: rest) := by
  have perm := ((List.perm_cons_erase live).flatMap_right g.children).length_eq
  rw [List.flatMap_cons, List.length_append] at perm
  simp only [turns, Objects.free, List.length_append, List.length_cons]
  omega

theorem Counted.releaseWithin {fuel : Nat} {pending : List O}
    (h : g.Counted (pending ++ roots) outside) (enough : g.turns pending ≤ fuel) :
    (g.releaseWithin fuel pending).Counted roots outside := by
  induction fuel generalizing g pending with
  | zero =>
    have none_ : pending = [] := List.length_eq_zero_iff.mp (by unfold turns at enough; omega)
    subst none_
    exact h
  | succ fuel ih =>
    cases pending with
    | nil => exact h
    | cons o rest =>
      rw [List.cons_append] at h
      unfold Objects.releaseWithin
      split
      next last =>
        have live : o ∈ g.live := (h.alive o).mpr (by omega)
        have fewer : (g.free o).turns (g.children o ++ rest) + 1 = g.turns (o :: rest) :=
          turns_free live
        apply ih
        · rw [List.append_assoc]
          exact h.free last
        · omega
      next more =>
        apply ih (h.drop more)
        simp only [turns, Objects.drop, List.length_cons] at enough ⊢
        omega

theorem Counted.release {pending : List O} (h : g.Counted (pending ++ roots) outside) :
    (g.release pending).Counted roots outside := h.releaseWithin (Nat.le_refl _)

end

/-- What is left refers to what it did before. -/
structure Shrinks (g g' : Objects O R) : Prop where
  live : ∀ o ∈ g'.live, o ∈ g.live
  children : g'.children = g.children
  resources : g'.resources = g.resources

theorem releaseWithin_shrinks (fuel : Nat) (pending : List O) (g : Objects O R) :
    Shrinks g (g.releaseWithin fuel pending) := by
  induction fuel generalizing g pending with
  | zero => exact ⟨fun _ mem => mem, rfl, rfl⟩
  | succ fuel ih =>
    cases pending with
    | nil => exact ⟨fun _ mem => mem, rfl, rfl⟩
    | cons o rest =>
      unfold Objects.releaseWithin
      split
      next =>
        have after := ih (g.children o ++ rest) (g.free o)
        exact ⟨fun p mem => List.mem_of_mem_erase (after.live p mem), after.children,
          after.resources⟩
      next =>
        have after := ih rest (g.drop o)
        exact ⟨after.live, after.children, after.resources⟩

theorem release_shrinks (pending : List O) (g : Objects O R) : Shrinks g (g.release pending) :=
  releaseWithin_shrinks _ pending g

/-- Without cycles, nothing lives that no root leads to. -/
theorem Counted.collected {g : Objects O R} {outside : List R} (h : g.Counted [] outside)
    (rank : O → Nat) (acyclic : ∀ o ∈ g.live, ∀ c ∈ g.children o, rank c < rank o) :
    g.live = [] := by
  by_contra some_
  obtain ⟨o, mem⟩ := List.exists_mem_of_ne_nil _ some_
  obtain ⟨top, live, highest⟩ :=
    Finset.exists_max_image g.live.toFinset rank ⟨o, List.mem_toFinset.mpr mem⟩
  have alive := (h.alive top).mp (List.mem_toFinset.mp live)
  have refs := h.refs top
  rw [List.count_nil] at refs
  have referenced : 0 < (g.live.flatMap g.children).count top := by omega
  obtain ⟨parent, parentLive, child⟩ := List.mem_flatMap.mp (List.count_pos_iff.mp referenced)
  have above := acyclic parent parentLive top child
  have below := highest parent (List.mem_toFinset.mpr parentLive)
  omega

end Objects

end Pygpgme.Library.ObjectGraph
