import Mathlib.Logic.Function.Basic
import Mathlib.Data.List.Count

/-!
# Counted objects that hold counted resources

Each object that exists holds one reference to its resource; the other references to
resources are held outside. An object goes with its last reference, and gives up the
one it held. A heap carries the proof that its counts agree with who holds what.
-/

set_option autoImplicit false

namespace Pygpgme.Library.RefCount

structure Heap (O R : Type) [DecidableEq R] where
  /-- The objects that exist. -/
  objects : List O
  refs : O → Nat
  target : O → R
  counts : R → Nat
  outside : R → Nat
  nodup : objects.Nodup
  alive : ∀ o, o ∈ objects ↔ 0 < refs o
  agree : ∀ r, counts r = (objects.map target).count r + outside r

namespace Heap

section
variable {O R : Type} [DecidableEq R] (h : Heap O R)

/-- A resource is there as long as an object or someone outside holds it. -/
theorem counts_pos_iff (r : R) :
    0 < h.counts r ↔ (∃ o, 0 < h.refs o ∧ h.target o = r) ∨ 0 < h.outside r := by
  have agree := h.agree r
  have holders : 0 < (h.objects.map h.target).count r ↔ ∃ o, 0 < h.refs o ∧ h.target o = r := by
    rw [List.count_pos_iff, List.mem_map]
    simp only [h.alive]
  rw [← holders]
  omega

theorem counts_pos_of_alive {o : O} (alive : 0 < h.refs o) : 0 < h.counts (h.target o) :=
  (h.counts_pos_iff _).mpr (.inl ⟨o, alive, rfl⟩)

/-- One more reference from outside. -/
def hold (r : R) : Heap O R where
  objects := h.objects
  refs := h.refs
  target := h.target
  counts := Function.update h.counts r (h.counts r + 1)
  outside := Function.update h.outside r (h.outside r + 1)
  nodup := h.nodup
  alive := h.alive
  agree := by
    intro s
    have agree := h.agree s
    by_cases same : s = r
    · subst same
      rw [Function.update_self, Function.update_self]
      omega
    · rw [Function.update_of_ne same, Function.update_of_ne same, agree]

/-- One reference from outside less. -/
def unhold (r : R) (held : 0 < h.outside r) : Heap O R where
  objects := h.objects
  refs := h.refs
  target := h.target
  counts := Function.update h.counts r (h.counts r - 1)
  outside := Function.update h.outside r (h.outside r - 1)
  nodup := h.nodup
  alive := h.alive
  agree := by
    intro s
    have agree := h.agree s
    by_cases same : s = r
    · subst same
      rw [Function.update_self, Function.update_self]
      omega
    · rw [Function.update_of_ne same, Function.update_of_ne same, agree]

@[simp] theorem refs_hold (r : R) : (h.hold r).refs = h.refs := rfl

@[simp] theorem target_hold (r : R) : (h.hold r).target = h.target := rfl

@[simp] theorem outside_hold (r : R) :
    (h.hold r).outside = Function.update h.outside r (h.outside r + 1) := rfl

theorem outside_le_hold (r s : R) : h.outside s ≤ (h.hold r).outside s := by
  rw [outside_hold]
  by_cases same : s = r
  · subst same
    simp
  · simp [Function.update_of_ne same]

@[simp] theorem refs_unhold (r : R) (held : 0 < h.outside r) :
    (h.unhold r held).refs = h.refs := rfl

@[simp] theorem target_unhold (r : R) (held : 0 < h.outside r) :
    (h.unhold r held).target = h.target := rfl

@[simp] theorem outside_unhold (r : R) (held : 0 < h.outside r) :
    (h.unhold r held).outside = Function.update h.outside r (h.outside r - 1) := rfl

end

variable {O R : Type} [DecidableEq O] [DecidableEq R]

/-- Nothing exists. -/
def empty (target : O → R) : Heap O R where
  objects := []
  refs := fun _ => 0
  target := target
  counts := fun _ => 0
  outside := fun _ => 0
  nodup := List.nodup_nil
  alive := by simp
  agree := by simp

/-- One more reference to an object. -/
def incref (h : Heap O R) (o : O) (alive : 0 < h.refs o) : Heap O R where
  objects := h.objects
  refs := Function.update h.refs o (h.refs o + 1)
  target := h.target
  counts := h.counts
  outside := h.outside
  nodup := h.nodup
  alive := by
    intro p
    rw [h.alive p]
    by_cases same : p = o
    · subst same
      simp [alive]
    · rw [Function.update_of_ne same]
  agree := h.agree

/-- The object goes, and its reference to its resource with it. -/
def dealloc (h : Heap O R) (o : O) (last : h.refs o = 1) : Heap O R where
  objects := h.objects.erase o
  refs := Function.update h.refs o 0
  target := h.target
  counts := Function.update h.counts (h.target o) (h.counts (h.target o) - 1)
  outside := h.outside
  nodup := h.nodup.erase o
  alive := by
    intro p
    rw [h.nodup.mem_erase_iff, h.alive p]
    by_cases same : p = o
    · simp [same]
    · rw [Function.update_of_ne same]
      simp [same]
  agree := by
    intro r
    have exists_ : o ∈ h.objects := (h.alive o).mpr (by omega)
    have moved := ((List.perm_cons_erase exists_).map h.target).count_eq r
    have agree := h.agree r
    rw [List.map_cons, List.count_cons] at moved
    by_cases same : r = h.target o
    · subst same
      simp only [beq_self_eq_true, if_true] at moved
      rw [Function.update_self]
      omega
    · rw [Function.update_of_ne same, agree, moved]
      simp [Ne.symm same]

/-- One reference to an object less. -/
def decref (h : Heap O R) (o : O) (alive : 0 < h.refs o) : Heap O R :=
  if last : h.refs o = 1 then h.dealloc o last
  else
    { objects := h.objects
      refs := Function.update h.refs o (h.refs o - 1)
      target := h.target
      counts := h.counts
      outside := h.outside
      nodup := h.nodup
      alive := by
        intro p
        rw [h.alive p]
        by_cases same : p = o
        · subst same
          rw [Function.update_self]
          omega
        · rw [Function.update_of_ne same]
      agree := h.agree }

/-- A new object with one reference, where there is none. -/
def create (h : Heap O R) (o : O) (r : R) (free : h.refs o = 0) : Heap O R where
  objects := o :: h.objects
  refs := Function.update h.refs o 1
  target := Function.update h.target o r
  counts := Function.update h.counts r (h.counts r + 1)
  outside := h.outside
  nodup := by
    have absent : o ∉ h.objects := by
      rw [h.alive o]
      omega
    exact List.nodup_cons.mpr ⟨absent, h.nodup⟩
  alive := by
    intro p
    rw [List.mem_cons, h.alive p]
    by_cases same : p = o
    · simp [same]
    · rw [Function.update_of_ne same]
      simp [same]
  agree := by
    intro s
    have absent : o ∉ h.objects := by
      rw [h.alive o]
      omega
    have others : h.objects.map (Function.update h.target o r) = h.objects.map h.target := by
      apply List.map_congr_left
      intro p member
      have other : p ≠ o := fun same => absent (same ▸ member)
      rw [Function.update_of_ne other]
    have agree := h.agree s
    rw [List.map_cons, Function.update_self, others, List.count_cons]
    by_cases same : s = r
    · subst same
      simp only [Function.update_self, beq_self_eq_true, if_true]
      omega
    · rw [Function.update_of_ne same, agree]
      simp [Ne.symm same]

section
variable (h : Heap O R)

@[simp] theorem refs_incref (o : O) (alive : 0 < h.refs o) :
    (h.incref o alive).refs = Function.update h.refs o (h.refs o + 1) := rfl

@[simp] theorem target_incref (o : O) (alive : 0 < h.refs o) :
    (h.incref o alive).target = h.target := rfl

@[simp] theorem outside_incref (o : O) (alive : 0 < h.refs o) :
    (h.incref o alive).outside = h.outside := rfl

@[simp] theorem refs_decref (o : O) (alive : 0 < h.refs o) :
    (h.decref o alive).refs = Function.update h.refs o (h.refs o - 1) := by
  unfold decref
  split
  next last => rw [last]; rfl
  next => rfl

@[simp] theorem target_decref (o : O) (alive : 0 < h.refs o) :
    (h.decref o alive).target = h.target := by
  unfold decref
  split <;> rfl

@[simp] theorem outside_decref (o : O) (alive : 0 < h.refs o) :
    (h.decref o alive).outside = h.outside := by
  unfold decref
  split <;> rfl

@[simp] theorem refs_create (o : O) (r : R) (free : h.refs o = 0) :
    (h.create o r free).refs = Function.update h.refs o 1 := rfl

@[simp] theorem target_create (o : O) (r : R) (free : h.refs o = 0) :
    (h.create o r free).target = Function.update h.target o r := rfl

@[simp] theorem outside_create (o : O) (r : R) (free : h.refs o = 0) :
    (h.create o r free).outside = h.outside := rfl

end

/-! ## Several references at once -/

/-- `none` if one of the objects is gone. -/
def increfAll : List O → Heap O R → Option (Heap O R)
  | [], h => some h
  | o :: rest, h => if alive : 0 < h.refs o then increfAll rest (h.incref o alive) else none

/-- `none` if a reference is given up that nobody has. -/
def decrefAll : List O → Heap O R → Option (Heap O R)
  | [], h => some h
  | o :: rest, h => if alive : 0 < h.refs o then decrefAll rest (h.decref o alive) else none

/-- What taking or giving up references to objects leaves as it was. -/
structure SameResources (h h' : Heap O R) : Prop where
  target : h'.target = h.target
  outside : h'.outside = h.outside

theorem increfAll_spec (os : List O) {h h' : Heap O R} (done : increfAll os h = some h') :
    SameResources h h' ∧ ∀ o, h'.refs o = h.refs o + os.count o := by
  induction os generalizing h with
  | nil =>
    cases done
    exact ⟨⟨rfl, rfl⟩, fun o => by simp⟩
  | cons p rest ih =>
    unfold increfAll at done
    split at done
    next alive =>
      obtain ⟨same, refs⟩ := ih done
      refine ⟨⟨same.target, same.outside⟩, ?_⟩
      intro o
      rw [refs o, refs_incref, List.count_cons]
      by_cases first : o = p
      · subst first
        simp
        omega
      · rw [Function.update_of_ne first]
        simp [Ne.symm first]
    · cases done

theorem increfAll_alive (os : List O) {h h' : Heap O R} (done : increfAll os h = some h') :
    ∀ o ∈ os, 0 < h.refs o := by
  induction os generalizing h with
  | nil => simp
  | cons p rest ih =>
    unfold increfAll at done
    split at done
    next alive =>
      intro o member
      rcases List.mem_cons.mp member with first | later
      · rwa [first]
      · have after := ih done o later
        rw [refs_incref] at after
        by_cases same : o = p
        · rwa [same]
        · rwa [Function.update_of_ne same] at after
    · cases done

theorem decrefAll_spec (os : List O) {h h' : Heap O R} (done : decrefAll os h = some h') :
    SameResources h h' ∧ ∀ o, h'.refs o + os.count o = h.refs o := by
  induction os generalizing h with
  | nil =>
    cases done
    exact ⟨⟨rfl, rfl⟩, fun o => by simp⟩
  | cons p rest ih =>
    unfold decrefAll at done
    split at done
    next alive =>
      obtain ⟨same, refs⟩ := ih done
      refine ⟨⟨same.target.trans (h.target_decref p alive),
        same.outside.trans (h.outside_decref p alive)⟩, ?_⟩
      intro o
      have rest := refs o
      rw [refs_decref] at rest
      rw [List.count_cons]
      by_cases first : o = p
      · subst first
        rw [Function.update_self] at rest
        simp
        omega
      · rw [Function.update_of_ne first] at rest
        simp [Ne.symm first]
        omega
    · cases done

/-- Objects that exist can be referred to as often as one likes. -/
theorem increfAll_some (os : List O) {h : Heap O R} (alive : ∀ o ∈ os, 0 < h.refs o) :
    ∃ h', increfAll os h = some h' := by
  induction os generalizing h with
  | nil => exact ⟨h, rfl⟩
  | cons p rest ih =>
    have first : 0 < h.refs p := alive p List.mem_cons_self
    unfold increfAll
    rw [dif_pos first]
    apply ih
    intro o member
    have before := alive o (List.mem_cons_of_mem p member)
    rw [refs_incref]
    by_cases same : o = p
    · subst same
      simp
    · rwa [Function.update_of_ne same]

/-- References that are held can be given up. -/
theorem decrefAll_some (os : List O) {h : Heap O R} (held : ∀ o, os.count o ≤ h.refs o) :
    ∃ h', decrefAll os h = some h' := by
  induction os generalizing h with
  | nil => exact ⟨h, rfl⟩
  | cons p rest ih =>
    have first := held p
    rw [List.count_cons_self] at first
    have alive : 0 < h.refs p := by omega
    unfold decrefAll
    rw [dif_pos alive]
    apply ih
    intro o
    have before := held o
    rw [refs_decref]
    by_cases same : o = p
    · subst same
      rw [Function.update_self]
      omega
    · rw [Function.update_of_ne same]
      rwa [List.count_cons_of_ne (Ne.symm same)] at before

end Heap

end Pygpgme.Library.RefCount
