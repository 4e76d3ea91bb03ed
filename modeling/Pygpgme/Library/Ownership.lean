import Mathlib.Data.Multiset.AddSub
import Mathlib.Data.Multiset.Count

/-!
# A ledger of owned resources

Each resource that is taken gets a number of its own; giving back one that is not
owned is impossible. The log keeps what was taken and given back, the latest first,
and the moments that were marked. A ledger carries the proof that its books agree,
so whatever is no longer owned was given back once, after it was taken.
-/

set_option autoImplicit false

namespace Pygpgme.Library.Ownership

structure Token (K : Type) where
  kind : K
  serial : Nat
  deriving DecidableEq

inductive Event (K : Type) where
  | taken (token : Token K)
  | released (token : Token K)
  | marked
  deriving DecidableEq

/-- An event that is no release keeps the order of the log. -/
theorem ordered_cons {K : Type} {log : List (Event K)} {e : Event K} (other : ∀ t, e ≠ .released t)
    (ordered : ∀ later t earlier, log = later ++ .released t :: earlier → Event.taken t ∈ earlier) :
    ∀ later t earlier, e :: log = later ++ .released t :: earlier → Event.taken t ∈ earlier := by
  intro later t earlier split
  cases later with
  | nil => exact absurd (List.cons.inj split).1 (other t)
  | cons first later => exact ordered later t earlier (List.cons.inj split).2

structure Ledger (K : Type) [DecidableEq K] where
  /-- How many resources were taken so far. -/
  serial : Nat
  owned : Multiset (Token K)
  log : List (Event K)
  fresh : ∀ t, Event.taken t ∈ log → t.serial < serial
  once : ∀ t, log.count (.taken t) ≤ 1
  agree : ∀ t, log.count (.taken t) = log.count (.released t) + owned.count t
  ordered : ∀ later t earlier, log = later ++ .released t :: earlier → Event.taken t ∈ earlier

namespace Ledger

variable {K : Type} [DecidableEq K]

def empty : Ledger K where
  serial := 0
  owned := 0
  log := []
  fresh := by simp
  once := by simp
  agree := by simp
  ordered := by simp

theorem taken_of_owned (l : Ledger K) {t : Token K} (owned : t ∈ l.owned) :
    Event.taken t ∈ l.log := by
  have agree := l.agree t
  have positive : 0 < l.owned.count t := Multiset.count_pos.mpr owned
  apply List.count_pos_iff.mp
  omega

def take (l : Ledger K) (kind : K) : Token K × Ledger K :=
  ⟨⟨kind, l.serial⟩,
    { serial := l.serial + 1
      owned := ⟨kind, l.serial⟩ ::ₘ l.owned
      log := .taken ⟨kind, l.serial⟩ :: l.log
      fresh := by
        intro t member
        rcases List.mem_cons.mp member with same | earlier
        · cases same
          exact Nat.lt_succ_self _
        · exact Nat.lt_succ_of_lt (l.fresh t earlier)
      once := by
        intro t
        have once := l.once t
        rw [List.count_cons]
        split
        next same =>
          cases eq_of_beq same
          have absent : Event.taken ⟨kind, l.serial⟩ ∉ l.log := by
            intro member
            exact Nat.lt_irrefl _ (l.fresh _ member)
          rw [List.count_eq_zero_of_not_mem absent]
        next => exact once
      agree := by
        intro t
        have agree := l.agree t
        rw [List.count_cons, List.count_cons, Multiset.count_cons, agree]
        by_cases same : t = ⟨kind, l.serial⟩
        · simp [same]
          omega
        · simp [same, Ne.symm same]
      ordered := ordered_cons (by simp) l.ordered }⟩

def release (l : Ledger K) (t : Token K) (owned : t ∈ l.owned) : Ledger K where
  serial := l.serial
  owned := l.owned.erase t
  log := .released t :: l.log
  fresh := by
    intro u member
    rcases List.mem_cons.mp member with same | earlier
    · cases same
    · exact l.fresh u earlier
  once := by
    intro u
    rw [List.count_cons_of_ne (by simp)]
    exact l.once u
  agree := by
    intro u
    have agree := l.agree u
    rw [List.count_cons_of_ne (by simp), List.count_cons, agree]
    by_cases same : u = t
    · have positive : 0 < l.owned.count t := Multiset.count_pos.mpr owned
      subst same
      rw [Multiset.count_erase_self]
      simp
      omega
    · rw [Multiset.count_erase_of_ne same]
      simp [Ne.symm same]
  ordered := by
    intro later u earlier split
    cases later with
    | nil =>
      cases split
      exact l.taken_of_owned owned
    | cons first later => exact l.ordered later u earlier (List.cons.inj split).2

def mark (l : Ledger K) : Ledger K where
  serial := l.serial
  owned := l.owned
  log := .marked :: l.log
  fresh := by
    intro t member
    rcases List.mem_cons.mp member with same | earlier
    · cases same
    · exact l.fresh t earlier
  once := by
    intro t
    rw [List.count_cons_of_ne (by simp)]
    exact l.once t
  agree := by
    intro t
    rw [List.count_cons_of_ne (by simp), List.count_cons_of_ne (by simp)]
    exact l.agree t
  ordered := ordered_cons (by simp) l.ordered

@[simp] theorem owned_take (l : Ledger K) (kind : K) :
    (l.take kind).2.owned = (l.take kind).1 ::ₘ l.owned := rfl

@[simp] theorem log_take (l : Ledger K) (kind : K) :
    (l.take kind).2.log = .taken (l.take kind).1 :: l.log := rfl

@[simp] theorem owned_release (l : Ledger K) (t : Token K) (owned : t ∈ l.owned) :
    (l.release t owned).owned = l.owned.erase t := rfl

@[simp] theorem log_release (l : Ledger K) (t : Token K) (owned : t ∈ l.owned) :
    (l.release t owned).log = .released t :: l.log := rfl

@[simp] theorem owned_mark (l : Ledger K) : l.mark.owned = l.owned := rfl

@[simp] theorem log_mark (l : Ledger K) : l.mark.log = .marked :: l.log := rfl

/-- Nothing is given back that was not taken. -/
theorem released_taken (l : Ledger K) {t : Token K} (released : Event.released t ∈ l.log) :
    Event.taken t ∈ l.log := by
  obtain ⟨later, earlier, split⟩ := List.append_of_mem released
  rw [split]
  exact List.mem_append_right _ (List.mem_cons_of_mem _ (l.ordered later t earlier split))

/-- Everything that was taken was given back, and once. -/
def Settled (l : Ledger K) : Prop :=
  ∀ t, Event.taken t ∈ l.log → l.log.count (.released t) = 1

theorem settled_iff (l : Ledger K) : l.Settled ↔ l.owned = 0 := by
  constructor
  · intro settled
    apply Multiset.eq_zero_of_forall_notMem
    intro t owned
    have released := settled t (l.taken_of_owned owned)
    have agree := l.agree t
    have once := l.once t
    have positive : 0 < l.owned.count t := Multiset.count_pos.mpr owned
    omega
  · intro nothing t taken
    have agree := l.agree t
    have once := l.once t
    have positive := List.count_pos_iff.mpr taken
    rw [nothing, Multiset.count_zero] at agree
    omega

end Ledger

/-! ## What is given back only after a mark -/

section
variable {K : Type} (watched : K → Prop)

/-- Nothing was marked, and nothing watched was given back. -/
def Early (log : List (Event K)) : Prop :=
  Event.marked ∉ log ∧ ∀ t, Event.released t ∈ log → ¬ watched t.kind

/-- At each mark, nothing watched had been given back. -/
def Late (log : List (Event K)) : Prop :=
  ∀ later earlier, log = later ++ .marked :: earlier → ∀ t, Event.released t ∈ earlier →
    ¬ watched t.kind

variable {watched} {log : List (Event K)}

theorem Early.nil : Early watched [] := by
  simp [Early]

theorem Early.taken (early : Early watched log) (t : Token K) :
    Early watched (.taken t :: log) := by
  simpa [Early] using early

theorem Early.released (early : Early watched log) {t : Token K} (other : ¬ watched t.kind) :
    Early watched (.released t :: log) := by
  constructor
  · simpa using early.1
  · intro u member
    rcases List.mem_cons.mp member with same | earlier
    · cases same
      exact other
    · exact early.2 u earlier

theorem Early.late (early : Early watched log) : Late watched log := by
  intro later earlier split
  have marked : Event.marked ∈ log := by simp [split]
  exact absurd marked early.1

theorem Early.marked (early : Early watched log) : Late watched (.marked :: log) := by
  intro later earlier split t member
  cases later with
  | nil =>
    cases split
    exact early.2 t member
  | cons first later => exact early.late later earlier (List.cons.inj split).2 t member

theorem Late.cons {e : Event K} (late : Late watched log) (other : e ≠ .marked) :
    Late watched (e :: log) := by
  intro later earlier split
  cases later with
  | nil => exact absurd (List.cons.inj split).1 other
  | cons first later => exact late later earlier (List.cons.inj split).2

end

end Pygpgme.Library.Ownership
