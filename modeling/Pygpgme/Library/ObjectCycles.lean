import Pygpgme.Library.ObjectGraph
import Mathlib.Data.Finset.Max
import Mathlib.Logic.Relation

/-!
# Cycles among reference-counted objects

References on a cycle keep its objects alive with no variable left. A collector that
follows the references of some objects only, the tracked ones, can break a cycle where
it passes through tracked objects alone. `Counted.anchored` says what is left when there
is nothing to collect: every object is led to by a root, or by an object on a cycle that
is not tracked.
-/

set_option autoImplicit false

namespace Pygpgme.Library.ObjectGraph
open Relation

namespace Objects

variable {O R : Type}

/-- A live object holds a reference. -/
def Refers (g : Objects O R) (o c : O) : Prop := o ∈ g.live ∧ c ∈ g.children o

def Leads (g : Objects O R) : O → O → Prop := ReflTransGen g.Refers

/-- One reference at least on the way. -/
def LeadsOn (g : Objects O R) : O → O → Prop := TransGen g.Refers

def Led (g : Objects O R) (roots : List O) (o : O) : Prop := ∃ r ∈ roots, g.Leads r o

section
variable {g g' : Objects O R} {roots roots' : List O}

theorem Led.root {o : O} (root : o ∈ roots) : g.Led roots o := ⟨o, root, .refl⟩

theorem Led.on {o c : O} (led : g.Led roots o) (leads : g.Leads o c) : g.Led roots c := by
  obtain ⟨r, root, path⟩ := led
  exact ⟨r, root, path.trans leads⟩

/-- What the roots lead to lies in every set that has them and is closed under references. -/
theorem Led.within {P : O → Prop} (base : ∀ r ∈ roots, P r)
    (closed : ∀ o c, P o → g.Refers o c → P c) {o : O} (led : g.Led roots o) : P o := by
  obtain ⟨r, root, path⟩ := led
  induction path with
  | refl => exact base r root
  | tail _ refers ih => exact closed _ _ ih refers

theorem Leads.mono (fewer : ∀ o c, g'.Refers o c → g.Refers o c) {o c : O}
    (leads : g'.Leads o c) : g.Leads o c := ReflTransGen.mono fewer _ _ leads

theorem LeadsOn.mono (fewer : ∀ o c, g'.Refers o c → g.Refers o c) {o c : O}
    (leads : g'.LeadsOn o c) : g.LeadsOn o c := TransGen.mono fewer _ _ leads

theorem Led.mono (fewer : ∀ o c, g'.Refers o c → g.Refers o c)
    (old : ∀ r ∈ roots', r ∈ roots) {o : O} (led : g'.Led roots' o) : g.Led roots o := by
  obtain ⟨r, root, path⟩ := led
  exact ⟨r, old r root, Leads.mono fewer path⟩

end

/-- A root or a cycle through an object that is not tracked leads to the object. -/
def Anchored (g : Objects O R) (tracked : O → Prop) (roots : List O) (o : O) : Prop :=
  g.Led roots o ∨ ∃ u, u ∈ g.live ∧ ¬ tracked u ∧ g.LeadsOn u u ∧ g.Leads u o

section
variable {g g' : Objects O R} {roots : List O} {tracked : O → Prop}

theorem Anchored.on {o c : O} (anchored : g.Anchored tracked roots o) (leads : g.Leads o c) :
    g.Anchored tracked roots c := by
  refine anchored.imp (fun led => led.on leads) ?_
  rintro ⟨u, live, untracked, cycle, path⟩
  exact ⟨u, live, untracked, cycle, path.trans leads⟩

theorem Anchored.mono {roots' : List O} (fewer : ∀ o c, g'.Refers o c → g.Refers o c)
    (old : ∀ r ∈ roots', r ∈ roots) (alive : ∀ o ∈ g'.live, o ∈ g.live) {o : O}
    (anchored : g'.Anchored tracked roots' o) : g.Anchored tracked roots o := by
  refine anchored.imp (Led.mono fewer old) ?_
  rintro ⟨u, live, untracked, cycle, path⟩
  exact ⟨u, alive u live, untracked, cycle.mono fewer, Leads.mono fewer path⟩

/-- Everything on the way from an anchor is anchored itself, so the way stays if the
anchored objects do. -/
theorem Anchored.persists
    (kept : ∀ x ∈ g.live, g.Anchored tracked roots x →
      x ∈ g'.live ∧ g'.children x = g.children x)
    {o : O} (anchored : g.Anchored tracked roots o) : g'.Anchored tracked roots o := by
  have same : ∀ x c, g.Anchored tracked roots x → g.Refers x c → g'.Refers x c := by
    intro x c anchored refers
    obtain ⟨live, children⟩ := kept x refers.1 anchored
    exact ⟨live, children ▸ refers.2⟩
  have path : ∀ x y, g.Anchored tracked roots x → g.Leads x y → g'.Leads x y := by
    intro x y anchored leads
    induction leads with
    | refl => exact .refl
    | tail before refers ih => exact .tail ih (same _ _ (anchored.on before) refers)
  rcases anchored with ⟨r, root, leads⟩ | ⟨u, live, untracked, cycle, leads⟩
  · exact .inl ⟨r, root, path r o (.inl (Led.root root)) leads⟩
  · have self : g.Anchored tracked roots u := .inr ⟨u, live, untracked, cycle, .refl⟩
    obtain ⟨last, before, refers⟩ := TransGen.tail'_iff.mp cycle
    have around : g'.LeadsOn u u :=
      TransGen.tail' (path u last self before) (same _ _ (self.on before) refers)
    exact .inr ⟨u, (kept u live self).1, untracked, around, path u o self leads⟩

/-- An anchored object that is no root is referred to by an anchored one. -/
theorem Anchored.parent {o : O} (anchored : g.Anchored tracked roots o) :
    o ∈ roots ∨ ∃ p, g.Refers p o ∧ g.Anchored tracked roots p := by
  rcases anchored with ⟨r, root, leads⟩ | ⟨u, live, untracked, cycle, leads⟩
  · rcases ReflTransGen.cases_tail leads with same | ⟨p, before, refers⟩
    · exact .inl (same ▸ root)
    · exact .inr ⟨p, refers, .inl ⟨r, root, before⟩⟩
  · obtain ⟨p, before, refers⟩ := TransGen.tail'_iff.mp (TransGen.trans_left cycle leads)
    exact .inr ⟨p, refers, .inr ⟨u, live, untracked, cycle, before⟩⟩

/-- Tracked objects that only objects among them refer to. -/
structure Garbage (g : Objects O R) (tracked : O → Prop) (roots s : List O) : Prop where
  once : s.Nodup
  live : ∀ o ∈ s, o ∈ g.live
  tracked : ∀ o ∈ s, tracked o
  rootless : ∀ o ∈ s, o ∉ roots
  closed : ∀ o ∈ s, ∀ p, g.Refers p o → p ∈ s

theorem Garbage.loose {tracked : O → Prop} {s : List O} (garbage : g.Garbage tracked roots s)
    {o : O} (member : o ∈ s) : ¬ g.Anchored tracked roots o := by
  have back : ∀ x, g.Leads x o → x ∈ s := by
    intro x leads
    induction leads using ReflTransGen.head_induction_on with
    | refl => exact member
    | head refers _ ih => exact garbage.closed _ ih _ refers
  rintro (⟨r, root, leads⟩ | ⟨u, _, untracked, _, leads⟩)
  · exact garbage.rootless r (back r leads) root
  · exact untracked (garbage.tracked u (back u leads))

end

/-- A live object that leads back to everything that leads to it. -/
theorem exists_source (g : Objects O R) {o : O} (live : o ∈ g.live) :
    ∃ x ∈ g.live, g.Leads x o ∧ ∀ y, g.Leads y x → g.Leads x y := by
  classical
  let before : O → Finset O := fun x => g.live.toFinset.filter fun y => g.Leads y x
  let leading : Finset O := before o
  obtain ⟨x, mem, fewest⟩ := leading.exists_min_image (fun x => (before x).card)
    ⟨o, Finset.mem_filter.mpr ⟨List.mem_toFinset.mpr live, .refl⟩⟩
  obtain ⟨xLive, toO⟩ := Finset.mem_filter.mp mem
  refine ⟨x, List.mem_toFinset.mp xLive, toO, fun y toX => ?_⟩
  -- y leads to x, so whatever leads to y leads to x; x has the fewest before it
  have yLive : y ∈ g.live := by
    rcases ReflTransGen.cases_head toX with same | ⟨_, refers, _⟩
    · exact same ▸ List.mem_toFinset.mp xLive
    · exact refers.1
  have subset : before y ⊆ before x := by
    intro z member
    obtain ⟨zLive, toY⟩ := Finset.mem_filter.mp member
    exact Finset.mem_filter.mpr ⟨zLive, toY.trans toX⟩
  have least := fewest y (Finset.mem_filter.mpr ⟨List.mem_toFinset.mpr yLive, toX.trans toO⟩)
  have same : before y = before x := Finset.eq_of_subset_of_card_le subset least
  have xBefore : x ∈ before y := same ▸ Finset.mem_filter.mpr ⟨xLive, .refl⟩
  exact (Finset.mem_filter.mp xBefore).2

/-! ## Changing what an object holds -/

variable [DecidableEq O]

/-- `o` has the references of a list in place of those it had. -/
def rewire (g : Objects O R) (o : O) (cs : List O) : Objects O R :=
  { g with children := Function.update g.children o cs }

/-- The objects of a list give up what they hold. -/
def clear (g : Objects O R) (s : List O) : Objects O R :=
  { g with children := fun o => if o ∈ s then [] else g.children o }

theorem clear_cons (g : Objects O R) (o : O) (rest : List O) :
    g.clear (o :: rest) = (g.rewire o []).clear rest := by
  unfold clear rewire
  simp only [Objects.mk.injEq, true_and, and_true]
  funext p
  by_cases same : p = o
  · subst same
    simp
  · simp [same]

theorem clear_edges {g : Objects O R} {s : List O} (nodup : g.live.Nodup) (once : s.Nodup)
    (live : ∀ o ∈ s, o ∈ g.live) :
    (g.live.flatMap (g.clear s).children).length + (s.flatMap g.children).length =
      (g.live.flatMap g.children).length := by
  induction s generalizing g with
  | nil => simp [Objects.clear]
  | cons o rest ih =>
    obtain ⟨fresh, once⟩ := List.nodup_cons.mp once
    have after : (g.live.flatMap ((g.rewire o []).clear rest).children).length +
        (rest.flatMap (Function.update g.children o [])).length =
          (g.live.flatMap (Function.update g.children o [])).length :=
      @ih (g.rewire o []) nodup once fun p mem => live p (List.mem_cons_of_mem o mem)
    have mem := live o List.mem_cons_self
    have gone : o ∉ g.live.erase o := fun mem => (nodup.mem_erase_iff.mp mem).1 rfl
    have before := ((List.perm_cons_erase mem).flatMap_right g.children).length_eq
    have emptied := ((List.perm_cons_erase mem).flatMap_right
      (Function.update g.children o [])).length_eq
    rw [List.flatMap_cons, Function.update_self, flatMap_update gone] at emptied
    rw [List.flatMap_cons] at before
    rw [flatMap_update fresh] at after
    rw [clear_cons, List.flatMap_cons]
    simp only [List.length_append, List.length_nil] at before emptied ⊢
    omega

section
variable [DecidableEq R] {g : Objects O R} {roots : List O} {outside : List R}

/-- `o` gets references from the roots, or leaves some to them. -/
theorem Counted.rewire {cs roots' : List O} (h : g.Counted roots outside) {o : O}
    (live : o ∈ g.live)
    (balance : ∀ p, roots.count p + (g.children o).count p = roots'.count p + cs.count p) :
    (g.rewire o cs).Counted roots' outside := by
  refine ⟨h.nodup, h.alive, fun p => ?_, h.counts⟩
  have refs := h.refs p
  have same := balance p
  have gone : o ∉ g.live.erase o := fun mem => (h.nodup.mem_erase_iff.mp mem).1 rfl
  rw [count_flatMap_erase live] at refs
  simp only [Objects.rewire]
  rw [count_flatMap_erase live, flatMap_update gone, Function.update_self, refs]
  omega

theorem Counted.clear {s : List O} (h : g.Counted roots outside) (once : s.Nodup)
    (live : ∀ o ∈ s, o ∈ g.live) :
    (g.clear s).Counted (s.flatMap g.children ++ roots) outside := by
  induction s generalizing g roots with
  | nil =>
    have same : g.clear [] = g := by simp [Objects.clear]
    rw [same]
    exact h
  | cons o rest ih =>
    rw [clear_cons]
    obtain ⟨fresh, once⟩ := List.nodup_cons.mp once
    have emptied : (g.rewire o []).Counted (g.children o ++ roots) outside := by
      apply h.rewire (live o List.mem_cons_self)
      intro p
      rw [List.count_append, List.count_nil]
      omega
    have after := ih emptied once fun p mem => live p (List.mem_cons_of_mem o mem)
    rw [show (g.rewire o []).children = Function.update g.children o [] from rfl,
      flatMap_update fresh] at after
    apply after.congr
    · intro p
      rw [List.flatMap_cons, List.count_append, List.count_append, List.count_append,
        List.count_append]
      omega
    · intro r
      rfl

theorem Counted.referred {o : O} (h : g.Counted roots outside) (live : o ∈ g.live) :
    o ∈ roots ∨ ∃ p, g.Refers p o := by
  have refs := h.refs o
  have alive := (h.alive o).mp live
  by_cases root : o ∈ roots
  · exact .inl root
  · rw [List.count_eq_zero_of_not_mem root] at refs
    have counted : 0 < (g.live.flatMap g.children).count o := by omega
    obtain ⟨p, parent, child⟩ := List.mem_flatMap.mp (List.count_pos_iff.mp counted)
    exact .inr ⟨p, parent, child⟩

/-! ## An end to it -/

/-- Goes down whenever a reference is given up, and when objects are cleared. -/
def work (g : Objects O R) (pending : List O) : Nat :=
  pending.length + 2 * (g.live.flatMap g.children).length

theorem work_free {o : O} {rest : List O} (live : o ∈ g.live) :
    (g.free o).work (g.children o ++ rest) < g.work (o :: rest) := by
  have fewer : (g.free o).turns (g.children o ++ rest) + 1 = g.turns (o :: rest) :=
    turns_free live
  simp only [turns, work, List.length_append, List.length_cons] at fewer ⊢
  omega

theorem Counted.work_clear {s pending : List O} {tracked : O → Prop}
    (h : g.Counted (roots ++ pending) outside)
    (garbage : g.Garbage tracked (roots ++ pending) s) (some_ : s ≠ []) :
    (g.clear s).work (s.flatMap g.children ++ pending) < g.work pending := by
  obtain ⟨o, mem⟩ := List.exists_mem_of_ne_nil s some_
  have edges := clear_edges h.nodup garbage.once garbage.live
  rcases h.referred (garbage.live o mem) with root | ⟨p, refers⟩
  · exact absurd root (garbage.rootless o mem)
  · have given : 0 < (s.flatMap g.children).length :=
      List.length_pos_of_mem (List.mem_flatMap.mpr ⟨p, garbage.closed o mem p refers, refers.2⟩)
    simp only [work, List.length_append]
    change _ + 2 * (g.live.flatMap (g.clear s).children).length < _
    omega

/-! ## Which references keep an object alive -/

theorem Counted.leads_live {o c : O} (h : g.Counted roots outside) (live : o ∈ g.live)
    (leads : g.Leads o c) : c ∈ g.live := by
  induction leads with
  | refl => exact live
  | tail _ refers _ => exact h.child_live refers.1 refers.2

theorem Counted.led_live {o : O} (h : g.Counted roots outside) (led : g.Led roots o) :
    o ∈ g.live := by
  obtain ⟨r, root, path⟩ := led
  exact h.leads_live (h.root_live root) path

/-! ## What a collector leaves behind -/

/-- The last reference to an object was not needed for what is anchored. -/
theorem Counted.loose {tracked : O → Prop} {o : O} {pending : List O}
    (h : g.Counted (roots ++ o :: pending) outside) (last : g.refs o = 1) :
    ¬ g.Anchored tracked roots o := by
  intro anchored
  have refs := h.refs o
  rw [List.count_append, List.count_cons_self] at refs
  rcases anchored.parent with root | ⟨p, refers, _⟩
  · have counted := List.count_pos_iff.mpr root
    omega
  · have counted := List.count_pos_iff.mpr (List.mem_flatMap.mpr ⟨p, refers.1, refers.2⟩)
    omega

/-- Where there is nothing to collect, everything alive is anchored. -/
theorem Counted.anchored {tracked : O → Prop} (h : g.Counted roots outside)
    (settled : ∀ s, g.Garbage tracked roots s → s = []) {o : O} (live : o ∈ g.live) :
    g.Anchored tracked roots o := by
  classical
  by_contra loose
  obtain ⟨x, xLive, toO, source⟩ := g.exists_source live
  have looseX : ∀ y, g.Leads y x → ¬ g.Anchored tracked roots y := by
    intro y toX anchored
    exact loose (anchored.on (toX.trans toO))
  obtain root | ⟨p, refers⟩ := h.referred xLive
  · exact looseX x .refl (.inl (Led.root root))
  -- everything that leads to x lies on a cycle with it, so all of it is tracked
  have allTracked : ∀ y ∈ g.live, g.Leads y x → tracked y := by
    intro y yLive toX
    by_contra untracked
    have back : g.LeadsOn x y := by
      have around : g.LeadsOn x x := TransGen.tail' (source p (.single refers)) refers
      exact around.trans_left (source y toX)
    exact looseX y toX (.inr ⟨y, yLive, untracked, TransGen.trans_right toX back, .refl⟩)
  let s := g.live.filter fun y => decide (g.Leads y x)
  have mem : ∀ y, y ∈ s ↔ y ∈ g.live ∧ g.Leads y x := by
    intro y
    simp only [s, List.mem_filter, decide_eq_true_iff]
  have none_ : s = [] := by
    apply settled
    exact {
      once := h.nodup.filter _
      live := fun y member => ((mem y).mp member).1
      tracked := fun y member => allTracked y ((mem y).mp member).1 ((mem y).mp member).2
      rootless := fun y member root => looseX y ((mem y).mp member).2 (.inl (Led.root root))
      closed := fun y member q refers =>
        (mem q).mpr ⟨refers.1, .head refers ((mem y).mp member).2⟩ }
  have member : x ∈ s := (mem x).mpr ⟨xLive, .refl⟩
  rw [none_] at member
  cases member

end

end Objects

end Pygpgme.Library.ObjectGraph
