import Pygpgme.Guarantees.ContextLifetime

/-!
# When a Context is never released

What the interpreter frees is given by the references alone. Left to itself it comes to
an end, with the objects alive that a variable leads to, or a Context on a cycle through
one of its own callbacks. Without a variable that leads there, no program breaks such a
cycle.
-/

set_option autoImplicit false

namespace Pygpgme.Guarantees.ContextLifetime
open Pygpgme.Library.ObjectGraph Pygpgme.Library.Transition
open Pygpgme.Source.Registration (Slot)
open Pygpgme.Source.ContextLifetime
open Relation

/-! ## What the interpreter can free -/

/-- The Context is on a cycle through one of its callbacks. -/
def Cyclic (w : World) (d : Nat) : Prop :=
  d ∈ w.live ∧ ∃ ctx callback slot value, w.cell d = .context ctx callback ∧
    callback slot = some value ∧ w.graph.Leads value d

def Tracked (w : World) (o : Nat) : Prop := (w.cell o).tracked = true

def Anchored (w : World) (o : Nat) : Prop := w.graph.Anchored (Tracked w) w.held o

section
variable {w w' : World}

theorem Cyclic.loop {d : Nat} (cyclic : Cyclic w d) :
    ¬ Tracked w d ∧ w.graph.LeadsOn d d := by
  obtain ⟨live, ctx, callback, slot, value, shape, set, back⟩ := cyclic
  have untracked : ¬ Tracked w d := by
    unfold Tracked
    rw [shape]
    exact Bool.false_ne_true
  have child : value ∈ (w.cell d).children := by
    rw [shape]
    exact callback_child set
  exact ⟨untracked, TransGen.head' ⟨live, child⟩ back⟩

/-- A cycle through an object the collector does not follow passes through a callback. -/
theorem Sound.cyclic (h : Sound w) {u : Nat} (live : u ∈ w.live) (untracked : ¬ Tracked w u)
    (cycle : w.graph.LeadsOn u u) : ∃ d, Cyclic w d ∧ w.graph.Leads d u := by
  obtain ⟨c, refers, back⟩ := TransGen.head'_iff.mp cycle
  have child : c ∈ (w.cell u).children := refers.2
  cases shape : w.cell u with
  | object refs =>
    unfold Tracked at untracked
    rw [shape] at untracked
    exact absurd rfl untracked
  | context ctx callback =>
    rw [shape] at child
    obtain ⟨slot, set⟩ := child_callback child
    exact ⟨u, ⟨live, ctx, callback, slot, c, shape, set, back⟩, .refl⟩
  | keyIter ctx =>
    -- the cycle goes on in the Context the KeyIter has
    rw [shape] at child
    obtain rfl : c = ctx := List.mem_singleton.mp child
    have isContext := (h.typed u live).listing c shape
    have cLive : c ∈ w.live := h.counted.child_live live refers.2
    cases shape' : w.cell c with
    | context set callback =>
      have other : c ≠ u := by
        rintro rfl
        rw [shape] at shape'
        cases shape'
      obtain same | ⟨value, next, on⟩ := ReflTransGen.cases_head back
      · exact absurd same other
      · have child' : value ∈ (w.cell c).children := next.2
        rw [shape'] at child'
        obtain ⟨slot, found⟩ := child_callback child'
        exact ⟨c, ⟨cLive, set, callback, slot, value, shape', found, on.tail refers⟩, back⟩
    | _ =>
      rw [shape'] at isContext
      cases isContext
  | data fp ctx =>
    -- no object refers to the handle of a data object
    obtain ⟨p, -, last⟩ := TransGen.tail'_iff.mp cycle
    have python := (h.typed p last.1).python u last.2
    rw [shape] at python
    cases python

theorem Sound.anchored_iff (h : Sound w) (o : Nat) :
    Anchored w o ↔ w.graph.Led w.held o ∨ ∃ d, Cyclic w d ∧ w.graph.Leads d o := by
  unfold Anchored Objects.Anchored
  refine or_congr_right ⟨?_, ?_⟩
  · rintro ⟨u, live, untracked, cycle, leads⟩
    obtain ⟨d, cyclic, before⟩ := h.cyclic live untracked cycle
    exact ⟨d, cyclic, before.trans leads⟩
  · rintro ⟨d, cyclic, leads⟩
    exact ⟨d, cyclic.1, cyclic.loop.1, cyclic.loop.2, leads⟩

def work (w : World) : Nat := w.graph.work w.pending

/-- A step of the interpreter takes nothing from what is anchored. -/
structure Settles (w w' : World) : Prop where
  held : w'.held = w.held
  live : ∀ o ∈ w'.live, o ∈ w.live
  refers : ∀ o c, w'.graph.Refers o c → w.graph.Refers o c
  tracked : ∀ o, Tracked w' o ↔ Tracked w o
  kept : ∀ o ∈ w.live, Anchored w o → o ∈ w'.live ∧ w'.cell o = w.cell o

theorem Settles.led (settles : Settles w w') {o : Nat} (led : w'.graph.Led w'.held o) :
    w.graph.Led w.held o := by
  rw [settles.held] at led
  exact led.mono settles.refers fun _ root => root

theorem Settles.same_tracked (settles : Settles w w') : Tracked w' = Tracked w :=
  funext fun o => propext (settles.tracked o)

theorem Settles.anchored_iff (settles : Settles w w') (o : Nat) : Anchored w' o ↔ Anchored w o := by
  unfold Anchored
  rw [settles.same_tracked, settles.held]
  constructor
  · exact Objects.Anchored.mono settles.refers (fun _ root => root) settles.live
  · refine Objects.Anchored.persists fun x live anchored => ?_
    obtain ⟨live', same⟩ := settles.kept x live anchored
    exact ⟨live', congrArg Cell.children same⟩

theorem Sound.turn_settles (h : Sound w) (taken : w.turn = some w') :
    Settles w w' ∧ work w' < work w := by
  cases h.turned taken with
  | freed o rest pending one =>
    have counted := h.counted
    rw [pending] at counted
    have live := (h.last pending one).1
    refine ⟨⟨rfl, fun p mem => List.mem_of_mem_erase mem, ?_, fun _ => Iff.rfl, ?_⟩, ?_⟩
    · exact fun p c refers => ⟨List.mem_of_mem_erase refers.1, refers.2⟩
    · intro p mem anchored
      refine ⟨(h.counted.nodup.mem_erase_iff).mpr ⟨?_, mem⟩, rfl⟩
      rintro rfl
      exact counted.loose one anchored
    · unfold work
      rw [freed_graph, pending]
      exact Objects.work_free live
  | dropped o rest pending more =>
    refine ⟨⟨rfl, fun _ mem => mem, fun _ _ refers => refers, fun _ => Iff.rfl,
      fun _ mem _ => ⟨mem, rfl⟩⟩, ?_⟩
    unfold work Objects.work
    rw [pending]
    simp only [World.graph, List.length_cons]
    omega

theorem Sound.collect_settles (h : Sound w) {s : List Nat}
    (garbage : w.graph.Garbage (Tracked w) (w.held ++ w.pending) s) :
    Settles w (w.collect s) ∧ (s ≠ [] → work (w.collect s) < work w) := by
  have held : w.graph.Garbage (Tracked w) w.held s :=
    ⟨garbage.once, garbage.live, garbage.tracked,
      fun o mem root => garbage.rootless o mem (List.mem_append_left _ root), garbage.closed⟩
  refine ⟨⟨rfl, fun _ mem => mem, ?_, ?_, ?_⟩, ?_⟩
  · rintro o c ⟨live, child⟩
    refine ⟨live, ?_⟩
    rw [collect_graph] at child
    simp only [Objects.clear] at child
    split at child
    · cases child
    · exact child
  · intro o
    unfold Tracked
    rw [(collect_keeps garbage.tracked o).tracked]
  · intro o mem anchored
    exact ⟨mem, if_neg fun member => held.loose member anchored⟩
  · intro some_
    unfold work
    rw [collect_graph]
    exact h.counted.work_clear garbage some_

/-- The steps the interpreter takes by itself; collecting nothing is none. -/
def working : Label → Bool
  | .turn => true
  | .collect s => !s.isEmpty
  | _ => false

theorem Sound.works (h : Sound w) {l : Label} (own : working l = true)
    (taken : w.step l = some w') : Settles w w' ∧ work w' < work w := by
  unfold World.step at taken
  split at taken
  next allowed =>
    cases l with
    | turn => exact h.turn_settles taken
    | collect s =>
      obtain rfl := Option.some.inj taken
      obtain ⟨settles, less⟩ := h.collect_settles (collectable_iff.mp allowed)
      refine ⟨settles, less ?_⟩
      rintro rfl
      cases own
    | _ => cases own
  · cases taken

/-- The interpreter has nothing to do. -/
def Settled (w : World) : Prop := ∀ l, working l = true → w.step l = none

theorem Sound.settled_live (h : Sound w) (settled : Settled w) {o : Nat} (live : o ∈ w.live) :
    Anchored w o := by
  have nothing : w.pending = [] := by
    have stuck : w.turn = none := settled .turn rfl
    cases pending : w.pending with
    | nil => rfl
    | cons o rest =>
      unfold World.turn at stuck
      rw [pending] at stuck
      dsimp only at stuck
      split at stuck <;> cases stuck
  have counted := h.counted
  rw [nothing, List.append_nil] at counted
  refine counted.anchored (fun s garbage => ?_) live
  by_contra some_
  have allowed : w.collectable s = true := by
    rw [collectable_iff, nothing, List.append_nil]
    exact garbage
  have own : working (.collect s) = true := by
    unfold working
    rw [Bool.not_eq_true', List.isEmpty_eq_false_iff]
    exact some_
  have stuck := settled (.collect s) own
  unfold World.step at stuck
  rw [show w.allows (.collect s) = true from allowed] at stuck
  cases stuck

/-- What a run of the interpreter does, and how long it takes at most. -/
theorem Sound.interpreted (labels : List Label) (h : Sound w)
    (own : ∀ l ∈ labels, working l = true) (executed : run contexts w labels = some w') :
    Sound w' ∧ (∀ o, Anchored w' o ↔ Anchored w o) ∧ (∀ o ∈ w'.live, o ∈ w.live) ∧
      (∀ o ∈ w.live, Anchored w o → o ∈ w'.live) ∧ labels.length + work w' ≤ work w := by
  induction labels generalizing w with
  | nil =>
    obtain rfl : w = w' := Option.some.inj executed
    exact ⟨h, fun _ => Iff.rfl, fun _ mem => mem, fun _ mem _ => mem, by simp⟩
  | cons l rest ih =>
    obtain ⟨next, taken, continued⟩ := Option.bind_eq_some_iff.mp executed
    obtain ⟨settles, less⟩ := h.works (own l List.mem_cons_self) taken
    obtain ⟨sound, same, shrunk, kept, bound⟩ :=
      ih (h.step taken) (fun l mem => own l (List.mem_cons_of_mem _ mem)) continued
    refine ⟨sound, fun o => (same o).trans (settles.anchored_iff o),
      fun o mem => settles.live o (shrunk o mem), fun o mem anchored => ?_, ?_⟩
    · exact kept o (settles.kept o mem anchored).1 ((settles.anchored_iff o).mpr anchored)
    · rw [List.length_cons]
      omega

theorem Sound.settles (h : Sound w) : ∃ labels w', (∀ l ∈ labels, working l = true) ∧
    run contexts w labels = some w' ∧ Settled w' := by
  induction bound : work w using Nat.strong_induction_on generalizing w with
  | _ n ih =>
    by_cases settled : Settled w
    · exact ⟨[], w, by simp, rfl, settled⟩
    · simp only [Settled, not_forall] at settled
      obtain ⟨l, own, some_⟩ := settled
      obtain ⟨next, taken⟩ := Option.ne_none_iff_exists'.mp some_
      have less := (h.works own taken).2
      obtain ⟨labels, w', owns, executed, done⟩ := ih _ (bound ▸ less) (h.step taken) rfl
      refine ⟨l :: labels, w', ?_, ?_, done⟩
      · intro other mem
        rcases List.mem_cons.mp mem with rfl | later
        · exact own
        · exact owns other later
      · exact Option.bind_eq_some_iff.mpr ⟨next, taken, executed⟩

/-- Nothing unanchored outlives a run of the interpreter to its end. -/
theorem Sound.settled_alive (labels : List Label) (h : Sound w)
    (own : ∀ l ∈ labels, working l = true) (executed : run contexts w labels = some w')
    (settled : Settled w') (o : Nat) : o ∈ w'.live ↔ o ∈ w.live ∧ Anchored w o := by
  obtain ⟨sound, same, shrunk, kept, -⟩ := h.interpreted labels own executed
  constructor
  · intro live
    exact ⟨shrunk o live, (same o).mp (sound.settled_live settled live)⟩
  · rintro ⟨live, anchored⟩
    exact kept o live anchored

end

/-! ## What is left -/

/-- Left to itself the interpreter comes to an end after a bounded number of steps, and
then exactly those objects are alive that a variable led to, or a Context on a cycle
through one of its callbacks. -/
theorem settled_live_iff {w : World} (reached : Reachable contexts w) :
    (∃ labels w', (∀ l ∈ labels, working l = true) ∧ run contexts w labels = some w' ∧
      Settled w') ∧
    ∀ labels w', (∀ l ∈ labels, working l = true) → run contexts w labels = some w' →
      labels.length ≤ work w ∧
      (Settled w' → ∀ o, o ∈ w'.live ↔
        o ∈ w.live ∧ (w.graph.Led w.held o ∨ ∃ d, Cyclic w d ∧ w.graph.Leads d o)) := by
  have h := reachable_sound reached
  refine ⟨h.settles, fun labels w' own executed => ?_⟩
  have bound := (h.interpreted labels own executed).2.2.2.2
  refine ⟨by omega, fun settled o => ?_⟩
  rw [← h.anchored_iff o]
  exact h.settled_alive labels own executed settled o

/-- A Context that its callback does not lead back to goes with its variable. -/
theorem settled_live_iff_dropped :
    ∃ w, run contexts World.start [.contextNew true, .newObject, .storeCb .progress 0 1, .drop 0,
        .drop 1] = some w ∧
      ∀ labels w', (∀ l ∈ labels, working l = true) → run contexts w labels = some w' →
        Settled w' → w'.live = [] := by
  have executed : ∃ w, run contexts World.start [.contextNew true, .newObject,
        .storeCb .progress 0 1, .drop 0, .drop 1] = some w ∧ w.held = [] ∧ w.live = [1, 0] ∧
      w.cell 1 = .object [] ∧
      w.cell 0 = .context false (Function.update (fun _ => none) .progress (some 1)) :=
    ⟨_, rfl, rfl, rfl, rfl, rfl⟩
  obtain ⟨w, executed, held, live, object, context⟩ := executed
  refine ⟨w, executed, fun labels w' own runs settled => ?_⟩
  have ends := (settled_live_iff (Reachable.of_run _ (.init rfl) executed)).2 labels w' own runs
  have stays : ∀ c, w.graph.Leads 1 c → c = 1 := by
    intro c leads
    rcases ReflTransGen.cases_head leads with same | ⟨_, refers, _⟩
    · exact same.symm
    · have child := refers.2
      simp [World.graph, object, Cell.children] at child
  refine List.eq_nil_iff_forall_not_mem.mpr fun o mem => ?_
  obtain ⟨-, ⟨r, root, -⟩ | ⟨d, ⟨alive, ctx, callback, slot, value, shape, set, back⟩, -⟩⟩ :=
    (ends.2 settled o).mp mem
  · rw [held] at root
    cases root
  · rw [live] at alive
    simp only [List.mem_cons, List.not_mem_nil, or_false] at alive
    rcases alive with rfl | rfl
    · rw [object] at shape
      cases shape
    · rw [context] at shape
      cases shape
      cases slot
      · cases set
      · cases set
        exact absurd (stays 0 back) (by decide)

/-! ## What no program can free -/

section
variable {w₀ w w' : World} {d o : Nat}

/-- The objects on the ways from `d` to `o`. -/
def Between (w : World) (d o x : Nat) : Prop := w.graph.Leads d x ∧ w.graph.Leads x o

/-- They are as they were, and out of reach. -/
def Stuck (w₀ : World) (d o : Nat) (w : World) : Prop :=
  ∀ x, Between w₀ d o x →
    x ∈ w.live ∧ w.cell x = w₀.cell x ∧ ¬ w.graph.Led w.held x

theorem Stuck.refers (stuck : Stuck w₀ d o w) {x c : Nat} (between : Between w₀ d o x)
    (refers : w₀.graph.Refers x c) : w.graph.Refers x c := by
  obtain ⟨live, same, -⟩ := stuck x between
  refine ⟨live, ?_⟩
  change c ∈ (w.cell x).children
  rw [same]
  exact refers.2

theorem Stuck.leads (stuck : Stuck w₀ d o w) {x : Nat} (leads : w₀.graph.Leads d x)
    (on : w₀.graph.Leads x o) : w.graph.Leads d x := by
  induction leads with
  | refl => exact .refl
  | tail before refers ih =>
    have on' := ReflTransGen.head refers on
    exact (ih on').tail (stuck.refers ⟨before, on'⟩ refers)

theorem Stuck.anchored (stuck : Stuck w₀ d o w) (cyclic : Cyclic w₀ d)
    (leads : w₀.graph.Leads d o) {x : Nat} (between : Between w₀ d o x) : Anchored w x := by
  obtain ⟨untracked, cycle⟩ := cyclic.loop
  obtain ⟨last, before, refers⟩ := TransGen.tail'_iff.mp cycle
  have lastBetween : Between w₀ d o last := ⟨before, .head refers leads⟩
  obtain ⟨live, same, -⟩ := stuck d ⟨.refl, leads⟩
  refine .inr ⟨d, live, ?_, ?_, stuck.leads between.1 between.2⟩
  · unfold Tracked
    rw [same]
    exact untracked
  · exact TransGen.tail' (stuck.leads lastBetween.1 lastBetween.2)
      (stuck.refers lastBetween refers)

theorem Stuck.step (h : Sound w) (stuck : Stuck w₀ d o w) (cyclic : Cyclic w₀ d)
    (leads : w₀.graph.Leads d o) {l : Label} (taken : w.step l = some w') : Stuck w₀ d o w' := by
  intro x between
  obtain ⟨live, same, lost⟩ := stuck x between
  unfold World.step at taken
  split at taken
  next allowed =>
    have settle : Settles w w' → x ∈ w'.live ∧ w'.cell x = w₀.cell x ∧
        ¬ w'.graph.Led w'.held x := by
      intro settles
      obtain ⟨live', same'⟩ := settles.kept x live (stuck.anchored cyclic leads between)
      exact ⟨live', same'.trans same, fun led => lost (settles.led led)⟩
    cases own : l.internal with
    | false =>
      have shift := (h.perform allowed own taken).shift
      exact ⟨shift.live x live, (shift.cell x live lost).trans same,
        fun led => lost (shift.led x live led)⟩
    | true =>
      cases l with
      | turn => exact settle (h.turn_settles taken).1
      | collect s =>
        obtain rfl := Option.some.inj taken
        exact settle (h.collect_settles (collectable_iff.mp allowed)).1
      | _ => cases own
  · cases taken

theorem Stuck.run (labels : List Label) (h : Sound w) (stuck : Stuck w₀ d o w)
    (cyclic : Cyclic w₀ d) (leads : w₀.graph.Leads d o)
    (executed : run contexts w labels = some w') : Stuck w₀ d o w' := by
  induction labels generalizing w with
  | nil =>
    obtain rfl : w = w' := Option.some.inj executed
    exact stuck
  | cons l rest ih =>
    obtain ⟨next, taken, continued⟩ := Option.bind_eq_some_iff.mp executed
    exact ih (h.step taken) (stuck.step h cyclic leads taken) continued

end

/-- An object that no variable leads to stays alive in every continuation, whatever the
program does and the collector collects, if and only if a Context on a cycle through one
of its own callbacks leads to it. -/
theorem leaked_iff {w : World} (reached : Reachable contexts w) {o : Nat}
    (lost : ¬ w.graph.Led w.held o) :
    (∀ labels w', run contexts w labels = some w' → o ∈ w'.live) ↔
      ∃ d, Cyclic w d ∧ w.graph.Leads d o := by
  have h := reachable_sound reached
  constructor
  · intro always
    obtain ⟨labels, w', own, executed, settled⟩ := h.settles
    have left := (h.settled_alive labels own executed settled o).mp (always labels w' executed)
    exact ((h.anchored_iff o).mp left.2).resolve_left lost
  · rintro ⟨d, cyclic, leads⟩ labels w' executed
    have stuck : Stuck w d o w := by
      rintro x ⟨before, on⟩
      exact ⟨h.counted.leads_live cyclic.1 before, rfl, fun led => lost (led.on on)⟩
    exact (stuck.run labels h cyclic leads executed o ⟨leads, .refl⟩).1

/-- An application object that has its Context, whose passphrase callback has the object. -/
def boundMethod : List Label :=
  [.contextNew true, .contextInit true 0, .newObject, .link 1 0, .storeCb .passphrase 0 1,
    .drop 0, .drop 1, .turn, .turn]

/-- Both variables are gone, and the Context stays. -/
theorem leaked_iff_bound_method :
    ∃ w, run contexts World.start boundMethod = some w ∧
      ∀ labels w', run contexts w labels = some w' → 0 ∈ w'.live := by
  have executed : ∃ w, run contexts World.start boundMethod = some w ∧ w.held = [] ∧
      w.live = [1, 0] ∧ w.cell 1 = .object [0] ∧
      w.cell 0 = .context true (Function.update (fun _ => none) .passphrase (some 1)) :=
    ⟨_, rfl, rfl, rfl, rfl, rfl⟩
  obtain ⟨w, executed, held, live, object, context⟩ := executed
  refine ⟨w, executed, (leaked_iff (Reachable.of_run boundMethod (.init rfl) executed) ?_).mpr ?_⟩
  · rintro ⟨r, root, -⟩
    rw [held] at root
    cases root
  · have back : w.graph.Refers 1 0 := by
      refine ⟨?_, ?_⟩
      · change 1 ∈ w.live
        rw [live]
        decide
      · change 0 ∈ (w.cell 1).children
        rw [object]
        decide
    refine ⟨0, ⟨?_, true, _, .passphrase, 1, context, rfl, .single back⟩, .refl⟩
    rw [live]
    decide

end Pygpgme.Guarantees.ContextLifetime
