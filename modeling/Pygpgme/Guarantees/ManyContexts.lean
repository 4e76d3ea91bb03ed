import Mathlib.Data.Fintype.EquivFin
import Mathlib.Logic.Relation
import Pygpgme.Source.ManyContexts

/-!
# Many Contexts: each is as if alone, and when they block each other

The first result carries every guarantee about one Context over to programs with
any number of them. The second is what no single Context can have: the callbacks of
one may wait for another, and the way Contexts are nested decides whether threads
can end up waiting for each other.
-/

set_option autoImplicit false

namespace Pygpgme.Guarantees.ManyContexts
open Pygpgme.Library Pygpgme.Library.LockMachine Pygpgme.Library.Transition
open Pygpgme.Library.LockFamily (Step Ordered heldAfter Wants)
open Pygpgme.Source.Threads hiding Code Prog context threadCode
open Pygpgme.Source.ManyContexts

variable {C Tid : Type} [DecidableEq C] [DecidableEq Tid]

/-- A `passphrase_cb` of an operation on `c` that reads an attribute of `d`. -/
def readsWithin (c d : C) : Prog C none :=
  .operation c .sign ⟨false, 0, 0, 1, 0⟩
    (.callback .passphrase (.accessor d .getArmor .done .done) .done) .done

/-- For any number of threads that use any number of Contexts in any way, callbacks
included, every reachable state is, as each one Context sees it, a reachable state
of the system with that Context only. -/
theorem each_context_alone (prog : Tid → Prog C none) (s : World C Tid)
    (reached : Reachable (contexts prog) s) (c : C) :
    Reachable (Source.Threads.context fun t => ((prog t).seen (some c)).python)
      (s.seen (some c)) := by
  have alone := LockFamily.seen_reachable (fun c t => seen_follows c (prog t)) reached
  have seen := alone.seen (some c)
  simp only [seen_threadCode] at seen
  exact seen

/-- With one thread in the `passphrase_cb` of the first of two Contexts. -/
theorem each_context_alone_nested : ∃ s : World Bool Unit,
    (s.part (some false)).locked = true ∧ s.gil = some ((), ()) ∧
      Reachable (Source.Threads.context fun _ : Unit =>
        ((readsWithin false true).seen (some true)).python) (s.seen (some true)) :=
  ⟨_, rfl, rfl, each_context_alone (fun _ => readsWithin false true)
    ((run (contexts fun _ : Unit => readsWithin false true)
      (LockFamily.start (fun _ => threadCode (readsWithin false true)) fun _ => Ctx.new)
      (List.replicate 9 ())).get rfl)
    (.of_run (List.replicate 9 ()) (.init rfl) rfl) true⟩

/-! ## Nesting in an order -/

section
variable {nests : C → C → Prop}

/-- A Context that may be used, at some depth, under the mutex of another. -/
def below (nests : C → C → Prop) (outer inner : Option C) : Prop :=
  ∃ c d, outer = some c ∧ inner = some d ∧ Relation.TransGen nests c d

omit [DecidableEq C] in
theorem below_trans (nests : C → C → Prop) : IsTrans (Option C) (below nests) := by
  constructor
  rintro _ _ _ ⟨c, d, rfl, rfl, first⟩ ⟨d', e, same, rfl, second⟩
  cases same
  exact ⟨c, e, rfl, rfl, first.trans second⟩

omit [DecidableEq C] in
theorem below_irrefl (acyclic : ∀ c, ¬ Relation.TransGen nests c c) :
    Std.Irrefl (below nests) := by
  constructor
  rintro _ ⟨c, d, rfl, same, cycle⟩
  cases same
  exact acyclic c cycle

/-- Every mutex in hand is that of the Context the code runs under, or above it. -/
def Above (nests : C → C → Prop) (outer : Option C) (held : List (Option C)) : Prop :=
  ∀ h ∈ held, ∃ o, outer = some o ∧ (h = some o ∨ below nests h (some o))

omit [DecidableEq C] in
/-- A Context that is nested directly is below all that are in hand. -/
theorem Above.below {outer : Option C} {held : List (Option C)} (above : Above nests outer held)
    {c : C} (nested : ∀ o, outer = some o → nests o c) : ∀ h ∈ held, below nests h (some c) := by
  intro h mem
  obtain ⟨o, rfl, same | ⟨b, d, rfl, same, further⟩⟩ := above h mem
  · exact ⟨o, c, same, rfl, .single (nested o rfl)⟩
  · cases same
    exact ⟨b, c, rfl, rfl, further.tail (nested o rfl)⟩

omit [DecidableEq C] in
theorem Above.cons {outer : Option C} {held : List (Option C)} (above : Above nests outer held)
    {c : C} (nested : ∀ o, outer = some o → nests o c) :
    Above nests (some c) (some c :: held) := by
  intro h mem
  rcases List.mem_cons.mp mem with rfl | mem
  · exact ⟨c, rfl, .inl rfl⟩
  · exact ⟨c, rfl, .inr (above.below nested h mem)⟩

/-- Neither takes nor releases a mutex. -/
def still : Instr Act → Bool
  | .acquire _ | .release => false
  | _ => true

theorem skip {held : List (Option C)} (at_ : Option C) (pre : Source.Threads.Code)
    {rest : Source.ManyContexts.Code C} (quiet : pre.all still = true)
    (after : Ordered (below nests) held rest) :
    Ordered (below nests) held (pre.map (Step.mk at_) ++ rest) := by
  induction pre with
  | nil => exact after
  | cons i pre ih =>
    simp only [List.all_cons, Bool.and_eq_true] at quiet
    have same : heldAfter held (Step.mk at_ i) = held := by
      cases i <;> simp_all [heldAfter, still]
    refine ⟨fun path acquire => ?_, ?_⟩
    · cases acquire
      simp [still] at quiet
    · rw [same]
      exact ih quiet.2

omit [DecidableEq C] in
theorem still_convert (f : GpgmeFn) (length : Nat) : (convert f length).all still = true := by
  simp [convert, gilSwitch, still]

omit [DecidableEq C] in
theorem still_epilogue (m : Method) (o : Outcome) : (m.epilogue o).all still = true := by
  obtain ⟨err, _, _, _, _⟩ := o
  cases m <;> cases err <;>
    simp [Method.epilogue, checkError, decodeEncryptResult, decodeDecryptResult, importResult,
      genkeyResult, call, still, gilSwitch, still_convert]

section
variable {held : List (Option C)} {c : C} {rest : Source.ManyContexts.Code C}

/-- Taking a mutex, between steps that touch none. -/
theorem takes (pre post : Source.Threads.Code) (path : Path) (first : pre.all still = true)
    (second : post.all still = true) (lower : ∀ h ∈ held, below nests h (some c))
    (after : Ordered (below nests) (some c :: held) rest) :
    Ordered (below nests) held (on c (pre ++ .acquire path :: post) ++ rest) := by
  have taken : Ordered (below nests) held
      (Step.mk (some c) (.acquire path) :: (on c post ++ rest)) :=
    ⟨fun _ _ => lower, skip _ _ second after⟩
  simpa [on] using skip (some c) _ first taken

/-- Releasing it. -/
theorem gives (pre post : Source.Threads.Code) (first : pre.all still = true)
    (second : post.all still = true) (after : Ordered (below nests) held rest) :
    Ordered (below nests) (some c :: held) (on c (pre ++ .release :: post) ++ rest) := by
  have given : Ordered (below nests) (some c :: held)
      (Step.mk (some c) .release :: (on c post ++ rest)) := by
    refine ⟨fun _ acquire => (by cases acquire), ?_⟩
    rw [LockFamily.heldAfter_release]
    exact skip _ _ second after
  simpa [on] using skip (some c) _ first given

end

/-- A program takes its mutexes in the order of nesting and gives them all back. -/
theorem Within.ordered {by_ outer : Option C} {p : Prog C by_} (within : p.Within nests outer)
    {held : List (Option C)} (above : Above nests outer held)
    {rest : Source.ManyContexts.Code C} (after : Ordered (below nests) held rest) :
    Ordered (below nests) held (p.code ++ rest) := by
  induction p generalizing outer held rest with
  | done => exact after
  | switch next ih =>
    rw [Source.ManyContexts.Prog.code, List.append_assoc]
    exact skip _ _ rfl (ih within above after)
  | accessor c a destructor next ihd ih =>
    obtain ⟨nested, del, others⟩ := within
    rw [Source.ManyContexts.Prog.code, List.append_assoc, List.append_assoc, List.append_assoc]
    have unlocked := gives (c := c) (a.calls.flatMap call) []
      (by simp [List.all_flatMap, call, still]) rfl (ih others above after)
    refine takes [.saveThread] [.restoreThread] .plain rfl rfl
      (above.below nested) ?_
    split
    next destructs => exact ihd (del destructs) (above.cons nested) unlocked
    · exact unlocked
  | engineInfo c infos next ih =>
    obtain ⟨nested, others⟩ := within
    have unlocked := gives (c := c) (List.replicate infos gilSwitch).flatten []
      (by simp [gilSwitch, still]) rfl (ih others above after)
    have locked := takes (call .ctxGetEngineInfo ++ [.saveThread]) [.restoreThread] .plain
      rfl rfl (above.below nested) unlocked
    simpa [Source.ManyContexts.Prog.code, contextGetEngineInfo, lockContext, unlockContext, on]
      using locked
  | keyIter c k next ih =>
    rw [Source.ManyContexts.Prog.code, List.append_assoc]
    refine skip _ _ ?_ (ih within above after)
    cases k <;> rfl
  | operation c m o callbacks next ihc ih =>
    obtain ⟨nested, inside, others⟩ := within
    rw [Source.ManyContexts.Prog.code, List.append_assoc, List.append_assoc, List.append_assoc]
    have ended := gives (c := c)
      [.act (.leave m.op), .assertState true, .loadState, .restoreThread, .clearState]
      (m.epilogue o) rfl (still_epilogue m o) (ih others above after)
    exact takes [.saveThread] [.assertState false, .storeState, .act (.enter m.op)] .blocking
      rfl rfl
      (above.below nested) (ihc inside (above.cons nested) ended)
  | callback cb body next ihb ih =>
    obtain ⟨inside, others⟩ := within
    rw [Source.ManyContexts.Prog.code, List.append_assoc, List.append_assoc, List.append_assoc]
    exact skip _ _ rfl (ihb inside above (skip _ _ rfl (ih others above after)))

/-- Where Contexts are nested without a cycle, somebody can always go on. -/
theorem deadlock_free [Finite Tid] (acyclic : ∀ c, ¬ Relation.TransGen nests c c)
    (prog : Tid → Prog C none) (within : ∀ t, (prog t).Within nests none) (s : World C Tid)
    (reached : Reachable (contexts prog) s) (left : ∃ t, s.code t ≠ []) :
    ∃ t s', LockFamily.step Ctx.act s t = some s' := by
  have := below_trans nests
  have := below_irrefl acyclic
  have ordered : ∀ t, Ordered (below nests) [] (threadCode (prog t)) := by
    intro t
    rw [threadCode, List.append_assoc]
    refine skip _ _ rfl (Within.ordered (within t) (fun h mem => by cases mem) ?_)
    exact skip _ [.saveThread] rfl trivial
  obtain ⟨view, held, standing⟩ :=
    LockFamily.standing_of_reach (fun c t => seen_follows c (prog t)) ordered reached
  exact standing.progress left

end

/-! ## Nesting in a circle -/

omit [DecidableEq C] in
theorem readsWithin_within {nests : C → C → Prop} {c d : C} (nested : nests c d) :
    (readsWithin c d).Within nests none := by
  simp [readsWithin, Prog.Within, Accessor.destructs, nested]

/-- From the second `acquire` on. -/
def afterwards (c d : C) : Source.ManyContexts.Code C := (threadCode (readsWithin c d)).drop 10

omit [DecidableEq C] in
theorem afterwards_waits (c d : C) :
    ∃ rest, afterwards c d = ⟨some d, .acquire .plain⟩ :: rest :=
  ⟨_, rfl⟩

/-- Thread `t` has begun to sign with `c` and is about to wait for `d`. -/
def begun (t : Tid) (c d : C) (s : World C Tid) : World C Tid where
  gil := none
  saved := s.saved
  part := Function.update s.part (some c)
    { locked := true, holding := Function.update (s.part (some c)).holding t (some .blocking),
      tstate := some t, data := Ctx.act t (.enter .opSign) (s.part (some c)).data }
  code := Function.update s.code t (afterwards c d)

/-- Alone, a thread gets as far as the mutex of `d` and has that of `c` by then. -/
theorem begins {t : Tid} {c d : C} {s : World C Tid} (gil : s.gil = none)
    (saved : s.saved t = some t) (unlocked : (s.part (some c)).locked = false)
    (unpublished : (s.part (some c)).tstate = none) (prog : Tid → Prog C none)
    (fresh : s.code t = threadCode (readsWithin c d)) :
    run (contexts prog) s (List.replicate 10 t) = some (begun t c d s) := by
  have kept : Function.update s.saved t (some t) = s.saved := by
    rw [← saved, Function.update_eq_self]
  simp [begun, afterwards, run, contexts, LockFamily.machine, LockFamily.step, LockFamily.exec,
    LockMachine.exec, LockFamily.State.seen, LockFamily.State.put, fresh, List.replicate,
    threadCode, readsWithin, Source.ManyContexts.Prog.code, outside, on, beginAllowThreads,
    lockContext, Method.op, gil, saved, unlocked, unpublished, kept]

/-- A cycle is within finitely many Contexts, each with one of them nested in it. -/
theorem cycle_finite {nests : C → C → Prop} {a b : C} (path : Relation.TransGen nests a b) :
    ∃ ring : Finset C, a ∈ ring ∧ ∀ x ∈ ring, ∃ y, nests x y ∧ (y ∈ ring ∨ y = b) := by
  induction path using Relation.TransGen.head_induction_on with
  | @single a last => exact ⟨{a}, by simp, fun x mem => ⟨b, by simp_all⟩⟩
  | @head a c first _ ih =>
    obtain ⟨ring, mem, closed⟩ := ih
    refine ⟨insert a ring, by simp, fun x inside => ?_⟩
    rcases Finset.mem_insert.mp inside with rfl | inside
    · exact ⟨c, first, .inl (Finset.mem_insert_of_mem mem)⟩
    · obtain ⟨y, nested, further⟩ := closed x inside
      exact ⟨y, nested, further.imp_left Finset.mem_insert_of_mem⟩

section
variable {ring : Finset C} (after : ring → ring)

/-- One thread for each Context of the ring. -/
def ringProg (c : ring) : Prog C none := readsWithin c.1 (after c).1

/-- Of the threads of the ring, those of `begunAlready` are inside their operation. -/
structure Begun (begunAlready : Finset ring) (s : World C ring) : Prop where
  gil : s.gil = none
  saved : ∀ t, s.saved t = some t
  inside : ∀ c ∈ begunAlready,
    (s.part (some c.1)).locked = true ∧ s.code c = afterwards c.1 (after c).1
  fresh : ∀ c, c ∉ begunAlready → (s.part (some c.1)).locked = false ∧
    (s.part (some c.1)).tstate = none ∧ s.code c = threadCode (ringProg after c)

/-- One thread after the other begins. -/
theorem all_begin (begunAlready : Finset ring) :
    ∃ s, Reachable (contexts (ringProg after)) s ∧ Begun after begunAlready s := by
  induction begunAlready using Finset.induction_on with
  | empty =>
    exact ⟨LockFamily.start _ _, .init rfl,
      ⟨rfl, fun _ => rfl, fun _ mem => absurd mem (by simp), fun _ _ => ⟨rfl, rfl, rfl⟩⟩⟩
  | insert c already new ih =>
    obtain ⟨s, reached, begunSoFar⟩ := ih
    obtain ⟨unlocked, unpublished, code⟩ := begunSoFar.fresh c new
    refine ⟨begun c c.1 (after c).1 s, reached.of_run _
      (begins begunSoFar.gil (begunSoFar.saved c) unlocked unpublished _ code),
      rfl, begunSoFar.saved, fun e mem => ?_, fun e mem => ?_⟩
    · by_cases same : e = c
      · subst same
        simp [begun]
      · have apart : e.1 ≠ c.1 := fun h => same (Subtype.ext h)
        simpa [begun, same, apart] using
          begunSoFar.inside e ((Finset.mem_insert.mp mem).resolve_left same)
    · obtain ⟨same, others⟩ := not_or.mp (mt Finset.mem_insert.mpr mem)
      have apart : e.1 ≠ c.1 := fun h => same (Subtype.ext h)
      simpa [begun, same, apart] using begunSoFar.fresh e others

/-- Each waits for the next then. -/
theorem Begun.stuck {s : World C ring} (all : Begun after Finset.univ s) (c : ring) :
    LockFamily.step Ctx.act s c = none := by
  have code := (all.inside c (Finset.mem_univ c)).2
  have taken := (all.inside (after c) (Finset.mem_univ _)).1
  obtain ⟨rest, waits⟩ := afterwards_waits c.1 (after c).1
  simp [LockFamily.step, code, waits, LockFamily.exec, LockMachine.exec, LockFamily.State.seen,
    taken]

end

/-- Programs whose Contexts are nested as `nests` allows can always go on, whatever
the programs and the schedule, exactly when `nests` has no cycle. -/
theorem deadlock_free_iff (nests : C → C → Prop) :
    (∀ (Tid : Type) [DecidableEq Tid] [Finite Tid] (prog : Tid → Prog C none),
      (∀ t, (prog t).Within nests none) → ∀ s, Reachable (contexts prog) s →
        (∃ t, s.code t ≠ []) → ∃ t s', LockFamily.step Ctx.act s t = some s') ↔
      ∀ c, ¬ Relation.TransGen nests c c := by
  constructor
  · intro progress c cycle
    obtain ⟨ring, mem, closed⟩ := cycle_finite cycle
    have next : ∀ x : ring, ∃ y : ring, nests x.1 y.1 := by
      intro x
      obtain ⟨y, nested, inside⟩ := closed x.1 x.2
      rcases inside with inside | rfl
      · exact ⟨⟨y, inside⟩, nested⟩
      · exact ⟨⟨y, mem⟩, nested⟩
    choose after nested using next
    obtain ⟨s, reached, all⟩ := all_begin after Finset.univ
    have unfinished : s.code ⟨c, mem⟩ ≠ [] := by
      obtain ⟨rest, waits⟩ := afterwards_waits c (after ⟨c, mem⟩).1
      rw [(all.inside ⟨c, mem⟩ (Finset.mem_univ _)).2, waits]
      simp
    obtain ⟨t, s', taken⟩ := progress ring (ringProg after)
      (fun t => readsWithin_within (nested t)) s reached ⟨⟨c, mem⟩, unfinished⟩
    simp [all.stuck after t] at taken
  · intro acyclic Tid _ _ prog within s reached left
    exact deadlock_free acyclic prog within s reached left

end Pygpgme.Guarantees.ManyContexts
