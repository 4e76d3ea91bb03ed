import Pygpgme.Library.LockRuns

/-!
# Critical sections take effect one after the other

Where every action is taken under the mutex, a run is as if each critical section
happened at once, at the moment its thread takes the mutex. `atomic` is the machine
in which it does, and `Serialised.run` executes there the schedule of those moments.
-/

set_option autoImplicit false

namespace Pygpgme.Library.LockMachine
open Pygpgme.Library.Transition

variable {Tid α σ : Type}

/-- The actions up to the end of the section that is open, and those of each later one. -/
def sections : List (Instr α) → List α × List (List α)
  | [] => ([], [])
  | .act a :: rest => (a :: (sections rest).1, (sections rest).2)
  | .acquire _ :: rest => ([], (sections rest).1 :: (sections rest).2)
  | .release :: rest => ([], (sections rest).2)
  | .saveThread :: rest | .restoreThread :: rest | .loadState :: rest | .storeState :: rest
  | .clearState :: rest | .assertState _ :: rest => sections rest

/-- Neither an action nor a change of hands of the mutex. -/
def passive : Instr α → Bool
  | .act _ | .acquire _ | .release => false
  | _ => true

theorem sections_passive {i : Instr α} (nothing : passive i = true) (rest : List (Instr α)) :
    sections (i :: rest) = sections rest := by
  cases i with
  | act a => cases nothing
  | acquire path => cases nothing
  | release => cases nothing
  | _ => rfl

theorem sections_append_of_passive {pre : List (Instr α)} (nothing : pre.all passive = true)
    (post : List (Instr α)) : sections (pre ++ post) = sections post := by
  induction pre with
  | nil => rfl
  | cons i pre ih =>
    simp only [List.all_cons, Bool.and_eq_true] at nothing
    rw [List.cons_append, sections_passive nothing.1, ih nothing.2]

/-- Actions are taken under the mutex only. -/
def Monitor.guarded : Monitor α Unit where
  next := fun b _ => b
  ok := fun v _ i => (∃ a, i = .act a) → v.hold ≠ .free

theorem View.next_passive {v v' : View} {i : Instr α} (nothing : passive i = true)
    (allowed : v.next i = some v') : v'.hold = .free ↔ v.hold = .free := by
  cases i with
  | act a => cases nothing
  | acquire path => cases nothing
  | release => cases nothing
  | assertState set =>
    simp only [View.next] at allowed
    split at allowed <;> first | rw [← Option.some.inj allowed] | cases allowed
  | storeState =>
    simp only [View.next, Option.ite_none_right_eq_some, Option.some.injEq] at allowed
    obtain ⟨⟨-, taken⟩, rfl⟩ := allowed
    cases hold : v.hold <;> simp [hold, Hold.path] at taken ⊢
  | _ =>
    simp only [View.next, Option.ite_none_right_eq_some, Option.some.injEq] at allowed
    obtain ⟨met, rfl⟩ := allowed
    simp_all

/-! ## The machine with whole sections -/

structure Atomic (Tid α σ : Type) where
  todo : Tid → List (List α)
  data : σ

/-- One thread takes several actions in a row. -/
def perform (sem : Tid → α → σ → σ) (t : Tid) (acts : List α) (d : σ) : σ :=
  acts.foldl (fun d a => sem t a d) d

theorem perform_append (sem : Tid → α → σ → σ) (t : Tid) (first second : List α) (d : σ) :
    perform sem t (first ++ second) d = perform sem t second (perform sem t first d) :=
  List.foldl_append ..

variable [DecidableEq Tid]

/-- Thread `t` takes all actions of its next section. -/
def atomicStep (sem : Tid → α → σ → σ) (a : Atomic Tid α σ) (t : Tid) :
    Option (Atomic Tid α σ) :=
  match a.todo t with
  | [] => none
  | acts :: later => some ⟨Function.update a.todo t later, perform sem t acts a.data⟩

def atomic (sem : Tid → α → σ → σ) (todo : Tid → List (List α)) (data : σ) :
    System (Atomic Tid α σ) Tid where
  init := fun a => a = ⟨todo, data⟩
  step := atomicStep sem

/-- The thread's next step takes the mutex. -/
def acquires (s : State Tid α σ) (t : Tid) : Bool :=
  match s.code t with
  | .acquire _ :: _ => true
  | _ => false

/-- In which order the threads of a schedule take the mutex. -/
def acquisitions (sem : Tid → α → σ → σ) : State Tid α σ → List Tid → List Tid
  | _, [] => []
  | s, t :: rest =>
    match step sem s t with
    | none => []
    | some s' =>
      if acquires s t then t :: acquisitions sem s' rest else acquisitions sem s' rest

/-- The atomic machine is ahead by the rest of the section that is open, if one is. -/
structure Serialised (sem : Tid → α → σ → σ) (v : Tid → View) (s : State Tid α σ)
    (a : Atomic Tid α σ) : Prop where
  todo : ∀ t, a.todo t = (sections (s.code t)).2
  ahead : ∀ t, (v t).hold ≠ .free → a.data = perform sem t (sections (s.code t)).1 s.data
  level : (∀ t, (v t).hold = .free) → a.data = s.data

variable {sem : Tid → α → σ → σ} {v : Tid → View} {s s' : State Tid α σ} {a : Atomic Tid α σ}

omit [DecidableEq Tid] in
theorem Serialised.start (code : Tid → List (Instr α)) (data : σ) :
    Serialised sem (fun _ => View.idle) (start code data)
      ⟨fun t => (sections (code t)).2, data⟩ :=
  ⟨fun _ => rfl, fun _ held => absurd rfl held, fun _ => rfl⟩

/-- A step that leaves the sections and the mutex alone. -/
theorem Serialised.pass (h : Serialised sem v s a) {t : Tid} {v' : View} {i : Instr α}
    {rest : List (Instr α)} (hcode : s.code t = i :: rest) (nothing : passive i = true)
    (allowed : (v t).next i = some v') (code : s'.code = Function.update s.code t rest)
    (data : s'.data = s.data) : Serialised sem (Function.update v t v') s' a := by
  have same : ∀ u, sections (s'.code u) = sections (s.code u) := by
    intro u
    by_cases e : u = t
    · subst e
      rw [code, hcode, Function.update_self, sections_passive nothing]
    · rw [code, Function.update_of_ne e]
  have hold : ∀ u, (Function.update v t v' u).hold = .free ↔ (v u).hold = .free := by
    intro u
    by_cases e : u = t
    · subst e
      rw [Function.update_self]
      exact View.next_passive nothing allowed
    · rw [Function.update_of_ne e]
  refine ⟨fun u => ?_, fun u held => ?_, fun free => ?_⟩
  · rw [same, h.todo]
  · rw [same, data]
    exact h.ahead u (mt (hold u).mpr held)
  · rw [data]
    exact h.level fun u => (hold u).mp (free u)

/-- Taking an action brings the run nearer to the atomic machine. -/
theorem Serialised.act (h : Serialised sem v s a) (agrees : Agrees v s) {t : Tid} {x : α}
    {rest : List (Instr α)} (hcode : s.code t = .act x :: rest) (mine : (v t).hold ≠ .free)
    (code : s'.code = Function.update s.code t rest) (data : s'.data = sem t x s.data) :
    Serialised sem v s' a := by
  refine ⟨fun u => ?_, fun u held => ?_, fun free => absurd (free t) mine⟩
  · rw [h.todo, code]
    by_cases e : u = t
    · subst e
      rw [hcode, Function.update_self, sections]
    · rw [Function.update_of_ne e]
  · cases agrees.mutex.unique u t held mine
    rw [h.ahead t mine, hcode, code, data, Function.update_self, sections]
    rfl

/-- Who takes the mutex takes the whole section on the atomic machine. -/
theorem Serialised.acquire (h : Serialised sem v s a) {t : Tid} {v' : View} {path : Path}
    {rest : List (Instr α)} (hcode : s.code t = .acquire path :: rest)
    (free : ∀ u, (v u).hold = .free) (code : s'.code = Function.update s.code t rest)
    (data : s'.data = s.data) (taken : v'.hold ≠ .free) :
    ∃ a', atomicStep sem a t = some a' ∧ Serialised sem (Function.update v t v') s' a' := by
  have todo := h.todo t
  rw [hcode, sections] at todo
  refine ⟨⟨Function.update a.todo t (sections rest).2, perform sem t (sections rest).1 a.data⟩,
    by simp [atomicStep, todo], fun u => ?_, fun u held => ?_, fun none_ => ?_⟩
  · rw [code]
    by_cases e : u = t
    · subst e
      simp
    · simp [e, h.todo]
  · by_cases e : u = t
    · subst e
      rw [code, data, Function.update_self, ← h.level free]
    · rw [Function.update_of_ne e] at held
      exact absurd (free u) held
  · have idle := none_ t
    rw [Function.update_self] at idle
    exact absurd idle taken

/-- Who gives the mutex back has no action left to take. -/
theorem Serialised.release (h : Serialised sem v s a) (agrees : Agrees v s) {t : Tid}
    {v' : View} {rest : List (Instr α)} (hcode : s.code t = .release :: rest)
    (mine : (v t).hold ≠ .free) (gone : v'.hold = .free)
    (code : s'.code = Function.update s.code t rest) (data : s'.data = s.data) :
    Serialised sem (Function.update v t v') s' a := by
  have level : a.data = s.data := by
    rw [h.ahead t mine, hcode, sections]
    rfl
  have free : ∀ u, (Function.update v t v' u).hold = .free := by
    intro u
    by_cases e : u = t
    · subst e
      rwa [Function.update_self]
    · rw [Function.update_of_ne e]
      exact agrees.mutex.others_free mine e
  refine ⟨fun u => ?_, fun u held => absurd (free u) held, fun _ => level.trans data.symm⟩
  rw [h.todo, code]
  by_cases e : u = t
  · subst e
    rw [hcode, Function.update_self, sections]
  · rw [Function.update_of_ne e]

/-- One step of the machine is one of the atomic machine, where the mutex is taken,
or none. -/
theorem Serialised.step {nested : Bool} {b : Tid → Unit} (h : Serialised sem v s a)
    (tracks : Tracks nested Monitor.guarded v b s) {t : Tid}
    (taken : LockMachine.step sem s t = some s') :
    ∃ v' b' a', Tracks nested Monitor.guarded v' b' s' ∧ Serialised sem v' s' a' ∧
      if acquires s t then atomicStep sem a t = some a' else a' = a := by
  obtain ⟨i, rest, v', hcode, allowed, ok, code, data, next⟩ := tracks.step taken
  by_cases nothing : passive i = true
  · have quiet : acquires s t = false := by
      unfold acquires
      rw [hcode]
      cases i <;> first | rfl | cases nothing
    have unchanged : s'.data = s.data := by
      rw [data]
      cases i <;> first | rfl | cases nothing
    refine ⟨_, _, a, next, h.pass hcode nothing allowed code unchanged, ?_⟩
    simp [quiet]
  · cases i with
    | act x =>
      have same : v' = v t := (Option.some.inj allowed).symm
      rw [same, Function.update_eq_self] at next
      refine ⟨_, _, a, next, h.act tracks.agrees hcode (ok ⟨x, rfl⟩) code data, ?_⟩
      simp [acquires, hcode]
    | acquire path =>
      obtain ⟨j, rest', mid, hcode', executed, -⟩ := step_cases taken
      rw [hcode, List.cons.injEq] at hcode'
      obtain ⟨rfl, rfl⟩ := hcode'
      simp only [exec, Option.ite_none_left_eq_some] at executed
      have free := tracks.agrees.mutex.free_of_unlocked (by simpa using executed.1)
      simp only [View.next, Option.ite_none_right_eq_some, Option.some.injEq] at allowed
      have held : v'.hold ≠ .free := by simp [← allowed.2]
      obtain ⟨a', moved, serialised⟩ := h.acquire hcode free code data held
      refine ⟨_, _, a', next, serialised, ?_⟩
      simpa [acquires, hcode] using moved
    | release =>
      have mine : (v t).hold ≠ .free := by
        intro free
        simp [View.next, free] at allowed
      have gone : v'.hold = .free := by
        simp only [View.next] at allowed
        split at allowed
        · rw [← Option.some.inj allowed]
        · cases allowed
      refine ⟨_, _, a, next, h.release tracks.agrees hcode mine gone code data, ?_⟩
      simp [acquires, hcode]
    | _ => exact absurd rfl nothing

/-- Every run is one of the atomic machine, in the order in which the mutex is taken. -/
theorem Serialised.run {nested : Bool} (code : Tid → List (Instr α)) (data : σ)
    (todo : Tid → List (List α)) (data' : σ) {b : Tid → Unit} (h : Serialised sem v s a)
    (tracks : Tracks nested Monitor.guarded v b s) (sched : List Tid)
    (ran : Transition.run (machine sem code data) s sched = some s') :
    ∃ v' b' a', Tracks nested Monitor.guarded v' b' s' ∧ Serialised sem v' s' a' ∧
      Transition.run (atomic sem todo data') a (acquisitions sem s sched) = some a' := by
  induction sched generalizing v b s a with
  | nil =>
    cases ran
    exact ⟨v, b, a, tracks, h, rfl⟩
  | cons t rest ih =>
    obtain ⟨mid, taken, continued⟩ := Option.bind_eq_some_iff.mp ran
    obtain ⟨v₁, b₁, a₁, tracks₁, serialised₁, moved⟩ := h.step tracks taken
    obtain ⟨v', b', a', tracks', serialised', last⟩ := ih serialised₁ tracks₁ continued
    refine ⟨v', b', a', tracks', serialised', ?_⟩
    have first : LockMachine.step sem s t = some mid := taken
    unfold acquisitions
    simp only [first]
    split at moved
    next acquired => simpa [acquired, Transition.run, atomic, moved] using last
    next other =>
      subst moved
      simpa [other] using last

/-- The same from the start, at a moment when nobody has the mutex. -/
theorem atomic_of_run {nested : Bool} {code : Tid → List (Instr α)} {data : σ}
    (follows : ∀ t, Follows nested View.idle (code t))
    (guarded : ∀ t, Monitor.guarded.Along View.idle () (code t)) (sched : List Tid)
    (ran : Transition.run (machine sem code data) (LockMachine.start code data) sched = some s) :
    ∃ a, Transition.run (atomic sem (fun t => (sections (code t)).2) data)
        ⟨fun t => (sections (code t)).2, data⟩
        (acquisitions sem (LockMachine.start code data) sched) = some a ∧
      (s.locked = false → a.data = s.data) ∧
      (s.locked = true → ∃ t, a.data = perform sem t (sections (s.code t)).1 s.data) := by
  have started := Tracks.start data follows guarded
  obtain ⟨v, b, a, tracks, serialised, moved⟩ :=
    Serialised.run code data (fun t => (sections (code t)).2) data
      (Serialised.start code data) started sched ran
  refine ⟨a, moved, fun unlocked => ?_, fun locked => ?_⟩
  · exact serialised.level (tracks.agrees.mutex.free_of_unlocked unlocked)
  · obtain ⟨t, held⟩ := tracks.agrees.mutex.locked.mp locked
    exact ⟨t, serialised.ahead t held⟩

end Pygpgme.Library.LockMachine
