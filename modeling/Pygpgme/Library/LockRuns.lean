import Pygpgme.Library.LockDiscipline

/-!
# Runs of threads that follow the lock discipline

`Tracks.step` is the one induction step that every guarantee about the two locks
uses: it names the executed instruction, the view and the monitor state after it.
`Tracks.progress` excludes deadlock for code that never takes the mutex twice,
and `Agrees.solo` runs one thread while the others have not started.
-/

set_option autoImplicit false

namespace Pygpgme.Library.LockMachine
open Pygpgme.Library.Transition

variable {Tid α σ β : Type}

/-- Every thread's remaining code follows the discipline and its monitor from the
view that agrees with the shared state. -/
structure Tracks (nested : Bool) (m : Monitor α β) (v : Tid → View) (b : Tid → β)
    (s : State Tid α σ) : Prop where
  agrees : Agrees v s
  follows : ∀ t, Follows nested (v t) (s.code t)
  along : ∀ t, m.Along (v t) (b t) (s.code t)

theorem Tracks.start {nested : Bool} {m : Monitor α β} {b : β} {code : Tid → List (Instr α)}
    (data : σ) (follows : ∀ t, Follows nested View.idle (code t))
    (along : ∀ t, m.Along View.idle b (code t)) :
    Tracks nested m (fun _ => View.idle) (fun _ => b) (start code data) :=
  ⟨Agrees.start code data, follows, along⟩

variable [DecidableEq Tid] {sem : Tid → α → σ → σ}

/-- A thread that has the mutex cannot execute another `acquire`. -/
theorem Agrees.blocked {v : Tid → View} {s : State Tid α σ} (h : Agrees v s) {t : Tid}
    {i : Instr α} (blocks : (v t).BlocksItself i) : LockMachine.exec sem s t i = none := by
  cases i with
  | acquire path =>
    have locked : s.locked = true := h.mutex.locked.mpr ⟨t, blocks⟩
    simp [LockMachine.exec, locked]
  | _ => exact blocks.elim

theorem Tracks.step {nested : Bool} {m : Monitor α β} {v : Tid → View} {b : Tid → β}
    {s s' : State Tid α σ} (h : Tracks nested m v b s) {t : Tid}
    (taken : LockMachine.step sem s t = some s') :
    ∃ i rest v', s.code t = i :: rest ∧ (v t).next i = some v' ∧ m.ok (v t) (b t) i ∧
      s'.code = Function.update s.code t rest ∧ s'.data = dataAfter sem t i s.data ∧
      Tracks nested m (Function.update v t v') (Function.update b t (m.next (b t) i)) s' := by
  obtain ⟨i, rest, next, hcode, hexec, rfl⟩ := step_cases taken
  have follows := h.follows t
  have along := h.along t
  simp only [hcode, Follows] at follows
  simp only [hcode, Monitor.Along] at along
  cases allowed : (v t).next i with
  | none =>
    -- The discipline lets a thread stand here only where the step never returns.
    simp only [allowed] at follows
    simp [h.agrees.blocked follows.2] at hexec
  | some v' =>
    simp only [allowed] at follows along
    have agrees := h.agrees.exec allowed hexec
    refine ⟨i, rest, v', hcode, allowed, along.1, rfl, (exec_code hexec).2, ?_, ?_, ?_⟩
    · exact ⟨agrees.gil, agrees.attached, agrees.saved, agrees.mutex.congr rfl rfl rfl⟩
    · intro u
      by_cases e : u = t
      · subst e
        simpa using follows
      · simpa [e] using h.follows u
    · intro u
      by_cases e : u = t
      · subst e
        simpa using along.2
      · simpa [e] using h.along u

/-- Views and monitor states exist at every state of every run. -/
theorem Tracks.reach {nested : Bool} {m : Monitor α β} {b : β} {code : Tid → List (Instr α)}
    {data : σ} {cond : State Tid α σ → Tid → Prop}
    (follows : ∀ t, Follows nested View.idle (code t))
    (along : ∀ t, m.Along View.idle b (code t)) {s : State Tid α σ}
    (reached : Reach (machine sem code data) cond s) : ∃ v bs, Tracks nested m v bs s := by
  induction reached with
  | init started =>
    cases started
    exact ⟨_, _, Tracks.start data follows along⟩
  | step t _ _ taken ih =>
    obtain ⟨v, bs, h⟩ := ih
    obtain ⟨_, _, _, _, _, _, _, _, next⟩ := h.step taken
    exact ⟨_, _, next⟩

/-- Code that never takes the mutex twice does not deadlock: the holder of the
interpreter lock can move, else the holder of the mutex, else anyone. -/
theorem Tracks.progress {m : Monitor α β} {v : Tid → View} {b : Tid → β}
    {s : State Tid α σ} (h : Tracks false m v b s) (unfinished : ∃ t, s.code t ≠ []) :
    ∃ t s', LockMachine.step sem s t = some s' := by
  have head : ∀ t, s.code t ≠ [] → ∃ i rest v', s.code t = i :: rest ∧
      (v t).next i = some v' := by
    intro t nonempty
    obtain ⟨i, rest, hcode⟩ := List.exists_cons_of_ne_nil nonempty
    have follows := h.follows t
    simp only [hcode, Follows] at follows
    cases allowed : (v t).next i with
    | none => simp [allowed] at follows
    | some v' => exact ⟨i, rest, v', hcode, allowed⟩
  have move : ∀ t i rest v', s.code t = i :: rest → (v t).next i = some v' →
      (i = .restoreThread → s.gil = none) → (∀ path, i = .acquire path → s.locked = false) →
      ∃ t s', LockMachine.step sem s t = some s' := by
    intro t i rest v' hcode allowed gil mutex
    obtain ⟨s', hexec⟩ := h.agrees.exec_enabled sem allowed gil mutex
    refine ⟨t, { s' with code := Function.update s.code t rest }, ?_⟩
    simp only [LockMachine.step, hcode, hexec, Option.map_some]
  have working : ∀ t, (v t).gil = true ∨ (v t).hold ≠ .free → s.code t ≠ [] := by
    intro t busy empty
    have done := h.follows t
    simp only [empty, Follows] at done
    rcases busy with gil | hold
    · simp [done.1] at gil
    · exact hold done.2
  by_cases held : s.gil = none
  · by_cases locked : s.locked = true
    · obtain ⟨t, hold⟩ := h.agrees.mutex.locked.mp locked
      obtain ⟨i, rest, v', hcode, allowed⟩ := head t (working t (.inr hold))
      refine move t i rest v' hcode allowed (fun _ => held) ?_
      rintro path rfl
      simp [View.next, hold] at allowed
    · obtain ⟨t, nonempty⟩ := unfinished
      obtain ⟨i, rest, v', hcode, allowed⟩ := head t nonempty
      exact move t i rest v' hcode allowed (fun _ => held) (fun _ _ => by simpa using locked)
  · obtain ⟨t, gil⟩ := h.agrees.gil_holder held
    obtain ⟨i, rest, v', hcode, allowed⟩ := head t (working t (.inl gil))
    refine move t i rest v' hcode allowed ?_ ?_
    · rintro rfl
      simp [View.next, gil] at allowed
    · rintro path rfl
      simp [View.next, gil] at allowed

/-- Alone among threads that have not started, a thread executes any list of
allowed steps without waiting. -/
theorem Agrees.solo {v : Tid → View} {s : State Tid α σ} {code : Tid → List (Instr α)}
    {data : σ} (h : Agrees v s) {t : Tid}
    (others : ∀ u, u ≠ t → (v u).gil = false ∧ (v u).hold = .free)
    (reached : Reachable (machine sem code data) s) {pre post : List (Instr α)}
    (hcode : s.code t = pre ++ post) {v' : View} (allowed : (v t).run pre = some v') :
    ∃ s', Reachable (machine sem code data) s' ∧ s'.code t = post ∧
      Agrees (Function.update v t v') s' := by
  induction pre generalizing v s with
  | nil =>
    simp only [View.run, Option.some.injEq] at allowed
    refine ⟨s, reached, hcode, ?_⟩
    rw [← allowed, Function.update_eq_self]
    exact h
  | cons i rest ih =>
    obtain ⟨w, hw, continued⟩ := Option.bind_eq_some_iff.mp allowed
    have gil : i = .restoreThread → s.gil = none := by
      rintro rfl
      by_contra held
      obtain ⟨u, hu⟩ := h.gil_holder held
      have mine : u = t := by
        by_contra e
        simp [(others u e).1] at hu
      subst mine
      simp [View.next, hu] at hw
    have mutex : ∀ path, i = .acquire path → s.locked = false := by
      rintro path rfl
      by_contra locked
      obtain ⟨u, hu⟩ := h.mutex.locked.mp (by simpa using locked)
      have mine : u = t := by
        by_contra e
        exact hu (others u e).2
      subst mine
      simp [View.next, hu] at hw
    obtain ⟨next, hexec⟩ := h.exec_enabled sem hw gil mutex
    have agrees := h.exec hw hexec
    have taken : LockMachine.step sem s t =
        some { next with code := Function.update s.code t (rest ++ post) } := by
      simp only [LockMachine.step, hcode, List.cons_append, hexec, Option.map_some]
    have agrees' : Agrees (Function.update v t w)
        { next with code := Function.update s.code t (rest ++ post) } :=
      ⟨agrees.gil, agrees.attached, agrees.saved, agrees.mutex.congr rfl rfl rfl⟩
    obtain ⟨s', hs', hcode', hagrees⟩ := ih agrees'
      (fun u e => by simpa [e] using others u e) (.step t reached trivial taken) (by simp)
      (by simpa using continued)
    refine ⟨s', hs', hcode', ?_⟩
    simpa using hagrees

end Pygpgme.Library.LockMachine
