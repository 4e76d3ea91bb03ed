import Pygpgme.Library.LockRuns

/-!
# Watching a run, and code that an environment supplies

`watch` runs the machine with a ghost beside it that notes every executed step.
The ghost decides nothing (`watch_state`), so what it has noted at a state is a
fact about the run that led there. `State.prepend` gives a thread more code to
run first, as a library does that calls back into its caller.
-/

set_option autoImplicit false

namespace Pygpgme.Library.LockMachine
open Pygpgme.Library.Transition

structure Watched (Tid α σ γ : Type) where
  state : State Tid α σ
  ghost : γ

variable {Tid α σ γ β : Type} [DecidableEq Tid]

/-- Thread `t` takes its next step; the ghost sees the step and the data before it. -/
def watch (note : Tid → Instr α → σ → γ → γ) (sem : Tid → α → σ → σ)
    (w : Watched Tid α σ γ) (t : Tid) : Option (Watched Tid α σ γ) :=
  match w.state.code t with
  | [] => none
  | i :: _ => (step sem w.state t).map fun s => ⟨s, note t i w.state.data w.ghost⟩

/-- Without its ghost a watched step is a step of the machine, and every step of
the machine is one. -/
theorem watch_state (note : Tid → Instr α → σ → γ → γ) (sem : Tid → α → σ → σ)
    (w : Watched Tid α σ γ) (t : Tid) :
    (watch note sem w t).map Watched.state = step sem w.state t := by
  unfold watch
  split
  next finished => simp [step, finished]
  next i rest hcode =>
    rw [Option.map_map]
    exact Option.map_id'

/-- `Tracks.step` for a watched step. -/
theorem Tracks.watched {nested : Bool} {m : Monitor α β} {v : Tid → View} {b : Tid → β}
    {note : Tid → Instr α → σ → γ → γ} {sem : Tid → α → σ → σ} {w w' : Watched Tid α σ γ}
    (h : Tracks nested m v b w.state) {t : Tid} (taken : watch note sem w t = some w') :
    ∃ i v', (v t).next i = some v' ∧ m.ok (v t) (b t) i ∧
      w'.state.data = dataAfter sem t i w.state.data ∧
      w'.ghost = note t i w.state.data w.ghost ∧
      Tracks nested m (Function.update v t v') (Function.update b t (m.next (b t) i))
        w'.state := by
  unfold watch at taken
  split at taken
  · cases taken
  next i rest hcode =>
    obtain ⟨s, stepped, rfl⟩ := Option.map_eq_some_iff.mp taken
    obtain ⟨j, rest', v', hcode', allowed, ok, _, data, tracks⟩ := h.step stepped
    rw [hcode, List.cons.injEq] at hcode'
    obtain ⟨rfl, rfl⟩ := hcode'
    exact ⟨i, v', allowed, ok, data, rfl, tracks⟩

def State.prepend (s : State Tid α σ) (t : Tid) (pre : List (Instr α)) : State Tid α σ :=
  { s with code := Function.update s.code t (pre ++ s.code t) }

/-- Code that leads back to where the thread stands may be run first; the
monitor may be told that it will be. -/
theorem Tracks.prepend {nested : Bool} {m : Monitor α β} {v : Tid → View} {b : Tid → β}
    {s : State Tid α σ} (h : Tracks nested m v b s) {t : Tid} {told : β}
    {pre : List (Instr α)} (returns : m.Passes (v t) told pre (v t) (b t)) :
    Tracks nested m v (Function.update b t told) (s.prepend t pre) := by
  refine ⟨?_, fun u => ?_, fun u => ?_⟩
  · have agrees := h.agrees
    exact ⟨agrees.gil, agrees.attached, agrees.saved, agrees.mutex.congr rfl rfl rfl⟩
  · by_cases e : u = t
    · subst e
      simpa [State.prepend] using Follows.append returns.run (h.follows u)
    · simpa [State.prepend, e] using h.follows u
  · by_cases e : u = t
    · subst e
      simpa [State.prepend] using returns.then (h.along u)
    · simpa [State.prepend, e] using h.along u

end Pygpgme.Library.LockMachine
