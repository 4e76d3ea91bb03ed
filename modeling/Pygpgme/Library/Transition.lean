import Mathlib.Logic.Function.Basic

/-!
# Deterministic labelled systems and their runs

A system takes a label (a scheduled thread, a call of the environment) to at
most one successor. `Reach` collects the states of the runs all of whose steps
meet a condition, so a guarantee that holds only under a condition on the steps
and one that holds unconditionally are stated with the same relation.
-/

set_option autoImplicit false

namespace Pygpgme.Library.Transition

structure System (σ ℓ : Type) where
  init : σ → Prop
  step : σ → ℓ → Option σ

variable {σ ℓ : Type} {sys : System σ ℓ}

/-- The states of every run whose steps all meet `cond` before they are taken. -/
inductive Reach (sys : System σ ℓ) (cond : σ → ℓ → Prop) : σ → Prop
  | init {s : σ} (start : sys.init s) : Reach sys cond s
  | step {s s' : σ} (l : ℓ) (before : Reach sys cond s) (met : cond s l)
      (taken : sys.step s l = some s') : Reach sys cond s'

/-- No condition: the reachable states in the usual sense. -/
abbrev Reachable (sys : System σ ℓ) : σ → Prop := Reach sys (fun _ _ => True)

/-- What holds initially and survives every step that meets the condition holds
at every state of every such run. -/
theorem Reach.invariant {cond : σ → ℓ → Prop} {inv : σ → Prop}
    (start : ∀ s, sys.init s → inv s)
    (preserved : ∀ s l s', inv s → cond s l → sys.step s l = some s' → inv s')
    {s : σ} (reached : Reach sys cond s) : inv s := by
  induction reached with
  | init h => exact start _ h
  | step l _ met taken ih => exact preserved _ l _ ih met taken

/-- A stronger condition on the steps reaches fewer states. -/
theorem Reach.mono {cond weaker : σ → ℓ → Prop} (h : ∀ s l, cond s l → weaker s l)
    {s : σ} (reached : Reach sys cond s) : Reach sys weaker s := by
  induction reached with
  | init start => exact .init start
  | step l _ met taken ih => exact .step l ih (h _ _ met) taken

theorem Reach.reachable {cond : σ → ℓ → Prop} {s : σ} (reached : Reach sys cond s) :
    Reachable sys s :=
  reached.mono fun _ _ _ => trivial

/-- Execute a schedule; `none` when one of its labels is not enabled. -/
def run (sys : System σ ℓ) : σ → List ℓ → Option σ
  | s, [] => some s
  | s, l :: rest => (sys.step s l).bind fun s' => run sys s' rest

theorem Reachable.of_run (labels : List ℓ) {s s' : σ} (reached : Reachable sys s)
    (executed : run sys s labels = some s') : Reachable sys s' := by
  induction labels generalizing s with
  | nil =>
    simp only [run, Option.some.injEq] at executed
    exact executed ▸ reached
  | cons l rest ih =>
    simp only [run, Option.bind_eq_some_iff] at executed
    obtain ⟨next, taken, continued⟩ := executed
    exact ih (.step l reached trivial taken) continued

/-- A decidable condition checked along a schedule. -/
def runIf (sys : System σ ℓ) (ok : σ → ℓ → Bool) : σ → List ℓ → Option σ
  | s, [] => some s
  | s, l :: rest =>
    if ok s l then (sys.step s l).bind fun s' => runIf sys ok s' rest else none

theorem Reach.of_runIf {cond : σ → ℓ → Prop} {ok : σ → ℓ → Bool}
    (sound : ∀ s l, ok s l = true → cond s l) (labels : List ℓ) {s s' : σ}
    (reached : Reach sys cond s) (executed : runIf sys ok s labels = some s') :
    Reach sys cond s' := by
  induction labels generalizing s with
  | nil =>
    simp only [runIf, Option.some.injEq] at executed
    exact executed ▸ reached
  | cons l rest ih =>
    simp only [runIf] at executed
    split at executed
    next checked =>
      obtain ⟨next, taken, continued⟩ := Option.bind_eq_some_iff.mp executed
      exact ih (.step l reached (sound _ _ checked) taken) continued
    · cases executed

end Pygpgme.Library.Transition
