import Pygpgme.Library.Transition

/-!
# Threads under an interpreter lock that share one mutex

Each thread runs a list of C-level steps. An attached thread state is required
to run interpreter code, so the interpreter lock (GIL) records which operating
system thread holds it and which thread state is attached. The mutex is the
plain, non-recursive kind: it does not record its owner, so `holding` is a
ghost that remembers which thread took it, and on which path. A shared slot
`tstate` publishes the thread state of a `blocking` owner.

`act` carries the steps that touch other shared data; their meaning is the
parameter `sem`, so that one treatment of the two locks serves every use.
-/

set_option autoImplicit false

namespace Pygpgme.Library.LockMachine
open Pygpgme.Library.Transition

/-- `blocking` owners publish their thread state while they hold the mutex and
run without the interpreter lock; `plain` owners take the interpreter lock back. -/
inductive Path where
  | blocking | plain
  deriving DecidableEq, Repr

inductive Instr (α : Type) where
  | saveThread
  | restoreThread
  | acquire (path : Path)
  | release
  | loadState
  | storeState
  | clearState
  | assertState (set : Bool)
  | act (a : α)
  deriving DecidableEq, Repr

structure State (Tid α σ : Type) where
  /-- Operating system thread that holds the interpreter lock, and its attached thread state. -/
  gil : Option (Tid × Tid)
  locked : Bool
  /-- Ghost: the path on which each thread took the mutex it has not yet released. -/
  holding : Tid → Option Path
  tstate : Option Tid
  /-- The local variable that receives a detached thread state. -/
  saved : Tid → Option Tid
  code : Tid → List (Instr α)
  data : σ

variable {Tid α σ : Type} [DecidableEq Tid]

/-- Effect of one step. `none` when the thread has to wait, aborts on a failed
assertion, or the interpreter gives the step no meaning. -/
def exec (sem : Tid → α → σ → σ) (s : State Tid α σ) (t : Tid) :
    Instr α → Option (State Tid α σ)
  | .saveThread =>
    match s.gil with
    | some (owner, attached) =>
      if owner = t then
        some { s with gil := none, saved := Function.update s.saved t (some attached) }
      else none
    | none => none
  | .restoreThread =>
    match s.gil, s.saved t with
    | none, some attached => some { s with gil := some (t, attached) }
    | _, _ => none
  | .acquire path =>
    if s.locked then none
    else some { s with locked := true, holding := Function.update s.holding t (some path) }
  | .release =>
    if s.locked then
      some { s with locked := false, holding := Function.update s.holding t none }
    else none
  | .loadState => some { s with saved := Function.update s.saved t s.tstate }
  | .storeState => some { s with tstate := s.saved t }
  | .clearState => some { s with tstate := none }
  | .assertState set => if s.tstate.isSome = set then some s else none
  | .act a => some { s with data := sem t a s.data }

/-- Thread `t` takes the next step of its code. -/
def step (sem : Tid → α → σ → σ) (s : State Tid α σ) (t : Tid) : Option (State Tid α σ) :=
  match s.code t with
  | [] => none
  | i :: rest =>
    (exec sem s t i).map fun s' => { s' with code := Function.update s.code t rest }

/-- Nobody holds a lock; every thread is detached with its own thread state at hand. -/
def start (code : Tid → List (Instr α)) (data : σ) : State Tid α σ where
  gil := none
  locked := false
  holding := fun _ => none
  tstate := none
  saved := fun t => some t
  code := code
  data := data

def machine (sem : Tid → α → σ → σ) (code : Tid → List (Instr α)) (data : σ) :
    System (State Tid α σ) Tid where
  init := fun s => s = start code data
  step := step sem

/-- A thread is about to evaluate an assertion on `tstate` that is false. -/
def AssertFails (s : State Tid α σ) (t : Tid) : Prop :=
  ∃ set rest, s.code t = .assertState set :: rest ∧ s.tstate.isSome ≠ set

/-- A thread waits for the mutex it has itself taken and not released. -/
def WaitsForItself (s : State Tid α σ) (t : Tid) : Prop :=
  (∃ path rest, s.code t = .acquire path :: rest) ∧ s.holding t ≠ none

/-- The data part changes by `act` steps only. -/
def dataAfter (sem : Tid → α → σ → σ) (t : Tid) (i : Instr α) (d : σ) : σ :=
  match i with
  | .act a => sem t a d
  | _ => d

theorem exec_code {sem : Tid → α → σ → σ} {s s' : State Tid α σ} {t : Tid} {i : Instr α}
    (h : exec sem s t i = some s') : s'.code = s.code ∧ s'.data = dataAfter sem t i s.data := by
  cases i <;> simp only [exec] at h
  case saveThread =>
    split at h
    · split at h
      · cases h; exact ⟨rfl, rfl⟩
      · cases h
    · cases h
  case restoreThread =>
    split at h
    · cases h; exact ⟨rfl, rfl⟩
    · cases h
  all_goals
    first
      | (split at h
         · cases h; exact ⟨rfl, rfl⟩
         · cases h)
      | (split at h
         · cases h
         · cases h; exact ⟨rfl, rfl⟩)
      | (cases h; exact ⟨rfl, rfl⟩)

/-- What one step of the machine is, guards included. -/
theorem step_cases {sem : Tid → α → σ → σ} {s s' : State Tid α σ} {t : Tid}
    (h : step sem s t = some s') :
    ∃ i rest next, s.code t = i :: rest ∧ exec sem s t i = some next ∧
      s' = { next with code := Function.update s.code t rest } := by
  unfold step at h
  split at h
  · cases h
  next i rest hcode =>
    obtain ⟨next, hexec, rfl⟩ := Option.map_eq_some_iff.mp h
    exact ⟨i, rest, next, hcode, hexec, rfl⟩

end Pygpgme.Library.LockMachine
