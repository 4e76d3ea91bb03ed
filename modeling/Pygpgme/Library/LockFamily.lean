import Mathlib.Data.Fintype.Card
import Mathlib.Order.WellFounded
import Pygpgme.Library.LockRuns

/-!
# Many mutexes under one interpreter lock

The interpreter lock and the threads' saved thread states are shared; a mutex, its
published thread state and the data it guards come once for each index. A step is
a step of the machine with one mutex, at one index, so `State.seen` forgets the
other mutexes: what a thread does there is nothing, up to its thread state.

`seen_reachable`: what is seen of a run at one index is a run of the machine with
one mutex. So every guarantee for one mutex holds of each of many.
`Ordered.progress`: code that takes mutexes in an order does not deadlock.
-/

set_option autoImplicit false

namespace Pygpgme.Library.LockFamily
open Pygpgme.Library.Transition Pygpgme.Library.LockMachine

structure Step (C α : Type) where
  index : C
  instr : Instr α
  deriving DecidableEq, Repr

/-- Thread states are the same at every index. -/
def everywhere {α : Type} : Instr α → Bool
  | .saveThread | .restoreThread => true
  | _ => false

/-- What belongs to one mutex. -/
structure Part (Tid σ : Type) where
  locked : Bool
  holding : Tid → Option Path
  tstate : Option Tid
  data : σ

structure State (C Tid α σ : Type) where
  gil : Option (Tid × Tid)
  saved : Tid → Option Tid
  part : C → Part Tid σ
  code : Tid → List (Step C α)

variable {C Tid α σ : Type} [DecidableEq C]

/-- The steps of some code that index `c` can tell from nothing. -/
def seenCode (c : C) (code : List (Step C α)) : List (Instr α) :=
  (code.filter fun i => everywhere i.instr || i.index = c).map Step.instr

/-- The state as the machine with the one mutex `c` has it. -/
def State.seen (s : State C Tid α σ) (c : C) : LockMachine.State Tid α σ where
  gil := s.gil
  locked := (s.part c).locked
  holding := (s.part c).holding
  tstate := (s.part c).tstate
  saved := s.saved
  code := fun t => seenCode c (s.code t)
  data := (s.part c).data

/-- What a step at `c` made of that state. -/
def State.put (s : State C Tid α σ) (c : C) (m : LockMachine.State Tid α σ) :
    State C Tid α σ where
  gil := m.gil
  saved := m.saved
  part := Function.update s.part c ⟨m.locked, m.holding, m.tstate, m.data⟩
  code := s.code

variable [DecidableEq Tid]

def exec (sem : Tid → α → σ → σ) (s : State C Tid α σ) (t : Tid) (i : Step C α) :
    Option (State C Tid α σ) :=
  (LockMachine.exec sem (s.seen i.index) t i.instr).map (s.put i.index)

/-- Thread `t` takes the next step of its code. -/
def step (sem : Tid → α → σ → σ) (s : State C Tid α σ) (t : Tid) : Option (State C Tid α σ) :=
  match s.code t with
  | [] => none
  | i :: rest =>
    (exec sem s t i).map fun s' => { s' with code := Function.update s.code t rest }

omit [DecidableEq C] [DecidableEq Tid] in
/-- Nobody holds a lock; every thread is detached with its own thread state at hand. -/
def start (code : Tid → List (Step C α)) (data : C → σ) : State C Tid α σ where
  gil := none
  saved := fun t => some t
  part := fun c => ⟨false, fun _ => none, none, data c⟩
  code := code

def machine (sem : Tid → α → σ → σ) (code : Tid → List (Step C α)) (data : C → σ) :
    System (State C Tid α σ) Tid where
  init := fun s => s = start code data
  step := step sem

/-- What one step of the machine is, guards included. -/
theorem step_cases {sem : Tid → α → σ → σ} {s s' : State C Tid α σ} {t : Tid}
    (h : step sem s t = some s') :
    ∃ i rest next, s.code t = i :: rest ∧ exec sem s t i = some next ∧
      s' = { next with code := Function.update s.code t rest } := by
  unfold step at h
  split at h
  · cases h
  next i rest hcode =>
    obtain ⟨next, hexec, rfl⟩ := Option.map_eq_some_iff.mp h
    exact ⟨i, rest, next, hcode, hexec, rfl⟩

/-! ## What one index sees of a step -/

variable {sem : Tid → α → σ → σ}

/-- Whether index `c` can tell a step from nothing. -/
def Step.sees (i : Step C α) (c : C) : Prop := everywhere i.instr = true ∨ i.index = c

omit [DecidableEq Tid] in
theorem seenCode_cons_of_sees {c : C} {i : Step C α} (sees : i.sees c)
    (rest : List (Step C α)) : seenCode c (i :: rest) = i.instr :: seenCode c rest := by
  have kept : (everywhere i.instr || decide (i.index = c)) = true := by
    simpa [Step.sees] using sees
  simp [seenCode, kept]

theorem seenCode_cons_of_not_sees {c : C} {i : Step C α} (blind : ¬ i.sees c)
    (rest : List (Step C α)) : seenCode c (i :: rest) = seenCode c rest := by
  have dropped : (everywhere i.instr || decide (i.index = c)) = false := by
    simpa [Step.sees] using blind
  simp [seenCode, dropped]

theorem seenCode_append (c : C) (pre post : List (Step C α)) :
    seenCode c (pre ++ post) = seenCode c pre ++ seenCode c post := by
  simp [seenCode]

theorem seen_update_code (s next : State C Tid α σ) (c : C) (t : Tid) (rest : List (Step C α)) :
    ({ next with code := Function.update s.code t rest } : State C Tid α σ).seen c =
      { next.seen c with code := Function.update (s.seen c).code t (seenCode c rest) } := by
  have code : (fun u => seenCode c (Function.update s.code t rest u)) =
      Function.update (fun u => seenCode c (s.code u)) t (seenCode c rest) := by
    funext u
    by_cases e : u = t <;> simp [e]
  simp [State.seen, code]

theorem exec_seen {s s' : State C Tid α σ} {t : Tid} {i : Step C α} {c : C} (sees : i.sees c)
    (taken : exec sem s t i = some s') :
    LockMachine.exec sem (s.seen c) t i.instr = some (s'.seen c) := by
  obtain ⟨m, executed, rfl⟩ := Option.map_eq_some_iff.mp taken
  by_cases own : i.index = c
  · subst own
    have code := (exec_code executed).1
    rw [executed]
    cases m
    cases code
    simp [State.seen, State.put]
  · have shared := sees.resolve_right own
    obtain ⟨index, instr⟩ := i
    cases instr with
    | saveThread =>
      simp only [LockMachine.exec, State.seen] at executed ⊢
      split at executed
      · split at executed
        · cases executed
          simp_all [State.put]
        · cases executed
      · cases executed
    | restoreThread =>
      simp only [LockMachine.exec, State.seen] at executed ⊢
      split at executed
      · cases executed
        simp_all [State.put]
      · cases executed
    | _ => simp [everywhere] at shared

omit [DecidableEq C] in
/-- Steps on a mutex and on data leave all thread states alone, but for a load. -/
theorem exec_thread_states {m m' : LockMachine.State Tid α σ} {t : Tid} {i : Instr α}
    (quiet : everywhere i = false) (other : i ≠ .loadState)
    (taken : LockMachine.exec sem m t i = some m') : m'.gil = m.gil ∧ m'.saved = m.saved := by
  cases i <;> simp only [LockMachine.exec, Option.ite_none_left_eq_some,
    Option.ite_none_right_eq_some, Option.some.injEq] at taken
  case saveThread => simp [everywhere] at quiet
  case restoreThread => simp [everywhere] at quiet
  case loadState => exact absurd rfl other
  case acquire path => exact taken.2 ▸ ⟨rfl, rfl⟩
  case release => exact taken.2 ▸ ⟨rfl, rfl⟩
  case assertState set => exact taken.2 ▸ ⟨rfl, rfl⟩
  all_goals exact taken ▸ ⟨rfl, rfl⟩

/-- A published thread state is that of the thread that takes it back. -/
def Owned (s : State C Tid α σ) (t : Tid) (i : Step C α) : Prop :=
  i.instr = .loadState → (s.part i.index).tstate = s.saved t

theorem exec_unseen {s s' : State C Tid α σ} {t : Tid} {i : Step C α} {c : C}
    (blind : ¬ i.sees c) (owned : Owned s t i) (taken : exec sem s t i = some s') :
    s'.seen c = s.seen c := by
  obtain ⟨m, executed, rfl⟩ := Option.map_eq_some_iff.mp taken
  obtain ⟨index, instr⟩ := i
  obtain ⟨quiet, other⟩ := not_or.mp blind
  have same : m.gil = s.gil ∧ m.saved = s.saved := by
    by_cases load : instr = .loadState
    · subst load
      cases executed
      have own : (s.part index).tstate = s.saved t := owned rfl
      simp [State.seen, own]
    · exact exec_thread_states (by simpa using quiet) load executed
  simp [State.seen, State.put, same, Ne.symm other]

theorem step_seen {s s' : State C Tid α σ} {t : Tid} {i : Step C α} {rest : List (Step C α)}
    (hcode : s.code t = i :: rest) {c : C} (sees : i.sees c) (taken : step sem s t = some s') :
    LockMachine.step sem (s.seen c) t = some (s'.seen c) := by
  obtain ⟨j, rest', next, hcode', executed, rfl⟩ := step_cases taken
  rw [hcode, List.cons.injEq] at hcode'
  obtain ⟨rfl, rfl⟩ := hcode'
  have here : (s.seen c).code t = i.instr :: seenCode c rest := by
    simp [State.seen, hcode, seenCode_cons_of_sees sees]
  rw [seen_update_code]
  simp only [LockMachine.step, here, exec_seen sees executed, Option.map_some]

theorem step_unseen {s s' : State C Tid α σ} {t : Tid} {i : Step C α} {rest : List (Step C α)}
    (hcode : s.code t = i :: rest) {c : C} (blind : ¬ i.sees c) (owned : Owned s t i)
    (taken : step sem s t = some s') : s'.seen c = s.seen c := by
  obtain ⟨j, rest', next, hcode', executed, rfl⟩ := step_cases taken
  rw [hcode, List.cons.injEq] at hcode'
  obtain ⟨rfl, rfl⟩ := hcode'
  have unchanged : Function.update (s.seen c).code t (seenCode c rest) = (s.seen c).code := by
    rw [← seenCode_cons_of_not_sees blind, ← hcode]
    exact Function.update_eq_self t _
  rw [seen_update_code, unchanged, exec_unseen blind owned executed]

/-! ## Runs -/

/-- At every index the run is one of the machine with one mutex. -/
structure Alone (sem : Tid → α → σ → σ) (code : Tid → List (Step C α)) (data : C → σ)
    (s : State C Tid α σ) : Prop where
  seen : ∀ c, Reachable (LockMachine.machine sem (fun t => seenCode c (code t)) (data c)) (s.seen c)
  saved : ∀ t, s.saved t = some t

theorem Alone.tracks {code : Tid → List (Step C α)} {data : C → σ} {nested : Bool}
    (follows : ∀ c t, Follows nested View.idle (seenCode c (code t))) {s : State C Tid α σ}
    (alone : Alone sem code data s) (c : C) :
    ∃ v bs, Tracks nested Monitor.blank v bs (s.seen c) :=
  Tracks.reach (follows c) (fun _ => Monitor.blank_along _ _) (alone.seen c)

/-- What a thread saves, and what it takes back, is its own thread state. -/
theorem saved_kept {v : View} {view : Tid → View} {m m' : LockMachine.State Tid α σ} {t : Tid}
    {i : Instr α} (agrees : Agrees view m) (allowed : (view t).next i = some v)
    (taken : LockMachine.exec sem m t i = some m') (saved : ∀ u, m.saved u = some u) :
    ∀ u, m'.saved u = some u := by
  have own : m'.saved = m.saved ∨ m'.saved = Function.update m.saved t (some t) := by
    cases i with
    | saveThread =>
      simp only [View.next, Option.ite_none_right_eq_some] at allowed
      simp only [LockMachine.exec, (agrees.gil t).mp allowed.1, if_true, Option.some.injEq] at taken
      exact .inr (taken ▸ rfl)
    | loadState =>
      simp only [View.next, Option.ite_none_right_eq_some] at allowed
      cases taken
      exact .inr (by rw [(agrees.mutex.tstate t).mpr allowed.1])
    | restoreThread =>
      simp only [LockMachine.exec] at taken
      split at taken
      · exact .inl (Option.some.inj taken ▸ rfl)
      · cases taken
    | _ => exact .inl (exec_thread_states rfl (by simp) taken).2
  intro u
  rcases own with same | same
  · rw [same, saved]
  · by_cases e : u = t <;> simp [same, e, saved]

theorem Alone.step {code : Tid → List (Step C α)} {data : C → σ}
    (follows : ∀ c t, Follows true View.idle (seenCode c (code t))) {s s' : State C Tid α σ}
    (alone : Alone sem code data s) {t : Tid} (taken : step sem s t = some s') :
    Alone sem code data s' := by
  obtain ⟨i, rest, next, hcode, executed, next_eq⟩ := step_cases taken
  have own : i.sees i.index := .inr rfl
  obtain ⟨v, bs, tracks⟩ := alone.tracks follows i.index
  obtain ⟨j, rest', v', hcode', allowed, -⟩ := tracks.step (step_seen hcode own taken)
  obtain ⟨rfl, -⟩ : i.instr = j ∧ seenCode i.index rest = rest' := by
    simpa [State.seen, hcode, seenCode_cons_of_sees own] using hcode'
  have owned : Owned s t i := by
    intro load
    simp only [load, View.next, Option.ite_none_right_eq_some] at allowed
    exact ((tracks.agrees.mutex.tstate t).mpr allowed.1).trans (alone.saved t).symm
  refine ⟨fun c => ?_, ?_⟩
  · by_cases sees : i.sees c
    · exact .step t (alone.seen c) trivial (step_seen hcode sees taken)
    · rw [step_unseen hcode sees owned taken]
      exact alone.seen c
  · have kept := saved_kept tracks.agrees allowed (exec_seen own executed) alone.saved
    rw [next_eq]
    exact kept

/-- What is seen of a run at one index is a run with that one mutex, as long as
the code follows the lock discipline at each. -/
theorem seen_reachable {code : Tid → List (Step C α)} {data : C → σ}
    (follows : ∀ c t, Follows true View.idle (seenCode c (code t))) {s : State C Tid α σ}
    (reached : Reachable (machine sem code data) s) : Alone sem code data s := by
  induction reached with
  | init started =>
    cases started
    exact ⟨fun c => .init rfl, fun t => rfl⟩
  | step t _ _ taken ih => exact ih.step follows taken

/-! ## Taking mutexes in order -/

/-- The mutexes a thread has after a step, given those before it. -/
def heldAfter (held : List C) (i : Step C α) : List C :=
  match i.instr with
  | .acquire _ => i.index :: held
  | .release => held.erase i.index
  | _ => held

theorem heldAfter_release (c : C) (held : List C) :
    heldAfter (c :: held) (⟨c, .release⟩ : Step C α) = held :=
  List.erase_cons_head ..

/-- A thread that has the mutexes `held` takes another one below all of them only. -/
def Ordered (below : C → C → Prop) : List C → List (Step C α) → Prop
  | _, [] => True
  | held, i :: rest =>
    (∀ path, i.instr = .acquire path → ∀ c ∈ held, below c i.index) ∧
      Ordered below (heldAfter held i) rest

structure InOrder (below : C → C → Prop) (held : Tid → List C) (s : State C Tid α σ) :
    Prop where
  listed : ∀ t c, (s.part c).holding t ≠ none → c ∈ held t
  ordered : ∀ t, Ordered below (held t) (s.code t)

/-- Only its own `acquire` and `release` change what a thread holds. -/
def holdingAfter (holding : Tid → Option Path) (t : Tid) : Instr α → Tid → Option Path
  | .acquire path => Function.update holding t (some path)
  | .release => Function.update holding t none
  | _ => holding

omit [DecidableEq C] in
theorem exec_holding {m m' : LockMachine.State Tid α σ} {t : Tid} {i : Instr α}
    (taken : LockMachine.exec sem m t i = some m') : m'.holding = holdingAfter m.holding t i := by
  by_cases shared : everywhere i = true
  · cases i with
    | saveThread =>
      simp only [LockMachine.exec] at taken
      split at taken
      · split at taken
        · exact Option.some.inj taken ▸ rfl
        · cases taken
      · cases taken
    | restoreThread =>
      simp only [LockMachine.exec] at taken
      split at taken
      · exact Option.some.inj taken ▸ rfl
      · cases taken
    | _ => cases shared
  · cases i <;> simp only [LockMachine.exec, Option.ite_none_left_eq_some,
      Option.ite_none_right_eq_some, Option.some.injEq] at taken
    case saveThread => simp [everywhere] at shared
    case restoreThread => simp [everywhere] at shared
    case acquire path => exact taken.2 ▸ rfl
    case release => exact taken.2 ▸ rfl
    case assertState set => exact taken.2 ▸ rfl
    all_goals exact taken ▸ rfl

theorem InOrder.listed_after {below : C → C → Prop} {held : Tid → List C} {s s' : State C Tid α σ}
    (h : InOrder below held s) {t : Tid} {i : Step C α} (taken : exec sem s t i = some s') :
    ∀ u c, (s'.part c).holding u ≠ none →
      c ∈ Function.update held t (heldAfter (held t) i) u := by
  obtain ⟨m, executed, rfl⟩ := Option.map_eq_some_iff.mp taken
  have holding := exec_holding executed
  obtain ⟨index, instr⟩ := i
  intro u c holds
  by_cases other : c = index
  · subst other
    have after : holdingAfter (s.part c).holding t instr u ≠ none := by
      simpa [State.put, State.seen, holding] using holds
    by_cases mine : u = t
    · subst mine
      rw [Function.update_self]
      cases instr with
      | acquire path => exact List.mem_cons_self
      | release => simp [holdingAfter] at after
      | _ => exact h.listed u c after
    · have before : (s.part c).holding u ≠ none := by
        cases instr <;> simpa [holdingAfter, mine] using after
      simpa [mine] using h.listed u c before
  · have before : (s.part c).holding u ≠ none := by
      simpa [State.put, other] using holds
    by_cases mine : u = t
    · subst mine
      have listed := h.listed u c before
      rw [Function.update_self]
      cases instr with
      | acquire path => exact List.mem_cons_of_mem _ listed
      | release => exact (List.mem_erase_of_ne other).mpr listed
      | _ => exact listed
    · simpa [mine] using h.listed u c before

theorem InOrder.step {below : C → C → Prop} {held : Tid → List C} {s s' : State C Tid α σ}
    (h : InOrder below held s) {t : Tid} (taken : step sem s t = some s') :
    ∃ held', InOrder below held' s' := by
  obtain ⟨i, rest, next, hcode, executed, rfl⟩ := step_cases taken
  have listed := h.listed_after executed
  refine ⟨Function.update held t (heldAfter (held t) i), listed, fun u => ?_⟩
  by_cases mine : u = t
  · subst mine
    have ordered := h.ordered u
    rw [hcode] at ordered
    simpa using ordered.2
  · simpa [mine] using h.ordered u

/-- A thread is about to take mutex `c`. -/
def Wants (s : State C Tid α σ) (t : Tid) (c : C) : Prop :=
  ∃ path rest, s.code t = ⟨c, .acquire path⟩ :: rest

omit [DecidableEq C] [DecidableEq Tid] in
theorem Wants.unique {s : State C Tid α σ} {t : Tid} {c d : C} (first : Wants s t c)
    (second : Wants s t d) : c = d := by
  obtain ⟨p, rest, hcode⟩ := first
  obtain ⟨q, rest', hcode'⟩ := second
  rw [hcode, List.cons.injEq] at hcode'
  exact congrArg Step.index hcode'.1

/-- A thread that does not wait for a lock moves. -/
theorem moves {s : State C Tid α σ} {t : Tid} {i : Step C α} {rest : List (Step C α)}
    (hcode : s.code t = i :: rest) {view : Tid → View} (agrees : Agrees view (s.seen i.index))
    {v : View} (allowed : (view t).next i.instr = some v)
    (gil : i.instr = .restoreThread → s.gil = none)
    (mutex : ∀ path, i.instr = .acquire path → (s.part i.index).locked = false) :
    ∃ t s', step sem s t = some s' := by
  obtain ⟨m, executed⟩ := agrees.exec_enabled sem allowed gil mutex
  refine ⟨t, { s.put i.index m with code := Function.update s.code t rest }, ?_⟩
  simp [step, hcode, exec, executed]

omit [DecidableEq C] [DecidableEq Tid] in
/-- Finitely many threads cannot each wait for a thread that wants something below. -/
theorem waits_end [Finite Tid] (below : C → C → Prop) [IsTrans C below] [Std.Irrefl below]
    (waits : Tid → C → Prop) (unique : ∀ t c d, waits t c → waits t d → c = d)
    (further : ∀ t c, waits t c → ∃ u d, waits u d ∧ below c d) (t : Tid) (c : C) :
    ¬ waits t c := by
  let after : Tid → Tid → Prop := fun u t => ∃ c d, waits t c ∧ waits u d ∧ below c d
  have trans : IsTrans Tid after := by
    constructor
    rintro x y z ⟨c, d, wy, wx, first⟩ ⟨c', d', wz, wy', second⟩
    rw [unique y d' c wy' wy] at second
    exact ⟨c', d, wz, wx, IsTrans.trans _ _ _ second first⟩
  have irrefl : Std.Irrefl after := by
    constructor
    rintro x ⟨c, d, wc, wd, down⟩
    rw [unique x d c wd wc] at down
    exact Std.Irrefl.irrefl c down
  intro waiting
  obtain ⟨least, ⟨d, wants⟩, minimal⟩ :=
    (Finite.wellFounded_of_trans_of_irrefl after).has_min {t | ∃ c, waits t c} ⟨t, c, waiting⟩
  obtain ⟨u, e, wantsToo, down⟩ := further least d wants
  exact minimal u ⟨e, wantsToo⟩ ⟨d, e, wants, wantsToo, down⟩

/-- Where all threads stand: with each mutex as the discipline has it, and in order. -/
structure Standing (below : C → C → Prop) (view : C → Tid → View) (held : Tid → List C)
    (s : State C Tid α σ) : Prop where
  agrees : ∀ c, Agrees (view c) (s.seen c)
  follows : ∀ c t, Follows true (view c t) (seenCode c (s.code t))
  order : InOrder below held s

namespace Standing

variable {below : C → C → Prop} {view : C → Tid → View} {held : Tid → List C}
  {s : State C Tid α σ} (h : Standing below view held s)

include h

omit [DecidableEq Tid] in
theorem listed {c : C} {t : Tid} (hold : (view c t).hold ≠ .free) : c ∈ held t := by
  refine h.order.listed t c fun none => hold ((Hold.path_eq_none _).mp ?_)
  exact ((h.agrees c).mutex.holding t).symm.trans none

omit [DecidableEq Tid] in
theorem unfinished {c : C} {t : Tid} (busy : (view c t).gil = true ∨ (view c t).hold ≠ .free) :
    s.code t ≠ [] := by
  intro empty
  have done := h.follows c t
  simp only [empty, seenCode, List.filter_nil, List.map_nil, Follows] at done
  rcases busy with gil | hold
  · simp [done.1] at gil
  · exact hold done.2

omit [DecidableEq Tid] in
/-- The next step is allowed: nobody takes a mutex twice. -/
theorem head [Std.Irrefl below] {t : Tid} (unfinished : s.code t ≠ []) :
    ∃ i rest v, s.code t = i :: rest ∧ (view i.index t).next i.instr = some v := by
  obtain ⟨i, rest, hcode⟩ := List.exists_cons_of_ne_nil unfinished
  have follows := h.follows i.index t
  have ordered := h.order.ordered t
  simp only [hcode, seenCode_cons_of_sees (.inr rfl : i.sees i.index), Follows] at follows
  cases allowed : (view i.index t).next i.instr with
  | some v => exact ⟨i, rest, v, hcode, allowed⟩
  | none =>
    simp only [allowed] at follows
    obtain ⟨-, blocks⟩ := follows
    obtain ⟨path, acquire⟩ : ∃ path, i.instr = .acquire path := by
      cases instr : i.instr <;> simp_all [View.BlocksItself]
    rw [acquire] at blocks
    rw [hcode] at ordered
    exact absurd (ordered.1 path acquire _ (h.listed blocks)) (Std.Irrefl.irrefl _)

theorem gil_free [Std.Irrefl below] (stuck : ¬ ∃ t s', LockFamily.step sem s t = some s')
    (left : ∃ t, s.code t ≠ []) : s.gil = none := by
  by_contra held
  obtain ⟨t, nonempty⟩ := left
  obtain ⟨i, -⟩ := List.exists_cons_of_ne_nil nonempty
  obtain ⟨u, gil⟩ := (h.agrees i.index).gil_holder held
  obtain ⟨j, rest, v, hcode, allowed⟩ := h.head (h.unfinished (.inl gil))
  have here : (view j.index u).gil = true :=
    ((h.agrees j.index).gil u).mpr (((h.agrees i.index).gil u).mp gil)
  refine stuck (moves hcode (h.agrees j.index) allowed ?_ ?_)
  · intro restore
    simp [restore, View.next, here] at allowed
  · intro path acquire
    simp [acquire, View.next, here] at allowed

/-- Where nobody moves, everybody wants a mutex that is taken. -/
theorem waits [Std.Irrefl below] (stuck : ¬ ∃ t s', LockFamily.step sem s t = some s') {t : Tid}
    (unfinished : s.code t ≠ []) : ∃ c, Wants s t c ∧ (s.part c).locked = true := by
  obtain ⟨i, rest, v, hcode, allowed⟩ := h.head unfinished
  by_contra free
  refine stuck (moves hcode (h.agrees i.index) allowed (fun _ => ?_) fun path acquire => ?_)
  · exact h.gil_free stuck ⟨t, unfinished⟩
  · by_contra locked
    refine free ⟨i.index, ⟨path, rest, ?_⟩, by simpa using locked⟩
    rw [hcode, ← acquire]

/-- Code that takes its mutexes in an order does not deadlock: whom a thread waits
for wants, if it waits too, a mutex further down. -/
theorem progress [Finite Tid] [IsTrans C below] [Std.Irrefl below]
    (left : ∃ t, s.code t ≠ []) : ∃ t s', LockFamily.step sem s t = some s' := by
  by_contra stuck
  obtain ⟨t, nonempty⟩ := left
  obtain ⟨c, waiting⟩ := h.waits stuck nonempty
  refine waits_end below (fun t c => Wants s t c ∧ (s.part c).locked = true)
    (fun t c d first second => first.1.unique second.1) ?_ t c waiting
  rintro t c ⟨-, locked⟩
  obtain ⟨u, hold⟩ := (h.agrees c).mutex.locked.mp locked
  obtain ⟨d, wants, taken⟩ := h.waits stuck (h.unfinished (.inr hold))
  refine ⟨u, d, ⟨wants, taken⟩, ?_⟩
  obtain ⟨path, rest, hcode⟩ := wants
  have ordered := h.order.ordered u
  rw [hcode] at ordered
  exact ordered.1 path rfl c (h.listed hold)

end Standing

/-- Code that follows the discipline at each mutex and takes them in order stands
that way at every state of every run. -/
theorem standing_of_reach {below : C → C → Prop} {code : Tid → List (Step C α)} {data : C → σ}
    (follows : ∀ c t, Follows true View.idle (seenCode c (code t)))
    (ordered : ∀ t, Ordered below [] (code t)) {s : State C Tid α σ}
    (reached : Reachable (machine sem code data) s) :
    ∃ view held, Standing below view held s := by
  have tracks := (seen_reachable follows reached).tracks follows
  have order : ∃ held, InOrder below held s := by
    clear tracks
    induction reached with
    | init started =>
      cases started
      exact ⟨fun _ => [], fun t c holds => absurd rfl holds, ordered⟩
    | step t _ _ taken ih =>
      obtain ⟨held, order⟩ := ih
      exact order.step taken
  choose view bs tracks using tracks
  obtain ⟨held, order⟩ := order
  exact ⟨view, held, fun c => (tracks c).agrees, fun c t => (tracks c).follows t, order⟩

end Pygpgme.Library.LockFamily
