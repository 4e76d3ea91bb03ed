import Pygpgme.Library.LockMachine

/-!
# The lock discipline of a thread and what it guarantees for all threads

A `View` is what the code of one thread may rely on: whether it holds the
interpreter lock, where it stands with the mutex, and whether its local variable
holds its own thread state. `View.next` says which steps a well-behaved thread
may take from a view. Code that follows the discipline on its own keeps the
relation `Agrees` between all views and the shared state under every
interleaving (`Tracks.step`); from it come mutual exclusion, the ownership of
the published thread state, and progress.

A `Monitor` adds a client's own bookkeeping to the same induction.
-/

set_option autoImplicit false

namespace Pygpgme.Library.LockMachine
open Pygpgme.Library.Transition

/-- `taken` owns the mutex without a published thread state, `stored` with one. -/
inductive Hold where
  | free | taken (path : Path) | stored
  deriving DecidableEq, Repr

def Hold.path : Hold → Option Path
  | .free => none
  | .taken path => some path
  | .stored => some .blocking

@[simp] theorem Hold.path_eq_none (h : Hold) : h.path = none ↔ h = .free := by
  cases h <;> simp [Hold.path]

structure View where
  gil : Bool
  hold : Hold
  saved : Bool
  deriving DecidableEq, Repr

/-- Detached and without the mutex, as a thread starts and ends. -/
def View.idle : View := ⟨false, .free, true⟩

variable {Tid α σ β : Type}

/-- The steps the discipline allows, with the view after them. -/
def View.next (v : View) : Instr α → Option View
  | .saveThread => if v.gil then some { v with gil := false, saved := true } else none
  | .restoreThread =>
    if v.gil = false ∧ v.saved = true then some { v with gil := true, saved := false } else none
  | .acquire path =>
    if v.gil = false ∧ v.hold = .free then some { v with hold := .taken path } else none
  | .release =>
    match v.hold with
    | .taken _ => some { v with hold := .free }
    | _ => none
  | .loadState => if v.hold = .stored then some { v with saved := true } else none
  | .storeState =>
    if v.saved = true ∧ v.hold.path = some .blocking then some { v with hold := .stored }
    else none
  | .clearState => if v.hold = .stored then some { v with hold := .taken .blocking } else none
  | .assertState set =>
    match v.hold, set with
    | .stored, true => some v
    | .taken _, false => some v
    | _, _ => none
  | .act _ => some v

/-- Only `release` gives the mutex away. -/
theorem View.next_keeps_hold {v v' : View} {i : Instr α} (allowed : v.next i = some v')
    (kept : i ≠ .release) (held : v.hold ≠ .free) : v'.hold ≠ .free := by
  cases i with
  | release => exact absurd rfl kept
  | assertState set =>
    simp only [View.next] at allowed
    split at allowed <;> first | exact Option.some.inj allowed ▸ held | cases allowed
  | act a => exact Option.some.inj allowed ▸ held
  | _ =>
    simp only [View.next, Option.ite_none_right_eq_some, Option.some.injEq] at allowed
    simp [← allowed.2, held]

/-- The view after a list of allowed steps. -/
def View.run : View → List (Instr α) → Option View
  | v, [] => some v
  | v, i :: rest => (v.next i).bind fun v' => View.run v' rest

/-- A second `acquire` by a thread that has the mutex never returns. -/
def View.BlocksItself (v : View) : Instr α → Prop
  | .acquire _ => v.hold ≠ .free
  | _ => False

/-- All steps up to the end are allowed, or (only where `nested`) the code runs
into an `acquire` of the mutex it already has, and what follows is never reached. -/
def Follows (nested : Bool) : View → List (Instr α) → Prop
  | v, [] => v.gil = false ∧ v.hold = .free
  | v, i :: rest =>
    match v.next i with
    | some v' => Follows nested v' rest
    | none => nested = true ∧ v.BlocksItself i

/-- A client's bookkeeping along the code of one thread. -/
structure Monitor (α β : Type) where
  next : β → Instr α → β
  ok : View → β → Instr α → Prop

def Monitor.blank : Monitor α Unit where
  next := fun b _ => b
  ok := fun _ _ _ => True

/-- Every step that is ever reached meets the monitor. -/
def Monitor.Along (m : Monitor α β) : View → β → List (Instr α) → Prop
  | _, _, [] => True
  | v, b, i :: rest =>
    match v.next i with
    | some v' => m.ok v b i ∧ m.Along v' (m.next b i) rest
    | none => True

theorem Monitor.blank_along (v : View) (code : List (Instr α)) :
    Monitor.blank.Along v () code := by
  induction code generalizing v with
  | nil => trivial
  | cons i rest ih =>
    simp only [Monitor.Along]
    split
    · exact ⟨trivial, ih _⟩
    · trivial

theorem View.run_append (v : View) (pre post : List (Instr α)) :
    v.run (pre ++ post) = (v.run pre).bind fun v' => v'.run post := by
  induction pre generalizing v with
  | nil => rfl
  | cons i rest ih =>
    simp only [List.cons_append, View.run]
    cases v.next i with
    | none => rfl
    | some v' => exact ih v'

theorem Follows.append {nested : Bool} {v v' : View} {pre post : List (Instr α)}
    (allowed : v.run pre = some v') (h : Follows nested v' post) :
    Follows nested v (pre ++ post) := by
  induction pre generalizing v with
  | nil =>
    simp only [View.run, Option.some.injEq] at allowed
    exact allowed ▸ h
  | cons i rest ih =>
    obtain ⟨w, hw, hrest⟩ := Option.bind_eq_some_iff.mp allowed
    simp only [List.cons_append, Follows, hw]
    exact ih hrest

/-- The monitor state after a list of steps. -/
def Monitor.after (m : Monitor α β) (b : β) (code : List (Instr α)) : β :=
  code.foldl m.next b

/-- Straight-line code that leads from one view and monitor state to another. -/
structure Monitor.Passes (m : Monitor α β) (v : View) (b : β) (code : List (Instr α))
    (v' : View) (b' : β) : Prop where
  run : v.run code = some v'
  along : m.Along v b code
  after : m.after b code = b'

theorem Monitor.Passes.nil (m : Monitor α β) (v : View) (b : β) : m.Passes v b [] v b :=
  ⟨rfl, trivial, rfl⟩

/-- Code that passes may be put before any code that meets the monitor. -/
theorem Monitor.Passes.then {m : Monitor α β} {v v' : View} {b b' : β}
    {pre post : List (Instr α)} (first : m.Passes v b pre v' b') (second : m.Along v' b' post) :
    m.Along v b (pre ++ post) := by
  obtain ⟨allowed, along, rfl⟩ := first
  induction pre generalizing v b with
  | nil =>
    simp only [View.run, Option.some.injEq] at allowed
    exact allowed ▸ second
  | cons i rest ih =>
    obtain ⟨w, hw, continued⟩ := Option.bind_eq_some_iff.mp allowed
    simp only [Monitor.Along, hw] at along
    simp only [List.cons_append, Monitor.Along, hw]
    exact ⟨along.1, ih continued along.2 second⟩

theorem Monitor.Passes.append {m : Monitor α β} {v v' v'' : View} {b b' b'' : β}
    {pre post : List (Instr α)} (first : m.Passes v b pre v' b')
    (second : m.Passes v' b' post v'' b'') : m.Passes v b (pre ++ post) v'' b'' := by
  refine ⟨?_, first.then second.along, ?_⟩
  · rw [View.run_append, first.run, Option.bind_some, second.run]
  · rw [Monitor.after, List.foldl_append]
    exact (congrArg (fun c => m.after c post) first.after).trans second.after

theorem Monitor.Passes.replicate {m : Monitor α β} {v : View} {b : β} {code : List (Instr α)}
    (once : m.Passes v b code v b) (n : Nat) :
    m.Passes v b (List.replicate n code).flatten v b := by
  induction n with
  | zero => exact Monitor.Passes.nil m v b
  | succ n ih =>
    rw [List.replicate_succ, List.flatten_cons]
    exact once.append ih

/-- Neither an action of the client nor the end of a critical section. -/
def quiet : Instr α → Bool
  | .act _ | .release => false
  | _ => true

/-- A monitor that looks at actions and at the release of the mutex only. -/
structure Monitor.Unconcerned (m : Monitor α β) : Prop where
  same : ∀ b i, quiet i = true → m.next b i = b
  ok : ∀ v b i, quiet i = true → m.ok v b i

theorem Monitor.Passes.of_quiet {m : Monitor α β} (unconcerned : m.Unconcerned)
    {code : List (Instr α)} (silent : ∀ i ∈ code, quiet i = true) {v v' : View}
    (allowed : v.run code = some v') (b : β) : m.Passes v b code v' b := by
  induction code generalizing v with
  | nil =>
    cases allowed
    exact Monitor.Passes.nil m _ b
  | cons i rest ih =>
    obtain ⟨w, hw, continued⟩ := Option.bind_eq_some_iff.mp allowed
    have now := silent i (by simp)
    have later := ih (fun j hj => silent j (by simp [hj])) continued
    refine ⟨allowed, ?_, ?_⟩
    · simp only [Monitor.Along, hw]
      rw [unconcerned.same b i now]
      exact ⟨unconcerned.ok v b i now, later.along⟩
    · rw [Monitor.after, List.foldl_cons, unconcerned.same b i now]
      exact later.after

/-- The mutex, the ghost owner and the published thread state are what the
threads' positions say. -/
structure MutexAgrees (hold : Tid → Hold) (s : State Tid α σ) : Prop where
  locked : s.locked = true ↔ ∃ t, hold t ≠ .free
  holding : ∀ t, s.holding t = (hold t).path
  unique : ∀ t u, hold t ≠ .free → hold u ≠ .free → t = u
  tstate : ∀ t, s.tstate = some t ↔ hold t = .stored

/-- The views of all threads are a true picture of the shared state. -/
structure Agrees (v : Tid → View) (s : State Tid α σ) : Prop where
  gil : ∀ t, (v t).gil = true ↔ s.gil = some (t, t)
  attached : ∀ p, s.gil = some p → p.2 = p.1
  saved : ∀ t, (v t).saved = true → s.saved t = some t
  mutex : MutexAgrees (fun t => (v t).hold) s

theorem Agrees.start (code : Tid → List (Instr α)) (data : σ) :
    Agrees (fun _ => View.idle) (start code data) := by
  refine ⟨?_, ?_, ?_, ⟨?_, ?_, ?_, ?_⟩⟩ <;> simp [LockMachine.start, View.idle, Hold.path]

theorem MutexAgrees.free_of_unlocked {hold : Tid → Hold} {s : State Tid α σ}
    (h : MutexAgrees hold s) (unlocked : s.locked = false) (t : Tid) : hold t = .free := by
  by_contra taken
  have := h.locked.mpr ⟨t, taken⟩
  simp [unlocked] at this

theorem MutexAgrees.others_free {hold : Tid → Hold} {s : State Tid α σ}
    (h : MutexAgrees hold s) {t u : Tid} (mine : hold t ≠ .free) (other : u ≠ t) :
    hold u = .free := by
  by_contra taken
  exact other (h.unique u t taken mine)

theorem Agrees.gil_holder {v : Tid → View} {s : State Tid α σ} (h : Agrees v s)
    (held : s.gil ≠ none) : ∃ t, (v t).gil = true := by
  obtain ⟨⟨owner, attached⟩, hp⟩ := Option.ne_none_iff_exists'.mp held
  have own : attached = owner := h.attached _ hp
  exact ⟨owner, (h.gil owner).mpr (by rw [hp, own])⟩

variable [DecidableEq Tid]

/-! The four changes of the mutex, each by the one thread concerned. -/

theorem MutexAgrees.acquire {hold : Tid → Hold} {s : State Tid α σ} (h : MutexAgrees hold s)
    (unlocked : s.locked = false) (t : Tid) (path : Path) :
    MutexAgrees (Function.update hold t (.taken path))
      { s with locked := true, holding := Function.update s.holding t (some path) } := by
  have free := h.free_of_unlocked unlocked
  have unpublished : s.tstate = none :=
    Option.eq_none_iff_forall_ne_some.mpr fun u hu => by
      have := (h.tstate u).mp hu
      simp [free] at this
  refine ⟨?_, fun u => ?_, fun u w => ?_, fun u => ?_⟩
  · simp only [true_iff]
    exact ⟨t, by simp⟩
  · by_cases e : u = t <;> simp [e, Function.update, Hold.path, h.holding]
  · by_cases e : u = t <;> by_cases e' : w = t <;> simp [e, e', free, Function.update]
  · by_cases e : u = t <;> simp [e, free, unpublished, Function.update]

theorem MutexAgrees.release {hold : Tid → Hold} {s : State Tid α σ} (h : MutexAgrees hold s)
    {t : Tid} {path : Path} (mine : hold t = .taken path) :
    MutexAgrees (Function.update hold t .free)
      { s with locked := false, holding := Function.update s.holding t none } := by
  have others : ∀ u, u ≠ t → hold u = .free := fun u => h.others_free (by simp [mine])
  refine ⟨?_, fun u => ?_, fun u w => ?_, fun u => ?_⟩
  · simp only [Bool.false_eq_true, false_iff, not_exists, not_not]
    intro u
    by_cases e : u = t <;> simp [e, others, Function.update]
  · by_cases e : u = t <;> simp [e, Function.update, Hold.path, h.holding]
  · by_cases e : u = t <;> by_cases e' : w = t <;> simp [e, e', others, Function.update]
  · have := h.tstate u
    by_cases e : u = t <;> simp_all [Function.update]

theorem MutexAgrees.store {hold : Tid → Hold} {s : State Tid α σ} (h : MutexAgrees hold s)
    {t : Tid} (mine : (hold t).path = some .blocking) :
    MutexAgrees (Function.update hold t .stored) { s with tstate := some t } := by
  have taken : hold t ≠ .free := by
    intro free
    simp [free, Hold.path] at mine
  have others : ∀ u, u ≠ t → hold u = .free := fun u => h.others_free taken
  refine ⟨?_, fun u => ?_, fun u w => ?_, fun u => ?_⟩
  · simp only [h.locked.mpr ⟨t, taken⟩, true_iff]
    exact ⟨t, by simp⟩
  · by_cases e : u = t
    · subst e
      rw [Function.update_self, h.holding, mine]
      rfl
    · simp [e, h.holding]
  · by_cases e : u = t <;> by_cases e' : w = t <;> simp [e, e', others, Function.update]
  · by_cases e : u = t
    · simp [e]
    · simp [e, others, Ne.symm e]

theorem MutexAgrees.clear {hold : Tid → Hold} {s : State Tid α σ} (h : MutexAgrees hold s)
    {t : Tid} (mine : hold t = .stored) :
    MutexAgrees (Function.update hold t (.taken .blocking)) { s with tstate := none } := by
  have others : ∀ u, u ≠ t → hold u = .free := fun u => h.others_free (by simp [mine])
  refine ⟨?_, fun u => ?_, fun u w => ?_, fun u => ?_⟩
  · simp only [h.locked.mpr ⟨t, by simp [mine]⟩, true_iff]
    exact ⟨t, by simp⟩
  · by_cases e : u = t
    · subst e
      simp [h.holding, mine, Hold.path]
    · simp [e, h.holding]
  · by_cases e : u = t <;> by_cases e' : w = t <;> simp [e, e', others, Function.update]
  · by_cases e : u = t <;> simp [e, others, Function.update]

omit [DecidableEq Tid] in
/-- Only the fields of the mutex matter to `MutexAgrees`. -/
theorem MutexAgrees.congr {hold : Tid → Hold} {s s' : State Tid α σ} (h : MutexAgrees hold s)
    (locked : s'.locked = s.locked) (holding : s'.holding = s.holding)
    (tstate : s'.tstate = s.tstate) : MutexAgrees hold s' :=
  ⟨by rw [locked]; exact h.locked, by rw [holding]; exact h.holding, h.unique,
    by rw [tstate]; exact h.tstate⟩

theorem hold_update (v : Tid → View) (t : Tid) (v' : View) :
    (fun u => (Function.update v t v' u).hold) =
      Function.update (fun u => (v u).hold) t v'.hold := by
  funext u
  by_cases e : u = t <;> simp [Function.update, e]

theorem MutexAgrees.sameHold {v : Tid → View} {t : Tid} {v' : View} {s s' : State Tid α σ}
    (h : MutexAgrees (fun u => (v u).hold) s) (same : v'.hold = (v t).hold)
    (locked : s'.locked = s.locked) (holding : s'.holding = s.holding)
    (tstate : s'.tstate = s.tstate) :
    MutexAgrees (fun u => (Function.update v t v' u).hold) s' := by
  have unchanged : (fun u => (Function.update v t v' u).hold) = fun u => (v u).hold := by
    rw [hold_update, same]
    exact Function.update_eq_self t _
  rw [unchanged]
  exact h.congr locked holding tstate

variable {sem : Tid → α → σ → σ}

/-- The four changes of the interpreter lock and of the local thread state leave
the mutex alone. -/
theorem Agrees.saveThread {v : Tid → View} {s : State Tid α σ} (h : Agrees v s) {t : Tid}
    (mine : (v t).gil = true) :
    Agrees (Function.update v t { v t with gil := false, saved := true })
      { s with gil := none, saved := Function.update s.saved t (some t) } := by
  have held := (h.gil t).mp mine
  refine ⟨fun u => ?_, by simp, fun u => ?_, ?_⟩
  · have others := h.gil u
    by_cases e : u = t <;> simp_all [Function.update, Ne.symm]
  · by_cases e : u = t
    · simp [e]
    · simpa [e] using h.saved u
  · exact h.mutex.sameHold rfl rfl rfl rfl

theorem Agrees.restoreThread {v : Tid → View} {s : State Tid α σ} (h : Agrees v s) {t : Tid}
    (unheld : s.gil = none) :
    Agrees (Function.update v t { v t with gil := true, saved := false })
      { s with gil := some (t, t) } := by
  refine ⟨fun u => ?_, by simp, fun u => ?_, ?_⟩
  · have others := h.gil u
    by_cases e : u = t
    · simp [e]
    · simp_all [Ne.symm e]
  · by_cases e : u = t
    · simp [e]
    · simpa [e] using h.saved u
  · exact h.mutex.sameHold rfl rfl rfl rfl

theorem Agrees.loadState {v : Tid → View} {s : State Tid α σ} (h : Agrees v s) {t : Tid}
    (mine : (v t).hold = .stored) :
    Agrees (Function.update v t { v t with saved := true })
      { s with saved := Function.update s.saved t s.tstate } := by
  refine ⟨fun u => ?_, h.attached, fun u => ?_, ?_⟩
  · by_cases e : u = t
    · simpa [e] using h.gil t
    · simpa [e] using h.gil u
  · by_cases e : u = t
    · subst e
      simpa using (h.mutex.tstate u).mpr mine
    · simpa [e] using h.saved u
  · exact h.mutex.sameHold rfl rfl rfl rfl

/-- Steps that change the mutex part only. -/
theorem Agrees.withMutex {v : Tid → View} {s s' : State Tid α σ} (h : Agrees v s) {t : Tid}
    {hold : Hold} (gil : s'.gil = s.gil) (saved : s'.saved = s.saved)
    (mutex : MutexAgrees (Function.update (fun u => (v u).hold) t hold) s') :
    Agrees (Function.update v t { v t with hold := hold }) s' := by
  refine ⟨fun u => ?_, by rw [gil]; exact h.attached, fun u => ?_, ?_⟩
  · rw [gil]
    by_cases e : u = t
    · simpa [e] using h.gil t
    · simpa [e] using h.gil u
  · rw [saved]
    by_cases e : u = t
    · simpa [e] using h.saved t
    · simpa [e] using h.saved u
  · rw [hold_update]
    exact mutex

/-- One allowed step of one thread keeps all views true. -/
theorem Agrees.exec {v : Tid → View} {s s' : State Tid α σ} (h : Agrees v s) {t : Tid}
    {i : Instr α} {v' : View} (allowed : (v t).next i = some v')
    (taken : exec sem s t i = some s') : Agrees (Function.update v t v') s' := by
  cases i with
  | saveThread =>
    simp only [View.next, Option.ite_none_right_eq_some, Option.some.injEq] at allowed
    obtain ⟨mine, rfl⟩ := allowed
    simp only [LockMachine.exec, (h.gil t).mp mine, if_true, Option.some.injEq] at taken
    exact taken ▸ h.saveThread mine
  | restoreThread =>
    simp only [View.next, Option.ite_none_right_eq_some, Option.some.injEq] at allowed
    obtain ⟨⟨_, own⟩, rfl⟩ := allowed
    have unheld : s.gil = none := by
      by_contra held
      obtain ⟨p, hp⟩ := Option.ne_none_iff_exists'.mp held
      simp [LockMachine.exec, hp] at taken
    simp only [LockMachine.exec, unheld, h.saved t own, Option.some.injEq] at taken
    exact taken ▸ h.restoreThread unheld
  | acquire path =>
    simp only [View.next, Option.ite_none_right_eq_some, Option.some.injEq] at allowed
    obtain ⟨_, rfl⟩ := allowed
    simp only [LockMachine.exec, Option.ite_none_left_eq_some, Option.some.injEq] at taken
    obtain ⟨unlocked, rfl⟩ := taken
    exact h.withMutex rfl rfl (h.mutex.acquire (by simpa using unlocked) t path)
  | release =>
    simp only [View.next] at allowed
    split at allowed
    next path mine =>
      cases allowed
      simp only [LockMachine.exec, Option.ite_none_right_eq_some, Option.some.injEq] at taken
      obtain ⟨_, rfl⟩ := taken
      exact h.withMutex rfl rfl (h.mutex.release mine)
    · cases allowed
  | loadState =>
    simp only [View.next, Option.ite_none_right_eq_some, Option.some.injEq] at allowed
    obtain ⟨mine, rfl⟩ := allowed
    simp only [LockMachine.exec, Option.some.injEq] at taken
    exact taken ▸ h.loadState mine
  | storeState =>
    simp only [View.next, Option.ite_none_right_eq_some, Option.some.injEq] at allowed
    obtain ⟨⟨own, mine⟩, rfl⟩ := allowed
    simp only [LockMachine.exec, h.saved t own, Option.some.injEq] at taken
    subst taken
    exact h.withMutex rfl rfl (h.mutex.store mine)
  | clearState =>
    simp only [View.next, Option.ite_none_right_eq_some, Option.some.injEq] at allowed
    obtain ⟨mine, rfl⟩ := allowed
    simp only [LockMachine.exec, Option.some.injEq] at taken
    subst taken
    exact h.withMutex rfl rfl (h.mutex.clear mine)
  | assertState set =>
    have same : v' = v t := by
      simp only [View.next] at allowed
      split at allowed <;> first | exact (Option.some.inj allowed).symm | cases allowed
    simp only [LockMachine.exec, Option.ite_none_right_eq_some, Option.some.injEq] at taken
    obtain ⟨_, rfl⟩ := taken
    rw [same, Function.update_eq_self]
    exact h
  | act a =>
    cases allowed
    simp only [LockMachine.exec, Option.some.injEq] at taken
    rw [Function.update_eq_self]
    subst taken
    exact ⟨h.gil, h.attached, h.saved, h.mutex.congr rfl rfl rfl⟩

/-- An allowed step is executed at once unless it waits for a lock another
thread has. -/
theorem Agrees.exec_enabled (sem : Tid → α → σ → σ) {v : Tid → View} {s : State Tid α σ}
    (h : Agrees v s) {t : Tid} {i : Instr α} {v' : View} (allowed : (v t).next i = some v')
    (gil : i = .restoreThread → s.gil = none)
    (mutex : ∀ path, i = .acquire path → s.locked = false) :
    ∃ s', LockMachine.exec sem s t i = some s' := by
  cases i with
  | saveThread =>
    simp only [View.next, Option.ite_none_right_eq_some] at allowed
    simp [LockMachine.exec, (h.gil t).mp allowed.1]
  | restoreThread =>
    simp only [View.next, Option.ite_none_right_eq_some] at allowed
    simp [LockMachine.exec, gil rfl, h.saved t allowed.1.2]
  | acquire path => simp [LockMachine.exec, mutex path rfl]
  | release =>
    have mine : (v t).hold ≠ .free := by
      intro free
      simp [View.next, free] at allowed
    simp [LockMachine.exec, h.mutex.locked.mpr ⟨t, mine⟩]
  | loadState => exact ⟨_, rfl⟩
  | storeState => exact ⟨_, rfl⟩
  | clearState => exact ⟨_, rfl⟩
  | assertState set =>
    have agrees : s.tstate.isSome = set := by
      simp only [View.next] at allowed
      split at allowed
      next stored => simp [(h.mutex.tstate t).mpr stored]
      next path taken =>
        rw [Option.isSome_eq_false_iff, Option.isNone_iff_eq_none,
          Option.eq_none_iff_forall_ne_some]
        intro u hu
        have stored := (h.mutex.tstate u).mp hu
        have same := h.mutex.unique u t (by simp [stored]) (by simp [taken])
        simp [same, taken] at stored
      · cases allowed
    simp [LockMachine.exec, agrees]
  | act a => exact ⟨_, rfl⟩

end Pygpgme.Library.LockMachine
