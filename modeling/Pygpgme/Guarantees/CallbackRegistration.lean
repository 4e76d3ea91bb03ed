import Pygpgme.Source.Registration

/-!
# Callback registration stays coherent

The attribute and the function registered with gpgme are updated in separate
steps, with other threads running in between, but only by the thread that has
the mutex. What that thread has done so far is its phase; the two copies agree
on every attribute that no phase says is being assigned.
-/

set_option autoImplicit false

namespace Pygpgme.Guarantees.CallbackRegistration
open Pygpgme.Library.LockMachine Pygpgme.Library.Transition Pygpgme.Source.Registration

variable {Tid Obj : Type}

/-- What getters, setters and callbacks rely on. -/
structure Coherent (w : World Tid Obj) : Prop where
  registered : w.state.locked = false → ∀ slot,
    w.state.data.field slot ≠ .null ↔ w.state.data.registered slot = .pygpgme
  reads : ∀ r ∈ w.ghost.reads, r.used = r.current
  invocations : ∀ i ∈ w.ghost.invocations, i.used = i.current ∧ ∃ o, i.used = .object o

/-! ## Values -/

theorem unset_shown (value : Pointer Obj) : value.shown.unset = value.unset := by
  cases value <;> rfl

/-- The attribute holds `value`, in both copies. -/
structure Holds (c : Ctx Tid Obj) (slot : Slot) (value : Pointer Obj) : Prop where
  field : c.field slot = value.unset
  registered : c.registered slot = .pygpgme ↔ value.unset ≠ .null

theorem Holds.shown {c : Ctx Tid Obj} {slot : Slot} {value : Pointer Obj}
    (h : Holds c slot value) : Holds c slot value.shown := by
  refine ⟨?_, ?_⟩
  · rw [unset_shown]
    exact h.field
  · rw [unset_shown]
    exact h.registered

/-! ## What a thread has done of its call -/

/-- `calling` from the moment gpgme decides to call back until the callable is called. -/
inductive Stage where
  | begun | cleared | stored | registered | got | chosen | calling (slot : Slot)
  deriving DecidableEq, Repr

structure Phase (Obj : Type) where
  call : Call Obj
  stage : Stage

def Phase.at (p : Phase Obj) (stage : Stage) : Phase Obj := { p with stage := stage }

def Phase.next (p : Phase Obj) : Instr (Act Obj) → Phase Obj
  | .act (.begins c) => ⟨c, .begun⟩
  | .act (.clear _) => p.at .cleared
  | .act (.store _ _) => p.at .stored
  | .act (.setCb _ _) => p.at .registered
  | .act (.getCb _) => p.at .got
  | .act (.choose _) => p.at .chosen
  | .act (.returns _) => p.at .begun
  | .act (.callFunction _) => p.at .begun
  | _ => p

/-- Both copies are read and written under the mutex, in the order of the source. -/
def phaseMonitor : Monitor (Act Obj) (Phase Obj) where
  next := Phase.next
  ok := fun v p i =>
    match i with
    | .acquire _ => p.stage = .begun
    | .release =>
      (∀ slot value n, p.call = .assign slot value n → p.stage = .registered) ∧
        ∀ slot, p.stage ≠ .calling slot
    | .act (.begins _) => v.hold = .free
    | .act (.clear slot) => v.hold ≠ .free ∧ ∃ value n, p = ⟨.assign slot value n, .begun⟩
    | .act (.store slot stored) =>
      v.hold ≠ .free ∧ ∃ value n, p = ⟨.assign slot value n, .cleared⟩ ∧
        stored = value.unset ∧ stored ≠ .null
    | .act (.setCb slot f) =>
      v.hold ≠ .free ∧ ∃ value n, (p = ⟨.assign slot value n, .stored⟩ ∧ f = .pygpgme) ∨
        (p = ⟨.assign slot value n, .cleared⟩ ∧ f = .null ∧ value.unset = .null)
    | .act (.getCb slot) => v.hold ≠ .free ∧ p = ⟨.read slot, .begun⟩
    | .act (.choose slot) => v.hold ≠ .free ∧ p = ⟨.read slot, .got⟩
    | .act (.returns slot) => v.hold = .free ∧ p = ⟨.read slot, .chosen⟩
    | .act (.leave _) => v = ⟨false, .stored, true⟩ ∧ ∃ m, p = ⟨.operation m, .begun⟩
    | .act (.callFunction slot) => ∃ m, p = ⟨.operation m, .calling slot⟩
    | _ => True

/-! ## The code of each call -/

/-- Between two calls of a thread. -/
def python : View := ⟨true, .free, false⟩

theorem passes_switches (hold : Hold) (p : Phase Obj) (n : Nat) :
    phaseMonitor.Passes ⟨true, hold, false⟩ p (switches n) ⟨true, hold, false⟩ p := by
  have once : phaseMonitor.Passes ⟨true, hold, false⟩ p gilSwitch ⟨true, hold, false⟩ p :=
    ⟨rfl, ⟨trivial, trivial, trivial⟩, rfl⟩
  exact once.replicate n

theorem passes_lockContext (c : Call Obj) :
    phaseMonitor.Passes python ⟨c, .begun⟩ lockContext ⟨true, .taken .plain, false⟩ ⟨c, .begun⟩ :=
  ⟨rfl, ⟨trivial, rfl, trivial, trivial⟩, rfl⟩

theorem passes_register (slot : Slot) (value : Pointer Obj) (n : Nat) :
    phaseMonitor.Passes ⟨true, .taken .plain, false⟩ ⟨.assign slot value n, .cleared⟩
      (register slot value.unset) ⟨true, .taken .plain, false⟩
      ⟨.assign slot value n, .registered⟩ := by
  cases value with
  | object o =>
    refine ⟨rfl, ⟨⟨by simp, _, _, rfl, rfl, by simp [Pointer.unset]⟩, ⟨by simp, ?_⟩, trivial⟩, rfl⟩
    exact ⟨_, _, .inl ⟨rfl, rfl⟩⟩
  | null => exact ⟨rfl, ⟨⟨by simp, _, _, .inr ⟨rfl, rfl, rfl⟩⟩, trivial⟩, rfl⟩
  | none => exact ⟨rfl, ⟨⟨by simp, _, _, .inr ⟨rfl, rfl, rfl⟩⟩, trivial⟩, rfl⟩

theorem passes_contextSetCb (slot : Slot) (value : Pointer Obj) (n : Nat) :
    phaseMonitor.Passes python ⟨.assign slot value n, .begun⟩ (contextSetCb slot value n) python
      ⟨.assign slot value n, .registered⟩ := by
  have cleared : phaseMonitor.Passes ⟨true, .taken .plain, false⟩ ⟨.assign slot value n, .begun⟩
      [.act (.clear slot)] ⟨true, .taken .plain, false⟩ ⟨.assign slot value n, .cleared⟩ :=
    ⟨rfl, ⟨⟨by simp, _, _, rfl⟩, trivial⟩, rfl⟩
  have unlocked : phaseMonitor.Passes ⟨true, .taken .plain, false⟩
      ⟨.assign slot value n, .registered⟩ unlockContext python
      ⟨.assign slot value n, .registered⟩ :=
    ⟨rfl, ⟨⟨fun _ _ _ _ => rfl, by simp⟩, trivial⟩, rfl⟩
  have destructed :=
    passes_switches (.taken .plain) (⟨.assign slot value n, .cleared⟩ : Phase Obj) n
  exact ((((passes_lockContext _).append cleared).append destructed).append
    (passes_register slot value n)).append unlocked

theorem passes_contextGetCb (slot : Slot) :
    phaseMonitor.Passes python ⟨.read slot, .begun⟩ (contextGetCb slot : Code Obj) python
      ⟨.read slot, .begun⟩ := by
  have inner : phaseMonitor.Passes ⟨true, .taken .plain, false⟩ ⟨.read slot, .begun⟩
      ([.act (.getCb slot), .act (.choose slot)] : Code Obj) ⟨true, .taken .plain, false⟩
      ⟨.read slot, .chosen⟩ :=
    ⟨rfl, ⟨⟨by simp, rfl⟩, ⟨by simp, rfl⟩, trivial⟩, rfl⟩
  have unlocked : phaseMonitor.Passes ⟨true, .taken .plain, false⟩ ⟨.read slot, .chosen⟩
      (unlockContext : Code Obj) python ⟨.read slot, .chosen⟩ :=
    ⟨rfl, ⟨⟨by simp, by simp⟩, trivial⟩, rfl⟩
  have returned : phaseMonitor.Passes python ⟨.read slot, .chosen⟩
      ([.act (.returns slot)] : Code Obj) python ⟨.read slot, .begun⟩ :=
    ⟨rfl, ⟨⟨rfl, rfl⟩, trivial⟩, rfl⟩
  exact (((passes_lockContext _).append inner).append unlocked).append returned

theorem passes_blocking (m : Source.Threads.Method) :
    phaseMonitor.Passes python ⟨.operation m, .begun⟩ (blocking m.op : Code Obj) python
      ⟨.operation m, .begun⟩ := by
  have started : phaseMonitor.Passes python ⟨.operation m, .begun⟩ (beginAllowThreads : Code Obj)
      ⟨false, .stored, true⟩ ⟨.operation m, .begun⟩ :=
    ⟨rfl, ⟨trivial, rfl, trivial, trivial, trivial⟩, rfl⟩
  have ran : phaseMonitor.Passes ⟨false, .stored, true⟩ ⟨.operation m, .begun⟩
      ([.act (.enter m.op), .act (.leave m.op)] : Code Obj) ⟨false, .stored, true⟩
      ⟨.operation m, .begun⟩ :=
    ⟨rfl, ⟨trivial, ⟨rfl, _, rfl⟩, trivial⟩, rfl⟩
  have ended : phaseMonitor.Passes ⟨false, .stored, true⟩ ⟨.operation m, .begun⟩
      (endAllowThreads : Code Obj) python ⟨.operation m, .begun⟩ := by
    have releases : phaseMonitor.ok (⟨true, .taken .blocking, false⟩ : View)
        (⟨.operation m, .begun⟩ : Phase Obj) .release := ⟨by simp, by simp⟩
    exact ⟨rfl, ⟨trivial, trivial, trivial, trivial, releases, trivial⟩, rfl⟩
  exact (started.append ran).append ended

/-- A callback leads back to where gpgme called it. -/
theorem passes_callback (slot : Slot) (body : Nat) (m : Source.Threads.Method) :
    phaseMonitor.Passes ⟨false, .stored, true⟩ ⟨.operation m, .calling slot⟩
      (callback slot body : Code Obj) ⟨false, .stored, true⟩ ⟨.operation m, .begun⟩ := by
  have called : phaseMonitor.Passes ⟨false, .stored, true⟩ ⟨.operation m, .calling slot⟩
      ([.assertState true, .loadState, .restoreThread, .act (.callFunction slot)] : Code Obj)
      ⟨true, .stored, false⟩ ⟨.operation m, .begun⟩ :=
    ⟨rfl, ⟨trivial, trivial, trivial, ⟨_, rfl⟩, trivial⟩, rfl⟩
  have left : phaseMonitor.Passes ⟨true, .stored, false⟩ ⟨.operation m, .begun⟩
      ([.saveThread, .storeState] : Code Obj) ⟨false, .stored, true⟩ ⟨.operation m, .begun⟩ :=
    ⟨rfl, ⟨trivial, trivial, trivial⟩, rfl⟩
  exact (called.append (passes_switches .stored _ body)).append left

theorem passes_call (c : Call Obj) (p : Phase Obj) :
    ∃ p', phaseMonitor.Passes python p c.code python p' := by
  have begins : phaseMonitor.Passes python p [.act (.begins c)] python ⟨c, .begun⟩ :=
    ⟨rfl, ⟨rfl, trivial⟩, rfl⟩
  cases c with
  | assign slot value n =>
    rw [Call.code, Call.body_assign]
    exact ⟨_, begins.append (passes_contextSetCb slot value n)⟩
  | read slot =>
    rw [Call.code, Call.body_read]
    exact ⟨_, begins.append (passes_contextGetCb slot)⟩
  | operation m => exact ⟨_, begins.append (passes_blocking m)⟩
  | switch => exact ⟨_, begins.append ⟨rfl, ⟨trivial, trivial, trivial⟩, rfl⟩⟩

theorem passes_calls (calls : List (Call Obj)) (p : Phase Obj) :
    ∃ p', phaseMonitor.Passes python p (calls.flatMap Call.code) python p' := by
  induction calls generalizing p with
  | nil => exact ⟨p, Monitor.Passes.nil _ _ p⟩
  | cons c calls ih =>
    obtain ⟨middle, first⟩ := passes_call c p
    obtain ⟨last, rest⟩ := ih middle
    exact ⟨last, first.append rest⟩

/-- Nobody has called anything yet. -/
def Phase.new : Phase Obj := ⟨.switch, .begun⟩

theorem passes_thread (calls : List (Call Obj)) :
    ∃ p, phaseMonitor.Passes View.idle Phase.new (threadCode calls) View.idle p := by
  obtain ⟨p, made⟩ := passes_calls calls Phase.new
  have attached : phaseMonitor.Passes View.idle (Phase.new : Phase Obj) [.restoreThread] python
      Phase.new := ⟨rfl, ⟨trivial, trivial⟩, rfl⟩
  have detached : phaseMonitor.Passes python p [.saveThread] View.idle p :=
    ⟨rfl, ⟨trivial, trivial⟩, rfl⟩
  exact ⟨p, (attached.append made).append detached⟩

theorem thread_follows (calls : List (Call Obj)) :
    Follows false View.idle (threadCode calls) := by
  obtain ⟨p, passes⟩ := passes_thread calls
  have finished : Follows false View.idle ([] : Code Obj) := ⟨rfl, rfl⟩
  simpa using finished.append passes.run

/-! ## What the phases say about the two copies -/

/-- The attribute a thread is in the middle of assigning. -/
def Phase.assigning : Phase Obj → Option Slot
  | ⟨.assign slot _ _, .cleared⟩ => some slot
  | ⟨.assign slot _ _, .stored⟩ => some slot
  | ⟨.assign slot _ _, .registered⟩ => some slot
  | _ => none

/-- What a thread relies on in its phase while it has the mutex. The object a
getter has chosen stays its own after that. -/
def Known (c : Ctx Tid Obj) (h : History Tid Obj) (t : Tid) (taken : Prop) : Phase Obj → Prop
  | ⟨.assign slot _ _, .cleared⟩ => taken → c.field slot = .null
  | ⟨.assign slot value _, .stored⟩ =>
    taken → c.field slot = value.unset ∧ value.unset ≠ .null
  | ⟨.assign slot value _, .registered⟩ => taken → Holds c slot value
  | ⟨.read slot, .got⟩ => taken → c.fn t = c.registered slot
  | ⟨.read slot, .chosen⟩ => c.callback t = h.atAcquire t slot
  | ⟨.operation _, .calling slot⟩ => taken ∧ c.registered slot = .pygpgme
  | _ => True

theorem known_begun (c : Ctx Tid Obj) (h : History Tid Obj) (t : Tid) (taken : Prop)
    {p : Phase Obj} (begun : p.stage = .begun) : Known c h t taken p := by
  rcases p with ⟨call, stage⟩
  cases begun
  cases call <;> trivial

/-- What is left of it when the mutex is released. -/
theorem Known.released {c : Ctx Tid Obj} {h h' : History Tid Obj} {t : Tid} {taken free : Prop}
    {p : Phase Obj} (known : Known c h t taken p) (released : ¬ free)
    (done : ∀ slot, p.stage ≠ .calling slot)
    (entry : h'.atAcquire = h.atAcquire) : Known c h' t free p := by
  rcases p with ⟨call, stage⟩
  cases call with
  | assign slot value n => cases stage <;> first | trivial | exact fun held => absurd held released
  | read slot =>
    cases stage with
    | got => exact fun held => absurd held released
    | chosen =>
      have before : c.callback t = h.atAcquire t slot := known
      rw [← entry] at before
      exact before
    | _ => trivial
  | operation m =>
    cases stage with
    | calling slot => exact absurd rfl (done slot)
    | _ => trivial
  | switch => trivial

theorem Known.frame {c c' : Ctx Tid Obj} {h h' : History Tid Obj} {u : Tid} {taken : Prop}
    {p : Phase Obj} (known : Known c h u taken p) (fn : c'.fn u = c.fn u)
    (callback : c'.callback u = c.callback u) (entry : h'.atAcquire u = h.atAcquire u)
    (shared : taken → c'.field = c.field ∧ c'.registered = c.registered) :
    Known c' h' u taken p := by
  rcases p with ⟨call, stage⟩
  cases call with
  | assign slot value n =>
    cases stage with
    | cleared =>
      intro held
      rw [(shared held).1]
      exact known held
    | stored =>
      intro held
      rw [(shared held).1]
      exact known held
    | registered =>
      intro held
      have before : Holds c slot value := known held
      exact ⟨by rw [(shared held).1, before.field], by rw [(shared held).2, before.registered]⟩
    | _ => trivial
  | read slot =>
    cases stage with
    | got =>
      intro held
      rw [fn, (shared held).2]
      exact known held
    | chosen =>
      have before : c.callback u = h.atAcquire u slot := known
      exact callback.trans (before.trans (congrFun entry.symm slot))
    | _ => trivial
  | operation m =>
    cases stage with
    | calling slot =>
      obtain ⟨held, before⟩ := known
      exact ⟨held, by rw [(shared held).2, before]⟩
    | _ => trivial
  | switch => trivial

/-- The two copies agree on every attribute that no holder of the mutex is assigning. -/
structure Coherence (v : Tid → View) (p : Tid → Phase Obj) (c : Ctx Tid Obj)
    (h : History Tid Obj) : Prop where
  calls : ∀ t, h.call t = (p t).call
  entry : ∀ t, (v t).hold ≠ .free → h.atAcquire t = h.assigned
  given : ∀ slot, h.assigned slot ≠ .null
  held : ∀ slot, (∀ t, (v t).hold ≠ .free → (p t).assigning ≠ some slot) →
    Holds c slot (h.assigned slot)
  known : ∀ t, Known c h t ((v t).hold ≠ .free) (p t)
  reads : ∀ r ∈ h.reads, r.used = r.current
  invocations : ∀ i ∈ h.invocations, i.used = i.current ∧ ∃ o, i.used = .object o

theorem Coherence.new :
    Coherence (fun _ => View.idle) (fun _ => Phase.new) (Ctx.new : Ctx Tid Obj) History.new where
  calls := fun _ => rfl
  entry := fun _ _ => rfl
  given := by simp [History.new]
  held := fun _ _ => ⟨rfl, by simp [Ctx.new, History.new, Pointer.unset]⟩
  known := fun _ => trivial
  reads := by simp [History.new]
  invocations := by simp [History.new]

/-- No other thread has the mutex. -/
def Alone (v : Tid → View) (t : Tid) : Prop := ∀ u, u ≠ t → (v u).hold = .free

section
variable {v : Tid → View} {p : Tid → Phase Obj} {c c' : Ctx Tid Obj} {h h' : History Tid Obj}
  {t : Tid} {slot : Slot} {value : Pointer Obj} {n : Nat}

theorem Coherence.heldBy (coherent : Coherence v p c h) (alone : Alone v t)
    (other : (v t).hold ≠ .free → (p t).assigning ≠ some slot) :
    Holds c slot (h.assigned slot) := by
  refine coherent.held slot fun u taken => ?_
  by_cases e : u = t
  · subst e
    exact other taken
  · exact absurd (alone u e) taken

variable [DecidableEq Tid]

/-- A step that concerns the locks only. -/
theorem Coherence.quiet (coherent : Coherence v p c h) {v' : View}
    (same : v'.hold = .free ↔ (v t).hold = .free) :
    Coherence (Function.update v t v') (Function.update p t (p t)) c h := by
  have holds : ∀ u, (Function.update v t v' u).hold = .free ↔ (v u).hold = .free := by
    intro u
    by_cases e : u = t
    · subst e
      simpa using same
    · simp [e]
  rw [Function.update_eq_self]
  refine ⟨coherent.calls, fun u => ?_, coherent.given, fun slot => ?_, fun u => ?_,
    coherent.reads, coherent.invocations⟩
  · rw [ne_eq, holds]
    exact coherent.entry u
  · simp only [ne_eq, holds]
    exact coherent.held slot
  · rw [ne_eq, holds]
    exact coherent.known u

/-- A step of a thread while no other thread has the mutex. -/
theorem Coherence.alone (coherent : Coherence v p c h) (alone : Alone v t)
    {v' : View} {p' : Phase Obj} (calls : h'.call = Function.update h.call t p'.call)
    (entry : v'.hold ≠ .free → h'.atAcquire t = h'.assigned)
    (given : ∀ slot, h'.assigned slot ≠ .null)
    (held : ∀ slot, (v'.hold ≠ .free → p'.assigning ≠ some slot) →
      Holds c' slot (h'.assigned slot))
    (known : Known c' h' t (v'.hold ≠ .free) p')
    (private_ : ∀ u, u ≠ t → c'.fn u = c.fn u ∧ c'.callback u = c.callback u ∧
      h'.atAcquire u = h.atAcquire u)
    (reads : ∀ r ∈ h'.reads, r.used = r.current)
    (invocations : ∀ i ∈ h'.invocations, i.used = i.current ∧ ∃ o, i.used = .object o) :
    Coherence (Function.update v t v') (Function.update p t p') c' h' := by
  refine ⟨fun u => ?_, fun u taken => ?_, given, fun slot free => ?_, fun u => ?_, reads,
    invocations⟩
  · rw [calls]
    by_cases e : u = t
    · simp [e]
    · simpa [e] using coherent.calls u
  · by_cases e : u = t
    · subst e
      exact entry (by simpa using taken)
    · rw [Function.update_of_ne e] at taken
      exact absurd (alone u e) taken
  · exact held slot (by simpa using free t)
  · by_cases e : u = t
    · subst e
      simpa using known
    · rw [Function.update_of_ne e, Function.update_of_ne e]
      obtain ⟨fn, callback, atAcquire⟩ := private_ u e
      exact (coherent.known u).frame fn callback atAcquire fun taken => absurd (alone u e) taken

/-- A step of a thread that has the mutex. -/
theorem Coherence.under (coherent : Coherence v p c h) (taken : (v t).hold ≠ .free)
    (alone : Alone v t) {p' : Phase Obj} (call : p'.call = (p t).call)
    (held : ∀ slot, p'.assigning ≠ some slot → Holds c' slot (h.assigned slot))
    (known : Known c' h t ((v t).hold ≠ .free) p')
    (private_ : ∀ u, u ≠ t → c'.fn u = c.fn u ∧ c'.callback u = c.callback u) :
    Coherence (Function.update v t (v t)) (Function.update p t p') c' h := by
  refine coherent.alone alone ?_ (coherent.entry t) coherent.given
    (fun slot free => held slot (free taken)) known (fun u e => ?_) coherent.reads
    coherent.invocations
  · rw [call, ← coherent.calls t, Function.update_eq_self]
  · exact ⟨(private_ u e).1, (private_ u e).2, rfl⟩

/-- A step of a thread that has no mutex and changes no attribute. -/
theorem Coherence.outside (coherent : Coherence v p c h) (free : (v t).hold = .free)
    {p' : Phase Obj} (calls : h'.call = Function.update h.call t p'.call)
    (assigned : h'.assigned = h.assigned) (atAcquire : h'.atAcquire = h.atAcquire)
    (begun : p'.stage = .begun) (reads : ∀ r ∈ h'.reads, r.used = r.current)
    (invocations : h'.invocations = h.invocations) :
    Coherence (Function.update v t (v t)) (Function.update p t p') c h' := by
  rw [Function.update_eq_self]
  refine ⟨fun u => ?_, fun u taken => ?_, ?_, fun slot others => ?_, fun u => ?_, reads, ?_⟩
  · rw [calls]
    by_cases e : u = t
    · simp [e]
    · simpa [e] using coherent.calls u
  · rw [assigned, atAcquire]
    exact coherent.entry u taken
  · rw [assigned]
    exact coherent.given
  · rw [assigned]
    refine coherent.held slot fun u taken => ?_
    have e : u ≠ t := by
      rintro rfl
      exact taken free
    simpa [e] using others u taken
  · by_cases e : u = t
    · subst e
      rw [Function.update_self]
      exact known_begun c h' u _ begun
    · rw [Function.update_of_ne e]
      exact (coherent.known u).frame rfl rfl (congrFun atAcquire u) fun _ => ⟨rfl, rfl⟩
  · rw [invocations]
    exact coherent.invocations

/-! ## One step -/

omit [DecidableEq Tid] in
theorem Holds.congr (h : Holds c slot value) (field : c'.field slot = c.field slot)
    (registered : c'.registered slot = c.registered slot) : Holds c' slot value :=
  ⟨field.trans h.field, by rw [registered]; exact h.registered⟩

omit [DecidableEq Tid] in
/-- A call assigns one attribute. -/
theorem assigning_other {stage : Stage} {other : Slot} (apart : other ≠ slot) :
    (⟨.assign slot value n, stage⟩ : Phase Obj).assigning ≠ some other := by
  cases stage <;> simp [Phase.assigning, Ne.symm apart]

/-- A step of an assignment changes the one attribute, and says what it has reached. -/
theorem Coherence.assign (coherent : Coherence v p c h) {before after : Stage}
    (taken : (v t).hold ≠ .free) (alone : Alone v t)
    (phase : p t = ⟨.assign slot value n, before⟩)
    (assigning : (⟨.assign slot value n, after⟩ : Phase Obj).assigning = some slot)
    (others : ∀ other, other ≠ slot →
      c'.field other = c.field other ∧ c'.registered other = c.registered other)
    (locals : c'.fn = c.fn ∧ c'.callback = c.callback)
    (known : Known c' h t ((v t).hold ≠ .free) ⟨.assign slot value n, after⟩) :
    Coherence (Function.update v t (v t))
      (Function.update p t ⟨.assign slot value n, after⟩) c' h := by
  refine coherent.under taken alone (by rw [phase]) (fun other different => ?_) known
    (fun u _ => ⟨congrFun locals.1 u, congrFun locals.2 u⟩)
  have apart : other ≠ slot := by
    rintro rfl
    exact different assigning
  have same := others other apart
  have held : Holds c other (h.assigned other) := coherent.heldBy alone fun _ => by
    rw [phase]
    exact assigning_other apart
  exact held.congr same.1 same.2

theorem Coherence.clear (coherent : Coherence v p c h) (taken : (v t).hold ≠ .free)
    (alone : Alone v t) (phase : p t = ⟨.assign slot value n, .begun⟩) :
    Coherence (Function.update v t (v t))
      (Function.update p t ⟨.assign slot value n, .cleared⟩) (c.act t (.clear slot)) h :=
  coherent.assign taken alone phase rfl
    (fun _ apart => ⟨Function.update_of_ne apart _ _, rfl⟩) ⟨rfl, rfl⟩
    (fun _ => Function.update_self _ _ _)

theorem Coherence.store (coherent : Coherence v p c h) (taken : (v t).hold ≠ .free)
    (alone : Alone v t) (phase : p t = ⟨.assign slot value n, .cleared⟩)
    (present : value.unset ≠ .null) :
    Coherence (Function.update v t (v t))
      (Function.update p t ⟨.assign slot value n, .stored⟩)
      (c.act t (.store slot value.unset)) h :=
  coherent.assign taken alone phase rfl
    (fun _ apart => ⟨Function.update_of_ne apart _ _, rfl⟩) ⟨rfl, rfl⟩
    (fun _ => ⟨Function.update_self _ _ _, present⟩)

theorem Coherence.setCb (coherent : Coherence v p c h) {stage : Stage} {f : CFunction}
    (taken : (v t).hold ≠ .free) (alone : Alone v t)
    (phase : p t = ⟨.assign slot value n, stage⟩) (field : c.field slot = value.unset)
    (registers : f = .pygpgme ↔ value.unset ≠ .null) :
    Coherence (Function.update v t (v t))
      (Function.update p t ⟨.assign slot value n, .registered⟩) (c.act t (.setCb slot f)) h :=
  coherent.assign taken alone phase rfl
    (fun _ apart => ⟨rfl, Function.update_of_ne apart _ _⟩) ⟨rfl, rfl⟩
    (fun _ => ⟨field, by simpa [Ctx.act] using registers⟩)

theorem Coherence.getCb (coherent : Coherence v p c h) (taken : (v t).hold ≠ .free)
    (alone : Alone v t) (phase : p t = ⟨.read slot, .begun⟩) :
    Coherence (Function.update v t (v t)) (Function.update p t ⟨.read slot, .got⟩)
      (c.act t (.getCb slot)) h := by
  refine coherent.under taken alone (by rw [phase]) (fun other _ => ?_) (fun _ => ?_)
    (fun u e => ⟨Function.update_of_ne e _ _, rfl⟩)
  · have before : Holds c other (h.assigned other) :=
      coherent.heldBy alone fun _ => by simp [phase, Phase.assigning]
    exact before.congr rfl rfl
  · exact Function.update_self _ _ _

omit [DecidableEq Tid] in
/-- The function registered with gpgme says which of the two a getter returns. -/
theorem Holds.chosen (h : Holds c slot value) (given : value ≠ .null) :
    (match c.registered slot with
      | .pygpgme => c.field slot
      | .null => .none) = value := by
  cases value with
  | object o =>
    have registered := h.registered.mpr (by simp [Pointer.unset])
    simp [registered, h.field, Pointer.unset]
  | none =>
    have unregistered : c.registered slot ≠ .pygpgme := by
      simp [h.registered, Pointer.unset]
    cases found : c.registered slot with
    | null => rfl
    | pygpgme => exact absurd found unregistered
  | null => exact absurd rfl given

theorem act_choose (c : Ctx Tid Obj) (t : Tid) (slot : Slot) :
    (c.act t (.choose slot)).callback t =
      match c.fn t with
      | .pygpgme => c.field slot
      | .null => .none := by
  simp only [Ctx.act]
  cases c.fn t <;> simp

theorem Coherence.choose (coherent : Coherence v p c h) (taken : (v t).hold ≠ .free)
    (alone : Alone v t) (phase : p t = ⟨.read slot, .got⟩) :
    Coherence (Function.update v t (v t)) (Function.update p t ⟨.read slot, .chosen⟩)
      (c.act t (.choose slot)) h := by
  have before : ∀ other, Holds c other (h.assigned other) := fun other =>
    coherent.heldBy alone fun _ => by simp [phase, Phase.assigning]
  have got : c.fn t = c.registered slot := by
    have known := coherent.known t
    rw [phase] at known
    exact known taken
  have right := (before slot).chosen (coherent.given slot)
  rw [← got, ← congrFun (coherent.entry t taken) slot] at right
  have others : ∀ u, u ≠ t → (c.act t (.choose slot)).fn u = c.fn u ∧
      (c.act t (.choose slot)).callback u = c.callback u := by
    intro u e
    simp only [Ctx.act]
    split <;> simp [e]
  refine coherent.under taken alone (by rw [phase]) (fun other _ => ?_) ?_ others
  · refine (before other).congr ?_ ?_ <;> simp only [Ctx.act] <;> split <;> rfl
  · exact (act_choose c t slot).trans right

theorem Coherence.callFunction (coherent : Coherence v p c h) {m : Source.Threads.Method}
    (alone : (v t).hold ≠ .free → Alone v t) (phase : p t = ⟨.operation m, .calling slot⟩) :
    Coherence (Function.update v t (v t)) (Function.update p t ⟨.operation m, .begun⟩)
      c (h.note t (.act (.callFunction slot)) c) := by
  obtain ⟨taken, registered⟩ : (v t).hold ≠ .free ∧ c.registered slot = .pygpgme := by
    have known := coherent.known t
    rw [phase] at known
    exact known
  have before : ∀ other, Holds c other (h.assigned other) := fun other =>
    coherent.heldBy (alone taken) fun _ => by simp [phase, Phase.assigning]
  have called : c.field slot = h.atAcquire t slot := by
    have right := (before slot).chosen (coherent.given slot)
    rw [registered] at right
    rw [congrFun (coherent.entry t taken) slot]
    exact right
  have callable : ∃ o, c.field slot = .object o := by
    have present : c.field slot ≠ .null := by
      rw [(before slot).field]
      exact (before slot).registered.mp registered
    rw [(before slot).field] at present ⊢
    revert present
    cases h.assigned slot <;> simp [Pointer.unset]
  refine coherent.alone (alone taken) ?_ (coherent.entry t) coherent.given
    (fun other _ => before other) trivial (fun _ _ => ⟨rfl, rfl, rfl⟩) coherent.reads ?_
  · have made : h.call t = .operation m := by rw [coherent.calls t, phase]
    simp only [History.note]
    rw [← made, Function.update_eq_self]
  · intro i mem
    rcases List.mem_cons.mp mem with rfl | older
    · exact ⟨called, callable⟩
    · exact coherent.invocations i older

/-- gpgme has found a registered function and calls it. -/
theorem Coherence.calling (coherent : Coherence v p c h) {m : Source.Threads.Method}
    (taken : (v t).hold ≠ .free) (alone : Alone v t) (phase : p t = ⟨.operation m, .begun⟩)
    (registered : c.registered slot = .pygpgme) :
    Coherence v (Function.update p t ⟨.operation m, .calling slot⟩) c h := by
  have told : Coherence (Function.update v t (v t))
      (Function.update p t ⟨.operation m, .calling slot⟩) c h := by
    refine coherent.under taken alone (by rw [phase]) (fun other _ => ?_) ⟨taken, registered⟩
      fun _ _ => ⟨rfl, rfl⟩
    exact coherent.heldBy alone fun _ => by simp [phase, Phase.assigning]
  rwa [Function.update_eq_self] at told

theorem Coherence.acquire (coherent : Coherence v p c h) {path : Path}
    (free : (v t).hold = .free) (alone : Alone v t) (begun : (p t).stage = .begun) :
    Coherence (Function.update v t { v t with hold := .taken path })
      (Function.update p t (p t)) c (h.note t (.acquire path) c) := by
  refine coherent.alone alone ?_ (fun _ => Function.update_self _ _ _) coherent.given
    (fun slot _ => coherent.heldBy alone fun taken => absurd free taken)
    (known_begun _ _ _ _ begun) (fun u e => ⟨rfl, rfl, Function.update_of_ne e _ _⟩)
    coherent.reads coherent.invocations
  rw [← coherent.calls t, Function.update_eq_self]
  rfl

/-- The assignment takes effect. -/
theorem Coherence.release (coherent : Coherence v p c h) (taken : (v t).hold ≠ .free)
    (alone : Alone v t)
    (finished : ∀ slot value n, (p t).call = .assign slot value n → (p t).stage = .registered)
    (done : ∀ slot, (p t).stage ≠ .calling slot) :
    Coherence (Function.update v t { v t with hold := .free }) (Function.update p t (p t)) c
      (h.note t .release c) := by
  have made := coherent.calls t
  have known := coherent.known t
  have mine : ∀ slot, (p t).assigning ≠ some slot → Holds c slot (h.assigned slot) :=
    fun slot other => coherent.heldBy alone fun _ => other
  have calls : h.call = Function.update h.call t (p t).call := by
    rw [← made, Function.update_eq_self]
  have note : h.note t .release c = h.assign (p t).call := by
    rw [← made]
    rfl
  rw [note]
  cases call : (p t).call with
  | assign slot value n =>
    have phase : p t = ⟨.assign slot value n, .registered⟩ := by
      rw [← call, ← finished slot value n call]
    have now : Holds c slot value := by
      rw [phase] at known
      exact known taken
    refine coherent.alone alone calls (fun free => absurd rfl free) (fun other => ?_)
      (fun other _ => ?_) (known.released (by simp) done rfl) (fun _ _ => ⟨rfl, rfl, rfl⟩)
      coherent.reads coherent.invocations
    · by_cases e : other = slot
      · subst e
        simp only [History.assign, Function.update_self]
        cases value <;> simp [Pointer.shown]
      · simpa [History.assign, e] using coherent.given other
    · by_cases e : other = slot
      · subst e
        simpa [History.assign] using now.shown
      · have before := mine other (by simpa [phase, Phase.assigning] using Ne.symm e)
        simpa [History.assign, e] using before
  | _ =>
    have none_ : ∀ slot, (p t).assigning ≠ some slot := by
      rcases e : p t with ⟨_, stage⟩
      rw [e] at call
      cases call
      cases stage <;> simp [Phase.assigning]
    exact coherent.alone alone calls (fun free => absurd rfl free) coherent.given
      (fun slot _ => mine slot (none_ slot)) (known.released (by simp) done rfl)
      (fun _ _ => ⟨rfl, rfl, rfl⟩) coherent.reads coherent.invocations

theorem Coherence.act (coherent : Coherence v p c h) {a : Act Obj}
    (ok : phaseMonitor.ok (v t) (p t) (.act a)) (alone : (v t).hold ≠ .free → Alone v t) :
    Coherence (Function.update v t (v t)) (Function.update p t ((p t).next (.act a)))
      (c.act t a) (h.note t (.act a) c) := by
  have known := coherent.known t
  cases a with
  | begins call => exact coherent.outside ok rfl rfl rfl rfl coherent.reads rfl
  | clear slot =>
    obtain ⟨taken, value, n, phase⟩ := ok
    rw [phase]
    exact coherent.clear taken (alone taken) phase
  | store slot stored =>
    obtain ⟨taken, value, n, phase, rfl, present⟩ := ok
    rw [phase]
    exact coherent.store taken (alone taken) phase present
  | setCb slot f =>
    obtain ⟨taken, value, n, ⟨phase, rfl⟩ | ⟨phase, rfl, absent⟩⟩ := ok
    · rw [phase] at known ⊢
      obtain ⟨field, present⟩ : c.field slot = value.unset ∧ value.unset ≠ .null := known taken
      exact coherent.setCb taken (alone taken) phase field (by simpa)
    · rw [phase] at known ⊢
      have field : c.field slot = .null := known taken
      exact coherent.setCb taken (alone taken) phase (by rw [field, absent]) (by simp [absent])
  | getCb slot =>
    obtain ⟨taken, phase⟩ := ok
    rw [phase]
    exact coherent.getCb taken (alone taken) phase
  | choose slot =>
    obtain ⟨taken, phase⟩ := ok
    rw [phase]
    exact coherent.choose taken (alone taken) phase
  | returns slot =>
    obtain ⟨free, phase⟩ := ok
    have made := coherent.calls t
    rw [phase] at known made ⊢
    have right : c.callback t = h.atAcquire t slot := known
    refine coherent.outside free ?_ rfl rfl rfl (fun r mem => ?_) rfl
    · exact (Function.update_eq_self_iff.mpr made.symm).symm
    · rcases List.mem_cons.mp mem with rfl | older
      · exact right
      · exact coherent.reads r older
  | callFunction slot =>
    obtain ⟨m, phase⟩ := ok
    rw [phase]
    exact coherent.callFunction alone phase
  | enter f => exact coherent.quiet Iff.rfl
  | leave f => exact coherent.quiet Iff.rfl

theorem Coherence.step (coherent : Coherence v p c h) {i : Instr (Act Obj)}
    {v' : View} (allowed : (v t).next i = some v') (ok : phaseMonitor.ok (v t) (p t) i)
    (alone : (v t).hold ≠ .free ∨ v'.hold ≠ .free → Alone v t) :
    Coherence (Function.update v t v') (Function.update p t ((p t).next i))
      (dataAfter Ctx.act t i c) (h.note t i c) := by
  cases i with
  | acquire path =>
    simp only [View.next, Option.ite_none_right_eq_some, Option.some.injEq] at allowed
    obtain ⟨⟨_, free⟩, rfl⟩ := allowed
    exact coherent.acquire free (alone (.inr (by simp))) ok
  | release =>
    simp only [View.next] at allowed
    split at allowed
    next path mine =>
      cases allowed
      have taken : (v t).hold ≠ .free := by simp [mine]
      exact coherent.release taken (alone (.inl taken)) ok.1 ok.2
    · cases allowed
  | act a =>
    cases allowed
    exact coherent.act ok fun taken => alone (.inl taken)
  | assertState set =>
    have same : v' = v t := by
      simp only [View.next] at allowed
      split at allowed <;> first | exact (Option.some.inj allowed).symm | cases allowed
    rw [same]
    exact coherent.quiet Iff.rfl
  | storeState =>
    simp only [View.next, Option.ite_none_right_eq_some, Option.some.injEq] at allowed
    obtain ⟨⟨_, mine⟩, rfl⟩ := allowed
    have taken : (v t).hold ≠ .free := by
      intro free
      simp [free, Hold.path] at mine
    exact coherent.quiet (by simp [taken])
  | _ =>
    simp only [View.next, Option.ite_none_right_eq_some, Option.some.injEq] at allowed
    exact coherent.quiet (by simp [← allowed.2, allowed.1])

end

/-! ## Runs -/

structure Follow (v : Tid → View) (p : Tid → Phase Obj) (w : World Tid Obj) : Prop where
  tracks : Tracks false phaseMonitor v p w.state
  coherence : Coherence v p w.state.data w.ghost

theorem Follow.new (calls : Tid → List (Call Obj)) :
    Follow (fun _ => View.idle) (fun _ => Phase.new) (World.new calls) := by
  refine ⟨?_, Coherence.new⟩
  refine Tracks.start Ctx.new (fun t => thread_follows (calls t)) fun t => ?_
  obtain ⟨p, passes⟩ := passes_thread (calls t)
  exact passes.along

variable [DecidableEq Tid]

theorem Follow.step {v : Tid → View} {p : Tid → Phase Obj} {w w' : World Tid Obj}
    (h : Follow v p w) {t : Tid} (taken : watch History.note Ctx.act w t = some w') :
    ∃ v' p', Follow v' p' w' := by
  obtain ⟨i, v', allowed, ok, data, ghost, tracks⟩ := h.tracks.watched taken
  refine ⟨_, _, tracks, ?_⟩
  rw [data, ghost]
  refine h.coherence.step allowed ok fun holder u other => ?_
  rcases holder with before | after
  · exact h.tracks.agrees.mutex.others_free before other
  · have holds : (Function.update v t v' t).hold ≠ .free := by simpa using after
    simpa [other] using tracks.agrees.mutex.others_free holds other

/-- gpgme decides to call the registered function. -/
theorem Follow.invoke {v : Tid → View} {p : Tid → Phase Obj} {w w' : World Tid Obj}
    (h : Follow v p w) {t : Tid} {slot : Slot} {body : Nat}
    (called : Source.Registration.invoke w t slot body = some w') : ∃ p', Follow v p' w' := by
  unfold Source.Registration.invoke at called
  split at called
  next f rest hcode registered =>
    cases called
    have along := h.tracks.along t
    simp only [hcode, Monitor.Along, View.next] at along
    obtain ⟨⟨waiting, m, phase⟩, _⟩ := along
    have returns : phaseMonitor.Passes (v t) ⟨.operation m, .calling slot⟩
        (callback slot body : Code Obj) (v t) (p t) := by
      rw [waiting, phase]
      exact passes_callback slot body m
    have taken : (v t).hold ≠ .free := by simp [waiting]
    have alone : Alone v t := fun u other => h.tracks.agrees.mutex.others_free taken other
    exact ⟨_, h.tracks.prepend returns, h.coherence.calling taken alone phase registered⟩
  · cases called


/-- For any number of threads that share one Context, each making any sequence of
assignments, deletions, reads and blocking operations, and for any callbacks gpgme
makes meanwhile: whenever the mutex is free the two copies of each attribute
agree; every read returned, and every callback called, what was current when its
thread took the mutex; and no callback called `NULL` or `None`. -/
theorem registration_coherent (calls : Tid → List (Call Obj)) (w : World Tid Obj)
    (reached : Reachable (context calls) w) : Coherent w := by
  have invariant : ∃ v p, Follow v p w := by
    induction reached with
    | init started =>
      cases started
      exact ⟨_, _, Follow.new calls⟩
    | step l _ _ taken ih =>
      obtain ⟨v, p, h⟩ := ih
      cases l with
      | step t => exact h.step taken
      | invoke t slot body =>
        obtain ⟨p', next⟩ := h.invoke taken
        exact ⟨v, p', next⟩
  obtain ⟨v, p, tracks, coherent⟩ := invariant
  refine ⟨fun unlocked slot => ?_, coherent.reads, coherent.invocations⟩
  have free := tracks.agrees.mutex.free_of_unlocked unlocked
  have holds := coherent.held slot fun t taken => absurd (free t) taken
  rw [holds.field]
  exact holds.registered.symm

/-- One thread sets a passphrase callback and signs, another reads the attribute. -/
def setAndRead : Bool → List (Call Nat)
  | true => [.assign .passphrase (.object 7) 1, .operation .sign]
  | false => [.read .passphrase]

/-- The destructor of the old value lets the reader run up to the mutex; gpgme
asks for the passphrase once. -/
def overlapping : List (Label Bool) :=
  List.replicate 7 (.step true) ++ List.replicate 3 (.step false) ++
    List.replicate 10 (.step true) ++ [.invoke true .passphrase 1] ++
    List.replicate 15 (.step true) ++ List.replicate 6 (.step false)

theorem registration_coherent_setAndRead :
    ∃ w, run (context setAndRead) (World.new setAndRead) overlapping = some w ∧
      w.ghost.reads = [⟨.passphrase, .object 7, .object 7⟩] ∧
      w.ghost.invocations = [⟨.passphrase, .object 7, .object 7⟩] ∧ Coherent w := by
  have executed : ((run (context setAndRead) (World.new setAndRead) overlapping).map
      fun w => (w.ghost.reads, w.ghost.invocations)) =
        some ([⟨.passphrase, .object 7, .object 7⟩], [⟨.passphrase, .object 7, .object 7⟩]) := by
    decide
  obtain ⟨w, hw, uses⟩ := Option.map_eq_some_iff.mp executed
  simp only [Prod.mk.injEq] at uses
  exact ⟨w, hw, uses.1, uses.2,
    registration_coherent setAndRead w (Reachable.of_run _ (.init rfl) hw)⟩

end Pygpgme.Guarantees.CallbackRegistration
