import Pygpgme.Guarantees.LockProtocol

/-!
# One thread at a time inside gpgme

Every accessor and every blocking operation keeps its gpgme calls between taking
and releasing the mutex. Three groups of calls do not: both functions of a key
iterator, the query of `get_engine_info`, and the result functions that methods
call after `end_allow_threads`. `Guarded` programs make none of these calls
outside the mutex; for them the guarantee holds under every interleaving, and a
single call of the three groups is enough to break it.
-/

set_option autoImplicit false

namespace Pygpgme.Guarantees.MutualExclusion
open Pygpgme.Library.LockMachine Pygpgme.Library.Transition Pygpgme.Source.Threads
open Pygpgme.Guarantees.LockProtocol

variable {Tid : Type} [DecidableEq Tid]

/-- At most one thread is inside a gpgme function of the context, and it holds the mutex. -/
def Exclusive (s : World Tid) : Prop :=
  ∀ t, s.data.inside t ≠ [] → s.holding t ≠ none ∧ ∀ u, s.data.inside u ≠ [] → u = t

/-- Every gpgme call that the program reaches is made with the mutex held. Inside
a callback or destructor (`inner`) it is held already, and a locking entry point
used there is never passed. -/
def Prog.Guarded (inner : Bool) : {m : Mode} → Prog m → Prop
  | _, .done => True
  | _, .switch next => Prog.Guarded inner next
  | _, .accessor a destructor next =>
    inner = true ∨
      ((a.destructs = true → Prog.Guarded true destructor) ∧ Prog.Guarded inner next)
  | _, .engineInfo _ _ => inner = true
  | _, .keyIter _ next => inner = true ∧ Prog.Guarded inner next
  | _, .operation m o callbacks next =>
    inner = true ∨
      (m.readsResult o = false ∧ Prog.Guarded true callbacks ∧ Prog.Guarded inner next)
  | _, .callback _ body next => Prog.Guarded true body ∧ Prog.Guarded inner next

/-- The gpgme calls a thread is inside of. It may enter one with the mutex only,
and gives the mutex back outside all of them. -/
def insideMonitor : Monitor Act (List GpgmeFn) where
  next := fun ins i =>
    match i with
    | .act (.enter f) => f :: ins
    | .act (.leave _) => ins.tail
    | _ => ins
  ok := fun v ins i =>
    match i with
    | .act (.enter _) => v.hold ≠ .free
    | .release => ins = []
    | _ => True

theorem insideMonitor_unconcerned : insideMonitor.Unconcerned where
  same := by
    intro ins i silent
    cases i <;> simp_all [insideMonitor, quiet]
  ok := by
    intro v ins i silent
    cases i <;> simp_all [insideMonitor, quiet]

/-! ## Straight-line pieces -/

theorem passes_calls {v : View} (held : v.hold ≠ .free) (ins : List GpgmeFn)
    (fs : List GpgmeFn) : insideMonitor.Passes v ins (fs.flatMap call) v ins := by
  induction fs with
  | nil => exact Monitor.Passes.nil _ v ins
  | cons f fs ih =>
    have once : insideMonitor.Passes v ins (call f) v ins :=
      ⟨rfl, ⟨held, trivial, trivial⟩, rfl⟩
    rw [List.flatMap_cons]
    exact once.append ih

theorem passes_keyIter {hold : Hold} (held : hold ≠ .free) (ins : List GpgmeFn)
    (k : KeyIterCall) :
    insideMonitor.Passes (Mode.python.view hold) ins k.code (Mode.python.view hold) ins := by
  cases k with
  | next => exact ⟨rfl, ⟨trivial, held, trivial, trivial, trivial⟩, rfl⟩
  | dealloc => exact ⟨rfl, ⟨held, trivial, trivial⟩, rfl⟩

theorem passes_unlockContext :
    insideMonitor.Passes (Mode.python.view (.taken .plain)) [] unlockContext
      (Mode.python.view .free) [] :=
  ⟨rfl, ⟨rfl, trivial⟩, rfl⟩

/-- Up to and including the call of the operation. -/
theorem passes_begin (f : GpgmeFn) :
    insideMonitor.Passes (Mode.python.view .free) [] (beginAllowThreads ++ [.act (.enter f)])
      (Mode.gpgme.view .stored) [f] :=
  ⟨rfl, ⟨trivial, trivial, trivial, trivial, (by decide : Hold.stored ≠ Hold.free), trivial⟩, rfl⟩

/-- From the return of the operation. -/
theorem passes_end (f : GpgmeFn) :
    insideMonitor.Passes (Mode.gpgme.view .stored) [f] ([.act (.leave f)] ++ endAllowThreads)
      (Mode.python.view .free) [] :=
  ⟨rfl, ⟨trivial, trivial, trivial, trivial, trivial, rfl, trivial⟩, rfl⟩

/-- A method that reads no result does nothing with gpgme after its operation. -/
theorem epilogue_quiet {m : Method} {o : Outcome} (quiet : m.readsResult o = false) :
    m.epilogue o = checkError o.err := by
  cases m <;> simp_all [Method.readsResult, Method.epilogue]

/-! ## Programs -/

/-- A guarded program meets the monitor, provided what follows it does. Outside
callbacks it starts with no gpgme call open. -/
theorem Prog.Guarded.along {m : Mode} (p : Prog m) {inner : Bool} {hold : Hold}
    {ins : List GpgmeFn} {rest : Code} (guarded : Prog.Guarded inner p)
    (inside : inner = true → hold ≠ .free) (outside : inner = false → hold = .free ∧ ins = [])
    (after : insideMonitor.Along (m.view hold) ins rest) :
    insideMonitor.Along (m.view hold) ins (p.code ++ rest) := by
  induction p generalizing inner hold ins rest with
  | done => exact after
  | switch next ih =>
    rw [Prog.code, List.append_assoc]
    exact (passes_gilSwitch insideMonitor_unconcerned hold ins).then (ih guarded inside outside after)
  | accessor a destructor next ihd ih =>
    obtain ⟨fs, _, shape⟩ := a.code_shape destructor.code
    simp only [Prog.code, shape, locked, List.append_assoc]
    cases inner with
    | true => exact along_lockContext_held insideMonitor_unconcerned (inside rfl) ins _
    | false =>
      obtain ⟨rfl, rfl⟩ := outside rfl
      simp only [Prog.Guarded, Bool.false_eq_true, false_or] at guarded
      have unlocked := passes_unlockContext.then (ih guarded.2 inside outside after)
      have held : Hold.taken .plain ≠ .free := by simp
      have called := (passes_calls held [] fs).then unlocked
      refine (passes_lockContext insideMonitor_unconcerned []).then ?_
      split
      next destructs => exact ihd (guarded.1 destructs) (by simp) (by simp) called
      · exact called
  | engineInfo infos next ih =>
    simp only [Prog.code, contextGetEngineInfo, List.append_assoc]
    exact ⟨inside guarded, trivial, along_lockContext_held insideMonitor_unconcerned (inside guarded) ins _⟩
  | keyIter k next ih =>
    rw [Prog.code, List.append_assoc]
    exact (passes_keyIter (inside guarded.1) ins k).then (ih guarded.2 inside outside after)
  | operation m o callbacks next ihc ih =>
    simp only [Prog.code, Method.code, blocking, List.append_assoc]
    cases inner with
    | true => exact along_beginAllowThreads_held insideMonitor_unconcerned (inside rfl) ins _
    | false =>
      obtain ⟨rfl, rfl⟩ := outside rfl
      simp only [Prog.Guarded, Bool.false_eq_true, false_or] at guarded
      obtain ⟨quiet, inCallbacks, inRest⟩ := guarded
      have checked := (passes_checkError insideMonitor_unconcerned .free [] o.err).then (ih inRest inside outside after)
      have left := (passes_end m.op).then checked
      have called := (passes_begin m.op).then (ihc inCallbacks (by simp) (by simp) left)
      simpa only [epilogue_quiet quiet, List.append_assoc] using called
  | callback c body next ihb ih =>
    simp only [Prog.code, c.code_eq, callbackFrame, List.append_assoc]
    have stored : insideMonitor.Along (Mode.gpgme.view hold) ins (next.code ++ rest) :=
      ih guarded.2 inside outside after
    have ran : insideMonitor.Along (Mode.python.view .stored) ins
        (body.code ++ (([.saveThread, .storeState] : Code) ++ (next.code ++ rest))) :=
      ihb guarded.1 (by simp) (by simp) ⟨trivial, trivial, stored⟩
    exact ⟨trivial, trivial, trivial, ran⟩

theorem thread_guarded {p : Prog .python} (guarded : Prog.Guarded false p) :
    insideMonitor.Along View.idle [] (threadCode p) := by
  have left : insideMonitor.Along (Mode.python.view .free) [] ([.saveThread] : Code) :=
    ⟨trivial, trivial⟩
  rw [threadCode, List.append_assoc]
  exact ⟨trivial, guarded.along p (by simp) (fun _ => ⟨rfl, rfl⟩) left⟩

/-- The recorded gpgme calls are the ones the monitors know of, and only the
holder of the mutex has any. -/
structure Guards (v : Tid → View) (ins : Tid → List GpgmeFn) (s : World Tid) : Prop where
  tracks : Tracks true insideMonitor v ins s
  recorded : ∀ t, s.data.inside t = ins t
  held : ∀ t, ins t ≠ [] → (v t).hold ≠ .free

theorem inside_act (t : Tid) (a : Act) (c : Ctx Tid) :
    (c.act t a).inside = Function.update c.inside t (insideMonitor.next (c.inside t) (.act a)) := by
  cases a with
  | enter f => cases starts : f.startsOperation <;> simp [Ctx.act, insideMonitor, starts]
  | leave f =>
    cases starts : f.startsOperation <;> cases reads : f.isResult <;>
      simp [Ctx.act, insideMonitor, starts, reads]
  | build f => simp [Ctx.act, insideMonitor]

theorem inside_step (t : Tid) (i : Instr Act) (c : Ctx Tid) :
    (dataAfter Ctx.act t i c).inside =
      Function.update c.inside t (insideMonitor.next (c.inside t) i) := by
  cases i with
  | act a => exact inside_act t a c
  | _ => simp [dataAfter, insideMonitor]

theorem Guards.step {v : Tid → View} {ins : Tid → List GpgmeFn} {s s' : World Tid}
    (h : Guards v ins s) {t : Tid} (taken : step Ctx.act s t = some s') :
    ∃ v' ins', Guards v' ins' s' := by
  obtain ⟨i, rest, v', hcode, allowed, ok, _, hdata, tracks⟩ := h.tracks.step taken
  refine ⟨_, _, tracks, fun u => ?_, fun u hu => ?_⟩
  · rw [hdata, inside_step, h.recorded t]
    by_cases e : u = t
    · simp [e]
    · simp [e, h.recorded u]
  · by_cases e : u = t
    · subst e
      simp only [Function.update_self] at hu ⊢
      -- Inside a call before or entering one: the step does not give the mutex back.
      by_cases empty : ins u = []
      · cases i with
        | act a =>
          cases allowed
          cases a with
          | enter f => exact ok
          | leave f => simp [insideMonitor, empty] at hu
          | build f => exact absurd empty hu
        | _ => exact absurd empty hu
      · refine View.next_keeps_hold allowed ?_ (h.held u empty)
        rintro rfl
        exact empty ok
    · simp only [Function.update_of_ne e] at hu ⊢
      exact h.held u hu

omit [DecidableEq Tid] in
theorem Guards.exclusive {v : Tid → View} {ins : Tid → List GpgmeFn} {s : World Tid}
    (h : Guards v ins s) : Exclusive s := by
  intro t ht
  rw [h.recorded t] at ht
  refine ⟨(holding_iff h.tracks.agrees t).mpr (h.held t ht), fun u hu => ?_⟩
  rw [h.recorded u] at hu
  exact h.tracks.agrees.mutex.unique u t (h.held u hu) (h.held t ht)

theorem exclusive_of_guarded {prog : Tid → Prog .python}
    (guarded : ∀ t, Prog.Guarded false (prog t)) {s : World Tid}
    (reached : Reachable (context prog) s) : Exclusive s := by
  have invariant : ∃ v ins, Guards v ins s := by
    induction reached with
    | init started =>
      cases started
      exact ⟨_, _, Tracks.start _ (fun t => thread_follows (prog t))
        (fun t => thread_guarded (guarded t)), fun _ => rfl, fun _ h => absurd rfl h⟩
    | step t _ _ taken ih =>
      obtain ⟨v, ins, h⟩ := ih
      exact h.step taken
  obtain ⟨v, ins, h⟩ := invariant
  exact h.exclusive

/-! ## Each unguarded call is enough to break the guarantee -/

/-- A split of `code` at a gpgme call that the thread reaches without the mutex. -/
def ReachesUnlockedCall (v : View) (code : Code) : Prop :=
  ∃ pre f post v', code = pre ++ .act (.enter f) :: post ∧ v.run pre = some v' ∧ v'.hold = .free

theorem ReachesUnlockedCall.append_left {v w : View} {pre code : Code}
    (first : v.run pre = some w) (h : ReachesUnlockedCall w code) :
    ReachesUnlockedCall v (pre ++ code) := by
  obtain ⟨pre', f, post, v', rfl, allowed, free⟩ := h
  refine ⟨pre ++ pre', f, post, v', by simp, ?_, free⟩
  rw [View.run_append, first, Option.bind_some, allowed]

theorem ReachesUnlockedCall.append_right {v : View} {code : Code}
    (h : ReachesUnlockedCall v code) (rest : Code) : ReachesUnlockedCall v (code ++ rest) := by
  obtain ⟨pre, f, post, v', rfl, allowed, free⟩ := h
  exact ⟨pre, f, post ++ rest, v', by simp, allowed, free⟩

theorem reaches_call (f : GpgmeFn) (rest : Code) :
    ReachesUnlockedCall (Mode.python.view .free) (call f ++ rest) :=
  ⟨[], f, .act (.leave f) :: rest, _, rfl, rfl, rfl⟩

/-- Every method that reads a result does so after it gave the mutex back. -/
theorem epilogue_reaches {m : Method} {o : Outcome} (reads : m.readsResult o = true) :
    ReachesUnlockedCall (Mode.python.view .free) (m.epilogue o) := by
  have check := run_checkError .free o.err
  cases m with
  | encrypt =>
    have failed : o.err = true := reads
    simp only [Method.epilogue, failed, if_true]
    exact (reaches_call _ _).append_left (failed ▸ check)
  | decrypt =>
    have failed : o.err = true := reads
    simp only [Method.epilogue, failed, if_true, decodeDecryptResult, List.append_assoc]
    exact (reaches_call _ _).append_left (failed ▸ check)
  | decryptVerify =>
    rw [Method.epilogue]
    refine ReachesUnlockedCall.append_left check ?_
    split
    · rw [decodeDecryptResult, List.append_assoc]
      exact reaches_call _ _
    · exact reaches_call _ _
  | encryptSign | sign | verify | import_ | importKeys | genkey =>
    simp only [Method.epilogue, importResult, genkeyResult, List.append_assoc]
    exact reaches_call _ _
  | _ => simp [Method.readsResult] at reads

/-- Under a callback or destructor a flat program has the mutex for all its calls. -/
theorem guarded_of_flat_inner {m : Mode} (p : Prog m) (flat : p.Flat true) :
    Prog.Guarded true p := by
  induction p with
  | done => trivial
  | switch next ih => exact ih flat
  | accessor a destructor next ihd ih => exact .inl rfl
  | engineInfo infos next ih => exact rfl
  | keyIter k next ih => exact ⟨rfl, ih flat⟩
  | operation m o callbacks next ihc ih => exact .inl rfl
  | callback c body next ihb ih => exact ⟨ihb flat.1, ih flat.2⟩

theorem unguarded_reaches (p : Prog .python) (flat : p.Flat false)
    (unguarded : ¬ Prog.Guarded false p) :
    ReachesUnlockedCall (Mode.python.view .free) p.code := by
  match p with
  | .done => exact absurd trivial unguarded
  | .switch next =>
    exact (unguarded_reaches next flat unguarded).append_left (run_gilSwitch .free)
  | .accessor a destructor next =>
    have del : a.destructs = true → Prog.Guarded true destructor :=
      fun h => guarded_of_flat_inner destructor (flat.2.1 h)
    have rest : ¬ Prog.Guarded false next := fun h => unguarded (.inr ⟨del, h⟩)
    exact (unguarded_reaches next flat.2.2 rest).append_left
      (run_accessor a fun h => Prog.Flat.run destructor (by simp) (flat.2.1 h))
  | .engineInfo infos next =>
    simp only [Prog.code, contextGetEngineInfo, List.append_assoc]
    exact reaches_call _ _
  | .keyIter .next next =>
    exact ⟨[.saveThread], .opKeylistNext, _, ⟨false, .free, true⟩, rfl, rfl, rfl⟩
  | .keyIter .dealloc next => exact reaches_call _ _
  | .operation m o callbacks next =>
    have ran : (Mode.gpgme.view .stored).run callbacks.code = some (Mode.gpgme.view .stored) :=
      Prog.Flat.run callbacks (by simp) flat.2.1
    by_cases reads : m.readsResult o = true
    · have entered := run_blocking m.op ran
      rw [Prog.code, Method.code]
      exact ((epilogue_reaches reads).append_left entered).append_right _
    · have cbs := guarded_of_flat_inner callbacks flat.2.1
      have rest : ¬ Prog.Guarded false next :=
        fun h => unguarded (.inr ⟨by simpa using reads, cbs, h⟩)
      exact (unguarded_reaches next flat.2.2 rest).append_left (run_operation m o ran)

theorem not_exclusive_of_unguarded {prog : Tid → Prog .python} {t : Tid}
    (flat : (prog t).Flat false) (unguarded : ¬ Prog.Guarded false (prog t)) :
    ∃ s, Reachable (context prog) s ∧ ¬ Exclusive s := by
  obtain ⟨pre, f, post, v', hcode, allowed, free⟩ := unguarded_reaches (prog t) flat unguarded
  have initial : Reachable (context prog) (start (fun t => threadCode (prog t)) Ctx.new) :=
    .init rfl
  have split : (start (fun t => threadCode (prog t)) (Ctx.new : Ctx Tid)).code t =
      (.restoreThread :: pre) ++ (.act (.enter f) :: (post ++ [.saveThread])) := by
    simp [start, threadCode, hcode]
  have arrives : View.idle.run (.restoreThread :: pre) = some v' := allowed
  obtain ⟨s, reached, stands, agrees⟩ :=
    (Agrees.start _ Ctx.new).solo (fun _ _ => ⟨rfl, rfl⟩) initial split arrives
  have unheld : s.holding t = none := by
    have := (holding_iff agrees t).not
    simpa [free] using this
  have taken : step Ctx.act s t = some { s with
      data := s.data.act t (.enter f)
      code := Function.update s.code t (post ++ [.saveThread]) } := by
    simp only [step, stands, exec, Option.map_some]
  refine ⟨_, .step t reached trivial taken, fun exclusive => ?_⟩
  have open_call : (s.data.act t (.enter f)).inside t ≠ [] := by
    simp [inside_act, insideMonitor]
  exact (exclusive t open_call).1 unheld

/-- At most one thread is inside a gpgme function of the context, and it holds
the mutex, in every reachable state of every program that makes no gpgme call
outside the mutex. For programs whose callbacks leave the Context alone this is
the only way: one call of a key iterator, of `get_engine_info`, or of a method
that reads a result already breaks it. -/
theorem gpgme_calls_exclusive (prog : Tid → Prog .python) :
    ((∀ t, Prog.Guarded false (prog t)) → ∀ s, Reachable (context prog) s → Exclusive s) ∧
      ((∀ t, (prog t).Flat false) → (∀ s, Reachable (context prog) s → Exclusive s) →
        ∀ t, Prog.Guarded false (prog t)) := by
  refine ⟨fun guarded s reached => exclusive_of_guarded guarded reached, fun flat exclusive t => ?_⟩
  by_contra unguarded
  obtain ⟨s, reached, broken⟩ := not_exclusive_of_unguarded (flat t) unguarded
  exact broken (exclusive s reached)

/-- One thread exports a key while another assigns a list of two signers. -/
def exportAndAssign : Bool → Prog .python
  | true => .operation .export_ ⟨false, 0, 0, 0, 0⟩ (.callback .write .done .done) .done
  | false => .accessor (.setSigners 2) .done .done

theorem gpgme_calls_exclusive_exportAndAssign :
    (∀ s, Reachable (context exportAndAssign) s → Exclusive s) ∧
      ∀ t, Prog.Guarded false (exportAndAssign t) := by
  have guarded : ∀ t, Prog.Guarded false (exportAndAssign t) := by
    intro t
    cases t <;> simp [exportAndAssign, Prog.Guarded, Accessor.destructs, Method.readsResult]
  have flat : ∀ t, (exportAndAssign t).Flat false := by
    intro t
    cases t <;> simp [exportAndAssign, Prog.Flat, Accessor.destructs]
  have exclusive := (gpgme_calls_exclusive exportAndAssign).1 guarded
  exact ⟨exclusive, (gpgme_calls_exclusive exportAndAssign).2 flat exclusive⟩

/-- `next()` on a key iterator while another thread reads `ctx.armor`. -/
def nextAndGetArmor : Bool → Prog .python
  | true => .keyIter .next .done
  | false => .accessor .getArmor .done .done

theorem nextAndGetArmor_not_exclusive :
    ¬ ∀ s, Reachable (context nextAndGetArmor) s → Exclusive s := by
  intro exclusive
  have executed : ((run (context nextAndGetArmor)
      (start (fun t => threadCode (nextAndGetArmor t)) Ctx.new)
      [true, true, true, false, false, false, false, false]).map
        fun s => (s.data.inside true, s.data.inside false)) =
        some ([.opKeylistNext], [.getArmor]) := by decide
  obtain ⟨s, hs, both⟩ := Option.map_eq_some_iff.mp executed
  simp only [Prod.mk.injEq] at both
  have broken := exclusive s (Reachable.of_run _ (.init rfl) hs) true
    (by simp [both.1])
  have same : false = true := broken.2 false (by simp [both.2])
  cases same

end Pygpgme.Guarantees.MutualExclusion
