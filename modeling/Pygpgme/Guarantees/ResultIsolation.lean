import Pygpgme.Guarantees.MutualExclusion

/-!
# Whose result a method converts

A method gives the mutex back before it asks gpgme for the result of its
operation. What it then converts is its own result as long as no other thread
starts an operation before the last conversion; the mutex alone does not see to
that. The guarantee is about all runs in which no operation starts while another
thread still has a result to read.
-/

set_option autoImplicit false

namespace Pygpgme.Guarantees.ResultIsolation
open Pygpgme.Library.LockMachine Pygpgme.Library.Transition Pygpgme.Source.Threads
open Pygpgme.Guarantees.LockProtocol

variable {Tid : Type}

/-- The conversion reads the result that the operation of the same call left, and
gpgme has not discarded that result yet. -/
def Right (b : Built Tid) : Prop :=
  b.source = some (b.thread, b.own) ∧ b.current = b.source

/-- Every conversion made so far was right. -/
def Isolated (s : World Tid) : Prop := ∀ b ∈ s.data.built, Right b

/-- The code reads or converts a result before it starts another operation. -/
def readsAhead : Code → Bool
  | [] => false
  | .act (.enter f) :: rest => !f.startsOperation && (f.isResult || readsAhead rest)
  | .act (.leave f) :: rest => f.isResult || readsAhead rest
  | .act (.build _) :: _ => true
  | _ :: rest => readsAhead rest

/-- The instruction makes gpgme start an operation. -/
def startsOperation : Instr Act → Bool
  | .act (.enter f) => f.startsOperation
  | _ => false

/-- No thread starts an operation while another one has a result to read. -/
def NoOverlap (s : World Tid) (t : Tid) : Prop :=
  ∀ i rest, s.code t = i :: rest → startsOperation i = true →
    ∀ u, u ≠ t → readsAhead (s.code u) = false

theorem readsAhead_cons {i : Instr Act} {rest : Code} (quiet : startsOperation i = false)
    (ahead : readsAhead rest = true) : readsAhead (i :: rest) = true := by
  cases i with
  | act a =>
    cases a with
    | enter f =>
      have notStart : f.startsOperation = false := quiet
      simp [readsAhead, ahead, notStart]
    | leave f => simp [readsAhead, ahead]
    | build f => rfl
  | _ => exact ahead

/-! ## What a thread knows of its own operation -/

/-- `ready` after an operation, with the result functions called since. -/
inductive Phase where
  | idle | running | ready (fetched : List GpgmeFn)
  deriving DecidableEq, Repr

def Phase.fetch (f : GpgmeFn) : Phase → Phase
  | .ready fs => .ready (f :: fs)
  | p => p

def Phase.next (p : Phase) : Instr Act → Phase
  | .act (.enter f) => if f.startsOperation then .running else p
  | .act (.leave f) =>
    if f.startsOperation then .ready [] else if f.isResult then p.fetch f else p
  | _ => p

/-- An operation runs under the mutex to its end; results are fetched after it,
and only fetched results are converted. -/
def phaseMonitor : Monitor Act Phase where
  next := Phase.next
  ok := fun v p i =>
    match i with
    | .act (.enter f) => f.startsOperation = true → v.hold ≠ .free
    | .act (.leave f) =>
      (f.startsOperation = true → p = .running) ∧ (f.isResult = true → ∃ fs, p = .ready fs)
    | .act (.build f) => ∃ fs, p = .ready fs ∧ f ∈ fs
    | .release => p ≠ .running
    | _ => True

theorem phaseMonitor_unconcerned : phaseMonitor.Unconcerned where
  same := by
    intro p i silent
    cases i <;> simp_all [phaseMonitor, Phase.next, quiet]
  ok := by
    intro v p i silent
    cases i <;> simp_all [phaseMonitor, quiet]

/-! ## Straight-line pieces -/

/-- A gpgme call that neither starts an operation nor reads a result. -/
theorem passes_call (v : View) (p : Phase) {f : GpgmeFn}
    (plain : f.startsOperation = false ∧ f.isResult = false) :
    phaseMonitor.Passes v p (call f) v p := by
  refine ⟨rfl, ⟨?_, ⟨?_, trivial⟩⟩, ?_⟩
  · simp [phaseMonitor, plain]
  · simp [phaseMonitor, plain]
  · simp [Monitor.after, call, phaseMonitor, Phase.next, plain]

theorem passes_calls (v : View) (p : Phase) {fs : List GpgmeFn}
    (plain : ∀ f ∈ fs, f.startsOperation = false ∧ f.isResult = false) :
    phaseMonitor.Passes v p (fs.flatMap call) v p := by
  induction fs with
  | nil => exact Monitor.Passes.nil _ v p
  | cons f fs ih =>
    rw [List.flatMap_cons]
    exact (passes_call v p (plain f (by simp))).append (ih fun g hg => plain g (by simp [hg]))

theorem passes_fetch (v : View) (f : GpgmeFn) (fs : List GpgmeFn)
    (reads : f.startsOperation = false ∧ f.isResult = true) :
    phaseMonitor.Passes v (.ready fs) (call f) v (.ready (f :: fs)) := by
  refine ⟨rfl, ⟨?_, ⟨?_, trivial⟩⟩, ?_⟩
  · simp [phaseMonitor, reads]
  · simp [phaseMonitor, Phase.next, reads]
  · simp [Monitor.after, call, phaseMonitor, Phase.next, Phase.fetch, reads]

theorem passes_keyIter (hold : Hold) (p : Phase) (k : KeyIterCall) :
    phaseMonitor.Passes (Mode.python.view hold) p k.code (Mode.python.view hold) p := by
  cases k with
  | next =>
    refine ⟨rfl, ⟨trivial, ?_, ?_, trivial, trivial⟩, rfl⟩
    · simp [phaseMonitor, GpgmeFn.startsOperation]
    · simp [phaseMonitor, GpgmeFn.startsOperation, GpgmeFn.isResult]
  | dealloc => exact passes_call _ p (by decide)

theorem passes_convert (hold : Hold) (f : GpgmeFn) {fs : List GpgmeFn} (fetched : f ∈ fs)
    (length : Nat) :
    phaseMonitor.Passes (Mode.python.view hold) (.ready fs) (convert f length)
      (Mode.python.view hold) (.ready fs) := by
  have build : phaseMonitor.Passes (Mode.python.view hold) (.ready fs) [.act (.build f)]
      (Mode.python.view hold) (.ready fs) := ⟨rfl, ⟨⟨fs, rfl, fetched⟩, trivial⟩, rfl⟩
  have item := (passes_gilSwitch phaseMonitor_unconcerned hold (.ready fs)).append build
  exact build.append (item.replicate length)

theorem passes_decodeEncryptResult (hold : Hold) (o : Outcome) (fs : List GpgmeFn) :
    phaseMonitor.Passes (Mode.python.view hold) (.ready fs) (decodeEncryptResult o)
      (Mode.python.view hold) (.ready (.opEncryptResult :: fs)) :=
  (passes_fetch _ _ fs (by decide)).append (passes_convert hold _ (by simp) _)

theorem passes_decodeDecryptResult (hold : Hold) (fs : List GpgmeFn) :
    phaseMonitor.Passes (Mode.python.view hold) (.ready fs) decodeDecryptResult
      (Mode.python.view hold) (.ready (.opDecryptResult :: fs)) :=
  ((passes_fetch _ _ fs (by decide)).append (passes_convert hold _ (by simp) _)).append
    (passes_convert hold _ (by simp) _)

/-- Each method fetches what it converts, after its own operation. -/
theorem passes_epilogue (hold : Hold) (m : Method) (o : Outcome) :
    ∃ fs, phaseMonitor.Passes (Mode.python.view hold) (.ready []) (m.epilogue o)
      (Mode.python.view hold) (.ready fs) := by
  have check := fun fs => passes_checkError phaseMonitor_unconcerned hold (.ready fs) o.err
  have fetch := fun f => passes_fetch (Mode.python.view hold) f []
  have signed := (fetch .opSignResult (by decide)).append (check _)
  have signatures := passes_convert hold .opSignResult (List.mem_singleton_self _) o.signatures
  have invalid := passes_convert hold .opSignResult (List.mem_singleton_self _) o.invalidSigners
  have encrypt := (check []).append (passes_decodeEncryptResult hold o [])
  have decrypt := (check []).append (passes_decodeDecryptResult hold [])
  have imported := (fetch .opImportResult (by decide)).append
    (passes_convert hold .opImportResult (by simp) o.imports)
  cases m with
  | encrypt =>
    cases failed : o.err with
    | false => exact ⟨[], by simpa [Method.epilogue, failed] using check []⟩
    | true => exact ⟨_, by simpa [Method.epilogue, failed] using encrypt⟩
  | encryptSign =>
    cases failed : o.err with
    | false => exact ⟨_, by simpa [Method.epilogue, failed] using signed.append signatures⟩
    | true =>
      have decoded := signed.append (passes_decodeEncryptResult hold o _)
      have converted := (decoded.append
        (passes_convert hold .opSignResult (by simp) o.invalidSigners)).append
        (passes_convert hold .opSignResult (by simp) o.signatures)
      exact ⟨_, by simpa [Method.epilogue, failed] using converted⟩
  | decrypt =>
    cases failed : o.err with
    | false => exact ⟨[], by simpa [Method.epilogue, failed] using check []⟩
    | true => exact ⟨_, by simpa [Method.epilogue, failed] using decrypt⟩
  | decryptVerify =>
    cases failed : o.err with
    | false =>
      have verified := ((check []).append (fetch .opVerifyResult (by decide))).append
        (passes_convert hold .opVerifyResult (by simp) o.signatures)
      exact ⟨_, by simpa [Method.epilogue, failed] using verified⟩
    | true => exact ⟨_, by simpa [Method.epilogue, failed] using decrypt⟩
  | sign =>
    cases failed : o.err with
    | false => exact ⟨_, by simpa [Method.epilogue, failed] using signed.append signatures⟩
    | true =>
      have annotated := signed.append (invalid.append signatures)
      exact ⟨_, by simpa [Method.epilogue, failed] using annotated⟩
  | verify =>
    have verified := (fetch .opVerifyResult (by decide)).append (check _)
    exact ⟨_, verified.append (passes_convert hold _ (by simp) _)⟩
  | import_ | importKeys => exact ⟨_, imported.append (check _)⟩
  | genkey =>
    have generated := (fetch .opGenkeyResult (by decide)).append
      (passes_convert hold .opGenkeyResult (by simp) 0)
    exact ⟨_, generated.append (check _)⟩
  | _ => exact ⟨[], check []⟩

theorem passes_unlockContext {p : Phase} (stopped : p ≠ .running) :
    phaseMonitor.Passes (Mode.python.view (.taken .plain)) p unlockContext
      (Mode.python.view .free) p :=
  ⟨rfl, ⟨stopped, trivial⟩, rfl⟩

theorem op_starts (m : Method) : m.op.startsOperation = true ∧ m.op.isResult = false := by
  cases m <;> decide

/-- Up to and including the start of the operation. -/
theorem passes_begin (m : Method) (p : Phase) :
    phaseMonitor.Passes (Mode.python.view .free) p
      (beginAllowThreads ++ [.act (.enter m.op)]) (Mode.gpgme.view .stored) .running := by
  have stored : Hold.stored ≠ .free := by simp
  refine ⟨rfl, ⟨trivial, trivial, trivial, trivial, fun _ => stored, trivial⟩, ?_⟩
  simp [Monitor.after, beginAllowThreads, phaseMonitor, Phase.next, op_starts]

/-- From the end of the operation. -/
theorem passes_end (m : Method) :
    phaseMonitor.Passes (Mode.gpgme.view .stored) .running
      ([.act (.leave m.op)] ++ endAllowThreads) (Mode.python.view .free) (.ready []) := by
  refine ⟨rfl, ⟨?_, trivial, trivial, trivial, trivial, ?_, trivial⟩, ?_⟩
  · simp [phaseMonitor, op_starts]
  · simp [phaseMonitor, Phase.next, op_starts]
  · simp [Monitor.after, endAllowThreads, phaseMonitor, Phase.next, op_starts]

/-! ## Programs -/

/-- Every program meets the monitor. Without the mutex it may start further
operations, so what follows it must go on from any phase but `running`. -/
theorem prog_along {m : Mode} (p : Prog m) {hold : Hold} {phase : Phase} {rest : Code}
    (stopped : hold = .free → phase ≠ .running) (inGpgme : m = .gpgme → hold ≠ .free)
    (after : ∀ phase', (hold ≠ .free → phase' = phase) → (hold = .free → phase' ≠ .running) →
      phaseMonitor.Along (m.view hold) phase' rest) :
    phaseMonitor.Along (m.view hold) phase (p.code ++ rest) := by
  induction p generalizing hold phase rest with
  | done => exact after phase (fun _ => rfl) stopped
  | switch next ih =>
    rw [Prog.code, List.append_assoc]
    exact (passes_gilSwitch phaseMonitor_unconcerned hold phase).then (ih stopped (by simp) after)
  | accessor a destructor next ihd ih =>
    obtain ⟨fs, plain, shape⟩ := a.code_shape destructor.code
    simp only [Prog.code, shape, locked, List.append_assoc]
    by_cases held : hold = .free
    · subst held
      have unlocked := (passes_unlockContext (stopped rfl)).then (ih stopped (by simp) after)
      have called := (passes_calls _ phase plain).then unlocked
      refine (passes_lockContext phaseMonitor_unconcerned phase).then ?_
      split
      · refine ihd (by simp) (by simp) fun phase' same _ => ?_
        obtain rfl := same (by simp)
        exact called
      · exact called
    · exact along_lockContext_held phaseMonitor_unconcerned held phase _
  | engineInfo infos next ih =>
    simp only [Prog.code, contextGetEngineInfo, List.append_assoc]
    refine (passes_call _ phase (by decide)).then ?_
    by_cases held : hold = .free
    · subst held
      have unlocked := (passes_unlockContext (stopped rfl)).then (ih stopped (by simp) after)
      have converted := ((passes_gilSwitch phaseMonitor_unconcerned _ phase).replicate infos).then unlocked
      exact (passes_lockContext phaseMonitor_unconcerned phase).then converted
    · exact along_lockContext_held phaseMonitor_unconcerned held phase _
  | keyIter k next ih =>
    rw [Prog.code, List.append_assoc]
    exact (passes_keyIter hold phase k).then (ih stopped (by simp) after)
  | operation m o callbacks next ihc ih =>
    simp only [Prog.code, Method.code, blocking, List.append_assoc]
    by_cases held : hold = .free
    · subst held
      obtain ⟨fs, epilogue⟩ := passes_epilogue .free m o
      have continued : phaseMonitor.Along (Mode.python.view .free) (.ready fs)
          (next.code ++ rest) :=
        ih (by simp) (by simp) fun phase' _ running => after phase' (by simp) running
      have ended := (passes_end m).then (epilogue.then continued)
      refine (passes_begin m phase).then (ihc (by simp) (by simp) fun phase' same _ => ?_)
      obtain rfl := same (by simp)
      exact ended
    · exact along_beginAllowThreads_held phaseMonitor_unconcerned held phase _
  | callback c body next ihb ih =>
    simp only [Prog.code, c.code_eq, callbackFrame, List.append_assoc]
    have continued := ih stopped inGpgme after
    have ran : phaseMonitor.Along (Mode.python.view .stored) phase
        (body.code ++ (([.saveThread, .storeState] : Code) ++ (next.code ++ rest))) := by
      refine ihb (by simp) (by simp) fun phase' same _ => ?_
      obtain rfl := same (by simp)
      exact ⟨trivial, trivial, continued⟩
    exact ⟨trivial, trivial, trivial, ran⟩

theorem thread_along (p : Prog .python) : phaseMonitor.Along View.idle .idle (threadCode p) := by
  rw [threadCode, List.append_assoc]
  have idle : phaseMonitor.next .idle .restoreThread ≠ .running := by
    simp [phaseMonitor, Phase.next]
  exact ⟨trivial, prog_along p (fun _ => idle) (by simp) fun _ _ _ => ⟨trivial, trivial⟩⟩

/-! ## The result slot -/

/-- What the phases of all threads say about the one result slot. -/
structure Slots (phase : Tid → Phase) (code : Tid → Code) (c : Ctx Tid) : Prop where
  apart : ∀ t u fs, phase t = .running → phase u = .ready fs → readsAhead (code u) = false
  own : ∀ t fs, phase t = .ready fs → readsAhead (code t) = true → c.slot = some (t, c.ops t)
  fetched : ∀ t fs f, phase t = .ready fs → f ∈ fs → c.fetched t f = some (t, c.ops t)
  right : ∀ b ∈ c.built, Right b

theorem Slots.new (code : Tid → Code) : Slots (fun _ => .idle) code (Ctx.new : Ctx Tid) where
  apart := by simp
  own := by simp
  fetched := by simp
  right := by simp [Ctx.new]

variable [DecidableEq Tid]

/-- A step with no operation or result function in it. -/
theorem Slots.quiet {phase : Tid → Phase} {code : Tid → Code} {c c' : Ctx Tid}
    (h : Slots phase code c) {t : Tid} {i : Instr Act} {rest : Code} (hcode : code t = i :: rest)
    (quiet : startsOperation i = false) (slot : c'.slot = c.slot) (ops : c'.ops = c.ops)
    (fetched : c'.fetched = c.fetched) (right : ∀ b ∈ c'.built, Right b) :
    Slots phase (Function.update code t rest) c' := by
  have before : ∀ u, readsAhead (Function.update code t rest u) = true →
      readsAhead (code u) = true := by
    intro u ahead
    by_cases e : u = t
    · subst e
      rw [Function.update_self] at ahead
      rw [hcode]
      exact readsAhead_cons quiet ahead
    · rwa [Function.update_of_ne e] at ahead
  refine ⟨fun u w fs running ready => ?_, fun u fs ready ahead => ?_, fun u fs f ready mem => ?_,
    right⟩
  · have := h.apart u w fs running ready
    by_contra ahead
    simp [before w (by simpa using ahead)] at this
  · rw [slot, ops]
    exact h.own u fs ready (before u ahead)
  · rw [fetched, ops]
    exact h.fetched u fs f ready mem

/-- The start of an operation while nobody else runs one or has a result to read. -/
theorem Slots.enterOperation {phase : Tid → Phase} {code : Tid → Code} {c : Ctx Tid}
    (h : Slots phase code c) {t : Tid} {f : GpgmeFn} {rest : Code}
    (starts : f.startsOperation = true) (alone : ∀ u, u ≠ t → readsAhead (code u) = false) :
    Slots (Function.update phase t .running) (Function.update code t rest)
      (c.act t (.enter f)) := by
  have others : ∀ u fs, Function.update phase t .running u = .ready fs →
      u ≠ t ∧ phase u = .ready fs := by
    intro u fs ready
    by_cases e : u = t
    · simp [e] at ready
    · exact ⟨e, by simpa [e] using ready⟩
  refine ⟨fun u w fs _ ready => ?_, fun u fs ready ahead => ?_, fun u fs g ready mem => ?_, ?_⟩
  · obtain ⟨e, _⟩ := others w fs ready
    rw [Function.update_of_ne e]
    exact alone w e
  · obtain ⟨e, _⟩ := others u fs ready
    rw [Function.update_of_ne e, alone u e] at ahead
    cases ahead
  · obtain ⟨e, before⟩ := others u fs ready
    simpa [Ctx.act, starts, e] using h.fetched u fs g before mem
  · simpa [Ctx.act, starts] using h.right

/-- The end of an operation leaves its own result in the slot. -/
theorem Slots.leaveOperation {phase : Tid → Phase} {code : Tid → Code} {c : Ctx Tid}
    (h : Slots phase code c) {t : Tid} {f : GpgmeFn} {rest : Code}
    (starts : f.startsOperation = true) (running : phase t = .running)
    (only : ∀ u, phase u = .running → u = t) :
    Slots (Function.update phase t (.ready [])) (Function.update code t rest)
      (c.act t (.leave f)) := by
  refine ⟨fun u w fs busy _ => ?_, fun u fs ready ahead => ?_, fun u fs g ready mem => ?_, ?_⟩
  · by_cases e : u = t
    · simp [e] at busy
    · exact absurd (only u (by simpa [e] using busy)) e
  · by_cases e : u = t
    · simp [Ctx.act, starts, e]
    · rw [Function.update_of_ne e] at ready ahead
      simp [h.apart t u fs running ready] at ahead
  · by_cases e : u = t
    · subst e
      simp only [Function.update_self, Phase.ready.injEq] at ready
      simp [← ready] at mem
    · simpa [Ctx.act, starts] using h.fetched u fs g (by simpa [e] using ready) mem
  · simpa [Ctx.act, starts] using h.right

/-- A result function returns the own result. -/
theorem Slots.leaveResult {phase : Tid → Phase} {code : Tid → Code} {c : Ctx Tid}
    (h : Slots phase code c) {t : Tid} {f : GpgmeFn} {rest : Code} {fs : List GpgmeFn}
    (hcode : code t = .act (.leave f) :: rest) (starts : f.startsOperation = false)
    (reads : f.isResult = true) (ready : phase t = .ready fs) :
    Slots (Function.update phase t (.ready (f :: fs))) (Function.update code t rest)
      (c.act t (.leave f)) := by
  have ahead : readsAhead (code t) = true := by simp [hcode, readsAhead, reads]
  have mine := h.own t fs ready ahead
  have idle : ∀ u, phase u ≠ .running := by
    intro u running
    simp [h.apart u t fs running ready] at ahead
  refine ⟨fun u w gs busy _ => ?_, fun u gs later reading => ?_, fun u gs g later mem => ?_, ?_⟩
  · by_cases e : u = t
    · simp [e] at busy
    · exact absurd (by simpa [e] using busy) (idle u)
  · by_cases e : u = t
    · simpa [Ctx.act, starts, reads, e] using mine
    · rw [Function.update_of_ne e] at later reading
      simpa [Ctx.act, starts, reads] using h.own u gs later reading
  · by_cases e : u = t
    · subst e
      simp only [Function.update_self, Phase.ready.injEq] at later
      by_cases same : g = f
      · simpa [Ctx.act, starts, reads, same] using mine
      · have older : g ∈ fs := by
          rw [← later] at mem
          exact (List.mem_cons.mp mem).resolve_left same
        simpa [Ctx.act, starts, reads, same] using h.fetched u fs g ready older
    · simpa [Ctx.act, starts, reads, e] using h.fetched u gs g (by simpa [e] using later) mem
  · simpa [Ctx.act, starts, reads] using h.right

/-! ## Runs -/

/-- A thread is inside an operation only with the mutex. -/
theorem running_next {v : View} {p : Phase} {i : Instr Act} (ok : phaseMonitor.ok v p i)
    (running : p.next i = .running) : i ≠ .release ∧ (p = .running ∨ v.hold ≠ .free) := by
  cases i with
  | release => exact absurd running ok
  | act a =>
    refine ⟨by simp, ?_⟩
    cases a with
    | enter f =>
      cases starts : f.startsOperation with
      | true => exact .inr (ok starts)
      | false => exact .inl (by simpa [Phase.next, starts] using running)
    | leave f =>
      left
      cases p with
      | ready fs =>
        simp only [Phase.next, Phase.fetch] at running
        split at running
        · cases running
        · split at running <;> cases running
      | running => rfl
      | idle =>
        simp only [Phase.next, Phase.fetch] at running
        split at running
        · cases running
        · split at running <;> cases running
    | build f => exact .inl running
  | _ => exact ⟨by simp, .inl running⟩

structure Follow (v : Tid → View) (phase : Tid → Phase) (s : World Tid) : Prop where
  tracks : Tracks true phaseMonitor v phase s
  held : ∀ t, phase t = .running → (v t).hold ≠ .free
  slots : Slots phase s.code s.data

theorem Follow.slots_step {v : Tid → View} {phase : Tid → Phase} {s : World Tid}
    (h : Follow v phase s) {t : Tid} {i : Instr Act} {rest : Code} (hcode : s.code t = i :: rest)
    (ok : phaseMonitor.ok (v t) (phase t) i) (noOverlap : NoOverlap s t) :
    Slots (Function.update phase t ((phase t).next i)) (Function.update s.code t rest)
      (dataAfter Ctx.act t i s.data) := by
  have same : (phase t).next i = phase t → Function.update phase t ((phase t).next i) = phase :=
    fun e => by rw [e, Function.update_eq_self]
  have right := h.slots.right
  have only : phase t = .running → ∀ u, phase u = .running → u = t := fun running u busy =>
    h.tracks.agrees.mutex.unique u t (h.held u busy) (h.held t running)
  cases i with
  | act a =>
    cases a with
    | enter f =>
      cases starts : f.startsOperation with
      | true =>
        have alone := noOverlap _ rest hcode starts
        simpa [Phase.next, dataAfter, starts] using h.slots.enterOperation starts alone
      | false =>
        rw [same (by simp [Phase.next, starts])]
        apply h.slots.quiet hcode starts <;> simp [dataAfter, Ctx.act, starts]
        exact right
    | leave f =>
      cases starts : f.startsOperation with
      | true =>
        have running := ok.1 starts
        simpa [Phase.next, dataAfter, starts] using
          h.slots.leaveOperation starts running (only running)
      | false =>
        cases reads : f.isResult with
        | true =>
          obtain ⟨fs, ready⟩ := ok.2 reads
          simpa [Phase.next, Phase.fetch, dataAfter, starts, reads, ready] using
            h.slots.leaveResult hcode starts reads ready
        | false =>
          rw [same (by simp [Phase.next, starts, reads])]
          apply h.slots.quiet hcode rfl <;> simp [dataAfter, Ctx.act, starts, reads]
          exact right
    | build f =>
      obtain ⟨fs, ready, fetched⟩ := ok
      have source := h.slots.fetched t fs f ready fetched
      have current := h.slots.own t fs ready (by simp [hcode, readsAhead])
      rw [same rfl]
      refine h.slots.quiet hcode rfl ?_ ?_ ?_ fun b mem => ?_
      · rfl
      · rfl
      · rfl
      · rcases List.mem_cons.mp mem with rfl | older
        · exact ⟨source, current.trans source.symm⟩
        · exact right b older
  | _ =>
    rw [same rfl]
    exact h.slots.quiet hcode rfl rfl rfl rfl right

theorem Follow.step {v : Tid → View} {phase : Tid → Phase} {s s' : World Tid}
    (h : Follow v phase s) {t : Tid} (noOverlap : NoOverlap s t)
    (taken : step Ctx.act s t = some s') : ∃ v' phase', Follow v' phase' s' := by
  obtain ⟨i, rest, v', hcode, allowed, ok, hrest, hdata, tracks⟩ := h.tracks.step taken
  refine ⟨_, _, tracks, fun u running => ?_, ?_⟩
  · by_cases e : u = t
    · subst e
      rw [Function.update_self] at running ⊢
      obtain ⟨kept, before⟩ := running_next ok running
      exact View.next_keeps_hold allowed kept (before.elim (h.held u) id)
    · rw [Function.update_of_ne e] at running ⊢
      exact h.held u running
  · rw [hrest, hdata]
    exact h.slots_step hcode ok noOverlap

/-- In every run in which no thread starts an operation while another one still
has a result to read or convert, every conversion is right. -/
theorem results_isolated (prog : Tid → Prog .python) (s : World Tid)
    (reached : Reach (context prog) NoOverlap s) : Isolated s := by
  have invariant : ∃ v phase, Follow v phase s := by
    induction reached with
    | init started =>
      cases started
      have tracks := Tracks.start (Ctx.new : Ctx Tid) (fun t => thread_follows (prog t))
        (fun t => thread_along (prog t))
      exact ⟨_, _, tracks, by simp, Slots.new _⟩
    | step t _ noOverlap taken ih =>
      obtain ⟨v, phase, h⟩ := ih
      exact h.step noOverlap taken
  obtain ⟨v, phase, h⟩ := invariant
  exact h.slots.right

/-- One thread signs, another verifies. -/
def signAndVerify : Bool → Prog .python
  | true => .operation .sign ⟨false, 0, 0, 1, 0⟩ .done .done
  | false => .operation .verify ⟨false, 0, 0, 1, 0⟩ .done .done

def noOverlap (s : World Bool) (t : Bool) : Bool :=
  match s.code t with
  | [] => true
  | i :: _ => !(startsOperation i && readsAhead (s.code (!t)))

theorem noOverlap_sound (s : World Bool) (t : Bool) (checked : noOverlap s t = true) :
    NoOverlap s t := by
  intro i rest hcode starts u other
  have opposite : u = !t := by cases u <;> cases t <;> simp_all
  subst opposite
  simpa [noOverlap, hcode, starts] using checked

/-- The verifier takes the mutex as soon as it is free, and starts its operation
when the signer has converted its result. -/
def orderly : List Bool :=
  [true, true, false, false] ++ List.replicate 10 true ++ List.replicate 3 false ++
    List.replicate 7 true ++ List.replicate 14 false

theorem results_isolated_orderly :
    ∃ s, runIf (context signAndVerify) noOverlap
        (start (fun t => threadCode (signAndVerify t)) Ctx.new) orderly = some s ∧
      s.data.built.length = 4 ∧ Isolated s := by
  have executed : ((runIf (context signAndVerify) noOverlap
      (start (fun t => threadCode (signAndVerify t)) Ctx.new) orderly).map
        fun s => s.data.built.length) = some 4 := by decide
  obtain ⟨s, hs, four⟩ := Option.map_eq_some_iff.mp executed
  exact ⟨s, hs, four, results_isolated signAndVerify s
    (Reach.of_runIf noOverlap_sound _ (.init rfl) hs)⟩

/-- The verifier's operation starts before the signer asks for its result. -/
theorem signAndVerify_not_isolated :
    ¬ ∀ s, Reachable (context signAndVerify) s → Isolated s := by
  intro isolated
  have executed : ((run (context signAndVerify)
      (start (fun t => threadCode (signAndVerify t)) Ctx.new)
      ([true, true, false, false] ++ List.replicate 10 true ++ List.replicate 4 false ++
        List.replicate 3 true)).map fun s => s.data.built) =
        some [⟨true, 1, none, none⟩] := by decide
  obtain ⟨s, hs, converted⟩ := Option.map_eq_some_iff.mp executed
  have wrong := isolated s (Reachable.of_run _ (.init rfl) hs)
    ⟨true, 1, none, none⟩ (by simp [converted])
  simp [Right] at wrong

end Pygpgme.Guarantees.ResultIsolation
