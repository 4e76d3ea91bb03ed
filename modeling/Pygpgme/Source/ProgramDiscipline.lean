import Pygpgme.Source.ThreadPrograms

/-!
# The lock discipline of each entry point

One lemma a source function says which view its code leads to. Programs whose
callbacks and destructors keep away from the locking entry points (`Flat`) run
through; any other program runs into an `acquire` of the mutex it already has
(`nested_reaches`), and up to there it follows the discipline all the same.
-/

set_option autoImplicit false

namespace Pygpgme.Source.Threads
open Pygpgme.Library.LockMachine

/-- What code of each mode relies on, given where the thread stands with the mutex. -/
def Mode.view : Mode → Hold → View
  | .python, hold => ⟨true, hold, false⟩
  | .gpgme, _ => ⟨false, .stored, true⟩

/-- No callback and no destructor (`inner`: the program is run by one) uses an
attribute or method of the Context that takes the mutex. -/
def Prog.Flat (inner : Bool) : {m : Mode} → Prog m → Prop
  | _, .done => True
  | _, .switch next => next.Flat inner
  | _, .accessor a destructor next =>
    inner = false ∧ (a.destructs = true → destructor.Flat true) ∧ next.Flat inner
  | _, .engineInfo _ next => inner = false ∧ next.Flat inner
  | _, .keyIter _ next => next.Flat inner
  | _, .operation _ _ callbacks next =>
    inner = false ∧ callbacks.Flat true ∧ next.Flat inner
  | _, .callback _ body next => body.Flat true ∧ next.Flat inner

/-! ## Straight-line pieces -/

theorem run_gilSwitch (hold : Hold) :
    (Mode.python.view hold).run gilSwitch = some (Mode.python.view hold) := rfl

theorem run_call (v : View) (f : GpgmeFn) : v.run (call f) = some v := rfl

theorem run_calls (v : View) (fs : List GpgmeFn) : v.run (fs.flatMap call) = some v := by
  induction fs with
  | nil => rfl
  | cons f fs ih => rw [List.flatMap_cons, View.run_append, run_call, Option.bind_some, ih]

theorem run_lockContext :
    (Mode.python.view .free).run lockContext = some (Mode.python.view (.taken .plain)) := rfl

theorem run_unlockContext :
    (Mode.python.view (.taken .plain)).run unlockContext = some (Mode.python.view .free) := rfl

theorem run_beginAllowThreads :
    (Mode.python.view .free).run beginAllowThreads = some (Mode.gpgme.view .stored) := rfl

theorem run_endAllowThreads :
    (Mode.gpgme.view .stored).run endAllowThreads = some (Mode.python.view .free) := rfl

/-- A straight-line piece that keeps a view, repeated. -/
theorem run_replicate {v : View} {code : Code} (once : v.run code = some v) (n : Nat) :
    v.run (List.replicate n code).flatten = some v := by
  induction n with
  | zero => rfl
  | succ n ih =>
    rw [List.replicate_succ, List.flatten_cons, View.run_append, once, Option.bind_some, ih]

theorem run_append_same {v : View} {pre post : Code} (first : v.run pre = some v)
    (second : v.run post = some v) : v.run (pre ++ post) = some v := by
  rw [View.run_append, first, Option.bind_some, second]

theorem run_convert (hold : Hold) (f : GpgmeFn) (length : Nat) :
    (Mode.python.view hold).run (convert f length) = some (Mode.python.view hold) := by
  unfold convert
  exact run_replicate (run_append_same (run_gilSwitch hold) rfl) length

theorem run_checkError (hold : Hold) (err : Bool) :
    (Mode.python.view hold).run (checkError err) = some (Mode.python.view hold) := by
  cases err <;> rfl

theorem run_decodeEncryptResult (hold : Hold) (o : Outcome) :
    (Mode.python.view hold).run (decodeEncryptResult o) = some (Mode.python.view hold) :=
  run_append_same (run_call _ _) (run_convert hold _ _)

theorem run_decodeDecryptResult (hold : Hold) :
    (Mode.python.view hold).run decodeDecryptResult = some (Mode.python.view hold) :=
  run_append_same (run_append_same (run_call _ _) (run_convert hold _ _)) (run_convert hold _ _)

theorem run_epilogue (hold : Hold) (m : Method) (o : Outcome) :
    (Mode.python.view hold).run (m.epilogue o) = some (Mode.python.view hold) := by
  have check := run_checkError hold o.err
  have encrypt := run_decodeEncryptResult hold o
  have decrypt := run_decodeDecryptResult hold
  have conv := run_convert hold
  cases m with
  | encrypt =>
    refine run_append_same check ?_
    split
    · exact encrypt
    · rfl
  | encryptSign =>
    refine run_append_same (run_append_same (run_call _ _) check) ?_
    split
    · exact run_append_same (run_append_same encrypt (conv _ _)) (conv _ _)
    · exact conv _ _
  | decrypt =>
    refine run_append_same check ?_
    split
    · exact decrypt
    · rfl
  | decryptVerify =>
    refine run_append_same check ?_
    split
    · exact decrypt
    · exact run_append_same (run_call _ _) (conv _ _)
  | sign =>
    refine run_append_same (run_append_same (run_call _ _) check) ?_
    split
    · exact run_append_same (conv _ _) (conv _ _)
    · exact conv _ _
  | verify => exact run_append_same (run_append_same (run_call _ _) check) (conv _ _)
  | import_ => exact run_append_same (run_append_same (run_call _ _) (conv _ _)) check
  | importKeys => exact run_append_same (run_append_same (run_call _ _) (conv _ _)) check
  | genkey => exact run_append_same (run_append_same (run_call _ _) (conv _ _)) check
  | _ => exact check

theorem run_keyIter (hold : Hold) (k : KeyIterCall) :
    (Mode.python.view hold).run k.code = some (Mode.python.view hold) := by
  cases k <;> rfl

theorem run_engineInfo (infos : Nat) :
    (Mode.python.view .free).run (contextGetEngineInfo infos) = some (Mode.python.view .free) := by
  unfold contextGetEngineInfo
  rw [View.run_append, View.run_append, View.run_append, run_call, Option.bind_some,
    run_lockContext, Option.bind_some, run_replicate (run_gilSwitch _), Option.bind_some,
    run_unlockContext]

/-! ## Nodes of a program, given what their callbacks and destructors do -/

theorem run_accessor (a : Accessor) {destructor : Code}
    (inner : a.destructs = true →
      (Mode.python.view (.taken .plain)).run destructor =
        some (Mode.python.view (.taken .plain))) :
    (Mode.python.view .free).run (a.code destructor) = some (Mode.python.view .free) := by
  obtain ⟨fs, _, shape⟩ := a.code_shape destructor
  have del : (Mode.python.view (.taken .plain)).run
      (if a.destructs then destructor else []) = some (Mode.python.view (.taken .plain)) := by
    split
    next h => exact inner h
    · rfl
  rw [shape, locked, View.run_append, View.run_append, run_lockContext, Option.bind_some,
    run_append_same del (run_calls _ fs), Option.bind_some, run_unlockContext]

theorem run_blocking (f : GpgmeFn) {callbacks : Code}
    (inner : (Mode.gpgme.view .stored).run callbacks = some (Mode.gpgme.view .stored)) :
    (Mode.python.view .free).run (blocking f callbacks) = some (Mode.python.view .free) := by
  have enter : (Mode.gpgme.view .stored).run ([.act (.enter f)] : Code) =
      some (Mode.gpgme.view .stored) := rfl
  have leave : (Mode.gpgme.view .stored).run ([.act (.leave f)] : Code) =
      some (Mode.gpgme.view .stored) := rfl
  rw [blocking, View.run_append, View.run_append, View.run_append, View.run_append,
    run_beginAllowThreads, Option.bind_some, enter, Option.bind_some, inner, Option.bind_some,
    leave, Option.bind_some, run_endAllowThreads]

theorem run_operation (m : Method) (o : Outcome) {callbacks : Code}
    (inner : (Mode.gpgme.view .stored).run callbacks = some (Mode.gpgme.view .stored)) :
    (Mode.python.view .free).run (m.code o callbacks) = some (Mode.python.view .free) :=
  run_append_same (run_blocking m.op inner) (run_epilogue .free m o)

theorem run_callback (c : Callback) {body : Code}
    (inner : (Mode.python.view .stored).run body = some (Mode.python.view .stored)) :
    (Mode.gpgme.view .stored).run (c.code body) = some (Mode.gpgme.view .stored) := by
  have restore : (Mode.gpgme.view .stored).run
      ([.assertState true, .loadState, .restoreThread] : Code) =
        some (Mode.python.view .stored) := rfl
  have save : (Mode.python.view .stored).run ([.saveThread, .storeState] : Code) =
      some (Mode.gpgme.view .stored) := rfl
  rw [c.code_eq, callbackFrame, View.run_append, View.run_append, restore, Option.bind_some,
    inner, Option.bind_some, save]

/-- A flat program runs through and gives every lock back. -/
theorem Prog.Flat.run {m : Mode} (p : Prog m) {inner : Bool} {hold : Hold}
    (outside : inner = false → hold = .free) (flat : p.Flat inner) :
    (m.view hold).run p.code = some (m.view hold) := by
  induction p generalizing inner hold with
  | done => rfl
  | switch next ih => exact run_append_same (run_gilSwitch hold) (ih outside flat)
  | accessor a destructor next ihd ih =>
    obtain ⟨rfl, del, rest⟩ := flat
    obtain rfl := outside rfl
    exact run_append_same (run_accessor a fun h => ihd (by simp) (del h)) (ih outside rest)
  | engineInfo infos next ih =>
    obtain ⟨rfl, rest⟩ := flat
    obtain rfl := outside rfl
    exact run_append_same (run_engineInfo infos) (ih outside rest)
  | keyIter k next ih => exact run_append_same (run_keyIter hold k) (ih outside flat)
  | operation m o callbacks next ihc ih =>
    obtain ⟨rfl, inside, rest⟩ := flat
    obtain rfl := outside rfl
    exact run_append_same (run_operation m o (ihc (by simp) inside)) (ih outside rest)
  | callback c body next ihb ih =>
    exact run_append_same (run_callback c (ihb (by simp) flat.1)) (ih outside flat.2)

/-! ## Pieces that any monitor of gpgme calls passes -/

section
variable {β : Type} {M : Monitor Act β} (unconcerned : M.Unconcerned)

include unconcerned

theorem passes_gilSwitch (hold : Hold) (b : β) :
    M.Passes (Mode.python.view hold) b gilSwitch (Mode.python.view hold) b :=
  Monitor.Passes.of_quiet unconcerned (by decide) (run_gilSwitch hold) b

theorem passes_checkError (hold : Hold) (b : β) (err : Bool) :
    M.Passes (Mode.python.view hold) b (checkError err) (Mode.python.view hold) b :=
  Monitor.Passes.of_quiet unconcerned (by cases err <;> decide) (run_checkError hold err) b

theorem passes_lockContext (b : β) :
    M.Passes (Mode.python.view .free) b lockContext (Mode.python.view (.taken .plain)) b :=
  Monitor.Passes.of_quiet unconcerned (by decide) run_lockContext b

/-- With the mutex in hand a locking entry point is never passed. -/
theorem along_lockContext_held {hold : Hold} (held : hold ≠ .free) (b : β) (rest : Code) :
    M.Along (Mode.python.view hold) b (lockContext ++ rest) := by
  have ok := unconcerned.ok (Mode.python.view hold) b .saveThread rfl
  simpa [lockContext, Monitor.Along, View.next, Mode.view, held] using ok

theorem along_beginAllowThreads_held {hold : Hold} (held : hold ≠ .free) (b : β)
    (rest : Code) : M.Along (Mode.python.view hold) b (beginAllowThreads ++ rest) := by
  have ok := unconcerned.ok (Mode.python.view hold) b .saveThread rfl
  simpa [beginAllowThreads, Monitor.Along, View.next, Mode.view, held] using ok

end

/-! ## Programs that nest -/

/-- With the mutex in hand, both ways to take it wait for the thread itself. -/
theorem follows_lockContext_held {hold : Hold} (held : hold ≠ .free) (rest : Code) :
    Follows true (Mode.python.view hold) (lockContext ++ rest) := by
  simp [lockContext, Follows, View.next, Mode.view, View.BlocksItself, held]

theorem follows_beginAllowThreads_held {hold : Hold} (held : hold ≠ .free) (rest : Code) :
    Follows true (Mode.python.view hold) (beginAllowThreads ++ rest) := by
  simp [beginAllowThreads, Follows, View.next, Mode.view, View.BlocksItself, held]

theorem Prog.follows {m : Mode} (p : Prog m) {hold : Hold} {rest : Code}
    (after : Follows true (m.view hold) rest) :
    Follows true (m.view hold) (p.code ++ rest) := by
  induction p generalizing hold rest with
  | done => exact after
  | switch next ih =>
    rw [Prog.code, List.append_assoc]
    exact Follows.append (run_gilSwitch hold) (ih after)
  | accessor a destructor next ihd ih =>
    obtain ⟨fs, _, shape⟩ := a.code_shape destructor.code
    rw [Prog.code, shape, locked, List.append_assoc, List.append_assoc, List.append_assoc]
    by_cases held : hold = .free
    · subst held
      refine Follows.append run_lockContext ?_
      rw [List.append_assoc]
      have unlocked := Follows.append run_unlockContext (ih after)
      have called := Follows.append (run_calls (Mode.python.view (.taken .plain)) fs) unlocked
      split
      · exact ihd called
      · exact called
    · exact follows_lockContext_held held _
  | engineInfo infos next ih =>
    rw [Prog.code, contextGetEngineInfo, List.append_assoc, List.append_assoc,
      List.append_assoc, List.append_assoc]
    refine Follows.append (run_call _ _) ?_
    by_cases held : hold = .free
    · subst held
      refine Follows.append run_lockContext ?_
      refine Follows.append (run_replicate (run_gilSwitch _) infos) ?_
      exact Follows.append run_unlockContext (ih after)
    · exact follows_lockContext_held held _
  | keyIter k next ih =>
    rw [Prog.code, List.append_assoc]
    exact Follows.append (run_keyIter hold k) (ih after)
  | operation m o callbacks next ihc ih =>
    simp only [Prog.code, Method.code, blocking, List.append_assoc]
    by_cases held : hold = .free
    · subst held
      refine Follows.append run_beginAllowThreads ?_
      have ended := Follows.append run_endAllowThreads
        (Follows.append (run_epilogue .free m o) (ih after))
      have left : Follows true (Mode.gpgme.view .stored) (([.act (.leave m.op)] : Code) ++
          (endAllowThreads ++ (m.epilogue o ++ (next.code ++ rest)))) := ended
      exact ihc left
    · exact follows_beginAllowThreads_held held _
  | callback c body next ihb ih =>
    rw [Prog.code, c.code_eq, callbackFrame, List.append_assoc, List.append_assoc,
      List.append_assoc]
    have stored : Follows true (Mode.gpgme.view .stored) (next.code ++ rest) := ih after
    have restored : Follows true (Mode.python.view .stored)
        (body.code ++ (([.saveThread, .storeState] : Code) ++ (next.code ++ rest))) := ihb stored
    exact restored

/-- A split of `code` at an `acquire` that the thread reaches with the mutex in hand. -/
def ReachesHeldAcquire (v : View) (code : Code) : Prop :=
  ∃ pre path post v', code = pre ++ .acquire path :: post ∧ v.run pre = some v' ∧ v'.hold ≠ .free

theorem ReachesHeldAcquire.append_left {v w : View} {pre code : Code}
    (first : v.run pre = some w) (h : ReachesHeldAcquire w code) :
    ReachesHeldAcquire v (pre ++ code) := by
  obtain ⟨pre', path, post, v', rfl, allowed, held⟩ := h
  refine ⟨pre ++ pre', path, post, v', by simp, ?_, held⟩
  rw [View.run_append, first, Option.bind_some, allowed]

theorem ReachesHeldAcquire.append_right {v : View} {code : Code}
    (h : ReachesHeldAcquire v code) (rest : Code) : ReachesHeldAcquire v (code ++ rest) := by
  obtain ⟨pre, path, post, v', rfl, allowed, held⟩ := h
  exact ⟨pre, path, post ++ rest, v', by simp, allowed, held⟩

theorem reaches_of_held {hold : Hold} (held : hold ≠ .free) (path : Path) (rest : Code) :
    ReachesHeldAcquire (Mode.python.view hold) (.saveThread :: .acquire path :: rest) :=
  ⟨[.saveThread], path, rest, ⟨false, hold, true⟩, rfl, rfl, held⟩

/-- A program that is not flat gets to a second `acquire`, whichever callback,
destructor or nesting depth it is in. -/
theorem Prog.nested_reaches {m : Mode} (p : Prog m) {inner : Bool} {hold : Hold}
    (outside : inner = false → hold = .free) (inside : inner = true → hold ≠ .free)
    (nested : ¬ p.Flat inner) : ReachesHeldAcquire (m.view hold) p.code := by
  induction p generalizing inner hold with
  | done => exact absurd trivial nested
  | switch next ih => exact (ih outside inside nested).append_left (run_gilSwitch hold)
  | accessor a destructor next ihd ih =>
    cases inner with
    | true =>
      obtain ⟨fs, _, shape⟩ := a.code_shape destructor.code
      rw [Prog.code, shape]
      exact reaches_of_held (inside rfl) _ _
    | false =>
      obtain rfl := outside rfl
      by_cases del : a.destructs = true → destructor.Flat true
      · have rest : ¬ next.Flat false := fun h => nested ⟨rfl, del, h⟩
        exact (ih outside inside rest).append_left
          (run_accessor a fun h => Prog.Flat.run destructor (by simp) (del h))
      · obtain ⟨runs, notFlat⟩ := Classical.not_imp.mp del
        obtain ⟨fs, _, shape⟩ := a.code_shape destructor.code
        rw [Prog.code, shape, if_pos runs, locked]
        have stuck : ReachesHeldAcquire (Mode.python.view (.taken .plain)) destructor.code :=
          ihd (by simp) (by simp) notFlat
        exact ((stuck.append_right _).append_left run_lockContext).append_right _
          |>.append_right _
  | engineInfo infos next ih =>
    cases inner with
    | true =>
      have stuck := reaches_of_held (inside rfl) .plain
        ([.restoreThread] ++ (List.replicate infos gilSwitch).flatten ++ unlockContext)
      have := (stuck.append_left (run_call _ .ctxGetEngineInfo)).append_right next.code
      simpa [Prog.code, contextGetEngineInfo, lockContext] using this
    | false =>
      obtain rfl := outside rfl
      have rest : ¬ next.Flat false := fun h => nested ⟨rfl, h⟩
      exact (ih outside inside rest).append_left (run_engineInfo infos)
  | keyIter k next ih => exact (ih outside inside nested).append_left (run_keyIter hold k)
  | operation m o callbacks next ihc ih =>
    cases inner with
    | true => exact reaches_of_held (inside rfl) _ _
    | false =>
      obtain rfl := outside rfl
      by_cases cbs : callbacks.Flat true
      · have rest : ¬ next.Flat false := fun h => nested ⟨rfl, cbs, h⟩
        have ran : (Mode.gpgme.view .stored).run callbacks.code = some (Mode.gpgme.view .stored) :=
          Prog.Flat.run callbacks (by simp) cbs
        exact (ih outside inside rest).append_left (run_operation m o ran)
      · have stuck : ReachesHeldAcquire (Mode.gpgme.view .stored) callbacks.code :=
          ihc (by simp) (by simp) cbs
        have entered : (Mode.python.view .free).run
            (beginAllowThreads ++ ([.act (.enter m.op)] : Code)) =
              some (Mode.gpgme.view .stored) := rfl
        have := ((stuck.append_left entered).append_right
          (([.act (.leave m.op)] : Code) ++ endAllowThreads ++ m.epilogue o)).append_right next.code
        simpa [Prog.code, Method.code, blocking] using this
  | callback c body next ihb ih =>
    rw [Prog.code, c.code_eq]
    by_cases flat : body.Flat true
    · have rest : ¬ next.Flat inner := fun h => nested ⟨flat, h⟩
      have ran := run_callback c (Prog.Flat.run body (by simp) flat)
      rw [c.code_eq] at ran
      exact (ih outside inside rest).append_left ran
    · have restore : (Mode.gpgme.view .stored).run
          ([.assertState true, .loadState, .restoreThread] : Code) =
            some (Mode.python.view .stored) := rfl
      have stuck : ReachesHeldAcquire (Mode.python.view .stored) body.code :=
        ihb (by simp) (by simp) flat
      exact ((stuck.append_left restore).append_right _).append_right _

/-! ## Whole threads -/

theorem thread_follows (p : Prog .python) : Follows true View.idle (threadCode p) := by
  have taken : View.idle.run ([.restoreThread] : Code) = some (Mode.python.view .free) := rfl
  have left : Follows true (Mode.python.view .free) ([.saveThread] : Code) := ⟨rfl, rfl⟩
  rw [threadCode, List.append_assoc]
  exact Follows.append taken (p.follows left)

theorem flat_thread_follows {p : Prog .python} (flat : p.Flat false) :
    Follows false View.idle (threadCode p) := by
  have taken : View.idle.run ([.restoreThread] : Code) = some (Mode.python.view .free) := rfl
  have left : Follows false (Mode.python.view .free) ([.saveThread] : Code) := ⟨rfl, rfl⟩
  rw [threadCode, List.append_assoc]
  exact Follows.append taken (Follows.append (Prog.Flat.run p (fun _ => rfl) flat) left)

end Pygpgme.Source.Threads
