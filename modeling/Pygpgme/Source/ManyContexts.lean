import Pygpgme.Library.LockFamily
import Pygpgme.Source.ProgramDiscipline

/-!
# Programs that use any number of Contexts

Every Context has a mutex, a `tstate` and a gpgme context of its own; threads and
the interpreter lock are shared. A callback gpgme runs during an operation on one
Context is free to use others. The entry points are those of
lib/pygpgme-context.c, lib/pygpgme-keyiter.c and lib/pygpgme-data.c with `self`
made explicit.
-/

set_option autoImplicit false

namespace Pygpgme.Source.Threads
open Pygpgme.Library.LockMachine

/-- The gpgme functions an accessor calls under the lock. -/
def Accessor.calls : Accessor → List GpgmeFn
  | .getProtocol => [.getProtocol]
  | .setProtocol => [.setProtocol]
  | .getArmor => [.getArmor]
  | .setArmor => [.setArmor]
  | .getTextmode => [.getTextmode]
  | .setTextmode => [.setTextmode]
  | .getOffline => [.getOffline]
  | .setOffline => [.setOffline]
  | .getIncludeCerts => [.getIncludeCerts]
  | .setIncludeCerts => [.setIncludeCerts]
  | .getKeylistMode => [.getKeylistMode]
  | .setKeylistMode => [.setKeylistMode]
  | .getPinentryMode => [.getPinentryMode]
  | .setPinentryMode => [.setPinentryMode]
  | .getPassphraseCb => [.getPassphraseCb]
  | .setPassphraseCb => [.setPassphraseCb]
  | .getProgressCb => [.getProgressCb]
  | .setProgressCb => [.setProgressCb]
  | .getSigners signers => List.replicate (signers + 1) .signersEnum
  | .setSigners added => .signersClear :: List.replicate added .signersAdd
  | .getSigNotations => [.sigNotationGet]
  | .setSigNotations added => .sigNotationClear :: List.replicate added .sigNotationAdd
  | .getSender => [.getSender]
  | .setSender => [.setSender]
  | .setEngineInfo => [.ctxSetEngineInfo]
  | .setLocale => [.setLocale]

theorem Accessor.code_eq (a : Accessor) (destructor : Code) :
    a.code destructor =
      locked ((if a.destructs then destructor else []) ++ a.calls.flatMap call) := by
  cases a
  case getSigners signers =>
    simp [Accessor.code, Accessor.destructs, Accessor.calls, contextGetSigners, List.flatMap]
  case setSigners added =>
    simp [Accessor.code, Accessor.destructs, Accessor.calls, contextSetSigners, List.flatMap]
  case setSigNotations added =>
    simp [Accessor.code, Accessor.destructs, Accessor.calls, contextSetSigNotations, List.flatMap]
  all_goals rfl

/-- One program after another. -/
def Prog.append : {m : Mode} → Prog m → Prog m → Prog m
  | _, .done, q => q
  | _, .switch next, q => .switch (next.append q)
  | _, .accessor a destructor next, q => .accessor a destructor (next.append q)
  | _, .engineInfo infos next, q => .engineInfo infos (next.append q)
  | _, .keyIter k next, q => .keyIter k (next.append q)
  | _, .operation m o callbacks next, q => .operation m o callbacks (next.append q)
  | _, .callback c body next, q => .callback c body (next.append q)

theorem Prog.code_append {m : Mode} (p q : Prog m) : (p.append q).code = p.code ++ q.code := by
  induction p with
  | done => rfl
  | switch next ih => simp [Prog.append, Prog.code, ih]
  | accessor a destructor next _ ih => simp [Prog.append, Prog.code, ih]
  | engineInfo infos next ih => simp [Prog.append, Prog.code, ih]
  | keyIter k next ih => simp [Prog.append, Prog.code, ih]
  | operation m o callbacks next _ ih => simp [Prog.append, Prog.code, ih]
  | callback c body next _ ih => simp [Prog.append, Prog.code, ih]

def Prog.switches : Nat → Prog .python → Prog .python
  | 0, next => next
  | n + 1, next => .switch (next.switches n)

theorem Prog.code_switches (n : Nat) (next : Prog .python) :
    (next.switches n).code = (List.replicate n gilSwitch).flatten ++ next.code := by
  induction n with
  | zero => rfl
  | succ n ih => simp [Prog.switches, Prog.code, ih, List.replicate_succ]

end Pygpgme.Source.Threads

namespace Pygpgme.Source.ManyContexts
open Pygpgme.Library Pygpgme.Library.LockMachine Pygpgme.Library.Transition
open Pygpgme.Library.LockFamily (Step seenCode everywhere)
open Pygpgme.Source.Threads hiding Code Prog context

variable {C : Type}

/-- `none` marks what a thread does outside every Context. -/
abbrev Code (C : Type) := List (Step (Option C) Act)

/-- An entry point of Context `c`. -/
def on (c : C) (code : Threads.Code) : Code C := code.map (Step.mk (some c))

def outside (code : Threads.Code) : Code C := code.map (Step.mk none)

/-- The index says who runs the program: the interpreter, or gpgme inside an
operation on a Context. -/
inductive Prog (C : Type) : Option C → Type where
  | done {by_ : Option C} : Prog C by_
  | switch (next : Prog C none) : Prog C none
  | accessor (c : C) (a : Accessor) (destructor next : Prog C none) : Prog C none
  | engineInfo (c : C) (infos : Nat) (next : Prog C none) : Prog C none
  | keyIter (c : C) (k : KeyIterCall) (next : Prog C none) : Prog C none
  | operation (c : C) (m : Method) (o : Outcome) (callbacks : Prog C (some c))
      (next : Prog C none) : Prog C none
  | callback {c : C} (cb : Callback) (body : Prog C none) (next : Prog C (some c)) :
      Prog C (some c)

def Prog.code : {by_ : Option C} → Prog C by_ → Code C
  | _, .done => []
  | _, .switch next => outside gilSwitch ++ next.code
  | _, .accessor c a destructor next =>
    on c lockContext ++ (if a.destructs then destructor.code else []) ++
      on c (a.calls.flatMap call ++ unlockContext) ++ next.code
  | _, .engineInfo c infos next => on c (contextGetEngineInfo infos) ++ next.code
  | _, .keyIter c k next => on c k.code ++ next.code
  | _, .operation c m o callbacks next =>
    on c (beginAllowThreads ++ [.act (.enter m.op)]) ++ callbacks.code ++
      on c ([.act (.leave m.op)] ++ endAllowThreads ++ m.epilogue o) ++ next.code
  | some c, .callback _ body next =>
    on c [.assertState true, .loadState, .restoreThread] ++ body.code ++
      on c [.saveThread, .storeState] ++ next.code

/-- A Python thread takes the interpreter lock, runs its program and leaves. -/
def threadCode (p : Prog C none) : Code C :=
  outside [.restoreThread] ++ p.code ++ outside [.saveThread]

abbrev World (C Tid : Type) := LockFamily.State (Option C) Tid Act (Ctx Tid)

/-- Any number of threads share any number of initialised Contexts. -/
def contexts [DecidableEq C] {Tid : Type} [DecidableEq Tid] (prog : Tid → Prog C none) :
    System (World C Tid) Tid :=
  LockFamily.machine Ctx.act (fun t => threadCode (prog t)) (fun _ => Ctx.new)

/-! ## What one Context sees of such a program -/

/-- How often code at another Context lets other threads run. -/
def switchCount (code : Threads.Code) : Nat := (code.filter everywhere).length / 2

/-- A program as one Context sees it: run by the interpreter, or by gpgme inside an
operation on that Context. -/
structure Seen where
  python : Threads.Prog .python
  gpgme : Threads.Prog .gpgme

/-- Calls at other Contexts are points where other threads may run; what their
callbacks do is done by the thread all the same. -/
def Prog.seen [DecidableEq C] (c : Option C) : {by_ : Option C} → Prog C by_ → Seen
  | _, .done => ⟨.done, .done⟩
  | _, .switch next => ⟨.switch (next.seen c).python, .done⟩
  | _, .accessor d a destructor next =>
    let del := if a.destructs then (destructor.seen c).python else .done
    if some d = c then ⟨.accessor a (destructor.seen c).python (next.seen c).python, .done⟩
    else ⟨.switch (del.append (next.seen c).python), .done⟩
  | _, .engineInfo d infos next =>
    if some d = c then ⟨.engineInfo infos (next.seen c).python, .done⟩
    else ⟨(next.seen c).python.switches (infos + 1), .done⟩
  | _, .keyIter d k next =>
    if some d = c then ⟨.keyIter k (next.seen c).python, .done⟩
    else ⟨(next.seen c).python.switches (switchCount k.code), .done⟩
  | _, .operation d m o callbacks next =>
    if some d = c then ⟨.operation m o (callbacks.seen c).gpgme (next.seen c).python, .done⟩
    else
      let epilogue := (next.seen c).python.switches (switchCount (m.epilogue o))
      ⟨.switch ((callbacks.seen c).python.append epilogue), .done⟩
  | some _, .callback cb body next =>
    ⟨(body.seen c).python.append (.switch (next.seen c).python),
      .callback cb (body.seen c).python (next.seen c).gpgme⟩

section
variable [DecidableEq C]

theorem seen_on (c : C) (code : Threads.Code) : seenCode (some c) (on c code) = code := by
  simp [seenCode, on, List.filter_map, Function.comp_def]

theorem seen_on_other {c : Option C} {d : C} (other : some d ≠ c) (code : Threads.Code) :
    seenCode c (on d code) = code.filter everywhere := by
  simp [seenCode, on, List.filter_map, Function.comp_def, other]

theorem seen_outside (c : Option C) {code : Threads.Code}
    (thread : ∀ i ∈ code, everywhere i = true) : seenCode c (outside code) = code := by
  have all : code.filter (fun i => everywhere i || decide (none = c)) = code :=
    List.filter_eq_self.mpr fun i mem => by simp [thread i mem]
  simpa [seenCode, outside, List.filter_map, Function.comp_def] using all

/-- Code that keeps the interpreter lock but for switches. -/
def Switching (code : Threads.Code) : Prop :=
  code.filter everywhere = (List.replicate (switchCount code) gilSwitch).flatten

omit [DecidableEq C] in
theorem switching_of {code : Threads.Code} (n : Nat)
    (h : code.filter everywhere = (List.replicate n gilSwitch).flatten) : Switching code := by
  have count : switchCount code = n := by
    rw [switchCount, h]
    simp [gilSwitch]
  rw [Switching, count, h]

omit [DecidableEq C] in
theorem Switching.append {pre post : Threads.Code} (first : Switching pre)
    (second : Switching post) : Switching (pre ++ post) := by
  refine switching_of (switchCount pre + switchCount post) ?_
  rw [List.filter_append, first, second, List.replicate_add, List.flatten_append]

omit [DecidableEq C] in
theorem switching_convert (f : GpgmeFn) (length : Nat) : Switching (convert f length) := by
  refine switching_of length ?_
  simp [convert, gilSwitch, everywhere, List.filter_cons]

omit [DecidableEq C] in
theorem switching_epilogue (m : Method) (o : Outcome) : Switching (m.epilogue o) := by
  have check : Switching (checkError o.err) := by
    cases o.err
    · exact switching_of 0 rfl
    · exact switching_of 1 rfl
  have called : ∀ f, Switching (call f) := fun f => switching_of 0 rfl
  have conv := switching_convert
  have encrypt : Switching (decodeEncryptResult o) := (called _).append (conv _ _)
  have decrypt : Switching decodeDecryptResult := ((called _).append (conv _ _)).append (conv _ _)
  have nothing : Switching [] := switching_of 0 rfl
  cases m with
  | encrypt =>
    refine check.append ?_
    split
    · exact encrypt
    · exact nothing
  | encryptSign =>
    refine ((called _).append check).append ?_
    split
    · exact (encrypt.append (conv _ _)).append (conv _ _)
    · exact conv _ _
  | decrypt =>
    refine check.append ?_
    split
    · exact decrypt
    · exact nothing
  | decryptVerify =>
    refine check.append ?_
    split
    · exact decrypt
    · exact (called _).append (conv _ _)
  | sign =>
    refine ((called _).append check).append ?_
    split
    · exact (conv _ _).append (conv _ _)
    · exact conv _ _
  | verify => exact ((called _).append check).append (conv _ _)
  | import_ => exact ((called _).append (conv _ _)).append check
  | importKeys => exact ((called _).append (conv _ _)).append check
  | genkey => exact ((called _).append (conv _ _)).append check
  | _ => exact check

omit [DecidableEq C] in
theorem switching_keyIter (k : KeyIterCall) : Switching k.code := by
  cases k with
  | next => exact switching_of 1 rfl
  | dealloc => exact switching_of 0 rfl

omit [DecidableEq C] in
theorem engineInfo_everywhere (infos : Nat) :
    (contextGetEngineInfo infos).filter everywhere =
      (List.replicate (infos + 1) gilSwitch).flatten := by
  simp [contextGetEngineInfo, call, lockContext, unlockContext, gilSwitch, everywhere,
    List.filter_cons, List.replicate_succ]

/-- What Context `c` sees of a program's code, by who runs the program. At another
Context the code starts and ends without the interpreter lock. -/
def SeenAs (c : Option C) : {by_ : Option C} → Prog C by_ → Prop
  | none, p => seenCode c p.code = (p.seen c).python.code
  | some d, p =>
    if some d = c then seenCode c p.code = (p.seen c).gpgme.code
    else .saveThread :: (seenCode c p.code ++ [.restoreThread]) =
      gilSwitch ++ (p.seen c).python.code

theorem seen_as (c : Option C) {by_ : Option C} (p : Prog C by_) : SeenAs c p := by
  induction p with
  | @done by_ =>
    cases by_ with
    | none => rfl
    | some d => by_cases here : some d = c <;> simp [SeenAs, here, seenCode, Prog.code, Prog.seen,
        Threads.Prog.code, gilSwitch]
  | switch next ih =>
    have after : seenCode c next.code = (next.seen c).python.code := ih
    change seenCode c (outside gilSwitch ++ next.code) = _
    rw [LockFamily.seenCode_append, seen_outside c (by decide), after]
    rfl
  | accessor d a destructor next ihd ih =>
    have after : seenCode c next.code = (next.seen c).python.code := ih
    have del : seenCode c (if a.destructs then destructor.code else []) =
        (if a.destructs then (destructor.seen c).python else .done).code := by
      split
      · exact ihd
      · rfl
    simp only [SeenAs, Prog.code, Prog.seen, LockFamily.seenCode_append, after, del]
    by_cases here : some d = c
    · subst here
      simp only [seen_on, if_true, Threads.Prog.code, a.code_eq, locked]
      split <;> simp [Threads.Prog.code]
    · have silent : (a.calls.flatMap call ++ unlockContext).filter everywhere = [] := by
        simp [List.filter_append, List.filter_flatMap, call, unlockContext, everywhere]
      simp only [seen_on_other here, silent, here, if_false, Threads.Prog.code,
        Threads.Prog.code_append, List.append_nil, List.append_assoc]
      rfl
  | engineInfo d infos next ih =>
    have after : seenCode c next.code = (next.seen c).python.code := ih
    simp only [SeenAs, Prog.code, Prog.seen, LockFamily.seenCode_append, after]
    by_cases here : some d = c
    · subst here
      simp [seen_on, Threads.Prog.code]
    · simp [seen_on_other here, here, engineInfo_everywhere, Threads.Prog.code_switches]
  | keyIter d k next ih =>
    have after : seenCode c next.code = (next.seen c).python.code := ih
    simp only [SeenAs, Prog.code, Prog.seen, LockFamily.seenCode_append, after]
    by_cases here : some d = c
    · subst here
      simp [seen_on, Threads.Prog.code]
    · rw [seen_on_other here, switching_keyIter k]
      simp [here, Threads.Prog.code_switches]
  | operation d m o callbacks next ihc ih =>
    have after : seenCode c next.code = (next.seen c).python.code := ih
    simp only [SeenAs, Prog.code, Prog.seen, LockFamily.seenCode_append, after] at ihc ⊢
    by_cases here : some d = c
    · subst here
      simp only [if_true] at ihc ⊢
      rw [ihc]
      simp [seen_on, Threads.Prog.code, Threads.Method.code, blocking]
    · simp only [here, if_false] at ihc ⊢
      have entered : (beginAllowThreads ++ [.act (.enter m.op)] : Threads.Code).filter everywhere =
          [.saveThread] := rfl
      have left : ([.act (.leave m.op)] ++ endAllowThreads : Threads.Code).filter everywhere =
          [.restoreThread] := rfl
      rw [seen_on_other here, seen_on_other here, entered, List.filter_append, left,
        switching_epilogue m o]
      simp only [Threads.Prog.code, Threads.Prog.code_append, Threads.Prog.code_switches]
      rw [← List.append_assoc gilSwitch, ← ihc]
      simp
  | @callback d cb body next ihb ih =>
    have run : seenCode c body.code = (body.seen c).python.code := ihb
    simp only [SeenAs, Prog.code, Prog.seen, LockFamily.seenCode_append, run] at ih ⊢
    by_cases here : some d = c
    · subst here
      simp only [if_true] at ih ⊢
      rw [ih]
      simp [seen_on, Threads.Prog.code, cb.code_eq, callbackFrame]
    · simp only [here, if_false] at ih ⊢
      have entered : ([.assertState true, .loadState, .restoreThread] : Threads.Code).filter
          everywhere = [.restoreThread] := rfl
      have left : ([.saveThread, .storeState] : Threads.Code).filter everywhere =
          [.saveThread] := rfl
      rw [seen_on_other here, seen_on_other here, entered, left]
      simp only [Threads.Prog.code, Threads.Prog.code_append, ← ih]
      simp [gilSwitch]

/-- A thread, as one Context sees it, is a thread of the system with one Context. -/
theorem seen_threadCode (c : Option C) (p : Prog C none) :
    seenCode c (threadCode p) = Threads.threadCode (p.seen c).python := by
  have seen : seenCode c p.code = (p.seen c).python.code := seen_as c p
  rw [threadCode, LockFamily.seenCode_append, LockFamily.seenCode_append, seen,
    seen_outside c (by decide), seen_outside c (by decide)]
  rfl

theorem seen_follows (c : Option C) (p : Prog C none) :
    Follows true View.idle (seenCode c (threadCode p)) := by
  rw [seen_threadCode]
  exact thread_follows _

end

/-! ## Which Contexts are used inside which -/

/-- Whatever runs under the mutex of a Context `c` (a callback of an operation on it,
or the destructor of a callable it replaces) uses the mutex of a Context `d` only
where `nests c d`. `outer` is the Context under whose mutex the program runs. -/
def Prog.Within (nests : C → C → Prop) (outer : Option C) : {by_ : Option C} → Prog C by_ → Prop
  | _, .done => True
  | _, .switch next => next.Within nests outer
  | _, .accessor c a destructor next =>
    (∀ o, outer = some o → nests o c) ∧
      (a.destructs = true → destructor.Within nests (some c)) ∧ next.Within nests outer
  | _, .engineInfo c _ next => (∀ o, outer = some o → nests o c) ∧ next.Within nests outer
  | _, .keyIter _ _ next => next.Within nests outer
  | _, .operation c _ _ callbacks next =>
    (∀ o, outer = some o → nests o c) ∧ callbacks.Within nests (some c) ∧ next.Within nests outer
  | _, .callback _ body next => body.Within nests outer ∧ next.Within nests outer

end Pygpgme.Source.ManyContexts
