import Pygpgme.Source.MethodCode
import Pygpgme.Guarantees.FailureDetails

/-!
# The two models of a method agree

What a method of the interpreter model asks of gpgme, in which order, is what the code
of the lock model enters. The lock model fetches the details of every failure; the
interpreter does not when the failure could not be raised as a `GpgmeError`.
-/

set_option autoImplicit false

namespace Pygpgme.Guarantees.MethodCode
open Pygpgme.Library.Program
open Pygpgme.Source.Threads (GpgmeFn Code)
open Pygpgme.Source.Python Pygpgme.Source.Error Pygpgme.Source.Arguments
open Pygpgme.Source.Results Pygpgme.Source.Methods Pygpgme.Source.Pending
open Pygpgme.Guarantees.ErrorCodes (plainState)
open Pygpgme.Guarantees.FailureDetails (Overshadowed plainModule plainFile)

/-! ## What the code enters -/

@[simp] theorem entries_nil : entries [] = [] := rfl

@[simp] theorem entries_append (first second : Code) :
    entries (first ++ second) = entries first ++ entries second :=
  List.filterMap_append

theorem entries_flatten_replicate (n : Nat) {code : Code} (none : entries code = []) :
    entries (List.replicate n code).flatten = [] := by
  induction n with
  | zero => rfl
  | succ n ih => simp [List.replicate_succ, none, ih]

@[simp] theorem entries_call (f : GpgmeFn) : entries (Source.Threads.call f) = [f] := rfl

@[simp] theorem entries_locked (inner : Code) :
    entries (Source.Threads.locked inner) = entries inner := by
  simp [Source.Threads.locked, entries, Source.Threads.lockContext, Source.Threads.unlockContext]

@[simp] theorem entries_blocking (f : GpgmeFn) (callbacks : Code) :
    entries (Source.Threads.blocking f callbacks) = f :: entries callbacks := by
  simp [Source.Threads.blocking, entries, Source.Threads.beginAllowThreads,
    Source.Threads.endAllowThreads]

@[simp] theorem entries_callbackCode {Callback : Type} (kind : Callback → Source.Threads.Callback)
    (op : Operation Callback) : entries (callbackCode kind op) = [] := by
  unfold callbackCode
  induction op.callbacks with
  | nil => rfl
  | cons callback rest ih =>
    rw [List.flatMap_cons, entries_append, ih, Source.Threads.Callback.code_eq]
    rfl

@[simp] theorem entries_checkError (err : Bool) : entries (Source.Threads.checkError err) = [] := by
  cases err <;> rfl

@[simp] theorem entries_convert (f : GpgmeFn) (length : Nat) :
    entries (Source.Threads.convert f length) = [] :=
  entries_flatten_replicate length rfl

/-- The result functions that a method enters after its operation; those that only a
failure looks at are left out when it is not to be `detailed`. -/
def resultCalls (failed detailed : Bool) : Source.Threads.Method → List GpgmeFn
  | .encrypt => if failed && detailed then [.opEncryptResult] else []
  | .encryptSign => .opSignResult :: if failed && detailed then [.opEncryptResult] else []
  | .decrypt => if failed && detailed then [.opDecryptResult] else []
  | .decryptVerify =>
    if failed then if detailed then [.opDecryptResult] else [] else [.opVerifyResult]
  | .sign => [.opSignResult]
  | .verify => [.opVerifyResult]
  | .import_ | .importKeys => [.opImportResult]
  | .genkey => [.opGenkeyResult]
  | .getKey | .export_ | .exportKeys | .delete | .edit | .cardEdit | .keylist => []

theorem entries_method (method : Source.Threads.Method) (o : Source.Threads.Outcome)
    {callbacks : Code} (none : entries callbacks = []) :
    entries (method.code o callbacks) = method.op :: resultCalls o.err true method := by
  rw [Source.Threads.Method.code, entries_append, entries_blocking, none]
  cases method <;> cases failed : o.err <;>
    simp [Source.Threads.Method.epilogue, resultCalls, Source.Threads.importResult,
      Source.Threads.genkeyResult, Source.Threads.decodeEncryptResult,
      Source.Threads.decodeDecryptResult, failed]

/-! ## What the interpreter enters -/

theorem calls_congr {s s' : Interp} (same : s'.entered = s.entered) : calls s' = calls s := by
  rw [calls, same, calls]

theorem calls_cons {s s' : Interp} {fn : GpgmeFn} {args : List CArg} {pending : Bool}
    (entered : s'.entered = ⟨fn, args, pending⟩ :: s.entered) : calls s' = calls s ++ [fn] := by
  rw [calls, entered, List.map_cons, List.reverse_cons, calls]

section
variable {m : Module}

/-- The rest of a method, given what the operation returned: the functions it enters, by
whether an exception is pending, and that it returns nothing for a failure. -/
def Finishes (rest : GpgError → Py (Option PyObject)) (tail : GpgError → Bool → List GpgmeFn) :
    Prop :=
  ∀ err s, achieves (rest err) s fun r s' =>
    calls s' = calls s ++ tail err s.pending.isSome ∧ (r ≠ none → err = noError)

/-- The exception is a `GpgmeError` unless one that was pending took its place. -/
theorem checkError_finishes {failure success : GpgError → Py (Option PyObject)}
    (succeeded : List GpgmeFn) (detailed : Bool → List GpgmeFn)
    (fails : ∀ err s e, s.pending = some e → achieves (failure err) s fun r s' =>
      calls s' = calls s ++ detailed e.cls.isGpgmeError ∧ r = none)
    (succeeds : ∀ s, achieves (success noError) s fun _ s' => calls s' = calls s ++ succeeded) :
    Finishes
      (fun err => do if ← checkError m.toModState err then failure err else success err)
      fun err before => if err = noError then succeeded else detailed !before := by
  intro err s
  rw [achieves_bind, achieves_checkError]
  by_cases success : err = noError
  · subst success
    simp only [if_true, Bool.false_eq_true, if_false]
    exact achieves_mono (succeeds s) fun r s' entered => ⟨entered, fun _ => trivial⟩
  · simp only [if_neg success]
    cases raised : s.pending.isSome with
    | true =>
      simp only [if_true]
      refine achieves_mono (fails err _ _ rfl) fun r s' ⟨entered, nothing⟩ => ?_
      exact ⟨entered, fun some_ => absurd nothing some_⟩
    | false =>
      simp only [Bool.false_eq_true, if_false, if_true]
      refine achieves_mono (fails err _ _ rfl) fun r s' ⟨entered, nothing⟩ => ?_
      exact ⟨entered, fun some_ => absurd nothing some_⟩

theorem Finishes.after_result {fn : GpgmeFn} {rest : GpgError → Py (Option PyObject)}
    {tail : GpgError → Bool → List GpgmeFn} (finishes : Finishes rest tail) :
    Finishes (fun err => do
      gpgme fn []
      rest err) fun err before => fn :: tail err before := by
  intro err s
  rw [achieves_bind, achieves_gpgme]
  refine achieves_mono (finishes err _) fun r s' ⟨entered, returned⟩ => ⟨?_, returned⟩
  rw [entered, calls_cons (s := s) rfl, List.append_assoc, List.singleton_append]

/-! ### Annotations -/

theorem annotate_calls {f : PyExc → Py PyExc} {fns : List GpgmeFn}
    (inner : ∀ e s, s.pending = none → achieves (f e) s fun _ s' => calls s' = calls s ++ fns)
    (s : Interp) (e : PyExc) (pending : s.pending = some e) :
    achieves (annotate f) s fun _ s' =>
      calls s' = calls s ++ if e.cls.isGpgmeError then fns else [] := by
  unfold annotate
  rw [achieves_bind, achieves_fetch, pending]
  cases ofGpgmeError : e.cls.isGpgmeError with
  | false =>
    simp only [ofGpgmeError, Bool.false_eq_true, if_false, achieves_restore, List.append_nil]
    rfl
  | true =>
    simp only [ofGpgmeError, if_true, achieves_bind, achieves_restore]
    exact inner e { s with pending := none } rfl

/-- An annotation that asks gpgme for nothing. -/
theorem annotate_silent {f : PyExc → Py PyExc}
    (inner : ∀ e s, s.pending = none → achieves (f e) s fun _ s' => s'.entered = s.entered)
    (s : Interp) : achieves (annotate f) s fun _ s' => s'.entered = s.entered := by
  unfold annotate
  rw [achieves_bind, achieves_fetch]
  cases s.pending with
  | none => simp
  | some e =>
    cases ofGpgmeError : e.cls.isGpgmeError with
    | false => simp [ofGpgmeError]
    | true =>
      simp only [ofGpgmeError, if_true, achieves_bind, achieves_restore]
      exact inner e { s with pending := none } rfl

theorem decodeEncryptResult_calls (res : Option (List InvalidKey)) (s : Interp) (e : PyExc)
    (pending : s.pending = some e) :
    achieves (decodeEncryptResult m res) s fun _ s' =>
      calls s' = calls s ++ if e.cls.isGpgmeError then [.opEncryptResult] else [] := by
  refine annotate_calls (fun e s quiet => ?_) s e pending
  rw [achieves_bind, achieves_gpgme]
  cases res with
  | none => exact (achieves_pure _ _ _).mpr (calls_cons rfl)
  | some keys =>
    refine achieves_bind_of (invalidKeys_quiet m keys _ quiet) ?_
    intro items s₁ post
    obtain ⟨entered₁, _⟩ := post
    rw [achieves_pure]
    exact calls_cons entered₁

theorem decodeDecryptResult_calls (res : Option DecryptResult) (s : Interp) (e : PyExc)
    (pending : s.pending = some e) :
    achieves (decodeDecryptResult m res) s fun _ s' =>
      calls s' = calls s ++ if e.cls.isGpgmeError then [.opDecryptResult] else [] := by
  refine annotate_calls (fun e s _ => ?_) s e pending
  rw [achieves_bind, achieves_gpgme]
  cases res with
  | none => exact (achieves_pure _ _ _).mpr (calls_cons rfl)
  | some res => exact (achieves_pure _ _ _).mpr (calls_cons rfl)

theorem annotateSignResult_silent (res : Option SignResult) (s : Interp) :
    achieves (annotateSignResult m res) s fun _ s' => s'.entered = s.entered := by
  refine annotate_silent (fun e s quiet => ?_) s
  cases res with
  | none => simp
  | some res =>
    refine achieves_bind_of (invalidKeys_quiet m res.invalidSigners s quiet) ?_
    intro items s₁ post
    obtain ⟨entered₁, quiet₁⟩ := post
    rw [← entered₁]
    exact setList_entered (newsiglistNew_converts m res.signatures).1 s₁ quiet₁

theorem annotateVerifyResult_silent (res : Option (List Sig)) (s : Interp) :
    achieves (annotateVerifyResult m res) s fun _ s' => s'.entered = s.entered := by
  refine annotate_silent (fun e s quiet => ?_) s
  cases res with
  | none => simp
  | some signatures => exact setList_entered (siglistNew_converts m signatures).1 s quiet

theorem annotateResult_silent (res : Option PyObject) (s : Interp) :
    achieves (annotateResult res) s fun _ s' => s'.entered = s.entered := by
  refine annotate_silent (fun e s _ => ?_) s
  cases res <;> simp

/-! ### The ends of the methods -/

/-- A failure that is reported without another look at gpgme. -/
theorem silent_fails {p : Py Unit}
    (silent : ∀ s, achieves p s fun _ s' => s'.entered = s.entered) (s : Interp) (e : PyExc)
    (_ : s.pending = some e) :
    achieves (do
      p
      return none) s fun (r : Option PyObject) s' => calls s' = calls s ++ [] ∧ r = none := by
  refine achieves_bind_of (silent s) fun _ s₁ entered₁ => ?_
  rw [achieves_pure, List.append_nil]
  exact ⟨calls_congr entered₁, rfl⟩

theorem converts_succeeds {p : Py (Option PyObject)}
    (silent : ∀ s, achieves p s fun _ s' => s'.entered = s.entered) (s : Interp) :
    achieves p s fun _ s' => calls s' = calls s ++ [] := by
  refine achieves_mono (silent s) fun _ s₁ entered₁ => ?_
  rw [List.append_nil]
  exact calls_congr entered₁

theorem newSignatures_silent (signed : Option SignResult) (s : Interp) :
    achieves (newSignatures m signed) s fun _ s' => s'.entered = s.entered := by
  cases signed with
  | none => simp [newSignatures]
  | some res =>
    refine achieves_bind_of ((newsiglistNew_converts m res.signatures).2 s) fun r s₁ entered₁ => ?_
    rwa [achieves_pure]

theorem signatures_silent (verified : Option (List Sig)) (s : Interp) :
    achieves (signatures m verified) s fun _ s' => s'.entered = s.entered := by
  cases verified with
  | none => simp [signatures]
  | some sigs =>
    refine achieves_bind_of ((siglistNew_converts m sigs).2 s) fun r s₁ entered₁ => ?_
    rwa [achieves_pure]

/-- The functions a method enters when it gets as far as its operation. -/
def expected (method : Source.Threads.Method) (err : GpgError) (before : Bool) :
    List GpgmeFn :=
  resultCalls (decide (err ≠ noError)) (!before) method

variable (m)

abbrev Ends (rest : GpgError → Py (Option PyObject)) (method : Source.Threads.Method) : Prop :=
  Finishes rest (expected method)

theorem Finishes.ends {rest : GpgError → Py (Option PyObject)} {tail : GpgError → Bool → List GpgmeFn}
    {method : Source.Threads.Method} (finishes : Finishes rest tail)
    (same : ∀ err before, tail err before = expected method err before) : Ends rest method := by
  intro err s
  rw [← same]
  exact finishes err s

/-- Nothing more is asked for, whatever the end is. -/
theorem Finishes.silent {failure success : GpgError → Py (Option PyObject)}
    (fails : ∀ err s e, s.pending = some e → achieves (failure err) s fun r s' =>
      calls s' = calls s ++ [] ∧ r = none)
    (succeeds : ∀ s, achieves (success noError) s fun _ s' => calls s' = calls s ++ []) :
    Finishes
      (fun err => do if ← checkError m.toModState err then failure err else success err)
      fun _ _ => [] := by
  have finishes := checkError_finishes (m := m) [] (fun _ => []) fails succeeds
  simp only [ite_self] at finishes
  exact finishes

theorem object_ends (o : PyObject) {method : Source.Threads.Method}
    (asksNothing : ∀ failed detailed, resultCalls failed detailed method = []) :
    Ends (fun err => do if ← checkError m.toModState err then return none else return some o)
      method := by
  refine (Finishes.silent m (fun err s e _ => ?_) fun s => ?_).ends fun err before => ?_
  · simp
  · rw [achieves_pure, List.append_nil]
  · rw [expected, asksNothing]

/-- A failure with details, and a success that asks for `succeeded`. -/
theorem detailed_ends {p : Py Unit} {fn : GpgmeFn} {success : GpgError → Py (Option PyObject)}
    (succeeded : List GpgmeFn) {method : Source.Threads.Method}
    (decodes : ∀ s e, s.pending = some e → achieves p s fun _ s' =>
      calls s' = calls s ++ if e.cls.isGpgmeError then [fn] else [])
    (succeeds : ∀ s, achieves (success noError) s fun _ s' => calls s' = calls s ++ succeeded)
    (same : ∀ failed detailed, resultCalls failed detailed method =
      if failed then if detailed then [fn] else [] else succeeded) :
    Ends (fun err => do
      if ← checkError m.toModState err then
        p
        return none
      else success err) method := by
  refine (checkError_finishes succeeded (fun detailed => if detailed then [fn] else [])
    (fun err s e pending => ?_) succeeds).ends fun err before => ?_
  · refine achieves_bind_of (decodes s e pending) fun _ s₁ entered₁ => ?_
    rw [achieves_pure]
    exact ⟨entered₁, rfl⟩
  · rw [expected, same]
    by_cases success : err = noError <;> simp [success]

theorem encryptEnd_ends (encrypted : Option (List InvalidKey)) :
    Ends (fun err => do
      if ← checkError m.toModState err then
        decodeEncryptResult m encrypted
        return none
      else return some .none) .encrypt := by
  refine detailed_ends m [] (decodeEncryptResult_calls encrypted) (fun s => ?_) ?_
  · rw [achieves_pure, List.append_nil]
  · decide

theorem decryptEnd_ends (decrypted : Option DecryptResult) :
    Ends (fun err => do
      if ← checkError m.toModState err then
        decodeDecryptResult m decrypted
        return none
      else return some .none) .decrypt := by
  refine detailed_ends m [] (decodeDecryptResult_calls decrypted) (fun s => ?_) ?_
  · rw [achieves_pure, List.append_nil]
  · decide

/-- After its operation succeeded, the second check of the same error finds none. -/
theorem decryptVerifyEnd_ends (decrypted : Option DecryptResult) (verified : Option (List Sig)) :
    Ends (fun err => do
      if ← checkError m.toModState err then
        decodeDecryptResult m decrypted
        return none
      else
        gpgme .opVerifyResult []
        if ← checkError m.toModState err then
          annotateVerifyResult m verified
          return none
        else signatures m verified) .decryptVerify := by
  refine detailed_ends m [.opVerifyResult] (decodeDecryptResult_calls decrypted)
    (fun s => ?_) (by decide)
  simp only [achieves_bind, achieves_gpgme, achieves_checkError, if_true, Bool.false_eq_true,
    if_false]
  refine achieves_mono (signatures_silent verified _) fun r s₁ entered₁ => ?_
  exact calls_cons entered₁

/-- The sign result is fetched before the failure is known. -/
theorem encryptSignEnd_ends (encrypted : Option (List InvalidKey)) (signed : Option SignResult) :
    Ends (fun err => do
      gpgme .opSignResult []
      if ← checkError m.toModState err then
        decodeEncryptResult m encrypted
        annotateSignResult m signed
        return none
      else newSignatures m signed) .encryptSign := by
  refine ((checkError_finishes (m := m) []
    (fun detailed => if detailed then [.opEncryptResult] else [])
    (fun err s e pending => ?_) ?_).after_result).ends fun err before => ?_
  · refine achieves_bind_of (decodeEncryptResult_calls encrypted s e pending) ?_
    intro _ s₁ entered₁
    refine achieves_bind_of (annotateSignResult_silent signed s₁) fun _ s₂ entered₂ => ?_
    rw [achieves_pure, calls_congr entered₂]
    exact ⟨entered₁, rfl⟩
  · exact converts_succeeds (newSignatures_silent signed)
  · by_cases success : err = noError <;> simp [expected, resultCalls, success]

theorem signEnd_ends (signed : Option SignResult) :
    Ends (fun err => do
      gpgme .opSignResult []
      if ← checkError m.toModState err then
        annotateSignResult m signed
        return none
      else newSignatures m signed) .sign :=
  (Finishes.silent m (fun _ => silent_fails (annotateSignResult_silent signed))
    (converts_succeeds (newSignatures_silent signed))).after_result.ends fun _ _ => rfl

theorem verifyEnd_ends (verified : Option (List Sig)) :
    Ends (fun err => do
      gpgme .opVerifyResult []
      if ← checkError m.toModState err then
        annotateVerifyResult m verified
        return none
      else signatures m verified) .verify :=
  (Finishes.silent m (fun _ => silent_fails (annotateVerifyResult_silent verified))
    (converts_succeeds (signatures_silent verified))).after_result.ends fun _ _ => rfl

/-- A result that is converted, and attached to a failure. -/
theorem attachedEnd_ends {convert : Py (Option PyObject)} {fn : GpgmeFn}
    {method : Source.Threads.Method}
    (converts : ∀ s, achieves convert s fun _ s' => calls s' = calls s ++ [fn])
    (same : ∀ failed detailed, resultCalls failed detailed method = [fn]) :
    Ends (fun err => do
      let result ← convert
      if ← checkError m.toModState err then
        annotateResult result
        return none
      else return result) method := by
  intro err s
  refine achieves_bind_of (converts s) fun result s₁ entered₁ => ?_
  have returns : ∀ s, achieves (pure result : Py (Option PyObject)) s fun _ s' =>
      calls s' = calls s ++ [] := by
    intro s
    rw [achieves_pure, List.append_nil]
  have finishes : Finishes (fun err => do
      if ← checkError m.toModState err then
        annotateResult result
        return none
      else return result) fun _ _ => [] :=
    Finishes.silent m (fun _ => silent_fails (annotateResult_silent result)) returns
  refine achieves_mono (finishes err s₁) fun r s₂ ⟨entered₂, returned⟩ => ⟨?_, returned⟩
  rw [entered₂, entered₁, expected, same, List.append_nil]

theorem importResult_calls (res : Option ImportResult) (s : Interp) :
    achieves (importResult m res) s fun _ s' => calls s' = calls s ++ [.opImportResult] := by
  unfold importResult
  rw [achieves_bind, achieves_gpgme]
  cases res with
  | none => exact (achieves_pure _ _ _).mpr (calls_cons rfl)
  | some res =>
    refine achieves_bind_of ((importStatuses_converts m res.imports).2 _) fun r s₁ entered₁ => ?_
    cases r <;> exact (achieves_pure _ _ _).mpr (calls_cons entered₁)

theorem genkeyResult_calls (res : Option GenkeyResult) (s : Interp) :
    achieves (genkeyResult m res) s fun _ s' => calls s' = calls s ++ [.opGenkeyResult] := by
  unfold genkeyResult
  rw [achieves_bind, achieves_gpgme]
  cases res <;> exact (achieves_pure _ _ _).mpr (calls_cons rfl)

end

/-! ## From the call to its end -/

/-- Whether the callbacks of the operation leave an exception pending. -/
abbrev left (op : Operation StreamCallback) : Bool := leaves streamOverflows false op.callbacks

/-- What has to hold when a call returns `r`: one that starts enters `trace`, and any other
nothing. -/
def Follows (starts : Prop) (err : GpgError) (trace : List GpgmeFn) (r : Option PyObject)
    (s : Interp) : Prop :=
  (starts → calls s = trace ∧ (r ≠ none → err = noError)) ∧ (¬ starts → calls s = [] ∧ r = none)

theorem Follows.congr {starts starts' : Prop} {err : GpgError} {trace : List GpgmeFn}
    {r : Option PyObject} {s : Interp} (follows : Follows starts err trace r s)
    (same : starts ↔ starts') : Follows starts' err trace r s :=
  ⟨fun begins => follows.1 (same.mpr begins), fun never => follows.2 (mt same.mp never)⟩

theorem not_dataFails_nil (created : Nat → GpgError) : ¬ DataFails created [] := by
  simp [DataFails]

section
variable (m : Module) {errno : Int} {method : Source.Threads.Method}

/-- The operation, and the end of the method. -/
theorem operation_follows {Callback : Type} {start : Py GpgError} {op : Operation Callback}
    {fn : GpgmeFn} {args : List CArg} {s : Interp} {overflows : Bool → Callback → Bool}
    (silent : s.entered = [])
    (started : ensures start s fun err s' => err = op.err ∧
      s'.entered = ⟨fn, args, s.pending.isSome⟩ :: s.entered ∧
        s'.pending.isSome = leaves overflows s.pending.isSome op.callbacks)
    {rest : GpgError → Py (Option PyObject)} (ends : Ends rest method) :
    ensures (start >>= rest) s (Follows True op.err
      (fn :: expected method op.err (leaves overflows s.pending.isSome op.callbacks))) := by
  refine ensures_bind started ?_
  intro err s₁ post
  obtain ⟨rfl, entered₁, pending₁⟩ := post
  refine ensures_of_achieves (achieves_mono (ends op.err s₁) fun r s₂ ⟨entered₂, returned⟩ => ?_)
  refine ⟨fun _ => ⟨?_, returned⟩, fun never => absurd trivial never⟩
  rw [entered₂, pending₁, calls_cons entered₁, calls, silent]
  rfl

theorem contextOperation_follows (fn : GpgmeFn) (args : List CArg) (op : Operation ContextCallback)
    {rest : GpgError → Py (Option PyObject)} (ends : Ends rest method) :
    ensures (operation (·.run m) fn args op >>= rest) ⟨none, errno, []⟩
      (Follows (¬ DataFails (fun _ => noError) []) op.err (fn :: expected method op.err false)) := by
  have started := ensures_of_achieves (operation_pending op fn args ⟨none, errno, []⟩
    fun s _ => runAll_pending (contextCallback_pending m) op.callbacks s)
  have quiet : ∀ callbacks, leaves contextOverflows false callbacks = false := by
    intro callbacks
    induction callbacks with
    | nil => rfl
    | cons callback rest ih => exact ih
  have follows := operation_follows rfl started ends
  rw [Option.isSome_none, quiet] at follows
  exact fun r s ran => (follows r s ran).congr (iff_of_true trivial (not_dataFails_nil _))

/-- The data objects come first. -/
theorem dataNews_follows {created : Nat → GpgError} {files : List PyObject} {s : Interp}
    (silent : s.entered = []) {success : Py (Option PyObject)} {err : GpgError}
    {trace : List GpgmeFn} (goesOn : ensures success s (Follows True err trace)) :
    ensures (do if ← dataNews m created files then return none else success) s
      (Follows (¬ DataFails created files) err trace) := by
  by_cases fails : DataFails created files
  · refine ensures_of_achieves (achieves_bind_of (dataNews_fails m files created s fails) ?_)
    intro failed s₁ post
    obtain ⟨rfl, entered₁, _⟩ := post
    rw [if_pos rfl, achieves_pure]
    refine ⟨fun made => absurd fails made, fun _ => ⟨?_, rfl⟩⟩
    rw [calls, entered₁, silent]
    rfl
  · refine ensures_bind (ensures_of_achieves (dataNews_succeeds m files created s fails)) ?_
    rintro _ _ ⟨rfl, rfl⟩
    intro r s₂ ran
    obtain ⟨entered₂, _⟩ := goesOn r s₂ ran
    exact ⟨fun _ => entered₂ trivial, fun fails' => absurd fails fails'⟩

theorem streamOperation_follows (created : Nat → GpgError) (files : List PyObject) (fn : GpgmeFn)
    (args : List CArg) (op : Operation StreamCallback)
    {rest : GpgError → Py (Option PyObject)} (ends : Ends rest method) :
    ensures (do
      if ← dataNews m created files then return none
      else operation (·.run m) fn args op >>= rest) ⟨none, errno, []⟩
      (Follows (¬ DataFails created files) op.err
        (fn :: expected method op.err (left op))) :=
  dataNews_follows m rfl (operation_follows rfl (ensures_of_achieves (operation_pending op fn
    args _ fun s _ => runAll_pending (streamCallback_pending m) op.callbacks s)) ends)

theorem editOperation_ensures (op : Operation EditCallback) (fn : GpgmeFn) (args : List CArg)
    (s : Interp) :
    ensures (operation (·.run m) fn args op) s fun err s' => err = op.err ∧
      s'.entered = ⟨fn, args, s.pending.isSome⟩ :: s.entered ∧
        s'.pending.isSome = leaves editOverflows s.pending.isSome op.callbacks := by
  by_cases crash : EditCrash s.pending.isSome op.callbacks
  · intro err s' ran
    exact absurd ⟨err, s', ran, trivial⟩ (editOperation_crashes m op fn args s crash fun _ _ => True)
  · exact ensures_of_achieves (editOperation_pending m op fn args s crash)

/-- What is refused is refused before anything else. -/
theorem refused_follows {α β : Type} {parsed : Option α} {g : α → β} {made : β → Prop}
    (refused : parsed = none) {err : GpgError} {trace : List GpgmeFn} {s : Interp}
    (silent : s.entered = []) :
    Follows (∃ b, parsed.map g = some b ∧ made b) err trace none s := by
  have never : ¬ ∃ b, parsed.map g = some b ∧ made b := by
    rw [refused]
    intro h
    obtain ⟨b, same, -⟩ := h
    cases same
  refine ⟨fun h => absurd h never, fun _ => ⟨?_, rfl⟩⟩
  rw [calls, silent]
  rfl

theorem Follows.accepted {α β : Type} {parsed : Option α} {a : α} (accepted : parsed = some a)
    {g : α → β} {made : β → Prop} {err : GpgError} {trace : List GpgmeFn}
    {r : Option PyObject} {s : Interp} (follows : Follows (made (g a)) err trace r s) :
    Follows (∃ b, parsed.map g = some b ∧ made b) err trace r s := by
  refine follows.congr ?_
  rw [accepted]
  simp

theorem attempt_follows {α β : Type} {parse : Except PyExc α} {g : α → β} {made : β → Prop}
    {body : Option α → Py (Option PyObject)} {err : GpgError} {trace : List GpgmeFn}
    (refused : body none = return none)
    (accepted : ∀ a, ensures (body (some a)) ⟨none, errno, []⟩ (Follows (made (g a)) err trace)) :
    ensures (attempt parse >>= body) ⟨none, errno, []⟩
      (Follows (∃ b, parse.toOption.map g = some b ∧ made b) err trace) := by
  cases parse with
  | error e =>
    refine ensures_of_achieves ?_
    simp only [achieves_bind, achieves_attempt, refused, achieves_pure]
    exact refused_follows rfl rfl
  | ok a => exact fun r s ran => Follows.accepted rfl (accepted a r s ran)

/-- The same for a conversion that may not come back. -/
theorem convert_follows {α β : Type} {parse : Except Stop α} {g : α → β} {made : β → Prop}
    {body : Option α → Py (Option PyObject)} {err : GpgError} {trace : List GpgmeFn}
    (refused : body none = return none)
    (accepted : ∀ a, ensures (body (some a)) ⟨none, errno, []⟩ (Follows (made (g a)) err trace)) :
    ensures (convert parse >>= body) ⟨none, errno, []⟩
      (Follows (∃ b, parse.toOption.map g = some b ∧ made b) err trace) := by
  cases parse with
  | error stop =>
    cases stop with
    | crash =>
      intro r s ran
      cases ran
    | raised e =>
      refine ensures_of_achieves ?_
      simp only [achieves_bind, achieves_convert, refused, achieves_pure]
      exact refused_follows rfl rfl
  | ok a => exact fun r s ran => Follows.accepted rfl (accepted a r s ran)

theorem setting_follows (fn : GpgmeFn) (args : List CArg) (ret : GpgError) :
    ensures (do
      gpgme fn args
      noneUnlessError m ret) ⟨none, errno, []⟩
      (Follows (¬ DataFails (fun _ => noError) []) ret [fn]) := by
  refine ensures_of_achieves ?_
  rw [achieves_bind, achieves_gpgme]
  have ends : Ends (noneUnlessError m) .delete := object_ends m .none (by decide)
  refine achieves_mono (ends ret _) fun r s ⟨entered, returned⟩ => ?_
  exact ⟨fun _ => ⟨entered, returned⟩, fun fails => absurd (not_dataFails_nil _) fails⟩

theorem contextGetEngineInfo_calls (infos : List EngineInfo) (args : List PyObject) (errno : Int) :
    achieves (contextGetEngineInfo m infos args) ⟨none, errno, []⟩ fun _ s =>
      calls s = [.ctxGetEngineInfo] := by
  unfold contextGetEngineInfo
  rw [achieves_bind, achieves_gpgme]
  refine achieves_bind_of (engineInfoListNew_pending m infos _) fun items s₁ ⟨entered₁, _⟩ => ?_
  rw [achieves_pure, calls, entered₁]
  rfl

/-- The warning changes what is pending at most. -/
theorem editWith_follows (fn : GpgmeFn) (text : String) (warning : Option ExcClass)
    (created : Nat → GpgError) (op : Operation EditCallback) (args : List PyObject) :
    ensures (editWith m fn text warning created op args) ⟨none, errno, []⟩
      (Follows (∃ files, (editArgs args).toOption.map (fun (_, _, out) => [out]) = some files ∧
        ¬ DataFails created files) op.err [fn]) := by
  refine attempt_follows rfl fun (key, callback, out) => ?_
  have warned : achieves (warnEx warning text) ⟨none, errno, []⟩ fun _ s => s.entered = [] := by
    cases warning <;> simp [warnEx]
  refine ensures_bind (ensures_of_achieves warned) fun _ s₁ silent => ?_
  have ends : Ends (noneUnlessError m) .edit := object_ends m .none (by decide)
  exact dataNews_follows m silent
    (operation_follows silent (editOperation_ensures m op fn _ s₁) ends)

end

/-! ## The code and the call -/

/-- The methods that look for details of a failure after it is raised. -/
def looksBack : Source.Threads.Method → Bool
  | .encrypt | .encryptSign | .decrypt | .decryptVerify => true
  | _ => false

theorem resultCalls_prefix (failed detailed : Bool) (method : Source.Threads.Method) :
    resultCalls failed detailed method <+: resultCalls failed true method := by
  cases method <;> revert failed detailed <;> decide

theorem resultCalls_eq_iff (failed detailed : Bool) (method : Source.Threads.Method) :
    resultCalls failed detailed method = resultCalls failed true method ↔
      ¬ (looksBack method = true ∧ failed = true ∧ detailed = false) := by
  cases method <;> revert failed detailed <;> decide

/-- A trace goes along some code, to its end unless `short`. -/
def Along (trace : List GpgmeFn) (code : Code) (short : Prop) : Prop :=
  trace ≠ [] ∧ trace <+: entries code ∧ (trace = entries code ↔ ¬ short)

theorem along_whole {trace : List GpgmeFn} {code : Code} (some_ : trace ≠ [])
    (whole : trace = entries code) : Along trace code False :=
  ⟨some_, whole ▸ List.prefix_rfl, iff_of_true whole id⟩

section
variable (m : Module)

theorem method_along (method : Source.Threads.Method) (err : GpgError) (before : Bool)
    {o : Source.Threads.Outcome} (failed : o.err = decide (err ≠ noError)) {callbacks : Code}
    (none : entries callbacks = []) :
    Along (method.op :: expected method err before) (method.code o callbacks)
      (looksBack method = true ∧ err ≠ noError ∧ before = true) := by
  rw [Along, entries_method method o none, failed, List.cons_prefix_cons, List.cons.injEq]
  refine ⟨List.cons_ne_nil _ _, ⟨rfl, resultCalls_prefix _ _ _⟩, ?_⟩
  rw [expected, resultCalls_eq_iff]
  simp

/-- A method that does not look back goes along its code to the end. -/
theorem method_along_whole (method : Source.Threads.Method) (blind : looksBack method = false)
    (err : GpgError) (before : Bool) {o : Source.Threads.Outcome}
    (failed : o.err = decide (err ≠ noError)) {callbacks : Code} (none : entries callbacks = []) :
    Along (method.op :: expected method err before) (method.code o callbacks) False := by
  obtain ⟨some_, part, whole⟩ := method_along method err before failed none
  exact along_whole some_ (whole.mpr fun short => by simp [blind] at short)

/-- The failure is raised as another exception, and not looked into. -/
def Undetailed : Method → Prop
  | .encrypt _ op _ | .encryptSign _ op _ _ | .decrypt _ op _ | .decryptVerify _ op _ _ =>
    op.err ≠ noError ∧ Overshadowed op
  | _ => False

theorem method_along_undetailed (method : Source.Threads.Method) (looks : looksBack method = true)
    (op : Operation StreamCallback) {o : Source.Threads.Outcome}
    (failed : o.err = decide (op.err ≠ noError)) {callbacks : Code}
    (none : entries callbacks = []) :
    Along (method.op :: expected method op.err (left op))
      (method.code o callbacks) (op.err ≠ noError ∧ Overshadowed op) := by
  have along := method_along method op.err (left op) failed none
  simpa [looks, Overshadowed, left] using along

/-- The arguments are accepted, and every data object can be made. -/
def Starts (method : Method) (args : List PyObject) : Prop :=
  ∃ files, method.files args = some files ∧ ¬ DataFails method.created files

theorem method_follows (method : Method) (args : List PyObject) (errno : Int) :
    ∃ trace, ensures (method.call m args) ⟨none, errno, []⟩
        (Follows (Starts method args) method.err trace) ∧
      Along trace method.code (Undetailed method) := by
  cases method with
  | setEngineInfo ret =>
    refine ⟨[.ctxSetEngineInfo], attempt_follows rfl fun parsed => ?_,
      along_whole (List.cons_ne_nil _ _) rfl⟩
    exact setting_follows m .ctxSetEngineInfo _ ret
  | getEngineInfo infos =>
    refine ⟨[.ctxGetEngineInfo], ensures_of_achieves ?_, along_whole (List.cons_ne_nil _ _) ?_⟩
    · refine achieves_mono (contextGetEngineInfo_calls m infos args errno) fun r s entered => ?_
      exact ⟨fun _ => ⟨entered, fun _ => rfl⟩, fun never =>
        absurd ⟨[], rfl, not_dataFails_nil _⟩ never⟩
    · have switches : entries (List.replicate infos.length Source.Threads.gilSwitch).flatten = [] :=
        entries_flatten_replicate _ rfl
      simp only [Method.code, Source.Threads.contextGetEngineInfo, entries_append, entries_call,
        switches]
      rfl
  | setLocale ret =>
    refine ⟨[.setLocale], attempt_follows rfl fun parsed => ?_,
      along_whole (List.cons_ne_nil _ _) rfl⟩
    exact setting_follows m .setLocale _ ret
  | getKey op key =>
    refine ⟨_, attempt_follows rfl fun parsed => ?_,
      method_along_whole .getKey rfl op.err false rfl (entries_callbackCode _ _)⟩
    exact contextOperation_follows m .getKey _ op (object_ends m _ (by decide))
  | encrypt created op encrypted =>
    refine ⟨_, convert_follows rfl fun parsed => ?_,
      method_along_undetailed .encrypt rfl op rfl (entries_callbackCode _ _)⟩
    exact streamOperation_follows m created _ .opEncrypt _ op (encryptEnd_ends m encrypted)
  | encryptSign created op encrypted signed =>
    refine ⟨_, convert_follows rfl fun parsed => ?_,
      method_along_undetailed .encryptSign rfl op rfl (entries_callbackCode _ _)⟩
    exact streamOperation_follows m created _ .opEncryptSign _ op
      (encryptSignEnd_ends m encrypted signed)
  | decrypt created op decrypted =>
    refine ⟨_, attempt_follows rfl fun parsed => ?_,
      method_along_undetailed .decrypt rfl op rfl (entries_callbackCode _ _)⟩
    exact streamOperation_follows m created _ .opDecrypt _ op (decryptEnd_ends m decrypted)
  | decryptVerify created op decrypted verified =>
    refine ⟨_, attempt_follows rfl fun parsed => ?_,
      method_along_undetailed .decryptVerify rfl op rfl (entries_callbackCode _ _)⟩
    exact streamOperation_follows m created _ .opDecryptVerify _ op
      (decryptVerifyEnd_ends m decrypted verified)
  | sign created op signed =>
    refine ⟨_, attempt_follows rfl fun parsed => ?_,
      method_along_whole .sign rfl op.err (left op) rfl (entries_callbackCode _ _)⟩
    exact streamOperation_follows m created _ .opSign _ op (signEnd_ends m signed)
  | verify created op verified =>
    refine ⟨_, attempt_follows rfl fun parsed => ?_,
      method_along_whole .verify rfl op.err (left op) rfl (entries_callbackCode _ _)⟩
    exact streamOperation_follows m created _ .opVerify _ op (verifyEnd_ends m verified)
  | import_ created op res =>
    refine ⟨_, attempt_follows rfl fun parsed => ?_,
      method_along_whole .import_ rfl op.err (left op) rfl (entries_callbackCode _ _)⟩
    exact streamOperation_follows m created _ .opImport _ op
      (attachedEnd_ends m (importResult_calls m res) (by decide))
  | importKeys op res =>
    refine ⟨_, convert_follows rfl fun parsed => ?_,
      method_along_whole .importKeys rfl op.err false rfl (entries_callbackCode _ _)⟩
    exact contextOperation_follows m .opImportKeys _ op
      (attachedEnd_ends m (importResult_calls m res) (by decide))
  | export_ created op =>
    refine ⟨_, convert_follows rfl fun parsed => ?_,
      method_along_whole .export_ rfl op.err (left op) rfl (entries_callbackCode _ _)⟩
    exact streamOperation_follows m created _ .opExportExt _ op (object_ends m _ (by decide))
  | exportKeys created op =>
    refine ⟨_, convert_follows rfl fun parsed => ?_,
      method_along_whole .exportKeys rfl op.err (left op) rfl (entries_callbackCode _ _)⟩
    exact streamOperation_follows m created _ .opExportKeys _ op (object_ends m _ (by decide))
  | genkey created op res =>
    refine ⟨_, attempt_follows rfl fun parsed => ?_,
      method_along_whole .genkey rfl op.err (left op) rfl (entries_callbackCode _ _)⟩
    exact streamOperation_follows m created _ .opGenkey _ op
      (attachedEnd_ends m (genkeyResult_calls m res) (by decide))
  | delete op =>
    refine ⟨_, attempt_follows rfl fun parsed => ?_,
      method_along_whole .delete rfl op.err false rfl (entries_callbackCode _ _)⟩
    exact contextOperation_follows m .opDeleteExt _ op (object_ends m _ (by decide))
  | edit warning created op =>
    refine ⟨_, editWith_follows m .opEdit _ warning created op args, ?_⟩
    exact method_along_whole .edit rfl op.err false rfl (entries_callbackCode _ _)
  | cardEdit warning created op =>
    refine ⟨_, editWith_follows m .opCardEdit _ warning created op args, ?_⟩
    exact method_along_whole .cardEdit rfl op.err false rfl (entries_callbackCode _ _)
  | keylist op =>
    refine ⟨_, convert_follows rfl fun parsed => ?_,
      method_along_whole .keylist rfl op.err false rfl (entries_callbackCode _ _)⟩
    exact contextOperation_follows m .opKeylistExtStart _ op (object_ends m _ (by decide))

end

/-- However a call of a method goes, what it asks of gpgme are the first steps of its code
in the lock model: none of them if its arguments are refused or a data object cannot be
made, and all of them otherwise, unless a failure has details and an exception that was
pending took its place. Only a success returns an object. -/
theorem calls_follow_code (m : Module) (method : Method) (args : List PyObject) (errno : Int)
    {r : Option PyObject} {s : Interp}
    (ran : (method.call m args).run ⟨none, errno, []⟩ = some (r, s)) :
    calls s <+: entries method.code ∧ (calls s = [] ↔ ¬ Starts method args) ∧
      (calls s = entries method.code ↔ Starts method args ∧ ¬ Undetailed method) ∧
      (r ≠ none → Starts method args ∧ method.err = noError) := by
  obtain ⟨trace, follows, some_, part, whole⟩ := method_follows m method args errno
  obtain ⟨begun, never⟩ := follows r s ran
  by_cases starts : Starts method args
  · obtain ⟨entered, returned⟩ := begun starts
    rw [entered]
    exact ⟨part, iff_of_false some_ (not_not_intro starts), by simp [whole, starts],
      fun object => ⟨starts, returned object⟩⟩
  · obtain ⟨entered, nothing⟩ := never starts
    have code : entries method.code ≠ [] := fun none => by
      rw [none, List.prefix_nil] at part
      exact some_ part
    rw [entered]
    exact ⟨List.nil_prefix, iff_of_true rfl starts, iff_of_false code.symm fun h => starts h.1,
      fun object => absurd nothing object⟩

/-- `decrypt(cipher, plain)` that fails with `GPG_ERR_DECRYPT_FAILED`. -/
def failedDecrypt : Method :=
  .decrypt (fun _ => noError) ⟨[], 0x07000098⟩ (some ⟨none, false⟩)

theorem calls_follow_code_decrypt : ∃ r s,
    (failedDecrypt.call plainModule [plainFile, plainFile]).run ⟨none, 0, []⟩ = some (r, s) ∧
      calls s = [.opDecrypt, .opDecryptResult] := by
  obtain ⟨r, s, ran⟩ : ∃ r s,
      (failedDecrypt.call plainModule [plainFile, plainFile]).run ⟨none, 0, []⟩ = some (r, s) :=
    ⟨_, _, rfl⟩
  obtain ⟨-, -, whole, -⟩ := calls_follow_code plainModule failedDecrypt _ 0 ran
  refine ⟨r, s, ran, whole.mpr ⟨⟨_, rfl, ?_⟩, fun short => absurd short.2 (by decide)⟩⟩
  simp [DataFails, Method.created, failedDecrypt]

end Pygpgme.Guarantees.MethodCode
