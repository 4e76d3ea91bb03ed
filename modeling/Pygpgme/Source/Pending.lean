import Pygpgme.Source.Methods

/-!
# What each step of a method leaves pending

For every step that a setter or a method consists of, from any state: whether an
exception is pending after it, and which gpgme functions it entered.
-/

set_option autoImplicit false

namespace Pygpgme.Source.Pending
open Pygpgme.Library.Program
open Pygpgme.Source.Threads (GpgmeFn)
open Pygpgme.Source.Python Pygpgme.Source.Error Pygpgme.Source.Data
open Pygpgme.Source.Results Pygpgme.Source.Methods

/-- The gpgme functions that change the context or start an operation. -/
def changes : GpgmeFn → Bool
  | .setProtocol | .setArmor | .setTextmode | .setOffline | .setIncludeCerts
  | .setKeylistMode | .setPinentryMode | .setPassphraseCb | .setProgressCb
  | .signersClear | .signersAdd | .sigNotationClear | .sigNotationAdd | .setSender
  | .ctxSetEngineInfo | .setLocale => true
  | fn => fn.startsOperation

/-- None of these was entered while an exception was pending. -/
def Orderly (entered : List Entry) : Prop :=
  ∀ c ∈ entered, changes c.fn = true → c.pending = false

@[simp] theorem orderly_nil : Orderly [] := by
  simp [Orderly]

@[simp] theorem orderly_cons (c : Entry) (entered : List Entry) :
    Orderly (c :: entered) ↔ (changes c.fn = true → c.pending = false) ∧ Orderly entered := by
  simp [Orderly]

/-! ## Conversions -/

section
variable {α β : Type}

/-- A conversion that succeeds when no exception is pending. -/
def Succeeds (p : Py (Option α)) : Prop :=
  ∀ s, s.pending = none → achieves p s fun r s' =>
    s'.entered = s.entered ∧ r ≠ none ∧ s'.pending = none

/-- It may fail, or not, when one is pending already. -/
def Converts (p : Py (Option α)) : Prop :=
  Succeeds p ∧ ∀ s, achieves p s fun _ s' => s'.entered = s.entered

/-- A conversion that also fails exactly when it leaves an exception pending. -/
def Accounts (p : Py (Option α)) : Prop :=
  Succeeds p ∧ ∀ s, achieves p s fun r s' =>
    s'.entered = s.entered ∧ (r = none ↔ s'.pending.isSome = true)

/-- A NULL with an exception is a conversion that failed. -/
theorem Accounts.converts {p : Py (Option α)} (accounts : Accounts p) : Converts p :=
  ⟨accounts.1, fun s => achieves_mono (accounts.2 s) fun _ _ h => h.1⟩

theorem succeeds_pure (a : α) : Succeeds (pure (some a) : Py (Option α)) := by
  intro s quiet
  rw [achieves_pure]
  exact ⟨rfl, by simp, quiet⟩

theorem converts_pure (a : α) : Converts (pure (some a) : Py (Option α)) :=
  ⟨succeeds_pure a, fun s => (achieves_pure _ s _).mpr rfl⟩

/-- With nothing pending, one conversion after the other succeeds. -/
theorem Succeeds.bind {p : Py (Option α)} {f : Option α → Py (Option β)} (first : Succeeds p)
    (second : ∀ a, Succeeds (f (some a))) : Succeeds (p >>= f) := by
  intro s quiet
  refine achieves_bind_of (first s quiet) ?_
  intro r s₁ post
  obtain ⟨entered₁, converted, quiet₁⟩ := post
  obtain ⟨a, rfl⟩ := Option.ne_none_iff_exists'.mp converted
  rw [← entered₁]
  exact second a s₁ quiet₁

/-- After a conversion whose result is not looked at. -/
theorem Accounts.after {p : Py (Option α)} {f : Option α → Py (Option β)} (first : Converts p)
    (second : ∀ r, Accounts (f r)) : Accounts (p >>= f) := by
  constructor
  · exact first.1.bind fun a => (second (some a)).1
  · intro s
    refine achieves_bind_of (first.2 s) fun r s₁ entered₁ => ?_
    rw [← entered₁]
    exact (second r).2 s₁

/-- A loop that looks for an exception after its conversions returns NULL for it. -/
theorem Accounts.of_occurred {p : Py (Option α)} (succeeds : Succeeds p) :
    Accounts (do if ← occurred then return none else p) := by
  constructor
  · intro s quiet
    rw [achieves_bind, achieves_occurred, achieves_ite, quiet]
    exact succeeds s quiet
  · intro s
    rw [achieves_bind, achieves_occurred, achieves_ite]
    cases pending : s.pending with
    | some e => simp [pending]
    | none =>
      refine achieves_mono (succeeds s pending) ?_
      intro r s₁ post
      obtain ⟨entered₁, converted, quiet⟩ := post
      simp [entered₁, converted, quiet]

end

/-- A number always becomes an object, unless an exception was pending. -/
theorem enumValueNew_accounts (enum : IntEnum) (value : Int) :
    Accounts (enumValueNew enum value) := by
  constructor
  · intro s quiet
    simp [quiet]
  · intro s
    rw [achieves_enumValueNew]
    split
    next => simp
    next quiet => simpa using quiet

theorem enumValueNew_pending (enum : IntEnum) (value : Int) (s : Interp) :
    achieves (enumValueNew enum value) s fun _ s' => s'.entered = s.entered ∧
      s'.pending.isSome = s.pending.isSome := by
  rw [achieves_enumValueNew]
  split
  next raised => simp [raised]
  next quiet => exact ⟨rfl, rfl⟩

/-- An error value becomes an object, `None` for no error. -/
theorem errorObject_converts (state : ModState) (err : GpgError) :
    Converts (errorObject state err) := by
  constructor
  · intro s quiet
    by_cases success : err = noError
    · simp [success, quiet]
    · simp [success, quiet]
  · intro s
    rw [achieves_errorObject]
    split
    next => rfl
    next => split <;> rfl

/-! ## Lists of signatures and of imports -/

section
variable (m : Module)

/-- One turn of the loop: the check comes after all fields are set. -/
theorem newsiglistNew_cons (sig : NewSig) (rest : List NewSig)
    (ih : Converts (newsiglistNew m rest)) : Accounts (newsiglistNew m (sig :: rest)) := by
  unfold newsiglistNew
  apply Accounts.after (enumValueNew_accounts m.sigModeType sig.type).converts
  intro type
  apply Accounts.after (enumValueNew_accounts m.pubkeyAlgoType sig.pubkeyAlgo).converts
  intro pubkeyAlgo
  apply Accounts.after (enumValueNew_accounts m.hashAlgoType sig.hashAlgo).converts
  intro hashAlgo
  exact Accounts.of_occurred (ih.1.bind fun items => succeeds_pure _)

theorem newsiglistNew_converts (sigs : List NewSig) : Converts (newsiglistNew m sigs) := by
  induction sigs with
  | nil => exact converts_pure _
  | cons sig rest ih => exact (newsiglistNew_cons m sig rest ih).converts

theorem siglistNew_cons (sig : Sig) (rest : List Sig) (ih : Converts (siglistNew m rest)) :
    Accounts (siglistNew m (sig :: rest)) := by
  unfold siglistNew
  apply Accounts.after (enumValueNew_accounts m.sigsumType sig.summary).converts
  intro summary
  apply Accounts.after (errorObject_converts m.toModState sig.status)
  intro status
  apply Accounts.after (enumValueNew_accounts m.validityType sig.validity).converts
  intro validity
  apply Accounts.after (errorObject_converts m.toModState sig.validityReason)
  intro validityReason
  apply Accounts.after (enumValueNew_accounts m.pubkeyAlgoType sig.pubkeyAlgo).converts
  intro pubkeyAlgo
  apply Accounts.after (enumValueNew_accounts m.hashAlgoType sig.hashAlgo).converts
  intro hashAlgo
  exact Accounts.of_occurred (ih.1.bind fun items => succeeds_pure _)

theorem siglistNew_converts (sigs : List Sig) : Converts (siglistNew m sigs) := by
  induction sigs with
  | nil => exact converts_pure _
  | cons sig rest ih => exact (siglistNew_cons m sig rest ih).converts

theorem importStatuses_cons (status : ImportStatus) (rest : List ImportStatus)
    (ih : Converts (importStatuses m rest)) : Accounts (importStatuses m (status :: rest)) := by
  unfold importStatuses
  have result := errorObject_converts m.toModState status.result
  have flags := enumValueNew_accounts m.importType status.status
  constructor
  · refine result.1.bind fun result => flags.1.bind fun flags => ?_
    exact ih.1.bind fun items => succeeds_pure _
  · intro s
    refine achieves_bind_of (result.2 s) fun result s₁ entered₁ => ?_
    refine achieves_bind_of (flags.2 s₁) ?_
    intro flags s₂ post
    obtain ⟨entered₂, fails⟩ := post
    rw [← entered₁, ← entered₂]
    -- The second conversion accounts for what the first may have left pending.
    cases pending : s₂.pending with
    | some e =>
      have null : flags = none := fails.mpr (by simp [pending])
      cases result <;> simp [null, pending]
    | none =>
      have converted : flags ≠ none := by simp [fails, pending]
      obtain ⟨flags, rfl⟩ := Option.ne_none_iff_exists'.mp converted
      cases result with
      | none => simp [pending]
      | some result =>
        refine achieves_bind_of (ih.1 s₂ pending) ?_
        intro r s₃ post
        obtain ⟨entered₃, listed, quiet⟩ := post
        obtain ⟨items, rfl⟩ := Option.ne_none_iff_exists'.mp listed
        simp [entered₃, quiet]

theorem importStatuses_converts (imports : List ImportStatus) :
    Converts (importStatuses m imports) := by
  induction imports with
  | nil => exact converts_pure _
  | cons status rest ih => exact (importStatuses_cons m status rest ih).converts

/-- A result without a list that could be converted. -/
def noImports : Option ImportResult → Bool
  | some res => res.imports.isEmpty
  | none => true

/-- Without such a list, a pending exception stays unnoticed. -/
theorem importResult_pending (res : Option ImportResult) (s : Interp)
    (orderly : Orderly s.entered) :
    achieves (importResult m res) s fun r s' => Orderly s'.entered ∧
      if noImports res = true then r ≠ none ∧ s'.pending = s.pending
      else (r = none ↔ s'.pending.isSome = true) := by
  unfold importResult
  rw [achieves_bind, achieves_gpgme]
  cases res with
  | none => simp [noImports, orderly, changes, GpgmeFn.startsOperation]
  | some res =>
    obtain ⟨counts, imports⟩ := res
    cases imports with
    | nil => simp [noImports, importStatuses, orderly, changes, GpgmeFn.startsOperation]
    | cons status rest =>
      have converts := importStatuses_converts m rest
      refine achieves_bind_of ((importStatuses_cons m status rest converts).2 _) ?_
      intro r s₁ post
      obtain ⟨entered₁, fails⟩ := post
      cases r <;>
        simpa [noImports, entered₁, orderly, changes, GpgmeFn.startsOperation] using fails

theorem genkeyResult_pending (res : Option GenkeyResult) (s : Interp)
    (orderly : Orderly s.entered) :
    achieves (genkeyResult m res) s fun r s' =>
      Orderly s'.entered ∧ r ≠ none ∧ s'.pending = s.pending := by
  unfold genkeyResult
  cases res <;> simp [orderly, changes, GpgmeFn.startsOperation]

end

/-! ## Failures and their annotations -/

/-- A failure is always raised, as a `GpgmeError` or as what took its place. -/
theorem checkError_pending {state : ModState} {err : GpgError} (failed : err ≠ noError)
    (s : Interp) :
    achieves (checkError state err) s fun raised s' =>
      raised = true ∧ s'.entered = s.entered ∧ s'.pending.isSome = true := by
  rw [achieves_checkError, if_neg failed]
  split
  next => simp
  next => simp

/-- An exception that is pending stays pending. -/
def Annotates (p : Py Unit) : Prop :=
  ∀ s, Orderly s.entered → s.pending.isSome = true →
    achieves p s fun _ s' => Orderly s'.entered ∧ s'.pending.isSome = true

/-- What is pending is put aside while an annotation runs. -/
theorem annotates_of {f : PyExc → Py PyExc}
    (inner : ∀ e s, Orderly s.entered → s.pending = none →
      achieves (f e) s fun _ s' => Orderly s'.entered) : Annotates (annotate f) := by
  intro s orderly raised
  unfold annotate
  rw [achieves_bind, achieves_fetch]
  obtain ⟨e, pending⟩ := Option.isSome_iff_exists.mp raised
  rw [pending]
  cases ofGpgmeError : e.cls.isGpgmeError with
  | false => simp [ofGpgmeError, orderly]
  | true =>
    simp only [ofGpgmeError, if_true, achieves_bind, achieves_restore]
    refine achieves_mono (inner e { s with pending := none } orderly rfl) fun e' s₁ orderly₁ => ?_
    exact ⟨orderly₁, rfl⟩

section
variable (m : Module)

theorem invalidKeys_quiet (keys : List InvalidKey) :
    ∀ s, s.pending = none → achieves (invalidKeys m keys) s fun _ s' =>
      s'.entered = s.entered ∧ s'.pending = none := by
  induction keys with
  | nil =>
    intro s quiet
    simp [invalidKeys, quiet]
  | cons key rest ih =>
    intro s quiet
    unfold invalidKeys
    refine achieves_bind_of ((errorObject_converts m.toModState key.reason).1 s quiet) ?_
    intro reason s₁ post
    obtain ⟨entered₁, converted, quiet₁⟩ := post
    obtain ⟨reason, rfl⟩ := Option.ne_none_iff_exists'.mp converted
    refine achieves_bind_of (ih s₁ quiet₁) ?_
    intro items s₂ post
    obtain ⟨entered₂, quiet₂⟩ := post
    rw [achieves_pure]
    exact ⟨entered₂.trans entered₁, quiet₂⟩

theorem setList_entered {e : PyExc} {name : String} {p : Py (Option (List PyObject))}
    (succeeds : Succeeds p) (s : Interp) (quiet : s.pending = none) :
    achieves (do setList e name (← p)) s fun _ s' => s'.entered = s.entered := by
  refine achieves_bind_of (succeeds s quiet) ?_
  intro items s₁ post
  obtain ⟨entered₁, converted, _⟩ := post
  obtain ⟨items, rfl⟩ := Option.ne_none_iff_exists'.mp converted
  simp [setList, entered₁]

theorem decodeEncryptResult_annotates (res : Option (List InvalidKey)) :
    Annotates (decodeEncryptResult m res) := by
  refine annotates_of fun e s orderly quiet => ?_
  rw [achieves_bind, achieves_gpgme]
  cases res with
  | none => simp [orderly, changes, GpgmeFn.startsOperation]
  | some keys =>
    refine achieves_bind_of (invalidKeys_quiet m keys _ quiet) ?_
    intro items s₁ post
    obtain ⟨entered₁, _⟩ := post
    simp [entered₁, orderly, changes, GpgmeFn.startsOperation]

theorem decodeDecryptResult_annotates (res : Option DecryptResult) :
    Annotates (decodeDecryptResult m res) := by
  refine annotates_of fun e s orderly quiet => ?_
  cases res <;> simp [orderly, changes, GpgmeFn.startsOperation]

theorem annotateSignResult_annotates (res : Option SignResult) :
    Annotates (annotateSignResult m res) := by
  refine annotates_of fun e s orderly quiet => ?_
  cases res with
  | none => simp [orderly]
  | some res =>
    refine achieves_bind_of (invalidKeys_quiet m res.invalidSigners s quiet) ?_
    intro items s₁ post
    obtain ⟨entered₁, quiet₁⟩ := post
    refine achieves_mono
      (setList_entered (newsiglistNew_converts m res.signatures).1 s₁ quiet₁)
      fun e' s₂ entered₂ => ?_
    rwa [entered₂, entered₁]

theorem annotateVerifyResult_annotates (res : Option (List Sig)) :
    Annotates (annotateVerifyResult m res) := by
  refine annotates_of fun e s orderly quiet => ?_
  cases res with
  | none => simp [orderly]
  | some signatures =>
    refine achieves_mono (setList_entered (siglistNew_converts m signatures).1 s quiet)
      fun e' s₁ entered₁ => ?_
    rwa [entered₁]

theorem annotateResult_annotates (res : Option PyObject) : Annotates (annotateResult res) := by
  refine annotates_of fun e s orderly quiet => ?_
  cases res <;> simp [orderly]

/-! ## Engine information -/

/-- A string that is not UTF-8. -/
def unreadable : Option Bytes → Bool
  | some data => (decodeUtf8 data).toOption.isNone
  | none => false

/-- One of the four strings is not UTF-8. -/
def unreadableInfo (info : EngineInfo) : Bool :=
  unreadable info.fileName || unreadable info.version || unreadable info.reqVersion ||
    unreadable info.homeDir

theorem engineString_pending (text : Option Bytes) (s : Interp) :
    achieves (engineString text) s fun _ s' =>
      s'.entered = s.entered ∧ s'.pending.isSome = (s.pending.isSome || unreadable text) := by
  unfold engineString unreadable
  cases text with
  | none => simp
  | some data => cases decoded : decodeUtf8 data <;> simp [decoded, Except.toOption]

/-- Nothing in the loop clears an exception, so one string that is lost is enough. -/
theorem engineInfoListNew_pending (infos : List EngineInfo) :
    ∀ s, achieves (engineInfoListNew m infos) s fun _ s' =>
      s'.entered = s.entered ∧
        s'.pending.isSome = (s.pending.isSome || infos.any unreadableInfo) := by
  induction infos with
  | nil => simp [engineInfoListNew]
  | cons info rest ih =>
    intro s
    unfold engineInfoListNew
    refine achieves_bind_of (enumValueNew_pending m.protocolType info.protocol s) ?_
    intro protocol s₁ post
    obtain ⟨entered₁, pending₁⟩ := post
    refine achieves_bind_of (engineString_pending info.fileName s₁) ?_
    intro fileName s₂ post
    obtain ⟨entered₂, pending₂⟩ := post
    refine achieves_bind_of (engineString_pending info.version s₂) ?_
    intro version s₃ post
    obtain ⟨entered₃, pending₃⟩ := post
    refine achieves_bind_of (engineString_pending info.reqVersion s₃) ?_
    intro reqVersion s₄ post
    obtain ⟨entered₄, pending₄⟩ := post
    refine achieves_bind_of (engineString_pending info.homeDir s₄) ?_
    intro homeDir s₅ post
    obtain ⟨entered₅, pending₅⟩ := post
    refine achieves_bind_of (ih s₅) ?_
    intro items s₆ post
    obtain ⟨entered₆, pending₆⟩ := post
    rw [achieves_pure]
    have before : s₅.pending.isSome = (s.pending.isSome || unreadableInfo info) := by
      rw [pending₅, pending₄, pending₃, pending₂, pending₁, unreadableInfo]
      simp only [Bool.or_assoc]
    refine ⟨?_, by rw [pending₆, before, List.any_cons, Bool.or_assoc]⟩
    rw [entered₆, entered₅, entered₄, entered₃, entered₂, entered₁]

/-- An engine has a string that is not UTF-8. -/
def EngineStringLost (infos : List EngineInfo) : Prop :=
  ∃ info ∈ infos, unreadableInfo info = true

theorem engineStringLost_iff (infos : List EngineInfo) :
    EngineStringLost infos ↔ infos.any unreadableInfo = true := by
  simp [EngineStringLost]

end

/-! ## Callbacks -/

/-- `set_errno` leaves its own `OverflowError` behind. -/
def failureOverflows : Except PyExc PyObject → Bool
  | .error e => errnoOverflows e
  | .ok _ => false

/-- A position that is no C `long`. -/
def positionOverflows : Except PyExc PyObject → Bool
  | .error _ => false
  | .ok result =>
    match result.long? with
    | some n => decide ¬ FitsLong n
    | none => false

/-- The callbacks of the context clear what is pending. -/
def contextOverflows (_before : Bool) (_callback : ContextCallback) : Bool := false

/-- An `OverflowError` is pending after the callback, by whether an exception was pending
before it. -/
def streamOverflows (before : Bool) : StreamCallback → Bool
  | .context callback => contextOverflows before callback
  | .read size ask handled => failureOverflows (ending before (ask size.toInt) handled)
  | .write buffer ask handled =>
    decide (FitsLong buffer.length) && failureOverflows (ending before (ask (.bytes buffer)) handled)
  | .seek offset whence ask tell handled =>
    match ending before (ask offset whence) handled with
    | .error e => errnoOverflows e
    | .ok _ => failureOverflows tell || positionOverflows tell

def editOverflows (before : Bool) : EditCallback → Bool
  | .stream callback => streamOverflows before callback
  | .edit _ _ => false

section
variable (m : Module)

/-- A passphrase or a progress callback clears whatever is pending. -/
theorem contextCallback_pending (c : ContextCallback) (s : Interp) :
    achieves (c.run m) s fun _ s' =>
      s'.entered = s.entered ∧ s'.pending.isSome = contextOverflows s.pending.isSome c := by
  unfold contextOverflows
  cases c with
  | passphrase outcome =>
    unfold ContextCallback.run passphraseCb
    simp only [achieves_bind, achieves_callUser]
    cases ending s.pending.isSome outcome none <;> simp
  | progress outcome =>
    unfold ContextCallback.run
    rw [achieves_bind, achieves_callUser]
    cases ending s.pending.isSome outcome none <;> simp

theorem seekCb_pending (offset whence : Int) (ask : Int → Int → Except PyExc PyObject)
    (tell : Except PyExc PyObject) (handled : Option (Except PyExc PyObject)) (s : Interp) :
    achieves (seekCb offset whence ask tell handled id) s fun _ s' => s'.entered = s.entered ∧
      s'.pending.isSome =
        streamOverflows s.pending.isSome (.seek offset whence ask tell handled) := by
  rw [streamOverflows, achieves_seekCb]
  cases ending s.pending.isSome (ask offset whence) handled with
  | error e => cases overflow : errnoOverflows e <;> simp [overflow]
  | ok result =>
    cases tell with
    | error e =>
      cases overflow : errnoOverflows e <;> simp [failureOverflows, positionOverflows, overflow]
    | ok position =>
      cases long : position.long? with
      | none => simp [failureOverflows, positionOverflows, long]
      | some n =>
        by_cases fits : FitsLong n <;> simp [failureOverflows, positionOverflows, long, fits]

/-- A stream callback leaves an exception only for a number that does not fit. -/
theorem streamCallback_pending (c : StreamCallback) (s : Interp) :
    achieves (c.run m) s fun _ s' =>
      s'.entered = s.entered ∧ s'.pending.isSome = streamOverflows s.pending.isSome c := by
  cases c with
  | context callback => exact contextCallback_pending m callback s
  | read size ask handled =>
    unfold StreamCallback.run
    rw [streamOverflows, achieves_bind, achieves_readCb]
    cases ending s.pending.isSome (ask size.toInt) handled with
    | error e => cases overflow : errnoOverflows e <;> simp [failureOverflows, overflow]
    | ok result => cases result <;> simp [failureOverflows]
  | write buffer ask handled =>
    unfold StreamCallback.run
    rw [streamOverflows, achieves_bind, achieves_writeCb]
    by_cases fits : FitsLong buffer.length
    · cases ending s.pending.isSome (ask (.bytes buffer)) handled with
      | error e => cases overflow : errnoOverflows e <;> simp [failureOverflows, overflow, fits]
      | ok result => simp [failureOverflows, fits]
    · simp [fits]
  | seek offset whence ask tell handled =>
    refine achieves_bind_of (seekCb_pending offset whence ask tell handled s) fun n s₁ after => ?_
    rwa [achieves_pure]

/-- A status that is converted with an exception pending crashes the process. -/
theorem editCallback_crashes (status : Int) (outcome : Except PyExc PyObject) {s : Interp}
    (raised : s.pending.isSome = true) (Q : Unit → Interp → Prop) :
    ¬ achieves ((EditCallback.edit status outcome).run m) s Q := by
  simp [EditCallback.run, editCb, raised]

/-- An edit callback that finds nothing pending leaves nothing. -/
theorem editCallback_pending (c : EditCallback) (s : Interp)
    (quiet : ∀ status outcome, c = .edit status outcome → s.pending.isSome = false) :
    achieves (c.run m) s fun _ s' =>
      s'.entered = s.entered ∧ s'.pending.isSome = editOverflows s.pending.isSome c := by
  cases c with
  | stream callback => exact streamCallback_pending m callback s
  | edit status outcome =>
    have none_ : s.pending.isSome = false := quiet status outcome rfl
    unfold EditCallback.run editCb
    simp only [achieves_bind, achieves_enumValueNew, none_, Bool.false_eq_true, if_false,
      achieves_callUser, ending_quiet]
    cases outcome <;> simp [editOverflows]

/-! ## Callbacks one after the other -/

/-- Whether an exception is pending after them, by whether one was before them. -/
def leaves {Callback : Type} (overflows : Bool → Callback → Bool) (before : Bool)
    (callbacks : List Callback) : Bool :=
  callbacks.foldl overflows before

theorem leaves_cons {Callback : Type} (overflows : Bool → Callback → Bool) (before : Bool)
    (callback : Callback) (rest : List Callback) :
    leaves overflows before (callback :: rest) =
      leaves overflows (overflows before callback) rest := rfl

/-- By induction on the callbacks, each of which starts with what the last one left. -/
theorem runAll_pending {Callback : Type} {run : Callback → Py Unit}
    {overflows : Bool → Callback → Bool}
    (each : ∀ c s, achieves (run c) s fun _ s' =>
      s'.entered = s.entered ∧ s'.pending.isSome = overflows s.pending.isSome c)
    (callbacks : List Callback) :
    ∀ s, achieves (runAll run callbacks) s fun _ s' =>
      s'.entered = s.entered ∧
        s'.pending.isSome = leaves overflows s.pending.isSome callbacks := by
  induction callbacks with
  | nil => simp [runAll, leaves]
  | cons callback rest ih =>
    intro s
    unfold runAll
    refine achieves_bind_of (each callback s) ?_
    intro _ s₁ post
    obtain ⟨entered₁, pending₁⟩ := post
    rw [leaves_cons, ← pending₁, ← entered₁]
    exact ih s₁

/-- The operation is entered, and the callbacks run inside it. -/
theorem operation_pending {Callback : Type} {run : Callback → Py Unit}
    {overflows : Bool → Callback → Bool} (op : Operation Callback) (fn : GpgmeFn)
    (args : List CArg) (s : Interp)
    (callbacks : ∀ s', s'.pending = s.pending → achieves (runAll run op.callbacks) s' fun _ s'' =>
      s''.entered = s'.entered ∧
        s''.pending.isSome = leaves overflows s'.pending.isSome op.callbacks) :
    achieves (operation run fn args op) s fun err s' =>
      err = op.err ∧ s'.entered = ⟨fn, args, s.pending.isSome⟩ :: s.entered ∧
        s'.pending.isSome = leaves overflows s.pending.isSome op.callbacks := by
  unfold operation
  rw [achieves_bind, achieves_gpgme]
  refine achieves_bind_of (callbacks _ rfl) fun _ s₁ after => ?_
  rw [achieves_pure]
  exact ⟨rfl, after⟩

/-- A status that gpgme announces while an exception is pending. -/
def EditCrash (before : Bool) (callbacks : List EditCallback) : Prop :=
  ∃ earlier status outcome later, callbacks = earlier ++ .edit status outcome :: later ∧
    leaves editOverflows before earlier = true

theorem editCrash_cons (before : Bool) (callback : EditCallback) (rest : List EditCallback) :
    EditCrash before (callback :: rest) ↔
      (∃ status outcome, callback = .edit status outcome ∧ before = true) ∨
        EditCrash (editOverflows before callback) rest := by
  unfold EditCrash
  constructor
  · intro post
    obtain ⟨earlier, status, outcome, later, same, raised⟩ := post
    rcases List.cons_eq_append_iff.mp same with ⟨rfl, same⟩ | ⟨earlier, rfl, same⟩
    · cases same
      exact .inl ⟨status, outcome, rfl, raised⟩
    · rw [leaves_cons] at raised
      exact .inr ⟨earlier, status, outcome, later, (List.cons.inj same).2, raised⟩
  · intro h
    rcases h with ⟨status, outcome, rfl, raised⟩ | ⟨earlier, status, outcome, later, rfl, raised⟩
    · exact ⟨[], status, outcome, rest, rfl, raised⟩
    · refine ⟨callback :: earlier, status, outcome, later, rfl, ?_⟩
      rwa [leaves_cons]

theorem runEdit_pending (callbacks : List EditCallback) :
    ∀ s, ¬ EditCrash s.pending.isSome callbacks →
      achieves (runAll (·.run m) callbacks) s fun _ s' => s'.entered = s.entered ∧
        s'.pending.isSome = leaves editOverflows s.pending.isSome callbacks := by
  induction callbacks with
  | nil => simp [runAll, leaves]
  | cons callback rest ih =>
    intro s safe
    rw [editCrash_cons, not_or] at safe
    unfold runAll
    have first := editCallback_pending m callback s fun status outcome same =>
      Bool.eq_false_iff.mpr fun raised => safe.1 ⟨status, outcome, same, raised⟩
    refine achieves_bind_of first ?_
    intro _ s₁ post
    obtain ⟨entered₁, pending₁⟩ := post
    rw [leaves_cons, ← pending₁, ← entered₁]
    exact ih s₁ (by rw [pending₁]; exact safe.2)

/-- The first edit callback that finds an exception gives up a NULL status. -/
theorem runEdit_crashes (callbacks : List EditCallback) (Q : Unit → Interp → Prop) :
    ∀ s, EditCrash s.pending.isSome callbacks → ¬ achieves (runAll (·.run m) callbacks) s Q := by
  induction callbacks with
  | nil => simp [EditCrash]
  | cons callback rest ih =>
    intro s crash
    unfold runAll
    by_cases here : ∃ status outcome, callback = .edit status outcome ∧ s.pending.isSome = true
    · obtain ⟨status, outcome, rfl, raised⟩ := here
      rw [achieves_bind]
      exact editCallback_crashes m status outcome raised _
    · have first := editCallback_pending m callback s fun status outcome same =>
        Bool.eq_false_iff.mpr fun raised => here ⟨status, outcome, same, raised⟩
      have later := ((editCrash_cons _ _ _).mp crash).resolve_left here
      refine (achieves_bind_iff_of first ?_).mp
      intro _ s₁ post
      rw [iff_false]
      exact ih s₁ (by rwa [post.2])

theorem editOperation_pending (op : Operation EditCallback) (fn : GpgmeFn) (args : List CArg)
    (s : Interp) (safe : ¬ EditCrash s.pending.isSome op.callbacks) :
    achieves (operation (·.run m) fn args op) s fun err s' =>
      err = op.err ∧ s'.entered = ⟨fn, args, s.pending.isSome⟩ :: s.entered ∧
        s'.pending.isSome = leaves editOverflows s.pending.isSome op.callbacks :=
  operation_pending op fn args s fun s' same =>
    runEdit_pending m op.callbacks s' (by rwa [same])

theorem editOperation_crashes (op : Operation EditCallback) (fn : GpgmeFn) (args : List CArg)
    (s : Interp) (crash : EditCrash s.pending.isSome op.callbacks)
    (Q : GpgError → Interp → Prop) : ¬ achieves (operation (·.run m) fn args op) s Q := by
  unfold operation
  rw [achieves_bind, achieves_gpgme, achieves_bind]
  exact runEdit_crashes m op.callbacks _ _ crash

end

/-! ## Data objects -/

/-- `None` needs no data object. -/
def isFile : PyObject → Bool
  | .none => false
  | _ => true

/-- gpgme refuses a data object for one of the files. -/
def DataFails (created : Nat → GpgError) (files : List PyObject) : Prop :=
  ∃ i fp, files[i]? = some fp ∧ isFile fp = true ∧ created i ≠ noError

theorem dataFails_cons (created : Nat → GpgError) (fp : PyObject) (rest : List PyObject) :
    DataFails created (fp :: rest) ↔
      (isFile fp = true ∧ created 0 ≠ noError) ∨ DataFails (fun i => created (i + 1)) rest := by
  unfold DataFails
  constructor
  · intro post
    obtain ⟨i, file, found, h⟩ := post
    cases i with
    | zero =>
      cases found
      exact .inl h
    | succ i => exact .inr ⟨i, file, found, h⟩
  · intro h
    rcases h with h | ⟨i, file, found, h⟩
    · exact ⟨0, fp, rfl, h⟩
    · exact ⟨i + 1, file, found, h⟩

/-- A data object fails as `gpgme_data_new_from_cbs` does. -/
theorem dataNew_eq_checkError (state : ModState) (ret : GpgError) {fp : PyObject}
    (file : isFile fp = true) : dataNew state ret fp = checkError state ret := by
  cases fp <;> first | rfl | simp [isFile] at file

theorem dataNew_succeeds (state : ModState) {ret : GpgError} {fp : PyObject}
    (made : ¬ (isFile fp = true ∧ ret ≠ noError)) (s : Interp) :
    achieves (dataNew state ret fp) s fun failed s' => failed = false ∧ s' = s := by
  cases file : isFile fp with
  | false => cases fp <;> simp_all [dataNew, isFile]
  | true =>
    have success : ret = noError := by simpa [file] using made
    rw [dataNew_eq_checkError state ret file, success]
    simp

section
variable (m : Module)

/-- One object after the other is made. -/
theorem dataNews_succeeds (files : List PyObject) :
    ∀ (created : Nat → GpgError) s, ¬ DataFails created files →
      achieves (dataNews m created files) s fun failed s' => failed = false ∧ s' = s := by
  induction files with
  | nil => simp [dataNews]
  | cons fp rest ih =>
    intro created s made
    rw [dataFails_cons, not_or] at made
    unfold dataNews
    refine achieves_bind_of (dataNew_succeeds m.toModState made.1 s) ?_
    intro failed s₁ post
    obtain ⟨succeeded, same⟩ := post
    rw [succeeded, same]
    exact ih _ s made.2

/-- The first that fails ends the method, with an exception. -/
theorem dataNews_fails (files : List PyObject) :
    ∀ (created : Nat → GpgError) s, DataFails created files →
      achieves (dataNews m created files) s fun failed s' =>
        failed = true ∧ s'.entered = s.entered ∧ s'.pending.isSome = true := by
  induction files with
  | nil => simp [DataFails]
  | cons fp rest ih =>
    intro created s fails
    unfold dataNews
    by_cases here : isFile fp = true ∧ created 0 ≠ noError
    · rw [dataNew_eq_checkError _ _ here.1]
      refine achieves_bind_of (checkError_pending here.2 s) ?_
      intro failed s₁ post
      obtain ⟨raised, entered₁, pending₁⟩ := post
      simp [raised, entered₁, pending₁]
    · have later := ((dataFails_cons created fp rest).mp fails).resolve_left here
      refine achieves_bind_of (dataNew_succeeds m.toModState here s) ?_
      intro failed s₁ post
      obtain ⟨succeeded, same⟩ := post
      rw [succeeded, same]
      exact ih _ s later

end

end Pygpgme.Source.Pending
