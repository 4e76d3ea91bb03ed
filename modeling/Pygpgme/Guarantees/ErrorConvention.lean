import Pygpgme.Guarantees.ErrorCodes
import Pygpgme.Source.Pending

/-!
# The error convention of the interpreter

A setter has to return -1, and a method NULL, exactly when an exception is
pending, and no gpgme function that changes the context or starts an operation may
be entered while one is. Most setters and methods keep this whatever they are
given; for the others, the inputs on which they break it are named exactly.
-/

set_option autoImplicit false

namespace Pygpgme.Guarantees.ErrorConvention
open Pygpgme.Library.Program
open Pygpgme.Source.Threads (GpgmeFn)
open Pygpgme.Source.Python Pygpgme.Source.Error Pygpgme.Source.Arguments
open Pygpgme.Source.Setters Pygpgme.Source.Results Pygpgme.Source.Methods
open Pygpgme.Source.Pending

/-- The interpreter calls the binding with nothing pending. -/
def called (errno : Int) : Interp := ⟨none, errno, []⟩

/-- What has to hold when a function returns `r`. -/
def Kept {α : Type} (fails : α → Prop) (r : α) (s : Interp) : Prop :=
  (fails r ↔ s.pending.isSome = true) ∧ Orderly s.entered

abbrev SetterKeeps (p : Py Int) (s : Interp) : Prop := achieves p s (Kept (· = -1))

abbrev MethodKeeps (p : Py (Option PyObject)) (s : Interp) : Prop := achieves p s (Kept (· = none))

/-- After `pygpgme_check_error`: the failure is reported, or there is none. -/
theorem keeps_checkError {α : Type} {fails : α → Prop} {state : ModState} {err : GpgError}
    {failure success : Py α} {s : Interp} (orderly : Orderly s.entered)
    (reports : ∀ s, s.pending.isSome = true → Orderly s.entered →
      achieves failure s (Kept fails)) :
    achieves (do if ← checkError state err then failure else success) s (Kept fails) ↔
      (err = noError → achieves success s (Kept fails)) := by
  by_cases succeeded : err = noError
  · simp [succeeded]
  · refine achieves_bind_iff_of (checkError_pending succeeded s) ?_
    intro raised s₁ post
    obtain ⟨isRaised, entered₁, pending₁⟩ := post
    have reported := reports s₁ pending₁ (by rwa [entered₁])
    simp [isRaised, reported, succeeded]

/-- Nothing that comes later mends an entry from before. -/
theorem checkError_unorderly {α : Type} {fails : α → Prop} {state : ModState} {err : GpgError}
    {failed : α} {success : Py α} {s : Interp} (unorderly : ¬ Orderly s.entered)
    (rest : ¬ achieves success s (Kept fails)) :
    ¬ achieves (do if ← checkError state err then return failed else success) s (Kept fails) := by
  by_cases succeeded : err = noError
  · simpa [succeeded] using rest
  · refine (achieves_bind_iff_of (checkError_pending succeeded s)
      fun raised s₁ ⟨isRaised, entered₁, _⟩ => ?_).mp
    simp [isRaised, Kept, entered₁, unorderly]

/-! ## Setters -/

section
variable (state : ModState)

theorem asLong_entered (o : PyObject) (s : Interp) :
    achieves (asLong o) s fun _ s' => s'.entered = s.entered := by
  unfold asLong
  cases o.index with
  | ok n => by_cases fits : FitsLong n <;> simp [fits]
  | error cls => simp

theorem canNotDelete_keeps (errno : Int) : SetterKeeps canNotDelete (called errno) := by
  simp [SetterKeeps, canNotDelete, Kept, called]

/-- The conversion is checked before gpgme is called. -/
theorem setInteger_keeps (fn : GpgmeFn) (convert : Int → Int) (ret : Option GpgError)
    (value : Option PyObject) (errno : Int) :
    SetterKeeps (setInteger state fn convert ret value) (called errno) := by
  cases value with
  | none => exact canNotDelete_keeps errno
  | some value =>
    refine achieves_bind_of (asLong_entered value (called errno)) fun n s₁ entered₁ => ?_
    have orderly₁ : Orderly s₁.entered := by rw [entered₁]; exact orderly_nil
    rw [achieves_bind, achieves_occurred, achieves_ite]
    cases pending : s₁.pending with
    | some e => simp [Kept, pending, orderly₁]
    | none =>
      simp only [Option.isSome_none, Bool.false_eq_true, if_false, achieves_bind,
        achieves_gpgme, pending]
      cases ret with
      | none => simp [Kept, orderly₁]
      | some err =>
        refine (keeps_checkError (by simp [orderly₁]) ?_).mpr ?_
        · intro s raised orderly
          simp [Kept, raised, orderly]
        · simp [Kept, orderly₁]

theorem setCallback_keeps (fn : GpgmeFn) (value : Option PyObject) (errno : Int) :
    SetterKeeps (setCallback fn value) (called errno) := by
  unfold setCallback
  split
  next => simp [SetterKeeps, Kept, called]
  next => simp [SetterKeeps, Kept, called]
  next => simp [SetterKeeps, Kept, called]

theorem addSigners_keeps (signers : List PyObject) :
    ∀ s, s.pending = none → Orderly s.entered → SetterKeeps (addSigners signers) s := by
  induction signers with
  | nil =>
    intro s quiet orderly
    simp [SetterKeeps, addSigners, Kept, quiet, orderly]
  | cons signer rest ih =>
    intro s quiet orderly
    unfold addSigners SetterKeeps
    split
    next same => cases same
    next handle rest' same =>
      cases same
      rw [achieves_bind, achieves_gpgme]
      exact ih _ quiet (by simp [quiet, orderly])
    next => simp [Kept, orderly]

/-- A value to iterate over whose fields were never set. -/
theorem contextSetSigners_keeps (value : Option PyObject) (errno : Int) :
    SetterKeeps (contextSetSigners value) (called errno) ↔ value ≠ some (.sigNotation none) := by
  cases value with
  | none => exact iff_of_true (canNotDelete_keeps errno) (by simp)
  | some value =>
    unfold contextSetSigners SetterKeeps
    have crashes := sequenceFast_crash_iff value "signers must be a sequence of keys"
    rw [achieves_bind, achieves_convert]
    cases listed : sequenceFast value "signers must be a sequence of keys" with
    | error stop =>
      rw [listed] at crashes
      cases stop with
      | crash => simpa using crashes.mp rfl
      | raised e =>
        have other : value ≠ .sigNotation none := fun same => by simpa using crashes.mpr same
        simp [Kept, called, other]
    | ok signers =>
      have other : value ≠ .sigNotation none := fun same => by simpa [listed] using crashes.mpr same
      refine iff_of_true ?_ (by simpa using other)
      simp only [achieves_bind, achieves_gpgme]
      exact addSigners_keeps (visited signers) _ rfl (by simp [called])

theorem setSenderAddress_keeps (ret : GpgError) (address : Option Bytes) (s : Interp)
    (orderly : Orderly s.entered) :
    SetterKeeps (setSenderAddress state ret address) s ↔ s.pending = none := by
  unfold setSenderAddress SetterKeeps
  rw [achieves_bind, achieves_gpgme]
  cases pending : s.pending with
  | none =>
    refine (iff_of_true · rfl) <| (keeps_checkError (by simp [orderly]) ?_).mpr ?_
    · intro s₁ raised orderly₁
      simp [Kept, raised, orderly₁]
    · simp [Kept, orderly]
  | some e =>
    refine iff_of_false (checkError_unorderly ?_ ?_) (by simp)
    · simp [changes]
    · simp [Kept, changes]

theorem contextSetSender_keeps (ret : GpgError) (value : Option PyObject) (errno : Int) :
    SetterKeeps (contextSetSender state ret value) (called errno) ↔
      ¬ ∃ text, value = some (.str text) ∧ encodable text = false := by
  unfold contextSetSender
  split
  next => simp [canNotDelete_keeps]
  next => simp [setSenderAddress_keeps, called]
  next text =>
    unfold SetterKeeps
    rw [achieves_bind, achieves_attempt, encodeUtf8]
    cases encodes : encodable text with
    | true =>
      have keeps := setSenderAddress_keeps state ret (some (utf8 text)) (called errno) orderly_nil
      simpa [encodes, called] using keeps
    | false =>
      have keeps := setSenderAddress_keeps state ret none
        { called errno with pending := some ⟨.unicodeEncodeError, [], []⟩ } orderly_nil
      simpa [encodes] using keeps
  next value _ noText =>
    have other : ¬ ∃ text, some value = some (.str text) ∧ encodable text = false := by
      intro post
      obtain ⟨text, same, _⟩ := post
      exact noText text (by simpa using same)
    refine (iff_of_true ?_ other)
    simp [Kept, called]

/-! ### Notations -/

/-- Both strings of a notation are UTF-8. -/
def Encodes (item : SigNotation) : Prop :=
  (∀ text, item.name = some text → encodable text = true) ∧
    ∀ text, item.value = .text text → encodable text = true

/-- A notation that is not passed on as it is. -/
def Loses : PyObject → Prop
  | .sigNotation none => True
  | .sigNotation (some item) => ¬ Encodes item
  | _ => False

def Added (ret : GpgError) : PyObject → Prop
  | .sigNotation (some item) => Encodes item ∧ ret = noError
  | _ => False

/-- The loop gets to such a notation. -/
def NotationLost (rets : Nat → GpgError) (items : List PyObject) : Prop :=
  ∃ done item rest, items = done ++ item :: rest ∧ Loses item ∧
    ∀ i x, done[i]? = some x → Added (rets i) x

theorem notationLost_cons (rets : Nat → GpgError) (item : PyObject) (rest : List PyObject) :
    NotationLost rets (item :: rest) ↔
      Loses item ∨ (Added (rets 0) item ∧ NotationLost (fun i => rets (i + 1)) rest) := by
  unfold NotationLost
  constructor
  · intro post
    obtain ⟨done, lost, after, same, loses, added⟩ := post
    rcases List.cons_eq_append_iff.mp same with ⟨rfl, same⟩ | ⟨done, rfl, same⟩
    · cases same
      exact .inl loses
    · refine .inr ⟨added 0 item rfl, done, lost, after, (List.cons.inj same).2, loses, ?_⟩
      exact fun i x found => added (i + 1) x found
  · intro h
    rcases h with loses | ⟨first, done, lost, after, rfl, loses, added⟩
    · exact ⟨[], item, rest, rfl, loses, by simp⟩
    · refine ⟨item :: done, lost, after, rfl, loses, ?_⟩
      intro i x found
      cases i with
      | zero =>
        cases found
        exact first
      | succ i => exact added i x found

theorem notationName_pending (text : Option (List CodePoint)) (s : Interp) :
    achieves (notationName text) s fun _ s' => s'.entered = s.entered ∧
      (s'.pending = none ↔ s.pending = none ∧ ∀ t, text = some t → encodable t = true) := by
  unfold notationName
  cases text with
  | none => simp
  | some text => cases encodes : encodable text <;> simp [encodeUtf8, encodes]

theorem notationValue_pending (item : SigNotation) (s : Interp) :
    achieves (attempt (notationValue item.flags item.value)) s fun _ s' =>
      s'.entered = s.entered ∧ (s'.pending = none ↔
        s.pending = none ∧ ∀ t, item.value = .text t → encodable t = true) := by
  have typed := item.typed
  cases value : item.value with
  | text text =>
    have readable : humanReadable item.flags = true := typed.mpr ⟨text, value⟩
    cases encodes : encodable text with
    | true => simp [notationValue, readable, encodeUtf8, encodes]
    | false => simp [notationValue, readable, encodeUtf8, encodes]
  | data data =>
    have binary : humanReadable item.flags = false := by
      rw [value] at typed
      simpa using typed
    simp [notationValue, binary]

/-- One notation, up to the answer of gpgme. -/
theorem notation_step (item : SigNotation) {f : Option Bytes → Option Bytes → Py Int}
    (Q : Int → Interp → Prop) (s : Interp) (C : Prop)
    (rest : ∀ name value s', s'.entered = s.entered →
      (s'.pending = none ↔ s.pending = none ∧ Encodes item) →
      (achieves (f name value) s' Q ↔ C)) :
    achieves (do
      let name ← notationName item.name
      let value ← attempt (notationValue item.flags item.value)
      f name value) s Q ↔ C := by
  refine achieves_bind_iff_of (notationName_pending item.name s) ?_
  intro name s₁ post
  obtain ⟨entered₁, pending₁⟩ := post
  refine achieves_bind_iff_of (notationValue_pending item s₁) ?_
  intro value s₂ post
  obtain ⟨entered₂, pending₂⟩ := post
  refine rest name value s₂ (entered₂.trans entered₁) ?_
  rw [pending₂, pending₁, and_assoc]
  rfl

theorem addNotations_unorderly (rets : Nat → GpgError) (items : List PyObject) :
    ∀ i s, ¬ Orderly s.entered → ¬ SetterKeeps (addNotations state rets i items) s := by
  induction items with
  | nil =>
    intro i s unorderly
    simp [addNotations, Kept, unorderly]
  | cons item rest ih =>
    intro i s unorderly
    unfold addNotations
    split
    next same => cases same
    next => simp
    next item rest' same =>
      cases same
      refine (notation_step item _ s False fun name value s₁ entered₁ _ => ?_).mp
      rw [achieves_bind, achieves_gpgme, iff_false]
      have unorderly₁ : ¬ Orderly (⟨.sigNotationAdd, [.string (name.map cString),
          .string (value.map cString), .int item.flags.toNat], s₁.pending.isSome⟩ ::
            s₁.entered) := by
        rw [orderly_cons, entered₁]
        exact fun h => unorderly h.2
      exact checkError_unorderly unorderly₁ (ih (i + 1) _ unorderly₁)
    next => simp [Kept, unorderly]

theorem addNotations_keeps (rets : Nat → GpgError) (items : List PyObject) :
    ∀ i s, s.pending = none → Orderly s.entered →
      (SetterKeeps (addNotations state rets i items) s ↔
        ¬ NotationLost (fun k => rets (i + k)) items) := by
  induction items with
  | nil =>
    intro i s quiet orderly
    simp [addNotations, Kept, quiet, orderly, NotationLost]
  | cons item rest ih =>
    intro i s quiet orderly
    rw [notationLost_cons]
    unfold addNotations
    split
    next same => cases same
    next same =>
      cases same
      simp [Loses]
    next item rest' same =>
      cases same
      refine notation_step item _ s _ fun name value s₁ entered₁ pending₁ => ?_
      rw [achieves_bind, achieves_gpgme]
      by_cases encodes : Encodes item
      · have quiet₁ : s₁.pending = none := pending₁.mpr ⟨quiet, encodes⟩
        have shifted : (fun k => rets (i + 1 + k)) = fun k => rets (i + (k + 1)) := by
          funext k
          congr 1
          omega
        have later := ih (i + 1) { s₁ with entered := ⟨.sigNotationAdd,
          [.string (name.map cString), .string (value.map cString), .int item.flags.toNat],
          s₁.pending.isSome⟩ :: s₁.entered } quiet₁ (by simp [quiet₁, entered₁, orderly])
        unfold SetterKeeps at later
        rw [keeps_checkError (by simp [quiet₁, entered₁, orderly]), later, shifted]
        · simp [Loses, Added, encodes]
        · intro s₂ raised orderly₂
          simp [Kept, raised, orderly₂]
      · have raised : s₁.pending ≠ none := fun none => encodes (pending₁.mp none).2
        have lost : Loses (.sigNotation (some item)) := encodes
        refine iff_of_false ?_ fun h => h (.inl lost)
        have unorderly₁ : ¬ Orderly (⟨.sigNotationAdd, [.string (name.map cString),
            .string (value.map cString), .int item.flags.toNat], s₁.pending.isSome⟩ ::
              s₁.entered) := by
          simp [changes, raised]
        exact checkError_unorderly unorderly₁
          (addNotations_unorderly state rets rest (i + 1) _ unorderly₁)
    next other _ noInit noItem same =>
      cases same
      have harmless : ¬ Loses item ∧ ¬ Added (rets i) item := by
        unfold Loses Added
        split <;> simp_all
      simp [Kept, orderly, harmless]

theorem contextSetSigNotations_keeps (rets : Nat → GpgError) (value : Option PyObject)
    (errno : Int) :
    SetterKeeps (contextSetSigNotations state rets value) (called errno) ↔
      ¬ (value = some (.sigNotation none) ∨
        ∃ o items, value = some o ∧ o.items = .ok items ∧ NotationLost rets (visited items)) := by
  cases value with
  | none => simp [contextSetSigNotations, canNotDelete_keeps]
  | some value =>
    unfold contextSetSigNotations sequenceFast SetterKeeps
    rw [achieves_bind, achieves_convert]
    have crashes := items_crash_iff value
    cases listed : value.items with
    | error stop =>
      rw [listed] at crashes
      cases stop with
      | crash => simp [crashes.mp rfl, Except.mapError, Stop.named]
      | raised e =>
        have other : value ≠ .sigNotation none := fun same => by simpa using crashes.mpr same
        simp [Kept, called, other, listed, Except.mapError, Stop.named]
    | ok items =>
      have other : value ≠ .sigNotation none := fun same => by simpa [listed] using crashes.mpr same
      have keeps := addNotations_keeps state rets (visited items) 0
        { called errno with entered := [⟨.sigNotationClear, [], false⟩] } rfl (by simp)
      simp only [Except.mapError, achieves_bind, achieves_gpgme]
      simpa [called, listed, SetterKeeps, other] using keeps

end

/-! ## Methods -/

/-- The arguments are accepted, and what they are converted to satisfies `P`. -/
def Admits {ε α : Type} (args : Except ε α) (P : α → Prop) : Prop := ∃ a, args = .ok a ∧ P a

@[simp] theorem admits_ok {ε α : Type} (a : α) (P : α → Prop) :
    Admits (.ok a : Except ε α) P ↔ P a := by
  simp [Admits]

@[simp] theorem admits_error {ε α : Type} (e : ε) (P : α → Prop) :
    ¬ Admits (.error e : Except ε α) P := by
  simp [Admits]

/-- The same, or the conversion of the arguments crashes. -/
def Breaks {α : Type} (args : Except Stop α) (P : α → Prop) : Prop :=
  args = .error .crash ∨ Admits args P

/-- The operation succeeds although its callbacks left an exception pending. -/
def Unnoticed {Callback : Type} (overflows : Bool → Callback → Bool) (op : Operation Callback) :
    Prop :=
  op.err = noError ∧ leaves overflows false op.callbacks = true

/-- How the rest of a method, given what the operation returned, keeps the convention:
always, but for a success with an exception pending that it is `blind` to. -/
def Ends (rest : GpgError → Py (Option PyObject)) (blind : Prop) : Prop :=
  ∀ err s, Orderly s.entered →
    (MethodKeeps (rest err) s ↔ ¬ (err = noError ∧ s.pending.isSome = true ∧ blind))

section
variable (m : Module)

/-- From the operation on, what is left to know is how the rest of the method takes
an exception that the callbacks left pending. -/
theorem operation_keeps {Callback : Type} {start : Py GpgError} {overflows : Bool → Callback → Bool}
    {fn : GpgmeFn} {args : List CArg} {op : Operation Callback} {errno : Int}
    (started : achieves start (called errno) fun err s' =>
      err = op.err ∧ s'.entered = [⟨fn, args, false⟩] ∧
        s'.pending.isSome = leaves overflows false op.callbacks)
    {rest : GpgError → Py (Option PyObject)} {blind : Prop} (ends : Ends rest blind) :
    MethodKeeps (start >>= rest) (called errno) ↔ ¬ (Unnoticed overflows op ∧ blind) := by
  refine achieves_bind_iff_of started ?_
  intro err s₁ post
  obtain ⟨same, entered₁, pending₁⟩ := post
  have orderly₁ : Orderly s₁.entered := by simp [entered₁]
  have later := ends op.err s₁ orderly₁
  rw [pending₁] at later
  rw [same, Unnoticed, and_assoc]
  exact later

/-- The callbacks of the context leave nothing pending. -/
theorem contextOperation_keeps (fn : GpgmeFn) (args : List CArg) (op : Operation ContextCallback)
    {rest : GpgError → Py (Option PyObject)} {blind : Prop} (ends : Ends rest blind)
    (errno : Int) :
    MethodKeeps (operation (·.run m) fn args op >>= rest) (called errno) := by
  have started := operation_pending op fn args (called errno)
    fun s _ => runAll_pending (contextCallback_pending m) op.callbacks s
  refine (operation_keeps started ends).mpr ?_
  intro post
  obtain ⟨⟨_, left⟩, _⟩ := post
  have quiet : ∀ callbacks, leaves contextOverflows false callbacks = false := by
    intro callbacks
    induction callbacks with
    | nil => rfl
    | cons callback rest ih => exact ih
  rw [quiet] at left
  cases left

/-- An operation on data objects, before they are made. -/
theorem dataOperation_keeps (created : Nat → GpgError) (files : List PyObject) (fn : GpgmeFn)
    (args : List CArg) (op : Operation StreamCallback)
    {rest : GpgError → Py (Option PyObject)} {blind : Prop} (ends : Ends rest blind)
    (errno : Int) :
    MethodKeeps (do
      if ← dataNews m created files then return none
      else operation (·.run m) fn args op >>= rest) (called errno) ↔
      ¬ (¬ DataFails created files ∧ Unnoticed streamOverflows op ∧ blind) := by
  by_cases fails : DataFails created files
  · refine achieves_bind_iff_of (dataNews_fails m files created (called errno) fails) ?_
    intro failed s₁ post
    obtain ⟨isFailed, entered₁, pending₁⟩ := post
    simp [isFailed, Kept, entered₁, pending₁, called, fails]
  · refine achieves_bind_iff_of (dataNews_succeeds m files created (called errno) fails) ?_
    intro failed s₁ post
    obtain ⟨isMade, same⟩ := post
    rw [isMade, same]
    have started := operation_pending op fn args (called errno)
      fun s _ => runAll_pending (streamCallback_pending m) op.callbacks s
    simpa [fails] using operation_keeps started ends

/-! ### How the methods end -/

theorem return_keeps (o : PyObject) (s : Interp) (orderly : Orderly s.entered) :
    MethodKeeps (return some o) s ↔ ¬ (s.pending.isSome = true ∧ True) := by
  simp [Kept, orderly]

theorem annotated_keeps {p : Py Unit} (annotates : Annotates p) (s : Interp)
    (raised : s.pending.isSome = true) (orderly : Orderly s.entered) :
    MethodKeeps (do
      p
      return none) s := by
  refine achieves_bind_of (annotates s orderly raised) ?_
  intro _ s₁ post
  obtain ⟨orderly₁, raised₁⟩ := post
  simp [Kept, orderly₁, raised₁]

theorem annotations_keep {p q : Py Unit} (first : Annotates p) (second : Annotates q) (s : Interp)
    (raised : s.pending.isSome = true) (orderly : Orderly s.entered) :
    MethodKeeps (do
      p
      q
      return none) s := by
  refine achieves_bind_of (first s orderly raised) ?_
  intro _ s₁ post
  obtain ⟨orderly₁, raised₁⟩ := post
  exact annotated_keeps second s₁ raised₁ orderly₁

/-- A check of the error, and a success that is `blind` to a pending exception. -/
theorem checked_ends {failure success : Py (Option PyObject)} {blind : Prop}
    (reports : ∀ s, s.pending.isSome = true → Orderly s.entered → MethodKeeps failure s)
    (succeeds : ∀ s, Orderly s.entered →
      (MethodKeeps success s ↔ ¬ (s.pending.isSome = true ∧ blind))) :
    Ends (fun err => do if ← checkError m.toModState err then failure else success) blind := by
  intro err s orderly
  unfold MethodKeeps at reports succeeds ⊢
  rw [keeps_checkError orderly reports, succeeds s orderly]
  exact not_and.symm

theorem object_ends (o : PyObject) :
    Ends (fun err => do if ← checkError m.toModState err then return none else return some o)
      True := by
  apply checked_ends m
  · intro s raised orderly
    simp [Kept, raised, orderly]
  · exact return_keeps o

theorem noneUnlessError_ends : Ends (noneUnlessError m) True := object_ends m .none

/-- No list of new signatures whose conversion would notice. -/
def noSignatures : Option SignResult → Bool
  | some res => res.signatures.isEmpty
  | none => true

theorem newSignatures_keeps (signed : Option SignResult) (s : Interp)
    (orderly : Orderly s.entered) :
    MethodKeeps (newSignatures m signed) s ↔
      ¬ (s.pending.isSome = true ∧ noSignatures signed = true) := by
  unfold newSignatures noSignatures
  cases signed with
  | none => simp [Kept, orderly]
  | some res =>
    obtain ⟨invalidSigners, sigs⟩ := res
    cases sigs with
    | nil => simp [newsiglistNew, listOf, Kept, orderly]
    | cons sig rest =>
      have accounts := newsiglistNew_cons m sig rest (newsiglistNew_converts m rest)
      refine achieves_bind_iff_of (accounts.2 s) ?_
      intro r s₁ post
      obtain ⟨entered₁, fails⟩ := post
      simp [listOf, Kept, entered₁, orderly, fails]

theorem signatures_keeps (verified : Option (List Sig)) (s : Interp)
    (orderly : Orderly s.entered) :
    MethodKeeps (signatures m verified) s ↔
      ¬ (s.pending.isSome = true ∧ (verified.getD []).isEmpty = true) := by
  unfold signatures
  cases verified with
  | none => simp [Kept, orderly]
  | some sigs =>
    cases sigs with
    | nil => simp [siglistNew, listOf, Kept, orderly]
    | cons sig rest =>
      have accounts := siglistNew_cons m sig rest (siglistNew_converts m rest)
      refine achieves_bind_iff_of (accounts.2 s) ?_
      intro r s₁ post
      obtain ⟨entered₁, fails⟩ := post
      simp [listOf, Kept, entered₁, orderly, fails]

/-- Fetching a result first makes no difference. -/
theorem Ends.after_result {fn : GpgmeFn} (harmless : changes fn = false)
    {rest : GpgError → Py (Option PyObject)} {blind : Prop} (ends : Ends rest blind) :
    Ends (fun err => do
      gpgme fn []
      rest err) blind := by
  intro err s orderly
  unfold MethodKeeps
  rw [achieves_bind, achieves_gpgme]
  exact ends err _ (by simp [harmless, orderly])

theorem signEnd_ends {failure : Py (Option PyObject)} (signed : Option SignResult)
    (reports : ∀ s, s.pending.isSome = true → Orderly s.entered → MethodKeeps failure s) :
    Ends (fun err => do
      gpgme .opSignResult []
      if ← checkError m.toModState err then failure else newSignatures m signed)
      (noSignatures signed = true) :=
  (checked_ends m reports (newSignatures_keeps m signed)).after_result rfl

theorem verifyEnd_ends (verified : Option (List Sig)) :
    Ends (fun err => do
      gpgme .opVerifyResult []
      if ← checkError m.toModState err then
        annotateVerifyResult m verified
        return none
      else signatures m verified)
      ((verified.getD []).isEmpty = true) :=
  (checked_ends m (annotated_keeps (annotateVerifyResult_annotates m verified))
    (signatures_keeps m verified)).after_result rfl

/-- The second check of the same error is never reached by a failure. -/
theorem decryptVerifyEnd_ends (decrypted : Option DecryptResult) (verified : Option (List Sig)) :
    Ends (fun err => do
      if ← checkError m.toModState err then
        decodeDecryptResult m decrypted
        return none
      else
        gpgme .opVerifyResult []
        if ← checkError m.toModState err then
          annotateVerifyResult m verified
          return none
        else signatures m verified)
      ((verified.getD []).isEmpty = true) := by
  intro err s orderly
  have later := verifyEnd_ends m verified err s orderly
  unfold MethodKeeps at later ⊢
  rw [keeps_checkError orderly (annotated_keeps (decodeDecryptResult_annotates m decrypted)),
    later]
  exact ⟨fun h lost => h lost.1 lost, fun h _ => h⟩

theorem importEnd_ends (res : Option ImportResult) :
    Ends (fun err => do
      let result ← importResult m res
      if ← checkError m.toModState err then
        annotateResult result
        return none
      else return result)
      (noImports res = true) := by
  intro err s orderly
  refine achieves_bind_iff_of (importResult_pending m res s orderly) ?_
  intro result s₁ post
  obtain ⟨orderly₁, outcome⟩ := post
  have reports := annotated_keeps (annotateResult_annotates result)
  have checked : MethodKeeps (do
      if ← checkError m.toModState err then
        annotateResult result
        return none
      else return result) s₁ ↔ (err = noError → MethodKeeps (return result) s₁) :=
    keeps_checkError orderly₁ reports
  unfold MethodKeeps at checked
  rw [checked]
  cases missing : noImports res with
  | true =>
    obtain ⟨converted, same⟩ : result ≠ none ∧ s₁.pending = s.pending := by
      simpa [missing] using outcome
    simp [Kept, orderly₁, converted, same]
  | false =>
    have fails : result = none ↔ s₁.pending.isSome = true := by simpa [missing] using outcome
    simp [Kept, orderly₁, fails]

theorem genkeyEnd_ends (res : Option GenkeyResult) :
    Ends (fun err => do
      let result ← genkeyResult m res
      if ← checkError m.toModState err then
        annotateResult result
        return none
      else return result)
      True := by
  intro err s orderly
  refine achieves_bind_iff_of (genkeyResult_pending m res s orderly) ?_
  intro result s₁ post
  obtain ⟨orderly₁, converted, same⟩ := post
  obtain ⟨o, rfl⟩ := Option.ne_none_iff_exists'.mp converted
  rw [← same]
  exact checked_ends m (annotated_keeps (annotateResult_annotates (some o))) (return_keeps o)
    err s₁ orderly₁

end

/-! ### The methods -/

section
variable (m : Module) (args : List PyObject) (errno : Int)

/-- Arguments that are refused are reported before gpgme is asked for anything. -/
theorem attempt_keeps_iff {α : Type} {parsed : Except PyExc α}
    {body : Option α → Py (Option PyObject)} {breaks : α → Prop}
    (refused : body none = return none)
    (accepted : ∀ a, MethodKeeps (body (some a)) (called errno) ↔ ¬ breaks a) :
    MethodKeeps (attempt parsed >>= body) (called errno) ↔ ¬ Admits parsed breaks := by
  unfold MethodKeeps at accepted ⊢
  rw [achieves_bind, achieves_attempt]
  cases parsed with
  | error e => simp [refused, Kept, called]
  | ok a => simpa using accepted a

theorem attempt_keeps {α : Type} {parsed : Except PyExc α}
    {body : Option α → Py (Option PyObject)} (refused : body none = return none)
    (accepted : ∀ a, MethodKeeps (body (some a)) (called errno)) :
    MethodKeeps (attempt parsed >>= body) (called errno) := by
  have keeps : MethodKeeps (attempt parsed >>= body) (called errno) ↔
      ¬ Admits parsed fun _ => False :=
    attempt_keeps_iff errno refused fun a => iff_of_true (accepted a) id
  exact keeps.mpr fun ⟨_, _, impossible⟩ => impossible

/-- Arguments with a sequence among them, whose iteration may crash. -/
theorem convert_keeps_iff {α : Type} {parsed : Except Stop α}
    {body : Option α → Py (Option PyObject)} {breaks : α → Prop}
    (refused : body none = return none)
    (accepted : ∀ a, MethodKeeps (body (some a)) (called errno) ↔ ¬ breaks a) :
    MethodKeeps (convert parsed >>= body) (called errno) ↔ ¬ Breaks parsed breaks := by
  unfold MethodKeeps at accepted ⊢
  rw [achieves_bind, achieves_convert, Breaks]
  cases parsed with
  | error stop => cases stop <;> simp [refused, Kept, called]
  | ok a => simpa using accepted a

theorem convert_keeps {α : Type} {parsed : Except Stop α}
    {body : Option α → Py (Option PyObject)} (refused : body none = return none)
    (accepted : ∀ a, MethodKeeps (body (some a)) (called errno)) :
    MethodKeeps (convert parsed >>= body) (called errno) ↔ ¬ parsed = .error .crash := by
  have keeps : MethodKeeps (convert parsed >>= body) (called errno) ↔
      ¬ Breaks parsed fun _ => False :=
    convert_keeps_iff errno refused fun a => iff_of_true (accepted a) id
  simpa [Breaks, Admits] using keeps

theorem contextSetEngineInfo_keeps (ret : GpgError) :
    MethodKeeps (contextSetEngineInfo m ret args) (called errno) := by
  apply attempt_keeps errno (by rfl)
  intro parsed
  unfold MethodKeeps
  rw [achieves_bind, achieves_gpgme]
  refine (noneUnlessError_ends m ret _ (by simp [called])).mpr ?_
  simp [called]

theorem contextSetLocale_keeps (ret : GpgError) :
    MethodKeeps (contextSetLocale m ret args) (called errno) := by
  apply attempt_keeps errno (by rfl)
  intro parsed
  unfold MethodKeeps
  rw [achieves_bind, achieves_gpgme]
  refine (noneUnlessError_ends m ret _ (by simp [called])).mpr ?_
  simp [called]

theorem contextGetEngineInfo_keeps (infos : List EngineInfo) :
    MethodKeeps (contextGetEngineInfo m infos args) (called errno) ↔
      ¬ EngineStringLost infos := by
  unfold contextGetEngineInfo MethodKeeps
  rw [achieves_bind, achieves_gpgme, engineStringLost_iff]
  refine achieves_bind_iff_of (engineInfoListNew_pending m infos _) ?_
  intro items s₁ post
  obtain ⟨entered₁, pending₁⟩ := post
  simp only [called, Option.isSome_none, Bool.false_or] at pending₁ entered₁
  simp [Kept, entered₁, pending₁, changes, GpgmeFn.startsOperation]

theorem contextGetKey_keeps (op : Operation ContextCallback) (key : Nat) :
    MethodKeeps (contextGetKey m op key args) (called errno) := by
  apply attempt_keeps errno (by rfl)
  intro parsed
  exact contextOperation_keeps m _ _ op (object_ends m _) errno

theorem contextImportKeys_keeps (op : Operation ContextCallback) (res : Option ImportResult) :
    MethodKeeps (contextImportKeys m op res args) (called errno) ↔
      ¬ importKeysArgs args = .error .crash := by
  apply convert_keeps errno (by rfl)
  intro keys
  exact contextOperation_keeps m _ _ op (importEnd_ends m res) errno

theorem contextDelete_keeps (op : Operation ContextCallback) :
    MethodKeeps (contextDelete m op args) (called errno) := by
  apply attempt_keeps errno (by rfl)
  intro parsed
  exact contextOperation_keeps m _ _ op (noneUnlessError_ends m) errno

theorem contextKeylist_keeps (op : Operation ContextCallback) :
    MethodKeeps (contextKeylist m op args) (called errno) ↔
      ¬ keylistArgs args = .error .crash := by
  apply convert_keeps errno (by rfl)
  intro parsed
  exact contextOperation_keeps m _ _ op (object_ends m _) errno

/-- An operation on files that succeeds with an exception pending. -/
def Lost (created : Nat → GpgError) (op : Operation StreamCallback) (files : List PyObject) :
    Prop :=
  ¬ DataFails created files ∧ Unnoticed streamOverflows op

section
variable (created : Nat → GpgError) (op : Operation StreamCallback)

theorem contextEncrypt_keeps (encrypted : Option (List InvalidKey)) :
    MethodKeeps (contextEncrypt m created op encrypted args) (called errno) ↔
      ¬ Breaks (encryptArgs args) fun (_, _, plain, cipher) =>
        Lost created op [plain, cipher] := by
  apply convert_keeps_iff errno (by rfl)
  intro parsed
  have ends := checked_ends m (annotated_keeps (decodeEncryptResult_annotates m encrypted))
    (return_keeps .none)
  simpa [Lost] using dataOperation_keeps m created [parsed.2.2.1, parsed.2.2.2] _ _ op ends errno

theorem contextDecrypt_keeps (decrypted : Option DecryptResult) :
    MethodKeeps (contextDecrypt m created op decrypted args) (called errno) ↔
      ¬ Admits (twoObjects args) fun (cipher, plain) => Lost created op [cipher, plain] := by
  apply attempt_keeps_iff errno (by rfl)
  intro parsed
  have ends := checked_ends m (annotated_keeps (decodeDecryptResult_annotates m decrypted))
    (return_keeps .none)
  simpa [Lost] using dataOperation_keeps m created [parsed.1, parsed.2] _ _ op ends errno

theorem contextEncryptSign_keeps (encrypted : Option (List InvalidKey))
    (signed : Option SignResult) :
    MethodKeeps (contextEncryptSign m created op encrypted signed args) (called errno) ↔
      ¬ Breaks (encryptSignArgs args) fun (_, _, plain, cipher) =>
        Lost created op [plain, cipher] ∧ noSignatures signed = true := by
  apply convert_keeps_iff errno (by rfl)
  intro parsed
  have ends := signEnd_ends m signed (annotations_keep
    (decodeEncryptResult_annotates m encrypted) (annotateSignResult_annotates m signed))
  simpa [Lost, and_assoc] using
    dataOperation_keeps m created [parsed.2.2.1, parsed.2.2.2] _ _ op ends errno

theorem contextSign_keeps (signed : Option SignResult) :
    MethodKeeps (contextSign m created op signed args) (called errno) ↔
      ¬ Admits (signArgs sigModeNormal args) fun (plain, sig, _) =>
        Lost created op [plain, sig] ∧ noSignatures signed = true := by
  apply attempt_keeps_iff errno (by rfl)
  intro parsed
  have ends := signEnd_ends m signed
    (annotated_keeps (annotateSignResult_annotates m signed))
  simpa [Lost, and_assoc] using
    dataOperation_keeps m created [parsed.1, parsed.2.1] _ _ op ends errno

theorem contextVerify_keeps (verified : Option (List Sig)) :
    MethodKeeps (contextVerify m created op verified args) (called errno) ↔
      ¬ Admits (threeObjects args) fun (sig, signedText, plaintext) =>
        Lost created op [sig, signedText, plaintext] ∧ (verified.getD []).isEmpty = true := by
  apply attempt_keeps_iff errno (by rfl)
  intro parsed
  simpa [Lost, and_assoc] using
    dataOperation_keeps m created [parsed.1, parsed.2.1, parsed.2.2] _ _ op
      (verifyEnd_ends m verified) errno

theorem contextDecryptVerify_keeps (decrypted : Option DecryptResult)
    (verified : Option (List Sig)) :
    MethodKeeps (contextDecryptVerify m created op decrypted verified args) (called errno) ↔
      ¬ Admits (twoObjects args) fun (cipher, plain) =>
        Lost created op [cipher, plain] ∧ (verified.getD []).isEmpty = true := by
  apply attempt_keeps_iff errno (by rfl)
  intro parsed
  simpa [Lost, and_assoc] using dataOperation_keeps m created [parsed.1, parsed.2] _ _ op
    (decryptVerifyEnd_ends m decrypted verified) errno

theorem contextImport_keeps (res : Option ImportResult) :
    MethodKeeps (contextImport m created op res args) (called errno) ↔
      ¬ Admits (oneObject args) fun keydata =>
        Lost created op [keydata] ∧ noImports res = true := by
  apply attempt_keeps_iff errno (by rfl)
  intro keydata
  simpa [Lost, and_assoc] using
    dataOperation_keeps m created [keydata] _ _ op (importEnd_ends m res) errno

theorem contextExport_keeps :
    MethodKeeps (contextExport m created op args) (called errno) ↔
      ¬ Breaks (exportArgs args) fun (_, keydata, _) => Lost created op [keydata] := by
  apply convert_keeps_iff errno (by rfl)
  intro parsed
  simpa [Lost] using
    dataOperation_keeps m created [parsed.2.1] _ _ op (noneUnlessError_ends m) errno

theorem contextExportKeys_keeps :
    MethodKeeps (contextExportKeys m created op args) (called errno) ↔
      ¬ Breaks (exportKeysArgs args) fun (_, keydata, _) => Lost created op [keydata] := by
  apply convert_keeps_iff errno (by rfl)
  intro parsed
  simpa [Lost] using
    dataOperation_keeps m created [parsed.2.1] _ _ op (noneUnlessError_ends m) errno

theorem contextGenkey_keeps (res : Option GenkeyResult) :
    MethodKeeps (contextGenkey m created op res args) (called errno) ↔
      ¬ Admits (genkeyArgs args) fun (_, pubkey, seckey) =>
        Lost created op [pubkey, seckey] := by
  apply attempt_keeps_iff errno (by rfl)
  intro parsed
  simpa [Lost] using dataOperation_keeps m created [parsed.2.1, parsed.2.2] _ _ op
    (genkeyEnd_ends m res) errno

end

/-! ### Interactive operations -/

/-- Everything that can go wrong once `edit` has its arguments: the warning that is
raised is not noticed, a status is converted with an exception pending, or the operation
succeeds with one pending. -/
def EditLost (warning : Option ExcClass) (created : Nat → GpgError)
    (op : Operation EditCallback) (out : PyObject) : Prop :=
  ¬ DataFails created [out] ∧ (warning.isSome = true ∨ EditCrash false op.callbacks ∨
    Unnoticed editOverflows op)

/-- An operation that is started with an exception pending. -/
theorem editOperation_raised {fn : GpgmeFn} (starts : changes fn = true) (cargs : List CArg)
    (op : Operation EditCallback) (s : Interp) (raised : s.pending.isSome = true) :
    ¬ MethodKeeps (operation (·.run m) fn cargs op >>= noneUnlessError m) s := by
  by_cases crash : EditCrash s.pending.isSome op.callbacks
  · unfold MethodKeeps
    rw [achieves_bind]
    exact editOperation_crashes m op fn cargs s crash _
  · have started := editOperation_pending m op fn cargs s crash
    refine (achieves_bind_iff_of started fun err s₁ ⟨_, entered₁, _⟩ => ?_).mp
    rw [iff_false]
    have unorderly₁ : ¬ Orderly s₁.entered := by simp [entered₁, starts, raised]
    exact checkError_unorderly unorderly₁ (by simp [Kept, unorderly₁])

theorem editOperation_keeps (fn : GpgmeFn) (cargs : List CArg) (op : Operation EditCallback) :
    MethodKeeps (operation (·.run m) fn cargs op >>= noneUnlessError m) (called errno) ↔
      ¬ (EditCrash false op.callbacks ∨ Unnoticed editOverflows op) := by
  by_cases crash : EditCrash false op.callbacks
  · have crashes := editOperation_crashes m op fn cargs (called errno) crash
    simp [achieves_bind, crashes, crash]
  · have started := editOperation_pending m op fn cargs (called errno) crash
    simpa [crash] using operation_keeps started (noneUnlessError_ends m)

theorem warnEx_called (warning : Option ExcClass) (text : String) :
    achieves (warnEx warning text) (called errno) fun _ s' =>
      s' = { called errno with pending := warning.map (excString · text) } := by
  cases warning <;> simp [warnEx, called]

theorem editWith_keeps {fn : GpgmeFn} (starts : changes fn = true) (text : String)
    (warning : Option ExcClass) (created : Nat → GpgError) (op : Operation EditCallback) :
    MethodKeeps (editWith m fn text warning created op args) (called errno) ↔
      ¬ Admits (editArgs args) fun (_, _, out) => EditLost warning created op out := by
  apply attempt_keeps_iff errno (by rfl)
  intro parsed
  obtain ⟨key, callback, out⟩ := parsed
  simp only [EditLost]
  refine achieves_bind_iff_of (warnEx_called errno warning text) fun _ s₁ warned => ?_
  by_cases fails : DataFails created [out]
  · refine achieves_bind_iff_of (dataNews_fails m [out] created s₁ fails) ?_
    intro failed s₂ post
    obtain ⟨isFailed, entered₂, pending₂⟩ := post
    simp [isFailed, Kept, entered₂, pending₂, warned, called, fails]
  · refine achieves_bind_iff_of (dataNews_succeeds m [out] created s₁ fails) ?_
    intro failed s₂ post
    obtain ⟨isMade, same⟩ := post
    rw [isMade, same, warned]
    cases warning with
    | none =>
      have later := editOperation_keeps m errno fn [.key key, .data out] op
      simpa [fails, called] using later
    | some cls =>
      have later := editOperation_raised m starts [.key key, .data out] op
        { called errno with pending := some (excString cls text) } rfl
      simpa [fails] using later

end

/-! ## All of them -/

/-- The inputs on which a setter breaks the convention. -/
def setterBreaks (value : Option PyObject) : Setter → Prop
  | .sender _ => ∃ text, value = some (.str text) ∧ encodable text = false
  | .signers => value = some (.sigNotation none)
  | .sigNotations rets =>
    value = some (.sigNotation none) ∨
      ∃ o items, value = some o ∧ o.items = .ok items ∧ NotationLost rets (visited items)
  | _ => False

/-- The argument that a method iterates over, if the format accepts the others. -/
def iterated (args : List PyObject) : Method → Option PyObject
  | .encrypt _ _ _ | .encryptSign _ _ _ _ => encryptSequence args
  | .importKeys _ _ => (oneObject args).toOption
  | .export_ _ _ | .exportKeys _ _ => (signArgs 0 args).toOption.map Prod.fst
  | .keylist _ => keylistSequence args
  | _ => none

/-- The inputs on which a method breaks it. -/
def methodBreaks (args : List PyObject) (method : Method) : Prop :=
  iterated args method = some (.sigNotation none) ∨
    match method with
    | .getEngineInfo infos => EngineStringLost infos
    | .encrypt created op _ =>
      Admits (encryptArgs args) fun (_, _, plain, cipher) => Lost created op [plain, cipher]
    | .encryptSign created op _ signed =>
      Admits (encryptSignArgs args) fun (_, _, plain, cipher) =>
        Lost created op [plain, cipher] ∧ noSignatures signed = true
    | .decrypt created op _ =>
      Admits (twoObjects args) fun (cipher, plain) => Lost created op [cipher, plain]
    | .decryptVerify created op _ verified =>
      Admits (twoObjects args) fun (cipher, plain) =>
        Lost created op [cipher, plain] ∧ (verified.getD []).isEmpty = true
    | .sign created op signed =>
      Admits (signArgs sigModeNormal args) fun (plain, sig, _) =>
        Lost created op [plain, sig] ∧ noSignatures signed = true
    | .verify created op verified =>
      Admits (threeObjects args) fun (sig, signedText, plaintext) =>
        Lost created op [sig, signedText, plaintext] ∧ (verified.getD []).isEmpty = true
    | .import_ created op res =>
      Admits (oneObject args) fun keydata => Lost created op [keydata] ∧ noImports res = true
    | .export_ created op =>
      Admits (exportArgs args) fun (_, keydata, _) => Lost created op [keydata]
    | .exportKeys created op =>
      Admits (exportKeysArgs args) fun (_, keydata, _) => Lost created op [keydata]
    | .genkey created op _ =>
      Admits (genkeyArgs args) fun (_, pubkey, seckey) => Lost created op [pubkey, seckey]
    | .edit warning created op | .cardEdit warning created op =>
      Admits (editArgs args) fun (_, _, out) => EditLost warning created op out
    | .setEngineInfo _ | .setLocale _ | .getKey _ _ | .importKeys _ _ | .delete _
    | .keylist _ => False

theorem setter_keeps_iff (state : ModState) (setter : Setter) (value : Option PyObject)
    (errno : Int) :
    SetterKeeps (setter.set state value) (called errno) ↔ ¬ setterBreaks value setter := by
  cases setter with
  | protocol ret => exact iff_of_true (setInteger_keeps state _ _ (some ret) value errno) id
  | armor => exact iff_of_true (setInteger_keeps state _ _ none value errno) id
  | textmode => exact iff_of_true (setInteger_keeps state _ _ none value errno) id
  | offline => exact iff_of_true (setInteger_keeps state _ _ none value errno) id
  | includeCerts => exact iff_of_true (setInteger_keeps state _ _ none value errno) id
  | keylistMode ret => exact iff_of_true (setInteger_keeps state _ _ (some ret) value errno) id
  | pinentryMode ret => exact iff_of_true (setInteger_keeps state _ _ (some ret) value errno) id
  | passphraseCb => exact iff_of_true (setCallback_keeps _ value errno) id
  | progressCb => exact iff_of_true (setCallback_keeps _ value errno) id
  | signers => exact contextSetSigners_keeps value errno
  | sigNotations rets => exact contextSetSigNotations_keeps state rets value errno
  | sender ret => exact contextSetSender_keeps state ret value errno

/-- A method that iterates over nothing. -/
theorem none_or {P : Prop} {o : PyObject} : (none : Option PyObject) = some o ∨ P ↔ P := by
  simp

theorem method_keeps_iff (m : Module) (method : Method) (args : List PyObject) (errno : Int) :
    MethodKeeps (method.call m args) (called errno) ↔ ¬ methodBreaks args method := by
  unfold methodBreaks iterated
  cases method with
  | setEngineInfo ret =>
    exact iff_of_true (contextSetEngineInfo_keeps m args errno ret) (by simp)
  | getEngineInfo infos =>
    rw [none_or]
    exact contextGetEngineInfo_keeps m args errno infos
  | setLocale ret => exact iff_of_true (contextSetLocale_keeps m args errno ret) (by simp)
  | getKey op key => exact iff_of_true (contextGetKey_keeps m args errno op key) (by simp)
  | encrypt created op encrypted =>
    rw [← encryptArgs_crash_iff]
    exact contextEncrypt_keeps m args errno created op encrypted
  | encryptSign created op encrypted signed =>
    rw [← encryptSignArgs_crash_iff]
    exact contextEncryptSign_keeps m args errno created op encrypted signed
  | decrypt created op decrypted =>
    rw [none_or]
    exact contextDecrypt_keeps m args errno created op decrypted
  | decryptVerify created op decrypted verified =>
    rw [none_or]
    exact contextDecryptVerify_keeps m args errno created op decrypted verified
  | sign created op signed =>
    rw [none_or]
    exact contextSign_keeps m args errno created op signed
  | verify created op verified =>
    rw [none_or]
    exact contextVerify_keeps m args errno created op verified
  | import_ created op res =>
    rw [none_or]
    exact contextImport_keeps m args errno created op res
  | importKeys op res =>
    rw [or_false, ← importKeysArgs_crash_iff]
    exact contextImportKeys_keeps m args errno op res
  | export_ created op =>
    rw [← exportArgs_crash_iff]
    exact contextExport_keeps m args errno created op
  | exportKeys created op =>
    rw [← exportKeysArgs_crash_iff]
    exact contextExportKeys_keeps m args errno created op
  | genkey created op res =>
    rw [none_or]
    exact contextGenkey_keeps m args errno created op res
  | delete op => exact iff_of_true (contextDelete_keeps m args errno op) (by simp)
  | edit warning created op =>
    rw [none_or]
    exact editWith_keeps m args errno rfl _ warning created op
  | cardEdit warning created op =>
    rw [none_or]
    exact editWith_keeps m args errno rfl _ warning created op
  | keylist op =>
    rw [or_false, ← keylistArgs_crash_iff]
    exact contextKeylist_keeps m args errno op

/-- For every setter and every method, whatever it is given and whatever gpgme, the
callbacks and the warning filter do: the convention is kept exactly when the inputs
are none of those named above. -/
theorem error_convention_iff (m : Module) (errno : Int) :
    (∀ (setter : Setter) (value : Option PyObject),
      SetterKeeps (setter.set m.toModState value) (called errno) ↔ ¬ setterBreaks value setter) ∧
    ∀ (method : Method) (args : List PyObject),
      MethodKeeps (method.call m args) (called errno) ↔ ¬ methodBreaks args method :=
  ⟨fun setter value => setter_keeps_iff m.toModState setter value errno,
    fun method args => method_keeps_iff m method args errno⟩

/-- `ctx.sender = "\ud800"`: gpgme is called with NULL while the `UnicodeEncodeError`
is pending, and 0 is returned. -/
theorem surrogate_sender_not_reported :
    ¬ SetterKeeps (contextSetSender ErrorCodes.plainState noError (some (.str [0xd800])))
      (called 0) := by
  have lone : encodable [0xd800] = false := by decide
  simp [contextSetSender, encodeUtf8, lone, setSenderAddress, Kept, called, changes]

end Pygpgme.Guarantees.ErrorConvention
