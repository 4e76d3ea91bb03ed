import Pygpgme.Guarantees.ListSetters
import Pygpgme.Source.Attributes
import Pygpgme.Source.Entered

/-!
# The attributes of a Context are a record that threads read and write at once

What the attributes are for: a record with a value for each, which an assignment
replaces in one go and a getter shows, and which an operation works with from its
beginning to its end. The calls of gpgme that accessors make one by one, in any
interleaving, come to the same.
-/

set_option autoImplicit false

namespace Pygpgme.Guarantees.Attributes
open Pygpgme.Library.Program Pygpgme.Library.ListLog Pygpgme.Library.LockMachine
open Pygpgme.Library.Transition
open Pygpgme.Source.Threads (GpgmeFn Method)
open Pygpgme.Source.Python Pygpgme.Source.Error Pygpgme.Source.Data Pygpgme.Source.Results
open Pygpgme.Source.Setters Pygpgme.Source.SignLists Pygpgme.Source.Entered
open Pygpgme.Source.Attributes
open Pygpgme.Guarantees.ListSetters (Adds leadingKeys takenNotations passed encoded
  notationsKept signersAfter notationsAfter)

/-! ## The record -/

/-- The settings after an assignment: the attribute has a new value, or nothing has. -/
def assigned (g : Gpgme) (answers : Nat → GpgError) (s : Settings) :
    Attribute → Option PyObject → Settings
  | _, none => s
  | .number n, some value =>
    match value.index with
    | .ok v =>
      if FitsLong v ∧ (n.answer answers).getD noError = noError then
        s.store g n (n.converted v)
      else s
    | .error _ => s
  | .signers, some value =>
    match value.items with
    | .ok items => { s with signers := accepted (Adds answers) 0 (leadingKeys (visited items)) }
    | .error _ => s
  | .sigNotations, some value =>
    match value.items with
    | .ok items => { s with notations := (takenNotations answers 0 (visited items)).map passed }
    | .error _ => s
  | .sender, some .none =>
    if answers 0 = noError then { s with sender := g.address none } else s
  | .sender, some (.str text) =>
    if answers 0 = noError then { s with sender := g.address ((encoded text).map cString) } else s
  | .sender, some _ => s

variable (m : ModuleState)

def shownNumber : Number → Int → PyObject
  | .protocol, value => m.protocolType.value value
  | .armor, value | .textmode, value | .offline, value => bool (value ≠ 0)
  | .includeCerts, value => .int value
  | .keylistMode, value => m.keylistModeType.value value
  | .pinentryMode, value => m.pinentryModeType.value value

/-- What reading an attribute gives; of the signers, as many as are asked for. -/
def shown (s : Settings) : Getter → Except PyExc PyObject
  | .number n => .ok (shownNumber m n (s.number n))
  | .signers calls => .ok (.tuple ((s.signers.take calls).map .key))
  | .sigNotations =>
    .ok (.tuple (s.notations.map fun raw => .sigNotation (some (notationNew m.toModule raw))))
  | .sender =>
    match s.sender with
    | none => .ok .none
    | some address => decodeUtf8 address

def attributeOf : Getter → Attribute
  | .number n => .number n
  | .signers _ => .signers
  | .sigNotations => .sigNotations
  | .sender => .sender

section
variable {Tid : Type} [DecidableEq Tid] {state : ModState} (g : Gpgme)

/-- A whole call. An operation works with the same settings from its beginning to its end. -/
def effect (t : Tid) (x : Contents Tid) : Call state → Contents Tid
  | .assign a _ => { x with settings := assigned g a.answers x.settings a.attr a.value }
  | .get getter _ => x.see t (.got (attributeOf getter) (some (shown m x.settings getter)))
  | .operation method _ _ =>
    (x.see t (.started method x.settings)).see t (.finished method x.settings)

structure Record (state : ModState) (Tid : Type) where
  todo : Tid → List (Call state)
  contents : Contents Tid

def recordStep (r : Record state Tid) (t : Tid) : Option (Record state Tid) :=
  match r.todo t with
  | [] => none
  | c :: later => some ⟨Function.update r.todo t later, effect m g t r.contents c⟩

/-- The calls that are not refused before they touch the record. -/
def locking (calls : List (Call state)) : List (Call state) :=
  calls.filter fun c => !c.acts.isEmpty

def recordStart (settings : Settings) (prog : Tid → List (Call state)) : Record state Tid :=
  ⟨fun t => locking (prog t), settings, fun _ => []⟩

/-- Thread after thread makes its next call, which happens at once. -/
def record (settings : Settings) (prog : Tid → List (Call state)) :
    System (Record state Tid) Tid where
  init := fun r => r = recordStart settings prog
  step := recordStep m g

end

/-! ## What the calls of a setter come to -/

/-- The settings after the functions entered, the latest first. -/
def replayed (g : Gpgme) (answers : Nat → GpgError) (s : Settings) (entered : List Entry) :
    Settings :=
  (answered answers entered).foldr g.call s

variable {state : ModState} (g : Gpgme) (answers : Nat → GpgError) (s : Settings)

theorem calls_replayed (a : Assignment state) :
    a.calls.foldl (fun s c => g.call c s) s = replayed g a.answers s a.outcome.2.entered := by
  rw [Assignment.calls, List.foldl_reverse]
  rfl

theorem setInteger_entered (fn : GpgmeFn) (convert : Int → Int) (ret : Option GpgError)
    (value : PyObject) :
    achieves (setInteger state fn convert ret (some value)) Interp.clean fun _ s' =>
      s'.entered = match value.index with
        | .ok v => if FitsLong v then [⟨fn, [.int (convert v)], false⟩] else []
        | .error _ => [] := by
  unfold setInteger asLong
  cases index : value.index with
  | error cls => simp [index, Interp.clean]
  | ok v =>
    by_cases fits : FitsLong v
    · cases ret with
      | none => simp [index, fits, Interp.clean]
      | some err => by_cases success : err = noError <;> simp [index, fits, Interp.clean, success]
    · simp [index, fits, Interp.clean]

/-- How the entries of the signers' list are answered. -/
theorem replayed_signers {entered : List Entry}
    (only : ∀ e ∈ entered, (signerCall e).isSome = true) :
    replayed g answers s entered =
        { s with signers := (replay (Adds answers) signerCall ⟨s.signers, 0⟩ entered).items } ∧
      asked entered = (replay (Adds answers) signerCall ⟨s.signers, 0⟩ entered).asked := by
  induction entered with
  | nil => exact ⟨rfl, rfl⟩
  | cons e earlier ih =>
    obtain ⟨same, count⟩ := ih fun e mem => only e (List.mem_cons_of_mem _ mem)
    have own := only e List.mem_cons_self
    unfold replayed answered
    rw [List.foldr_cons, ← replayed, same]
    obtain ⟨fn, args, pending⟩ := e
    unfold signerCall at own
    split at own
    next same' =>
      cases same'
      simp [replay, signerCall, Kept.call, g.signersClear, void, asked] at count ⊢
      exact count
    next handle same' =>
      cases same'
      rw [g.call_eq (g.signersAdd _)]
      simp [replay, signerCall, Kept.call, void, asked, Adds] at count ⊢
      simp [count]
      split <;> rfl
    next => cases own

/-- The same for the notations. -/
theorem replayed_notations {entered : List Entry}
    (only : ∀ e ∈ entered, (notationCall e).isSome = true) :
    replayed g answers s entered =
        { s with notations := (notationsKept answers ⟨s.notations, 0⟩ entered).items } ∧
      asked entered = (notationsKept answers ⟨s.notations, 0⟩ entered).asked := by
  induction entered with
  | nil => exact ⟨rfl, rfl⟩
  | cons e earlier ih =>
    obtain ⟨same, count⟩ := ih fun e mem => only e (List.mem_cons_of_mem _ mem)
    have own := only e List.mem_cons_self
    unfold replayed answered
    rw [List.foldr_cons, ← replayed, same]
    obtain ⟨fn, args, pending⟩ := e
    unfold notationCall at own
    split at own
    next same' =>
      cases same'
      simp [notationsKept, replay, notationCall, Kept.call, g.sigNotationClear, void, asked]
        at count ⊢
      exact count
    next name value flags same' =>
      cases same'
      rw [g.call_eq (g.sigNotationAdd _ _ _)]
      simp [notationsKept, replay, notationCall, Kept.call, void, asked, Adds] at count ⊢
      simp [count]
      split <;> rfl
    next => cases own

/-! One attribute after the other -/

theorem replayed_number (n : Number) (v : Int) :
    replayed g answers s [⟨n.fn, [.int v], false⟩] =
      if (n.answer answers).getD noError = noError then s.store g n v else s := by
  have accepted := g.call_eq (g.setNumber n v)
  unfold replayed answered
  rw [List.foldr_cons, accepted]
  cases n <;> rfl

theorem number_assigned (a : Assignment state) {n : Number} (attr : a.attr = .number n) :
    replayed g a.answers s a.outcome.2.entered = assigned g a.answers s (.number n) a.value := by
  have made := a.made
  rw [attr, Attribute.set_number] at made
  cases given : a.value with
  | none =>
    rw [given] at made
    have nothing : a.outcome.2.entered = [] := made (fun _ s' => s'.entered = [])
      (by simp [setInteger, canNotDelete, Interp.clean])
    rw [nothing]
    rfl
  | some value =>
    rw [given] at made
    have entered := made _ (setInteger_entered n.fn n.converted (n.answer a.answers) value)
    rw [entered, assigned]
    cases value.index with
    | error cls => rfl
    | ok v =>
      by_cases fits : FitsLong v
      · simp only [fits, if_true, true_and]
        exact replayed_number g a.answers s n (n.converted v)
      · simp only [fits, if_false, false_and]
        rfl

theorem enters_signers (value : Option PyObject) :
    Enters (fun e => (signerCall e).isSome = true) (contextSetSigners value) := by
  cases value with
  | none => exact enters_canNotDelete
  | some value =>
    refine (enters_convert _).bind fun found => ?_
    cases found with
    | none => exact enters_pure _
    | some items =>
      refine (enters_gpgme fun _ => rfl).bind fun _ => ?_
      exact enters_addSigners (fun _ _ => rfl) _

theorem enters_notations (rets : Nat → GpgError) (value : Option PyObject) :
    Enters (fun e => (notationCall e).isSome = true) (contextSetSigNotations state rets value) := by
  cases value with
  | none => exact enters_canNotDelete
  | some value =>
    refine (enters_convert _).bind fun found => ?_
    cases found with
    | none => exact enters_pure _
    | some items =>
      refine (enters_gpgme fun _ => rfl).bind fun _ => ?_
      exact enters_addNotations (fun _ _ _ _ => rfl) _ _ _ _

theorem signers_assigned (a : Assignment state) (attr : a.attr = .signers) :
    replayed g a.answers s a.outcome.2.entered = assigned g a.answers s .signers a.value := by
  have made := a.made
  have ran := a.ran
  rw [attr] at made ran
  have only : ∀ e ∈ a.outcome.2.entered, (signerCall e).isSome = true :=
    (enters_signers a.value).entered rfl ran
  rw [(replayed_signers g a.answers s only).1]
  cases given : a.value with
  | none =>
    rw [given] at made
    have nothing := made (fun _ s' => s'.entered = [])
      (by simp [Attribute.setter, Setter.set, contextSetSigners, canNotDelete, Interp.clean])
    simp [nothing, assigned, replay]
  | some value =>
    rw [given] at made
    cases found : value.items with
    | error stop =>
      have nothing : a.outcome.2.entered = [] := by
        cases stop with
        | crash =>
          have survived := (achieves_of_run ran fun _ _ => True).mpr trivial
          simp [given, Attribute.setter, Setter.set, contextSetSigners, sequenceFast, found,
            Except.mapError, Stop.named] at survived
        | raised e =>
          exact made (fun _ s' => s'.entered = [])
            (by simp [Attribute.setter, Setter.set, contextSetSigners, sequenceFast, found,
              Except.mapError, Stop.named, Interp.clean])
      simp [nothing, assigned, found, replay]
    | ok items =>
      have kept := made _ (ListSetters.signers_assigned a.answers found s.signers 0)
      simp only [assigned, found, ← kept.2]
      rfl

theorem notations_assigned (a : Assignment state) (attr : a.attr = .sigNotations) :
    replayed g a.answers s a.outcome.2.entered =
      assigned g a.answers s .sigNotations a.value := by
  have made := a.made
  have ran := a.ran
  rw [attr] at made ran
  have only : ∀ e ∈ a.outcome.2.entered, (notationCall e).isSome = true :=
    (enters_notations a.answers a.value).entered rfl ran
  rw [(replayed_notations g a.answers s only).1]
  cases given : a.value with
  | none =>
    rw [given] at made
    have nothing := made (fun _ s' => s'.entered = [])
      (by simp [Attribute.setter, Setter.set, contextSetSigNotations, canNotDelete,
        Interp.clean])
    simp [nothing, assigned, notationsKept, replay]
  | some value =>
    rw [given] at made ran
    cases found : value.items with
    | error stop =>
      have nothing : a.outcome.2.entered = [] := by
        cases stop with
        | crash =>
          have survived := (achieves_of_run ran fun _ _ => True).mpr trivial
          simp [Attribute.setter, Setter.set, contextSetSigNotations, sequenceFast, found,
            Except.mapError, Stop.named] at survived
        | raised e =>
          exact made (fun _ s' => s'.entered = [])
            (by simp [Attribute.setter, Setter.set, contextSetSigNotations, sequenceFast, found,
              Except.mapError, Stop.named, Interp.clean])
      simp [nothing, assigned, found, notationsKept, replay]
    | ok items =>
      have initialised : (visited items)[(takenNotations a.answers 0 (visited items)).length]? ≠
          some (.sigNotation none) := by
        intro uninitialised
        refine ListSetters.notations_crash a.answers state found Interp.clean
          (fun _ _ => True) uninitialised ?_
        exact (achieves_of_run ran _).mpr trivial
      have kept := made _
        (ListSetters.notations_assigned a.answers state found s.notations 0 initialised)
      simp only [assigned, found, ← kept.2]
      rfl

/-- The address that is set, also where the text has none. -/
def senderAddress : PyObject → Option (Option Bytes)
  | .none => some none
  | .str text => some ((encoded text).map cString)
  | _ => none

theorem setSenderAddress_entered (ret : GpgError) (address : Option Bytes) (i : Interp) :
    achieves (setSenderAddress state ret address) i fun _ s' => s'.entered =
      ⟨.setSender, [.string (address.map cString)], i.pending.isSome⟩ :: i.entered := by
  unfold setSenderAddress
  rw [achieves_bind, achieves_gpgme, achieves_bind, achieves_checkError]
  split
  · simp
  · split <;> simp

/-- Only a string or `None` gets as far as gpgme. -/
theorem sender_entered (ret : GpgError) (value : PyObject) :
    achieves (contextSetSender state ret (some value)) Interp.clean fun _ s' =>
      match senderAddress value with
      | some address => ∃ pending, s'.entered = [⟨.setSender, [.string address], pending⟩]
      | none => s'.entered = [] := by
  cases value with
  | none =>
    apply achieves_mono (setSenderAddress_entered ret none Interp.clean)
    exact fun _ s' entered' => ⟨false, entered'⟩
  | str text =>
    have encoded_eq : ∀ i : Interp, achieves (attempt (encodeUtf8 text)) i fun address s' =>
        address = encoded text ∧ s'.entered = i.entered := by
      intro i
      cases encodes : encodable text <;> simp [encodeUtf8, encoded, encodes]
    refine achieves_bind_of (encoded_eq Interp.clean) ?_
    rintro address s₁ ⟨rfl, entered₁⟩
    apply achieves_mono (setSenderAddress_entered ret (encoded text) s₁)
    intro _ s' entered'
    rw [entered₁] at entered'
    exact ⟨s₁.pending.isSome, entered'⟩
  | _ => simp [contextSetSender, senderAddress, Interp.clean]

theorem sender_assigned (a : Assignment state) (attr : a.attr = .sender) :
    replayed g a.answers s a.outcome.2.entered = assigned g a.answers s .sender a.value := by
  have made := a.made
  rw [attr] at made
  cases given : a.value with
  | none =>
    rw [given] at made
    have nothing := made (fun _ s' => s'.entered = [])
      (by simp [Attribute.setter, Setter.set, contextSetSender, canNotDelete, Interp.clean])
    rw [nothing]
    rfl
  | some value =>
    rw [given] at made
    have entered := made _ (sender_entered (a.answers 0) value)
    cases value with
    | none =>
      obtain ⟨pending, called⟩ := entered
      rw [called]
      exact g.call_eq (g.setSender none) (a.answers 0) s
    | str text =>
      obtain ⟨pending, called⟩ := entered
      rw [called]
      exact g.call_eq (g.setSender _) (a.answers 0) s
    | _ =>
      rw [entered]
      rfl

/-- The gpgme functions a setter calls make of the settings what the record says. -/
theorem assigned_replayed (a : Assignment state) :
    replayed g a.answers s a.outcome.2.entered = assigned g a.answers s a.attr a.value := by
  cases attr : a.attr with
  | number n => exact number_assigned g s a attr
  | signers => exact signers_assigned g s a attr
  | sigNotations => exact notations_assigned g s a attr
  | sender => exact sender_assigned g s a attr

/-! ## What the steps of a call come to -/

variable (m : ModuleState)

theorem ended_ok {p : Py (Option PyObject)} {o : PyObject}
    (h : achieves p Interp.clean fun r _ => r = some o) : ended p = some (.ok o) := by
  obtain ⟨r, s', ran, rfl⟩ := h
  simp [ended, ran]

theorem ended_get (n : Number) (value : Int) :
    ended (n.get m value) = some (.ok (shownNumber m n value)) := by
  apply ended_ok
  cases n <;> simp [Number.get, contextGetProtocol, contextGetArmor, contextGetTextmode,
    contextGetOffline, contextGetIncludeCerts, contextGetKeylistMode, contextGetPinentryMode,
    boolFromLong, shownNumber, Interp.clean]

theorem ended_error {p : Py (Option PyObject)} {e : PyExc}
    (h : achieves p Interp.clean fun r s => r = none ∧ s.pending = some e) :
    ended p = some (.error e) := by
  obtain ⟨r, s', ran, rfl, raised⟩ := h
  simp [ended, ran, raised]

theorem ended_sender (s : Settings) :
    ended (contextGetSender s.sender) = some (shown m s .sender) := by
  unfold shown
  cases s.sender with
  | none => rfl
  | some address =>
    change ended (attempt (decodeUtf8 address)) = some (decodeUtf8 address)
    cases decodeUtf8 address with
    | error e => exact ended_error (by simp)
    | ok o => exact ended_ok (by simp)

section
variable {Tid : Type} [DecidableEq Tid] (t : Tid) (x : Ctx Tid)

theorem perform_calls (calls : List Answered) :
    perform (Ctx.act m g) t (calls.map .call) x =
      { x with settings := calls.foldl (fun s c => g.call c s) x.settings } := by
  induction calls generalizing x with
  | nil => rfl
  | cons c calls ih => exact ih _

theorem perform_signersEnum (calls : Nat) :
    perform (Ctx.act m g) t ((List.range calls).map .signersEnum) x =
      { x with list := Function.update x.list t (x.list t ++ x.settings.signers.take calls) } := by
  induction calls with
  | zero => simp [perform]
  | succ calls ih =>
    rw [List.range_succ, List.map_append, perform_append, ih]
    simp [perform, Ctx.act, List.take_add_one]

theorem perform_getSigners (calls : Nat) :
    (perform (Ctx.act m g) t (Getter.signers calls).acts x).toContents =
      (x.see t (.got .signers (some (shown m x.settings (.signers calls))))).toContents := by
  change (perform (Ctx.act m g) t (_ ++ [.tuple]) (Ctx.act m g t .newList x)).toContents = _
  rw [perform_append, perform_signersEnum]
  have made : ∀ items, listed (.ok (.tuple items)) = some (.ok (.tuple items)) := fun _ => rfl
  simp [perform, Ctx.act, Ctx.see, Contents.see, contextGetSigners, sequenceTuple,
    PyObject.items, shown, made]

/-- A call, step by step, does what it does as a whole. -/
theorem perform_acts (c : Call state) :
    (perform (Ctx.act m g) t c.acts x).toContents = effect m g t x.toContents c := by
  cases c with
  | assign a pauses =>
    rw [Call.acts, perform_calls, calls_replayed, assigned_replayed]
    rfl
  | get getter pauses =>
    cases getter with
    | number n =>
      change (x.see t (.got _ (ended (n.get m (x.settings.number n))))).toContents = _
      rw [ended_get]
      rfl
    | signers calls => exact perform_getSigners g m t x calls
    | sigNotations => rfl
    | sender =>
      change (x.see t (.got .sender (ended (contextGetSender x.settings.sender)))).toContents = _
      rw [ended_sender]
      rfl
  | operation method callbacks after => rfl

end

/-! ## The critical sections -/

theorem switches_passive (n : Nat) : (switches n).all passive = true := by
  simp [switches, gilSwitch, passive]

theorem sections_paused (n : Nat) (acts : List Act) (rest : Code) :
    sections (acts.flatMap (fun a => .act a :: switches n) ++ rest) =
      (acts ++ (sections rest).1, (sections rest).2) := by
  induction acts with
  | nil => rfl
  | cons a acts ih =>
    simp only [List.flatMap_cons, List.cons_append, List.append_assoc, sections,
      sections_append_of_passive (switches_passive n), ih]

theorem sections_locked (p : Pauses) (acts : List Act) (rest : Code) :
    sections (locked p acts ++ rest) = ([], acts :: (sections rest).2) := by
  simp only [locked, List.append_assoc, List.cons_append, List.nil_append,
    sections_append_of_passive (switches_passive _), sections, sections_paused]
  simp

theorem sections_blocking (method : Method) (callbacks : List Nat) (after : Nat) (rest : Code) :
    sections (blocking method callbacks after ++ rest) =
      ([], [.enter method, .leave method] :: (sections rest).2) := by
  have quiet : (callbacks.flatMap callbackFrame).all passive = true := by
    rw [List.all_flatMap]
    simp [callbackFrame, switches_passive, passive]
  simp only [blocking, List.append_assoc, List.cons_append, List.nil_append, sections,
    sections_append_of_passive quiet, sections_append_of_passive (switches_passive _)]

theorem sections_calls (calls : List (Call state)) (rest : Code) :
    (sections (calls.flatMap Call.code ++ rest)).2 =
      (locking calls).map Call.acts ++ (sections rest).2 := by
  induction calls with
  | nil => rfl
  | cons c calls ih =>
    rw [List.flatMap_cons, List.append_assoc]
    cases c with
    | assign a p =>
      by_cases nothing : a.calls = []
      · simp [Call.code, nothing, sections_append_of_passive (switches_passive _), ih, locking, Call.acts]
      · simp [Call.code, nothing, sections_locked, ih, locking, Call.acts]
    | get getter p =>
      have some_ : getter.acts ≠ [] := by cases getter <;> simp [Getter.acts]
      simp [Call.code, sections_locked, ih, locking, Call.acts, some_]
    | operation method callbacks after =>
      simp [Call.code, sections_blocking, ih, locking, Call.acts]

/-- A thread's critical sections are those of its calls that are not refused before. -/
theorem sections_thread (calls : List (Call state)) :
    (sections (threadCode calls)).2 = (locking calls).map Call.acts := by
  have all := sections_calls calls [.saveThread]
  rw [threadCode, List.append_assoc]
  simpa [sections] using all

/-! ## The lock discipline -/

/-- Between two calls of a thread. -/
def python : View := ⟨true, .free, false⟩

theorem guarded_unconcerned : (Monitor.guarded : Monitor Act Unit).Unconcerned := by
  refine ⟨fun _ _ _ => rfl, fun v b i silent => ?_⟩
  rintro ⟨a, rfl⟩
  cases silent

theorem run_switches (hold : Hold) (n : Nat) :
    (⟨true, hold, false⟩ : View).run (switches n) = some ⟨true, hold, false⟩ := by
  induction n with
  | zero => rfl
  | succ n ih =>
    rw [switches, List.replicate_succ, List.flatten_cons, View.run_append]
    exact ih

theorem switches_quiet (n : Nat) : ∀ i ∈ switches n, quiet i = true := by
  intro i mem
  obtain ⟨once, copies, mem⟩ := List.mem_flatten.mp mem
  rw [List.eq_of_mem_replicate copies] at mem
  rcases List.mem_cons.mp mem with rfl | mem
  · rfl
  · rw [List.mem_singleton.mp mem]
    rfl

theorem passes_switches (hold : Hold) (n : Nat) :
    Monitor.guarded.Passes ⟨true, hold, false⟩ () (switches n) ⟨true, hold, false⟩ () :=
  .of_quiet guarded_unconcerned (switches_quiet n) (run_switches hold n) ()

theorem passes_acts (n : Nat) (acts : List Act) :
    Monitor.guarded.Passes ⟨true, .taken .plain, false⟩ ()
      (acts.flatMap fun a => .act a :: switches n) ⟨true, .taken .plain, false⟩ () := by
  induction acts with
  | nil => exact Monitor.Passes.nil _ _ _
  | cons a acts ih =>
    have taken : Monitor.guarded.Passes ⟨true, .taken .plain, false⟩ () [.act a]
        ⟨true, .taken .plain, false⟩ () := ⟨rfl, ⟨fun _ => by simp, trivial⟩, rfl⟩
    rw [List.flatMap_cons]
    exact (taken.append (passes_switches _ n)).append ih

theorem passes_locked (p : Pauses) (acts : List Act) :
    Monitor.guarded.Passes python () (locked p acts) python () := by
  have locks : Monitor.guarded.Passes python ()
      ([.saveThread, .acquire .plain, .restoreThread] : Code)
      ⟨true, .taken .plain, false⟩ () :=
    .of_quiet guarded_unconcerned (by decide) rfl ()
  have unlocks : Monitor.guarded.Passes ⟨true, .taken .plain, false⟩ () ([.release] : Code)
      python () := ⟨rfl, ⟨(fun ⟨_, act⟩ => by cases act), trivial⟩, rfl⟩
  exact ((((passes_switches _ _).append locks).append (passes_acts _ _)).append unlocks).append
    (passes_switches _ _)

theorem passes_callbacks (callbacks : List Nat) :
    Monitor.guarded.Passes ⟨false, .stored, true⟩ () (callbacks.flatMap callbackFrame)
      ⟨false, .stored, true⟩ () := by
  induction callbacks with
  | nil => exact Monitor.Passes.nil _ _ _
  | cons body callbacks ih =>
    have enters : Monitor.guarded.Passes ⟨false, .stored, true⟩ ()
        ([.assertState true, .loadState, .restoreThread] : Code) ⟨true, .stored, false⟩ () :=
      .of_quiet guarded_unconcerned (by decide) rfl ()
    have leaves : Monitor.guarded.Passes ⟨true, .stored, false⟩ ()
        ([.saveThread, .storeState] : Code) ⟨false, .stored, true⟩ () :=
      .of_quiet guarded_unconcerned (by decide) rfl ()
    rw [List.flatMap_cons]
    exact ((enters.append (passes_switches _ body)).append leaves).append ih

theorem passes_blocking (method : Method) (callbacks : List Nat) (after : Nat) :
    Monitor.guarded.Passes python () (blocking method callbacks after) python () := by
  have begins : Monitor.guarded.Passes python ()
      ([.saveThread, .acquire .blocking, .assertState false, .storeState,
        .act (.enter method)] : Code) ⟨false, .stored, true⟩ () :=
    ⟨rfl, by simp [Monitor.Along, Monitor.guarded, View.next, python, Hold.path], rfl⟩
  have ends : Monitor.guarded.Passes ⟨false, .stored, true⟩ ()
      ([.act (.leave method), .assertState true, .loadState, .restoreThread, .clearState,
        .release] : Code) python () :=
    ⟨rfl, by simp [Monitor.Along, Monitor.guarded, View.next], rfl⟩
  exact ((begins.append (passes_callbacks callbacks)).append ends).append (passes_switches _ _)

theorem passes_calls (calls : List (Call state)) :
    Monitor.guarded.Passes python () (calls.flatMap Call.code) python () := by
  induction calls with
  | nil => exact Monitor.Passes.nil _ _ _
  | cons c calls ih =>
    rw [List.flatMap_cons]
    refine Monitor.Passes.append ?_ ih
    cases c with
    | assign a p =>
      rw [Call.code]
      split
      · exact passes_switches _ _
      · exact passes_locked _ _
    | get getter p => exact passes_locked _ _
    | operation method callbacks after => exact passes_blocking _ _ _

theorem passes_thread (calls : List (Call state)) :
    Monitor.guarded.Passes View.idle () (threadCode calls) View.idle () := by
  have attaches : Monitor.guarded.Passes View.idle () ([.restoreThread] : Code) python () :=
    .of_quiet guarded_unconcerned (by decide) rfl ()
  have detaches : Monitor.guarded.Passes python () ([.saveThread] : Code) View.idle () :=
    .of_quiet guarded_unconcerned (by decide) rfl ()
  exact (attaches.append (passes_calls calls)).append detaches

theorem thread_follows (calls : List (Call state)) :
    Follows false View.idle (threadCode calls) := by
  have finished : Follows false View.idle ([] : Code) := ⟨rfl, rfl⟩
  simpa using finished.append (passes_thread calls).run

/-! ## Any interleaving -/

section
variable {Tid : Type} [DecidableEq Tid]

/-- Whole sections come to whole calls. -/
theorem record_of_atomic (settings : Settings) (prog : Tid → List (Call state))
    {todo : Tid → List (List Act)} {data : Ctx Tid} (order : List Tid)
    {a a' : Atomic Tid Act (Ctx Tid)} {r : Record state Tid}
    (same : ∀ t, a.todo t = (r.todo t).map Call.acts)
    (contents : a.data.toContents = r.contents)
    (ran : run (atomic (Ctx.act m g) todo data) a order = some a') :
    ∃ r', run (record m g settings prog) r order = some r' ∧
      a'.data.toContents = r'.contents := by
  induction order generalizing a r with
  | nil =>
    cases ran
    exact ⟨r, rfl, contents⟩
  | cons t order ih =>
    obtain ⟨mid, taken, continued⟩ := Option.bind_eq_some_iff.mp ran
    have first : atomicStep (Ctx.act m g) a t = some mid := taken
    unfold atomicStep at first
    cases next : r.todo t with
    | nil => simp [same, next] at first
    | cons c later =>
      simp only [same, next, List.map_cons, Option.some.injEq] at first
      subst first
      have moved : recordStep m g r t =
          some ⟨Function.update r.todo t later, effect m g t r.contents c⟩ := by
        simp [recordStep, next]
      obtain ⟨r', last, contents'⟩ := ih
        (r := ⟨Function.update r.todo t later, effect m g t r.contents c⟩)
        (fun u => by by_cases e : u = t <;> simp [e, same])
        (by rw [perform_acts, contents]) continued
      exact ⟨r', by simpa [run, record, moved] using last, contents'⟩

/-- Nothing that was seen is forgotten. -/
theorem perform_seen (t u : Tid) (acts : List Act) (x : Ctx Tid) :
    x.seen u <:+ (perform (Ctx.act m g) t acts x).seen u := by
  induction acts generalizing x with
  | nil => exact List.suffix_rfl
  | cons a acts ih =>
    have once : x.seen u <:+ (Ctx.act m g t a x).seen u := by
      by_cases e : u = t <;> cases a <;> simp [Ctx.act, Ctx.see, Contents.see, e]
    exact once.trans (ih _)

/-- Any number of threads that read and assign the attributes of one Context and run
operations on it: the order in which they take the mutex is one in which the calls
could have happened one after the other, each at once. When nobody has the mutex, the
settings and all that anybody was given are those of the record; at any time nobody
was given anything else. -/
theorem attributes_linearizable (settings : Settings) (prog : Tid → List (Call state))
    (sched : List Tid) (w : World Tid)
    (ran : run (context m g settings prog)
      (start (fun t => threadCode (prog t)) (Ctx.new settings)) sched = some w) :
    ∃ r, run (record m g settings prog) (recordStart settings prog)
        (acquisitions (Ctx.act m g)
          (start (fun t => threadCode (prog t)) (Ctx.new settings)) sched) = some r ∧
      (w.locked = false → w.data.toContents = r.contents) ∧
      ∀ t, w.data.seen t <:+ r.contents.seen t := by
  obtain ⟨a, moved, unlocked, locked⟩ := atomic_of_run (fun t => thread_follows (prog t))
    (fun t => (passes_thread (prog t)).along) sched ran
  obtain ⟨r, recorded, contents⟩ := record_of_atomic g m settings prog _
    (r := recordStart settings prog) (fun t => sections_thread (prog t)) rfl moved
  refine ⟨r, recorded, fun free => ?_, fun t => ?_⟩
  · rw [← contents, unlocked free]
  · rw [← contents]
    cases held : w.locked with
    | false =>
      simpa only [unlocked held] using List.suffix_rfl
    | true =>
      obtain ⟨u, ahead⟩ := locked held
      rw [ahead]
      exact perform_seen g m u t _ _

end

/-- A module state without members in its enumerations. -/
def plainState : ModuleState where
  errSourceType := ⟨"ErrSource", []⟩
  errCodeType := ⟨"ErrCode", []⟩
  strerror := fun _ => []
  errnoCodes := ⟨fun n => if n = 0 then noError else gpgmeError generalCode, rfl,
    fun n other => by rw [if_neg other]; decide⟩
  protocolType := ⟨"Protocol", []⟩
  sigModeType := ⟨"SigMode", []⟩
  pubkeyAlgoType := ⟨"PubkeyAlgo", []⟩
  hashAlgoType := ⟨"HashAlgo", []⟩
  sigsumType := ⟨"Sigsum", []⟩
  validityType := ⟨"Validity", []⟩
  importType := ⟨"Import", []⟩
  statusType := ⟨"Status", []⟩
  replaceAscii := fun _ => []
  replaceUtf8 := fun _ => []
  keylistModeType := ⟨"KeylistMode", []⟩
  pinentryModeType := ⟨"PinentryMode", []⟩

/-- One thread asks for armor, another reads the attribute. -/
def armorProg : Bool → List (Call plainState.toModState)
  | true => [.assign ⟨.number .armor, some (.int 1), fun _ => noError, rfl⟩ ⟨0, 0, 0⟩]
  | false => [.get (.number .armor) ⟨0, 0, 0⟩]

def unset : Settings := ⟨fun _ => 0, [], [], none⟩

def stored (n : Number) (value : Int) (s : Settings) : Settings :=
  { s with number := Function.update s.number n value }

/-- It stores what it is given. -/
def keepingCall (c : Answered) (s : Settings) : Settings :=
  if c.ret = noError then
    match c.fn, c.args with
    | .setProtocol, [.int value] => stored .protocol value s
    | .setArmor, [.int value] => stored .armor value s
    | .setTextmode, [.int value] => stored .textmode value s
    | .setOffline, [.int value] => stored .offline value s
    | .setIncludeCerts, [.int value] => stored .includeCerts value s
    | .setKeylistMode, [.int value] => stored .keylistMode value s
    | .setPinentryMode, [.int value] => stored .pinentryMode value s
    | .signersClear, [] => { s with signers := [] }
    | .signersAdd, [.key handle] => { s with signers := s.signers ++ [handle] }
    | .sigNotationClear, [] => { s with notations := [] }
    | .sigNotationAdd, [.string name, .string value, .int flags] =>
      { s with notations := s.notations ++ [⟨name, value.getD [], BitVec.ofInt 32 flags⟩] }
    | .setSender, [.string text] => { s with sender := text }
    | _, _ => s
  else s

def keeping : Gpgme where
  call := keepingCall
  stored := fun _ value => value
  address := id
  refused := fun _ _ refused => if_neg refused
  setNumber := fun n _ _ => by cases n <;> rfl
  signersClear := fun _ => rfl
  signersAdd := fun _ _ => rfl
  sigNotationClear := fun _ => rfl
  sigNotationAdd := fun _ _ _ _ => rfl
  setSender := fun _ _ => rfl

/-- The reader wants the mutex while the other thread has it. -/
theorem attributes_linearizable_armor : ∃ w : World Bool,
    w.data.seen false = [.got (.number .armor) (some (.ok (.int 1)))] ∧
      ∃ r, run (record plainState keeping unset armorProg) (recordStart unset armorProg)
          [true, false] = some r ∧
        (w.locked = false → w.data.toContents = r.contents) ∧
        ∀ t, w.data.seen t <:+ r.contents.seen t :=
  ⟨_, rfl, attributes_linearizable keeping plainState unset armorProg
    [true, true, true, false, false, true, true, true, false, true, false, false, false, false]
    ((run (context plainState keeping unset armorProg)
      (start (fun t => threadCode (armorProg t)) (Ctx.new unset))
      [true, true, true, false, false, true, true, true, false, true, false, false, false,
        false]).get rfl) rfl⟩

end Pygpgme.Guarantees.Attributes
