import Pygpgme.Library.Generator
import Pygpgme.Source.Error

/-!
# Key editors

gpgme/editutil.py: the decorator `key_editor` and the generators `edit_trust` and
`edit_sign`, with the `Status` enum of lib/pygpgme-constants.c and what
`pygpgme_edit_cb` of lib/pygpgme-context.c does before and after it calls Python. A
generator is described by where it is suspended; its `assert` statements are executed.
-/

set_option autoImplicit false

namespace Pygpgme.Source.KeyEdit
open Pygpgme.Library.Generator Pygpgme.Library.Program
open Pygpgme.Source.Python Pygpgme.Source.Error

/-! ## What the engine reports -/

/-- `gpgme.Status`; `other` is a number that the enum does not have. -/
inductive Status where
  | eof | enter | leave | abort | goodsig | badsig | errsig | badarmor | rsaOrIdea
  | keyexpired | keyrevoked | trustUndefined | trustNever | trustMarginal | trustFully
  | trustUltimate | shmInfo | shmGet | shmGetBool | shmGetHidden | needPassphrase | validsig
  | sigId | encTo | nodata | badPassphrase | noPubkey | noSeckey | needPassphraseSym
  | decryptionFailed | decryptionOkay | missingPassphrase | goodPassphrase | goodmdc | badmdc
  | errmdc | imported | importOk | importProblem | importRes | fileStart | fileDone
  | fileError | beginDecryption | endDecryption | beginEncryption | endEncryption
  | deleteProblem | getBool | getLine | getHidden | gotIt | progress | sigCreated
  | sessionKey | notationName | notationData | policyUrl | beginStream | endStream
  | keyCreated | useridHint | unexpected | invRecp | noRecp | alreadySigned | sigexpired
  | expsig | expkeysig | truncated | error | newsig | revkeysig | sigSubpacket
  | needPassphrasePin | scOpFailure | scOpSuccess | cardctrl | backupKeyCreated
  | pkaTrustBad | pkaTrustGood | plaintext | invSgnr | noSgnr | success | decryptionInfo
  | plaintextLength | mountpoint | pinentryLaunched | attributes | beginSigning
  | keyNotCreated | inquireMaxlen | failure | keyConsidered | tofuUser | tofuStats
  | tofuStatsLong | notationFlags | decryptionComplianceMode | verificationComplianceMode
  | canceledByUser
  | other (code : Int)
  deriving DecidableEq, Repr

/-- An `errno` that comes with a failure. -/
structure Errno where
  value : Int
  positive : 0 < value
  isInt : value ≤ intMax

/-- How `os.write` on the descriptor of an event ends. -/
inductive WriteOutcome where
  | written
  | failed (errno : Errno)

/-- What gpgme passes to `pygpgme_edit_cb`, and how a write on its descriptor would end. -/
structure StatusLine where
  status : Status
  args : Option Bytes
  write : WriteOutcome

/-- One call of the edit callback. -/
structure Event where
  status : Status
  args : Option String
  write : WriteOutcome

/-- The "z" of `PyObject_CallFunction`: strict UTF-8, and NULL becomes `None`. -/
def decodeArgs : Option Bytes → Option (Option String)
  | none => some none
  | some data => (String.fromUTF8? ⟨data.toArray⟩).map some

/-- The call that a status line becomes, unless its `args` cannot be decoded. -/
def StatusLine.event (line : StatusLine) : Option Event :=
  (decodeArgs line.args).map fun args => ⟨line.status, args, line.write⟩

/-- The calls of the edit callback. -/
def delivered (lines : List StatusLine) : List Event := lines.filterMap StatusLine.event

def stringBytes (text : String) : Bytes := text.toByteArray.data.toList

theorem stringBytes_inj {first second : String} :
    stringBytes first = stringBytes second ↔ first = second := by
  refine ⟨fun same => String.toByteArray_inj.mp ?_, congrArg stringBytes⟩
  exact ByteArray.ext (Array.toList_inj.mp same)

/-- No two byte strings are decoded to the same text. -/
theorem decodeArgs_eq_some {text : String} {args : Option Bytes} :
    decodeArgs args = some (some text) ↔ args = some (stringBytes text) := by
  cases args with
  | none => simp [decodeArgs]
  | some data =>
    simp only [decodeArgs, Option.map_eq_some_iff, Option.some.injEq, exists_eq_right]
    unfold String.fromUTF8? stringBytes
    constructor
    · intro decoded
      split at decoded
      · cases decoded
        rfl
      · cases decoded
    · rintro rfl
      have valid := text.isValidUTF8
      simp [valid, String.fromUTF8]

@[simp] theorem event_stringBytes (status : Status) (text : String) (write : WriteOutcome) :
    StatusLine.event ⟨status, some (stringBytes text), write⟩ =
      some ⟨status, some text, write⟩ := by
  rw [StatusLine.event, decodeArgs_eq_some.mpr rfl, Option.map_some]

/-! ## The generators -/

/-- What the generators and the callback raise, and a line that cannot be decoded. -/
inductive EditError where
  /-- An `assert` that failed. -/
  | assertion
  /-- `AssertionError("Unexpected state …")`, with what its text shows. -/
  | unexpectedState (status : Status) (args : Option String)
  /-- `GpgmeError(ErrSource.UNKNOWN, ErrCode.GENERAL)` -/
  | general
  | unicodeDecode
  | unicodeEncode
  | osError (errno : Errno)

def assertionError : ExcClass := .other false false false

/-- The text of an `OSError` is that of its `errno`, and nothing here reads it. -/
def EditError.toExc : EditError → PyExc
  | .assertion => ⟨assertionError, [], []⟩
  | .unexpectedState _ _ => excString assertionError "Unexpected state"
  | .general => ⟨.gpgmeError, [.member "ErrSource" 0, .member "ErrCode" 1], []⟩
  | .unicodeDecode => ⟨.unicodeDecodeError, [], []⟩
  | .unicodeEncode => ⟨.unicodeEncodeError, [], []⟩
  | .osError errno => ⟨.osError, [.int errno.value, .str []], []⟩

/-- What is sent into a generator. -/
abbrev Message := Status × Option String

abbrev KeyEditorGen (π : Type) := Body π Message (Option String) EditError

/-- `'%d\n' % n` -/
def number (n : Int) : String := toString n ++ "\n"

/-- `assert args == prompt`, followed by `yield reply`. -/
def answer {π : Type} (prompt : String) (args : Option String) (reply : String) (next : π) :
    Resumed π (Option String) EditError :=
  if args = some prompt then .yields (some reply) next else .raises .assertion

/-- `gpgme.Validity`, without `UNKNOWN`. -/
def acceptedTrust : List Int := [1, 2, 3, 4, 5]

/-- An argument of `edit_trust` that it does not refuse. -/
structure TrustArgs where
  trust : Int
  accepted : trust ∈ acceptedTrust

/-- `edit_trust` up to its first `yield` -/
def editTrustStart (trust : Int) : Except PyExc TrustArgs :=
  if accepted : trust ∈ acceptedTrust then .ok ⟨trust, accepted⟩
  else .error (excString .valueError ("Bad trust value " ++ toString trust))

/-- The `yield` at which the generator is suspended, by what it answered there. -/
inductive TrustYield where
  | started | trust | value | ultimate | quit | save
  deriving DecidableEq, Repr

def editTrust (a : TrustArgs) : KeyEditorGen TrustYield
  | .started, (_, args) => answer "keyedit.prompt" args "trust\n" .trust
  | .trust, (_, args) => answer "edit_ownertrust.value" args (number a.trust) .value
  | .value, (_, args) =>
    if args = some "edit_ownertrust.set_ultimate.okay" then .yields (some "Y\n") .ultimate
    else answer "keyedit.prompt" args "quit\n" .quit
  | .ultimate, (_, args) => answer "keyedit.prompt" args "quit\n" .quit
  | .quit, (_, args) => answer "keyedit.save.okay" args "Y\n" .save
  | .save, _ => .returns

/-- Arguments of `edit_sign` that it does not refuse, for a key with `uids` user IDs. -/
structure SignArgs where
  index : Int
  isLocal : Bool
  norevoke : Bool
  expire : Bool
  check : Int
  uids : Nat
  inRange : ¬ (index < 0 ∨ uids < index)
  checked : check ∈ [0, 1, 2, 3]

/-- `edit_sign` up to its first `yield` -/
def editSignStart (uids : Nat) (index : Int) (isLocal norevoke expire : Bool) (check : Int) :
    Except PyExc SignArgs :=
  if inRange : index < 0 ∨ uids < index then
    .error (excString .valueError "user ID index out of range")
  else if checked : check ∈ [0, 1, 2, 3] then
    .ok ⟨index, isLocal, norevoke, expire, check, uids, inRange, checked⟩
  else .error (excString .valueError "check must be one of 0, 1, 2, 3")

def SignArgs.command (a : SignArgs) : String :=
  let command := "sign"
  let command := if a.isLocal then "l" ++ command else command
  if a.norevoke then "nr" ++ command else command

/-- At the `yield` of the command and at those of the loop, the generator goes on with
the test of the loop. -/
inductive SignYield where
  | started | uid | signing | quit | save
  deriving DecidableEq, Repr

def editSign (a : SignArgs) : KeyEditorGen SignYield
  | .started, (_, args) => answer "keyedit.prompt" args ("uid " ++ number a.index) .uid
  | .uid, (_, args) => answer "keyedit.prompt" args (a.command ++ "\n") .signing
  | .signing, (status, args) =>
    if args ≠ some "keyedit.prompt" then
      if args = some "keyedit.sign_all.okay" then .yields (some "Y\n") .signing
      else if args = some "sign_uid.expire" then
        .yields (some ((if a.expire then "Y" else "N") ++ "\n")) .signing
      else if args = some "sign_uid.class" then .yields (some (number a.check)) .signing
      else if args = some "sign_uid.okay" then .yields (some "Y\n") .signing
      else .raises (.unexpectedState status args)
    else .yields (some "quit\n") .quit
  | .quit, (_, args) => answer "keyedit.save.okay" args "Y\n" .save
  | .save, _ => .returns

/-! ## The decorator -/

/-- The statuses that `edit_callback` returns at. -/
def ignored : List Status :=
  [.eof, .gotIt, .needPassphrase, .goodPassphrase, .badPassphrase, .useridHint, .sigexpired,
    .keyexpired, .progress, .keyCreated, .alreadySigned, .keyConsidered]

/-- What one call of the callback writes and raises. -/
structure Answer where
  written : Bytes
  raised : Option EditError

def silent : Answer := ⟨[], none⟩

def refuse (e : EditError) : Answer := ⟨[], some e⟩

/-- `data.encode('ASCII')` -/
def encodeAscii (data : String) : Option Bytes :=
  if data.toList.all (·.toNat < 128) then some (data.toList.map fun c => UInt8.ofNat c.toNat)
  else none

/-- `os.write`; the replies are far shorter than what a pipe takes in one piece. -/
def osWrite (ev : Event) (data : Bytes) : Answer :=
  match ev.write with
  | .written => ⟨data, none⟩
  | .failed errno => refuse (.osError errno)

def writeReply (ev : Event) (data : String) : Answer :=
  match encodeAscii data with
  | some bytes => osWrite ev bytes
  | none => refuse .unicodeEncode

variable {π : Type}

/-- What `edit_callback` does with how `gen.send` ended. -/
def answerSent (ev : Event) : Sent (Option String) EditError → Answer
  | .stopIteration => refuse .general
  | .raised e => refuse e
  | .value none => silent
  | .value (some data) => writeReply ev data

def editCallback (gen : KeyEditorGen π) (at_ : Option π) (ev : Event) : Answer × Option π :=
  if ev.status ∈ ignored then (silent, at_)
  else
    let sent := send gen at_ (ev.status, ev.args)
    (answerSent ev sent.1, sent.2)

/-- The callback, called for one event after the other. -/
def deliver (gen : KeyEditorGen π) : Option π → List Event → List Answer
  | _, [] => []
  | at_, ev :: rest =>
    let called := editCallback gen at_ ev
    called.1 :: deliver gen called.2 rest

/-! ## The operation -/

/-- `pygpgme_edit_cb`, up to what it returns to gpgme: a line that cannot be decoded never
reaches the generator. -/
def passLine (gen : KeyEditorGen π) (at_ : Option π) (line : StatusLine) : Answer × Option π :=
  match line.event with
  | some ev => editCallback gen at_ ev
  | none => (refuse .unicodeDecode, at_)

def passLines (gen : KeyEditorGen π) : Option π → List StatusLine → List Answer
  | _, [] => []
  | at_, line :: rest =>
    let called := passLine gen at_ line
    called.1 :: passLines gen called.2 rest

def Answer.outcome (a : Answer) : Except PyExc PyObject :=
  match a.raised with
  | none => .ok .none
  | some e => .error e.toExc

/-- What `pygpgme_edit_cb` returns. -/
def Answer.code (state : ModState) (a : Answer) : GpgError :=
  match a.raised with
  | none => noError
  | some e => pyerrorCode state e.toExc

/-- The callback of the interpreter returns that code and leaves nothing pending. -/
theorem editCb_outcome (state : ModState) (statusType : IntEnum) (status : Int) (a : Answer)
    {s : Interp} (quiet : s.pending = none) :
    achieves (editCb state statusType status a.outcome) s fun err s' =>
      err = a.code state ∧ s'.pending = none := by
  cases raised : a.raised <;> simp [editCb, Answer.outcome, Answer.code, raised, quiet]

/-- `GPG_ERR_FALSE`: the callback did not handle the status. -/
def falseCode : BitVec 32 := 256

/-- `gpgme_op_edit`, from what its callbacks returned to what it returns itself. -/
structure OpEdit (state : ModState) where
  run : List GpgError → GpgError
  /-- Nothing but a callback makes it fail. -/
  succeeds : ∀ codes, (∀ code ∈ codes, code = noError) → run codes = noError
  /-- An error that a callback returned is not lost. -/
  reports : ∀ codes,
    (∃ code ∈ codes, errCode code ≠ 0 ∧ errCode code ≠ falseCode) → run codes ≠ noError
  /-- No `errno` has the code that says a status was not handled. -/
  handled : ∀ n, errCode (state.errnoCodes.code n) ≠ falseCode

/-- The function that the decorator makes of a generator that has been started; to
close the generator at the end changes nothing. -/
def keyEditor {state : ModState} (opEdit : OpEdit state) (gen : KeyEditorGen π) (start : π)
    (lines : List StatusLine) : Except PyExc Unit :=
  let err := opEdit.run ((passLines gen (some start) lines).map (·.code state))
  if err = noError then .ok () else .error (errorExc state err)

/-! ## Both editors -/

/-- One of the decorated functions, with arguments that it does not refuse. -/
inductive Editor where
  | trust (args : TrustArgs)
  | sign (args : SignArgs)

def Editor.Yield : Editor → Type
  | .trust _ => TrustYield
  | .sign _ => SignYield

def Editor.gen : (e : Editor) → KeyEditorGen e.Yield
  | .trust a => editTrust a
  | .sign a => editSign a

def Editor.started : (e : Editor) → e.Yield
  | .trust _ => TrustYield.started
  | .sign _ => SignYield.started

/-- What the callback does for each event. -/
def Editor.answers (e : Editor) (events : List Event) : List Answer :=
  deliver e.gen (some e.started) events

/-- How the decorated function ends. -/
def Editor.call (e : Editor) {state : ModState} (opEdit : OpEdit state)
    (lines : List StatusLine) : Except PyExc Unit :=
  keyEditor opEdit e.gen e.started lines

/-- The arguments of a decorated function, as its caller gives them. -/
inductive Arguments where
  | trust (trust : Int)
  | sign (uids : Nat) (index : Int) (isLocal norevoke expire : Bool) (check : Int)

/-- The decorated function up to where `gen.__next__()` returns. -/
def Arguments.start : Arguments → Except PyExc Editor
  | .trust value => (editTrustStart value).map .trust
  | .sign uids index isLocal norevoke expire check =>
    (editSignStart uids index isLocal norevoke expire check).map .sign

def Editor.arguments : Editor → Arguments
  | .trust a => .trust a.trust
  | .sign a => .sign a.uids a.index a.isLocal a.norevoke a.expire a.check

theorem editTrustStart_ok_iff (trust : Int) (a : TrustArgs) :
    editTrustStart trust = .ok a ↔ a.trust = trust := by
  unfold editTrustStart
  constructor
  · intro started
    split at started
    · cases started
      rfl
    · cases started
  · rintro rfl
    rw [dif_pos a.accepted]

theorem editSignStart_ok_iff (uids : Nat) (index : Int) (isLocal norevoke expire : Bool)
    (check : Int) (a : SignArgs) :
    editSignStart uids index isLocal norevoke expire check = .ok a ↔
      (Editor.sign a).arguments = .sign uids index isLocal norevoke expire check := by
  unfold editSignStart
  constructor
  · intro started
    split at started
    · cases started
    · split at started
      · cases started
        rfl
      · cases started
  · intro same
    cases same
    rw [dif_neg a.inRange, dif_pos a.checked]

/-- A generator is started with the arguments that were given, and every editor is one
that some arguments start. -/
theorem start_ok_iff (given : Arguments) (e : Editor) :
    given.start = .ok e ↔ e.arguments = given := by
  have mapped {α β : Type} (f : α → β) (x : Except PyExc α) (b : β) :
      x.map f = .ok b ↔ ∃ a, x = .ok a ∧ f a = b := by
    cases x <;> simp [Except.map]
  cases given with
  | trust value =>
    simp only [Arguments.start, mapped, editTrustStart_ok_iff]
    cases e <;> simp [Editor.arguments]
  | sign uids index isLocal norevoke expire check =>
    simp only [Arguments.start, mapped, editSignStart_ok_iff]
    cases e <;> simp [Editor.arguments]

/-! ## What the engine sees of them -/

section
variable {gen : KeyEditorGen π}

theorem editCallback_ignored {at_ : Option π} {ev : Event} (skipped : ev.status ∈ ignored) :
    editCallback gen at_ ev = (silent, at_) :=
  if_pos skipped

theorem editCallback_asked {at_ : Option π} {ev : Event} (asked : ev.status ∉ ignored) :
    editCallback gen at_ ev =
      (answerSent ev (send gen at_ (ev.status, ev.args)).1,
        (send gen at_ (ev.status, ev.args)).2) :=
  if_neg asked

/-- Where the generator is suspended after some events. -/
def settle (gen : KeyEditorGen π) : Option π → List Event → Option π
  | at_, [] => at_
  | at_, ev :: rest => settle gen (editCallback gen at_ ev).2 rest

theorem deliver_append (at_ : Option π) (before after : List Event) :
    deliver gen at_ (before ++ after) =
      deliver gen at_ before ++ deliver gen (settle gen at_ before) after := by
  induction before generalizing at_ with
  | nil => rfl
  | cons ev rest ih => simp only [List.cons_append, deliver, settle, ih]

theorem length_deliver (at_ : Option π) (events : List Event) :
    (deliver gen at_ events).length = events.length := by
  induction events generalizing at_ with
  | nil => rfl
  | cons ev rest ih => simp only [deliver, List.length_cons, ih]

/-- A line that is not delivered leaves the generator where it is. -/
theorem passLines_flatMap {β : Type} (f : Answer → List β) (nothing : f (refuse .unicodeDecode) = [])
    (at_ : Option π) (lines : List StatusLine) :
    (passLines gen at_ lines).flatMap f = (deliver gen at_ (delivered lines)).flatMap f := by
  induction lines generalizing at_ with
  | nil => rfl
  | cons line rest ih =>
    cases decoded : line.event with
    | none =>
      rw [passLines, passLine, decoded, List.flatMap_cons, nothing, ih, delivered, delivered,
        List.filterMap_cons, decoded, List.nil_append]
    | some ev =>
      rw [passLines, passLine, decoded, List.flatMap_cons, ih, delivered, delivered,
        List.filterMap_cons, decoded, deliver, List.flatMap_cons]

theorem passLines_unraised (at_ : Option π) (lines : List StatusLine) :
    (∀ a ∈ passLines gen at_ lines, a.raised = none) ↔
      (∀ line ∈ lines, line.event ≠ none) ∧
        ∀ a ∈ deliver gen at_ (delivered lines), a.raised = none := by
  induction lines generalizing at_ with
  | nil => simp [passLines, delivered, deliver]
  | cons line rest ih =>
    rw [passLines, passLine, delivered, List.filterMap_cons]
    cases decoded : line.event with
    | none => simp [decoded, refuse]
    | some ev =>
      simp only [List.mem_cons, forall_eq_or_imp, ih, decoded, deliver, delivered]
      tauto

theorem settle_append (at_ : Option π) (before after : List Event) :
    settle gen at_ (before ++ after) = settle gen (settle gen at_ before) after := by
  induction before generalizing at_ with
  | nil => rfl
  | cons ev rest ih => simp only [List.cons_append, settle, ih]

end

end Pygpgme.Source.KeyEdit
