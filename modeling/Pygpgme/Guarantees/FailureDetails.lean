import Mathlib.Data.List.Forall2
import Pygpgme.Guarantees.ErrorCodes
import Pygpgme.Source.Pending

/-!
# What a failed operation tells about itself

The results gpgme leaves in the context are converted and attached to the exception.
What the attributes should say is read off the gpgme structures first; what they do say
is computed for an interpreter in which nothing is pending. `decrypt_verify` returns
before it gets to the signatures.
-/

set_option autoImplicit false

namespace Pygpgme.Guarantees.FailureDetails
open Pygpgme.Library.Program Pygpgme.Source
open Pygpgme.Source.Python Pygpgme.Source.Error Pygpgme.Source.Arguments
open Pygpgme.Source.Results Pygpgme.Source.Methods Pygpgme.Source.Pending
open Pygpgme.Guarantees.ErrorCodes (plainState)

/-! ## What the attributes should say

How bytes become text and what an error is called are parameters. -/

/-- The number, as a member of the enumeration where it has one. -/
def ShowsNumber (enum : IntEnum) (value : Int) (o : PyObject) : Prop :=
  o.long? = some value ∧ (value ∈ enum.members → o = .member enum.name value)

/-- `None` stands for NULL. -/
def ShowsText (decode : Bytes → List CodePoint) (text : Option Bytes) (o : PyObject) : Prop :=
  match text with
  | some text => o = .str (decode text)
  | none => o = .none

def ShowsBool (b : Bool) (o : PyObject) : Prop := o = .int (if b then 1 else 0)

/-- `None` for no error; otherwise a `GpgmeError` with the two fields of the error value
and its text. -/
def ShowsError (state : ModState) (err : GpgError) (o : PyObject) : Prop :=
  if err = noError then o = .none
  else ∃ e : PyExc, o = e.toObject ∧ e.cls = .gpgmeError ∧
    (∃ source, e.getAttr "source" = some source ∧
      ShowsNumber state.errSourceType (err.toNat / 2 ^ 24 % 2 ^ 7 : Nat) source) ∧
    (∃ code, e.getAttr "code" = some code ∧
      ShowsNumber state.errCodeType (err.toNat % 2 ^ 16 : Nat) code) ∧
    e.getAttr "strerror" = some (.str (state.strerror err))

/-- One object for each item, in order. -/
def ShowsList {α : Type} (shown : α → PyObject → Prop) (items : List α) (o : PyObject) : Prop :=
  ∃ objects, o = .list objects ∧ List.Forall₂ shown items objects

/-- An attribute of a record that is not NULL. -/
def HasAttr (o : PyObject) (name : String) (shown : PyObject → Prop) : Prop :=
  ∃ type fields value, o = .record type fields ∧ fields.lookup name = some (some value) ∧
    shown value

section
variable (m : Module)

/-- The pair of the fingerprint and the reason. -/
def ShowsInvalidKey (key : InvalidKey) (o : PyObject) : Prop :=
  ∃ fpr reason, o = .tuple [fpr, reason] ∧ ShowsText m.replaceAscii key.fpr fpr ∧
    ShowsError m.toModState key.reason reason

structure ShowsNewSig (sig : NewSig) (o : PyObject) : Prop where
  type : HasAttr o "type" (ShowsNumber m.sigModeType sig.type)
  pubkeyAlgo : HasAttr o "pubkey_algo" (ShowsNumber m.pubkeyAlgoType sig.pubkeyAlgo)
  hashAlgo : HasAttr o "hash_algo" (ShowsNumber m.hashAlgoType sig.hashAlgo)
  timestamp : HasAttr o "timestamp" (· = .int sig.timestamp)
  fpr : HasAttr o "fpr" (ShowsText m.replaceAscii sig.fpr)
  sigClass : HasAttr o "sig_class" (· = .int sig.sigClass)

/-- A notation for humans has text, any other has bytes. -/
def ShowsNotation (raw : RawNotation) (o : PyObject) : Prop :=
  ∃ item : SigNotation, o = .sigNotation (some item) ∧ item.flags = raw.flags ∧
    item.name = raw.name.map m.replaceUtf8 ∧
    item.value = if humanReadable raw.flags then .text (m.replaceUtf8 raw.value)
      else .data raw.value

structure ShowsSig (sig : Sig) (o : PyObject) : Prop where
  summary : HasAttr o "summary" (ShowsNumber m.sigsumType sig.summary)
  fpr : HasAttr o "fpr" (ShowsText m.replaceAscii sig.fpr)
  status : HasAttr o "status" (ShowsError m.toModState sig.status)
  notations : HasAttr o "notations" (ShowsList (ShowsNotation m) sig.notations)
  timestamp : HasAttr o "timestamp" (· = .int sig.timestamp)
  expTimestamp : HasAttr o "exp_timestamp" (· = .int sig.expTimestamp)
  wrongKeyUsage : HasAttr o "wrong_key_usage" (ShowsBool sig.wrongKeyUsage)
  validity : HasAttr o "validity" (ShowsNumber m.validityType sig.validity)
  validityReason : HasAttr o "validity_reason" (ShowsError m.toModState sig.validityReason)
  pubkeyAlgo : HasAttr o "pubkey_algo" (ShowsNumber m.pubkeyAlgoType sig.pubkeyAlgo)
  hashAlgo : HasAttr o "hash_algo" (ShowsNumber m.hashAlgoType sig.hashAlgo)

end

/-! ## What the conversions give -/

abbrev Quiet (s : Interp) : Prop := s.pending = none

/-- `None`, or an exception for the error. -/
def errorValue (state : ModState) (err : GpgError) : PyObject :=
  if err = noError then .none else (errorExc state err).toObject

section
variable (m : Module)

/-- The pair of a fingerprint and a reason. -/
def invalidKey (key : InvalidKey) : PyObject :=
  .tuple [fingerprint m key.fpr, errorValue m.toModState key.reason]

def newSignature (sig : NewSig) : PyObject :=
  .record "gpgme.NewSignature"
    [("type", some (m.sigModeType.value sig.type)),
      ("pubkey_algo", some (m.pubkeyAlgoType.value sig.pubkeyAlgo)),
      ("hash_algo", some (m.hashAlgoType.value sig.hashAlgo)),
      ("timestamp", some (.int sig.timestamp)), ("fpr", some (fingerprint m sig.fpr)),
      ("sig_class", some (.int sig.sigClass))]

def signature (sig : Sig) : PyObject :=
  .record "gpgme.Signature"
    [("summary", some (m.sigsumType.value sig.summary)), ("fpr", some (fingerprint m sig.fpr)),
      ("status", some (errorValue m.toModState sig.status)),
      ("notations", some (sigNotationListNew m sig.notations)),
      ("timestamp", some (.int sig.timestamp)),
      ("exp_timestamp", some (.int sig.expTimestamp)),
      ("wrong_key_usage", some (bool sig.wrongKeyUsage)),
      ("validity", some (m.validityType.value sig.validity)),
      ("validity_reason", some (errorValue m.toModState sig.validityReason)),
      ("pubkey_algo", some (m.pubkeyAlgoType.value sig.pubkeyAlgo)),
      ("hash_algo", some (m.hashAlgoType.value sig.hashAlgo))]

/-! They show what they should. -/

theorem shows_value (enum : IntEnum) (value : Int) :
    ShowsNumber enum value (enum.value value) := by
  refine ⟨enum.long?_value value, ?_⟩
  intro member
  rw [IntEnum.value, if_pos member]

theorem shows_fingerprint (fpr : Option Bytes) :
    ShowsText m.replaceAscii fpr (fingerprint m fpr) := by
  cases fpr <;> rfl

theorem shows_errorValue (state : ModState) (err : GpgError) :
    ShowsError state err (errorValue state err) := by
  unfold ShowsError errorValue
  by_cases success : err = noError
  · rw [if_pos success, if_pos success]
  · rw [if_neg success, if_neg success, ← toNat_errSource, ← toNat_errCode]
    exact ⟨_, rfl, rfl, ⟨_, rfl, shows_value _ _⟩, ⟨_, rfl, shows_value _ _⟩, rfl⟩

theorem showsList_map {α : Type} {shown : α → PyObject → Prop} {convert : α → PyObject}
    (each : ∀ a, shown a (convert a)) (items : List α) :
    ShowsList shown items (.list (items.map convert)) := by
  refine ⟨_, rfl, ?_⟩
  rw [List.forall₂_map_right_iff, List.forall₂_same]
  exact fun a _ => each a

theorem shows_invalidKey (key : InvalidKey) : ShowsInvalidKey m key (invalidKey m key) :=
  ⟨_, _, rfl, shows_fingerprint m key.fpr, shows_errorValue m.toModState key.reason⟩

theorem shows_newSignature (sig : NewSig) : ShowsNewSig m sig (newSignature m sig) where
  type := ⟨_, _, _, rfl, rfl, shows_value _ _⟩
  pubkeyAlgo := ⟨_, _, _, rfl, rfl, shows_value _ _⟩
  hashAlgo := ⟨_, _, _, rfl, rfl, shows_value _ _⟩
  timestamp := ⟨_, _, _, rfl, rfl, rfl⟩
  fpr := ⟨_, _, _, rfl, rfl, shows_fingerprint m _⟩
  sigClass := ⟨_, _, _, rfl, rfl, rfl⟩

theorem shows_notationNew (raw : RawNotation) :
    ShowsNotation m raw (.sigNotation (some (notationNew m raw))) :=
  ⟨_, rfl, rfl, rfl, rfl⟩

theorem shows_signature (sig : Sig) : ShowsSig m sig (signature m sig) where
  summary := ⟨_, _, _, rfl, rfl, shows_value _ _⟩
  fpr := ⟨_, _, _, rfl, rfl, shows_fingerprint m _⟩
  status := ⟨_, _, _, rfl, rfl, shows_errorValue _ _⟩
  notations := ⟨_, _, _, rfl, rfl, showsList_map (shows_notationNew m) _⟩
  timestamp := ⟨_, _, _, rfl, rfl, rfl⟩
  expTimestamp := ⟨_, _, _, rfl, rfl, rfl⟩
  wrongKeyUsage := ⟨_, _, _, rfl, rfl, rfl⟩
  validity := ⟨_, _, _, rfl, rfl, shows_value _ _⟩
  validityReason := ⟨_, _, _, rfl, rfl, shows_errorValue _ _⟩
  pubkeyAlgo := ⟨_, _, _, rfl, rfl, shows_value _ _⟩
  hashAlgo := ⟨_, _, _, rfl, rfl, shows_value _ _⟩

/-! With nothing pending, they are what the conversions return. -/

theorem enumValueNew_reads (enum : IntEnum) (value : Int) :
    Reads Quiet (enumValueNew enum value) (some (enum.value value)) := by
  intro s quiet
  simp [quiet]

theorem errorObject_reads (state : ModState) (err : GpgError) :
    Reads Quiet (errorObject state err) (some (errorValue state err)) := by
  intro s quiet
  by_cases success : err = noError
  · simp [success, errorValue]
  · simp [success, errorValue, quiet]

theorem occurred_reads : Reads Quiet occurred false := by
  intro s quiet
  simp [quiet]

theorem invalidKeys_reads (keys : List InvalidKey) :
    Reads Quiet (invalidKeys m keys) (keys.map (invalidKey m)) := by
  induction keys with
  | nil => exact reads_pure []
  | cons key rest ih =>
    unfold invalidKeys
    apply (errorObject_reads m.toModState key.reason).bind
    exact ih.bind (reads_pure _)

theorem newsiglistNew_reads (sigs : List NewSig) :
    Reads Quiet (newsiglistNew m sigs) (some (sigs.map (newSignature m))) := by
  induction sigs with
  | nil => exact reads_pure _
  | cons sig rest ih =>
    unfold newsiglistNew
    apply (enumValueNew_reads m.sigModeType sig.type).bind
    apply (enumValueNew_reads m.pubkeyAlgoType sig.pubkeyAlgo).bind
    apply (enumValueNew_reads m.hashAlgoType sig.hashAlgo).bind
    apply occurred_reads.bind
    exact ih.bind (reads_pure _)

theorem siglistNew_reads (sigs : List Sig) :
    Reads Quiet (siglistNew m sigs) (some (sigs.map (signature m))) := by
  induction sigs with
  | nil => exact reads_pure _
  | cons sig rest ih =>
    unfold siglistNew
    apply (enumValueNew_reads m.sigsumType sig.summary).bind
    apply (errorObject_reads m.toModState sig.status).bind
    apply (enumValueNew_reads m.validityType sig.validity).bind
    apply (errorObject_reads m.toModState sig.validityReason).bind
    apply (enumValueNew_reads m.pubkeyAlgoType sig.pubkeyAlgo).bind
    apply (enumValueNew_reads m.hashAlgoType sig.hashAlgo).bind
    apply occurred_reads.bind
    exact ih.bind (reads_pure _)

end

/-! ## What the annotations add -/

abbrev Attrs := List (String × PyObject)

/-- The exception with further attributes, if it is a `GpgmeError`. -/
def addTo (attrs : Attrs) (e : PyExc) : PyExc :=
  if e.cls.isGpgmeError then { e with attrs := attrs ++ e.attrs } else e

/-- The program attaches these to whatever is pending. -/
def Adds (p : Py Unit) (attrs : Attrs) : Prop :=
  ∀ s e, s.pending = some e → achieves p s fun _ s' => s'.pending = some (addTo attrs e)

theorem Adds.then {p q : Py Unit} {first second : Attrs} (left : Adds p first)
    (right : Adds q second) : Adds (do p; q) (second ++ first) := by
  intro s e pending
  apply achieves_bind_of (left s e pending)
  intro _ s' pending'
  have added := right s' _ pending'
  have same : addTo second (addTo first e) = addTo (second ++ first) e := by
    unfold addTo
    split <;> simp_all
  rwa [same] at added

theorem adds_of {f : PyExc → Py PyExc} {attrs : Attrs}
    (inner : ∀ e s, Quiet s → achieves (f e) s fun e' _ => e' = { e with attrs := attrs ++ e.attrs }) :
    Adds (annotate f) attrs := by
  intro s e pending
  unfold annotate
  rw [achieves_bind, achieves_fetch, pending]
  cases ofGpgmeError : e.cls.isGpgmeError with
  | false => simp [ofGpgmeError, addTo]
  | true =>
    simp only [ofGpgmeError, if_true, achieves_bind, achieves_restore, addTo]
    apply achieves_mono (inner e { s with pending := none } rfl)
    rintro e' s' rfl
    rfl

section
variable (m : Module)

def encryptDetails : Option (List InvalidKey) → Attrs
  | some keys => [("invalid_recipients", .list (keys.map (invalidKey m)))]
  | none => []

def signDetails : Option SignResult → Attrs
  | some res =>
    [("signatures", .list (res.signatures.map (newSignature m))),
      ("invalid_signers", .list (res.invalidSigners.map (invalidKey m)))]
  | none => []

def decryptDetails : Option DecryptResult → Attrs
  | some res =>
    [("wrong_key_usage", bool res.wrongKeyUsage),
      ("unsupported_algorithm", match res.unsupportedAlgorithm with
        | some text => .str (m.replaceUtf8 text)
        | none => .none)]
  | none => []

def verifyDetails : Option (List Sig) → Attrs
  | some sigs => [("signatures", .list (sigs.map (signature m)))]
  | none => []

theorem decodeEncryptResult_adds (res : Option (List InvalidKey)) :
    Adds (decodeEncryptResult m res) (encryptDetails m res) := by
  apply adds_of
  intro e s quiet
  rw [achieves_bind, achieves_gpgme]
  cases res with
  | none => simp [encryptDetails]
  | some keys =>
    rw [achieves_bind]
    refine ((invalidKeys_reads m keys).achieves_iff (by exact quiet) _).mpr ?_
    simp [encryptDetails, PyExc.setAttr]

theorem annotateSignResult_adds (res : Option SignResult) :
    Adds (annotateSignResult m res) (signDetails m res) := by
  apply adds_of
  intro e s quiet
  cases res with
  | none => simp [signDetails]
  | some res =>
    rw [achieves_bind, (invalidKeys_reads m res.invalidSigners).achieves_iff quiet,
      achieves_bind, (newsiglistNew_reads m res.signatures).achieves_iff quiet]
    simp [setList, signDetails, PyExc.setAttr]

theorem decodeDecryptResult_adds (res : Option DecryptResult) :
    Adds (decodeDecryptResult m res) (decryptDetails m res) := by
  apply adds_of
  intro e s quiet
  rw [achieves_bind, achieves_gpgme]
  cases res with
  | none => simp [decryptDetails]
  | some res => cases algorithm : res.unsupportedAlgorithm <;>
      simp [decryptDetails, PyExc.setAttr, algorithm]

theorem annotateVerifyResult_adds (res : Option (List Sig)) :
    Adds (annotateVerifyResult m res) (verifyDetails m res) := by
  apply adds_of
  intro e s quiet
  cases res with
  | none => simp [verifyDetails]
  | some sigs =>
    rw [achieves_bind, (siglistNew_reads m sigs).achieves_iff quiet]
    simp [setList, verifyDetails, PyExc.setAttr]

end

/-! ## The exception of a failed operation -/

/-- An exception that the callbacks leave pending turns the report into a `SystemError`. -/
def Overshadowed (op : Operation StreamCallback) : Prop :=
  leaves streamOverflows false op.callbacks = true

instance (op : Operation StreamCallback) : Decidable (Overshadowed op) :=
  inferInstanceAs (Decidable (_ = _))

/-- What is raised, before it is annotated. -/
def raisedExc (m : Module) (op : Operation StreamCallback) : PyExc :=
  if Overshadowed op then ⟨.systemError, [], []⟩ else errorExc m.toModState op.err

section
variable {m : Module} {op : Operation StreamCallback}

/-- The operation fails, and its failure is raised. -/
theorem operation_raises {fn : Source.Threads.GpgmeFn} {args : List CArg}
    {rest : GpgError → Py (Option PyObject)} {s : Interp} (quiet : Quiet s)
    {Q : Option PyObject → Interp → Prop}
    (goesOn : ∀ s₁, s₁.pending.isSome = leaves streamOverflows false op.callbacks →
      achieves (rest op.err) s₁ Q) :
    achieves (do
      let err ← operation (·.run m) fn args op
      rest err) s Q := by
  apply achieves_bind_of (operation_pending op fn args s fun s' _ =>
    runAll_pending (streamCallback_pending m) op.callbacks s')
  rintro err s₁ ⟨rfl, _, pending⟩
  rw [quiet] at pending
  exact goesOn s₁ pending

theorem checkError_raises (failed : op.err ≠ noError) {s : Interp}
    (pending : s.pending.isSome = leaves streamOverflows false op.callbacks)
    {failure success : Py (Option PyObject)} {Q : Option PyObject → Interp → Prop}
    (goesOn : ∀ s₁, s₁.pending = some (raisedExc m op) → achieves failure s₁ Q) :
    achieves (do if ← checkError m.toModState op.err then failure else success) s Q := by
  rw [achieves_bind, achieves_checkError, if_neg failed, pending]
  split
  next shadowed =>
    have raised : raisedExc m op = ⟨.systemError, [], []⟩ := if_pos shadowed
    rw [if_pos rfl]
    exact goesOn _ (by rw [raised])
  next plain =>
    have raised : raisedExc m op = errorExc m.toModState op.err := if_neg plain
    rw [if_pos rfl]
    exact goesOn _ (by rw [raised])

/-- The annotation, and NULL. -/
theorem Adds.returns {p : Py Unit} {attrs : Attrs} (adds : Adds p attrs) {s : Interp}
    {e : PyExc} (pending : s.pending = some e) :
    achieves (do
      p
      return none) s fun (r : Option PyObject) s' =>
        r = none ∧ s'.pending = some (addTo attrs e) := by
  apply achieves_bind_of (adds s e pending)
  intro _ s' annotated
  rw [achieves_pure]
  exact ⟨rfl, annotated⟩

theorem attempt_accepted {α β γ : Type} {parse : Except PyExc α} {g : α → β} {b : β}
    (accepted : parse.toOption.map g = some b) {s : Interp} {rest : Option α → Py γ}
    {Q : γ → Interp → Prop} (goesOn : ∀ a, g a = b → achieves (rest (some a)) s Q) :
    achieves (attempt parse >>= rest) s Q := by
  cases parse with
  | error e => cases accepted
  | ok a =>
    rw [achieves_bind, achieves_attempt]
    exact goesOn a (Option.some.inj accepted)

theorem convert_accepted {α β γ : Type} {parse : Except Stop α} {g : α → β} {b : β}
    (accepted : parse.toOption.map g = some b) {s : Interp} {rest : Option α → Py γ}
    {Q : γ → Interp → Prop} (goesOn : ∀ a, g a = b → achieves (rest (some a)) s Q) :
    achieves (convert parse >>= rest) s Q := by
  cases parse with
  | error stop => cases accepted
  | ok a =>
    rw [achieves_bind, achieves_convert]
    exact goesOn a (Option.some.inj accepted)

theorem dataNews_then {created : Nat → GpgError} {files : List PyObject}
    (made : ¬ DataFails created files) {s : Interp} {success : Py (Option PyObject)}
    {Q : Option PyObject → Interp → Prop} (goesOn : achieves success s Q) :
    achieves (do if ← dataNews m created files then return none else success) s Q := by
  apply achieves_bind_of (dataNews_succeeds m files created s made)
  rintro _ _ ⟨rfl, rfl⟩
  exact goesOn

end

/-! ## The six methods -/

/-- A method that annotates its failures, with the results gpgme has for it. -/
inductive Outcome where
  | encrypt (encrypted : Option (List InvalidKey))
  | encryptSign (encrypted : Option (List InvalidKey)) (signed : Option SignResult)
  | decrypt (decrypted : Option DecryptResult)
  | decryptVerify (decrypted : Option DecryptResult) (verified : Option (List Sig))
  | sign (signed : Option SignResult)
  | verify (verified : Option (List Sig))

def Outcome.method (created : Nat → GpgError) (op : Operation StreamCallback) :
    Outcome → Method
  | .encrypt encrypted => .encrypt created op encrypted
  | .encryptSign encrypted signed => .encryptSign created op encrypted signed
  | .decrypt decrypted => .decrypt created op decrypted
  | .decryptVerify decrypted verified => .decryptVerify created op decrypted verified
  | .sign signed => .sign created op signed
  | .verify verified => .verify created op verified

/-- The files among its arguments, when these are accepted. -/
def Outcome.files (args : List PyObject) : Outcome → Option (List PyObject)
  | .encrypt _ => (encryptArgs args).toOption.map fun (_, _, plain, cipher) => [plain, cipher]
  | .encryptSign _ _ =>
    (encryptSignArgs args).toOption.map fun (_, _, plain, cipher) => [plain, cipher]
  | .decrypt _ | .decryptVerify _ _ =>
    (twoObjects args).toOption.map fun (cipher, plain) => [cipher, plain]
  | .sign _ => (signArgs sigModeNormal args).toOption.map fun (plain, sig, _) => [plain, sig]
  | .verify _ =>
    (threeObjects args).toOption.map fun (sig, signedText, plaintext) =>
      [sig, signedText, plaintext]

/-- The attributes that the exception should have, one for each part of a result, and what
they should say. -/
def Outcome.details (m : Module) : Outcome → List (String × (PyObject → Prop))
  | .encrypt encrypted => recipientDetails encrypted
  | .encryptSign encrypted signed => signerDetails signed ++ recipientDetails encrypted
  | .decrypt decrypted => cipherDetails decrypted
  | .decryptVerify decrypted verified => signatureDetails verified ++ cipherDetails decrypted
  | .sign signed => signerDetails signed
  | .verify verified => signatureDetails verified
where
  recipientDetails : Option (List InvalidKey) → List (String × (PyObject → Prop))
    | some keys => [("invalid_recipients", ShowsList (ShowsInvalidKey m) keys)]
    | none => []
  signerDetails : Option SignResult → List (String × (PyObject → Prop))
    | some res =>
      [("signatures", ShowsList (ShowsNewSig m) res.signatures),
        ("invalid_signers", ShowsList (ShowsInvalidKey m) res.invalidSigners)]
    | none => []
  cipherDetails : Option DecryptResult → List (String × (PyObject → Prop))
    | some res =>
      [("wrong_key_usage", ShowsBool res.wrongKeyUsage),
        ("unsupported_algorithm", ShowsText m.replaceUtf8 res.unsupportedAlgorithm)]
    | none => []
  signatureDetails : Option (List Sig) → List (String × (PyObject → Prop))
    | some sigs => [("signatures", ShowsList (ShowsSig m) sigs)]
    | none => []

/-- The attributes it gets. -/
def Outcome.attached (m : Module) : Outcome → Attrs
  | .encrypt encrypted => encryptDetails m encrypted
  | .encryptSign encrypted signed => signDetails m signed ++ encryptDetails m encrypted
  | .decrypt decrypted | .decryptVerify decrypted _ => decryptDetails m decrypted
  | .sign signed => signDetails m signed
  | .verify verified => verifyDetails m verified

/-- The method gets as far as the operation. -/
def Reached (outcome : Outcome) (created : Nat → GpgError) (args : List PyObject) : Prop :=
  ∃ files, outcome.files args = some files ∧ ¬ DataFails created files

theorem failed_raises (m : Module) {outcome : Outcome} {created : Nat → GpgError}
    {op : Operation StreamCallback} {args : List PyObject} (reached : Reached outcome created args)
    (failed : op.err ≠ noError) (errno : Int) :
    achieves ((outcome.method created op).call m args) ⟨none, errno, []⟩ fun r s =>
      r = none ∧ s.pending = some (addTo (outcome.attached m) (raisedExc m op)) := by
  obtain ⟨files, accepted, made⟩ := reached
  cases outcome with
  | encrypt encrypted =>
    apply convert_accepted accepted
    rintro ⟨recp, flags, plain, cipher⟩ rfl
    apply dataNews_then made
    apply operation_raises rfl
    intro s₁ pending
    apply checkError_raises failed pending
    intro s₂ raised
    exact (decodeEncryptResult_adds m encrypted).returns raised
  | encryptSign encrypted signed =>
    apply convert_accepted accepted
    rintro ⟨recp, flags, plain, cipher⟩ rfl
    apply dataNews_then made
    apply operation_raises rfl
    intro s₁ pending
    rw [achieves_bind, achieves_gpgme]
    apply checkError_raises failed (by exact pending)
    intro s₂ raised
    have both := (decodeEncryptResult_adds m encrypted).then (annotateSignResult_adds m signed)
    rw [← bind_assoc]
    exact both.returns raised
  | decrypt decrypted | decryptVerify decrypted verified =>
    apply attempt_accepted accepted
    rintro ⟨cipher, plain⟩ rfl
    apply dataNews_then made
    apply operation_raises rfl
    intro s₁ pending
    apply checkError_raises failed pending
    intro s₂ raised
    exact (decodeDecryptResult_adds m decrypted).returns raised
  | sign signed =>
    apply attempt_accepted accepted
    rintro ⟨plain, sig, mode⟩ rfl
    apply dataNews_then made
    apply operation_raises rfl
    intro s₁ pending
    rw [achieves_bind, achieves_gpgme]
    apply checkError_raises failed (by exact pending)
    intro s₂ raised
    exact (annotateSignResult_adds m signed).returns raised
  | verify verified =>
    apply attempt_accepted accepted
    rintro ⟨sig, signedText, plaintext⟩ rfl
    apply dataNews_then made
    apply operation_raises rfl
    intro s₁ pending
    rw [achieves_bind, achieves_gpgme]
    apply checkError_raises failed (by exact pending)
    intro s₂ raised
    exact (annotateVerifyResult_adds m verified).returns raised

/-! ## Details on the exception -/

/-- A failed operation returns NULL; if a `GpgmeError` is raised, it has every detail, and
only an exception that the callbacks leave pending makes it another one. -/
def DetailsCarried (m : Module) (outcome : Outcome) (created : Nat → GpgError)
    (op : Operation StreamCallback) (args : List PyObject) (errno : Int) : Prop :=
  Reached outcome created args → op.err ≠ noError →
    achieves ((outcome.method created op).call m args) ⟨none, errno, []⟩ fun r s =>
      r = none ∧ ∃ e, s.pending = some e ∧
        (e.cls.isGpgmeError = true →
          ∀ d ∈ outcome.details m, ∃ value, e.getAttr d.1 = some value ∧ d.2 value) ∧
        (leaves streamOverflows false op.callbacks = false → e.cls.isGpgmeError = true)

/-- `decrypt_verify` fails with a result that has signatures to report. -/
def SignaturesLost (outcome : Outcome) (created : Nat → GpgError)
    (op : Operation StreamCallback) (args : List PyObject) : Prop :=
  (∃ decrypted sigs, outcome = .decryptVerify decrypted (some sigs)) ∧
    Reached outcome created args ∧ op.err ≠ noError ∧ ¬ Overshadowed op

/-- The attributes of an annotated `GpgmeError` are found under their names, and say what
they should. -/
theorem details_iff (m : Module) (outcome : Outcome) (err : GpgError) :
    (∀ d ∈ outcome.details m, ∃ value,
        (addTo (outcome.attached m) (errorExc m.toModState err)).getAttr d.1 = some value ∧
          d.2 value) ↔
      ¬ ∃ decrypted sigs, outcome = .decryptVerify decrypted (some sigs) := by
  have found (attrs : Attrs) (name : String) :
      (addTo attrs (errorExc m.toModState err)).getAttr name =
        (attrs ++ (errorExc m.toModState err).attrs).lookup name := rfl
  have invalid := showsList_map (shows_invalidKey m)
  have algorithm (text : Option Bytes) : ShowsText m.replaceUtf8 text
      (match text with
        | some text => .str (m.replaceUtf8 text)
        | none => .none) := by
    cases text <;> rfl
  have boolean (b : Bool) : ShowsBool b (Results.bool b) := rfl
  simp only [found]
  cases outcome with
  | encrypt encrypted =>
    cases encrypted <;>
      simp [Outcome.details, Outcome.details.recipientDetails, Outcome.attached,
        encryptDetails, invalid]
  | encryptSign encrypted signed =>
    have signatures := showsList_map (shows_newSignature m)
    cases encrypted <;> cases signed <;>
      simp [Outcome.details, Outcome.details.recipientDetails, Outcome.details.signerDetails,
        Outcome.attached, encryptDetails, signDetails, List.lookup_cons, invalid, signatures]
  | decrypt decrypted =>
    cases decrypted <;>
      simp [Outcome.details, Outcome.details.cipherDetails, Outcome.attached, decryptDetails,
        List.lookup_cons, boolean, algorithm]
  | decryptVerify decrypted verified =>
    cases decrypted <;> cases verified <;>
      simp [Outcome.details, Outcome.details.cipherDetails, Outcome.details.signatureDetails,
        Outcome.attached, decryptDetails, errorExc, List.lookup_cons, boolean, algorithm]
  | sign signed =>
    have signatures := showsList_map (shows_newSignature m)
    cases signed <;>
      simp [Outcome.details, Outcome.details.signerDetails, Outcome.attached, signDetails,
        List.lookup_cons, invalid, signatures]
  | verify verified =>
    have signatures := showsList_map (shows_signature m)
    cases verified <;>
      simp [Outcome.details, Outcome.details.signatureDetails, Outcome.attached,
        verifyDetails, signatures]

/-- For every result, every failure and every run of callbacks: the exception has all
the details exactly unless it is `decrypt_verify` that fails with a result of its
verification. -/
theorem failure_details_iff (m : Module) (outcome : Outcome) (created : Nat → GpgError)
    (op : Operation StreamCallback) (args : List PyObject) (errno : Int) :
    DetailsCarried m outcome created op args errno ↔
      ¬ SignaturesLost outcome created op args := by
  unfold DetailsCarried SignaturesLost
  by_cases reached : Reached outcome created args
  swap
  · simp [reached]
  by_cases failed : op.err = noError
  · simp [failed]
  obtain ⟨r, s, ran, rfl, pending⟩ := failed_raises m reached failed errno
  rw [achieves_of_run ran, pending]
  by_cases shadowed : Overshadowed op
  · have raised : raisedExc m op = ⟨.systemError, [], []⟩ := if_pos shadowed
    have leaves : leaves streamOverflows false op.callbacks = true := shadowed
    simp [raised, addTo, ExcClass.isGpgmeError, shadowed, leaves]
  · have raised : raisedExc m op = errorExc m.toModState op.err := if_neg shadowed
    have isGpgmeError : (addTo (outcome.attached m) (errorExc m.toModState op.err)).cls.isGpgmeError =
        true := rfl
    have computed := details_iff m outcome op.err
    simp only [raised, Option.some.injEq, exists_eq_left', isGpgmeError, forall_const, implies_true,
      and_true, true_and, computed, reached, failed, shadowed, ne_eq, not_false_eq_true]

/-- A module state with empty enums, that decodes bytes one by one. -/
def plainModule : Module where
  toModState := plainState
  protocolType := ⟨"Protocol", []⟩
  sigModeType := ⟨"SigMode", []⟩
  pubkeyAlgoType := ⟨"PubkeyAlgo", []⟩
  hashAlgoType := ⟨"HashAlgo", []⟩
  sigsumType := ⟨"Sigsum", []⟩
  validityType := ⟨"Validity", []⟩
  importType := ⟨"Import", []⟩
  statusType := ⟨"Status", []⟩
  replaceAscii := fun data => data.map fun b => Fin.ofNat _ b.toNat
  replaceUtf8 := fun data => data.map fun b => Fin.ofNat _ b.toNat

/-- Some file object. -/
def plainFile : PyObject := .object (.error .typeError) (.error .typeError)

/-- A good signature on data that could not be decrypted in full. -/
def goodSig : Sig where
  summary := 3
  fpr := some [65]
  status := noError
  notations := []
  timestamp := 1
  expTimestamp := 0
  wrongKeyUsage := false
  validity := 4
  validityReason := noError
  pubkeyAlgo := 1
  hashAlgo := 8

/-- `decrypt_verify(cipher, plain)` that fails with `GPG_ERR_DECRYPT_FAILED`. -/
theorem decryptVerify_loses_signatures :
    ¬ DetailsCarried plainModule (.decryptVerify (some ⟨none, false⟩) (some [goodSig]))
      (fun _ => noError) ⟨[], 0x07000098⟩ [plainFile, plainFile] 0 := by
  intro carried
  have reached : Reached (.decryptVerify (some ⟨none, false⟩) (some [goodSig]))
      (fun _ => noError) [plainFile, plainFile] := ⟨_, rfl, by simp [DataFails]⟩
  have failed : (⟨[], 0x07000098⟩ : Operation StreamCallback).err ≠ noError := by decide
  obtain ⟨r, s, ran, rfl, pending⟩ := failed_raises plainModule reached failed 0
  obtain ⟨_, e, raised, details, _⟩ := (achieves_of_run ran _).mp (carried reached failed)
  rw [pending, raisedExc, if_neg (by decide)] at raised
  cases raised
  exact (details_iff plainModule _ _).mp (details rfl) ⟨_, _, rfl⟩

end Pygpgme.Guarantees.FailureDetails
