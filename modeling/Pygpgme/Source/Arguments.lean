import Pygpgme.Source.Data

/-!
# Arguments of the Context methods

`PyArg_ParseTuple` with the formats the binding uses, key sequences, and
`parse_key_patterns`. None of this looks at the pending exception, so each
conversion is its result or the exception it raises; iteration may also read a NULL
pointer.
-/

set_option autoImplicit false

namespace Pygpgme.Source.Arguments
open Pygpgme.Library.BitField Pygpgme.Source.Python

/-! ## Formats -/

def FitsInt (n : Int) : Prop := intMin ≤ n ∧ n ≤ intMax

instance (n : Int) : Decidable (FitsInt n) := inferInstanceAs (Decidable (_ ∧ _))

/-- A tuple of a length that the format does not allow. -/
def wrongCount {α : Type} : Except PyExc α := .error ⟨.typeError, [], []⟩

/-- `i` -/
def argInt (o : PyObject) : Except PyExc Int :=
  match o.index with
  | .error cls => .error ⟨cls, [], []⟩
  | .ok n => if FitsInt n then .ok n else .error ⟨.overflowError, [], []⟩

/-- `I`, which does not check for overflow -/
def argUInt (o : PyObject) : Except PyExc (BitVec 32) :=
  match o.index with
  | .error cls => .error ⟨cls, [], []⟩
  | .ok n => .ok (narrow 32 n)

/-- `s`: a `str` without NUL characters -/
def argString : PyObject → Except PyExc Bytes
  | .str text => do
    let data ← encodeUtf8 text
    if 0 ∈ data then .error ⟨.valueError, [], []⟩ else .ok data
  | _ => .error ⟨.typeError, [], []⟩

/-- `z`: the same, or `None` for NULL -/
def argStringOrNone : PyObject → Except PyExc (Option Bytes)
  | .none => .ok none
  | o => do return some (← argString o)

/-- `O!` with `Key_Type` -/
def argKey : PyObject → Except PyExc Nat
  | .key handle => .ok handle
  | _ => .error ⟨.typeError, [], []⟩

/-! ## Sequences -/

/-- The loop that collects the keys of a sequence, up to the first other object. -/
def keyArray (text : String) : List PyObject → Except PyExc (List Nat)
  | [] => .ok []
  | .key handle :: rest => do return handle :: (← keyArray text rest)
  | _ :: _ => .error (excString .typeError text)

/-- The recipients of `encrypt_sign`, and of `encrypt` when they are not `None`. -/
def recipients (o : PyObject) (text : String) : Except Stop (List Nat) := do
  let items ← sequenceFast o text
  raising (keyArray "items in first argument must be gpgme.Key objects" (visited items))

/-- The recipients of `encrypt`; `None` stands for symmetric encryption. -/
def recipientsOrNone : PyObject → Except Stop (Option (List Nat))
  | .none => .ok none
  | o => do return some (← recipients o "first argument must be a sequence or None")

/-- The keys of `import_keys` and `export_keys`. -/
def keySequence (o : PyObject) : Except Stop (List Nat) := do
  let items ← sequenceFast o "keys must be a sequence of keys"
  raising (keyArray "keys must be a sequence of key objects" (visited items))

/-- One pattern, as `strdup` copies it. -/
def keyPattern : PyObject → Except PyExc Bytes
  | .bytes data => .ok (cString data)
  | .str text => do return cString (← encodeUtf8 text)
  | _ => .error (excString .typeError "first argument must be a string or sequence of strings")

def keyPatterns : List PyObject → Except PyExc (List Bytes)
  | [] => .ok []
  | item :: rest => do
    let pattern ← keyPattern item
    return pattern :: (← keyPatterns rest)

/-- `parse_key_patterns` -/
def parseKeyPatterns : PyObject → Except Stop (Option (List Bytes))
  | .none => .ok none
  | .str text => do return some [← raising (keyPattern (.str text))]
  | .bytes data => do return some [← raising (keyPattern (.bytes data))]
  | o => do
    let items ← sequenceFast o "first argument must be a string or sequence of strings"
    return some (← raising (keyPatterns (visited items)))

/-! ## The argument tuple of each method -/

/-- `izz` -/
def setEngineInfoArgs : List PyObject → Except PyExc (Int × Option Bytes × Option Bytes)
  | [protocol, fileName, homeDir] => do
    return (← argInt protocol, ← argStringOrNone fileName, ← argStringOrNone homeDir)
  | _ => wrongCount

/-- `iz` -/
def setLocaleArgs : List PyObject → Except PyExc (Int × Option Bytes)
  | [category, value] => do return (← argInt category, ← argStringOrNone value)
  | _ => wrongCount

/-- `s|i` -/
def getKeyArgs : List PyObject → Except PyExc (Bytes × Int)
  | [fpr] => do return (← argString fpr, 0)
  | [fpr, secret] => do return (← argString fpr, ← argInt secret)
  | _ => wrongCount

/-- `OiOO`, and the recipients -/
def encryptArgs : List PyObject → Except Stop (Option (List Nat) × Int × PyObject × PyObject)
  | [recp, flags, plain, cipher] => do
    let flags ← raising (argInt flags)
    return (← recipientsOrNone recp, flags, plain, cipher)
  | _ => raising wrongCount

/-- `OiOO`, and the recipients -/
def encryptSignArgs : List PyObject → Except Stop (List Nat × Int × PyObject × PyObject)
  | [recp, flags, plain, cipher] => do
    let flags ← raising (argInt flags)
    return (← recipients recp "first argument must be a sequence", flags, plain, cipher)
  | _ => raising wrongCount

/-- `OO` -/
def twoObjects : List PyObject → Except PyExc (PyObject × PyObject)
  | [first, second] => .ok (first, second)
  | _ => wrongCount

/-- `OO|i`; the mode has a default. -/
def signArgs (normal : Int) : List PyObject → Except PyExc (PyObject × PyObject × Int)
  | [plain, sig] => .ok (plain, sig, normal)
  | [plain, sig, mode] => do return (plain, sig, ← argInt mode)
  | _ => wrongCount

/-- `OOO` -/
def threeObjects : List PyObject → Except PyExc (PyObject × PyObject × PyObject)
  | [first, second, third] => .ok (first, second, third)
  | _ => wrongCount

/-- `O` -/
def oneObject : List PyObject → Except PyExc PyObject
  | [o] => .ok o
  | _ => wrongCount

/-- `OO|i`, and the patterns -/
def exportArgs (args : List PyObject) : Except Stop (Option (List Bytes) × PyObject × Int) := do
  let (pattern, keydata, mode) ← raising (signArgs 0 args)
  return (← parseKeyPatterns pattern, keydata, mode)

/-- `OO|i`, and the keys -/
def exportKeysArgs (args : List PyObject) : Except Stop (List Nat × PyObject × Int) := do
  let (keys, keydata, mode) ← raising (signArgs 0 args)
  return (← keySequence keys, keydata, mode)

/-- `O`, and the keys -/
def importKeysArgs (args : List PyObject) : Except Stop (List Nat) := do
  keySequence (← raising (oneObject args))

/-- `z|OO` -/
def genkeyArgs : List PyObject → Except PyExc (Option Bytes × PyObject × PyObject)
  | [parms] => do return (← argStringOrNone parms, .none, .none)
  | [parms, pubkey] => do return (← argStringOrNone parms, pubkey, .none)
  | [parms, pubkey, seckey] => do return (← argStringOrNone parms, pubkey, seckey)
  | _ => wrongCount

/-- `O!|I` -/
def deleteArgs : List PyObject → Except PyExc (Nat × BitVec 32)
  | [key] => do return (← argKey key, 0)
  | [key, flags] => do return (← argKey key, ← argUInt flags)
  | _ => wrongCount

/-- `O!OO` -/
def editArgs : List PyObject → Except PyExc (Nat × PyObject × PyObject)
  | [key, callback, out] => do return (← argKey key, callback, out)
  | _ => wrongCount

/-- `|Oi`, and the patterns -/
def keylistArgs : List PyObject → Except Stop (Option (List Bytes) × Int)
  | [] => .ok (none, 0)
  | [pattern] => do return (← parseKeyPatterns pattern, 0)
  | [pattern, secretOnly] => do
    let secretOnly ← raising (argInt secretOnly)
    return (← parseKeyPatterns pattern, secretOnly)
  | _ => raising wrongCount

/-! ## Which conversions crash

Only the iteration over a `SigNotation` without fields does, and only after the format
of the arguments is accepted. -/

@[simp] theorem raising_crash {α : Type} (result : Except PyExc α) :
    raising result ≠ .error .crash := by
  cases result <;> simp [raising, Except.mapError]

/-- After the step that may crash. -/
theorem bind_crash_iff {α β : Type} {first : Except Stop α} {rest : α → Except Stop β}
    (safe : ∀ a, rest a ≠ .error .crash) :
    first >>= rest = .error .crash ↔ first = .error .crash := by
  cases first with
  | error stop => simp [bind, Except.bind]
  | ok a => exact iff_of_false (safe a) (by simp)

/-- Before the step that may crash. -/
theorem raising_bind_crash_iff {α β : Type} {first : Except PyExc α}
    {rest : α → Except Stop β} :
    raising first >>= rest = .error .crash ↔ ∃ a, first = .ok a ∧ rest a = .error .crash := by
  cases first with
  | error e => simp [raising, Except.mapError, bind, Except.bind]
  | ok a => simp [raising, Except.mapError, bind, Except.bind]

theorem recipients_crash_iff (o : PyObject) (text : String) :
    recipients o text = .error .crash ↔ o = .sigNotation none := by
  rw [← sequenceFast_crash_iff o text]
  exact bind_crash_iff fun items => raising_crash _

theorem recipientsOrNone_crash_iff (o : PyObject) :
    recipientsOrNone o = .error .crash ↔ o = .sigNotation none := by
  unfold recipientsOrNone
  split
  next => simp
  next =>
    rw [← recipients_crash_iff o "first argument must be a sequence or None"]
    exact bind_crash_iff fun keys => by simp [pure, Except.pure]

theorem keySequence_crash_iff (o : PyObject) :
    keySequence o = .error .crash ↔ o = .sigNotation none := by
  rw [← sequenceFast_crash_iff o "keys must be a sequence of keys"]
  exact bind_crash_iff fun items => raising_crash _

theorem parseKeyPatterns_crash_iff (o : PyObject) :
    parseKeyPatterns o = .error .crash ↔ o = .sigNotation none := by
  have copied {α β : Type} (result : Except PyExc α) (wrap : α → β) :
      (do return wrap (← raising result)) ≠ (.error .crash : Except Stop β) := by
    cases result <;> simp [raising, Except.mapError, bind, Except.bind, pure, Except.pure]
  unfold parseKeyPatterns
  split
  next => simp
  next text => exact iff_of_false (copied _ _) (by simp)
  next data => exact iff_of_false (copied _ _) (by simp)
  next =>
    rw [← sequenceFast_crash_iff o "first argument must be a string or sequence of strings"]
    exact bind_crash_iff fun items => copied _ _

/-- The argument of `encrypt` and `encrypt_sign` to iterate over, if the format accepts
the others. -/
def encryptSequence : List PyObject → Option PyObject
  | [recp, flags, _, _] => (argInt flags).toOption.map fun _ => recp
  | _ => none

/-- The same for `keylist`. -/
def keylistSequence : List PyObject → Option PyObject
  | [pattern] => some pattern
  | [pattern, secretOnly] => (argInt secretOnly).toOption.map fun _ => pattern
  | _ => none

theorem toOption_map_eq_some_iff {α β : Type} {result : Except PyExc α} {f : α → β} {b : β} :
    result.toOption.map f = some b ↔ ∃ a, result = .ok a ∧ f a = b := by
  cases result <;> simp [Except.toOption]

theorem encryptArgs_crash_iff (args : List PyObject) :
    encryptArgs args = .error .crash ↔ encryptSequence args = some (.sigNotation none) := by
  unfold encryptArgs encryptSequence
  split
  next recp flags plain cipher =>
    rw [raising_bind_crash_iff, toOption_map_eq_some_iff]
    refine exists_congr fun n => and_congr_right fun _ => ?_
    rw [← recipientsOrNone_crash_iff]
    exact bind_crash_iff fun keys => by simp [pure, Except.pure]
  next => exact iff_of_false (raising_crash _) (by simp)

theorem encryptSignArgs_crash_iff (args : List PyObject) :
    encryptSignArgs args = .error .crash ↔ encryptSequence args = some (.sigNotation none) := by
  unfold encryptSignArgs encryptSequence
  split
  next recp flags plain cipher =>
    rw [raising_bind_crash_iff, toOption_map_eq_some_iff]
    refine exists_congr fun n => and_congr_right fun _ => ?_
    rw [← recipients_crash_iff recp "first argument must be a sequence"]
    exact bind_crash_iff fun keys => by simp [pure, Except.pure]
  next => exact iff_of_false (raising_crash _) (by simp)

theorem exportArgs_crash_iff (args : List PyObject) :
    exportArgs args = .error .crash ↔
      (signArgs 0 args).toOption.map Prod.fst = some (.sigNotation none) := by
  unfold exportArgs
  rw [raising_bind_crash_iff, toOption_map_eq_some_iff]
  refine exists_congr fun parsed => and_congr_right fun _ => ?_
  rw [← parseKeyPatterns_crash_iff]
  exact bind_crash_iff fun patterns => by simp [pure, Except.pure]

theorem exportKeysArgs_crash_iff (args : List PyObject) :
    exportKeysArgs args = .error .crash ↔
      (signArgs 0 args).toOption.map Prod.fst = some (.sigNotation none) := by
  unfold exportKeysArgs
  rw [raising_bind_crash_iff, toOption_map_eq_some_iff]
  refine exists_congr fun parsed => and_congr_right fun _ => ?_
  rw [← keySequence_crash_iff]
  exact bind_crash_iff fun keys => by simp [pure, Except.pure]

theorem importKeysArgs_crash_iff (args : List PyObject) :
    importKeysArgs args = .error .crash ↔
      (oneObject args).toOption = some (.sigNotation none) := by
  unfold importKeysArgs
  rw [raising_bind_crash_iff]
  cases oneObject args <;> simp [keySequence_crash_iff, Except.toOption]

theorem keylistArgs_crash_iff (args : List PyObject) :
    keylistArgs args = .error .crash ↔ keylistSequence args = some (.sigNotation none) := by
  unfold keylistArgs keylistSequence
  split
  next => simp
  next pattern =>
    rw [Option.some.injEq, ← parseKeyPatterns_crash_iff]
    exact bind_crash_iff fun patterns => by simp [pure, Except.pure]
  next pattern secretOnly =>
    rw [raising_bind_crash_iff, toOption_map_eq_some_iff]
    refine exists_congr fun n => and_congr_right fun _ => ?_
    rw [← parseKeyPatterns_crash_iff]
    exact bind_crash_iff fun patterns => by simp [pure, Except.pure]
  next => exact iff_of_false (raising_crash _) (by simp_all)

end Pygpgme.Source.Arguments
