import Pygpgme.Source.Arguments
import Pygpgme.Source.Memory

/-!
# Key patterns in C memory

lib/pygpgme-context.c:1598-1728 and 2009-2043. An array of patterns is a block of
slots, each NULL or a string in a block of its own. The bytes object that a pattern
comes from is released only where `strdup` fails.
-/

set_option autoImplicit false

namespace Pygpgme.Source.KeyPatterns
open Pygpgme.Library.Program Pygpgme.Library.Ownership
open Pygpgme.Source.Python Pygpgme.Source.Arguments Pygpgme.Source.Memory

/-- What `strdup` returns: a block that holds the string up to its NUL. -/
structure CString where
  block : Token Resource
  text : Bytes

/-- A `char **`; `none` is NULL. -/
structure CStrings where
  block : Token Resource
  slots : List (Option CString)

def CStrings.store (patterns : CStrings) (i : Nat) (copy : CString) : CStrings :=
  { patterns with slots := patterns.slots.set i (some copy) }

/-- A reference to a bytes object, and its bytes. -/
structure BytesRef where
  ref : Token Resource
  data : Bytes

variable (fails : Nat → Bool)

/-- `PyUnicode_AsUTF8String` -/
def asUTF8String (text : List CodePoint) : Mem (Option BytesRef) := do
  if ← allocates fails then
    match encodeUtf8 text with
    | .ok data =>
      let ref ← take .bytes
      return some ⟨ref, data⟩
    | .error e =>
      setPending e
      return none
  else
    noMemory
    return none

def wrongPattern : PyExc :=
  excString .typeError "first argument must be a string or sequence of strings"

/-- The bytes of one pattern. -/
def patternBytes : PyObject → Mem (Option BytesRef)
  | .bytes data => do
    let ref ← take .bytes
    return some ⟨ref, data⟩
  | .str text => asUTF8String fails text
  | _ => do
    setPending wrongPattern
    return none

/-- `calloc(count, sizeof (char *))`, which checks the product for overflow. -/
def callocStrings (count : Nat) : Mem (Option CStrings) := do
  match ← allocate (fun n => fails n || 2 ^ 64 ≤ count * 8) .block with
  | some block => return some ⟨block, List.replicate count none⟩
  | none =>
    noMemory
    return none

/-- `strdup(PyBytes_AsString(bytes))` -/
def strdup (bytes : BytesRef) : Mem (Option CString) := do
  match ← allocate fails .block with
  | some block => return some ⟨block, cString bytes.data⟩
  | none =>
    noMemory
    release bytes.ref
    return none

/-- The loop of `free_key_patterns`; without a NULL it runs out of the array. -/
def freeStrings : List (Option CString) → Mem Unit
  | [] => crash
  | none :: _ => return
  | some copy :: rest => do
    release copy.block
    freeStrings rest

def freeKeyPatterns (patterns : CStrings) : Mem Unit := do
  freeStrings patterns.slots
  release patterns.block

/-- One pattern copied into its slot. -/
def copyPattern (i : Nat) (item : PyObject) (patterns : CStrings) : Mem (Int × CStrings) := do
  match ← patternBytes fails item with
  | none => return (-1, patterns)
  | some bytes =>
    match ← strdup fails bytes with
    | none => return (-1, patterns)
    | some copy => return (0, patterns.store i copy)

/-- The loop over a sequence. -/
def copyPatterns (i : Nat) : List PyObject → CStrings → Mem (Int × CStrings)
  | [], patterns => return (0, patterns)
  | item :: rest, patterns => do
    let (result, patterns) ← copyPattern fails i item patterns
    if result < 0 then return (result, patterns) else copyPatterns (i + 1) rest patterns

/-- From the label `end` of `parse_key_patterns`. -/
def parseEnd (list : Option (Token Resource)) (result : Int) (patterns : Option CStrings) :
    Mem (Int × Option CStrings) := do
  releaseIfAny list
  match patterns with
  | none => return (result, none)
  | some patterns =>
    if result < 0 then
      freeKeyPatterns patterns
      return (result, none)
    else return (result, some patterns)

/-- A `str` or `bytes` object by itself: its reference is taken first. -/
def parseSingle (pattern : PyObject) : Mem (Int × Option CStrings) := do
  match ← patternBytes fails pattern with
  | none => parseEnd none (-1) none
  | some bytes =>
    match ← callocStrings fails 2 with
    | none =>
      release bytes.ref
      parseEnd none (-1) none
    | some patterns =>
      match ← strdup fails bytes with
      | none => parseEnd none (-1) (some patterns)
      | some copy => parseEnd none 0 (some (patterns.store 0 copy))

/-- `length + 1` for an `int`, as the `size_t` that `calloc` gets. -/
def slotCount (items : List PyObject) : Nat :=
  ((BitVec.ofNat 32 items.length + 1).signExtend 64).toNat

def parseSequence (pattern : PyObject) : Mem (Int × Option CStrings) := do
  match sequenceFast pattern "first argument must be a string or sequence of strings" with
  | .error .crash => crash
  | .error (.raised e) =>
    setPending e
    parseEnd none (-1) none
  | .ok items =>
    let list ← take .sequence
    match ← callocStrings fails (slotCount items) with
    | none => parseEnd (some list) (-1) none
    | some patterns =>
      let (result, patterns) ← copyPatterns fails 0 (visited items) patterns
      parseEnd (some list) result (some patterns)

/-- `parse_key_patterns`: its result, and `*patterns`. -/
def parseKeyPatterns : PyObject → Mem (Int × Option CStrings)
  | .none => parseEnd none 0 none
  | .str text => parseSingle fails (.str text)
  | .bytes data => parseSingle fails (.bytes data)
  | pattern => parseSequence fails pattern

/-! ## Callers -/

def freeIfAny : Option CStrings → Mem Unit
  | some patterns => freeKeyPatterns patterns
  | none => return

/-- Whether `pygpgme_data_new` fails, and what gpgme returns for the operation. The data
object is not of interest here. -/
def contextExport (dataFails : Bool) (err : Error.GpgError) (args : List PyObject) :
    Mem (Option PyObject) := do
  match signArgs 0 args with
  | .error e =>
    setPending e
    return none
  | .ok (pattern, _, _) =>
    let (result, patterns) ← parseKeyPatterns fails pattern
    if result < 0 then return none
    else if dataFails then
      freeIfAny patterns
      return none
    else
      operate
      freeIfAny patterns
      if err = 0 then return some .none else return none

/-- `|Oi` -/
def keylistObjects : List PyObject → Except PyExc (PyObject × Int)
  | [] => .ok (.none, 0)
  | [pattern] => .ok (pattern, 0)
  | [pattern, secretOnly] => do return (pattern, ← argInt secretOnly)
  | _ => wrongCount

/-- The iterator is one more allocation. -/
def contextKeylist (err : Error.GpgError) (args : List PyObject) : Mem (Option PyObject) := do
  match keylistObjects args with
  | .error e =>
    setPending e
    return none
  | .ok (pattern, _) =>
    let (result, patterns) ← parseKeyPatterns fails pattern
    if result < 0 then return none
    else
      operate
      freeIfAny patterns
      if err ≠ 0 then return none
      else if ← allocates fails then return some (.record "gpgme.KeyIter" [])
      else
        noMemory
        return none

end Pygpgme.Source.KeyPatterns
