import Pygpgme.Guarantees.FailureDetails
import Pygpgme.Source.KeyAttributes

/-!
# Keys read back from their attributes

A program that reads every attribute of a key, and of all the objects in its lists, has
the whole key, unless gpgme's key has text or numbers that Python is not shown as they are.
-/

set_option autoImplicit false

namespace Pygpgme.Guarantees.KeyAttributes
open Pygpgme.Library.Program
open Pygpgme.Source.Python Pygpgme.Source.Error Pygpgme.Source.Results Pygpgme.Source.Utf8
open Pygpgme.Source.KeyAttributes
open Pygpgme.Source.Attributes (ModuleState)
open Pygpgme.Source.Signatures (longFromLong)
open Pygpgme.Guarantees.FailureDetails (Quiet errorValue enumValueNew_reads errorObject_reads)

variable {w : Nat}

/-! ## Reading everything -/

def typeName : KeyObject w → String
  | .key _ => "gpgme.Key"
  | .subkey _ => "gpgme.Subkey"
  | .userId _ => "gpgme.UserId"
  | .keySig _ => "gpgme.KeySig"

section
variable (m : ModuleState)

/-- `[each(item) for item in items]` -/
def readItems (each : KeyObject w → Py (Option PyObject)) :
    List (KeyObject w) → Py (Option (List PyObject))
  | [] => return some []
  | item :: rest => do
    match ← each item with
    | none => return none
    | some o =>
      match ← readItems each rest with
      | none => return none
      | some read => return some (o :: read)

def readValue (each : KeyObject w → Py (Option PyObject)) : Value w → Py (Option PyObject)
  | .object o => return some o
  | .objects items => do return (← readItems each items).map .list

/-- `{name: getattr(o, name) for name in names}` -/
def readAttributes (each : KeyObject w → Py (Option PyObject)) (o : KeyObject w) :
    List String → Py (Option (List (String × Option PyObject)))
  | [] => return some []
  | name :: rest => do
    match ← getattr m o name with
    | none => return none
    | some value =>
      match ← readValue each value with
      | none => return none
      | some shown =>
        match ← readAttributes each o rest with
        | none => return none
        | some read => return some ((name, some shown) :: read)

/-- Everything that can be read from an object, so many objects deep. -/
def readObject : Nat → KeyObject w → Py (Option PyObject)
  | 0, _ => return none
  | depth + 1, o => do
    let read ← readAttributes m (readObject depth) o ((o.getsets m).map Prod.fst)
    return read.map (.record (typeName o))

end

/-! ## What the getters give -/

/-- What a string is shown as: NULL becomes `None`. -/
def asciiValue : Option Bytes → PyObject
  | some text => .str (decodeAscii text)
  | none => .none

def utf8Value : Option Bytes → PyObject
  | some text => .str (decodeReplace text)
  | none => .none

/-- What a getter shows of a field. -/
inductive Shown (w : Nat) where
  | bit (b : Bool)
  | number (n : BitVec 32)
  | member (enum : IntEnum) (n : BitVec 32)
  | time (n : BitVec w)
  | ascii (text : Option Bytes)
  | utf8 (text : Option Bytes)
  | error (err : GpgError)
  | items (list : List (KeyObject w))

section
variable (m : ModuleState)

/-- The object that a field is shown as. -/
def Shown.value : Shown w → Value w
  | .bit b => .object (bool b)
  | .number n => .object (.int (longOfUInt w n))
  | .member enum n => .object (enum.value (longOfUInt w n))
  | .time n => .object (.int (longFromLong n))
  | .ascii text => .object (asciiValue text)
  | .utf8 text => .object (utf8Value text)
  | .error err => .object (errorValue m.toModState err)
  | .items list => .objects list

def shown : KeyObject w → List (String × Shown w)
  | .key self =>
    [("revoked", .bit self.revoked), ("expired", .bit self.expired),
      ("disabled", .bit self.disabled), ("invalid", .bit self.invalid),
      ("can_encrypt", .bit self.canEncrypt), ("can_sign", .bit self.canSign),
      ("can_certify", .bit self.canCertify), ("secret", .bit self.secret),
      ("can_authenticate", .bit self.canAuthenticate),
      ("protocol", .member m.protocolType self.protocol),
      ("issuer_serial", .ascii self.issuerSerial), ("issuer_name", .utf8 self.issuerName),
      ("chain_id", .ascii self.chainId), ("owner_trust", .member m.validityType self.ownerTrust),
      ("subkeys", .items (self.subkeys.map .subkey)), ("uids", .items (self.uids.map .userId)),
      ("keylist_mode", .member m.keylistModeType self.keylistMode)]
  | .subkey self =>
    [("revoked", .bit self.revoked), ("expired", .bit self.expired),
      ("disabled", .bit self.disabled), ("invalid", .bit self.invalid),
      ("can_encrypt", .bit self.canEncrypt), ("can_sign", .bit self.canSign),
      ("can_certify", .bit self.canCertify), ("secret", .bit self.secret),
      ("can_authenticate", .bit self.canAuthenticate),
      ("pubkey_algo", .member m.pubkeyAlgoType self.pubkeyAlgo), ("length", .number self.length),
      ("keyid", .ascii self.keyid), ("fpr", .ascii self.fpr), ("timestamp", .time self.timestamp),
      ("expires", .time self.expires)]
  | .userId self =>
    [("revoked", .bit self.revoked), ("invalid", .bit self.invalid),
      ("validity", .member m.validityType self.validity), ("uid", .utf8 self.uid),
      ("name", .utf8 self.name), ("email", .utf8 self.email), ("comment", .utf8 self.comment),
      ("signatures", .items (self.signatures.map .keySig))]
  | .keySig self =>
    [("revoked", .bit self.revoked), ("expired", .bit self.expired),
      ("invalid", .bit self.invalid), ("exportable", .bit self.exportable),
      ("pubkey_algo", .member m.pubkeyAlgoType self.pubkeyAlgo), ("keyid", .ascii self.keyid),
      ("timestamp", .time self.timestamp), ("expires", .time self.expires),
      ("status", .error self.status), ("uid", .utf8 self.uid), ("name", .utf8 self.name),
      ("email", .utf8 self.email), ("comment", .utf8 self.comment),
      ("sig_class", .number self.sigClass)]

/-- A getter gives what is shown. -/
structure Shows (s : Shown w) (getter : Py (Option (Value w))) : Prop where
  reads : Reads Quiet getter (some (s.value m))

/-- A getter that returns one object. -/
theorem shows_object {p : Py (Option PyObject)} {o : PyObject} {s : Shown w}
    (same : s.value m = .object o) (reads : Reads Quiet p (some o)) : Shows m s (plain p) := by
  refine ⟨?_⟩
  rw [same]
  exact reads.bind (reads_pure _)

theorem shows_bit (b : Bool) : Shows m (.bit b : Shown w) (plain (boolFromBit b)) := by
  refine shows_object m rfl ?_
  cases b <;> exact reads_pure _

theorem shows_number (n : BitVec 32) : Shows m (.number n : Shown w) (plain (longFromUInt w n)) :=
  shows_object m rfl (reads_pure _)

theorem shows_member (enum : IntEnum) (n : BitVec 32) :
    Shows m (.member enum n : Shown w) (plain (enumValueNew enum (longOfUInt w n))) :=
  shows_object m rfl (enumValueNew_reads enum _)

theorem shows_time (n : BitVec w) : Shows m (.time n) (plain (longFromTime n)) :=
  shows_object m rfl (reads_pure _)

theorem shows_ascii (text : Option Bytes) :
    Shows m (.ascii text : Shown w) (plain (asciiOrNone text)) := by
  refine shows_object m rfl ?_
  cases text <;> exact reads_pure _

theorem shows_utf8 (text : Option Bytes) :
    Shows m (.utf8 text : Shown w) (plain (utf8OrNone text)) := by
  refine shows_object m rfl ?_
  cases text <;> exact reads_pure _

theorem shows_error (err : GpgError) :
    Shows m (.error err : Shown w) (plain (errorObject m.toModState err)) :=
  shows_object m rfl (errorObject_reads m.toModState err)

/-- A list of nodes is shown as a list of wrappers, in the same order. -/
theorem shows_items {α : Type} (wrap : α → KeyObject w) (nodes : List α) :
    Shows m (.items (nodes.map wrap)) (items wrap nodes) := ⟨reads_pure _⟩

/-- The getters of a table show the fields of another, under the same names. -/
abbrev Shows.All (fields : List (String × Shown w)) (getsets : Getsets w) : Prop :=
  List.Forall₂ (fun f g => f.1 = g.1 ∧ Shows m f.2 g.2) fields getsets

/-- One field after the other. -/
theorem shows_cons {name : String} {s : Shown w} {getter : Py (Option (Value w))}
    {fields : List (String × Shown w)} {getsets : Getsets w} (shows : Shows m s getter)
    (rest : Shows.All m fields getsets) :
    Shows.All m ((name, s) :: fields) ((name, getter) :: getsets) := .cons ⟨rfl, shows⟩ rest

/-- The specification against the table of getters, field by field. -/
theorem getsets_show (o : KeyObject w) : Shows.All m (shown m o) (o.getsets m) := by
  cases o <;> repeat' first
    | exact List.Forall₂.nil
    | refine shows_cons m (shows_bit m _) ?_
    | refine shows_cons m (shows_utf8 m _) ?_
    | refine shows_cons m (shows_ascii m _) ?_
    | refine shows_cons m (shows_member m _ _) ?_
    | refine shows_cons m (shows_time m _) ?_
    | refine shows_cons m (shows_number m _) ?_
    | refine shows_cons m (shows_error m _) ?_
    | refine shows_cons m (shows_items m _ _) ?_

theorem shows_names {fields : List (String × Shown w)} {getsets : Getsets w}
    (shows : Shows.All m fields getsets) : getsets.map Prod.fst = fields.map Prod.fst := by
  induction shows with
  | nil => rfl
  | cons first _ ih => rw [List.map_cons, List.map_cons, first.1, ih]

/-- The names of a table lead to its getters. -/
theorem lookup_shows {fields : List (String × Shown w)} {getsets : Getsets w}
    (shows : Shows.All m fields getsets) (distinct : (fields.map Prod.fst).Nodup) {name : String}
    {s : Shown w} (mem : (name, s) ∈ fields) :
    ∃ getter, getsets.lookup name = some getter ∧ Shows m s getter := by
  induction shows with
  | nil => cases mem
  | @cons field getset fields getsets first _ ih =>
    obtain ⟨fresh, distinct⟩ := List.nodup_cons.mp distinct
    obtain ⟨other, getter⟩ := getset
    rcases List.mem_cons.mp mem with rfl | later
    · obtain rfl : name = other := first.1
      exact ⟨getter, List.lookup_cons_self, first.2⟩
    · obtain ⟨found, at_, shows⟩ := ih distinct later
      refine ⟨found, ?_, shows⟩
      have differs : name ≠ other := by
        rintro rfl
        exact fresh (first.1 ▸ List.mem_map_of_mem later)
      rw [List.lookup_cons, beq_false_of_ne differs]
      exact at_

theorem shown_distinct (o : KeyObject w) : ((shown m o).map Prod.fst).Nodup := by
  cases o <;> simp [shown]

/-- Every attribute can be read, and reading leaves nothing pending. -/
theorem getattr_reads {o : KeyObject w} {name : String} {s : Shown w}
    (mem : (name, s) ∈ shown m o) : Reads Quiet (getattr m o name) (some (s.value m)) := by
  obtain ⟨getter, found, shows⟩ :=
    lookup_shows m (getsets_show m o) (shown_distinct m o) mem
  rw [getattr, found]
  exact shows.reads

/-! ## What the program has read -/

def viewValue (each : KeyObject w → PyObject) : Value w → PyObject
  | .object o => o
  | .objects list => .list (list.map each)

/-- A whole object as it is shown, down to some depth. -/
def view : Nat → KeyObject w → PyObject
  | 0, _ => .none
  | depth + 1, o =>
    .record (typeName o)
      ((shown m o).map fun f => (f.1, some (viewValue (view depth) (f.2.value m))))

/-- How many objects deep there is something to read. -/
def height : KeyObject w → Nat
  | .subkey _ | .keySig _ => 1
  | .userId _ => 2
  | .key _ => 3

/-- By induction on the items, each of which is read by itself. -/
theorem readItems_reads {each : KeyObject w → Py (Option PyObject)} {seen : KeyObject w → PyObject}
    (list : List (KeyObject w)) (reads : ∀ o ∈ list, Reads Quiet (each o) (some (seen o))) :
    Reads Quiet (readItems each list) (some (list.map seen)) := by
  induction list with
  | nil => exact reads_pure _
  | cons o rest ih =>
    refine (reads o List.mem_cons_self).bind ?_
    exact (ih fun p mem => reads p (List.mem_cons_of_mem o mem)).bind (reads_pure _)

theorem readValue_reads {each : KeyObject w → Py (Option PyObject)}
    {seen : KeyObject w → PyObject} (value : Value w)
    (reads : ∀ list, value = .objects list → ∀ o ∈ list, Reads Quiet (each o) (some (seen o))) :
    Reads Quiet (readValue each value) (some (viewValue seen value)) := by
  cases value with
  | object o => exact reads_pure _
  | objects list => exact (readItems_reads list (reads list rfl)).bind (reads_pure _)

theorem readAttributes_reads {each : KeyObject w → Py (Option PyObject)}
    {seen : KeyObject w → PyObject} {o : KeyObject w} (fields : List (String × Shown w))
    (known : ∀ f ∈ fields, f ∈ shown m o)
    (reads : ∀ f ∈ fields, Reads Quiet (readValue each (f.2.value m))
      (some (viewValue seen (f.2.value m)))) :
    Reads Quiet (readAttributes m each o (fields.map Prod.fst))
      (some (fields.map fun f => (f.1, some (viewValue seen (f.2.value m))))) := by
  induction fields with
  | nil => exact reads_pure _
  | cons f rest ih =>
    refine (getattr_reads m (known f List.mem_cons_self)).bind ?_
    refine (reads f List.mem_cons_self).bind ?_
    refine (ih (fun g mem => known g (List.mem_cons_of_mem f mem)) fun g mem =>
      reads g (List.mem_cons_of_mem f mem)).bind ?_
    exact reads_pure _

/-- What is in the lists of an object is less high. -/
theorem height_items {o item : KeyObject w} {name : String} {list : List (KeyObject w)}
    (mem : (name, .items list) ∈ shown m o) (item_mem : item ∈ list) : height item < height o := by
  cases o <;> simp only [shown, List.mem_cons, Prod.mk.injEq, reduceCtorEq, and_false, false_or,
    or_false, Shown.items.injEq, List.not_mem_nil] at mem
  next self =>
    rcases mem with ⟨-, rfl⟩ | ⟨-, rfl⟩ <;>
      obtain ⟨node, -, rfl⟩ := List.mem_map.mp item_mem <;> simp [height]
  next self =>
    obtain ⟨-, rfl⟩ := mem
    obtain ⟨node, -, rfl⟩ := List.mem_map.mp item_mem
    simp [height]

/-- By induction on the depth: an item is lower than the object it belongs to. -/
theorem readObject_reads (depth : Nat) : ∀ o : KeyObject w, height o ≤ depth →
    Reads Quiet (readObject m depth o) (some (view m depth o)) := by
  induction depth with
  | zero =>
    intro o flat
    cases o <;> simp [height] at flat
  | succ depth ih =>
    intro o deep
    rw [readObject, shows_names m (getsets_show m o)]
    refine (readAttributes_reads m (shown m o) (fun _ mem => mem) fun f mem => ?_).bind
      (reads_pure _)
    refine readValue_reads _ fun list same item item_mem => ?_
    obtain ⟨name, s⟩ := f
    cases s <;> cases same
    exact ih item (Nat.le_of_lt_succ (Nat.lt_of_lt_of_le (height_items m mem item_mem) deep))

end

/-! ## From the attributes back to the key -/

def attr {α : Type} (o : PyObject) (name : String) (read : PyObject → Option α) : Option α :=
  match o with
  | .record _ fields => ((fields.lookup name).bind id).bind read
  | _ => none

/-- What the bit field held, for an object that can come from one. -/
def bitOf : PyObject → Option Bool
  | .int 0 => some false
  | .int 1 => some true
  | _ => none

def numberOf (o : PyObject) : Option (BitVec 32) := do
  let n ← o.long?
  if 0 ≤ n ∧ n < 2 ^ 32 then some (BitVec.ofInt 32 n) else none

def timeOf (w : Nat) (o : PyObject) : Option (BitVec w) := o.long?.map (BitVec.ofInt w)

def asciiOf : PyObject → Option (Option Bytes)
  | .none => some none
  | .str text =>
    if text.all (·.val < 0x80) then some (some (text.map fun c => UInt8.ofNat c.val)) else none
  | _ => none

def utf8Of : PyObject → Option (Option Bytes)
  | .none => some none
  | .str text => if encodable text then some (some (utf8 text)) else none
  | _ => none

/-- The source and the code of a `GpgmeError` make up its number again. -/
def errorOf : PyObject → Option GpgError
  | .none => some noError
  | .exc _ _ attrs => do
    let source ← numberOf (← attrs.lookup "source")
    let code ← numberOf (← attrs.lookup "code")
    return errMake source code
  | _ => none

def listOf {α : Type} (read : PyObject → Option α) : PyObject → Option (List α)
  | .list items => items.mapM read
  | _ => none

def keySigOf (o : PyObject) : Option (CKeySig w) := do
  return {
    revoked := ← attr o "revoked" bitOf
    expired := ← attr o "expired" bitOf
    invalid := ← attr o "invalid" bitOf
    exportable := ← attr o "exportable" bitOf
    pubkeyAlgo := ← attr o "pubkey_algo" numberOf
    keyid := ← attr o "keyid" asciiOf
    timestamp := ← attr o "timestamp" (timeOf w)
    expires := ← attr o "expires" (timeOf w)
    status := ← attr o "status" errorOf
    uid := ← attr o "uid" utf8Of
    name := ← attr o "name" utf8Of
    email := ← attr o "email" utf8Of
    comment := ← attr o "comment" utf8Of
    sigClass := ← attr o "sig_class" numberOf }

def subkeyOf (o : PyObject) : Option (CSubkey w) := do
  return {
    revoked := ← attr o "revoked" bitOf
    expired := ← attr o "expired" bitOf
    disabled := ← attr o "disabled" bitOf
    invalid := ← attr o "invalid" bitOf
    canEncrypt := ← attr o "can_encrypt" bitOf
    canSign := ← attr o "can_sign" bitOf
    canCertify := ← attr o "can_certify" bitOf
    secret := ← attr o "secret" bitOf
    canAuthenticate := ← attr o "can_authenticate" bitOf
    pubkeyAlgo := ← attr o "pubkey_algo" numberOf
    length := ← attr o "length" numberOf
    keyid := ← attr o "keyid" asciiOf
    fpr := ← attr o "fpr" asciiOf
    timestamp := ← attr o "timestamp" (timeOf w)
    expires := ← attr o "expires" (timeOf w) }

def userIdOf (o : PyObject) : Option (CUserId w) := do
  return {
    revoked := ← attr o "revoked" bitOf
    invalid := ← attr o "invalid" bitOf
    validity := ← attr o "validity" numberOf
    uid := ← attr o "uid" utf8Of
    name := ← attr o "name" utf8Of
    email := ← attr o "email" utf8Of
    comment := ← attr o "comment" utf8Of
    signatures := ← attr o "signatures" (listOf keySigOf) }

def keyOf (o : PyObject) : Option (CKey w) := do
  return {
    revoked := ← attr o "revoked" bitOf
    expired := ← attr o "expired" bitOf
    disabled := ← attr o "disabled" bitOf
    invalid := ← attr o "invalid" bitOf
    canEncrypt := ← attr o "can_encrypt" bitOf
    canSign := ← attr o "can_sign" bitOf
    canCertify := ← attr o "can_certify" bitOf
    secret := ← attr o "secret" bitOf
    canAuthenticate := ← attr o "can_authenticate" bitOf
    protocol := ← attr o "protocol" numberOf
    issuerSerial := ← attr o "issuer_serial" asciiOf
    issuerName := ← attr o "issuer_name" utf8Of
    chainId := ← attr o "chain_id" asciiOf
    ownerTrust := ← attr o "owner_trust" numberOf
    subkeys := ← attr o "subkeys" (listOf subkeyOf)
    uids := ← attr o "uids" (listOf userIdOf)
    keylistMode := ← attr o "keylist_mode" numberOf }

/-! ## What Python is shown as it is -/

/-- An `unsigned int` that a `long` can hold. -/
def Fits (w : Nat) (n : BitVec 32) : Prop := 2 * n.toNat < 2 ^ w

def AsciiText (text : Option Bytes) : Prop := ∀ data, text = some data → ∀ b ∈ data, b < 0x80

def Utf8Text (text : Option Bytes) : Prop :=
  ∀ data, text = some data → ∃ chars, encodable chars = true ∧ utf8 chars = data

/-- No bits but those of a source and a code, and no source without a code. -/
def Packed (err : GpgError) : Prop := errMake (errSource err) (errCode err) = err

/-- A `long` shows an unsigned number unless its top bit is the sign. -/
theorem longOfUInt_eq_iff (n : BitVec 32) : longOfUInt w n = n.toNat ↔ Fits w n := by
  unfold longOfUInt longFromLong Fits
  rw [BitVec.toInt_eq_toNat_cond, BitVec.toNat_setWidth]
  have bound := Nat.mod_lt n.toNat (Nat.two_pow_pos w)
  have whole := Nat.mod_eq_of_lt (a := n.toNat) (b := 2 ^ w)
  have fewer := Nat.mod_le n.toNat (2 ^ w)
  split <;> omega

theorem bitOf_bool (b : Bool) : bitOf (bool b) = some b := by cases b <;> rfl

theorem timeOf_long (n : BitVec w) : timeOf w (.int (longFromLong n)) = some n :=
  congrArg some BitVec.ofInt_toInt

theorem numberOf_eq_iff {o : PyObject} {v : Int} (long : o.long? = some v) (n : BitVec 32) :
    numberOf o = some n ↔ v = n.toNat := by
  have bound := n.isLt
  simp only [numberOf, long, Option.bind_eq_bind, Option.bind_some]
  split
  next fits =>
    rw [Option.some.injEq, ← BitVec.toNat_inj, BitVec.toNat_ofInt]
    omega
  next unfit =>
    constructor
    · intro none_
      cases none_
    · intro same
      omega

/-- So a number is kept when it fits. -/
theorem number_kept (n : BitVec 32) : numberOf (.int (longOfUInt w n)) = some n ↔ Fits w n := by
  rw [numberOf_eq_iff rfl, longOfUInt_eq_iff]

theorem member_kept (enum : IntEnum) (n : BitVec 32) :
    numberOf (enum.value (longOfUInt w n)) = some n ↔ Fits w n := by
  rw [numberOf_eq_iff (IntEnum.long?_value enum _), longOfUInt_eq_iff]

/-- A byte that is not ASCII is replaced, and lost. -/
theorem ascii_kept (text : Option Bytes) :
    asciiOf (asciiValue text) = some text ↔ AsciiText text := by
  cases text with
  | none => simp [asciiOf, asciiValue, AsciiText]
  | some data =>
    have valid : (decodeAscii data).all (·.val < 0x80) = true ↔ ∀ b ∈ data, b < 0x80 := by
      rw [decodeAscii, List.all_map, List.all_eq_true]
      refine forall₂_congr fun b _ => ?_
      have large : ¬ replacement.val < 0x80 := by decide
      by_cases small : b < 0x80
      · have bound : b.toNat < 0x80 := small
        simp [small]
        omega
      · simp [small, large]
    have same (ascii : ∀ b ∈ data, b < 0x80) :
        (decodeAscii data).map (fun c => UInt8.ofNat c.val) = data := by
      rw [decodeAscii, List.map_map]
      refine (List.map_congr_left fun b mem => ?_).trans (List.map_id data)
      have bound : b.toNat < 0x110000 := b.toNat_lt.trans (by decide)
      simp [ascii b mem, Nat.mod_eq_of_lt bound]
    simp only [asciiOf, asciiValue, valid, AsciiText, Option.some.injEq, forall_eq']
    split
    next ascii =>
      rw [same ascii]
      exact iff_of_true rfl ascii
    next other => exact iff_of_false nofun other

/-- What was decoded with replacement is all characters. -/
theorem encodable_decodeReplace (data : Bytes) : encodable (decodeReplace data) = true := by
  have scalar (c : Char) : surrogate (codePoint c) = false := by
    have valid : c.toNat.isValidChar := c.valid
    unfold Nat.isValidChar at valid
    simp only [surrogate, Bool.and_eq_false_iff, decide_eq_false_iff_not]
    change ¬ 0xd800 ≤ c.toNat ∨ ¬ c.toNat ≤ 0xdfff
    omega
  fun_induction decodeReplace data with
  | case1 => rfl
  | case2 b rest c found ih => exact (encodable_cons _ _).mpr ⟨scalar c, ih⟩
  | case3 b rest none_ ih => exact (encodable_cons _ _).mpr ⟨rfl, ih⟩

/-- What is not UTF-8 is replaced, and lost. -/
theorem utf8_kept (text : Option Bytes) : utf8Of (utf8Value text) = some text ↔ Utf8Text text := by
  cases text with
  | none => simp [utf8Of, utf8Value, Utf8Text]
  | some data =>
    have valid := encodable_decodeReplace data
    simp only [utf8Of, utf8Value, valid, if_true, Option.some.injEq, Utf8Text, forall_eq']
    constructor
    · exact fun same => ⟨decodeReplace data, valid, same⟩
    · rintro ⟨chars, encodes, rfl⟩
      rw [decodeReplace_utf8 encodes]

/-- Bits outside of the source and the code are lost. -/
theorem error_kept (state : ModState) (err : GpgError) :
    errorOf (errorValue state err) = some err ↔ Packed err := by
  unfold errorValue
  split
  next success =>
    subst success
    exact iff_of_true rfl rfl
  next failure =>
    have field (enum : IntEnum) (n : BitVec 32) : numberOf (enum.value n.toNat) = some n :=
      (numberOf_eq_iff (IntEnum.long?_value enum _) n).mpr rfl
    have read : errorOf (errorExc state err).toObject = (do
        let source ← numberOf (state.errSourceType.value (errSource err).toNat)
        let code ← numberOf (state.errCodeType.value (errCode err).toNat)
        return errMake source code) := rfl
    rw [read, field, field]
    exact Option.some_inj


/-! ## The whole key -/

structure SubkeyKept (subkey : CSubkey w) : Prop where
  pubkeyAlgo : Fits w subkey.pubkeyAlgo
  length : Fits w subkey.length
  keyid : AsciiText subkey.keyid
  fpr : AsciiText subkey.fpr

structure KeySigKept (sig : CKeySig w) : Prop where
  pubkeyAlgo : Fits w sig.pubkeyAlgo
  keyid : AsciiText sig.keyid
  status : Packed sig.status
  uid : Utf8Text sig.uid
  name : Utf8Text sig.name
  email : Utf8Text sig.email
  comment : Utf8Text sig.comment
  sigClass : Fits w sig.sigClass

structure UserIdKept (id : CUserId w) : Prop where
  validity : Fits w id.validity
  uid : Utf8Text id.uid
  name : Utf8Text id.name
  email : Utf8Text id.email
  comment : Utf8Text id.comment
  signatures : ∀ sig ∈ id.signatures, KeySigKept sig

structure KeyKept (key : CKey w) : Prop where
  protocol : Fits w key.protocol
  issuerSerial : AsciiText key.issuerSerial
  issuerName : Utf8Text key.issuerName
  chainId : AsciiText key.chainId
  ownerTrust : Fits w key.ownerTrust
  subkeys : ∀ subkey ∈ key.subkeys, SubkeyKept subkey
  uids : ∀ uid ∈ key.uids, UserIdKept uid
  keylistMode : Fits w key.keylistMode

section
variable (m : ModuleState)

/-- A list is read back if each of its items is. -/
theorem listOf_iff {α : Type} {read : PyObject → Option α} {seen : α → PyObject}
    {Kept : α → Prop} (each : ∀ a, read (seen a) = some a ↔ Kept a) (nodes : List α) :
    listOf read (.list (nodes.map seen)) = some nodes ↔ ∀ a ∈ nodes, Kept a := by
  simp only [listOf, List.mapM_map]
  induction nodes with
  | nil => simp
  | cons a rest ih =>
    rw [List.forall_mem_cons, ← each a, ← ih]
    simp only [List.mapM_cons, Option.bind_eq_bind, Option.bind_eq_some_iff, pure,
      Option.some.injEq, List.cons.injEq, Function.comp_apply]
    constructor
    · rintro ⟨_, first, _, others, rfl, rfl⟩
      exact ⟨first, others⟩
    · rintro ⟨first, others⟩
      exact ⟨a, first, rest, others, rfl, rfl⟩

/-- A subkey is read back from its attributes exactly when each field is kept. -/
theorem subkey_read (depth : Nat) (self : CSubkey w) :
    subkeyOf (view m (depth + 1) (.subkey self)) = some self ↔ SubkeyKept self := by
  change (do
    return CSubkey.mk (← bitOf (bool self.revoked)) (← bitOf (bool self.expired))
      (← bitOf (bool self.disabled)) (← bitOf (bool self.invalid))
      (← bitOf (bool self.canEncrypt)) (← bitOf (bool self.canSign))
      (← bitOf (bool self.canCertify)) (← bitOf (bool self.secret))
      (← bitOf (bool self.canAuthenticate))
      (← numberOf (m.pubkeyAlgoType.value (longOfUInt w self.pubkeyAlgo)))
      (← numberOf (.int (longOfUInt w self.length))) (← asciiOf (asciiValue self.keyid))
      (← asciiOf (asciiValue self.fpr)) (← timeOf w (.int (longFromLong self.timestamp)))
      (← timeOf w (.int (longFromLong self.expires)))) = some self ↔ _
  simp only [bitOf_bool, timeOf_long, Option.bind_eq_bind, Option.bind_some, pure,
    Option.bind_eq_some_iff, Option.some.injEq]
  constructor
  · rintro ⟨algo, readAlgo, length, readLength, keyid, readKeyid, fpr, readFpr, same⟩
    cases self
    cases same
    exact ⟨(member_kept _ algo).mp readAlgo, (number_kept length).mp readLength,
      (ascii_kept keyid).mp readKeyid, (ascii_kept fpr).mp readFpr⟩
  · intro kept
    exact ⟨_, (member_kept _ _).mpr kept.pubkeyAlgo, _, (number_kept _).mpr kept.length, _,
      (ascii_kept _).mpr kept.keyid, _, (ascii_kept _).mpr kept.fpr, rfl⟩

theorem keySig_read (depth : Nat) (self : CKeySig w) :
    keySigOf (view m (depth + 1) (.keySig self)) = some self ↔ KeySigKept self := by
  change (do
    return CKeySig.mk (← bitOf (bool self.revoked)) (← bitOf (bool self.expired))
      (← bitOf (bool self.invalid)) (← bitOf (bool self.exportable))
      (← numberOf (m.pubkeyAlgoType.value (longOfUInt w self.pubkeyAlgo)))
      (← asciiOf (asciiValue self.keyid)) (← timeOf w (.int (longFromLong self.timestamp)))
      (← timeOf w (.int (longFromLong self.expires)))
      (← errorOf (errorValue m.toModState self.status)) (← utf8Of (utf8Value self.uid))
      (← utf8Of (utf8Value self.name)) (← utf8Of (utf8Value self.email))
      (← utf8Of (utf8Value self.comment))
      (← numberOf (.int (longOfUInt w self.sigClass)))) = some self ↔ _
  simp only [bitOf_bool, timeOf_long, Option.bind_eq_bind, Option.bind_some, pure,
    Option.bind_eq_some_iff, Option.some.injEq]
  constructor
  · rintro ⟨algo, readAlgo, keyid, readKeyid, status, readStatus, uid, readUid, name, readName,
      email, readEmail, comment, readComment, sigClass, readClass, same⟩
    cases self
    cases same
    exact ⟨(member_kept _ algo).mp readAlgo, (ascii_kept keyid).mp readKeyid,
      (error_kept _ status).mp readStatus, (utf8_kept uid).mp readUid,
      (utf8_kept name).mp readName, (utf8_kept email).mp readEmail,
      (utf8_kept comment).mp readComment, (number_kept sigClass).mp readClass⟩
  · intro kept
    exact ⟨_, (member_kept _ _).mpr kept.pubkeyAlgo, _, (ascii_kept _).mpr kept.keyid, _,
      (error_kept _ _).mpr kept.status, _, (utf8_kept _).mpr kept.uid, _,
      (utf8_kept _).mpr kept.name, _, (utf8_kept _).mpr kept.email, _,
      (utf8_kept _).mpr kept.comment, _, (number_kept _).mpr kept.sigClass, rfl⟩

/-- A user ID is read back with its signatures. -/
theorem userId_read (depth : Nat) (self : CUserId w) :
    userIdOf (view m (depth + 2) (.userId self)) = some self ↔ UserIdKept self := by
  change (do
    return CUserId.mk (← bitOf (bool self.revoked)) (← bitOf (bool self.invalid))
      (← numberOf (m.validityType.value (longOfUInt w self.validity)))
      (← utf8Of (utf8Value self.uid)) (← utf8Of (utf8Value self.name))
      (← utf8Of (utf8Value self.email)) (← utf8Of (utf8Value self.comment))
      (← listOf keySigOf (.list ((self.signatures.map .keySig).map
        (view m (depth + 1)))))) = some self ↔ _
  have signatures (list : List (CKeySig w)) := listOf_iff (keySig_read m depth) list
  simp only [bitOf_bool, Option.bind_eq_bind, Option.bind_some, pure, List.map_map,
    Option.bind_eq_some_iff, Option.some.injEq]
  constructor
  · rintro ⟨validity, readValidity, uid, readUid, name, readName, email, readEmail, comment,
      readComment, list, readList, same⟩
    cases self
    cases same
    exact ⟨(member_kept _ validity).mp readValidity, (utf8_kept uid).mp readUid,
      (utf8_kept name).mp readName, (utf8_kept email).mp readEmail,
      (utf8_kept comment).mp readComment, (signatures list).mp readList⟩
  · intro kept
    exact ⟨_, (member_kept _ _).mpr kept.validity, _, (utf8_kept _).mpr kept.uid, _,
      (utf8_kept _).mpr kept.name, _, (utf8_kept _).mpr kept.email, _,
      (utf8_kept _).mpr kept.comment, _, (signatures _).mpr kept.signatures, rfl⟩

theorem key_read (self : CKey w) :
    keyOf (view m 3 (.key self)) = some self ↔ KeyKept self := by
  change (do
    return CKey.mk (← bitOf (bool self.revoked)) (← bitOf (bool self.expired))
      (← bitOf (bool self.disabled)) (← bitOf (bool self.invalid))
      (← bitOf (bool self.canEncrypt)) (← bitOf (bool self.canSign))
      (← bitOf (bool self.canCertify)) (← bitOf (bool self.secret))
      (← bitOf (bool self.canAuthenticate))
      (← numberOf (m.protocolType.value (longOfUInt w self.protocol)))
      (← asciiOf (asciiValue self.issuerSerial)) (← utf8Of (utf8Value self.issuerName))
      (← asciiOf (asciiValue self.chainId))
      (← numberOf (m.validityType.value (longOfUInt w self.ownerTrust)))
      (← listOf subkeyOf (.list ((self.subkeys.map .subkey).map (view m 2))))
      (← listOf userIdOf (.list ((self.uids.map .userId).map (view m 2))))
      (← numberOf (m.keylistModeType.value (longOfUInt w self.keylistMode)))) =
        some self ↔ _
  have subkeys (list : List (CSubkey w)) := listOf_iff (subkey_read m 1) list
  have uids (list : List (CUserId w)) := listOf_iff (userId_read m 0) list
  simp only [bitOf_bool, Option.bind_eq_bind, Option.bind_some, pure, List.map_map,
    Option.bind_eq_some_iff, Option.some.injEq]
  constructor
  · rintro ⟨protocol, readProtocol, serial, readSerial, name, readName, chain, readChain, trust,
      readTrust, subkeyList, readSubkeys, uidList, readUids, mode, readMode, same⟩
    cases self
    cases same
    exact ⟨(member_kept _ protocol).mp readProtocol, (ascii_kept serial).mp readSerial,
      (utf8_kept name).mp readName, (ascii_kept chain).mp readChain,
      (member_kept _ trust).mp readTrust, (subkeys subkeyList).mp readSubkeys,
      (uids uidList).mp readUids, (member_kept _ mode).mp readMode⟩
  · intro kept
    exact ⟨_, (member_kept _ _).mpr kept.protocol, _, (ascii_kept _).mpr kept.issuerSerial, _,
      (utf8_kept _).mpr kept.issuerName, _, (ascii_kept _).mpr kept.chainId, _,
      (member_kept _ _).mpr kept.ownerTrust, _, (subkeys _).mpr kept.subkeys, _,
      (uids _).mpr kept.uids, _, (member_kept _ _).mpr kept.keylistMode, rfl⟩

/-- A program that reads everything there is has the key, and leaves no trace. -/
def ReadBack (k : CKey w) : Prop :=
  ∀ s, s.pending = none → achieves (readObject m 3 (.key k)) s fun r s' =>
    s' = s ∧ r.bind keyOf = some k

/-- A key can be read back, with all its subkeys, user IDs and their signatures, if and
only if its text is in the encodings that Python is told, its numbers fit into a `long`
and its errors are packed. -/
theorem read_back_kept_iff (k : CKey w) : ReadBack m k ↔ KeyKept k := by
  rw [← key_read m k]
  have reads := readObject_reads m 3 (.key k) (Nat.le_refl 3)
  constructor
  · intro readBack
    exact ((reads.achieves_iff rfl _).mp (readBack Interp.clean rfl)).2
  · intro kept s quiet
    exact (reads.achieves_iff quiet _).mpr ⟨rfl, kept⟩

end

end Pygpgme.Guarantees.KeyAttributes
