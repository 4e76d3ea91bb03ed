import Mathlib.Data.List.Forall2
import Pygpgme.Guarantees.FailureDetails
import Pygpgme.Source.Signatures

/-!
# Signatures as Python sees them

What each attribute of a signature and each notation must be, read off the C structures;
`pygpgme_siglist_new` gives that, except for a timestamp that is negative as a `long`.
-/

set_option autoImplicit false

namespace Pygpgme.Guarantees.SignatureResults
open Pygpgme.Library.Program
open Pygpgme.Source.Python Pygpgme.Source.Error Pygpgme.Source.Signatures
open Pygpgme.Source.Results hiding siglistNew
open Pygpgme.Guarantees.FailureDetails (errorValue signature siglistNew_reads plainModule)

variable {w : Nat}

/-! ## What each attribute must be -/

/-- A `GpgmeError` with the source and the code of `err`. -/
def IsErrorOf (err : GpgError) (o : PyObject) : Prop :=
  ∃ args attrs, o = .exc .gpgmeError args attrs ∧
    (attrs.lookup "source").bind PyObject.long? = some (errSource err).toNat ∧
    (attrs.lookup "code").bind PyObject.long? = some (errCode err).toNat

/-- `None` for 0 only. -/
def ErrorConverted (err : GpgError) (o : PyObject) : Prop :=
  (o = .none ↔ err = noError) ∧ (err ≠ noError → IsErrorOf err o)

/-- A human readable notation has a `str`, any other has as many bytes as there are at
`value`. -/
structure NotationConverted (c : CNotation) (n : SigNotation) : Prop where
  name : n.name = none ↔ c.name = none
  value : (∃ text, n.value = .text text) ↔ humanReadable c.flags = true
  bytes : humanReadable c.flags = false →
    ∃ data, n.value = .data data ∧ data = c.value.take c.valueLen ∧ data.length = c.valueLen

/-- The attribute of that name has the property. -/
def Attr (fields : List (String × Option PyObject)) (name : String) (p : PyObject → Prop) :
    Prop :=
  ∃ o, fields.lookup name = some (some o) ∧ p o

structure SignatureConverted (sig : CSignature w) (fields : List (String × Option PyObject)) :
    Prop where
  timestamp : Attr fields "timestamp" (· = .int sig.timestamp.toNat)
  expTimestamp : Attr fields "exp_timestamp" (· = .int sig.expTimestamp.toNat)
  status : Attr fields "status" (ErrorConverted sig.status)
  validityReason : Attr fields "validity_reason" (ErrorConverted sig.validityReason)
  fpr : Attr fields "fpr" fun o => o = .none ↔ sig.fpr = none
  notations : Attr fields "notations" fun o => ∃ items : List SigNotation,
    o = .list (items.map fun n => .sigNotation (some n)) ∧
      List.Forall₂ NotationConverted sig.notations items

/-- A list of as many `Signature` objects in the same order, each with the attributes of
its signature. Conversions are made with no exception pending. -/
def ConvertedExactly (m : Module) (siglist : List (CSignature w)) : Prop :=
  ∀ s, s.pending = none → achieves (siglistNew m siglist) s fun r s' => s' = s ∧
    ∃ items : List (List (String × Option PyObject)),
      r = some (.list (items.map (.record "gpgme.Signature"))) ∧
        List.Forall₂ SignatureConverted siglist items

/-! ## What the conversions give -/

theorem errorValue_converted (state : ModState) (err : GpgError) :
    ErrorConverted err (errorValue state err) := by
  unfold errorValue
  split
  next success => simp [ErrorConverted, success]
  next failure =>
    refine ⟨iff_of_false (by simp [PyExc.toObject]) failure, ?_⟩
    intro _
    exact ⟨_, _, rfl, IntEnum.long?_value _ _, IntEnum.long?_value _ _⟩

theorem notationNew_converted (m : Module) (c : CNotation) :
    NotationConverted c (notationNew m c.read) where
  name := by simp [notationNew]
  value := (notationNew m c.read).typed.symm
  bytes := by
    intro binary
    refine ⟨c.read.value, ?_, rfl, length_value_read c⟩
    simp [notationNew, binary]

/-- A conversion to `long` keeps the lower half of the unsigned numbers. -/
theorem longFromLong_eq_iff (n : BitVec w) : longFromLong n = n.toNat ↔ 2 * n.toNat < 2 ^ w := by
  unfold longFromLong
  rw [BitVec.toInt_eq_toNat_cond]
  have bound := n.isLt
  split <;> omega

/-- The attributes of one signature. -/
def attributes (m : Module) (sig : Sig) : List (String × Option PyObject) :=
  match signature m sig with
  | .record _ fields => fields
  | _ => []

theorem record_injective : Function.Injective (PyObject.record "gpgme.Signature") := by
  intro fields fields' same
  exact (PyObject.record.inj same).2

theorem signature_converted_iff (m : Module) (sig : CSignature w) :
    SignatureConverted sig (attributes m sig.read) ↔
      2 * sig.timestamp.toNat < 2 ^ w ∧ 2 * sig.expTimestamp.toNat < 2 ^ w := by
  constructor
  · intro converted
    constructor
    · obtain ⟨o, found, exact⟩ := converted.timestamp
      cases found
      exact (longFromLong_eq_iff sig.timestamp).mp (PyObject.int.inj exact)
    · obtain ⟨o, found, exact⟩ := converted.expTimestamp
      cases found
      exact (longFromLong_eq_iff sig.expTimestamp).mp (PyObject.int.inj exact)
  · intro small
    refine ⟨⟨_, rfl, ?_⟩, ⟨_, rfl, ?_⟩, ⟨_, rfl, errorValue_converted _ _⟩,
      ⟨_, rfl, errorValue_converted _ _⟩, ⟨_, rfl, ?_⟩, ⟨_, rfl, ?_⟩⟩
    · exact congrArg PyObject.int ((longFromLong_eq_iff sig.timestamp).mpr small.1)
    · exact congrArg PyObject.int ((longFromLong_eq_iff sig.expTimestamp).mpr small.2)
    · change fingerprint m sig.fpr = .none ↔ sig.fpr = none
      cases sig.fpr <;> simp [fingerprint]
    · refine ⟨sig.notations.map fun c => notationNew m c.read, ?_, ?_⟩
      · simp [sigNotationListNew, CSignature.read]
      · rw [List.forall₂_map_right_iff, List.forall₂_same]
        exact fun c _ => notationNew_converted m c

/-- Every list of signatures, each with any list of notations, is converted exactly if
and only if all timestamps are in the lower half of the `unsigned long`s. -/
theorem converted_exactly_iff (m : Module) (siglist : List (CSignature w)) :
    ConvertedExactly m siglist ↔ ∀ sig ∈ siglist,
      2 * sig.timestamp.toNat < 2 ^ w ∧ 2 * sig.expTimestamp.toNat < 2 ^ w := by
  have result : ∀ s, s.pending = none → ∀ Q : Option PyObject → Interp → Prop,
      achieves (siglistNew m siglist) s Q ↔ Q (some (.list ((siglist.map fun sig =>
        attributes m sig.read).map (.record "gpgme.Signature")))) s := by
    intro s quiet Q
    rw [siglistNew, achieves_bind, (siglistNew_reads m _).achieves_iff quiet, achieves_pure,
      List.map_map, List.map_map]
    rfl
  have elements : List.Forall₂ SignatureConverted siglist
        (siglist.map fun sig => attributes m sig.read) ↔ ∀ sig ∈ siglist,
      2 * sig.timestamp.toNat < 2 ^ w ∧ 2 * sig.expTimestamp.toNat < 2 ^ w := by
    rw [List.forall₂_map_right_iff, List.forall₂_same]
    simp only [signature_converted_iff]
  rw [← elements]
  constructor
  · intro exact
    obtain ⟨_, items, same, converted⟩ := (result Interp.clean rfl _).mp (exact Interp.clean rfl)
    have listed := PyObject.list.inj (Option.some.inj same)
    rwa [List.map_injective_iff.mpr record_injective listed]
  · intro converted s quiet
    rw [result s quiet]
    exact ⟨rfl, _, rfl, converted⟩

/-- A signature made on 19 January 2038 at 03:14:08, when seconds no longer fit into a
`long` of 32 bits. -/
def lateSig : CSignature 32 where
  summary := 3
  fpr := some [65]
  status := noError
  notations := []
  timestamp := 0x80000000
  expTimestamp := 0
  wrongKeyUsage := false
  validity := 4
  validityReason := noError
  pubkeyAlgo := 1
  hashAlgo := 8

theorem late_timestamp_negative : ¬ ConvertedExactly plainModule [lateSig] := by
  intro exact
  have small := (converted_exactly_iff plainModule [lateSig]).mp exact lateSig (by simp)
  revert small
  decide

end Pygpgme.Guarantees.SignatureResults
