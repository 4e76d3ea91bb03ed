import Pygpgme.Source.Results

/-!
# Signatures as gpgme hands them out

The fields of `gpgme_signature_t` and `gpgme_sig_notation_t` that
lib/pygpgme-signature.c reads, with their C types; `long` has `w` bits. A linked list is
the list of its nodes.
-/

set_option autoImplicit false

namespace Pygpgme.Source.Signatures
open Pygpgme.Source.Python Pygpgme.Source.Error Pygpgme.Source.Results

variable {w : Nat}

/-- The buffers may be longer than the lengths that go with them. -/
structure CNotation where
  name : Option Bytes
  nameLen : Nat
  value : Bytes
  valueLen : Nat
  flags : BitVec 32
  nameFits : ∀ text, name = some text → nameLen ≤ text.length
  valueFits : valueLen ≤ value.length

/-- The two timestamps are of type `unsigned long`. -/
structure CSignature (w : Nat) where
  summary : BitVec 32
  fpr : Option Bytes
  status : GpgError
  notations : List CNotation
  timestamp : BitVec w
  expTimestamp : BitVec w
  wrongKeyUsage : Bool
  validity : BitVec 32
  validityReason : GpgError
  pubkeyAlgo : BitVec 32
  hashAlgo : BitVec 32

/-- What `PyUnicode_DecodeUTF8` and `PyBytes_FromStringAndSize` are given. -/
def CNotation.read (c : CNotation) : RawNotation where
  name := c.name.map (List.take c.nameLen)
  value := c.value.take c.valueLen
  flags := c.flags

/-- `PyLong_FromLong` takes a `long`. -/
def longFromLong (n : BitVec w) : Int := n.toInt

def CSignature.read (sig : CSignature w) : Sig where
  summary := sig.summary.toNat
  fpr := sig.fpr
  status := sig.status
  notations := sig.notations.map CNotation.read
  timestamp := longFromLong sig.timestamp
  expTimestamp := longFromLong sig.expTimestamp
  wrongKeyUsage := sig.wrongKeyUsage
  validity := sig.validity.toNat
  validityReason := sig.validityReason
  pubkeyAlgo := sig.pubkeyAlgo.toNat
  hashAlgo := sig.hashAlgo.toNat

/-- `pygpgme_siglist_new` on a linked list of signatures. -/
def siglistNew (m : Module) (siglist : List (CSignature w)) : Py (Option PyObject) := do
  return listOf (← Results.siglistNew m (siglist.map CSignature.read))

theorem length_value_read (c : CNotation) : c.read.value.length = c.valueLen :=
  List.length_take_of_le c.valueFits

@[simp] theorem flags_read (c : CNotation) : c.read.flags = c.flags := rfl

@[simp] theorem name_read_eq_none (c : CNotation) : c.read.name = none ↔ c.name = none :=
  Option.map_eq_none_iff

end Pygpgme.Source.Signatures
