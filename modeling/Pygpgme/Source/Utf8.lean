import Mathlib.Data.List.TakeWhile
import Pygpgme.Source.Python

/-!
# UTF-8 as the binding writes and reads it

`PyUnicode_DecodeUTF8` with "replace", and what a NUL-terminated copy of an encoded
string is. `utf8` and `cString` are those of the C API.
-/

set_option autoImplicit false

namespace Pygpgme.Source.Utf8
open Pygpgme.Source.Python

/-! ## Decoding with replacement -/

theorem toNat_lt (c : Char) : c.toNat < 0x110000 := by
  have valid : c.toNat.isValidChar := c.valid
  unfold Nat.isValidChar at valid
  omega

def codePoint (c : Char) : CodePoint := ⟨c.toNat, toNat_lt c⟩

/-- U+FFFD -/
def replacement : CodePoint := 0xfffd

def continuation (b : UInt8) : Bool := 0x80 ≤ b && b ≤ 0xbf

/-- Whether a character of three or four bytes can begin with these two. -/
def secondFits (b c : UInt8) : Bool :=
  if b = 0xe0 then 0xa0 ≤ c && c ≤ 0xbf
  else if b = 0xed then 0x80 ≤ c && c ≤ 0x9f
  else if b = 0xf0 then 0x90 ≤ c && c ≤ 0xbf
  else if b = 0xf4 then 0x80 ≤ c && c ≤ 0x8f
  else 0xe1 ≤ b && b ≤ 0xf3 && continuation c

/-- How many bytes of a string that begins with no character are replaced as one: as
many as some character begins with, but at least one. -/
def illFormed : Bytes → Nat
  | b :: c :: d :: _ =>
    if secondFits b c then if 0xf0 ≤ b && continuation d then 3 else 2 else 1
  | [b, c] => if secondFits b c then 2 else 1
  | _ => 1

theorem illFormed_pos (data : Bytes) : 0 < illFormed data := by
  unfold illFormed
  split
  next => split <;> (try split) <;> omega
  next => split <;> omega
  next => omega

/-- `PyUnicode_DecodeUTF8(…, "replace")` -/
def decodeReplace (data : Bytes) : List CodePoint :=
  match data with
  | [] => []
  | b :: rest =>
    match (b :: rest).toByteArray.utf8DecodeChar? 0 with
    | some c => codePoint c :: decodeReplace ((b :: rest).drop c.utf8Size)
    | none => replacement :: decodeReplace ((b :: rest).drop (illFormed (b :: rest)))
termination_by data.length
decreasing_by
  · have := c.utf8Size_pos
    simp
    omega
  · have := illFormed_pos (b :: rest)
    simp
    omega

theorem decodeReplace_encode (c : Char) (rest : Bytes) :
    decodeReplace (String.utf8EncodeChar c ++ rest) = codePoint c :: decodeReplace rest := by
  have length := String.length_utf8EncodeChar c
  have positive := c.utf8Size_pos
  have decoded : (String.utf8EncodeChar c ++ rest).toByteArray.utf8DecodeChar? 0 = some c := by
    rw [List.toByteArray_append]
    exact ByteArray.utf8DecodeChar?_utf8EncodeChar_append
  have dropped : (String.utf8EncodeChar c ++ rest).drop c.utf8Size = rest := by
    rw [← length, List.drop_left]
  cases whole : String.utf8EncodeChar c ++ rest with
  | nil =>
    have empty := congrArg List.length whole
    simp only [List.length_append, List.length_nil] at empty
    omega
  | cons b tail =>
    rw [whole] at decoded dropped
    rw [decodeReplace, decoded]
    simp only [dropped]

/-! ## Encoded strings -/

/-- The character of a code point that can be encoded. -/
theorem codePoint_ofNat {c : CodePoint} (valid : surrogate c = false) :
    codePoint (Char.ofNat c.val) = c := by
  have scalar : c.val.isValidChar := by
    have bound := c.isLt
    simp only [surrogate, Bool.and_eq_false_iff, decide_eq_false_iff_not] at valid
    unfold Nat.isValidChar
    omega
  apply Fin.ext
  rw [codePoint, Char.ofNat, dif_pos scalar]
  rfl

theorem utf8_cons (c : CodePoint) (text : List CodePoint) :
    utf8 (c :: text) = String.utf8EncodeChar (Char.ofNat c.val) ++ utf8 text :=
  List.flatMap_cons

theorem encodable_cons (c : CodePoint) (text : List CodePoint) :
    encodable (c :: text) = true ↔ surrogate c = false ∧ encodable text = true := by
  simp [encodable]

/-- What was encoded is read back. -/
theorem decodeReplace_utf8 {text : List CodePoint} (valid : encodable text = true) :
    decodeReplace (utf8 text) = text := by
  induction text with
  | nil => rw [utf8, List.flatMap_nil, decodeReplace]
  | cons c rest ih =>
    rw [encodable_cons] at valid
    rw [utf8_cons, decodeReplace_encode, codePoint_ofNat valid.1, ih valid.2]

/-- Only U+0000 is encoded with a NUL. -/
theorem nul_not_mem_encode {c : Char} (nonzero : c.toNat ≠ 0) :
    (0 : UInt8) ∉ String.utf8EncodeChar c := by
  have set (x mask : UInt8) (marked : mask ≠ 0) : 0 ≠ x ||| mask := by
    intro zero
    apply marked
    have larger : mask.toNat ≤ (x ||| mask).toNat := by
      rw [UInt8.toNat_or]
      exact Nat.right_le_or
    rw [← zero] at larger
    exact UInt8.toNat_inj.mp (Nat.le_zero.mp larger)
  obtain one | two | three | four := c.utf8Size_eq
  · have small := Char.utf8Size_eq_one_iff.mp one
    rw [String.utf8EncodeChar_eq_singleton one, List.mem_singleton]
    intro zero
    have bytes := congrArg UInt8.toNat zero
    rw [UInt32.toNat_toUInt8] at bytes
    have bound : c.toNat ≤ 127 := UInt32.le_iff_toNat_le.mp small
    simp only [UInt8.toNat_zero, Char.toNat_val] at bytes
    omega
  · rw [String.utf8EncodeChar_eq_cons_cons two]
    simp [set]
  · rw [String.utf8EncodeChar_eq_cons_cons_cons three]
    simp [set]
  · rw [String.utf8EncodeChar_eq_cons_cons_cons_cons four]
    simp [set]

theorem takeWhile_nonzero_iff {α : Type} [DecidableEq α] [Zero α] (items : List α) :
    items.takeWhile (· ≠ 0) = items ↔ 0 ∉ items := by
  rw [List.takeWhile_eq_self_iff]
  constructor
  · intro nonzero member
    have := nonzero 0 member
    simp at this
  · intro absent x member
    have : x ≠ 0 := by
      rintro rfl
      exact absent member
    simpa using this

theorem cString_eq_iff (data : Bytes) : cString data = data ↔ 0 ∉ data :=
  takeWhile_nonzero_iff data

/-- The NUL-terminated copy ends before the first U+0000. -/
theorem cString_utf8 {text : List CodePoint} (valid : encodable text = true) :
    cString (utf8 text) = utf8 (text.takeWhile (· ≠ 0)) := by
  induction text with
  | nil => rfl
  | cons c rest ih =>
    rw [encodable_cons] at valid
    rw [utf8_cons, cString]
    by_cases zero : c = 0
    · rw [zero]
      rfl
    · have same := congrArg Fin.val (codePoint_ofNat valid.1)
      have nonzero : (Char.ofNat c.val).toNat ≠ 0 := by
        intro null
        exact zero (Fin.ext (same.symm.trans null))
      have clean := nul_not_mem_encode nonzero
      rw [List.takeWhile_append_of_pos, List.takeWhile_cons_of_pos (by simpa using zero),
        utf8_cons]
      · exact congrArg _ (ih valid.2)
      · intro b member
        have other : b ≠ 0 := by
          rintro rfl
          exact clean member
        simpa using other

end Pygpgme.Source.Utf8
