import Mathlib.Data.Nat.Bitwise
import Mathlib.Tactic.Ring

/-!
# Fields of a fixed-width word

Masking is a remainder, shifting is a quotient, and joining two disjoint fields
is a sum, so facts about packed words are facts of linear arithmetic. The second
part is C's conversion of an unbounded integer to a fixed-width unsigned one.
-/

set_option autoImplicit false

namespace Pygpgme.Library.BitField

variable {w : Nat}

theorem toNat_and_mask (x mask : BitVec w) {width : Nat} (ones : mask.toNat = 2 ^ width - 1) :
    (x &&& mask).toNat = x.toNat % 2 ^ width := by
  rw [BitVec.toNat_and, ones, Nat.and_two_pow_sub_one_eq_mod]

theorem toNat_shift_and_mask (x mask : BitVec w) (offset : Nat) {width : Nat}
    (ones : mask.toNat = 2 ^ width - 1) :
    ((x >>> offset) &&& mask).toNat = x.toNat / 2 ^ offset % 2 ^ width := by
  rw [toNat_and_mask _ _ ones, BitVec.toNat_ushiftRight, Nat.shiftRight_eq_div_pow]

/-- A field shifted above another one neither overlaps it nor leaves the word. -/
theorem toNat_join (high low : BitVec w) {offset : Nat} (below : low.toNat < 2 ^ offset)
    (fits : high.toNat * 2 ^ offset < 2 ^ w) :
    ((high <<< offset) ||| low).toNat = high.toNat * 2 ^ offset + low.toNat := by
  rw [BitVec.toNat_or, BitVec.toNat_shiftLeft, Nat.shiftLeft_eq, Nat.mod_eq_of_lt fits,
    ← Nat.shiftLeft_eq, ← Nat.shiftLeft_add_eq_or_of_lt below, Nat.shiftLeft_eq]

/-- Conversion of a signed value to an unsigned word of `w` bits. -/
def narrow (w : Nat) (n : Int) : BitVec w := BitVec.ofInt w n

theorem toNat_narrow (n : Int) : ((narrow w n).toNat : Int) = n % 2 ^ w := by
  unfold narrow
  have positive : ((2 ^ w : Nat) : Int) ≠ 0 := by
    have := Nat.two_pow_pos w
    omega
  rw [BitVec.toNat_ofInt, Int.toNat_of_nonneg (Int.emod_nonneg n positive)]
  norm_cast

theorem toNat_narrow_of_lt {n : Nat} (fits : n < 2 ^ w) : (narrow w n).toNat = n := by
  unfold narrow
  rw [BitVec.ofInt_natCast, BitVec.toNat_ofNat, Nat.mod_eq_of_lt fits]

end Pygpgme.Library.BitField
