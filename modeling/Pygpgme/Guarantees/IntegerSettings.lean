import Pygpgme.Guarantees.ErrorConvention

/-!
# Integers assigned to attributes

A Python int is converted to a `long`, which may overflow and then raises, and from there
to the 32 bits of gpgme's type, which never fails. Numbers between the two ranges reach
gpgme as different ones.
-/

set_option autoImplicit false

namespace Pygpgme.Guarantees.IntegerSettings
open Pygpgme.Library.BitField Pygpgme.Library.Program
open Pygpgme.Source.Threads (GpgmeFn)
open Pygpgme.Source.Python Pygpgme.Source.Error Pygpgme.Source.Data
open Pygpgme.Source.Arguments Pygpgme.Source.Setters
open Pygpgme.Guarantees.ErrorCodes (plainState)
open Pygpgme.Guarantees.ErrorConvention (called)

inductive Attribute where
  | protocol | includeCerts | keylistMode | pinentryMode
  deriving DecidableEq, Repr

namespace Attribute

/-- `ret` is what gpgme returns; `gpgme_set_include_certs` returns nothing. -/
def set (state : ModState) (ret : GpgError) : Attribute → Option PyObject → Py Int
  | .protocol => contextSetProtocol state ret
  | .includeCerts => contextSetIncludeCerts state
  | .keylistMode => contextSetKeylistMode state ret
  | .pinentryMode => contextSetPinentryMode state ret

def fn : Attribute → GpgmeFn
  | .protocol => .setProtocol
  | .includeCerts => .setIncludeCerts
  | .keylistMode => .setKeylistMode
  | .pinentryMode => .setPinentryMode

/-- Whether gpgme takes the number it is handed. -/
def Accepts (ret : GpgError) : Attribute → Prop
  | .includeCerts => True
  | _ => ret = noError

instance decidableAccepts (ret : GpgError) : (a : Attribute) → Decidable (a.Accepts ret)
  | .includeCerts => .isTrue trivial
  | .protocol | .keylistMode | .pinentryMode => inferInstanceAs (Decidable (ret = noError))

/-- The numbers of gpgme's type: an enumeration or `unsigned int`, but an `int` for
`include_certs`. -/
def InRange (v : Int) : Attribute → Prop
  | .includeCerts => FitsInt v
  | _ => 0 ≤ v ∧ v < 2 ^ 32

/-- The number that arrives at gpgme. -/
def narrowed (v : Int) : Attribute → Int
  | .includeCerts => intOf v
  | _ => unsignedOf v

/-- gpgme's setting after the functions entered, from the one before: the last number it
was handed for this attribute, if it accepts. -/
def settingAfter (a : Attribute) (ret : GpgError) (before : Int) : List Entry → Int
  | [] => before
  | entry :: earlier =>
    match entry.args with
    | [.int n] =>
      if entry.fn = a.fn ∧ a.Accepts ret then n else a.settingAfter ret before earlier
    | _ => a.settingAfter ret before earlier

end Attribute

/-- The assignment raises and the setting stays what it was, or gpgme is handed `v`
itself, which becomes the setting. -/
def ExactOrRefused (state : ModState) (ret : GpgError) (a : Attribute) (v : Int) : Prop :=
  ∀ value : PyObject, value.long? = some v → ∀ errno before,
    achieves (a.set state ret (some value)) (called errno) fun r after =>
      (r = -1 ∧ after.pending.isSome = true ∧
        a.settingAfter ret before after.entered = before) ∨
      (r = 0 ∧ after.entered = [⟨a.fn, [.int v], false⟩] ∧
        a.settingAfter ret before after.entered = v)

theorem unsignedOf_eq_iff (v : Int) : unsignedOf v = v ↔ 0 ≤ v ∧ v < 2 ^ 32 := by
  have residue : unsignedOf v = v % 2 ^ 32 := toNat_narrow v
  omega

theorem intOf_eq_iff (v : Int) : intOf v = v ↔ FitsInt v := by
  have residue : ((narrow 32 v).toNat : Int) = v % 2 ^ 32 := toNat_narrow v
  have signed := BitVec.toInt_eq_toNat_cond (narrow 32 v)
  unfold intOf FitsInt intMin intMax
  split at signed <;> omega

theorem narrowed_eq_iff (a : Attribute) (v : Int) : a.narrowed v = v ↔ a.InRange v := by
  cases a with
  | includeCerts => exact intOf_eq_iff v
  | _ => exact unsignedOf_eq_iff v

/-- What each of the four setters does with an int. -/
theorem achieves_set (state : ModState) (ret : GpgError) (a : Attribute) {value : PyObject}
    {v : Int} (isInt : value.long? = some v) (errno : Int) (Q : Int → Interp → Prop) :
    achieves (a.set state ret (some value)) (called errno) Q ↔
      if FitsLong v then
        if a.Accepts ret then
          Q 0 ⟨none, errno, [⟨a.fn, [.int (a.narrowed v)], false⟩]⟩
        else Q (-1) ⟨some (errorExc state ret), errno,
          [⟨a.fn, [.int (a.narrowed v)], false⟩]⟩
      else Q (-1) ⟨some overflowError, errno, []⟩ := by
  cases a with
  | includeCerts =>
    exact achieves_setInteger state isInt .setIncludeCerts intOf none rfl Q
  | protocol =>
    exact achieves_setInteger state isInt .setProtocol unsignedOf (some ret) rfl Q
  | keylistMode =>
    exact achieves_setInteger state isInt .setKeylistMode unsignedOf (some ret) rfl Q
  | pinentryMode =>
    exact achieves_setInteger state isInt .setPinentryMode unsignedOf (some ret) rfl Q

/-- Every int assigned to one of the four attributes is stored exactly or refused if and
only if it does not fit into a `long`, or gpgme refuses what it is handed, or the int is in
the range of gpgme's type. -/
theorem exact_or_refused_iff (state : ModState) (ret : GpgError) (a : Attribute) (v : Int) :
    ExactOrRefused state ret a v ↔ ¬ FitsLong v ∨ ¬ a.Accepts ret ∨ a.InRange v := by
  have one : ∀ (value : PyObject), value.long? = some v → ∀ errno before,
      (achieves (a.set state ret (some value)) (called errno) (fun r after =>
        (r = -1 ∧ after.pending.isSome = true ∧
          a.settingAfter ret before after.entered = before) ∨
        (r = 0 ∧ after.entered = [⟨a.fn, [.int v], false⟩] ∧
          a.settingAfter ret before after.entered = v)) ↔
      ¬ FitsLong v ∨ ¬ a.Accepts ret ∨ a.InRange v) := by
    intro value isInt errno before
    rw [achieves_set state ret a isInt]
    by_cases fits : FitsLong v
    · by_cases accepted : a.Accepts ret
      · simp [fits, accepted, Attribute.settingAfter, ← narrowed_eq_iff]
      · simp [fits, accepted, Attribute.settingAfter]
    · simp [fits, Attribute.settingAfter]
  constructor
  · intro exact
    exact (one (.int v) rfl 0 0).mp (exact (.int v) rfl 0 0)
  · intro condition value isInt errno before
    exact (one value isInt errno before).mpr condition

/-- `ctx.protocol = 2**32 + 1` selects the protocol with number 1. -/
theorem wrapped_protocol :
    ¬ ExactOrRefused plainState noError .protocol (2 ^ 32 + 1) ∧
      achieves (Attribute.set plainState noError .protocol (some (.int (2 ^ 32 + 1))))
        (called 0) fun r after => r = 0 ∧
          Attribute.settingAfter .protocol noError 0 after.entered = 1 := by
  constructor
  · intro exact
    rcases (exact_or_refused_iff _ _ _ _).mp exact with beyond | refused | inRange
    · exact beyond (by decide)
    · exact refused rfl
    · have below : (2 ^ 32 + 1 : Int) < 2 ^ 32 := inRange.2
      omega
  · rw [achieves_set plainState noError .protocol rfl]
    decide

end Pygpgme.Guarantees.IntegerSettings
