import Pygpgme.Source.Methods

/-!
# Which gpgme functions the steps of the binding enter

`Enters F p`: whatever state `p` is run from, the functions it enters until it ends
all meet `F`. Conversions and everything about exceptions enter none.
-/

set_option autoImplicit false

namespace Pygpgme.Source.Entered
open Pygpgme.Library.Program
open Pygpgme.Source.Threads (GpgmeFn)
open Pygpgme.Source.Python Pygpgme.Source.Error Pygpgme.Source.Data
open Pygpgme.Source.Arguments Pygpgme.Source.Results Pygpgme.Source.Setters

variable {α β : Type} {F : Entry → Prop}

/-- More was entered, and all of it meets `F`. -/
def More (F : Entry → Prop) (s s' : Interp) : Prop :=
  ∃ new, s'.entered = new ++ s.entered ∧ ∀ e ∈ new, F e

instance more_refl : Std.Refl (More F) := ⟨fun _ => ⟨[], rfl, by simp⟩⟩

instance more_trans : IsTrans Interp (More F) := by
  constructor
  rintro s₁ s₂ s₃ ⟨first, entered₁, meet₁⟩ ⟨second, entered₂, meet₂⟩
  refine ⟨second ++ first, by rw [entered₂, entered₁, List.append_assoc], fun e mem => ?_⟩
  rcases List.mem_append.mp mem with mem | mem
  · exact meet₂ e mem
  · exact meet₁ e mem

theorem more_of_same {s s' : Interp} (same : s'.entered = s.entered) : More F s s' :=
  ⟨[], same, by simp⟩

def Enters (F : Entry → Prop) (p : Py α) : Prop := Moves (More F) p

theorem enters_pure (a : α) : Enters F (pure a : Py α) := moves_pure a

theorem Enters.bind {p : Py α} {f : α → Py β} (first : Enters F p)
    (second : ∀ a, Enters F (f a)) : Enters F (p >>= f) :=
  Moves.bind first second

theorem Enters.of_same {p : Py α} (h : ∀ s, achieves p s fun _ s' => s'.entered = s.entered) :
    Enters F p :=
  .of_achieves fun s => achieves_mono (h s) fun _ _ => more_of_same

/-- From a state in which nothing was entered. -/
theorem Enters.entered {p : Py α} (h : Enters F p) {s s' : Interp} {a : α}
    (fresh : s.entered = []) (ran : p.run s = some (a, s')) : ∀ e ∈ s'.entered, F e := by
  obtain ⟨new, entered, meet⟩ := h s a s' ran
  rw [entered, fresh, List.append_nil]
  exact meet

theorem enters_gpgme {fn : GpgmeFn} {args : List CArg} (meets : ∀ pending, F ⟨fn, args, pending⟩) :
    Enters F (gpgme fn args) := by
  refine .of_achieves fun s => (achieves_gpgme s fn args _).mpr ?_
  exact ⟨[⟨fn, args, s.pending.isSome⟩], rfl, by simp [meets]⟩

theorem enters_attempt (r : Except PyExc α) : Enters F (attempt r) := by
  refine .of_same fun s => ?_
  cases r <;> simp

theorem enters_convert (r : Except Stop α) : Enters F (convert r) := by
  cases r with
  | ok a => exact enters_pure _
  | error stop =>
    cases stop with
    | crash => exact moves_crash _
    | raised e => exact .of_same fun s => by simp

theorem enters_setString (cls : ExcClass) (text : String) : Enters F (setString cls text) :=
  .of_same fun s => by simp

theorem enters_checkError (state : ModState) (err : GpgError) :
    Enters F (checkError state err) := by
  refine .of_same fun s => ?_
  rw [achieves_checkError]
  split
  · rfl
  · split <;> rfl

theorem enters_ite {c : Prop} [Decidable c] {p q : Py α} (yes : Enters F p) (no : Enters F q) :
    Enters F (if c then p else q) := by
  split
  · exact yes
  · exact no

/-! ## Setters -/

theorem enters_canNotDelete : Enters F canNotDelete :=
  (enters_setString _ _).bind fun _ => enters_pure _

theorem enters_addSigners (meets : ∀ handle pending, F ⟨.signersAdd, [.key handle], pending⟩)
    (items : List PyObject) : Enters F (addSigners items) := by
  induction items with
  | nil => exact enters_pure _
  | cons item rest ih =>
    unfold addSigners
    split
    next same => cases same
    next handle rest' same =>
      cases same
      exact (enters_gpgme fun _ => meets _ _).bind fun _ => ih
    next => exact (enters_setString _ _).bind fun _ => enters_pure _

theorem enters_notationName (name : Option (List CodePoint)) : Enters F (notationName name) := by
  cases name with
  | none => exact enters_pure _
  | some text => exact enters_attempt _

theorem enters_addNotations (meets : ∀ name value flags pending,
      F ⟨.sigNotationAdd, [.string name, .string value, .int flags], pending⟩)
    (state : ModState) (rets : Nat → GpgError) (items : List PyObject) :
    ∀ i, Enters F (addNotations state rets i items) := by
  induction items with
  | nil => exact fun _ => enters_pure _
  | cons item rest ih =>
    intro i
    unfold addNotations
    split
    next same => cases same
    next => exact moves_crash _
    next same =>
      cases same
      refine (enters_notationName _).bind fun name => (enters_attempt _).bind fun value => ?_
      refine (enters_gpgme fun _ => meets _ _ _ _).bind fun _ => ?_
      exact (enters_checkError _ _).bind fun failed => enters_ite (enters_pure _) (ih _)
    next => exact (enters_setString _ _).bind fun _ => enters_pure _

end Pygpgme.Source.Entered
