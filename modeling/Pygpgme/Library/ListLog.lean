import Mathlib.Data.List.Basic

/-!
# A list changed by recorded calls

One party keeps a list, the other clears it and asks for additions, each of which
may be refused. Replaying a log of the calls, the latest first, gives the list.
-/

set_option autoImplicit false

namespace Pygpgme.Library.ListLog

variable {α E : Type}

inductive Call (α : Type) where
  | clear
  | add (item : α)

/-- The list, and how many additions were asked for. -/
structure Kept (α : Type) where
  items : List α
  asked : Nat

section
variable (accepts : Nat → Prop) [DecidablePred accepts]

/-- `accepts` says which additions are not refused. -/
def Kept.call (kept : Kept α) : Call α → Kept α
  | .clear => { kept with items := [] }
  | .add item =>
    ⟨if accepts kept.asked then kept.items ++ [item] else kept.items, kept.asked + 1⟩

/-- Entries that are no calls of this list change nothing. -/
def replay (call : E → Option (Call α)) (kept : Kept α) : List E → Kept α
  | [] => kept
  | entry :: earlier =>
    match call entry with
    | some c => (replay call kept earlier).call accepts c
    | none => replay call kept earlier

/-- Which of the items are kept when the first of them is the `i`-th asked for. -/
def accepted : Nat → List α → List α
  | _, [] => []
  | i, item :: rest =>
    if accepts i then item :: accepted (i + 1) rest else accepted (i + 1) rest

theorem accepted_cons (i : Nat) (item : α) (rest : List α) :
    accepted accepts i (item :: rest) =
      (if accepts i then [item] else []) ++ accepted accepts (i + 1) rest := by
  rw [accepted]
  split <;> rfl

theorem accepted_length_le (items : List α) :
    ∀ i, (accepted accepts i items).length ≤ items.length := by
  induction items with
  | nil => exact fun _ => Nat.le_refl 0
  | cons item rest ih =>
    intro i
    have := ih (i + 1)
    rw [accepted]
    split <;> simp only [List.length_cons] <;> omega

theorem accepted_of_all (items : List α) :
    ∀ i, (∀ k, k < items.length → accepts (i + k)) → accepted accepts i items = items := by
  induction items with
  | nil => exact fun _ _ => rfl
  | cons item rest ih =>
    intro i all
    have first : accepts i := all 0 (Nat.zero_lt_succ _)
    rw [accepted, if_pos first, ih (i + 1)]
    intro k small
    have later := all (k + 1) (Nat.succ_lt_succ small)
    rwa [Nat.add_right_comm]

/-- Nothing is missing exactly when nothing was refused. -/
theorem accepted_length_iff (items : List α) : ∀ i,
    (accepted accepts i items).length = items.length ↔
      ∀ k, k < items.length → accepts (i + k) := by
  intro i
  constructor
  · induction items generalizing i with
    | nil => exact fun _ k small => absurd small (Nat.not_lt_zero k)
    | cons item rest ih =>
      intro full k small
      have shorter := accepted_length_le accepts rest (i + 1)
      by_cases first : accepts i
      · rw [accepted, if_pos first, List.length_cons, List.length_cons] at full
        cases k with
        | zero => exact first
        | succ k =>
          have later := ih (i + 1) (by omega) k (Nat.lt_of_succ_lt_succ small)
          rwa [Nat.add_right_comm] at later
      · rw [accepted, if_neg first, List.length_cons] at full
        omega
  · intro all
    rw [accepted_of_all accepts items i all]

/-- Several additions in a row. -/
def Kept.addAll (kept : Kept α) (items : List α) : Kept α :=
  ⟨kept.items ++ accepted accepts kept.asked items, kept.asked + items.length⟩

@[simp] theorem Kept.addAll_nil (kept : Kept α) : kept.addAll accepts [] = kept := by
  simp [addAll, accepted]

@[simp] theorem Kept.addAll_cons (kept : Kept α) (item : α) (rest : List α) :
    kept.addAll accepts (item :: rest) = (kept.call accepts (.add item)).addAll accepts rest := by
  have length : kept.asked + (item :: rest).length = kept.asked + 1 + rest.length := by
    rw [List.length_cons]
    omega
  unfold addAll call
  rw [accepted_cons, length]
  split <;> simp

end

end Pygpgme.Library.ListLog
