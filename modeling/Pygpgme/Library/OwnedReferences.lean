import Pygpgme.Library.Program
import Mathlib.Algebra.Order.Group.Multiset
import Mathlib.Tactic.Abel

/-!
# Programs that own references

`Owns pre p post`: a program that starts with the references `pre`, of all that are held,
has `post` in their place when it comes to an end. Everything else is a frame that it
leaves alone, but for the references that are `lost`: these stay held, no program has
them any more, and none of them is found again. The state is sound before and after.
-/

set_option autoImplicit false

namespace Pygpgme.Library.OwnedReferences
open Pygpgme.Library.Program

/-- What a state says about its references. -/
structure Accounts (σ O : Type) where
  sound : σ → Prop
  held : σ → Multiset O
  lost : σ → Multiset O

namespace Accounts

variable {σ O α β : Type} (books : Accounts σ O)

/-- The references that a program has, and the rest of the frame. -/
def Balanced (owned rest : Multiset O) (s : σ) : Prop :=
  books.sound s ∧ books.held s = owned + books.lost s + rest

def Owns (pre : Multiset O) (p : StateProgram σ α) (post : α → Multiset O) : Prop :=
  ∀ rest s, books.Balanced pre rest s →
    ensures p s fun a s' => books.Balanced (post a) rest s' ∧ books.lost s ≤ books.lost s'

variable {books} {pre : Multiset O} {post : α → Multiset O}

theorem Owns.pure {a : α} (same : pre = post a) : books.Owns pre (pure a) post := by
  intro rest s balanced
  apply ensures_of_achieves
  rw [achieves_pure]
  exact ⟨same ▸ balanced, le_rfl⟩

theorem Owns.bind {p : StateProgram σ α} {f : α → StateProgram σ β} {after : β → Multiset O}
    (first : books.Owns pre p post) (second : ∀ a, books.Owns (post a) (f a) after) :
    books.Owns pre (p >>= f) after := by
  intro rest s balanced
  refine ensures_bind (first rest s balanced) fun a mid ⟨between, fewer⟩ b s' ran => ?_
  obtain ⟨ending, more⟩ := second a rest mid between b s' ran
  exact ⟨ending, fewer.trans more⟩

/-- References that the program does not use. -/
theorem Owns.frame {p : StateProgram σ α} (owns : books.Owns pre p post) (more : Multiset O) :
    books.Owns (pre + more) p fun a => post a + more := by
  intro rest s balanced a s' ran
  have moved : ∀ owned s, books.Balanced (owned + more) rest s ↔
      books.Balanced owned (more + rest) s := by
    intro owned s
    have same : owned + more + books.lost s + rest = owned + books.lost s + (more + rest) := by
      abel
    rw [Balanced, Balanced, same]
  obtain ⟨ending, kept⟩ := owns (more + rest) s ((moved _ s).mp balanced) a s' ran
  exact ⟨(moved _ s').mpr ending, kept⟩

/-- The first part of a program has no use for some of the references. -/
theorem Owns.then {p : StateProgram σ α} {f : α → StateProgram σ β} {after : β → Multiset O}
    {whole : Multiset O} (first : books.Owns pre p post) (more : Multiset O)
    (split : whole = pre + more)
    (second : ∀ a, books.Owns (post a + more) (f a) after) :
    books.Owns whole (p >>= f) after :=
  split ▸ (first.frame more).bind second

theorem Owns.congr {p : StateProgram σ α} {pre' : Multiset O} {post' : α → Multiset O}
    (owns : books.Owns pre p post) (same : pre' = pre) (same' : ∀ a, post a = post' a) :
    books.Owns pre' p post' := by
  have posts : post = post' := funext same'
  rwa [same, ← posts]

theorem owns_ite {c : Prop} [Decidable c] {p q : StateProgram σ α}
    (yes : c → books.Owns pre p post) (no : ¬ c → books.Owns pre q post) :
    books.Owns pre (if c then p else q) post := by
  split
  next met => exact yes met
  next unmet => exact no unmet

theorem owns_crash : books.Owns pre (crash : StateProgram σ α) post := by
  intro rest s balanced a s' ran
  cases ran

/-- A program that reads the state only. -/
theorem owns_read {f : σ → α} :
    books.Owns 0 (fun s => some (f s, s) : StateProgram σ α) fun _ => 0 := by
  intro rest s balanced a s' ran
  cases ran
  exact ⟨balanced, le_rfl⟩

/-- References that are lost: they stay held, and the program has them no more. -/
theorem owns_forget {gone : Multiset O} {f : σ → σ} (sound : ∀ s, books.sound s → books.sound (f s))
    (held : ∀ s, books.held (f s) = books.held s)
    (lost : ∀ s, books.lost (f s) = gone + books.lost s) :
    books.Owns gone (modify f) fun _ => 0 := by
  rintro rest s ⟨intact, balanced⟩ a s' ran
  cases ran
  refine ⟨⟨sound s intact, ?_⟩, ?_⟩
  · rw [held, lost, balanced, zero_add]
  · rw [lost]
    exact Multiset.le_add_left _ _

end Accounts

end Pygpgme.Library.OwnedReferences
