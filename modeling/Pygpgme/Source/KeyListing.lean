import Pygpgme.Library.Transition
import Pygpgme.Source.Error

/-!
# Key iterators over the one listing of a context

lib/pygpgme-keyiter.c and `pygpgme_context_keylist`, one call after the other. A
`KeyIter` remembers its context and nothing else, so what it yields is decided by
the listing the context has at the moment of the call. Iterators are named by the
number of the operation that created them.
-/

set_option autoImplicit false

namespace Pygpgme.Source.KeyListing
open Pygpgme.Library.Transition Pygpgme.Source.Error

variable {Key Pattern : Type}

/-- The current listing of a context: the operation that started it and the keys
not taken yet. -/
structure Listing (Key : Type) where
  owner : Nat
  rest : List Key
  deriving DecidableEq, Repr

/-- The assumed gpgme. The keyring may change from one operation to the next. -/
structure Engine (Key Pattern : Type) where
  matching : Nat → Pattern → List Key
  /-- What `gpgme_op_keylist_next` returns when there is no listing. -/
  noListing : GpgError
  noListing_fails : noListing ≠ noError
  noListing_notEof : ¬ (errSource noListing = gpgmeSource ∧ errCode noListing = eofCode)

/-- What `gpgme_op_keylist_next` returns at the end of a listing. -/
def endOfListing : GpgError := errMake gpgmeSource eofCode

/-- `gpgme_op_keylist_next` -/
def opKeylistNext (engine : Engine Key Pattern) :
    Option (Listing Key) → (GpgError × Option Key) × Option (Listing Key)
  | none => ((engine.noListing, none), none)
  | some ⟨owner, []⟩ => ((endOfListing, none), some ⟨owner, []⟩)
  | some ⟨owner, key :: rest⟩ => ((noError, some key), some ⟨owner, rest⟩)

/-- How `next()` ends; `yields none` is a Python `None`. -/
inductive NextResult (Key : Type) where
  | stopIteration
  | raises (err : GpgError)
  | yields (key : Option Key)
  deriving DecidableEq, Repr

/-- `pygpgme_keyiter_next`, given what gpgme returned. -/
def keyiterNext (err : GpgError) (key : Option Key) : NextResult Key :=
  if errSource err = gpgmeSource ∧ errCode err = eofCode then .stopIteration
  else if err ≠ noError then .raises err
  else .yields key

/-- A `KeyIter` and what its user has seen of it. -/
structure KeyIter (Key Pattern : Type) where
  pattern : Pattern
  yielded : List (Option Key)
  stopped : Bool
  dropped : Bool
  deriving DecidableEq, Repr

def KeyIter.see (it : KeyIter Key Pattern) : NextResult Key → KeyIter Key Pattern
  | .stopIteration => { it with stopped := true }
  | .raises _ => it
  | .yields key => { it with yielded := it.yielded ++ [key] }

/-- `other` is any other operation; `err` is what starting the listing returned. -/
inductive Event (Pattern : Type) where
  | keylist (pattern : Pattern) (err : GpgError)
  | next (iter : Nat)
  | drop (iter : Nat)
  | other
  deriving DecidableEq, Repr

structure Session (Key Pattern : Type) where
  current : Option (Listing Key)
  /-- Operations started so far. -/
  ops : Nat
  iters : Nat → Option (KeyIter Key Pattern)

def Session.new : Session Key Pattern := ⟨none, 0, fun _ => none⟩

/-- `pygpgme_context_keylist` -/
def contextKeylist (engine : Engine Key Pattern) (s : Session Key Pattern) (pattern : Pattern)
    (err : GpgError) : Session Key Pattern :=
  if err = noError then
    { current := some ⟨s.ops, engine.matching s.ops pattern⟩
      ops := s.ops + 1
      iters := Function.update s.iters s.ops (some ⟨pattern, [], false, false⟩) }
  else { s with current := none, ops := s.ops + 1 }

/-- The iterator if it was created and not dropped. -/
def Session.live (s : Session Key Pattern) (iter : Nat) : Option (KeyIter Key Pattern) :=
  match s.iters iter with
  | some it => if it.dropped then none else some it
  | none => none

def Session.step (engine : Engine Key Pattern) (s : Session Key Pattern) :
    Event Pattern → Option (Session Key Pattern)
  | .keylist pattern err => some (contextKeylist engine s pattern err)
  | .next iter =>
    (s.live iter).map fun it =>
      let ((err, key), current) := opKeylistNext engine s.current
      { s with
        current := current
        iters := Function.update s.iters iter (some (it.see (keyiterNext err key))) }
  | .drop iter =>
    -- `pygpgme_keyiter_dealloc` closes whatever listing there is.
    (s.live iter).map fun it =>
      { s with
        current := none
        iters := Function.update s.iters iter (some { it with dropped := true }) }
  | .other => some { s with current := none, ops := s.ops + 1 }

def session (engine : Engine Key Pattern) : System (Session Key Pattern) (Event Pattern) where
  init := fun s => s = Session.new
  step := Session.step engine

theorem live_eq_some {s : Session Key Pattern} {iter : Nat} {it : KeyIter Key Pattern}
    (h : s.live iter = some it) : s.iters iter = some it := by
  unfold Session.live at h
  split at h
  next found =>
    split at h
    · cases h
    · rw [found, ← h]
  · cases h

/-- The three answers of gpgme, as `next()` passes them on. -/
theorem keyiterNext_cases (engine : Engine Key Pattern) (current : Option (Listing Key)) :
    (current = none ∧
        opKeylistNext engine current = ((engine.noListing, none), none) ∧
        keyiterNext engine.noListing (none : Option Key) = .raises engine.noListing) ∨
      (∃ owner, current = some ⟨owner, []⟩ ∧
        opKeylistNext engine current = ((endOfListing, none), some ⟨owner, []⟩) ∧
        keyiterNext endOfListing (none : Option Key) = .stopIteration) ∨
      ∃ owner key rest, current = some ⟨owner, key :: rest⟩ ∧
        opKeylistNext engine current = ((noError, some key), some ⟨owner, rest⟩) ∧
        keyiterNext noError (some key) = .yields (some key) := by
  match current with
  | none =>
    refine .inl ⟨rfl, rfl, ?_⟩
    unfold keyiterNext
    rw [if_neg engine.noListing_notEof, if_pos engine.noListing_fails]
  | some ⟨owner, []⟩ => exact .inr (.inl ⟨owner, rfl, rfl, rfl⟩)
  | some ⟨owner, key :: rest⟩ => exact .inr (.inr ⟨owner, key, rest, rfl, rfl, rfl⟩)

end Pygpgme.Source.KeyListing
