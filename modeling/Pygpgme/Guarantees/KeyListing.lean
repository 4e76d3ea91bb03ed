import Pygpgme.Source.KeyListing

/-!
# What a key iterator yields

An iterator yields the keys of its own pattern, in order and to the end, as long
as `next()` is called on it while the context lists for it or lists nothing. The
context forgets the listing of one iterator when it starts that of another, and
iterators cannot tell: then the keys of one come out of the other.
-/

set_option autoImplicit false

namespace Pygpgme.Guarantees.KeyListing
open Pygpgme.Library.Transition Pygpgme.Source.Error Pygpgme.Source.KeyListing

variable {Key Pattern : Type}

/-- What iterator `i` is supposed to yield. -/
def expected (engine : Engine Key Pattern) (i : Nat) (it : KeyIter Key Pattern) :
    List (Option Key) :=
  (engine.matching i it.pattern).map some

/-- Every iterator has yielded a prefix of its own keys, and all of them before it
said that there are no more. -/
def Faithful (engine : Engine Key Pattern) (s : Session Key Pattern) : Prop :=
  ∀ i it, s.iters i = some it →
    it.yielded <+: expected engine i it ∧ (it.stopped = true → it.yielded = expected engine i it)

/-- `next()` is called on an iterator only while the listing is its own, or none. -/
def OwnListing (s : Session Key Pattern) : Event Pattern → Prop
  | .next iter => ∀ listing, s.current = some listing → listing.owner = iter
  | _ => True

/-- The current listing is what its iterator still has to yield. -/
structure Consistent (engine : Engine Key Pattern) (s : Session Key Pattern) : Prop where
  faithful : Faithful engine s
  fresh : ∀ i, s.ops ≤ i → s.iters i = none
  current : ∀ listing it, s.current = some listing → s.iters listing.owner = some it →
    it.yielded ++ listing.rest.map some = expected engine listing.owner it

theorem Consistent.new (engine : Engine Key Pattern) :
    Consistent engine (Session.new : Session Key Pattern) := by
  constructor
  · intro i it h
    simp [Session.new] at h
  · intro i _
    rfl
  · intro listing it h
    simp [Session.new] at h

/-- Changing one iterator, and the listing with it. -/
theorem Consistent.update {engine : Engine Key Pattern} {s : Session Key Pattern}
    (h : Consistent engine s) {i : Nat} {before it : KeyIter Key Pattern}
    {current : Option (Listing Key)} (created : s.iters i = some before)
    (soFar : it.yielded <+: expected engine i it)
    (all : it.stopped = true → it.yielded = expected engine i it)
    (lists : ∀ listing, current = some listing → listing.owner = i ∧
      it.yielded ++ listing.rest.map some = expected engine i it) :
    Consistent engine { s with
      current := current
      iters := Function.update s.iters i (some it) } := by
  constructor
  · intro j jt found
    by_cases same : j = i
    · subst same
      simp only [Function.update_self, Option.some.injEq] at found
      subst found
      exact ⟨soFar, all⟩
    · simp only [Function.update_of_ne same] at found
      exact h.faithful j jt found
  · intro j unused
    have other : j ≠ i := by
      rintro rfl
      simp [h.fresh j unused] at created
    simpa only [Function.update_of_ne other] using h.fresh j unused
  · intro listing jt listed found
    obtain ⟨owner, remaining⟩ := lists listing listed
    simp only [owner, Function.update_self, Option.some.injEq] at found ⊢
    subst found
    exact remaining

theorem Consistent.keylist {engine : Engine Key Pattern} {s : Session Key Pattern}
    (h : Consistent engine s) (pattern : Pattern) (err : GpgError) :
    Consistent engine (contextKeylist engine s pattern err) := by
  unfold contextKeylist
  split
  · constructor
    · intro i it found
      by_cases new : i = s.ops
      · subst new
        simp only [Function.update_self, Option.some.injEq] at found
        subst found
        exact ⟨List.nil_prefix, by simp⟩
      · simp only [Function.update_of_ne new] at found
        exact h.faithful i it found
    · intro i unused
      have other : i ≠ s.ops := by
        simp only at unused
        omega
      simp only [Function.update_of_ne other]
      exact h.fresh i (by simp only at unused; omega)
    · intro listing it listed found
      simp only [Option.some.injEq] at listed
      subst listed
      simp only [Function.update_self, Option.some.injEq] at found
      subst found
      rfl
  · constructor
    · exact h.faithful
    · intro i unused
      exact h.fresh i (by simp only at unused; omega)
    · intro listing it listed
      simp at listed

theorem Consistent.next {engine : Engine Key Pattern} {s s' : Session Key Pattern}
    (h : Consistent engine s) {iter : Nat} (own : OwnListing s (.next iter))
    (taken : s.step engine (.next iter) = some s') : Consistent engine s' := by
  obtain ⟨it, live, rfl⟩ := Option.map_eq_some_iff.mp taken
  have created := live_eq_some live
  obtain ⟨before, complete⟩ := h.faithful iter it created
  rcases keyiterNext_cases engine s.current with
    ⟨listed, answer, seen⟩ | ⟨owner, listed, answer, seen⟩ |
    ⟨owner, key, rest, listed, answer, seen⟩
  · simp only [answer, seen]
    exact h.update created before complete (by simp)
  · obtain rfl : owner = iter := own _ listed
    have remaining := h.current _ it listed created
    simp only [List.map_nil, List.append_nil] at remaining
    have unchanged : (it.see (.stopIteration : NextResult Key)).yielded <+:
        expected engine owner (it.see (.stopIteration : NextResult Key)) := before
    simp only [answer, seen]
    apply h.update created unchanged
    · exact fun _ => remaining
    · intro listing same
      cases same
      exact ⟨rfl, (List.append_nil _).trans remaining⟩
  · obtain rfl : owner = iter := own _ listed
    have remaining := h.current _ it listed created
    have appended : (it.yielded ++ [some key]) ++ rest.map some = expected engine owner it := by
      simpa using remaining
    simp only [answer, seen]
    apply h.update created
    · exact ⟨rest.map some, appended⟩
    · intro stopped
      -- A stopped iterator has yielded everything, so there was no further key.
      have everything := complete stopped
      rw [← everything] at remaining
      simp at remaining
    · intro listing same
      cases same
      exact ⟨rfl, appended⟩

theorem Consistent.step {engine : Engine Key Pattern} {s s' : Session Key Pattern}
    (h : Consistent engine s) (event : Event Pattern) (own : OwnListing s event)
    (taken : s.step engine event = some s') : Consistent engine s' := by
  cases event with
  | keylist pattern err =>
    cases taken
    exact h.keylist pattern err
  | next iter => exact h.next own taken
  | drop iter =>
    obtain ⟨it, live, rfl⟩ := Option.map_eq_some_iff.mp taken
    have created := live_eq_some live
    obtain ⟨before, complete⟩ := h.faithful iter it created
    exact h.update created before complete (by simp)
  | other =>
    cases taken
    constructor
    · exact h.faithful
    · intro i unused
      exact h.fresh i (by simp only at unused; omega)
    · intro listing it listed
      simp at listed

/-- In every run in which no `next()` meets the listing of another iterator, every
iterator is faithful. -/
theorem keyIters_faithful (engine : Engine Key Pattern) (s : Session Key Pattern)
    (reached : Reach (session engine) OwnListing s) : Faithful engine s := by
  have consistent : Consistent engine s := by
    apply Reach.invariant _ _ reached
    · rintro t rfl
      exact Consistent.new engine
    · intro t event t' h own taken
      exact h.step event own taken
  exact consistent.faithful

/-- Five keys, and patterns that are lists of them; without a listing gpgme answers
with its `GPG_ERR_INV_VALUE`. -/
def fiveKeys : Engine Nat (List Nat) where
  matching := fun _ pattern => [1, 2, 3, 4, 5].filter (· ∈ pattern)
  noListing := errMake gpgmeSource 55
  noListing_fails := by decide
  noListing_notEof := by decide

def ownListing (s : Session Nat (List Nat)) : Event (List Nat) → Bool
  | .next iter => s.current.all fun listing => listing.owner == iter
  | _ => true

theorem ownListing_sound (s : Session Nat (List Nat)) (event : Event (List Nat))
    (checked : ownListing s event = true) : OwnListing s event := by
  cases event with
  | next iter =>
    intro listing listed
    simpa [ownListing, listed] using checked
  | _ => trivial

/-- One iterator after the other, with an operation in between. -/
theorem keyIters_faithful_one_after_the_other :
    ∃ s, runIf (session fiveKeys) ownListing Session.new
        [.keylist [2, 4] 0, .next 0, .next 0, .next 0, .drop 0, .other, .keylist [5] 0, .next 2]
          = some s ∧
      (s.iters 0).map (fun it => (it.yielded, it.stopped)) = some ([some 2, some 4], true) ∧
      Faithful fiveKeys s := by
  have executed : ((runIf (session fiveKeys) ownListing Session.new
      [.keylist [2, 4] 0, .next 0, .next 0, .next 0, .drop 0, .other, .keylist [5] 0,
        .next 2]).map fun s => (s.iters 0).map fun it => (it.yielded, it.stopped)) =
        some (some ([some 2, some 4], true)) := by decide
  obtain ⟨s, hs, yielded⟩ := Option.map_eq_some_iff.mp executed
  exact ⟨s, hs, yielded, keyIters_faithful fiveKeys s
    (Reach.of_runIf ownListing_sound _ (.init rfl) hs)⟩

/-- With two iterators alive, the first yields the key of the second. -/
theorem two_keyIters_not_faithful :
    ¬ ∀ s, Reachable (session fiveKeys) s → Faithful fiveKeys s := by
  intro faithful
  have executed : ((run (session fiveKeys) Session.new
      [.keylist [1, 2] 0, .keylist [3] 0, .next 0]).map fun s => s.iters 0) =
        some (some ⟨[1, 2], [some 3], false, false⟩) := by decide
  obtain ⟨s, hs, seen⟩ := Option.map_eq_some_iff.mp executed
  have mine := (faithful s (Reachable.of_run _ (.init rfl) hs) 0 _ seen).1
  revert mine
  decide

end Pygpgme.Guarantees.KeyListing
