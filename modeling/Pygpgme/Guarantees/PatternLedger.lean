import Pygpgme.Source.PatternCopies

/-!
# References and blocks of `parse_key_patterns`

Both callers free the array on each of their paths. The bytes object of a pattern that
was copied is never released, so a call settles its ledger only if nothing is copied.
-/

set_option autoImplicit false

namespace Pygpgme.Guarantees.PatternLedger
open Pygpgme.Library.Program Pygpgme.Library.Ownership
open Pygpgme.Source Pygpgme.Source.Python Pygpgme.Source.Arguments Pygpgme.Source.Memory
open Pygpgme.Source.KeyPatterns Pygpgme.Source.PatternCopies

/-- When the call returns, all that was taken was given back, and once. -/
def Neutral (call : Mem (Option PyObject)) : Prop :=
  achieves call .start fun _ s => s.ledger.Settled

/-- What a caller does after a successful parse frees the array. -/
structure Frees (rest : Option CStrings → Mem (Option PyObject)) : Prop where
  null : ∀ s, achieves (rest none) s fun _ s' => s'.ledger.owned = s.ledger.owned
  array : ∀ {patterns : CStrings} {copies : List CString} {free : Nat}
    {owned : Multiset (Token Resource)} {s : Process}, patterns.slots = filled copies free →
    0 < free → s.ledger.owned = patterns.block ::ₘ (blocks copies + owned) →
    achieves (rest (some patterns)) s fun _ s' => s'.ledger.owned = owned
  empty : ∀ {patterns : CStrings}, patterns.slots = [] →
    ∀ s Q, ¬ achieves (rest (some patterns)) s Q

variable (fails : Nat → Bool)

/-- Iteration comes to an end. No pattern is copied, and the array has a slot. -/
def neutralHolds (pattern : PyObject) : Prop :=
  pattern ≠ .sigNotation none ∧ ∀ items, patternItems pattern = .ok items →
    ¬ FirstCopied fails items ∧ (fails 0 = false → slotCount items ≠ 0)

/-- The beginning that the callers share. -/
def withPatterns (pattern : PyObject) (rest : Option CStrings → Mem (Option PyObject)) :
    Mem (Option PyObject) := do
  let (result, patterns) ← KeyPatterns.parseKeyPatterns fails pattern
  if result < 0 then return none else rest patterns

/-- An array without a slot counts as copied: there is nothing to copy. -/
theorem allCopied_of_empty {items : List PyObject} (granted : fails 0 = false)
    (empty : slotCount items = 0) : AllCopied fails items ∧ visited items = [] := by
  have fits : slotCount items * 8 < 2 ^ 64 := by omega
  have unseen : visited items = [] := by
    rcases slotCount_of_fits fits with room | ⟨_, unseen, _⟩
    · omega
    · exact unseen
  refine ⟨⟨fits, ?_, ?_⟩, unseen⟩
  · simp [unseen]
  · rw [unseen]
    exact (succeed_one fails 0).mpr granted

theorem withPatterns_neutral_iff {rest : Option CStrings → Mem (Option PyObject)}
    (frees : Frees rest) (pattern : PyObject) :
    Neutral (withPatterns fails pattern rest) ↔ neutralHolds fails pattern := by
  unfold Neutral withPatterns neutralHolds
  rw [ne_eq, ← patternItems_crash_iff]
  cases found : patternItems pattern with
  | error stop =>
    cases stop with
    | crash =>
      rw [(patternItems_crash_iff pattern).mp found, achieves_bind]
      exact iff_of_false (parseKeyPatterns_crash fails .start _) (fun hold => hold.1 rfl)
    | raised e =>
      apply iff_of_true _ ⟨by simp, by simp⟩
      by_cases absent : pattern = .none
      · rw [absent]
        apply achieves_bind_of (parseKeyPatterns_none fails)
        rintro r s ⟨rfl, owned, _⟩
        apply achieves_mono (frees.null s)
        intro _ s' same
        rw [Ledger.settled_iff, same, owned]
      · apply achieves_bind_of (parseKeyPatterns_refused fails absent found)
        rintro r s ⟨rfl, owned, _⟩
        have failed : (-1 : Int) < 0 := by decide
        rw [achieves_ite, if_pos failed, achieves_pure, Ledger.settled_iff, owned]
  | ok items =>
    simp only [reduceCtorEq, not_false_eq_true, true_and, Except.ok.injEq, forall_eq']
    apply achieves_bind_iff_of (parseKeyPatterns_spec fails found)
    rintro r s ⟨copies, leaked, card, first, ends⟩
    have kept : leaked = 0 ↔ ¬ FirstCopied fails items := by
      rw [← first, not_not, ← Multiset.card_eq_zero, card, List.length_eq_zero_iff]
    by_cases all : AllCopied fails items
    · rw [if_pos all] at ends
      obtain ⟨⟨patterns, rfl, shape, owned⟩, copied, _⟩ := ends
      have success : ¬ (0 : Int) < 0 := by decide
      rw [achieves_ite, if_neg success]
      rcases slotCount_of_fits all.1 with room | ⟨empty, unseen, _⟩
      · have length := congrArg List.length copied
        rw [List.length_map, List.length_map] at length
        apply achieves_iff_of (frees.array shape (by omega) owned)
        intro _ s' freed
        have slots : fails 0 = false → slotCount items ≠ 0 := fun _ => by omega
        rw [Ledger.settled_iff, freed, kept, and_iff_left slots]
      · have none : copies = [] := by
          rw [unseen] at copied
          exact List.map_eq_nil_iff.mp copied
        rw [empty, none] at shape
        apply iff_of_false (frees.empty shape s _)
        intro post
        obtain ⟨_, slots⟩ := post
        exact slots (all.2.2 0 (by omega)) empty
    · rw [if_neg all] at ends
      obtain ⟨rfl, owned, _⟩ := ends
      have failed : (-1 : Int) < 0 := by decide
      have slots : fails 0 = false → slotCount items ≠ 0 :=
        fun granted empty => all (allCopied_of_empty fails granted empty).1
      rw [achieves_ite, if_pos failed, achieves_pure, Ledger.settled_iff, owned, kept,
        and_iff_left slots]

/-! ## The callers -/

/-- Nothing is taken and not given back. -/
def Keeps (p : Mem (Option PyObject)) : Prop :=
  ∀ s, achieves p s fun _ s' => s'.ledger.owned = s.ledger.owned

theorem freeIfAny_frees {after : Mem (Option PyObject)} (keeps : Keeps after) :
    Frees fun patterns => do
      freeIfAny patterns
      after where
  null := keeps
  array := by
    intro patterns copies free owned s shape room holds
    apply achieves_bind_of (freeKeyPatterns_spec shape room holds)
    intro _ s₁ post
    obtain ⟨freed, _⟩ := post
    apply achieves_mono (keeps s₁)
    exact fun _ s₂ same => same.trans freed
  empty := by
    intro patterns shape s Q
    simp [freeIfAny, freeKeyPatterns, shape, freeStrings]

theorem Frees.operated {rest : Option CStrings → Mem (Option PyObject)} (frees : Frees rest) :
    Frees fun patterns => do
      operate
      rest patterns where
  null := by
    intro s
    rw [achieves_bind, achieves_operate]
    exact frees.null _
  array := by
    intro patterns copies free owned s shape room holds
    rw [achieves_bind, achieves_operate]
    exact frees.array shape room holds
  empty := by
    intro patterns shape s Q
    rw [achieves_bind, achieves_operate]
    exact frees.empty shape _ Q

theorem return_keeps (r : Option PyObject) : Keeps (return r) := by
  intro s
  rw [achieves_pure]

theorem raised_neutral (e : PyExc) : Neutral (do
    setPending e
    return none) := by
  unfold Neutral
  rw [achieves_bind, Memory.achieves_setPending, achieves_pure, Ledger.settled_iff]
  rfl

theorem contextExport_neutral_iff (dataFails : Bool) (err : Error.GpgError)
    (args : List PyObject) :
    Neutral (KeyPatterns.contextExport fails dataFails err args) ↔
      ∀ objects, signArgs 0 args = .ok objects → neutralHolds fails objects.1 := by
  unfold KeyPatterns.contextExport
  cases signArgs 0 args with
  | error e => exact iff_of_true (raised_neutral e) (by intro _ accepted; cases accepted)
  | ok objects =>
    simp only [Except.ok.injEq, forall_eq']
    cases dataFails with
    | true => exact withPatterns_neutral_iff fails (freeIfAny_frees (return_keeps none)) objects.1
    | false =>
      apply withPatterns_neutral_iff fails (Frees.operated (freeIfAny_frees _)) objects.1
      intro s
      split
      next => exact return_keeps _ s
      next => exact return_keeps _ s

theorem contextKeylist_neutral_iff (err : Error.GpgError) (args : List PyObject) :
    Neutral (KeyPatterns.contextKeylist fails err args) ↔
      ∀ objects, keylistObjects args = .ok objects → neutralHolds fails objects.1 := by
  unfold KeyPatterns.contextKeylist
  cases keylistObjects args with
  | error e => exact iff_of_true (raised_neutral e) (by intro _ accepted; cases accepted)
  | ok objects =>
    simp only [Except.ok.injEq, forall_eq']
    apply withPatterns_neutral_iff fails (Frees.operated (freeIfAny_frees _)) objects.1
    intro s
    split
    next => exact return_keeps none s
    next =>
      rw [achieves_bind, achieves_allocates]
      split <;> simp

/-- Both callers, for every argument tuple and every pattern of failing allocations. -/
theorem patterns_neutral_iff (dataFails : Bool) (err : Error.GpgError) (args : List PyObject) :
    (Neutral (KeyPatterns.contextExport fails dataFails err args) ↔
        ∀ objects, signArgs 0 args = .ok objects → neutralHolds fails objects.1) ∧
      (Neutral (KeyPatterns.contextKeylist fails err args) ↔
        ∀ objects, keylistObjects args = .ok objects → neutralHolds fails objects.1) :=
  ⟨contextExport_neutral_iff fails dataFails err args, contextKeylist_neutral_iff fails err args⟩

/-- `keylist("a")` leaks the bytes object of its pattern. -/
theorem keylist_leaks :
    ¬ Neutral (KeyPatterns.contextKeylist (fun _ => false) 0 [.str [0x61]]) := by
  rw [contextKeylist_neutral_iff]
  intro hold
  have settled := (hold (.str [0x61], 0) rfl).2 [.str [0x61]] rfl
  apply settled.1
  rw [firstCopied_single, allCopied_single]
  exact ⟨rfl, fun _ _ => rfl⟩

end Pygpgme.Guarantees.PatternLedger
