import Mathlib.Order.Defs.Unbundled

/-!
# Programs over a state that may crash, and what they achieve

`achieves p s Q`: run from `s`, the program `p` comes to an end, and `Q` holds of
its result and the state after it. Programs are deterministic, so the rules are
equivalences: they compute the exact condition under which a program achieves
something, as well as prove that it does.
-/

set_option autoImplicit false

namespace Pygpgme.Library.Program

variable {σ α β : Type}

/-- `none` is a crash of the process. -/
abbrev StateProgram (σ α : Type) := StateT σ Option α

def achieves (p : StateProgram σ α) (s : σ) (Q : α → σ → Prop) : Prop :=
  ∃ a s', p.run s = some (a, s') ∧ Q a s'

theorem achieves_mono {p : StateProgram σ α} {s : σ} {Q R : α → σ → Prop} (h : achieves p s Q)
    (weaker : ∀ a s', Q a s' → R a s') : achieves p s R := by
  obtain ⟨a, s', ran, post⟩ := h
  exact ⟨a, s', ran, weaker a s' post⟩

/-- A program that is known to run through achieves what holds where it ends. -/
theorem achieves_of_run {p : StateProgram σ α} {s s' : σ} {a : α} (ran : p.run s = some (a, s'))
    (Q : α → σ → Prop) : achieves p s Q ↔ Q a s' := by
  constructor
  · rintro ⟨b, t, other, post⟩
    rw [ran] at other
    cases other
    exact post
  · exact fun post => ⟨a, s', ran, post⟩

/-- The same for what is known of the end only. -/
theorem achieves_iff_of {p : StateProgram σ α} {s : σ} {R Q : α → σ → Prop} {C : Prop}
    (first : achieves p s R) (second : ∀ a s', R a s' → (Q a s' ↔ C)) : achieves p s Q ↔ C := by
  obtain ⟨a, s', ran, reached⟩ := first
  rw [achieves_of_run ran]
  exact second a s' reached

@[simp] theorem achieves_pure (a : α) (s : σ) (Q : α → σ → Prop) :
    achieves (pure a : StateProgram σ α) s Q ↔ Q a s :=
  achieves_of_run rfl Q

@[simp] theorem achieves_bind (p : StateProgram σ α) (f : α → StateProgram σ β) (s : σ)
    (Q : β → σ → Prop) :
    achieves (p >>= f) s Q ↔ achieves p s fun a s' => achieves (f a) s' Q := by
  constructor
  · rintro ⟨b, s', ran, post⟩
    rw [StateT.run_bind, Option.bind_eq_bind, Option.bind_eq_some_iff] at ran
    obtain ⟨⟨a, mid⟩, first, second⟩ := ran
    exact ⟨a, mid, first, b, s', second, post⟩
  · rintro ⟨a, mid, first, b, s', second, post⟩
    refine ⟨b, s', ?_, post⟩
    rw [StateT.run_bind, Option.bind_eq_bind, first, Option.bind_some, second]

@[simp] theorem achieves_map (g : α → β) (p : StateProgram σ α) (s : σ) (Q : β → σ → Prop) :
    achieves (g <$> p) s Q ↔ achieves p s fun a s' => Q (g a) s' := by
  rw [map_eq_pure_bind, achieves_bind]
  simp only [achieves_pure]

@[simp] theorem achieves_get (s : σ) (Q : σ → σ → Prop) :
    achieves (get : StateProgram σ σ) s Q ↔ Q s s :=
  achieves_of_run rfl Q

@[simp] theorem achieves_modify (g : σ → σ) (s : σ) (Q : PUnit → σ → Prop) :
    achieves (modify g : StateProgram σ PUnit) s Q ↔ Q ⟨⟩ (g s) :=
  achieves_of_run rfl Q

@[simp] theorem achieves_ite (c : Prop) [Decidable c] (p q : StateProgram σ α) (s : σ)
    (Q : α → σ → Prop) :
    achieves (if c then p else q) s Q ↔
      if c then achieves p s Q else achieves q s Q := by
  split <;> rfl

/-- A program that achieves `R` first goes on from some state that `R` allows. -/
theorem achieves_bind_of {p : StateProgram σ α} {f : α → StateProgram σ β} {s : σ}
    {R : α → σ → Prop} {Q : β → σ → Prop} (first : achieves p s R)
    (second : ∀ a s', R a s' → achieves (f a) s' Q) : achieves (p >>= f) s Q :=
  (achieves_bind p f s Q).mpr (achieves_mono first second)

/-- The same for an exact condition, as there is only one such state. -/
theorem achieves_bind_iff_of {p : StateProgram σ α} {f : α → StateProgram σ β} {s : σ}
    {R : α → σ → Prop} {Q : β → σ → Prop} {C : Prop} (first : achieves p s R)
    (second : ∀ a s', R a s' → (achieves (f a) s' Q ↔ C)) : achieves (p >>= f) s Q ↔ C := by
  rw [achieves_bind]
  exact achieves_iff_of first second

/-- From the states that meet `cond`, a program that gives `a` and changes nothing. -/
def Reads (cond : σ → Prop) (p : StateProgram σ α) (a : α) : Prop :=
  ∀ s, cond s → achieves p s fun r s' => r = a ∧ s' = s

theorem reads_pure {cond : σ → Prop} (a : α) : Reads cond (pure a) a := by
  intro s _
  rw [achieves_pure]
  exact ⟨rfl, rfl⟩

theorem Reads.bind {cond : σ → Prop} {p : StateProgram σ α} {f : α → StateProgram σ β} {a : α}
    {b : β} (first : Reads cond p a) (second : Reads cond (f a) b) : Reads cond (p >>= f) b := by
  intro s met
  apply achieves_bind_of (first s met)
  rintro r s' ⟨rfl, rfl⟩
  exact second s' met

theorem Reads.achieves_iff {cond : σ → Prop} {p : StateProgram σ α} {a : α}
    (reads : Reads cond p a) {s : σ} (met : cond s) (Q : α → σ → Prop) :
    achieves p s Q ↔ Q a s := by
  obtain ⟨r, s', ran, rfl, rfl⟩ := reads s met
  exact achieves_of_run ran Q

/-- If the program comes to an end, `Q` holds there. -/
def ensures (p : StateProgram σ α) (s : σ) (Q : α → σ → Prop) : Prop :=
  ∀ a s', p.run s = some (a, s') → Q a s'

theorem ensures_of_achieves {p : StateProgram σ α} {s : σ} {Q : α → σ → Prop}
    (h : achieves p s Q) : ensures p s Q :=
  fun _ _ ran => (achieves_of_run ran Q).mp h

theorem ensures_bind {p : StateProgram σ α} {f : α → StateProgram σ β} {s : σ}
    {R : α → σ → Prop} {Q : β → σ → Prop} (first : ensures p s R)
    (second : ∀ a s', R a s' → ensures (f a) s' Q) : ensures (p >>= f) s Q := by
  intro b s' ran
  rw [StateT.run_bind, Option.bind_eq_bind, Option.bind_eq_some_iff] at ran
  obtain ⟨⟨a, mid⟩, ran₁, ran₂⟩ := ran
  exact second a mid (first a mid ran₁) b s' ran₂

/-- Every run that comes to an end leads from its state to one that `R` allows. -/
def Moves (R : σ → σ → Prop) (p : StateProgram σ α) : Prop :=
  ∀ s a s', p.run s = some (a, s') → R s s'

theorem Moves.of_achieves {R : σ → σ → Prop} {p : StateProgram σ α}
    (h : ∀ s, achieves p s fun _ s' => R s s') : Moves R p := by
  intro s a s' ran
  exact (achieves_of_run ran _).mp (h s)

theorem moves_pure {R : σ → σ → Prop} [Std.Refl R] (a : α) : Moves R (pure a) :=
  .of_achieves fun s => (achieves_pure a s _).mpr (Std.Refl.refl s)

theorem Moves.bind {R : σ → σ → Prop} [IsTrans σ R] {p : StateProgram σ α}
    {f : α → StateProgram σ β} (first : Moves R p) (second : ∀ a, Moves R (f a)) :
    Moves R (p >>= f) := by
  intro s b s' ran
  rw [StateT.run_bind, Option.bind_eq_bind, Option.bind_eq_some_iff] at ran
  obtain ⟨⟨a, mid⟩, ran₁, ran₂⟩ := ran
  exact IsTrans.trans s mid s' (first s a mid ran₁) (second a mid b s' ran₂)

/-- The process dies here. -/
def crash : StateProgram σ α := fun _ => none

@[simp] theorem achieves_crash (s : σ) (Q : α → σ → Prop) :
    achieves (crash : StateProgram σ α) s Q ↔ False := by
  simp [achieves, crash, StateT.run]

theorem moves_crash (R : σ → σ → Prop) : Moves R (crash : StateProgram σ α) := by
  intro s a s' ran
  cases ran

end Pygpgme.Library.Program
