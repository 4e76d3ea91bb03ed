import Mathlib.Data.List.Basic

/-!
# Generators that are driven by what is sent to them

A body says, for each position at which it is suspended, what it does with the value
sent to it: yield and suspend again, return, or raise. A generator whose body has
ended answers everything with `StopIteration`. `Talk` is a stretch of a run in which
everything sent was answered; `talk_iff_prefix` reduces what a body can say to a
language with the right derivatives.
-/

set_option autoImplicit false

namespace Pygpgme.Library.Generator

variable {π α β ε γ : Type}

/-- What a body does between two suspensions. -/
inductive Resumed (π β ε : Type) where
  | yields (value : β) (next : π)
  | returns
  | raises (error : ε)

abbrev Body (π α β ε : Type) := π → α → Resumed π β ε

/-- How `send` ends. -/
inductive Sent (β ε : Type) where
  | value (value : β)
  | stopIteration
  | raised (error : ε)

/-- `none` is a generator that has finished. -/
def send (body : Body π α β ε) : Option π → α → Sent β ε × Option π
  | some position, a =>
    match body position a with
    | .yields value next => (.value value, some next)
    | .returns => (.stopIteration, none)
    | .raises error => (.raised error, none)
  | none, _ => (.stopIteration, none)

@[simp] theorem send_finished (body : Body π α β ε) (a : α) :
    send body none a = (.stopIteration, none) := rfl

/-- Everything in the list was answered, in order, between two positions. -/
inductive Talk (body : Body π α β ε) : π → List (α × β) → π → Prop
  | nil (p : π) : Talk body p [] p
  | cons {p q r : π} {a : α} {v : β} {rest : List (α × β)}
      (answered : body p a = .yields v q) (continued : Talk body q rest r) :
      Talk body p ((a, v) :: rest) r

variable {body : Body π α β ε}

theorem send_of_yields {p q : π} {a : α} {v : β} (answered : body p a = .yields v q) :
    send body (some p) a = (.value v, some q) := by
  simp only [send, answered]

theorem Talk.append {p q r : π} {first second : List (α × β)} (start : Talk body p first q)
    (continued : Talk body q second r) : Talk body p (first ++ second) r := by
  induction start with
  | nil => exact continued
  | cons answered _ ih => exact .cons answered (ih continued)

theorem Talk.snoc {p q r : π} {said : List (α × β)} {a : α} {v : β}
    (start : Talk body p said q) (answered : body q a = .yields v r) :
    Talk body p (said ++ [(a, v)]) r :=
  start.append (.cons answered (.nil r))

theorem talk_cons_iff {p r : π} {a : α} {v : β} {rest : List (α × β)} :
    Talk body p ((a, v) :: rest) r ↔ ∃ q, body p a = .yields v q ∧ Talk body q rest r := by
  constructor
  · intro talk
    cases talk with
    | cons answered continued => exact ⟨_, answered, continued⟩
  · rintro ⟨q, answered, continued⟩
    exact .cons answered continued

theorem Talk.split {p r : π} {first second : List (α × β)}
    (talk : Talk body p (first ++ second) r) :
    ∃ q, Talk body p first q ∧ Talk body q second r := by
  induction first generalizing p with
  | nil => exact ⟨p, .nil p, talk⟩
  | cons x rest ih =>
    obtain ⟨next, answered, continued⟩ := talk_cons_iff.mp talk
    obtain ⟨q, begun, ended⟩ := ih continued
    exact ⟨q, .cons answered begun, ended⟩

/-- What is sent decides what is said and where the body is suspended. -/
theorem Talk.deterministic {p q r : π} {first second : List (α × β)}
    (left : Talk body p first q) (right : Talk body p second r)
    (same : first.map Prod.fst = second.map Prod.fst) : first = second ∧ q = r := by
  induction left generalizing second with
  | nil =>
    cases right with
    | nil => exact ⟨rfl, rfl⟩
    | cons _ _ => cases same
  | cons answered _ ih =>
    cases right with
    | nil => cases same
    | cons answered' continued =>
      simp only [List.map_cons, List.cons.injEq] at same
      obtain ⟨rfl, tails⟩ := same
      rw [answered] at answered'
      cases answered'
      obtain ⟨rfl, rfl⟩ := ih continued tails
      exact ⟨rfl, rfl⟩

/-- Either all of it is answered, or there is a first value that is not. -/
theorem talk_or_stops (body : Body π α β ε) (p : π) (sent : List α) :
    (∃ said q, Talk body p said q ∧ said.map Prod.fst = sent) ∨
      ∃ before a after said q, sent = before ++ a :: after ∧ Talk body p said q ∧
        said.map Prod.fst = before ∧ ∀ v r, body q a ≠ .yields v r := by
  induction sent generalizing p with
  | nil => exact .inl ⟨[], p, .nil p, rfl⟩
  | cons a rest ih =>
    by_cases answered : ∃ v q, body p a = .yields v q
    · obtain ⟨v, q, answered⟩ := answered
      obtain ⟨said, r, talk, same⟩ | ⟨before, b, after, said, r, split, talk, same, stops⟩ := ih q
      · exact .inl ⟨(a, v) :: said, r, .cons answered talk, by simp [same]⟩
      · exact .inr ⟨a :: before, b, after, (a, v) :: said, r, by simp [split],
          .cons answered talk, by simp [same], stops⟩
    · exact .inr ⟨[], a, rest, [], p, rfl, .nil p, rfl,
        fun v q yields => answered ⟨v, q, yields⟩⟩

/-- Let `speaks p` be a family of languages over what the body can tell apart of the
values sent, each of them not empty, such that its words begin as the body answers and
go on as the next position says. Then the stretches of runs from `p` are exactly the
prefixes of the words of `speaks p`. -/
theorem talk_iff_prefix {label : α → γ} {speaks : π → List (γ × β) → Prop}
    (inhabited : ∀ p, ∃ word, speaks p word)
    (derivative : ∀ p a v rest, speaks p ((label a, v) :: rest) ↔
      ∃ q, body p a = .yields v q ∧ speaks q rest)
    (p : π) (said : List (α × β)) :
    (∃ q, Talk body p said q) ↔
      ∃ word, speaks p word ∧ said.map (fun x => (label x.1, x.2)) <+: word := by
  induction said generalizing p with
  | nil =>
    obtain ⟨word, spoken⟩ := inhabited p
    exact ⟨fun _ => ⟨word, spoken, List.nil_prefix⟩, fun _ => ⟨p, .nil p⟩⟩
  | cons x rest ih =>
    obtain ⟨a, v⟩ := x
    constructor
    · rintro ⟨r, talk⟩
      obtain ⟨q, answered, continued⟩ := talk_cons_iff.mp talk
      obtain ⟨word, spoken, begins⟩ := (ih q).mp ⟨r, continued⟩
      exact ⟨_ :: word, (derivative p a v word).mpr ⟨q, answered, spoken⟩,
        List.cons_prefix_cons.mpr ⟨rfl, begins⟩⟩
    · rintro ⟨word, spoken, begins⟩
      obtain ⟨tail, rfl⟩ := begins
      obtain ⟨q, answered, goesOn⟩ := (derivative p a v _).mp spoken
      obtain ⟨r, continued⟩ := (ih q).mpr ⟨_, goesOn, List.prefix_append _ _⟩
      exact ⟨r, .cons answered continued⟩

end Pygpgme.Library.Generator
