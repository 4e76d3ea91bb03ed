import Mathlib.Tactic.TypeStar

/-!
# Requests and replies

A server answers one request after the other. Two servers that agree on every request
but those of some kind, on which they do not agree, give the same answers as long as no
such request is made, and no longer.
-/

set_option autoImplicit false

namespace Pygpgme.Library.RequestReply

variable {σ τ ι ο : Type}

def replies (step : σ → ι → ο × σ) : σ → List ι → List ο
  | _, [] => []
  | s, request :: rest => (step s request).1 :: replies step (step s request).2 rest

def after (step : σ → ι → ο × σ) : σ → List ι → σ
  | s, [] => s
  | s, request :: rest => after step (step s request).2 rest

/-- A request of the kind is made at some point. -/
def Meets (step : σ → ι → ο × σ) (kind : σ → ι → Prop) : σ → List ι → Prop
  | _, [] => False
  | s, request :: rest => kind s request ∨ Meets step kind (step s request).2 rest

section
variable {step : σ → ι → ο × σ} {other : τ → ι → ο × τ} {kind : σ → ι → Prop}

theorem replies_append (s : σ) (first second : List ι) :
    replies step s (first ++ second) =
      replies step s first ++ replies step (after step s first) second := by
  induction first generalizing s with
  | nil => rfl
  | cons request rest ih => exact congrArg _ (ih _)

theorem meets_append (s : σ) (first second : List ι) :
    Meets step kind s (first ++ second) ↔
      Meets step kind s first ∨ Meets step kind (after step s first) second := by
  induction first generalizing s with
  | nil => simp [Meets, after]
  | cons request rest ih => simp only [List.cons_append, Meets, after, ih, or_assoc]

theorem not_meets_of_forall (requests : List ι) (s : σ)
    (never : ∀ request ∈ requests, ∀ s, ¬ kind s request) : ¬ Meets step kind s requests := by
  induction requests generalizing s with
  | nil => exact id
  | cons request rest ih =>
    rintro (met | later)
    · exact never request List.mem_cons_self s met
    · exact ih _ (fun other mem => never other (List.mem_cons_of_mem _ mem)) later

/-- A server behind a translation of requests and replies. -/
def through {ι' ο' : Type} (ask : ι' → ι) (tell : ο → ο') (step : σ → ι → ο × σ) (s : σ)
    (request : ι') : ο' × σ :=
  (tell (step s (ask request)).1, (step s (ask request)).2)

theorem replies_through {ι' ο' : Type} (ask : ι' → ι) (tell : ο → ο') (s : σ)
    (requests : List ι') :
    replies (through ask tell step) s requests =
      (replies step s (requests.map ask)).map tell := by
  induction requests generalizing s with
  | nil => rfl
  | cons request rest ih => exact congrArg _ (ih _)

/-- Both servers go on from related states. -/
structure Agree (step : σ → ι → ο × σ) (other : τ → ι → ο × τ) (kind : σ → ι → Prop)
    (related : σ → τ → Prop) : Prop where
  same : ∀ s t request, related s t → ¬ kind s request →
    (other t request).1 = (step s request).1 ∧ related (step s request).2 (other t request).2
  differ : ∀ s t request, related s t → kind s request →
    (other t request).1 ≠ (step s request).1

variable {related : σ → τ → Prop}

theorem Agree.replies_eq_iff (agree : Agree step other kind related) (requests : List ι) {s : σ}
    {t : τ} (start : related s t) :
    replies other t requests = replies step s requests ↔ ¬ Meets step kind s requests := by
  induction requests generalizing s t with
  | nil => simp [replies, Meets]
  | cons request rest ih =>
    simp only [replies, Meets, List.cons.injEq, not_or]
    by_cases met : kind s request
    · simp [met, agree.differ s t request start met]
    · obtain ⟨same, next⟩ := agree.same s t request start met
      simp [met, same, ih next]

theorem Agree.after_related (agree : Agree step other kind related) (requests : List ι) {s : σ}
    {t : τ} (start : related s t) (never : ¬ Meets step kind s requests) :
    related (after step s requests) (after other t requests) := by
  induction requests generalizing s t with
  | nil => exact start
  | cons request rest ih =>
    simp only [Meets, not_or] at never
    exact ih (agree.same s t request start never.1).2 never.2

end

end Pygpgme.Library.RequestReply
