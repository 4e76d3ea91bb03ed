import Pygpgme.Library.OwnedReferences
import Pygpgme.Source.ResultObjects

/-!
# References of results, exceptions and callbacks are accounted for

Every conversion, annotation and callback gives up what it takes and does not return,
wherever memory runs out. `pygpgme_check_error` keeps a reference to each exception that
it raises, `pygpgme_import_result` one to a result whose list could not be made, and
`genkey` one to its result when the failure is no `GpgmeError`. The memory of an
`EngineInfo` and of a `SigNotation` is never freed.
-/

set_option autoImplicit false

namespace Pygpgme.Guarantees.ResultObjects
open Pygpgme.Library.ObjectGraph Pygpgme.Library.Program Pygpgme.Library.Transition
open Pygpgme.Library.OwnedReferences
open Pygpgme.Source.Python (ExcClass)
open Pygpgme.Source.Error (GpgError noError)
open Pygpgme.Source.Results
open Pygpgme.Source.ResultObjects

/-! ## The books -/

structure Sound (w : World) : Prop where
  counted : w.graph.Counted (shared :: w.pending.toList ++ w.held) w.unfreed
  fresh : ∀ o ∈ w.graph.live, o < w.next
  intact : w.fault = false

def references : Accounts World Nat where
  sound := Sound
  held := fun w => w.held
  lost := fun w => w.raised + w.unlisted + w.skipped

abbrev Owns {α : Type} (pre : Multiset Nat) (p : Own α) (post : α → Multiset Nat) : Prop :=
  references.Owns pre p post

/-- The reference in a variable that may be NULL. -/
def own (r : Option Nat) : Multiset Nat := r.toList

@[simp] theorem own_none : own none = 0 := rfl

@[simp] theorem own_some (o : Nat) : own (some o) = {o} := rfl

section
variable {w : World} {owned rest : Multiset Nat} {o : Nat}

theorem Sound.held_live (h : Sound w) (mem : o ∈ w.held) : o ∈ w.graph.live :=
  h.counted.root_live (List.mem_append_right _ mem)

theorem owned_held (balanced : references.Balanced owned rest w) (mem : o ∈ owned) :
    o ∈ w.held := by
  have held : (w.held : Multiset Nat) = owned + references.lost w + rest := balanced.2
  have member : o ∈ (w.held : Multiset Nat) := by
    rw [held, add_assoc]
    exact Multiset.mem_add.mpr (.inl mem)
  exact member

theorem shared_live (h : Sound w) : shared ∈ w.graph.live :=
  h.counted.root_live List.mem_cons_self

/-- Taking one reference more. -/
theorem balanced_incref (balanced : references.Balanced owned rest w) (live : o ∈ w.graph.live) :
    references.Balanced ({o} + owned) rest
      { w with graph := w.graph.incref o, held := o :: w.held } := by
  obtain ⟨sound, held⟩ := balanced
  refine ⟨⟨?_, sound.fresh, sound.intact⟩, ?_⟩
  · refine (sound.counted.incref live).congr (fun p => ?_) fun _ => rfl
    simp only [List.cons_append, List.count_cons, List.count_append]
    omega
  · change ((o :: w.held : List Nat) : Multiset Nat) = {o} + owned + references.lost w + rest
    have same : (w.held : Multiset Nat) = owned + references.lost w + rest := held
    rw [← Multiset.cons_coe, same, ← Multiset.singleton_add]
    abel

/-- Giving up one that is owned. -/
theorem balanced_decref (balanced : references.Balanced ({o} + owned) rest w) :
    references.Balanced owned rest
      { w with graph := w.graph.release [o], held := w.held.erase o } := by
  have mem := owned_held balanced (Multiset.mem_add.mpr (.inl (Multiset.mem_singleton_self o)))
  obtain ⟨sound, held⟩ := balanced
  refine ⟨⟨?_, ?_, sound.intact⟩, ?_⟩
  · refine Objects.Counted.release (sound.counted.congr (fun p => ?_) fun _ => rfl)
    have split := (List.perm_cons_erase mem).count_eq p
    simp only [List.cons_append, List.nil_append, List.count_cons, List.count_append] at split ⊢
    omega
  · intro p live
    exact sound.fresh p ((Objects.release_shrinks [o] w.graph).live p live)
  · change ((w.held.erase o : List Nat) : Multiset Nat) = owned + references.lost w + rest
    have same : (w.held : Multiset Nat) = {o} + owned + references.lost w + rest := held
    rw [← Multiset.coe_erase, same, add_assoc, add_assoc, Multiset.singleton_add,
      Multiset.erase_cons_head, add_assoc]

/-- A field takes over one that is owned. -/
theorem balanced_store {c : Nat} (balanced : references.Balanced ({c} + owned) rest w)
    (live : o ∈ w.graph.live) :
    references.Balanced owned rest
      { w with graph := w.graph.adopt o c, held := w.held.erase c } := by
  have mem := owned_held balanced (Multiset.mem_add.mpr (.inl (Multiset.mem_singleton_self c)))
  obtain ⟨sound, held⟩ := balanced
  refine ⟨⟨?_, sound.fresh, sound.intact⟩, ?_⟩
  · refine Objects.Counted.adopt (sound.counted.congr (fun p => ?_) fun _ => rfl) live
    have split := (List.perm_cons_erase mem).count_eq p
    simp only [List.cons_append, List.count_cons, List.count_append] at split ⊢
    omega
  · change ((w.held.erase c : List Nat) : Multiset Nat) = owned + references.lost w + rest
    have same : (w.held : Multiset Nat) = {c} + owned + references.lost w + rest := held
    rw [← Multiset.coe_erase, same, add_assoc, add_assoc, Multiset.singleton_add,
      Multiset.erase_cons_head, add_assoc]

/-- A new object takes over references that are owned. -/
theorem balanced_create (kind : Kind) {items : List Nat}
    (balanced : references.Balanced (items + owned) rest w) :
    references.Balanced ({w.next} + owned) rest (w.create kind items) := by
  obtain ⟨sound, held⟩ := balanced
  have same : (w.held : Multiset Nat) = items + owned + references.lost w + rest := held
  have taken : (items : Multiset Nat) ≤ w.held := by
    rw [same, add_assoc, add_assoc]
    exact Multiset.le_add_right _ _
  have counts : ∀ p, (w.held.diff items).count p + items.count p = w.held.count p := by
    intro p
    have fewer := Multiset.count_le_of_le p taken
    rw [Multiset.coe_count, Multiset.coe_count] at fewer
    rw [List.count_diff]
    omega
  have absent : w.next ∉ w.graph.live := fun live => Nat.lt_irrefl _ (sound.fresh _ live)
  refine ⟨⟨?_, ?_, sound.intact⟩, ?_⟩
  · have made : ((w.graph.hold w.next).create w.next items [w.next]).Counted
        (w.next :: (shared :: w.pending.toList ++ w.held.diff items)) w.unfreed := by
      refine Objects.Counted.create ?_ absent
      refine (sound.counted.hold w.next).congr (fun p => ?_) fun _ => rfl
      have split := counts p
      simp only [List.cons_append, List.count_cons, List.count_append]
      omega
    refine made.congr (fun p => ?_) fun _ => rfl
    simp only [World.create, List.cons_append, List.count_cons, List.count_append]
    omega
  · intro p live
    rcases List.mem_cons.mp live with rfl | old
    · exact Nat.lt_succ_self _
    · exact Nat.lt_succ_of_lt (sound.fresh p old)
  · change ((w.next :: w.held.diff items : List Nat) : Multiset Nat) =
      {w.next} + owned + references.lost w + rest
    have left : ((w.held.diff items : List Nat) : Multiset Nat) =
        owned + references.lost w + rest := by
      have both : ((w.held.diff items : List Nat) : Multiset Nat) + items = w.held := by
        ext p
        rw [Multiset.count_add, Multiset.coe_count, Multiset.coe_count, Multiset.coe_count]
        exact counts p
      rw [same, add_assoc, add_assoc, add_comm] at both
      rw [add_left_cancel both, add_assoc]
    rw [← Multiset.cons_coe, left, ← Multiset.singleton_add]
    abel

end

/-! ## The interpreter -/

theorem run_incref {o : Nat} {w : World} (live : o ∈ w.graph.live) :
    (incref o).run w = some ((), { w with graph := w.graph.incref o, held := o :: w.held }) :=
  if_pos live

theorem run_decref {o : Nat} {w : World} (mem : o ∈ w.held) :
    (decref o).run w =
      some ((), { w with graph := w.graph.release [o], held := w.held.erase o }) :=
  if_pos mem

theorem run_store {o c : Nat} {w : World} (both : o ∈ w.graph.live ∧ c ∈ w.held) :
    (store o (some c)).run w =
      some ((), { w with graph := w.graph.adopt o c, held := w.held.erase c }) :=
  if_pos both

theorem run_setPending {e : Nat} {w : World} (both : e ∈ w.held ∧ w.pending = none) :
    (setPending e).run w = some ((), { w with pending := some e, held := w.held.erase e }) :=
  if_pos both

theorem run_takeOver {kind : Kind} {items : List Nat} {w : World}
    (taken : (items : Multiset Nat) ≤ w.held) :
    (takeOver kind items).run w = some (some w.next, w.create kind items) :=
  if_pos taken

theorem owns_incref_shared : Owns 0 (incref shared) fun _ => {shared} := by
  intro rest w balanced a w' ran
  have live := shared_live balanced.1
  rw [run_incref live] at ran
  cases ran
  exact ⟨balanced_incref balanced live, le_rfl⟩

theorem owns_incref (o : Nat) : Owns {o} (incref o) fun _ => {o} + {o} := by
  intro rest w balanced a w' ran
  have live := balanced.1.held_live (owned_held balanced (Multiset.mem_singleton_self o))
  rw [run_incref live] at ran
  cases ran
  exact ⟨balanced_incref balanced live, le_rfl⟩

theorem owns_decref (o : Nat) : Owns {o} (decref o) fun _ => 0 := by
  intro rest w balanced a w' ran
  have mem := owned_held balanced (Multiset.mem_singleton_self o)
  rw [run_decref mem] at ran
  cases ran
  exact ⟨balanced_decref (by rwa [add_zero]), le_rfl⟩

theorem owns_xdecref (r : Option Nat) : Owns (own r) (xdecref r) fun _ => 0 := by
  cases r with
  | none => exact .pure rfl
  | some o => exact owns_decref o

theorem owns_decrefPointer (r : Option Nat) : Owns (own r) (decrefPointer r) fun _ => 0 := by
  cases r with
  | none => exact Accounts.owns_crash
  | some o => exact owns_decref o

theorem owns_store (o : Nat) (r : Option Nat) :
    Owns ({o} + own r) (store o r) fun _ => {o} := by
  cases r with
  | none => exact .pure (add_zero _)
  | some c =>
    intro rest w balanced a w' ran
    rw [own_some] at balanced
    have live := balanced.1.held_live
      (owned_held balanced (Multiset.mem_add.mpr (.inl (Multiset.mem_singleton_self o))))
    have mem := owned_held balanced (Multiset.mem_add.mpr (.inr (Multiset.mem_singleton_self c)))
    rw [run_store ⟨live, mem⟩] at ran
    cases ran
    exact ⟨balanced_store (by rwa [add_comm]) live, le_rfl⟩

theorem owns_fresh (kind : Kind) : Owns 0 (fresh kind) fun o => {o} := by
  intro rest w balanced a w' ran
  cases ran
  have made : references.Balanced ({w.next} + 0) rest (w.create kind []) :=
    balanced_create kind balanced
  rw [add_zero] at made
  exact ⟨made, le_rfl⟩

theorem owns_fetch : Owns 0 fetch own := by
  rintro rest w ⟨sound, held⟩ e w' ran
  cases ran
  refine ⟨⟨⟨?_, sound.fresh, sound.intact⟩, ?_⟩, le_rfl⟩
  · exact sound.counted.congr (fun p => by simp [List.count_append, List.count_cons]) fun _ => rfl
  · change ((w.pending.toList ++ w.held : List Nat) : Multiset Nat) = _
    have same : (w.held : Multiset Nat) = 0 + references.lost w + rest := held
    rw [← Multiset.coe_add, same, zero_add, own, add_assoc]
    rfl

/-- Nothing is pending when the exception is handed over. -/
theorem owns_restore (e : Option Nat) : Owns (own e) (restore e) fun _ => 0 := by
  intro rest w balanced
  have fetched := (owns_fetch.frame (own e)) rest w (by rwa [zero_add])
  refine ensures_bind (R := fun old w' => references.Balanced (own old + own e) rest w' ∧
    references.lost w ≤ references.lost w' ∧ w'.pending = none) ?_
    fun old w₁ ⟨balanced₁, kept₁, quiet₁⟩ => ?_
  · intro old w' ran
    obtain ⟨balanced', kept⟩ := fetched old w' ran
    refine ⟨balanced', kept, ?_⟩
    cases ran
    rfl
  refine ensures_bind (R := fun _ w' => references.Balanced (own e) rest w' ∧
    references.lost w ≤ references.lost w' ∧ w'.pending = none) ?_
    fun _ w₂ ⟨balanced₂, kept₂, quiet₂⟩ => ?_
  · intro _ w' ran
    obtain ⟨given, kept⟩ := ((owns_xdecref old).frame (own e)) rest w₁ balanced₁ _ w' ran
    rw [zero_add] at given
    refine ⟨given, kept₁.trans kept, ?_⟩
    · cases old with
      | none =>
        cases ran
        exact quiet₁
      | some old =>
        have mem := owned_held balanced₁
          (Multiset.mem_add.mpr (.inl (Multiset.mem_singleton_self old)))
        rw [xdecref, run_decref mem] at ran
        cases ran
        exact quiet₁
  cases e with
  | none =>
    intro _ w' ran
    cases ran
    exact ⟨balanced₂, kept₂⟩
  | some e =>
    intro _ w' ran
    have mem := owned_held balanced₂ (Multiset.mem_singleton_self e)
    rw [run_setPending ⟨mem, quiet₂⟩] at ran
    cases ran
    obtain ⟨sound, held⟩ := balanced₂
    refine ⟨⟨⟨?_, sound.fresh, sound.intact⟩, ?_⟩, kept₂⟩
    · refine sound.counted.congr (fun p => ?_) fun _ => rfl
      have split := (List.perm_cons_erase mem).count_eq p
      simp only [quiet₂, Option.toList_some, Option.toList_none, List.cons_append,
        List.nil_append, List.count_cons] at split ⊢
      omega
    · change ((w₂.held.erase e : List Nat) : Multiset Nat) = 0 + references.lost w₂ + rest
      have same : (w₂.held : Multiset Nat) = {e} + references.lost w₂ + rest := held
      rw [← Multiset.coe_erase, same, add_assoc, Multiset.singleton_add,
        Multiset.erase_cons_head, zero_add]

theorem owns_clear : Owns 0 clear fun _ => 0 := owns_fetch.bind owns_xdecref

theorem owns_raise (cls : ExcClass) : Owns 0 (raise cls) fun _ => 0 :=
  (owns_fresh _).bind fun e => owns_restore (some e)

/-- The new exception has the reference to the old one. -/
theorem owns_raiseFromCause (cls : ExcClass) : Owns 0 (raiseFromCause cls) fun _ => 0 := by
  refine owns_fetch.bind fun cause => ?_
  refine (owns_fresh _).then (own cause) (zero_add _).symm fun e => ?_
  exact (owns_store e cause).bind fun _ => owns_restore (some e)

theorem owns_occurred : Owns 0 occurred fun _ => 0 := Accounts.owns_read

theorem owns_matchesPending (test : ExcClass → Bool) :
    Owns 0 (matchesPending test) fun _ => 0 := Accounts.owns_read

theorem owns_matchesGiven (e : Nat) (test : ExcClass → Bool) :
    Owns 0 (matchesGiven e test) fun _ => 0 := Accounts.owns_read

theorem owns_kindOf (o : Nat) : Owns 0 (kindOf o) fun _ => 0 := Accounts.owns_read

section
variable (answers : Answers)

theorem owns_request : Owns 0 (request answers) fun _ => 0 := by
  rintro rest w ⟨sound, held⟩ a w' ran
  cases ran
  exact ⟨⟨⟨sound.counted, sound.fresh, sound.intact⟩, held⟩, le_rfl⟩

theorem owns_make (kind : Kind) : Owns 0 (make answers kind) own := by
  refine (owns_request answers).bind fun answer => ?_
  cases answer with
  | granted => exact (owns_fresh kind).bind fun o => .pure rfl
  | shared => exact owns_incref_shared.bind fun _ => .pure rfl
  | refused => exact (owns_raise memoryError).bind fun _ => .pure rfl

theorem owns_new : Owns 0 (new answers) own := by
  refine (owns_request answers).bind fun answer => ?_
  cases answer with
  | granted | shared => exact (owns_fresh .other).bind fun o => .pure rfl
  | refused => exact (owns_raise memoryError).bind fun _ => .pure rfl

/-- The memory of such an object is never freed, whatever becomes of the object. -/
theorem owns_freshUnfreed : Owns 0 freshUnfreed fun o => {o} := by
  rintro rest w ⟨sound, held⟩ a w' ran
  cases ran
  have absent : w.next ∉ w.graph.live := fun live => Nat.lt_irrefl _ (sound.fresh _ live)
  refine ⟨⟨⟨?_, ?_, sound.intact⟩, ?_⟩, le_rfl⟩
  · have made : ((w.graph.hold w.next).create w.next [] []).Counted
        (w.next :: (shared :: w.pending.toList ++ w.held)) (w.next :: w.unfreed) :=
      Objects.Counted.create (sound.counted.hold w.next) absent
    refine made.congr (fun p => ?_) fun _ => rfl
    simp only [List.cons_append, List.count_cons, List.count_append]
    omega
  · intro p live
    rcases List.mem_cons.mp live with rfl | old
    · exact Nat.lt_succ_self _
    · exact Nat.lt_succ_of_lt (sound.fresh p old)
  · change ((w.next :: w.held : List Nat) : Multiset Nat) =
      {w.next} + references.lost w + rest
    have same : (w.held : Multiset Nat) = 0 + references.lost w + rest := held
    rw [← Multiset.cons_coe, same, ← Multiset.singleton_add]
    abel

theorem owns_newUnfreed : Owns 0 (newUnfreed answers) own := by
  refine (owns_request answers).bind fun answer => ?_
  cases answer with
  | granted | shared => exact owns_freshUnfreed.bind fun o => .pure rfl
  | refused => exact (owns_raise memoryError).bind fun _ => .pure rfl

theorem owns_none : Owns 0 none_ own := owns_incref_shared.bind fun _ => .pure rfl

theorem owns_text (data : Option Source.Python.Bytes) : Owns 0 (text answers data) own := by
  cases data with
  | none => exact owns_none
  | some data => exact owns_make answers .other

theorem owns_increfAll (items : List Nat) :
    Owns items (increfAll items) fun _ => (items : Multiset Nat) + items := by
  induction items with
  | nil => exact .pure rfl
  | cons o rest ih =>
    refine (owns_incref o).then (rest : Multiset Nat) ?_ fun _ => (ih.frame ({o} + {o})).congr ?_ ?_
    · rw [← Multiset.cons_coe, Multiset.singleton_add]
    · rw [add_comm]
    · intro _
      rw [← Multiset.cons_coe, ← Multiset.singleton_add]
      abel

theorem owns_decrefAll (items : List Nat) : Owns items (decrefAll items) fun _ => 0 := by
  induction items with
  | nil => exact .pure rfl
  | cons o rest ih =>
    refine (owns_decref o).then (rest : Multiset Nat) ?_ fun _ => ih.congr (zero_add _) fun _ => rfl
    rw [← Multiset.cons_coe, Multiset.singleton_add]

theorem owns_takeOver (kind : Kind) (items : List Nat) :
    Owns items (takeOver kind items) own := by
  intro rest w balanced a w' ran
  have taken : (items : Multiset Nat) ≤ w.held := by
    have held : (w.held : Multiset Nat) = items + references.lost w + rest := balanced.2
    rw [held, add_assoc]
    exact Multiset.le_add_right _ _
  rw [run_takeOver taken] at ran
  cases ran
  rw [← add_zero (items : Multiset Nat)] at balanced
  have made := balanced_create kind balanced
  rw [add_zero] at made
  exact ⟨made, le_rfl⟩

theorem owns_pack (kind : Kind) (items : List Nat) :
    Owns items (pack answers kind items) own := by
  refine (owns_request answers).then (items : Multiset Nat) (zero_add _).symm fun answer => ?_
  rw [zero_add]
  cases answer with
  | granted | shared => exact owns_takeOver kind items
  | refused =>
    exact (owns_decrefAll items).bind fun _ => (owns_raise memoryError).bind fun _ => .pure rfl

/-- The references among the items. -/
theorem own_items (items : List (Option Nat)) :
    (items.reduceOption : Multiset Nat) = (items.map own).sum := by
  induction items with
  | nil => rfl
  | cons item rest ih =>
    cases item with
    | none =>
      change (rest.reduceOption : Multiset Nat) = 0 + (rest.map own).sum
      rw [ih, zero_add]
    | some o =>
      change ((o :: rest.reduceOption : List Nat) : Multiset Nat) = {o} + (rest.map own).sum
      rw [← Multiset.cons_coe, ih, Multiset.singleton_add]

theorem owns_buildValue (items : List (Option Nat)) :
    Owns (items.map own).sum (buildValue answers items) own := by
  rw [← own_items]
  refine Accounts.owns_ite (fun _ => owns_pack answers .other _) fun _ => ?_
  refine (owns_decrefAll _).bind fun _ => owns_occurred.bind fun raised => ?_
  refine Accounts.owns_ite (fun _ => .pure rfl) fun _ => ?_
  exact (owns_raise .systemError).bind fun _ => .pure rfl

/-- The object keeps its reference, and one of the value is taken besides. -/
theorem owns_attach (o value : Nat) :
    Owns ({o} + {value}) (do
      incref value
      store o (some value)) fun _ => {o} + {value} := by
  refine (owns_incref value).then {o} (add_comm _ _) fun _ => ?_
  refine ((owns_store o (some value)).frame {value}).congr ?_ fun _ => rfl
  rw [own_some]
  abel

theorem owns_append (list item : Option Nat) :
    Owns (own list + own item) (append answers list item) fun _ => own list + own item := by
  cases list with
  | none => exact Accounts.owns_crash
  | some list =>
    cases item with
    | none => exact ((owns_raise _).frame (own (some list))).congr rfl fun _ => rfl
    | some item =>
      refine (owns_request answers).then ({list} + {item}) (zero_add _).symm ?_
      intro answer
      rw [zero_add]
      cases answer with
      | granted | shared => exact owns_attach list item
      | refused =>
        exact ((owns_raise _).frame ({list} + {item})).congr (zero_add _).symm fun _ => zero_add _

theorem owns_setAttr (o : Nat) (value : Option Nat) :
    Owns ({o} + own value) (setAttr answers o value) fun _ => {o} + own value := by
  cases value with
  | none => exact ((owns_raise _).frame {o}).congr (add_comm _ _) fun _ => add_comm _ _
  | some value =>
    refine (owns_request answers).then ({o} + {value}) (zero_add _).symm fun answer => ?_
    rw [zero_add]
    cases answer with
    | granted | shared => exact owns_attach o value
    | refused =>
      exact ((owns_raise _).frame ({o} + {value})).congr (zero_add _).symm fun _ => zero_add _

theorem owns_finish (ending : Ending) : Owns 0 (finish answers ending) own := by
  cases ending with
  | returns kind => exact owns_clear.bind fun _ => owns_make answers kind
  | raises cls => exact (owns_raise cls).bind fun _ => .pure rfl

theorem owns_dropResult : Owns 0 (dropResult answers) own := by
  refine (owns_make answers .other).bind fun result => ?_
  cases result with
  | none => exact .pure rfl
  | some result =>
    exact (owns_decref result).bind fun _ => (owns_raiseFromCause _).bind fun _ => .pure rfl

/-- What is returned while an exception is pending is given up. -/
theorem owns_callUser (call : UserCall) : Owns 0 (callUser answers call) own := by
  refine owns_occurred.bind fun raised => ?_
  refine Accounts.owns_ite (fun _ => ?_) fun _ => owns_finish answers call.alone
  cases call.handled with
  | none => exact owns_dropResult answers
  | some ending => exact owns_finish answers ending

/-! ## Enums and errors -/

theorem owns_isKnown : Owns 0 (isKnown answers) fun _ => 0 := Accounts.owns_read

theorem owns_callEnum : Owns 0 (callEnum answers) own := by
  refine owns_occurred.bind fun raised => Accounts.owns_ite (fun _ => ?_) fun _ => ?_
  · exact (owns_raiseFromCause _).bind fun _ => .pure rfl
  refine (owns_isKnown answers).bind fun known => Accounts.owns_ite (fun _ => ?_) fun _ => ?_
  · exact owns_make answers .long
  · exact (owns_raise _).bind fun _ => .pure rfl

theorem owns_enumValueNew : Owns 0 (enumValueNew answers) own := by
  refine (owns_make answers .long).bind fun intValue => ?_
  cases intValue with
  | none => exact Accounts.owns_crash
  | some intValue =>
    refine (owns_callEnum answers).then {intValue} (zero_add _).symm fun enumValue => ?_
    cases enumValue with
    | some enumValue =>
      refine (owns_decref intValue).then {enumValue} (add_comm _ _) fun _ => .pure ?_
      rw [zero_add, own_some]
    | none =>
      rw [own_none, zero_add]
      refine (owns_matchesPending _).then {intValue} (zero_add _).symm fun unknown => ?_
      rw [zero_add]
      refine Accounts.owns_ite (fun _ => ?_) fun _ => ?_
      · refine owns_clear.then {intValue} (zero_add _).symm fun _ => ?_
        rw [zero_add]
        refine (owns_incref intValue).bind fun _ => ?_
        refine (owns_decref intValue).then {intValue} rfl fun _ => .pure ?_
        rw [zero_add, own_some]
      · exact (owns_decref intValue).bind fun _ => .pure rfl

theorem owns_callError (items : List Nat) :
    Owns items (callError answers items) fun exc => (items : Multiset Nat) + own exc := by
  refine (owns_increfAll items).bind fun _ => ?_
  refine (owns_pack answers .other items).then (items : Multiset Nat) rfl fun args => ?_
  cases args with
  | none => exact .pure (add_comm _ _)
  | some args =>
    exact ((owns_pack answers _ [args]).frame (items : Multiset Nat)).congr rfl
      fun _ => add_comm _ _

/-- The three attributes of an exception. -/
theorem owns_setAttrs {exc source code strerror : Nat} {rest : Own (Option Nat)}
    {post : Option Nat → Multiset Nat}
    (next : Owns ({exc} + {source} + {code} + {strerror}) rest post) :
    Owns ({exc} + {source} + {code} + {strerror}) (do
      setAttr answers exc (some source)
      setAttr answers exc (some code)
      setAttr answers exc (some strerror)
      rest) post := by
  refine (owns_setAttr answers exc (some source)).then ({code} + {strerror}) ?_ fun _ => ?_
  · rw [own_some, add_assoc]
  refine (owns_setAttr answers exc (some code)).then ({source} + {strerror}) ?_ fun _ => ?_
  · rw [own_some, own_some]
    abel
  refine (owns_setAttr answers exc (some strerror)).then ({source} + {code}) ?_ fun _ => ?_
  · rw [own_some, own_some]
    abel
  refine next.congr ?_ fun _ => rfl
  rw [own_some]
  abel

/-- The references to the parts of an exception are given up. -/
theorem owns_giveUp (exc : Option Nat) {source code strerror : Nat} :
    Owns (own exc + {source} + {code} + {strerror}) (do
      decref strerror
      decref code
      decref source
      return exc) own := by
  refine (owns_decref strerror).then (own exc + {source} + {code}) (add_comm _ _) fun _ => ?_
  rw [zero_add]
  refine (owns_decref code).then (own exc + {source}) (add_comm _ _) fun _ => ?_
  rw [zero_add]
  refine (owns_decref source).then (own exc) (add_comm _ _) fun _ => .pure ?_
  rw [zero_add]

theorem owns_errorObject (err : GpgError) : Owns 0 (errorObject answers err) own := by
  refine Accounts.owns_ite (fun _ => owns_none) fun _ => ?_
  refine (owns_enumValueNew answers).bind fun source => ?_
  cases source with
  | none => exact .pure rfl
  | some source =>
    refine (owns_enumValueNew answers).then {source} (zero_add _).symm fun code => ?_
    cases code with
    | none =>
      rw [own_none, zero_add]
      exact (owns_decref source).bind fun _ => .pure rfl
    | some code =>
      refine (owns_make answers .other).then ({code} + {source}) (zero_add _).symm ?_
      intro strerror
      cases strerror with
      | none =>
        rw [own_none, zero_add]
        refine (owns_decref code).then {source} rfl fun _ => ?_
        rw [zero_add]
        exact (owns_decref source).bind fun _ => .pure rfl
      | some strerror =>
        have parts : (([source, code, strerror] : List Nat) : Multiset Nat) =
            {source} + {code} + {strerror} := rfl
        refine (owns_callError answers [source, code, strerror]).then 0 ?_ fun exc => ?_
        · rw [own_some, parts]
          abel
        rw [parts, add_zero]
        cases exc with
        | none =>
          refine (owns_giveUp none).congr ?_ fun _ => rfl
          rw [own_none]
          abel
        | some exc =>
          refine (owns_setAttrs answers (owns_giveUp (some exc))).congr ?_ fun _ => rfl
          rw [own_some]
          abel

/-- An exception that is raised keeps the reference of the variable. -/
theorem owns_setObject (exc : Nat) : Owns {exc} (setObject exc) fun _ => 0 := by
  refine (owns_incref exc).bind fun _ => ?_
  refine (owns_restore (some exc)).then {exc} rfl fun _ => ?_
  rw [zero_add]
  refine Accounts.owns_forget (fun w sound => ⟨sound.counted, sound.fresh, sound.intact⟩)
    (fun _ => rfl) fun w => ?_
  change ((exc :: w.raised : List Nat) : Multiset Nat) + w.unlisted + w.skipped =
    {exc} + (w.raised + w.unlisted + w.skipped)
  rw [← Multiset.cons_coe, ← Multiset.singleton_add]
  abel

theorem owns_checkError (err : GpgError) : Owns 0 (checkError answers err) fun _ => 0 := by
  refine Accounts.owns_ite (fun _ => .pure rfl) fun _ => ?_
  refine (owns_errorObject answers err).bind fun exc => ?_
  cases exc with
  | none => exact .pure rfl
  | some exc => exact (owns_setObject exc).bind fun _ => .pure rfl

theorem owns_checkPyerror (overflows : Bool) :
    Owns 0 (checkPyerror answers overflows) fun _ => 0 := by
  refine owns_occurred.bind fun raised => Accounts.owns_ite (fun _ => ?_) fun _ => .pure rfl
  refine owns_fetch.bind fun e => ?_
  refine (owns_make answers .other).then (own e) (zero_add _).symm fun args => ?_
  have ends : Owns (own args + own e) (do
      xdecref e
      xdecref args
      clear) fun _ => 0 := by
    refine (owns_xdecref e).then (own args) (add_comm _ _) fun _ => ?_
    rw [zero_add]
    exact (owns_xdecref args).bind fun _ => owns_clear
  refine Accounts.owns_ite (fun _ => ?_) fun _ => ends
  refine (owns_raise _).then (own args + own e) (zero_add _).symm fun _ => ?_
  rwa [zero_add]

/-! ## Results -/

variable {more : Multiset Nat} {β : Type} {post : β → Multiset Nat}

/-- A program that needs none of the references that are there. -/
theorem owns_first {p : Own (Option Nat)} {rest : Option Nat → Own β} (value : Owns 0 p own)
    (next : ∀ r, Owns (own r + more) (rest r) post) : Owns more (p >>= rest) post :=
  value.then more (zero_add _).symm next

theorem owns_unit {p : Own Unit} {rest : Unit → Own β} (none : Owns 0 p fun _ => 0)
    (next : Owns more (rest ()) post) : Owns more (p >>= rest) post :=
  none.then more (zero_add _).symm fun _ => by rwa [zero_add]

/-- A field is set to what a conversion returns. -/
theorem owns_field {p : Own (Option Nat)} {item : Nat} {rest : Own β} (value : Owns 0 p own)
    (next : Owns ({item} + more) rest post) :
    Owns ({item} + more) (do
      store item (← p)
      rest) post := by
  refine owns_first value fun r => ?_
  refine (owns_store item r).then more ?_ fun _ => next
  abel

/-- An item goes to its list, or nowhere. -/
theorem owns_append_item {list : Option Nat} {item : Nat} {rest : Own β}
    (next : Owns (own list) rest post) :
    Owns ({item} + own list) (do
      append answers list (some item)
      decref item
      rest) post := by
  refine ((owns_append answers list (some item)).congr (add_comm _ _) fun _ => rfl).bind ?_
  intro _
  refine (owns_decref item).then (own list) (add_comm _ _) fun _ => ?_
  rwa [zero_add]

/-- Without an item the list is given up. -/
theorem owns_giveUpList (list : Option Nat) :
    Owns (own list) (do
      decrefPointer list
      return none) own :=
  (owns_decrefPointer list).bind fun _ => .pure rfl

theorem owns_newsigs (signatures : List NewSig) :
    ∀ list, Owns (own list) (newsigs answers list signatures) own := by
  induction signatures with
  | nil => exact fun list => .pure rfl
  | cons sig rest ih =>
    intro list
    refine owns_first (owns_new answers) fun item => ?_
    cases item with
    | none => exact (owns_giveUpList list).congr (zero_add _) fun _ => rfl
    | some item =>
      refine owns_field (owns_enumValueNew answers) ?_
      refine owns_field (owns_enumValueNew answers) ?_
      refine owns_field (owns_enumValueNew answers) ?_
      refine owns_field (owns_make answers .long) ?_
      refine owns_field (owns_text answers sig.fpr) ?_
      refine owns_field (owns_make answers .long) ?_
      refine owns_occurred.then ({item} + own list) (zero_add _).symm fun raised => ?_
      rw [zero_add]
      refine Accounts.owns_ite (fun _ => ?_) fun _ => owns_append_item answers (ih list)
      refine (owns_decref item).then (own list) rfl fun _ => ?_
      rw [zero_add]
      exact owns_giveUpList list

theorem owns_newsiglistNew (signatures : List NewSig) :
    Owns 0 (newsiglistNew answers signatures) own :=
  (owns_new answers).bind (owns_newsigs answers signatures)

theorem owns_sigNotations (notations : List RawNotation) :
    ∀ list, Owns (own list) (sigNotations answers list notations) own := by
  induction notations with
  | nil => exact fun list => .pure rfl
  | cons raw rest ih =>
    intro list
    refine owns_first (owns_newUnfreed answers) fun item => ?_
    cases item with
    | none => exact (owns_giveUpList list).congr (zero_add _) fun _ => rfl
    | some item =>
      refine owns_field (owns_text answers raw.name) ?_
      refine owns_field (owns_make answers .other) ?_
      exact owns_append_item answers (ih list)

theorem owns_sigNotationListNew (notations : List RawNotation) :
    Owns 0 (sigNotationListNew answers notations) own :=
  (owns_new answers).bind (owns_sigNotations answers notations)

theorem owns_sigs (signatures : List Sig) :
    ∀ list, Owns (own list) (sigs answers list signatures) own := by
  induction signatures with
  | nil => exact fun list => .pure rfl
  | cons sig rest ih =>
    intro list
    refine owns_first (owns_new answers) fun item => ?_
    cases item with
    | none => exact (owns_giveUpList list).congr (zero_add _) fun _ => rfl
    | some item =>
      refine owns_field (owns_enumValueNew answers) ?_
      refine owns_field (owns_text answers sig.fpr) ?_
      refine owns_field (owns_errorObject answers sig.status) ?_
      refine owns_field (owns_sigNotationListNew answers sig.notations) ?_
      refine owns_field (owns_make answers .long) ?_
      refine owns_field (owns_make answers .long) ?_
      refine owns_field owns_none ?_
      refine owns_field (owns_enumValueNew answers) ?_
      refine owns_field (owns_errorObject answers sig.validityReason) ?_
      refine owns_field (owns_enumValueNew answers) ?_
      refine owns_field (owns_enumValueNew answers) ?_
      refine owns_occurred.then ({item} + own list) (zero_add _).symm fun raised => ?_
      rw [zero_add]
      refine Accounts.owns_ite (fun _ => ?_) fun _ => owns_append_item answers (ih list)
      refine (owns_decref item).then (own list) rfl fun _ => ?_
      rw [zero_add]
      exact owns_giveUpList list

theorem owns_siglistNew (signatures : List Sig) :
    Owns 0 (siglistNew answers signatures) own :=
  (owns_new answers).bind (owns_sigs answers signatures)

/-- The list is alive as a field of an object that is. -/
theorem owns_appendToLast (self item : Nat) :
    Owns ({self} + {item}) (appendToLast answers self (some item)) fun _ => {self} + {item} := by
  intro rest w balanced
  have selfMem := owned_held balanced
    (Multiset.mem_add.mpr (.inl (Multiset.mem_singleton_self self)))
  have itemMem := owned_held balanced
    (Multiset.mem_add.mpr (.inr (Multiset.mem_singleton_self item)))
  have selfLive := balanced.1.held_live selfMem
  refine ensures_bind (R := fun list w' => w' = w ∧ list = (w.graph.children self).getLast?) ?_ ?_
  · intro list w' ran
    cases ran
    exact ⟨rfl, rfl⟩
  rintro list w₁ ⟨rfl, last⟩
  cases list with
  | none => exact Accounts.owns_crash rest w₁ balanced
  | some list =>
    have listLive : list ∈ w₁.graph.live :=
      balanced.1.counted.child_live selfLive (List.mem_of_getLast? last.symm)
    refine ensures_bind (R := fun _ w' => references.Balanced ({self} + {item}) rest w' ∧
      references.lost w₁ ≤ references.lost w' ∧ w'.graph = w₁.graph ∧ w'.held = w₁.held) ?_ ?_
    · intro answer w' ran
      have asked := ((owns_request answers).frame ({self} + {item})) rest w₁ (by rwa [zero_add])
      obtain ⟨balanced', kept⟩ := asked answer w' ran
      rw [zero_add] at balanced'
      refine ⟨balanced', kept, ?_⟩
      cases ran
      exact ⟨rfl, rfl⟩
    rintro answer w₂ ⟨balanced₂, kept, graph, held⟩
    have attached : ensures (do
        incref item
        store list (some item)) w₂ fun _ w' => references.Balanced ({self} + {item}) rest w' ∧
          references.lost w₁ ≤ references.lost w' := by
      have live₂ : item ∈ w₂.graph.live := balanced₂.1.held_live (held ▸ itemMem)
      refine ensures_bind (R := fun _ w' =>
        references.Balanced ({item} + ({self} + {item})) rest w' ∧
        references.lost w₁ ≤ references.lost w' ∧ list ∈ w'.graph.live) ?_ ?_
      · intro _ w' ran
        rw [run_incref live₂] at ran
        cases ran
        exact ⟨balanced_incref balanced₂ live₂, kept, graph ▸ listLive⟩
      · rintro _ w₃ ⟨balanced₃, kept₃, live₃⟩ _ w' ran
        have mem := owned_held balanced₃
          (Multiset.mem_add.mpr (.inl (Multiset.mem_singleton_self item)))
        rw [run_store ⟨live₃, mem⟩] at ran
        cases ran
        exact ⟨balanced_store balanced₃ live₃, kept₃⟩
    cases answer with
    | granted | shared => exact attached
    | refused =>
      have raised := ((owns_raise memoryError).frame ({self} + {item})) rest w₂ (by rwa [zero_add])
      intro u w' ran
      obtain ⟨balanced', more⟩ := raised u w' ran
      rw [zero_add] at balanced'
      exact ⟨balanced', kept.trans more⟩

theorem owns_importStatuses (self : Nat) (statuses : List ImportStatus) :
    Owns {self} (importStatuses answers self statuses) own := by
  induction statuses with
  | nil => exact .pure rfl
  | cons status rest ih =>
    refine owns_first (owns_text answers status.fpr) fun fpr => ?_
    refine owns_first (owns_errorObject answers status.result) fun result => ?_
    refine owns_first (owns_enumValueNew answers) fun flags => ?_
    refine (owns_buildValue answers [fpr, result, flags]).then {self} ?_ fun item => ?_
    · simp only [List.map_cons, List.map_nil, List.sum_cons, List.sum_nil, add_zero]
      abel
    cases item with
    | none =>
      rw [own_none, zero_add]
      exact (owns_decref self).bind fun _ => .pure rfl
    | some item =>
      refine ((owns_appendToLast answers self item).congr (add_comm _ _) fun _ => rfl).bind ?_
      intro _
      refine (owns_decref item).then {self} (add_comm _ _) fun _ => ?_
      rwa [zero_add]

theorem owns_addInts (self : Nat) (counts : List (String × Int)) :
    Owns {self} (addInts answers self counts) fun _ => {self} := by
  induction counts with
  | nil => exact .pure rfl
  | cons _ rest ih =>
    refine (owns_field (owns_make answers .long) ?_).congr (add_zero _).symm fun _ => rfl
    rwa [add_zero]

theorem owns_unlisted (self : Nat) :
    Owns {self} (modify fun w => { w with unlisted := self :: w.unlisted } : Own Unit)
      fun _ => 0 := by
  refine Accounts.owns_forget (fun w sound => ⟨sound.counted, sound.fresh, sound.intact⟩)
    (fun _ => rfl) fun w => ?_
  change (w.raised : Multiset Nat) + ((self :: w.unlisted : List Nat) : Multiset Nat) + w.skipped =
    {self} + (w.raised + w.unlisted + w.skipped)
  rw [← Multiset.cons_coe, ← Multiset.singleton_add]
  abel

theorem owns_importResult (res : Option ImportResult) :
    Owns 0 (importResult answers res) own := by
  cases res with
  | none => exact owns_none
  | some res =>
    refine (owns_new answers).bind fun self => ?_
    cases self with
    | none => exact .pure rfl
    | some self =>
      refine (owns_addInts answers self res.counts).bind fun _ => ?_
      refine owns_first (owns_new answers) fun imports => ?_
      cases imports with
      | none =>
        rw [own_none, zero_add]
        exact (owns_unlisted self).bind fun _ => .pure rfl
      | some imports =>
        refine ((owns_store self (some imports)).congr (add_comm _ _) fun _ => rfl).bind ?_
        exact fun _ => owns_importStatuses answers self res.imports

theorem owns_genkeyResult (res : Option GenkeyResult) :
    Owns 0 (genkeyResult answers res) own := by
  cases res with
  | none => exact owns_none
  | some res =>
    refine (owns_new answers).bind fun self => ?_
    cases self with
    | none => exact .pure rfl
    | some self =>
      refine (owns_field owns_none ?_).congr (add_zero _).symm fun _ => rfl
      refine owns_field owns_none ?_
      refine owns_field (owns_text answers res.fpr) ?_
      exact .pure (add_zero _)

theorem owns_engineInfos (infos : List EngineInfo) :
    ∀ list, Owns (own list) (engineInfos answers list infos) own := by
  induction infos with
  | nil => exact fun list => .pure rfl
  | cons info rest ih =>
    intro list
    refine owns_first (owns_newUnfreed answers) fun item => ?_
    cases item with
    | none => exact (owns_giveUpList list).congr (zero_add _) fun _ => rfl
    | some item =>
      refine owns_field (owns_enumValueNew answers) ?_
      refine owns_field (owns_text answers info.fileName) ?_
      refine owns_field (owns_text answers info.version) ?_
      refine owns_field (owns_text answers info.reqVersion) ?_
      refine owns_field (owns_text answers info.homeDir) ?_
      exact owns_append_item answers (ih list)

theorem owns_engineInfoListNew (infos : List EngineInfo) :
    Owns 0 (engineInfoListNew answers infos) own :=
  (owns_new answers).bind (owns_engineInfos answers infos)

/-! ## Annotations -/

/-- The exception is put back, whatever was added to it. -/
theorem owns_annotate {f : Nat → Own Unit} (body : ∀ e, Owns {e} (f e) fun _ => {e}) :
    Owns 0 (annotate f) fun _ => 0 := by
  refine owns_fetch.bind fun e => ?_
  cases e with
  | none => exact owns_restore none
  | some e =>
    refine (owns_matchesGiven e _).then {e} (zero_add _).symm fun ours => ?_
    rw [zero_add]
    have ends : Owns {e} (restore (some e)) fun _ => 0 := owns_restore (some e)
    exact Accounts.owns_ite (fun _ => (body e).bind fun _ => ends) fun _ => ends

theorem owns_invalidKeys (list : Option Nat) (keys : List InvalidKey) :
    Owns (own list) (invalidKeys answers list keys) fun _ => own list := by
  induction keys with
  | nil => exact .pure rfl
  | cons key rest ih =>
    refine owns_first (owns_text answers key.fpr) fun fpr => ?_
    refine owns_first (owns_errorObject answers key.reason) fun reason => ?_
    refine (owns_buildValue answers [fpr, reason]).then (own list) ?_ fun item => ?_
    · simp only [List.map_cons, List.map_nil, List.sum_cons, List.sum_nil, add_zero]
      abel
    refine ((owns_append answers list item).congr (add_comm _ _) fun _ => rfl).bind fun _ => ?_
    refine (owns_decrefPointer item).then (own list) (add_comm _ _) fun _ => ?_
    rwa [zero_add]

theorem owns_setList (e : Nat) (list : Option Nat) :
    Owns ({e} + own list) (setList answers e list) fun _ => {e} := by
  refine (owns_setAttr answers e list).bind fun _ => ?_
  exact ((owns_decrefPointer list).frame {e}).congr (add_comm _ _) fun _ => zero_add _

theorem owns_setInvalidKeys (e : Nat) (keys : List InvalidKey) :
    Owns {e} (setInvalidKeys answers e keys) fun _ => {e} := by
  refine owns_first (owns_new answers) fun list => ?_
  refine (owns_invalidKeys answers list keys).then {e} rfl fun _ => ?_
  exact (owns_setList answers e list).congr (add_comm _ _) fun _ => rfl

theorem owns_setValue (e : Nat) (value : Option Nat) :
    Owns ({e} + own value) (setValue answers e value) fun _ => {e} := by
  cases value with
  | none => exact .pure (add_zero _)
  | some value =>
    refine (owns_setAttr answers e (some value)).bind fun _ => ?_
    exact ((owns_decref value).frame {e}).congr (add_comm _ _) fun _ => zero_add _

theorem owns_decodeEncryptResult (res : Option (List InvalidKey)) :
    Owns 0 (decodeEncryptResult answers res) fun _ => 0 := by
  refine owns_annotate fun e => ?_
  cases res with
  | none => exact .pure rfl
  | some keys => exact owns_setInvalidKeys answers e keys

theorem owns_decodeDecryptResult (res : Option DecryptResult) :
    Owns 0 (decodeDecryptResult answers res) fun _ => 0 := by
  refine owns_annotate fun e => ?_
  cases res with
  | none => exact .pure rfl
  | some res =>
    refine owns_first (owns_text answers res.unsupportedAlgorithm) fun value => ?_
    refine ((owns_setValue answers e value).congr (add_comm _ _) fun _ => rfl).bind fun _ => ?_
    refine owns_first owns_none fun value => ?_
    exact (owns_setValue answers e value).congr (add_comm _ _) fun _ => rfl

theorem owns_annotateSignResult (res : Option SignResult) :
    Owns 0 (annotateSignResult answers res) fun _ => 0 := by
  refine owns_annotate fun e => ?_
  cases res with
  | none => exact .pure rfl
  | some res =>
    refine (owns_setInvalidKeys answers e res.invalidSigners).bind fun _ => ?_
    refine owns_first (owns_newsiglistNew answers res.signatures) fun list => ?_
    exact (owns_setList answers e list).congr (add_comm _ _) fun _ => rfl

theorem owns_annotateVerifyResult (res : Option (List Sig)) :
    Owns 0 (annotateVerifyResult answers res) fun _ => 0 := by
  refine owns_annotate fun e => ?_
  cases res with
  | none => exact .pure rfl
  | some signatures =>
    refine owns_first (owns_siglistNew answers signatures) fun list => ?_
    exact (owns_setList answers e list).congr (add_comm _ _) fun _ => rfl

/-- The result is given up, whether the exception has it or not. -/
theorem owns_annotateResult (result : Option Nat) :
    Owns (own result) (annotateResult answers result) fun _ => 0 := by
  refine owns_first owns_fetch fun e => ?_
  cases e with
  | none =>
    rw [own_none, zero_add]
    exact (owns_xdecref result).bind fun _ => owns_restore none
  | some e =>
    have ends : Owns ({e} + own result) (do
        xdecref result
        restore (some e)) fun _ => 0 := by
      refine (owns_xdecref result).then {e} (add_comm _ _) fun _ => ?_
      rw [zero_add]
      exact owns_restore (some e)
    refine (owns_matchesGiven e _).then ({e} + own result) (zero_add _).symm fun ours => ?_
    rw [zero_add]
    refine Accounts.owns_ite (fun _ => ?_) fun _ => ends
    exact (owns_setAttr answers e result).bind fun _ => ends

theorem owns_skip (result : Option Nat) : Owns (own result) (skip result) fun _ => 0 := by
  refine Accounts.owns_forget (fun w sound => ⟨sound.counted, sound.fresh, sound.intact⟩)
    (fun _ => rfl) fun w => ?_
  change (w.raised : Multiset Nat) + w.unlisted + ((result.toList ++ w.skipped : List Nat)) =
    own result + (w.raised + w.unlisted + w.skipped)
  rw [← Multiset.coe_add, own]
  abel

/-- The result is given up to a `GpgmeError`, and forgotten with any other exception. -/
theorem owns_annotateGenkey (result : Option Nat) :
    Owns (own result) (annotateGenkey answers result) fun _ => 0 := by
  refine owns_first owns_fetch fun e => ?_
  cases e with
  | none =>
    rw [own_none, zero_add]
    exact (owns_skip result).bind fun _ => owns_restore none
  | some e =>
    refine (owns_matchesGiven e _).then ({e} + own result) (zero_add _).symm fun ours => ?_
    rw [zero_add]
    refine Accounts.owns_ite (fun _ => ?_) fun _ => ?_
    · exact (owns_setValue answers e result).bind fun _ => owns_restore (some e)
    · refine (owns_skip result).then {e} (add_comm _ _) fun _ => ?_
      rw [zero_add]
      exact owns_restore (some e)

/-! ## Callbacks -/

theorem owns_passphraseCb (outcome : UserCall) (overflows : Bool) :
    Owns 0 (passphraseCb answers outcome overflows) fun _ => 0 := by
  refine (owns_callUser answers outcome).bind fun ret => ?_
  refine owns_unit (owns_checkPyerror answers overflows) ?_
  exact owns_xdecref ret

theorem owns_progressCb (outcome : UserCall) :
    Owns 0 (progressCb answers outcome) fun _ => 0 := by
  refine (owns_callUser answers outcome).bind fun ret => ?_
  exact owns_unit owns_clear (owns_xdecref ret)

theorem owns_editCb (outcome : UserCall) (overflows : Bool) :
    Owns 0 (editCb answers outcome overflows) fun _ => 0 := by
  refine (owns_enumValueNew answers).bind fun status => ?_
  refine owns_first (owns_callUser answers outcome) fun ret => ?_
  refine (owns_decrefPointer status).then (own ret) (add_comm _ _) fun _ => ?_
  rw [zero_add]
  exact owns_unit (owns_checkPyerror answers overflows) (owns_xdecref ret)

theorem owns_setErrno (errno : UserCall) (overflows : Bool) :
    Owns 0 (setErrno answers errno overflows) fun _ => 0 := by
  refine owns_fetch.bind fun e => ?_
  cases e with
  | none => exact Accounts.owns_crash
  | some e =>
    refine (owns_matchesGiven e _).then {e} (zero_add _).symm fun ours => ?_
    rw [zero_add]
    refine Accounts.owns_ite (fun _ => ?_) fun _ => owns_decref e
    refine owns_first (owns_callUser answers errno) fun number => ?_
    have ends : Owns (own number + {e}) (do
        xdecref number
        decref e) fun _ => 0 := by
      refine (owns_xdecref number).then {e} rfl fun _ => ?_
      rw [zero_add]
      exact owns_decref e
    cases number with
    | none => exact owns_unit owns_clear ends
    | some n =>
      refine (owns_kindOf n).then (own (some n) + {e}) (zero_add _).symm fun kind => ?_
      rw [zero_add]
      refine Accounts.owns_ite (fun _ => ?_) fun _ => owns_unit owns_clear ends
      exact Accounts.owns_ite (fun _ => owns_unit (owns_raise _) ends) fun _ => ends

theorem owns_readCb (outcome errno : UserCall) (overflows : Bool) :
    Owns 0 (readCb answers outcome errno overflows) fun _ => 0 := by
  refine (owns_callUser answers outcome).bind fun result => ?_
  cases result with
  | none => exact owns_setErrno answers errno overflows
  | some result => exact owns_decref result

theorem owns_writeCb (outcome errno : UserCall) (overflows : Bool) :
    Owns 0 (writeCb answers outcome errno overflows) fun _ => 0 := by
  refine (owns_make answers .bytes).bind fun buffer => ?_
  cases buffer with
  | none => exact owns_setErrno answers errno overflows
  | some buffer =>
    refine owns_first (owns_callUser answers outcome) fun result => ?_
    have ends : Owns (own result + {buffer}) (do
        xdecref result
        decref buffer) fun _ => 0 := by
      refine (owns_xdecref result).then {buffer} rfl fun _ => ?_
      rw [zero_add]
      exact owns_decref buffer
    refine Accounts.owns_ite (fun _ => ?_) fun _ => ends
    exact owns_unit (owns_setErrno answers errno overflows) ends

theorem owns_seekCb (seek tell errno : UserCall) (overflows : Bool) :
    Owns 0 (seekCb answers seek tell errno overflows) fun _ => 0 := by
  refine (owns_callUser answers seek).bind fun result => ?_
  cases result with
  | none => exact owns_setErrno answers errno overflows
  | some result =>
    refine (owns_decref result).bind fun _ => ?_
    refine (owns_callUser answers tell).bind fun position => ?_
    cases position with
    | none => exact owns_setErrno answers errno overflows
    | some position =>
      refine (owns_kindOf position).then {position} (zero_add _).symm fun kind => ?_
      rw [zero_add]
      refine Accounts.owns_ite (fun _ => ?_) fun _ => owns_decref position
      exact owns_unit (owns_raise _) (owns_decref position)

/-! ## The ends of the methods -/

theorem owns_noneUnlessError (err : GpgError) : Owns 0 (noneUnlessError answers err) own := by
  refine (owns_checkError answers err).bind fun failed => ?_
  exact Accounts.owns_ite (fun _ => .pure rfl) fun _ => owns_none

theorem owns_orFail (err : GpgError) {details : Own Unit} {success : Own (Option Nat)}
    (detailed : Owns 0 details fun _ => 0) (succeeds : Owns 0 success own) :
    Owns 0 (orFail answers err details success) own := by
  refine (owns_checkError answers err).bind fun failed => ?_
  refine Accounts.owns_ite (fun _ => ?_) fun _ => succeeds
  exact detailed.bind fun _ => .pure rfl

theorem owns_newSignatures (res : Option SignResult) :
    Owns 0 (newSignatures answers res) own := by
  cases res with
  | none => exact owns_new answers
  | some res => exact owns_newsiglistNew answers res.signatures

theorem owns_signatures (res : Option (List Sig)) : Owns 0 (signatures answers res) own := by
  cases res with
  | none => exact owns_new answers
  | some list => exact owns_siglistNew answers list

/-- The result is made before the error is looked at. -/
theorem owns_resultFirst (err : GpgError) {p : Own (Option Nat)} (made : Owns 0 p own)
    {report : Option Nat → Own Unit}
    (annotates : ∀ result, Owns (own result) (report result) fun _ => 0) :
    Owns 0 (do
      let result ← p
      if ← checkError answers err then
        report result
        return none
      else return result) own := by
  refine made.bind fun result => ?_
  refine (owns_checkError answers err).then (own result) (zero_add _).symm fun failed => ?_
  rw [zero_add]
  refine Accounts.owns_ite (fun _ => ?_) fun _ => .pure rfl
  exact (annotates result).bind fun _ => .pure rfl

/-- A callback returns nothing to the program. -/
theorem owns_callback {p : Own Unit} (kept : Owns 0 p fun _ => 0) :
    Owns 0 (do
      p
      return none) own :=
  kept.bind fun _ => .pure rfl

theorem owns_run (part : Part) : Owns 0 (part.run answers) own := by
  cases part with
  | passphraseCb outcome overflows =>
    exact owns_callback (owns_passphraseCb answers outcome overflows)
  | progressCb outcome => exact owns_callback (owns_progressCb answers outcome)
  | editCb outcome overflows => exact owns_callback (owns_editCb answers outcome overflows)
  | readCb outcome errno overflows =>
    exact owns_callback (owns_readCb answers outcome errno overflows)
  | writeCb outcome errno overflows =>
    exact owns_callback (owns_writeCb answers outcome errno overflows)
  | seekCb seek tell errno overflows =>
    exact owns_callback (owns_seekCb answers seek tell errno overflows)
  | noneUnlessError err => exact owns_noneUnlessError answers err
  | getEngineInfo infos => exact owns_engineInfoListNew answers infos
  | encrypt err encrypted =>
    exact owns_orFail answers err (owns_decodeEncryptResult answers encrypted) owns_none
  | encryptSign err encrypted signed =>
    refine owns_orFail answers err ?_ (owns_newSignatures answers signed)
    exact owns_unit (owns_decodeEncryptResult answers encrypted)
      (owns_annotateSignResult answers signed)
  | decrypt err decrypted =>
    exact owns_orFail answers err (owns_decodeDecryptResult answers decrypted) owns_none
  | decryptVerify err decrypted verified =>
    refine owns_orFail answers err (owns_decodeDecryptResult answers decrypted) ?_
    exact owns_orFail answers err (owns_annotateVerifyResult answers verified)
      (owns_signatures answers verified)
  | sign err signed =>
    exact owns_orFail answers err (owns_annotateSignResult answers signed)
      (owns_newSignatures answers signed)
  | verify err verified =>
    exact owns_orFail answers err (owns_annotateVerifyResult answers verified)
      (owns_signatures answers verified)
  | import_ err res =>
    exact owns_resultFirst answers err (owns_importResult answers res) (owns_annotateResult answers)
  | genkey err res =>
    exact owns_resultFirst answers err (owns_genkeyResult answers res) (owns_annotateGenkey answers)

end

/-! ## Sessions -/

/-- The references in variables are those of the program, and the lost ones. -/
def Settled (s : Session) : Prop := references.Balanced s.program 0 s.world

/-- A settled session that has lost what another has. -/
def After (before s : Session) : Prop :=
  Settled s ∧ references.lost before.world ≤ references.lost s.world

/-- A program that needs nothing adds what it returns. -/
theorem Settled.returned {s : Session} {p : Own (Option Nat)} {r : Option Nat} {w : World}
    (settled : Settled s) (owns : Owns 0 p own) (ran : p.run s.world = some (r, w)) :
    After s ⟨w, r.toList ++ s.program⟩ := by
  have balanced := (owns.frame s.program) 0 s.world (by rwa [zero_add]) r w ran
  exact balanced

theorem Settled.step {s s' : Session} {label : Label} (settled : Settled s)
    (taken : s.step label = some s') : After s s' := by
  cases label with
  | run answers part =>
    obtain ⟨⟨r, w⟩, ran, rfl⟩ := Option.map_eq_some_iff.mp taken
    exact settled.returned (owns_run answers part) ran
  | «catch» =>
    cases taken
    exact settled.returned owns_fetch rfl
  | take o =>
    rw [Session.step] at taken
    split at taken
    next live =>
      rw [run_incref live] at taken
      cases taken
      exact ⟨balanced_incref settled live, le_rfl⟩
    next => cases taken
  | drop o =>
    rw [Session.step] at taken
    split at taken
    next mem =>
      have split : (s.program : Multiset Nat) = {o} + (s.program.erase o : List Nat) :=
        Multiset.coe_eq_coe.mpr (List.perm_cons_erase mem)
      have balanced : references.Balanced ({o} + (s.program.erase o : List Nat)) 0 s.world :=
        split ▸ settled
      have held :=
        owned_held balanced (Multiset.mem_add.mpr (.inl (Multiset.mem_singleton_self o)))
      rw [run_decref held] at taken
      cases taken
      exact ⟨balanced_decref balanced, le_rfl⟩
    next => cases taken

end Pygpgme.Guarantees.ResultObjects
