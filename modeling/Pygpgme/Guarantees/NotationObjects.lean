import Pygpgme.Guarantees.FailureDetails
import Pygpgme.Source.NotationObjects

/-!
# The fields of notation objects

Every object that `__init__` accepted arguments for, or that was made from a gpgme
notation, has the fields that its flags promise, whatever happened to it otherwise. One
that `__new__` left alone has none.
-/

set_option autoImplicit false

namespace Pygpgme.Guarantees.NotationObjects
open Pygpgme.Library.Program Pygpgme.Library.Transition
open Pygpgme.Source.Python Pygpgme.Source.Arguments Pygpgme.Source.Results
open Pygpgme.Source.Setters (notationName notationValue)
open Pygpgme.Source.NotationObjects
open Pygpgme.Guarantees.FailureDetails (plainModule)

/-- The representation of a notation, and what its consumers need of it: no NULL, and no
object of another type. A lone surrogate is the only thing that cannot be encoded. -/
structure Dependable (o : NotationObject) : Prop where
  name : o.name = some .none ∨ ∃ text, o.name = some (.str text)
  value : if humanReadable o.flags then ∃ text, o.value = some (.str text)
    else ∃ data, o.value = some (.bytes data)
  indexed : ∀ index s, s.pending = none → achieves (sigNotationItem o index) s fun r s' =>
    r = none ↔ s'.pending.isSome = true
  assigned : ∀ s, s.pending = none → achieves (notationStrings o) s fun _ s' =>
    ∀ e, s'.pending = some e → e.cls = .unicodeEncodeError

theorem sigNotationItem_of (n : SigNotation) (index : Int) {s : Interp}
    (quiet : s.pending = none) :
    achieves (sigNotationItem (.of n) index) s fun r s' => r = none ↔ s'.pending.isSome = true := by
  unfold sigNotationItem NotationObject.of newReference
  by_cases first : index = 0
  · simp [first, quiet]
  · by_cases second : index = 1
    · simp [second, quiet]
    · simp [first, second]

/-- `PyObject.items` is what the two sequence slots of the type give. -/
theorem sigNotation_items (n : SigNotation) :
    ∃ items, PyObject.items (.sigNotation (some n)) = .ok items ∧
      items.length = sigNotationLength (.of n) ∧
      ∀ (index : Nat) (s : Interp), achieves (sigNotationItem (.of n) index) s fun r _ =>
        r = items[index]? := by
  refine ⟨_, rfl, rfl, ?_⟩
  intro index s
  unfold sigNotationItem NotationObject.of newReference
  match index with
  | 0 => simp
  | 1 => simp
  | index + 2 =>
    have later : ((index + 2 : Nat) : Int) ≠ 0 ∧ ((index + 2 : Nat) : Int) ≠ 1 := by omega
    rw [if_neg later.1, if_neg later.2]
    simp

theorem fresh_items (s : Interp) (Q : Option PyObject → Interp → Prop) :
    PyObject.items (.sigNotation none) = .error .crash ∧
      ¬ achieves (sigNotationItem .fresh 0) s Q :=
  ⟨rfl, by simp [sigNotationItem, NotationObject.fresh, newReference]⟩

/-- The setter reads an object as the notation it stands for. -/
theorem notationStrings_of (n : SigNotation) :
    notationStrings (.of n) = (do
      let name ← notationName n.name
      let value ← attempt (notationValue n.flags n.value)
      return (name, value)) := by
  have name : nameString (some (nameObject n.name)) = notationName n.name := by
    cases n.name <;> rfl
  have value : (if humanReadable n.flags then asUTF8AndSize (some (valueObject n.value))
      else bytesAsString (some (valueObject n.value))) =
        attempt (notationValue n.flags n.value) := by
    have typed := n.typed
    cases stored : n.value with
    | text text =>
      have readable : humanReadable n.flags = true := typed.mpr ⟨text, stored⟩
      simp [readable, notationValue, valueObject, asUTF8AndSize]
    | data data =>
      have binary : humanReadable n.flags = false := by simpa [stored] using typed
      simp [binary, notationValue, valueObject, bytesAsString, attempt]
  unfold notationStrings NotationObject.of
  simp only [name, value]

/-- Nothing is pending, or a string that cannot be encoded. -/
def OnlyUnencodable (s : Interp) : Prop := ∀ e, s.pending = some e → e.cls = .unicodeEncodeError

theorem attempt_unencodable (text : List CodePoint) {s : Interp} (before : OnlyUnencodable s) :
    achieves (attempt (encodeUtf8 text)) s fun _ s' => OnlyUnencodable s' := by
  unfold encodeUtf8
  rw [achieves_attempt]
  cases encodable text with
  | true => exact before
  | false =>
    intro e pending
    cases pending
    rfl

theorem notationStrings_dependable (n : SigNotation) {s : Interp} (quiet : s.pending = none) :
    achieves (notationStrings (.of n)) s fun _ s' => OnlyUnencodable s' := by
  have before : OnlyUnencodable s := by simp [OnlyUnencodable, quiet]
  rw [notationStrings_of]
  have named : achieves (notationName n.name) s fun _ s' => OnlyUnencodable s' := by
    cases n.name with
    | none => exact (achieves_pure _ _ _).mpr before
    | some text => exact attempt_unencodable text before
  apply achieves_bind_of named
  intro _ s' after
  have valued : achieves (attempt (notationValue n.flags n.value)) s' fun _ s'' =>
      OnlyUnencodable s'' := by
    have typed := n.typed
    cases stored : n.value with
    | text text =>
      have readable : humanReadable n.flags = true := typed.mpr ⟨text, stored⟩
      rw [notationValue, if_pos readable]
      exact attempt_unencodable text after
    | data data =>
      have binary : ¬ humanReadable n.flags = true := by simpa [stored] using typed
      rw [notationValue, if_neg binary]
      exact (achieves_attempt s' _ _).mpr after
  apply achieves_bind_of valued
  intro _ s'' last
  exact (achieves_pure _ _ _).mpr last

theorem Dependable.of (n : SigNotation) : Dependable (.of n) where
  name := by
    cases named : n.name with
    | none => exact .inl (by simp [NotationObject.of, named, nameObject])
    | some text => exact .inr ⟨text, by simp [NotationObject.of, named, nameObject]⟩
  value := by
    have typed := n.typed
    cases stored : n.value with
    | text text =>
      have readable : humanReadable n.flags = true := typed.mpr ⟨text, stored⟩
      simp [NotationObject.of, readable, stored, valueObject]
    | data data =>
      have binary : humanReadable n.flags = false := by simpa [stored] using typed
      simp [NotationObject.of, binary, stored, valueObject]
  indexed := fun index _ quiet => sigNotationItem_of n index quiet
  assigned := fun _ quiet => notationStrings_dependable n quiet

theorem fresh_not_dependable : ¬ Dependable .fresh := by
  intro dependable
  rcases dependable.name with none | some
  · cases none
  · obtain ⟨_, some⟩ := some
    cases some

/-! ## Runs -/

/-- An object is that of a notation, or as `__new__` left it. -/
def Represented (t : Tracked) : Prop :=
  ∃ fields : Option SigNotation, t.object = .ofFields fields ∧ t.initialised = fields.isSome

theorem Represented.of (n : SigNotation) : Represented ⟨.of n, true⟩ := ⟨some n, rfl, rfl⟩

/-- What holds of every notation survives each step, if it holds of what a bare `__new__`
leaves or the step is none. -/
theorem step_forall {P : Tracked → Prop} (of : ∀ n : SigNotation, P ⟨.of n, true⟩) {m : Module}
    {s s' : List Tracked} {event : Event} (fresh : event = .new → P ⟨.fresh, false⟩)
    (before : ∀ t ∈ s, P t) (taken : step m s event = some s') : ∀ t ∈ s', P t := by
  cases event with
  | new =>
    cases taken
    exact List.forall_mem_append.mpr ⟨before, List.forall_mem_singleton.mpr (fresh rfl)⟩
  | construct args kwargs =>
    rcases sigNotationInit_cases args kwargs .fresh with ⟨accepted, n, stored⟩ | ⟨_, e, kept⟩
    · simp only [step, stored, accepted] at taken
      cases taken
      exact List.forall_mem_append.mpr ⟨before, List.forall_mem_singleton.mpr (of n)⟩
    · simp only [step, kept] at taken
      cases taken
      exact before
  | init i args kwargs =>
    obtain ⟨self, found, taken⟩ := Option.bind_eq_some_iff.mp taken
    cases taken
    intro t member
    rcases List.mem_or_eq_of_mem_set member with old | changed
    · exact before t old
    · rw [changed]
      rcases sigNotationInit_cases args kwargs self.object with
        ⟨accepted, n, stored⟩ | ⟨refused, e, kept⟩
      · rw [accepted, stored, Bool.or_true]
        exact of n
      · rw [refused, kept, Bool.or_false]
        exact before self (List.mem_of_getElem? found)
  | listNew notations =>
    cases taken
    refine List.forall_mem_append.mpr ⟨before, List.forall_mem_map.mpr ?_⟩
    intro raw _
    rw [notationItem_eq]
    exact of _

theorem represented_of_reach {m : Module} {s : List Tracked}
    (reached : Reachable (notationObjects m) s) : ∀ t ∈ s, Represented t := by
  apply reached.invariant
  · intro s start t member
    rw [start] at member
    cases member
  · intro s event s' before _ taken
    exact step_forall Represented.of (fun _ => ⟨none, rfl, rfl⟩) before taken

/-- In every reachable state, exactly the objects that were initialised are dependable; so
all are in a run without a bare `__new__`. An `__init__` that fails leaves its object as it
was. -/
theorem dependable_iff_initialised (m : Module) :
    (∀ s, Reachable (notationObjects m) s → ∀ t ∈ s, Dependable t.object ↔ t.initialised = true) ∧
      (∀ s, Reach (notationObjects m) (fun _ event => event ≠ .new) s →
        ∀ t ∈ s, Dependable t.object) ∧
      ∀ args kwargs self e after, sigNotationInit args kwargs self = (some e, after) →
        after = self := by
  have exact : ∀ s, Reachable (notationObjects m) s → ∀ t ∈ s,
      Dependable t.object ↔ t.initialised = true := by
    intro s reached t member
    obtain ⟨fields, same, initialised⟩ := represented_of_reach reached t member
    rw [same, initialised]
    cases fields with
    | none => exact iff_of_false fresh_not_dependable (by simp)
    | some n => exact iff_of_true (Dependable.of n) rfl
  refine ⟨exact, ?_, ?_⟩
  · intro s reached t member
    have initialised : ∀ t ∈ s, t.initialised = true := by
      apply reached.invariant
      · intro s start t member
        rw [start] at member
        cases member
      · intro s event s' before notNew taken
        exact step_forall (fun _ => rfl) (fun new => absurd new notNew) before taken
    exact (exact s reached.reachable t member).mpr (initialised t member)
  · intro args kwargs self e after failed
    rcases sigNotationInit_cases args kwargs self with ⟨_, n, stored⟩ | ⟨_, _, kept⟩
    · rw [stored] at failed
      cases failed
    · rw [kept] at failed
      cases failed
      rfl

/-- `SigNotation.__new__(SigNotation)[0]` crashes. -/
theorem new_object_crashes :
    ∃ s, Reachable (notationObjects plainModule) s ∧ ∃ t ∈ s, ¬ Dependable t.object ∧
      ∀ Q, ¬ achieves (sigNotationItem t.object 0) Interp.clean Q := by
  refine ⟨[⟨.fresh, false⟩], .of_run [.new] (.init rfl) rfl, ⟨.fresh, false⟩, by simp,
    fresh_not_dependable, ?_⟩
  intro Q
  exact (fresh_items Interp.clean Q).2

end Pygpgme.Guarantees.NotationObjects
