import Pygpgme.Source.ContextLifetime

/-!
# When a Context is released

`gpgme_release` runs once for a Context, when the last reference to it is given up, and
`gpgme_op_keylist_end` once for a KeyIter, before that. `Sound` holds between any two
steps; `Fine` says in addition what program code cannot do to objects it cannot reach.

Programs reach objects through references only. Weak references, the introspection of the
`gc` module and destructors that bring an object back are outside the model.
-/

set_option autoImplicit false

namespace Pygpgme.Guarantees.ContextLifetime
open Pygpgme.Library.ObjectGraph Pygpgme.Library.Transition
open Pygpgme.Source.Registration (Slot)
open Pygpgme.Source.ContextLifetime
open Relation

/-! ## What a deallocator does once -/

/-- The object an event is about. -/
def object : Event → Nat
  | .gpgmeRelease o | .freeLock o | .keylistEnd o => o

/-- The events of a deallocator, the last one first. -/
def events (o : Nat) : Cell → List Event
  | .context true _ => [.freeLock o, .gpgmeRelease o]
  | .context false _ => [.freeLock o]
  | .keyIter _ => [.keylistEnd o]
  | .object _ | .data _ _ => []

theorem events_object {o : Nat} {cell : Cell} {e : Event} (mem : e ∈ events o cell) :
    object e = o := by
  unfold events at mem
  split at mem <;> simp only [List.mem_cons, List.not_mem_nil, or_false] at mem
  · rcases mem with rfl | rfl <;> rfl
  · subst mem
    rfl
  · subst mem
    rfl

/-- A deallocator does nothing twice. -/
theorem events_nodup (o : Nat) (cell : Cell) : (events o cell).Nodup := by
  unfold events
  split <;> simp

/-- Only a Context that was initialised is released: `pygpgme_context_dealloc` tests
`self->ctx`. -/
theorem gpgmeRelease_mem (o : Nat) (cell : Cell) :
    .gpgmeRelease o ∈ events o cell ↔ ∃ callback, cell = .context true callback := by
  cases cell with
  | context ctx callback => cases ctx <;> simp [events]
  | _ => simp [events]

theorem freeLock_mem (o : Nat) (cell : Cell) :
    .freeLock o ∈ events o cell ↔ cell.isContext = true := by
  cases cell with
  | context ctx callback => cases ctx <;> simp [events, Cell.isContext]
  | _ => simp [events, Cell.isContext]

/-- The listing is ended for a KeyIter and for nothing else. -/
theorem keylistEnd_mem (o : Nat) (cell : Cell) :
    .keylistEnd o ∈ events o cell ↔ ∃ ctx, cell = .keyIter ctx := by
  cases cell with
  | context ctx callback => cases ctx <;> simp [events]
  | _ => simp [events]

/-! ## Invariant -/

/-- What an object refers to has the type it needs. -/
structure Typed (w : World) (o : Nat) : Prop where
  python : ∀ c ∈ (w.cell o).children, (w.cell c).isPython
  listing : ∀ ctx, w.cell o = .keyIter ctx → (w.cell ctx).isContext

/-- What holds between any two steps: the counters agree with the references, objects that
do not exist yet are empty, and no deallocator has run into freed memory. -/
structure Sound (w : World) : Prop where
  counted : w.graph.Counted (w.held ++ w.pending) []
  born : ∀ o ∈ w.live, o < w.next
  unborn : ∀ o, w.next ≤ o → w.cell o = .object []
  typed : ∀ o ∈ w.live, Typed w o
  intact : w.fault = false
  once : w.log.Nodup
  /-- The log has the events of the objects that are gone. -/
  logged : ∀ e, e ∈ w.log ↔ object e ∉ w.live ∧ e ∈ events (object e) (w.cell (object e))
  /-- The listings of a Context ended before it was released. -/
  ordered : ∀ k ctx after before, w.cell k = .keyIter ctx →
    w.log = after ++ .gpgmeRelease ctx :: before → .keylistEnd k ∈ before

theorem start_sound : Sound World.start where
  counted := by constructor <;> simp [World.start, World.graph, Cell.children]
  born := by
    intro o mem
    cases mem
  unborn := fun _ _ => rfl
  typed := by
    intro o mem
    cases mem
  intact := rfl
  once := List.nodup_nil
  logged := by
    intro e
    simp [World.start, events]
  ordered := by
    intro k ctx after before shape
    cases shape

section
variable {w w' : World}

theorem Sound.next_dead (h : Sound w) : w.next ∉ w.live :=
  fun mem => Nat.lt_irrefl _ (h.born _ mem)

/-- What the program can reach is alive. -/
theorem Sound.led_live (h : Sound w) {o : Nat} (led : w.graph.Led w.held o) : o ∈ w.live :=
  h.counted.led_live (led.mono (fun _ _ refers => refers)
    fun _ root => List.mem_append_left _ root)

theorem Sound.held_live (h : Sound w) {o : Nat} (held : o ∈ w.held) : o ∈ w.live :=
  h.led_live (Objects.Led.root held)

/-! ## Changing fields -/

/-- The object keeps its type; a gpgme context may be set, a KeyIter keeps its Context. -/
def Keeps : Cell → Cell → Prop
  | .object _, .object _ => True
  | .context _ _, .context _ _ => True
  | .keyIter ctx, .keyIter ctx' => ctx = ctx'
  | .data _ _, .data _ _ => True
  | _, _ => False

theorem Keeps.refl (cell : Cell) : Keeps cell cell := by
  cases cell <;> simp [Keeps]

theorem Keeps.isPython {cell cell' : Cell} (keeps : Keeps cell cell') :
    cell'.isPython = cell.isPython := by
  cases cell <;> cases cell' <;> first | rfl | cases keeps

theorem Keeps.isContext {cell cell' : Cell} (keeps : Keeps cell cell') :
    cell'.isContext = cell.isContext := by
  cases cell <;> cases cell' <;> first | rfl | cases keeps

theorem Keeps.tracked {cell cell' : Cell} (keeps : Keeps cell cell') :
    cell'.tracked = cell.tracked := by
  cases cell <;> cases cell' <;> first | rfl | cases keeps

/-- The Context of a KeyIter never changes. -/
theorem Keeps.keyIter {cell cell' : Cell} (keeps : Keeps cell cell') {ctx : Nat}
    (shape : cell' = .keyIter ctx) : cell = .keyIter ctx := by
  subst shape
  cases cell with
  | keyIter old =>
    have same : old = ctx := keeps
    rw [same]
  | _ => cases keeps

/-- The fields of live objects and the references change, and nothing else. -/
structure Edit (w w' : World) : Prop where
  live : w'.live = w.live
  next : w'.next = w.next
  log : w'.log = w.log
  fault : w'.fault = w.fault
  dead : ∀ o, o ∉ w.live → w'.cell o = w.cell o
  keeps : ∀ o, Keeps (w.cell o) (w'.cell o)

/-- The part of the invariant that an edit has to show anew is the counting, and that no
field points out of Python. -/
theorem Sound.edit (h : Sound w) (edit : Edit w w')
    (counted : w'.graph.Counted (w'.held ++ w'.pending) [])
    (python : ∀ o ∈ w.live, ∀ c ∈ (w'.cell o).children, (w'.cell c).isPython) : Sound w' where
  counted := counted
  born := by
    intro o mem
    rw [edit.live] at mem
    rw [edit.next]
    exact h.born o mem
  unborn := by
    intro o above
    rw [edit.next] at above
    have dead : o ∉ w.live := fun mem => absurd (h.born o mem) (Nat.not_lt.mpr above)
    rw [edit.dead o dead]
    exact h.unborn o above
  typed := by
    intro o mem
    rw [edit.live] at mem
    refine ⟨python o mem, fun ctx shape => ?_⟩
    rw [(edit.keeps ctx).isContext]
    exact (h.typed o mem).listing ctx ((edit.keeps o).keyIter shape)
  intact := by rw [edit.fault, h.intact]
  once := by
    rw [edit.log]
    exact h.once
  logged := by
    intro e
    rw [edit.log, edit.live, h.logged e]
    refine and_congr_right fun dead => ?_
    rw [edit.dead _ dead]
  ordered := by
    intro k ctx after before shape split
    rw [edit.log] at split
    exact h.ordered k ctx after before ((edit.keeps k).keyIter shape) split

/-! ## What program code can do

It reaches objects through variables only. -/

/-- Nothing that the program could not reach before is changed or becomes reachable. -/
structure Shift (w w' : World) : Prop where
  live : ∀ o ∈ w.live, o ∈ w'.live
  cell : ∀ o ∈ w.live, ¬ w.graph.Led w.held o → w'.cell o = w.cell o
  led : ∀ o ∈ w.live, w'.graph.Led w'.held o → w.graph.Led w.held o

/-- The invariant, and only what variables lead to has changed. -/
structure Fine (w w' : World) : Prop where
  sound : Sound w'
  shift : Shift w w'

theorem Fine.refl (h : Sound w) : Fine w w :=
  ⟨h, fun _ mem => mem, fun _ _ _ => rfl, fun _ _ led => led⟩

theorem Fine.trans {w'' : World} (first : Fine w w') (second : Fine w' w'') : Fine w w'' where
  sound := second.sound
  shift := {
    live := fun o mem => second.shift.live o (first.shift.live o mem)
    cell := by
      intro o mem lost
      have lost' : ¬ w'.graph.Led w'.held o := fun led => lost (first.shift.led o mem led)
      rw [second.shift.cell o (first.shift.live o mem) lost', first.shift.cell o mem lost]
    led := fun o mem led =>
      first.shift.led o mem (second.shift.led o (first.shift.live o mem) led) }

/-- A reference is taken to what is reachable, so nothing comes into reach. -/
theorem Sound.incref (h : Sound w) {o : Nat} (led : w.graph.Led w.held o) :
    Fine w (w.incref o) where
  sound := by
    have edit : Edit w (w.incref o) :=
      ⟨rfl, rfl, rfl, rfl, fun _ _ => rfl, fun _ => Keeps.refl _⟩
    apply h.edit edit
    · exact h.counted.incref (h.led_live led)
    · exact fun p mem => (h.typed p mem).python
  shift := {
    live := fun _ mem => mem
    cell := fun _ _ _ => rfl
    led := by
      intro p _ later
      refine later.within ?_ fun _ _ before refers => before.on (.single refers)
      intro r root
      rcases List.mem_cons.mp root with rfl | old
      · exact led
      · exact Objects.Led.root old }

/-- Whether the object goes is decided later, when the interpreter gets to it. -/
theorem Sound.decref (h : Sound w) {o : Nat} (held : o ∈ w.held) : Fine w (w.decref o) where
  sound := by
    have edit : Edit w (w.decref o) :=
      ⟨rfl, rfl, rfl, rfl, fun _ _ => rfl, fun _ => Keeps.refl _⟩
    apply h.edit edit
    · apply h.counted.congr _ fun _ => rfl
      intro p
      have perm := (List.perm_cons_erase held).count_eq p
      simp only [World.decref, List.count_append, List.count_cons] at perm ⊢
      omega
    · exact fun p mem => (h.typed p mem).python
  shift := {
    live := fun _ mem => mem
    cell := fun _ _ _ => rfl
    led := fun _ _ later =>
      later.mono (fun _ _ refers => refers) fun _ root => List.mem_of_mem_erase root }

/-- `fields` is what the object has afterwards. -/
theorem Sound.assign (h : Sound w) {o : Nat} {fields : Cell} {taken given : List Nat}
    (held : o ∈ w.held) (keeps : Keeps (w.cell o) fields)
    (mine : ∀ c, taken.count c ≤ w.held.count c)
    (balance : ∀ c, (w.cell o).children.count c + taken.count c =
      fields.children.count c + given.count c)
    (led : ∀ c ∈ fields.children, w.graph.Led w.held c)
    (python : ∀ c ∈ fields.children, (w.cell c).isPython) :
    Fine w (w.assign o fields taken given) := by
  have live := h.held_live held
  have keep : ∀ p, Keeps (w.cell p) ((w.assign o fields taken given).cell p) := by
    intro p
    simp only [World.assign]
    by_cases same : p = o
    · subst same
      rwa [Function.update_self]
    · rw [Function.update_of_ne same]
      exact Keeps.refl _
  refine ⟨h.edit ⟨rfl, rfl, rfl, rfl, fun p dead => ?_, keep⟩ ?_ ?_, fun _ mem => mem, ?_, ?_⟩
  · exact Function.update_of_ne (fun same : p = o => dead (same ▸ live)) _ _
  · have wired : (w.graph.rewire o fields.children).Counted
        (w.held.diff taken ++ (given ++ w.pending)) [] := by
      apply h.counted.rewire live
      intro c
      have there := mine c
      have balanced := balance c
      simp only [World.graph, List.count_append, List.count_diff] at balanced ⊢
      omega
    have graph : (w.assign o fields taken given).graph = w.graph.rewire o fields.children := by
      unfold World.graph World.assign Objects.rewire
      simp only [Objects.mk.injEq, true_and, and_true]
      funext p
      exact Function.apply_update (fun _ => Cell.children) w.cell o fields p
    rw [graph]
    exact wired
  · intro p mem c child
    rw [(keep c).isPython]
    simp only [World.assign] at child
    by_cases same : p = o
    · subst same
      rw [Function.update_self] at child
      exact python c child
    · rw [Function.update_of_ne same] at child
      exact (h.typed p mem).python c child
  · intro p _ lost
    exact Function.update_of_ne (fun same : p = o => lost (same ▸ Objects.Led.root held)) _ _
  · intro p _ later
    refine later.within (P := w.graph.Led w.held) ?_ ?_
    · exact fun r root => Objects.Led.root (List.diff_subset w.held taken root)
    rintro x c before ⟨xLive, child⟩
    simp only [World.graph, World.assign] at child
    by_cases same : x = o
    · subst same
      rw [Function.update_self] at child
      exact led c child
    · rw [Function.update_of_ne same] at child
      exact before.on (.single ⟨xLive, child⟩)

/-- A new object refers to what variables refer to. -/
theorem Sound.create (h : Sound w) {fields : Cell}
    (mine : ∀ c, fields.children.count c ≤ w.held.count c)
    (python : ∀ c ∈ fields.children, (w.cell c).isPython)
    (listing : ∀ ctx, fields = .keyIter ctx → (w.cell ctx).isContext) :
    Fine w (w.create fields) := by
  have unused := h.next_dead
  have held : ∀ c ∈ fields.children, c ∈ w.held := by
    intro c child
    have there := mine c
    have counted := List.count_pos_iff.mpr child
    exact List.count_pos_iff.mp (by omega)
  have other : ∀ o ∈ w.live, o ≠ w.next := by
    rintro o mem rfl
    exact unused mem
  have kept : ∀ o ∈ w.live, (w.create fields).cell o = w.cell o :=
    fun o mem => Function.update_of_ne (other o mem) _ _
  have new : (w.create fields).cell w.next = fields := Function.update_self _ _ _
  refine ⟨⟨?_, ?_, ?_, ?_, h.intact, h.once, ?_, ?_⟩, ⟨?_, fun o mem _ => kept o mem, ?_⟩⟩
  · have made : (w.graph.create w.next fields.children []).Counted
        (w.next :: (w.held.diff fields.children ++ w.pending)) [] := by
      refine Objects.Counted.create (h.counted.congr (fun c => ?_) fun _ => rfl) unused
      have there := mine c
      simp only [List.count_append, List.count_diff]
      omega
    have graph : (w.create fields).graph = w.graph.create w.next fields.children [] := by
      unfold World.graph World.create Objects.create
      simp only [Objects.mk.injEq, true_and, and_true]
      refine ⟨?_, ?_⟩
      · funext p
        exact Function.apply_update (fun _ => Cell.children) w.cell w.next fields p
      · funext p
        simp only [Function.update_apply, ite_self]
    rw [graph]
    exact made
  · intro o mem
    rcases List.mem_cons.mp mem with rfl | old
    · exact Nat.lt_succ_self _
    · exact Nat.lt_succ_of_lt (h.born o old)
  · intro o above
    have above' : w.next + 1 ≤ o := above
    have fresh : o ≠ w.next := by omega
    rw [show (w.create fields).cell o = w.cell o from Function.update_of_ne fresh _ _]
    exact h.unborn o (by omega)
  · intro o mem
    rcases List.mem_cons.mp mem with rfl | old
    · refine ⟨fun c child => ?_, fun ctx shape => ?_⟩
      · rw [new] at child
        rw [kept c (h.held_live (held c child))]
        exact python c child
      · rw [new] at shape
        have child : ctx ∈ fields.children := by rw [shape]; exact List.mem_singleton_self ctx
        rw [kept ctx (h.held_live (held ctx child))]
        exact listing ctx shape
    · have typed := h.typed o old
      refine ⟨fun c child => ?_, fun ctx shape => ?_⟩
      · rw [kept o old] at child
        rw [kept c (h.counted.child_live old child)]
        exact typed.python c child
      · rw [kept o old] at shape
        have child : ctx ∈ (w.cell o).children := by rw [shape]; exact List.mem_singleton_self ctx
        rw [kept ctx (h.counted.child_live old child)]
        exact typed.listing ctx shape
  · intro e
    have logged := h.logged e
    by_cases same : object e = w.next
    · rw [same, h.unborn w.next (Nat.le_refl _)] at logged
      rw [same]
      simp only [events, List.not_mem_nil, and_false, iff_false] at logged
      simp only [World.create, List.mem_cons, true_or, not_true, false_and, iff_false]
      exact logged
    · rw [show (w.create fields).cell (object e) = w.cell (object e) from
        Function.update_of_ne same _ _]
      simp only [World.create, List.mem_cons, same, false_or]
      exact logged
  · intro k ctx after before shape split
    by_cases same : k = w.next
    · subst same
      rw [new] at shape
      have child : ctx ∈ fields.children := by rw [shape]; exact List.mem_singleton_self ctx
      have released : Event.gpgmeRelease ctx ∈ w.log := by
        rw [show w.log = after ++ .gpgmeRelease ctx :: before from split]
        exact List.mem_append_right _ List.mem_cons_self
      exact absurd (h.held_live (held ctx child)) ((h.logged _).mp released).1
    · rw [show (w.create fields).cell k = w.cell k from Function.update_of_ne same _ _] at shape
      exact h.ordered k ctx after before shape split
  · exact fun o mem => List.mem_cons_of_mem _ mem
  · intro o live later
    -- the new object is not among the live ones, and leads to what was held
    have closed : o ∈ w.live → w.graph.Led w.held o := by
      refine later.within (P := fun x => x ∈ w.live → w.graph.Led w.held x) ?_ ?_
      · intro r root old
        rcases List.mem_cons.mp root with rfl | before
        · exact absurd old unused
        · exact Objects.Led.root (List.diff_subset w.held fields.children before)
      · rintro x c before ⟨xLive, child⟩ _
        rcases List.mem_cons.mp xLive with rfl | old
        · rw [show (w.create fields).graph.children w.next = fields.children from
            congrArg Cell.children new] at child
          exact Objects.Led.root (held c child)
        · rw [show (w.create fields).graph.children x = (w.cell x).children from
            congrArg Cell.children (kept x old)] at child
          exact (before old).on (.single ⟨old, child⟩)
    exact closed live

/-! ## Uses of memory -/

/-- The memory of a live object may be used. -/
theorem useObject_live {o : Nat} (live : o ∈ w.live) : w.useObject o = w := by
  have there : w.live.contains o = true := List.contains_iff_mem.mpr live
  unfold World.useObject
  rw [there, Bool.not_true, Bool.or_false]

/-- A live Context that has a handle has it until it is released. -/
theorem Sound.useGpgme (h : Sound w) {o : Nat} (live : o ∈ w.live) : w.useGpgme o = w := by
  have there : w.live.contains o = true := List.contains_iff_mem.mpr live
  have unreleased : w.log.contains (.gpgmeRelease o) = false := by
    rw [Bool.eq_false_iff]
    intro released
    exact ((h.logged _).mp (List.contains_iff_mem.mp released)).1 live
  unfold World.useGpgme
  rw [there, unreleased, Bool.not_true, Bool.or_false, Bool.or_false]

/-! ## The program's steps -/

/-- One slot takes a value over, and gives up the one it had. -/
theorem count_toList_update (callback : Slot → Option Nat) (slot : Slot) (value : Option Nat)
    (c : Nat) :
    (Cell.context true callback).children.count c + value.toList.count c =
      (Cell.context true (Function.update callback slot value)).children.count c +
        (callback slot).toList.count c := by
  cases slot <;> simp only [Cell.children, List.count_append, Function.update_self, ne_eq,
    reduceCtorEq, not_false_eq_true, Function.update_of_ne] <;> omega

theorem callback_child {callback : Slot → Option Nat} {ctx : Bool} {slot : Slot} {value : Nat}
    (set : callback slot = some value) : value ∈ (Cell.context ctx callback).children := by
  cases slot
  · exact List.mem_append_left _ (Option.mem_toList.mpr set)
  · exact List.mem_append_right _ (Option.mem_toList.mpr set)

theorem child_callback {callback : Slot → Option Nat} {ctx : Bool} {value : Nat}
    (child : value ∈ (Cell.context ctx callback).children) : ∃ slot, callback slot = some value := by
  rcases List.mem_append.mp child with mem | mem
  · exact ⟨.passphrase, Option.mem_toList.mp mem⟩
  · exact ⟨.progress, Option.mem_toList.mp mem⟩

/-- What a field of a held object points to is within reach. -/
theorem Sound.child_led (h : Sound w) {o c : Nat} (held : o ∈ w.held)
    (child : c ∈ (w.cell o).children) : w.graph.Led w.held c :=
  (Objects.Led.root held).on (.single ⟨h.held_live held, child⟩)

/-- The slot gives up its reference. -/
theorem Sound.clearCb (h : Sound w) (slot : Slot) {self : Nat} (held : self ∈ w.held) :
    Fine w (w.clearCb slot self) := by
  unfold World.clearCb
  split
  next ctx callback shape =>
    have kept : ∀ c ∈ (Cell.context ctx (Function.update callback slot none)).children,
        c ∈ (w.cell self).children := by
      intro c child
      obtain ⟨other, set⟩ := child_callback child
      by_cases same : other = slot
      · subst same
        rw [Function.update_self] at set
        cases set
      · rw [Function.update_of_ne same] at set
        rw [shape]
        exact callback_child set
    apply h.assign held
    · rw [shape]
      trivial
    · intro c
      rw [List.count_nil]
      exact Nat.zero_le _
    · intro c
      rw [shape]
      exact count_toList_update _ _ none c
    · exact fun c child => h.child_led held (kept c child)
    · exact fun c child => (h.typed self (h.held_live held)).python c (kept c child)
  next => exact .refl h

/-- The slot was empty, so nothing but a reference to the value is added. -/
theorem Sound.storeCb (h : Sound w) {slot : Slot} {self value : Nat} (held : self ∈ w.held)
    (given : value ∈ w.held) (python : (w.cell value).isPython)
    (unset : ∀ ctx callback, w.cell self = .context ctx callback → callback slot = none) :
    Fine w (w.storeCb slot self value) := by
  unfold World.storeCb
  split
  next ctx callback shape =>
    have increfed := h.incref (Objects.Led.root given)
    have heldSelf : self ∈ (w.incref value).held := List.mem_cons_of_mem _ held
    have heldValue : value ∈ (w.incref value).held := List.mem_cons_self
    have sub : ∀ c ∈ (Cell.context ctx (Function.update callback slot (some value))).children,
        c = value ∨ c ∈ (w.cell self).children := by
      intro c child
      obtain ⟨other, set⟩ := child_callback child
      by_cases same : other = slot
      · subst same
        rw [Function.update_self] at set
        exact .inl (Option.some.inj set).symm
      · rw [Function.update_of_ne same] at set
        rw [shape]
        exact .inr (callback_child set)
    refine increfed.trans (increfed.sound.assign heldSelf ?_ ?_ ?_ ?_ ?_)
    · rw [show (w.incref value).cell self = w.cell self from rfl, shape]
      trivial
    · intro c
      simp only [World.incref, List.count_cons, List.count_nil]
      omega
    · intro c
      have moved := count_toList_update callback slot (some value) c
      rw [show (w.incref value).cell self = w.cell self from rfl, shape]
      rw [unset ctx callback shape] at moved
      exact moved
    · intro c child
      rcases sub c child with rfl | old
      · exact Objects.Led.root heldValue
      · exact increfed.sound.child_led heldSelf old
    · intro c child
      rcases sub c child with rfl | old
      · exact python
      · exact (h.typed self (h.held_live held)).python c old
  next => exact .refl h

/-- Only a Context without a handle gets one; its slots stay as they are. -/
theorem Sound.contextInit (h : Sound w) (granted : Bool) {self : Nat} (held : self ∈ w.held) :
    Fine w (w.contextInit granted self) := by
  unfold World.contextInit
  split
  next callback shape =>
    split
    · apply h.assign held
      · rw [shape]
        trivial
      · intro c
        rw [List.count_nil]
        exact Nat.zero_le _
      · intro c
        rw [shape]
        rfl
      · intro c child
        apply h.child_led held
        rw [shape]
        exact child
      · intro c child
        apply (h.typed self (h.held_live held)).python
        rw [shape]
        exact child
    · exact .refl h
  next => exact .refl h

/-- The KeyIter takes a reference to its Context, which keeps the handle alive for the
deallocator. -/
theorem Sound.keylist (h : Sound w) (granted : Bool) {self : Nat} (held : self ∈ w.held) :
    Fine w (w.contextKeylist granted self) := by
  unfold World.contextKeylist
  split
  next callback shape =>
    rw [h.useGpgme (h.held_live held)]
    dsimp only
    split
    · have increfed := h.incref (Objects.Led.root held)
      have shape' : (w.incref self).cell self = .context true callback := shape
      refine increfed.trans (increfed.sound.create ?_ ?_ ?_)
      · intro c
        simp only [World.incref, Cell.children, List.count_cons, List.count_nil]
        omega
      · intro c child
        rw [List.mem_singleton.mp child, shape']
        rfl
      · intro ctx same
        cases same
        rw [shape']
        rfl
    · exact .refl h
  next => exact .refl h

/-- The data object has references to the file and the Context for as long as gpgme has it.
-/
theorem Sound.dataNew (h : Sound w) (granted : Bool) {fp : Option Nat} {ctx : Nat}
    (held : ctx ∈ w.held) (context : (w.cell ctx).isContext)
    (file : ∀ o ∈ fp, o ∈ w.held ∧ (w.cell o).isPython) : Fine w (w.dataNew granted fp ctx) := by
  unfold World.dataNew
  split
  next fp =>
    obtain ⟨heldFile, python⟩ := file fp rfl
    have first := h.incref (Objects.Led.root heldFile)
    have heldCtx : ctx ∈ (w.incref fp).held := List.mem_cons_of_mem _ held
    have second := first.trans (first.sound.incref (Objects.Led.root heldCtx))
    refine second.trans (second.sound.create ?_ ?_ ?_)
    · intro c
      simp only [World.incref, Cell.children, List.count_cons, List.count_nil]
      omega
    · intro c child
      simp only [Cell.children, List.mem_cons, List.not_mem_nil, or_false] at child
      rcases child with rfl | rfl
      · exact python
      · have isContext : (w.cell c).isContext := context
        change (w.cell c).isPython
        cases shape : w.cell c with
        | context _ _ => rfl
        | _ =>
          rw [shape] at isContext
          cases isContext
    · intro c same
      cases same
  next => exact .refl h

theorem Sound.link (h : Sound w) {o c : Nat} (held : o ∈ w.held) (given : c ∈ w.held)
    (python : (w.cell c).isPython) : Fine w (w.link o c) := by
  unfold World.link
  split
  next refs shape =>
    have increfed := h.incref (Objects.Led.root given)
    have heldSelf : o ∈ (w.incref c).held := List.mem_cons_of_mem _ held
    have shape' : (w.incref c).cell o = .object refs := shape
    refine increfed.trans (increfed.sound.assign heldSelf ?_ ?_ ?_ ?_ ?_)
    · rw [shape']
      trivial
    · intro p
      simp only [World.incref, List.count_cons, List.count_nil]
      omega
    · intro p
      rw [shape']
      simp only [Cell.children, List.count_cons, List.count_nil]
      omega
    · intro p child
      rcases List.mem_cons.mp child with rfl | old
      · exact Objects.Led.root List.mem_cons_self
      · apply increfed.sound.child_led heldSelf
        rw [shape']
        exact old
    · intro p child
      rcases List.mem_cons.mp child with rfl | old
      · exact python
      · apply (h.typed o (h.held_live held)).python
        rw [shape]
        exact old
  next => exact .refl h

theorem Sound.unlink (h : Sound w) {o : Nat} (c : Nat) (held : o ∈ w.held) :
    Fine w (w.unlink o c) := by
  unfold World.unlink
  split
  next refs shape =>
    split
    next stored =>
      have kept : ∀ p ∈ refs.erase c, p ∈ (w.cell o).children := by
        intro p child
        rw [shape]
        exact List.mem_of_mem_erase child
      apply h.assign held
      · rw [shape]
        trivial
      · intro p
        rw [List.count_nil]
        exact Nat.zero_le _
      · intro p
        have perm := (List.perm_cons_erase stored).count_eq p
        rw [shape]
        simp only [Cell.children, List.count_cons, List.count_nil] at perm ⊢
        omega
      · exact fun p child => h.child_led held (kept p child)
      · exact fun p child => (h.typed o (h.held_live held)).python p (kept p child)
    · exact .refl h
  next => exact .refl h

/-- The steps of program code. -/
theorem Sound.perform (h : Sound w) {l : Label} (allowed : w.allows l = true)
    (own : l.internal = false) (taken : w.perform l = some w') : Fine w w' := by
  have read : ∀ {self : Nat}, w.held.contains self = true → self ∈ w.held :=
    fun holds => List.contains_iff_mem.mp holds
  cases l <;> simp only [World.perform, Option.some.injEq] at taken
  case turn => cases own
  case collect => cases own
  all_goals subst taken
  case contextNew granted =>
    unfold World.contextNew
    split
    · apply h.create
      · intro c
        exact Nat.zero_le _
      · intro c child
        cases child
      · intro ctx same
        cases same
    · exact .refl h
  case contextInit granted self => exact h.contextInit granted (read allowed)
  case clearCb slot self => exact h.clearCb slot (read allowed)
  case storeCb slot self value =>
    simp only [World.allows, Bool.and_eq_true] at allowed
    obtain ⟨⟨⟨held, given⟩, python⟩, unset⟩ := allowed
    refine h.storeCb (read held) (read given) python fun ctx callback shape => ?_
    rw [shape] at unset
    exact Option.isNone_iff_eq_none.mp unset
  case getCb slot self =>
    unfold World.getCb
    split
    next ctx callback shape =>
      split
      next value set =>
        apply h.incref
        apply h.child_led (read allowed)
        rw [shape]
        exact callback_child set
      · exact .refl h
    next => exact .refl h
  case invokeCb slot self =>
    have live := h.held_live (read allowed)
    unfold World.invokeCb
    split
    next ctx callback shape =>
      rw [useObject_live live]
      split
      next value set =>
        have child : value ∈ (w.cell self).children := by rw [shape]; exact callback_child set
        rw [useObject_live (h.counted.child_live live child)]
        exact .refl h
      · exact .refl h
    next => exact .refl h
  case operation self =>
    rw [h.useGpgme (h.held_live (read allowed))]
    exact .refl h
  case keylist granted self => exact h.keylist granted (read allowed)
  case keyiterNext self =>
    unfold World.keyiterNext
    split
    next ctx shape =>
      have child : ctx ∈ (w.cell self).children := by
        rw [shape]
        exact List.mem_singleton_self ctx
      rw [h.useGpgme (h.counted.child_live (h.held_live (read allowed)) child)]
      exact .refl h
    next => exact .refl h
  case dataNew granted fp ctx =>
    simp only [World.allows, Bool.and_eq_true] at allowed
    obtain ⟨⟨held, context⟩, file⟩ := allowed
    refine h.dataNew granted (read held) context ?_
    rintro o rfl
    simp only [Option.all_some, Bool.and_eq_true] at file
    exact ⟨read file.1, file.2⟩
  case dataCallback handle =>
    unfold World.dataCallback
    split
    next fp ctx shape =>
      have live := h.held_live (read allowed)
      have child : ∀ c ∈ [fp, ctx], c ∈ w.live := by
        intro c mem
        apply h.counted.child_live live
        change c ∈ (w.cell handle).children
        rw [shape]
        exact mem
      rw [useObject_live (child ctx (by simp)), useObject_live (child fp (by simp))]
      exact .refl h
    next => exact .refl h
  case newObject =>
    apply h.create
    · intro c
      exact Nat.zero_le _
    · intro c child
      cases child
    · intro ctx same
      cases same
  case link o c =>
    simp only [World.allows, Bool.and_eq_true] at allowed
    exact h.link (read allowed.1.1) (read allowed.1.2) allowed.2
  case unlink o c => exact h.unlink c (read allowed)
  case take o c =>
    unfold World.take
    split
    next refs shape =>
      split
      next stored =>
        apply h.incref
        apply h.child_led (read allowed)
        rw [shape]
        exact stored
      · exact .refl h
    next => exact .refl h
  case copy o =>
    simp only [World.allows, Bool.and_eq_true] at allowed
    exact h.incref (Objects.Led.root (read allowed.1))
  case drop o => exact h.decref (read allowed)

/-! ## The interpreter's steps -/

/-- The events of a deallocator are those of its cell: it finds everything it needs alive.
-/
theorem Sound.dealloc (h : Sound w) {o : Nat} (live : o ∈ w.live) :
    w.dealloc o = { w with log := events o (w.cell o) ++ w.log } := by
  unfold World.dealloc events
  split
  next ctx callback shape =>
    rw [shape]
    cases ctx <;> rfl
  next ctx shape =>
    have child : ctx ∈ (w.cell o).children := by rw [shape]; exact List.mem_singleton_self ctx
    rw [shape]
    unfold World.keyiterDealloc
    rw [h.useGpgme (h.counted.child_live live child)]
    rfl
  next shape =>
    rw [shape]
    rfl
  next shape =>
    rw [shape]
    rfl

/-- Nothing refers to an object whose last reference is given up. -/
theorem Sound.last (h : Sound w) {o : Nat} {rest : List Nat} (pending : w.pending = o :: rest)
    (one : w.refs o = 1) : o ∈ w.live ∧ ∀ p, ¬ w.graph.Refers p o := by
  have counted := h.counted
  rw [pending] at counted
  refine ⟨(counted.alive o).mpr (by simp only [World.graph]; omega), fun p refers => ?_⟩
  have refs := counted.refs o
  have there := List.count_pos_iff.mpr (List.mem_flatMap.mpr ⟨p, refers.1, refers.2⟩)
  rw [List.count_append, List.count_cons_self] at refs
  simp only [World.graph] at refs there
  omega

/-- `w` without its object `o`, whose deallocator has run. -/
def freed (o : Nat) (rest : List Nat) (w : World) : World :=
  { w with
    log := events o (w.cell o) ++ w.log
    live := w.live.erase o
    refs := Function.update w.refs o 0
    pending := (w.cell o).children ++ rest }

theorem freed_graph (o : Nat) (rest : List Nat) (w : World) :
    (freed o rest w).graph = w.graph.free o := by
  unfold World.graph Objects.free freed
  simp only [Objects.mk.injEq, true_and]
  funext r
  exact r.elim

/-- The last reference is gone, so no other object loses anything it can still follow. -/
theorem Sound.freed (h : Sound w) {o : Nat} {rest : List Nat} (pending : w.pending = o :: rest)
    (one : w.refs o = 1) : Sound (freed o rest w) := by
  obtain ⟨live, alone⟩ := h.last pending one
  have gone : ∀ p, p ∈ (ContextLifetime.freed o rest w).live ↔ p ≠ o ∧ p ∈ w.live :=
    fun p => h.counted.nodup.mem_erase_iff
  have unlogged : ∀ e ∈ w.log, object e ≠ o := by
    rintro e mem rfl
    exact ((h.logged e).mp mem).1 live
  refine ⟨?_, ?_, h.unborn, ?_, h.intact, ?_, ?_, ?_⟩
  · rw [freed_graph]
    have counted := h.counted
    rw [pending] at counted
    have moved : w.graph.Counted (o :: (w.held ++ rest)) [] := by
      apply counted.congr _ fun _ => rfl
      intro p
      simp only [List.count_append, List.count_cons]
      omega
    apply (moved.free one).congr _ fun _ => rfl
    intro p
    simp only [ContextLifetime.freed, World.graph, List.count_append]
    omega
  · exact fun p mem => h.born p ((gone p).mp mem).2
  · intro p mem
    have typed := h.typed p ((gone p).mp mem).2
    exact ⟨typed.python, typed.listing⟩
  · refine List.Nodup.append (events_nodup o _) h.once ?_
    intro e mem logged
    exact unlogged e logged (events_object mem)
  · intro e
    rw [gone]
    change e ∈ events o (w.cell o) ++ w.log ↔ _
    by_cases same : object e = o
    · have absent : e ∉ w.log := fun mem => unlogged e mem same
      simp [same, absent, ContextLifetime.freed]
    · have other : e ∉ events o (w.cell o) := fun mem => same (events_object mem)
      simp [same, other, h.logged e, ContextLifetime.freed]
  · intro k ctx after before shape split
    rcases List.append_eq_append_iff.mp split with ⟨more, -, old⟩ | ⟨more, new, rest⟩
    · exact h.ordered k ctx more before shape old
    · cases more with
      | nil => exact h.ordered k ctx [] before shape rest.symm
      | cons e more =>
        obtain ⟨rfl, rfl⟩ := List.cons.inj rest
        -- the Context goes now, so no KeyIter of it is left
        have mem : Event.gpgmeRelease ctx ∈ events o (w.cell o) := by
          rw [new]
          exact List.mem_append_right _ List.mem_cons_self
        obtain rfl : ctx = o := events_object mem
        have dead : k ∉ w.live := by
          intro listing
          refine alone k ⟨listing, ?_⟩
          change ctx ∈ (w.cell k).children
          rw [show w.cell k = .keyIter ctx from shape]
          exact List.mem_singleton_self ctx
        refine List.mem_append_right _ ((h.logged _).mpr ⟨dead, ?_⟩)
        rw [show w.cell (object (.keylistEnd k)) = .keyIter ctx from shape]
        exact List.mem_singleton_self _

/-- A step on the list of references to give up. -/
inductive Turned (w : World) : World → Prop
  | freed (o : Nat) (rest : List Nat) (pending : w.pending = o :: rest) (one : w.refs o = 1) :
    Turned w (freed o rest w)
  | dropped (o : Nat) (rest : List Nat) (pending : w.pending = o :: rest) (more : w.refs o ≠ 1) :
    Turned w { w with refs := Function.update w.refs o (w.refs o - 1), pending := rest }

/-- A turn of the interpreter frees the object or only drops a reference to it. -/
theorem Sound.turned (h : Sound w) (taken : w.turn = some w') : Turned w w' := by
  unfold World.turn at taken
  split at taken
  · cases taken
  next o rest pending =>
    split at taken
    next one =>
      rw [h.dealloc (h.last pending one).1, Option.some.injEq] at taken
      subst taken
      exact .freed o rest pending one
    next more =>
      rw [Option.some.injEq] at taken
      subst taken
      exact .dropped o rest pending more

theorem Sound.turn (h : Sound w) (taken : w.turn = some w') : Sound w' := by
  cases h.turned taken with
  | freed o rest pending one => exact h.freed pending one
  | dropped o rest pending more =>
    have edit : Edit w { w with
        refs := Function.update w.refs o (w.refs o - 1), pending := rest } :=
      ⟨rfl, rfl, rfl, rfl, fun _ _ => rfl, fun _ => Keeps.refl _⟩
    apply h.edit edit
    · have counted := h.counted
      rw [pending] at counted
      have moved : w.graph.Counted (o :: (w.held ++ rest)) [] := by
        apply counted.congr _ fun _ => rfl
        intro p
        simp only [List.count_append, List.count_cons]
        omega
      exact moved.drop more
    · exact fun p mem => (h.typed p mem).python

/-- The collector's test is the garbage of the object graph: tracked objects that only each
other refer to. -/
theorem collectable_iff {s : List Nat} :
    w.collectable s = true ↔
      w.graph.Garbage (fun o => (w.cell o).tracked = true) (w.held ++ w.pending) s := by
  unfold World.collectable
  simp only [Bool.and_eq_true, decide_eq_true_iff, List.all_eq_true, Bool.not_eq_true',
    Bool.or_eq_true, List.contains_iff_mem, Bool.eq_false_iff, ne_eq]
  constructor
  · rintro ⟨once, all⟩
    refine ⟨once, fun o mem => (all o mem).1.1.1, fun o mem => (all o mem).1.1.2,
      fun o mem => (all o mem).1.2, fun o mem p refers => ?_⟩
    exact ((all o mem).2 p refers.1).resolve_left fun absent => absent refers.2
  · intro garbage
    refine ⟨garbage.once, fun o mem => ⟨⟨⟨garbage.live o mem, garbage.tracked o mem⟩,
      garbage.rootless o mem⟩, fun p live => ?_⟩⟩
    by_cases child : o ∈ (w.cell p).children
    · exact .inr (garbage.closed o mem p ⟨live, child⟩)
    · exact .inl child

theorem collect_graph (s : List Nat) (w : World) : (w.collect s).graph = w.graph.clear s := by
  unfold World.graph World.collect Objects.clear
  simp only [Objects.mk.injEq, true_and, and_true]
  funext o
  split <;> rfl

/-- `tp_clear` empties the fields and leaves the type. -/
theorem collect_keeps {s : List Nat} (tracked : ∀ o ∈ s, (w.cell o).tracked = true) (o : Nat) :
    Keeps (w.cell o) ((w.collect s).cell o) := by
  simp only [World.collect]
  split
  next mem =>
    have collected := tracked o mem
    cases shape : w.cell o with
    | object refs => trivial
    | _ =>
      rw [shape] at collected
      cases collected
  next => exact Keeps.refl _

theorem Sound.collect (h : Sound w) {s : List Nat}
    (garbage : w.graph.Garbage (fun o => (w.cell o).tracked = true) (w.held ++ w.pending) s) :
    Sound (w.collect s) := by
  have keeps := collect_keeps garbage.tracked
  have edit : Edit w (w.collect s) := by
    refine ⟨rfl, rfl, rfl, rfl, fun o dead => ?_, keeps⟩
    exact if_neg fun mem => dead (garbage.live o mem)
  apply h.edit edit
  · rw [collect_graph]
    apply (h.counted.clear garbage.once garbage.live).congr _ fun _ => rfl
    intro o
    simp only [World.collect, World.graph, List.count_append]
    omega
  · intro o mem c child
    rw [(keeps c).isPython]
    simp only [World.collect] at child
    split at child
    · cases child
    · exact (h.typed o mem).python c child

/-- The invariant is kept by the program, the interpreter and the collector. -/
theorem Sound.step (h : Sound w) {l : Label} (taken : w.step l = some w') : Sound w' := by
  unfold World.step at taken
  split at taken
  next allowed =>
    cases own : l.internal with
    | false => exact (h.perform allowed own taken).sound
    | true =>
      cases l with
      | turn => exact h.turn taken
      | collect s =>
        obtain rfl := Option.some.inj taken
        exact h.collect (collectable_iff.mp allowed)
      | _ => cases own
  · cases taken

end

theorem reachable_sound {w : World} (reached : Reachable contexts w) : Sound w := by
  refine reached.invariant ?_ ?_
  · rintro s rfl
    exact start_sound
  · intro s l s' sound _ taken
    exact sound.step taken

/-! ## Releases -/

/-- In every run no freed object and no released gpgme context is used. The gpgme context
of a Context is released once, when the Context is gone, and what a variable leads to is
not gone; each KeyIter has ended its listing before its Context is released. -/
theorem lifetimes {w : World} (reached : Reachable contexts w) :
    w.fault = false ∧ w.log.Nodup ∧
    (∀ o, w.graph.Led w.held o → o ∈ w.live) ∧
    (∀ c, .gpgmeRelease c ∈ w.log ↔ c ∉ w.live ∧ ∃ callback, w.cell c = .context true callback) ∧
    (∀ c, .freeLock c ∈ w.log ↔ c ∉ w.live ∧ (w.cell c).isContext) ∧
    (∀ k, .keylistEnd k ∈ w.log ↔ k ∉ w.live ∧ ∃ ctx, w.cell k = .keyIter ctx) ∧
    ∀ k ctx after before, w.cell k = .keyIter ctx →
      w.log = after ++ .gpgmeRelease ctx :: before → .keylistEnd k ∈ before := by
  have h := reachable_sound reached
  refine ⟨h.intact, h.once, fun o led => h.led_live led, fun c => ?_, fun c => ?_, fun k => ?_,
    h.ordered⟩
  · rw [h.logged, object, gpgmeRelease_mem]
  · rw [h.logged, object, freeLock_mem]
  · rw [h.logged, object, keylistEnd_mem]

/-- A listing outlives the variable of its Context. -/
theorem lifetimes_listing :
    ∃ w, run contexts World.start [.contextNew true, .contextInit true 0, .keylist true 0, .drop 0,
        .turn, .keyiterNext 1, .drop 1, .turn, .turn] = some w ∧ w.fault = false ∧
      w.log = [.freeLock 0, .gpgmeRelease 0, .keylistEnd 1] := by
  have executed : ∃ w, run contexts World.start [.contextNew true, .contextInit true 0,
        .keylist true 0, .drop 0, .turn, .keyiterNext 1, .drop 1, .turn, .turn] = some w ∧
      w.log = [.freeLock 0, .gpgmeRelease 0, .keylistEnd 1] := ⟨_, rfl, rfl⟩
  obtain ⟨w, executed, log⟩ := executed
  exact ⟨w, executed, (lifetimes (Reachable.of_run _ (.init rfl) executed)).1, log⟩

end Pygpgme.Guarantees.ContextLifetime
