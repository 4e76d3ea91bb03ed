import Pygpgme.Source.KeyObjects

/-!
# Key objects keep their storage alive

A pointer into a gpgme key is safe while that key is referenced. Between two steps a
key is referenced by the Key objects that wrap it and by signer lists; below a Key,
each object is kept by the next one, so its pointer leads to a key with a reference.
`Sound` also holds between the operations of one C function, where variables of that
function have references of their own.
-/

set_option autoImplicit false

namespace Pygpgme.Guarantees.KeyObjects
open Pygpgme.Library.ObjectGraph Pygpgme.Library.Transition Pygpgme.Source.KeyObjects
open World

/-! ## What a pointer leads to -/

/-- The structure is in the lists of its gpgme key. -/
def Within (shape : Nat → Shape) : Kind → Prop
  | .subkey key i => i < (shape key).subkeys
  | .userId key i => i < (shape key).userIds.length
  | .keySig key i j => j < (shape key).userIds.getD i 0
  | _ => True

/-- What the object has for its parent. -/
def parent : Kind → Option Kind
  | .subkey key _ => some (.key key)
  | .userId key _ => some (.key key)
  | .keySig key i _ => some (.userId key i)
  | _ => none

/-- Only a Key has a reference to a gpgme key of its own. -/
def resources : Kind → List Nat
  | .key key => [key]
  | _ => []

/-- The references an object of the given kind has to other objects. -/
def Linked (kind : Nat → Kind) (k : Kind) (children : List Nat) : Prop :=
  match k with
  | .key _ => children = []
  | .sequence => ∀ c ∈ children, kind c ≠ .sequence
  | _ => ∃ p, children = [p] ∧ parent k = some (kind p)

theorem Linked.congr {kind kind' : Nat → Kind} {k : Kind} {children : List Nat}
    (h : Linked kind k children) (same : ∀ c ∈ children, kind' c = kind c) :
    Linked kind' k children := by
  cases k with
  | key => exact h
  | sequence =>
    intro c mem
    rw [same c mem]
    exact h c mem
  | _ =>
    obtain ⟨p, rfl, found⟩ := h
    exact ⟨p, rfl, by rw [same p (by simp), found]⟩

/-- How one object hangs in the graph. -/
structure Wired (shape : Nat → Shape) (kind : Nat → Kind) (g : Objects Nat Nat) (o : Nat) :
    Prop where
  within : Within shape (kind o)
  resources : g.resources o = resources (kind o)
  linked : Linked kind (kind o) (g.children o)

/-- Counts are right, objects are wired as their types say, nothing freed was used. -/
structure Sound (shape : Nat → Shape) (w : World) : Prop where
  counted : w.graph.Counted w.held (w.taken ++ w.signers.map Prod.snd)
  fresh : ∀ o ∈ w.graph.live, o < w.next
  wired : ∀ o ∈ w.graph.live, Wired shape w.kind w.graph o
  intact : w.fault = false

variable {shape : Nat → Shape} {w w' : World}

theorem sound_start : Sound shape World.start := by
  refine ⟨Objects.empty_counted, ?_, ?_, rfl⟩ <;> simp [World.start, Objects.empty]

/-- What a variable refers to is alive. -/
theorem Sound.live_of_held (h : Sound shape w) {o : Nat} (held : o ∈ w.held) :
    o ∈ w.graph.live := h.counted.root_live held

/-- Up to three references from an object to its gpgme key. -/
theorem Sound.owner_counted (h : Sound shape w) {o key : Nat} (live : o ∈ w.graph.live)
    (owner : (w.kind o).owner = some key) : 0 < w.graph.counts key := by
  have wraps : ∀ p ∈ w.graph.live, w.kind p = .key key → 0 < w.graph.counts key := by
    intro p live kind
    apply h.counted.resource_counted live
    rw [(h.wired p live).resources, kind]
    simp [resources]
  have above : ∀ p ∈ w.graph.live, parent (w.kind p) = some (.key key) →
      0 < w.graph.counts key := by
    intro p live kind
    have linked := (h.wired p live).linked
    cases found : w.kind p with
    | key => simp [found, parent] at kind
    | sequence => simp [found, parent] at kind
    | _ =>
      rw [found] at linked kind
      obtain ⟨q, children, same⟩ := linked
      exact wraps q (h.counted.child_live live (by simp [children]))
        (Option.some.inj (same.symm.trans kind))
  have linked := (h.wired o live).linked
  cases found : w.kind o with
  | key k =>
    rw [found] at owner
    cases owner
    exact wraps o live found
  | subkey k i =>
    rw [found] at owner
    cases owner
    exact above o live (by rw [found]; rfl)
  | userId k i =>
    rw [found] at owner
    cases owner
    exact above o live (by rw [found]; rfl)
  | keySig k i j =>
    rw [found] at owner linked
    cases owner
    obtain ⟨p, children, same⟩ := linked
    have kind : w.kind p = .userId key i := (Option.some.inj same).symm
    exact above p (h.counted.child_live live (by simp [children])) (by rw [kind]; rfl)
  | sequence =>
    rw [found] at owner
    cases owner

/-- gpgme counts every reference that a C function or a list of signers has. -/
theorem Sound.outside_counted (h : Sound shape w) {key : Nat}
    (mem : key ∈ w.taken ++ w.signers.map Prod.snd) : 0 < w.graph.counts key := by
  have counts := h.counted.counts key
  have counted := List.count_pos_iff.mpr mem
  omega

/-! ## Operations of gpgme and the interpreter -/

/-- A pointer into a key that is referenced may be followed. -/
theorem Sound.touch (h : Sound shape w) {key : Nat} (counted : 0 < w.graph.counts key) :
    w.touch key = w := by
  have intact := h.intact
  have there : (w.graph.counts key == 0) = false := by
    rw [beq_eq_false_iff_ne]
    omega
  unfold World.touch
  rw [there, Bool.or_false]

/-- Only counts, variables and signer lists are different. -/
structure SameObjects (w w' : World) : Prop where
  live : w'.graph.live = w.graph.live
  children : w'.graph.children = w.graph.children
  resources : w'.graph.resources = w.graph.resources
  kind : w'.kind = w.kind
  next : w'.next = w.next
  fault : w'.fault = w.fault

/-- Only the counters move: the objects and their pointers stay as they were. -/
theorem Sound.recounted (h : Sound shape w) (same : SameObjects w w')
    (counted : w'.graph.Counted w'.held (w'.taken ++ w'.signers.map Prod.snd)) :
    Sound shape w' := by
  refine ⟨counted, fun o live => ?_, fun o live => ?_, same.fault.trans h.intact⟩
  · rw [same.live] at live
    rw [same.next]
    exact h.fresh o live
  · rw [same.live] at live
    have wired := h.wired o live
    rw [same.kind]
    exact ⟨wired.within, by rw [same.resources, wired.resources],
      by rw [same.children]; exact wired.linked⟩

theorem Sound.handOut (h : Sound shape w) (key : Nat) : Sound shape (w.handOut key) :=
  h.recounted ⟨rfl, rfl, rfl, rfl, rfl, rfl⟩ (h.counted.hold key)

/-- The C function gives up a reference that it has, so the key is not freed below an
object. -/
theorem Sound.keyUnref (h : Sound shape w) {key : Nat} (mem : key ∈ w.taken) :
    Sound shape (w.gpgmeKeyUnref key) := by
  refine h.recounted ⟨rfl, rfl, rfl, rfl, rfl, rfl⟩
    (Objects.Counted.unhold (h.counted.congr (fun _ => rfl) fun r => ?_))
  have perm := (List.perm_cons_erase mem).count_eq r
  rw [List.count_append, List.count_append, List.count_append, perm]
  simp only [World.gpgmeKeyUnref, List.count_cons, List.count_nil]
  omega

theorem Sound.incref (h : Sound shape w) {o : Nat} (live : o ∈ w.graph.live) :
    Sound shape (w.incref o) :=
  h.recounted ⟨rfl, rfl, rfl, rfl, rfl, rfl⟩ (h.counted.incref live)

/-- Deallocators free a gpgme key only with the last object above its memory. -/
theorem Sound.decref (h : Sound shape w) {o : Nat} (held : o ∈ w.held) :
    Sound shape (w.decref o) := by
  have shrinks := w.graph.release_shrinks [o]
  have roots : ∀ p, ([o] ++ w.held.erase o).count p = w.held.count p := fun p =>
    ((List.perm_cons_erase held).count_eq p).symm
  refine ⟨Objects.Counted.release (h.counted.congr roots fun _ => rfl), fun p live => ?_,
    fun p live => ?_, h.intact⟩
  · exact h.fresh p (shrinks.live p live)
  · have wired := h.wired p (shrinks.live p live)
    refine ⟨wired.within, ?_, ?_⟩
    · simp only [World.decref]
      rw [shrinks.resources]
      exact wired.resources
    · simp only [World.decref]
      rw [shrinks.children]
      exact wired.linked

theorem count_diff_add {l part : List Nat} (enough : ∀ o, part.count o ≤ l.count o) (o : Nat) :
    (part ++ l.diff part).count o = l.count o := by
  have there := enough o
  rw [List.count_append, List.count_diff]
  omega

/-- A new object takes references over from variables, and points where its type says. -/
theorem Sound.create (h : Sound shape w) {kind : Kind} {children : List Nat}
    (within : Within shape kind) (linked : Linked w.kind kind children)
    (held : ∀ o, children.count o ≤ w.held.count o)
    (taken : ∀ key, (resources kind).count key ≤ w.taken.count key) :
    Sound shape (w.create kind children (resources kind)) := by
  have live : ∀ c ∈ children, c ∈ w.graph.live := by
    intro c mem
    have there := held c
    have counted := List.count_pos_iff.mpr mem
    exact h.live_of_held (List.count_pos_iff.mp (by omega))
  have unused : w.next ∉ w.graph.live := fun mem => Nat.lt_irrefl _ (h.fresh _ mem)
  have kept : ∀ c ∈ w.graph.live, Function.update w.kind w.next kind c = w.kind c := by
    intro c mem
    have other : c ≠ w.next := by
      rintro rfl
      exact unused mem
    exact Function.update_of_ne other _ _
  refine ⟨?_, fun o mem => ?_, fun o mem => ?_, h.intact⟩
  · refine Objects.Counted.create (h.counted.congr (count_diff_add held) fun r => ?_) unused
    have there := count_diff_add taken r
    rw [List.count_append] at there
    simp only [World.create, List.count_append]
    omega
  · rcases List.mem_cons.mp mem with rfl | old
    · exact Nat.lt_succ_self _
    · exact Nat.lt_succ_of_lt (h.fresh o old)
  · rcases List.mem_cons.mp mem with rfl | old
    · refine ⟨?_, ?_, ?_⟩
      · simpa [World.create] using within
      · simp [World.create, Objects.create]
      · simp only [World.create, Objects.create, Function.update_self]
        exact linked.congr fun c mem => kept c (live c mem)
    · have other : o ≠ w.next := by
        rintro rfl
        exact unused old
      have wired := h.wired o old
      simp only [World.create, Objects.create]
      refine ⟨?_, ?_, ?_⟩
      · rw [Function.update_of_ne other]
        exact wired.within
      · simp only [Function.update_of_ne other]
        exact wired.resources
      · simp only [Function.update_of_ne other]
        exact wired.linked.congr fun c mem => kept c (h.counted.child_live old mem)

/-- A list takes any object but a list, which keeps the graph free of cycles. -/
theorem Sound.append (h : Sound shape w) {granted : Bool} {l item : Nat}
    (live : item ∈ w.graph.live) (notSequence : w.kind item ≠ .sequence)
    (listLive : l ∈ w.graph.live) (sequence : w.kind l = .sequence) :
    Sound shape (w.append granted l item) := by
  unfold World.append
  split
  next =>
    refine ⟨(h.counted.incref live).adopt listLive, h.fresh, fun o mem => ?_, h.intact⟩
    have wired := h.wired o mem
    refine ⟨wired.within, wired.resources, ?_⟩
    simp only [Objects.adopt, Objects.incref]
    by_cases same : o = l
    · subst same
      rw [sequence, Function.update_self]
      have linked := wired.linked
      rw [sequence] at linked
      intro c child
      rcases List.mem_append.mp child with old | new
      · exact linked c old
      · rwa [List.mem_singleton.mp new]
    · rw [Function.update_of_ne same]
      exact wired.linked
  next => exact h

/-- Objects that exist keep their types, and signer lists stay as they are. -/
structure Keeps (w w' : World) : Prop where
  kinds : ∀ o, o < w.next → w'.kind o = w.kind o
  next : w.next ≤ w'.next
  signers : w'.signers = w.signers

theorem Keeps.trans {w w' w'' : World} (first : Keeps w w') (second : Keeps w' w'') :
    Keeps w w'' :=
  ⟨fun o old => (second.kinds o (Nat.lt_of_lt_of_le old first.next)).trans (first.kinds o old),
    Nat.le_trans first.next second.next, second.signers.trans first.signers⟩

theorem create_keeps (w : World) (kind : Kind) (children resources : List Nat) :
    Keeps w (w.create kind children resources) :=
  ⟨fun _ old => Function.update_of_ne (Nat.ne_of_lt old) _ _, Nat.le_succ _, rfl⟩

@[simp] theorem append_held (w : World) (granted : Bool) (list item : Nat) :
    (w.append granted list item).held = w.held := by
  unfold World.append
  split <;> rfl

@[simp] theorem append_taken (w : World) (granted : Bool) (list item : Nat) :
    (w.append granted list item).taken = w.taken := by
  unfold World.append
  split <;> rfl

theorem append_keeps (w : World) (granted : Bool) (list item : Nat) :
    Keeps w (w.append granted list item) := by
  unfold World.append
  split <;> exact ⟨fun _ _ => rfl, Nat.le_refl _, rfl⟩

/-! ## Key objects -/

/-- A Key object is made, or not; the reference to the key is given up. -/
structure Wrapped (shape : Nat → Shape) (w : World) (key : Nat) (made : Option Nat × World) :
    Prop where
  sound : Sound shape made.2
  keeps : Keeps w made.2
  taken : made.2.taken = w.taken.erase key
  held : made.2.held = made.1.toList ++ w.held
  kind : ∀ o ∈ made.1, made.2.kind o = .key key

/-- `pygpgme_key_new` takes a reference of its own, so the caller can give its up. -/
theorem Sound.wrap (h : Sound shape w) {key : Nat} (mem : key ∈ w.taken) (granted : Bool) :
    Wrapped shape w key (w.wrap granted key) := by
  cases granted with
  | false =>
    have none_ : ∀ o ∈ (w.wrap false key).1, (w.wrap false key).2.kind o = .key key := by
      simp [World.wrap, World.keyNew]
    exact ⟨h.keyUnref mem, ⟨fun _ _ => rfl, Nat.le_refl _, rfl⟩, rfl, rfl, none_⟩
  | true =>
    have counted := h.outside_counted (List.mem_append_left _ mem)
    have made : w.wrap true key =
        (some w.next, ((w.handOut key).create (.key key) [] [key]).gpgmeKeyUnref key) := by
      simp [World.wrap, World.keyNew, World.gpgmeKeyRef, h.touch counted]
    have taken : ((w.handOut key).create (.key key) [] [key]).taken = w.taken := by
      simp [World.create, World.handOut, List.diff_cons]
    have created : Sound shape ((w.handOut key).create (.key key) [] [key]) :=
      (h.handOut key).create trivial rfl (by simp) fun k => by
        simp [World.handOut, resources, List.count_cons]
    rw [made]
    refine ⟨created.keyUnref (by rwa [taken]), ?_, ?_, ?_, ?_⟩
    · have keeps := create_keeps (w.handOut key) (.key key) [] [key]
      exact ⟨keeps.kinds, keeps.next, keeps.signers⟩
    · simp only [World.gpgmeKeyUnref]
      rw [taken]
    · rfl
    · intro o same
      cases same
      exact Function.update_self _ _ _

/-- `get_key` and the key iterator. -/
theorem Sound.receive (h : Sound shape w) (granted : Bool) (key : Nat) :
    Sound shape ((w.handOut key).wrap granted key).2 ∧
      ((w.handOut key).wrap granted key).2.taken = w.taken := by
  have mem : key ∈ (w.handOut key).taken := by simp [World.handOut]
  have wrapped := (h.handOut key).wrap mem granted
  exact ⟨wrapped.sound, by rw [wrapped.taken]; simp [World.handOut]⟩

/-! ## Lists below a key -/

/-- What a getter makes an item of: the structure exists, and has the given parent. -/
structure Item (shape : Nat → Shape) (above kind : Kind) : Prop where
  within : Within shape kind
  parent : parent kind = some above

/-- An item of a list has its parent as its only child. -/
theorem Item.linked {kind : Nat → Kind} {self : Nat} {k : Kind} (h : Item shape (kind self) k) :
    Linked kind k [self] ∧ resources k = [] ∧ k ≠ .sequence := by
  have found := h.parent
  cases k with
  | key => cases found
  | sequence => cases found
  | _ => exact ⟨⟨self, rfl, found⟩, rfl, by simp⟩

/-- One turn of the loop: an item is made, appended and given up. -/
theorem Sound.item (h : Sound shape w) {list self : Nat} {k : Kind} (granted : Bool)
    (listHeld : list ∈ w.held) (sequence : w.kind list = .sequence) (selfHeld : self ∈ w.held)
    (item : Item shape (w.kind self) k) :
    Sound shape ((((w.incref self).create k [self] []).append granted list
        w.next).decref w.next) ∧
      Keeps w ((((w.incref self).create k [self] []).append granted list
        w.next).decref w.next) ∧
      ((((w.incref self).create k [self] []).append granted list
        w.next).decref w.next).held = w.held ∧
      ((((w.incref self).create k [self] []).append granted list
        w.next).decref w.next).taken = w.taken := by
  obtain ⟨linked, none_, other⟩ := item.linked
  have keeps := create_keeps (w.incref self) k [self] []
  have held : ((w.incref self).create k [self] []).held = w.next :: w.held := by
    simp [World.create, World.incref, List.diff_cons]
  have taken : ((w.incref self).create k [self] []).taken = w.taken := by
    simp [World.create, World.incref]
  have created : Sound shape ((w.incref self).create k [self] (resources k)) := by
    refine (h.incref (h.live_of_held selfHeld)).create item.within linked ?_ ?_
    · intro o
      simp [World.incref, List.count_cons]
    · simp [none_]
  rw [none_] at created
  have old : list < w.next := h.fresh list (h.live_of_held listHeld)
  have appended : Sound shape
      (((w.incref self).create k [self] []).append granted list w.next) := by
    refine created.append ?_ ?_ ?_ ((keeps.kinds list old).trans sequence)
    · exact created.live_of_held (by simp [held])
    · simpa [World.create, World.incref] using other
    · exact created.live_of_held (by simp [held, listHeld])
  have appendedKeeps := append_keeps ((w.incref self).create k [self] []) granted list w.next
  refine ⟨appended.decref (by simp [held]), ?_, ?_, ?_⟩
  · have both := keeps.trans appendedKeeps
    exact ⟨both.kinds, both.next, both.signers⟩
  · simp [World.decref, held]
  · simp [World.decref, taken]

/-- By induction on the items: each turn leaves the list in a variable, also when memory
runs out. -/
theorem Sound.itemsLoop (memory : Nat → Bool) {list self key : Nat} (i : Nat) (kinds : List Kind)
    (h : Sound shape w) (listHeld : list ∈ w.held) (sequence : w.kind list = .sequence)
    (selfHeld : self ∈ w.held) (owner : (w.kind self).owner = some key)
    (items : ∀ k ∈ kinds, Item shape (w.kind self) k) :
    Sound shape (w.itemsLoop memory list self key i kinds).2 ∧
      (w.itemsLoop memory list self key i kinds).2.held = w.held ∧
      (w.itemsLoop memory list self key i kinds).2.taken = w.taken := by
  induction kinds generalizing w i with
  | nil =>
    have touched := h.touch (h.owner_counted (h.live_of_held selfHeld) owner)
    simp only [World.itemsLoop]
    rw [touched]
    exact ⟨h, rfl, rfl⟩
  | cons k rest ih =>
    have touched := h.touch (h.owner_counted (h.live_of_held selfHeld) owner)
    simp only [World.itemsLoop]
    rw [touched]
    split
    next =>
      have old : ∀ o ∈ w.held, o < w.next := fun o held => h.fresh o (h.live_of_held held)
      obtain ⟨sound, keeps, held, taken⟩ :=
        h.item (memory (2 * i + 2)) listHeld sequence selfHeld (items k (by simp))
      have kept := keeps.kinds self (old self selfHeld)
      have after := ih (i + 1) sound (by rwa [held])
        ((keeps.kinds list (old list listHeld)).trans sequence) (by rwa [held])
        (by rwa [kept]) (by
          intro k mem
          rw [kept]
          exact items k (by simp [mem]))
      rwa [held, taken] at after
    next => exact ⟨h, rfl, rfl⟩

/-- A getter that runs out of memory gives up its list with the items in it. -/
theorem Sound.getItems (memory : Nat → Bool) {self key : Nat} {kinds : List Kind}
    (h : Sound shape w) (selfHeld : self ∈ w.held) (owner : (w.kind self).owner = some key)
    (items : ∀ k ∈ kinds, Item shape (w.kind self) k) :
    Sound shape (w.getItems memory self key kinds) ∧
      (w.getItems memory self key kinds).taken = w.taken := by
  unfold World.getItems
  split
  next =>
    have old : self < w.next := h.fresh self (h.live_of_held selfHeld)
    have created : Sound shape (w.create .sequence [] []) :=
      h.create trivial (by simp [Linked]) (by simp) (by simp [resources])
    have kept := (create_keeps w .sequence [] []).kinds self old
    have held : (w.create .sequence [] []).held = w.next :: w.held := by simp [World.create]
    have taken : (w.create .sequence [] []).taken = w.taken := by simp [World.create]
    have sequence : (w.create .sequence [] []).kind w.next = .sequence := by simp [World.create]
    have listHeld : w.next ∈ (w.create .sequence [] []).held := by simp [held]
    have stillHeld : self ∈ (w.create .sequence [] []).held := by simp [held, selfHeld]
    have looped := created.itemsLoop memory 0 kinds listHeld sequence stillHeld (by rwa [kept])
      (by rwa [kept])
    rw [held, taken] at looped
    obtain ⟨sound, held', taken'⟩ := looped
    rcases done : World.itemsLoop memory w.next self key 0 kinds (w.create .sequence [] []) with
      ⟨finished, after⟩
    rw [done] at sound held' taken'
    cases finished with
    | true => exact ⟨sound, taken'⟩
    | false =>
      have same : after.held = w.next :: w.held := held'
      have ret : w.next ∈ after.held := by simp [same]
      exact ⟨sound.decref ret, taken'⟩
  next => exact ⟨h, rfl⟩

/-! ## Signers -/

theorem increfAll_sound (os : List Nat) (h : Sound shape w) (live : ∀ o ∈ os, o ∈ w.graph.live) :
    Sound shape (w.increfAll os) ∧ (w.increfAll os).held = os.reverse ++ w.held ∧
      (w.increfAll os).taken = w.taken ∧ (w.increfAll os).kind = w.kind := by
  induction os generalizing w with
  | nil => exact ⟨h, rfl, rfl, rfl⟩
  | cons o rest ih =>
    obtain ⟨sound, held, taken, kind⟩ := ih (h.incref (live o (by simp))) fun p mem =>
      live p (by simp [mem])
    refine ⟨sound, ?_, taken, kind⟩
    simp only [World.increfAll]
    rw [held]
    simp [World.incref]

/-- The tuple has references of its own to the items of the list. -/
theorem Sound.sequenceTuple (h : Sound shape w) (granted : Bool) {list : Nat}
    (held : list ∈ w.held) (sequence : w.kind list = .sequence) :
    Sound shape (w.sequenceTuple granted list) ∧
      (w.sequenceTuple granted list).taken = w.taken ∧
      list ∈ (w.sequenceTuple granted list).held := by
  unfold World.sequenceTuple
  split
  next =>
    have live := h.live_of_held held
    have linked := (h.wired list live).linked
    rw [sequence] at linked
    obtain ⟨sound, more, taken, kind⟩ :=
      increfAll_sound (w.graph.children list) h fun o mem => h.counted.child_live live mem
    have enough : ∀ o, (w.graph.children list).count o ≤
        (w.increfAll (w.graph.children list)).held.count o := by
      intro o
      rw [more, List.count_append, List.count_reverse]
      omega
    refine ⟨sound.create trivial ?_ enough (by simp [resources]), ?_, ?_⟩
    · rw [kind]
      exact linked
    · simp [World.create, taken]
    · simp only [World.create, List.mem_cons]
      right
      apply List.count_pos_iff.mp
      have mine := List.count_pos_iff.mpr held
      rw [List.count_diff, more, List.count_append, List.count_reverse]
      omega
  next => exact ⟨h, rfl, held⟩

/-- A variable for a list that may be NULL. -/
def ListHeld (w : World) (list : Option Nat) : Prop :=
  ∀ l ∈ list, l ∈ w.held ∧ w.kind l = .sequence

/-- By induction on the signers, of which gpgme has a reference to each. -/
theorem getSignersLoop_sound (memory : Nat → Bool) (i : Nat) (keys : List Nat)
    {list : Option Nat} {result : Option Nat × World} (h : Sound shape w)
    (listHeld : ListHeld w list) (signers : ∀ key ∈ keys, key ∈ w.signers.map Prod.snd)
    (done : getSignersLoop memory list i keys w = some result) :
    Sound shape result.2 ∧ result.2.taken = w.taken ∧ ListHeld result.2 result.1 := by
  induction keys generalizing w list i with
  | nil =>
    cases done
    exact ⟨h, rfl, listHeld⟩
  | cons key rest ih =>
    have mem : key ∈ w.taken ++ w.signers.map Prod.snd :=
      List.mem_append_right _ (signers key (by simp))
    have ref : w.gpgmeKeyRef key = w.handOut key := by
      rw [World.gpgmeKeyRef, h.touch (h.outside_counted mem)]
    have mine : key ∈ (w.handOut key).taken := by simp [World.handOut]
    have wrapped := (h.handOut key).wrap mine (memory (2 * i + 1))
    simp only [World.getSignersLoop] at done
    rw [ref] at done
    rcases e : (w.handOut key).wrap (memory (2 * i + 1)) key with ⟨made, after⟩
    rw [e] at wrapped done
    have taken : after.taken = w.taken := by
      have taken := wrapped.taken
      simpa [World.handOut] using taken
    have sequence : ∀ l ∈ list, after.kind l = .sequence := by
      intro l mem
      obtain ⟨held, kind⟩ := listHeld l mem
      exact (wrapped.keeps.kinds l (h.fresh l (h.live_of_held held))).trans kind
    cases made with
    | none =>
      have held : after.held = w.held := wrapped.held
      cases list with
      | none => cases done
      | some l =>
        cases done
        have mine : l ∈ after.held := by
          rw [held]
          exact (listHeld l rfl).1
        exact ⟨wrapped.sound.decref mine, taken, by simp [ListHeld]⟩
    | some item =>
      have held : after.held = item :: w.held := wrapped.held
      have sound : Sound shape after := wrapped.sound
      have made : item ∈ after.held := by simp [held]
      have kind : after.kind item = .key key := wrapped.kind item rfl
      cases list with
      | none => cases done
      | some l =>
        obtain ⟨lHeld, _⟩ := listHeld l rfl
        have lHeld' : l ∈ after.held := by
          rw [held]
          exact List.mem_cons_of_mem _ lHeld
        have isList : after.kind l = .sequence := sequence l rfl
        have appended : Sound shape (after.append (memory (2 * i + 2)) l item) :=
          sound.append (sound.live_of_held made) (by simp [kind]) (sound.live_of_held lHeld') isList
        have keeps := append_keeps after (memory (2 * i + 2)) l item
        have given : item ∈ (after.append (memory (2 * i + 2)) l item).held := by simp [held]
        have stillHeld :
            ListHeld ((after.append (memory (2 * i + 2)) l item).decref item) (some l) := by
          rintro _ ⟨⟩
          refine ⟨?_, (keeps.kinds l (sound.fresh l (sound.live_of_held lHeld'))).trans isList⟩
          simpa [World.decref, held] using lHeld
        have others : ∀ k ∈ rest,
            k ∈ ((after.append (memory (2 * i + 2)) l item).decref item).signers.map Prod.snd := by
          intro k later
          have there := signers k (by simp [later])
          have same := keeps.signers.trans wrapped.keeps.signers
          simp only [World.decref]
          rw [same]
          exact there
        obtain ⟨final, same, finalHeld⟩ := ih (i + 1) (appended.decref given) stillHeld others done
        refine ⟨final, ?_, finalHeld⟩
        rw [same]
        simp [World.decref, taken]

theorem Sound.getSigners (h : Sound shape w) {memory : Nat → Bool} {ctx : Nat}
    (done : w.contextGetSigners memory ctx = some w') :
    Sound shape w' ∧ w'.taken = w.taken := by
  unfold World.contextGetSigners at done
  obtain ⟨⟨ret, after⟩, looped, rfl⟩ := Option.map_eq_some_iff.mp done
  have signers : ∀ key ∈ w.signersOf ctx, key ∈ w.signers.map Prod.snd := by
    intro key mem
    obtain ⟨entry, kept, rfl⟩ := List.mem_map.mp mem
    exact List.mem_map_of_mem (List.mem_filter.mp kept).1
  have result : Sound shape after ∧ after.taken = w.taken ∧ ListHeld after ret := by
    cases granted : memory 0 with
    | false =>
      simp only [granted, Bool.false_eq_true, if_false] at looped
      exact getSignersLoop_sound memory 0 _ h (by simp [ListHeld]) signers looped
    | true =>
      simp only [granted, if_true] at looped
      have created : Sound shape (w.create .sequence [] []) :=
        h.create trivial (by simp [Linked]) (by simp) (by simp [resources])
      have held : ListHeld (w.create .sequence [] []) (some w.next) := by
        simp [ListHeld, World.create]
      exact getSignersLoop_sound memory 0 _ created held signers looped
  obtain ⟨sound, taken, listHeld⟩ := result
  cases ret with
  | none => exact ⟨sound, taken⟩
  | some list =>
    obtain ⟨held, sequence⟩ := listHeld list rfl
    obtain ⟨made, same, still⟩ :=
      sound.sequenceTuple (memory (2 * (w.signersOf ctx).length + 1)) held sequence
    exact ⟨made.decref still, same.trans taken⟩

/-- The signers of one context and those of the others make up the list. -/
theorem count_signers (ctx : Nat) (entries : List (Nat × Nat)) (key : Nat) :
    (entries.map Prod.snd).count key =
      ((entries.filter fun entry => entry.1 == ctx).map Prod.snd).count key +
        ((entries.filter fun entry => entry.1 != ctx).map Prod.snd).count key := by
  induction entries with
  | nil => rfl
  | cons entry rest ih =>
    by_cases same : entry.1 = ctx
    · simp [same, List.count_cons, ih]
      omega
    · simp [same, List.count_cons, ih]
      omega

/-- gpgme gives up the references of one context. -/
theorem Sound.signersClear (h : Sound shape w) (ctx : Nat) :
    Sound shape (w.gpgmeSignersClear ctx) := by
  refine h.recounted ⟨rfl, rfl, rfl, rfl, rfl, rfl⟩
    (Objects.Counted.unhold (h.counted.congr (fun _ => rfl) fun key => ?_))
  have split := count_signers ctx w.signers key
  simp only [World.gpgmeSignersClear, World.signersOf, List.count_append]
  omega

/-- A Key object keeps its key counted while gpgme takes another reference. -/
theorem Sound.signersAdd (h : Sound shape w) (granted : Bool) (ctx : Nat) {key : Nat}
    (counted : 0 < w.graph.counts key) : Sound shape (w.gpgmeSignersAdd granted ctx key) := by
  unfold World.gpgmeSignersAdd
  split
  next =>
    rw [h.touch counted]
    refine h.recounted ⟨rfl, rfl, rfl, rfl, rfl, rfl⟩
      ((h.counted.hold key).congr (fun _ => rfl) fun k => ?_)
    simp only [List.map_append, List.map_cons, List.map_nil, List.count_append, List.count_cons,
      List.count_nil]
    omega
  next => exact h

/-- Signers are added without any change to objects. -/
theorem signersAdd_same (w : World) (granted : Bool) (ctx key : Nat) :
    (w.gpgmeSignersAdd granted ctx key).graph.live = w.graph.live ∧
      (w.gpgmeSignersAdd granted ctx key).taken = w.taken := by
  unfold World.gpgmeSignersAdd
  split <;> exact ⟨rfl, rfl⟩

/-- The loop stops at the first item that is no Key, with some signers added. -/
theorem setSignersLoop_sound (memory : Nat → Bool) (ctx i : Nat) (value : List (Option Nat))
    (h : Sound shape w) (live : ∀ o, some o ∈ value → o ∈ w.graph.live) :
    Sound shape (setSignersLoop memory ctx i value w) ∧
      (setSignersLoop memory ctx i value w).taken = w.taken := by
  induction value generalizing w i with
  | nil => exact ⟨h, rfl⟩
  | cons item rest ih =>
    cases item with
    | none => exact ⟨h, rfl⟩
    | some o =>
      simp only [World.setSignersLoop]
      split
      next key kind =>
        have counted := h.owner_counted (live o (by simp)) (by rw [kind]; rfl)
        obtain ⟨objects, taken⟩ := signersAdd_same w (memory i) ctx key
        have after := ih (i + 1) (h.signersAdd (memory i) ctx counted) fun p mem => by
          rw [objects]
          exact live p (by simp [mem])
        rwa [taken] at after
      next => exact ⟨h, rfl⟩

theorem Sound.setSigners (h : Sound shape w) (memory : Nat → Bool) (ctx : Nat)
    {value : List (Option Nat)} (live : ∀ o ∈ value.filterMap id, o ∈ w.graph.live) :
    Sound shape (w.contextSetSigners memory ctx value) ∧
      (w.contextSetSigners memory ctx value).taken = w.taken := by
  refine setSignersLoop_sound memory ctx 0 _ (h.signersClear ctx) fun o mem => ?_
  exact live o (List.mem_filterMap.mpr ⟨some o, List.mem_of_mem_take mem, rfl⟩)

/-! ## Steps -/

theorem items_subkeys (shape : Nat → Shape) (key : Nat) :
    ∀ k ∈ subkeysOf shape key, Item shape (.key key) k := by
  intro k mem
  obtain ⟨i, bound, rfl⟩ := List.mem_map.mp mem
  exact ⟨List.mem_range.mp bound, rfl⟩

theorem items_userIds (shape : Nat → Shape) (key : Nat) :
    ∀ k ∈ userIdsOf shape key, Item shape (.key key) k := by
  intro k mem
  obtain ⟨i, bound, rfl⟩ := List.mem_map.mp mem
  exact ⟨List.mem_range.mp bound, rfl⟩

theorem items_signatures (shape : Nat → Shape) (key userId : Nat) :
    ∀ k ∈ signaturesOf shape key userId, Item shape (.userId key userId) k := by
  intro k mem
  obtain ⟨j, bound, rfl⟩ := List.mem_map.mp mem
  exact ⟨List.mem_range.mp bound, rfl⟩

/-- No step leaves a C function with a reference in a variable. -/
theorem Sound.step (h : Sound shape w) {l : Label} (done : w.step shape l = some w') :
    Sound shape w' ∧ w'.taken = w.taken := by
  cases l with
  | getKey granted key =>
    cases done
    cases key with
    | some key => exact h.receive granted key
    | none => exact ⟨h, rfl⟩
  | keyIterNext granted key =>
    cases done
    cases key with
    | some key => exact h.receive granted key
    | none => exact ⟨h, rfl⟩
  | getSigners memory ctx => exact h.getSigners done
  | setSigners memory ctx value =>
    simp only [World.step, Option.ite_none_right_eq_some, Option.some.injEq] at done
    obtain ⟨live, rfl⟩ := done
    exact h.setSigners memory ctx live
  | getSubkeys memory o =>
    simp only [World.step, Option.ite_none_right_eq_some, World.keyGetSubkeys] at done
    obtain ⟨held, done⟩ := done
    split at done
    next key kind =>
      cases done
      exact h.getItems memory held (by rw [kind]; rfl) (by rw [kind]; exact items_subkeys shape key)
    next => cases done
  | getUids memory o =>
    simp only [World.step, Option.ite_none_right_eq_some, World.keyGetUids] at done
    obtain ⟨held, done⟩ := done
    split at done
    next key kind =>
      cases done
      exact h.getItems memory held (by rw [kind]; rfl) (by rw [kind]; exact items_userIds shape key)
    next => cases done
  | getSignatures memory o =>
    simp only [World.step, Option.ite_none_right_eq_some, World.userIdGetSignatures] at done
    obtain ⟨held, done⟩ := done
    split at done
    next key i kind =>
      cases done
      exact h.getItems memory held (by rw [kind]; rfl)
        (by rw [kind]; exact items_signatures shape key i)
    next => cases done
  | readAttribute o =>
    simp only [World.step, Option.ite_none_right_eq_some, World.readAttribute] at done
    obtain ⟨held, done⟩ := done
    obtain ⟨key, owner, rfl⟩ := Option.map_eq_some_iff.mp done
    rw [h.touch (h.owner_counted (h.live_of_held held) owner)]
    exact ⟨h, rfl⟩
  | take o =>
    simp only [World.step, Option.ite_none_right_eq_some, Option.some.injEq] at done
    obtain ⟨live, rfl⟩ := done
    exact ⟨h.incref live, rfl⟩
  | drop o =>
    simp only [World.step, Option.ite_none_right_eq_some, Option.some.injEq] at done
    obtain ⟨held, rfl⟩ := done
    exact ⟨h.decref held, rfl⟩

/-! ## Runs -/

/-- The run lemma of the invariant. -/
theorem reachable_sound (reached : Reachable (keyObjects shape) w) :
    Sound shape w ∧ w.taken = [] := by
  induction reached with
  | init started =>
    cases started
    exact ⟨sound_start, rfl⟩
  | step l _ _ done ih =>
    obtain ⟨sound, taken⟩ := ih.1.step done
    exact ⟨sound, taken.trans ih.2⟩

/-- The live Key objects that wrap a gpgme key. -/
def wrappers (w : World) (key : Nat) : Nat :=
  w.graph.live.countP fun o => w.kind o = .key key

/-- The references gpgme itself holds to a key. -/
def signerEntries (w : World) (key : Nat) : Nat := w.signers.countP fun entry => entry.2 = key

/-- Storage of keys between two steps. -/
structure KeptAlive (shape : Nat → Shape) (w : World) : Prop where
  counts : ∀ key, w.graph.counts key = wrappers w key + signerEntries w key
  belongs : ∀ o ∈ w.graph.live, ∀ key, (w.kind o).owner = some key →
    Within shape (w.kind o) ∧ 0 < w.graph.counts key
  released : ∀ key, (∀ o ∈ w.graph.live, w.kind o ≠ .key key) →
    (∀ entry ∈ w.signers, entry.2 ≠ key) → w.graph.counts key = 0
  referenced : ∀ o ∈ w.held, o ∈ w.graph.live
  collected : w.held = [] → w.graph.live = []
  intact : w.fault = false

/-- The references of Key objects to one key, counted by the objects. -/
theorem count_resources {kind : Nat → Kind} {held : Nat → List Nat} (objects : List Nat) (key : Nat)
    (wired : ∀ o ∈ objects, held o = resources (kind o)) :
    (objects.flatMap held).count key = objects.countP fun o => kind o = .key key := by
  induction objects with
  | nil => rfl
  | cons o rest ih =>
    rw [List.flatMap_cons, List.count_append, ih fun p mem => wired p (by simp [mem]),
      wired o (by simp), List.countP_cons]
    cases found : kind o with
    | key k => simp [resources, List.count_cons, Nat.add_comm]
    | _ => simp [resources]

theorem count_entries (entries : List (Nat × Nat)) (key : Nat) :
    (entries.map Prod.snd).count key = entries.countP fun entry => entry.2 = key := by
  rw [List.count, List.countP_map]
  congr 1

/-- How many parents are above an object at most. -/
def rank : Kind → Nat
  | .key _ => 0
  | .subkey _ _ => 1
  | .userId _ _ => 1
  | .keySig _ _ _ => 2
  | .sequence => 3

/-- Pointers go from signatures to user IDs to keys, so no object hangs from itself. -/
theorem Linked.rank_lt {kind : Nat → Kind} {k : Kind} {children : List Nat}
    (h : Linked kind k children) : ∀ c ∈ children, rank (kind c) < rank k := by
  intro c mem
  cases k with
  | key =>
    rw [show children = [] from h] at mem
    cases mem
  | sequence =>
    have other := h c mem
    cases found : kind c <;> simp_all [rank]
  | _ =>
    obtain ⟨p, rfl, found⟩ := h
    obtain rfl := List.mem_singleton.mp mem
    rw [← Option.some.inj found]
    simp [rank]

/-- For gpgme keys of any number and shape, and any sequence of steps: between two
steps each key is referenced by exactly the live Key objects that wrap it and its
entries in signer lists; every live object points to a structure of a key that is
referenced; a key without wrappers and signer entries has none; objects without a
reference are gone; and no step used memory of a freed key. -/
theorem storage_kept (shape : Nat → Shape) (w : World)
    (reached : Reachable (keyObjects shape) w) : KeptAlive shape w := by
  obtain ⟨h, taken⟩ := reachable_sound reached
  have counts : ∀ key, w.graph.counts key = wrappers w key + signerEntries w key := by
    intro key
    rw [h.counted.counts key, taken, List.nil_append, count_entries,
      count_resources w.graph.live key fun o live => (h.wired o live).resources]
    rfl
  refine ⟨counts, fun o live key owner => ⟨(h.wired o live).within, h.owner_counted live owner⟩,
    fun key noWrapper noEntry => ?_, fun o held => h.live_of_held held, fun empty => ?_, h.intact⟩
  · have wrappers_ : wrappers w key = 0 := by
      simpa [wrappers, List.countP_eq_zero] using noWrapper
    have entries : signerEntries w key = 0 := by
      simpa [signerEntries, List.countP_eq_zero] using noEntry
    rw [counts, wrappers_, entries]
  · have counted := h.counted
    rw [empty] at counted
    exact counted.collected (fun o => rank (w.kind o)) fun o live => (h.wired o live).linked.rank_lt

/-- A key with a subkey and a user ID that has two signatures. -/
def signedKey : Nat → Shape := fun _ => ⟨1, [2]⟩

def plenty : Nat → Bool := fun _ => true

/-- A signature is all the program keeps of a key that also signs: the Key is object 0,
its list of user IDs 1, the user ID 2, its list of signatures 3, the signatures 4 and 5. -/
def keepSignature : List Label :=
  [.getKey true (some 0), .setSigners plenty 0 [some 0], .getUids plenty 0, .take 2, .drop 1,
    .drop 0, .getSignatures plenty 2, .drop 2, .take 4, .drop 3, .readAttribute 4]

/-- The signers are read, replaced and dropped, and the signature with them. -/
def dropAll : List Label :=
  [.getSigners plenty 0, .setSigners plenty 0 [none], .drop 8, .drop 4]

theorem storage_kept_signature :
    ∃ w, run (keyObjects signedKey) World.start keepSignature = some w ∧
      w.held = [4] ∧ w.graph.live = [4, 2, 0] ∧ w.graph.counts 0 = 2 ∧ KeptAlive signedKey w := by
  have executed : ((run (keyObjects signedKey) World.start keepSignature).map
      fun w => (w.held, w.graph.live, w.graph.counts 0)) = some ([4], [4, 2, 0], 2) := by decide
  obtain ⟨w, hw, found⟩ := Option.map_eq_some_iff.mp executed
  simp only [Prod.mk.injEq] at found
  exact ⟨w, hw, found.1, found.2.1, found.2.2,
    storage_kept signedKey w (Reachable.of_run _ (.init rfl) hw)⟩

example : ((run (keyObjects signedKey) World.start (keepSignature ++ dropAll)).map
    fun w => (w.held, w.graph.live, w.graph.counts 0)) = some ([], [], 0) := by decide

end Pygpgme.Guarantees.KeyObjects
