import Pygpgme.Library.ObjectCycles
import Pygpgme.Library.Transition
import Pygpgme.Source.Registration

/-!
# What keeps a Context alive

lib/pygpgme-context.c:94-145, 440-520 and 2010-2043, lib/pygpgme-keyiter.c:21-49,
lib/pygpgme-data.c:153-204. A Context has references to its callbacks, a KeyIter to its
Context, a data object to its file object and the Context. Objects of other types refer
to whatever a program stores in them. The types of this module have no `tp_traverse`, so
the garbage collector follows the references of the other objects only.

A reference that is given up is processed in a step of its own: deallocators run one
after the other, with other threads and the code of destructors in between.
-/

set_option autoImplicit false

namespace Pygpgme.Source.ContextLifetime
open Pygpgme.Library.ObjectGraph Pygpgme.Library.Transition
open Pygpgme.Source.Registration (Slot)

/-- The fields of an object. -/
inductive Cell where
  /-- A Python object of another type, and the references it has. -/
  | object (refs : List Nat)
  /-- Whether `self->ctx` is set, `self->passphrase_cb` and `self->progress_cb`. -/
  | context (ctx : Bool) (callback : Slot → Option Nat)
  | keyIter (ctx : Nat)
  /-- `struct pygpgme_data`, the handle of a gpgme data object. -/
  | data (fp ctx : Nat)

namespace Cell

def children : Cell → List Nat
  | .object refs => refs
  | .context _ callback => (callback .passphrase).toList ++ (callback .progress).toList
  | .keyIter ctx => [ctx]
  | .data fp ctx => [fp, ctx]

/-- The collector follows its references. -/
def tracked : Cell → Bool
  | .object _ => true
  | _ => false

/-- A `PyObject`, which other objects may refer to. -/
def isPython : Cell → Bool
  | .data _ _ => false
  | _ => true

def isContext : Cell → Bool
  | .context _ _ => true
  | _ => false

end Cell

/-- What the deallocators do apart from giving up references. -/
inductive Event where
  | gpgmeRelease (context : Nat)
  | freeLock (context : Nat)
  | keylistEnd (keyIter : Nat)
  deriving DecidableEq, Repr

structure World where
  live : List Nat
  refs : Nat → Nat
  cell : Nat → Cell
  next : Nat
  /-- References in variables of the program and of running C functions. -/
  held : List Nat
  /-- References to give up, the next one first. -/
  pending : List Nat
  /-- The last event first. -/
  log : List Event
  /-- A freed object or a released gpgme context was used. -/
  fault : Bool

namespace World

def start : World := ⟨[], fun _ => 0, fun _ => .object [], 0, [], [], [], false⟩

def graph (w : World) : Objects Nat Empty where
  live := w.live
  refs := w.refs
  children := fun o => (w.cell o).children
  resources := fun _ => []
  counts := fun _ => 0

/-! ## The interpreter -/

/-- The memory of an object is read or written. -/
def useObject (o : Nat) (w : World) : World :=
  { w with fault := w.fault || !w.live.contains o }

/-- A function of gpgme gets `self->ctx`. -/
def useGpgme (self : Nat) (w : World) : World :=
  { w with
    fault := w.fault || !w.live.contains self || w.log.contains (.gpgmeRelease self) }

def incref (o : Nat) (w : World) : World :=
  { w with refs := Function.update w.refs o (w.refs o + 1), held := o :: w.held }

/-- `Py_DECREF` of a variable, up to the test of the count. -/
def decref (o : Nat) (w : World) : World :=
  { w with held := w.held.erase o, pending := o :: w.pending }

/-- A new object, which takes over references from variables. -/
def create (cell : Cell) (w : World) : World :=
  { w with
    live := w.next :: w.live
    refs := Function.update w.refs w.next 1
    cell := Function.update w.cell w.next cell
    next := w.next + 1
    held := w.next :: w.held.diff cell.children }

/-- The fields of an object change: it takes over references from variables, and others
are to be given up. -/
def assign (o : Nat) (cell : Cell) (taken given : List Nat) (w : World) : World :=
  { w with
    cell := Function.update w.cell o cell
    held := w.held.diff taken
    pending := given ++ w.pending }

def emit (e : Event) (w : World) : World := { w with log := e :: w.log }

/-! ## Deallocators -/

/-- `pygpgme_context_dealloc` up to `Py_XDECREF`. -/
def contextDealloc (self : Nat) (ctx : Bool) (w : World) : World :=
  (if ctx then w.emit (.gpgmeRelease self) else w).emit (.freeLock self)

/-- `pygpgme_keyiter_dealloc` up to `Py_DECREF`. -/
def keyiterDealloc (self ctx : Nat) (w : World) : World :=
  (w.useGpgme ctx).emit (.keylistEnd self)

/-- `release_cb` of a data object only gives up its references. -/
def dealloc (self : Nat) (w : World) : World :=
  match w.cell self with
  | .context ctx _ => w.contextDealloc self ctx
  | .keyIter ctx => w.keyiterDealloc self ctx
  | .object _ | .data _ _ => w

/-- One reference is given up; with the last one the object goes, and then what it held. -/
def turn (w : World) : Option World :=
  match w.pending with
  | [] => none
  | o :: rest =>
    if w.refs o = 1 then
      some { w.dealloc o with
        live := w.live.erase o
        refs := Function.update w.refs o 0
        pending := (w.cell o).children ++ rest }
    else some { w with refs := Function.update w.refs o (w.refs o - 1), pending := rest }

/-- Objects the collector may take: it follows the references of each, and has found every
reference to them among these. -/
def collectable (s : List Nat) (w : World) : Bool :=
  decide s.Nodup && s.all fun o =>
    w.live.contains o && (w.cell o).tracked && !(w.held ++ w.pending).contains o &&
      w.live.all fun p => !(w.cell p).children.contains o || s.contains p

/-- `tp_clear` of each. -/
def collect (s : List Nat) (w : World) : World :=
  { w with
    cell := fun o => if o ∈ s then .object [] else w.cell o
    pending := s.flatMap (fun o => (w.cell o).children) ++ w.pending }

/-! ## Contexts -/

/-- `pygpgme_context_new` -/
def contextNew (granted : Bool) (w : World) : World :=
  if granted then w.create (.context false fun _ => none) else w

/-- `pygpgme_context_init`; a second call raises ValueError. -/
def contextInit (granted : Bool) (self : Nat) (w : World) : World :=
  match w.cell self with
  | .context false callback => if granted then w.assign self (.context true callback) [] [] else w
  | _ => w

/-- `Py_CLEAR(self->passphrase_cb)` -/
def clearCb (slot : Slot) (self : Nat) (w : World) : World :=
  match w.cell self with
  | .context ctx callback =>
    w.assign self (.context ctx (Function.update callback slot none)) [] (callback slot).toList
  | _ => w

/-- `Py_INCREF(value); self->passphrase_cb = value` -/
def storeCb (slot : Slot) (self value : Nat) (w : World) : World :=
  match w.cell self with
  | .context ctx callback =>
    (w.incref value).assign self (.context ctx (Function.update callback slot (some value)))
      [value] []
  | _ => w

/-- A getter; without a callback it returns None. -/
def getCb (slot : Slot) (self : Nat) (w : World) : World :=
  match w.cell self with
  | .context _ callback =>
    match callback slot with
    | some value => w.incref value
    | none => w
  | _ => w

/-- gpgme calls `pygpgme_passphrase_cb` (`pygpgme_progress_cb`) with the Context as its hook. -/
def invokeCb (slot : Slot) (self : Nat) (w : World) : World :=
  match w.cell self with
  | .context _ callback =>
    match callback slot with
    | some value => (w.useObject self).useObject value
    | none => w.useObject self
  | _ => w

/-- `keylist`; gpgme starts no listing without a context, and may refuse. -/
def contextKeylist (granted : Bool) (self : Nat) (w : World) : World :=
  match w.cell self with
  | .context true _ =>
    let w := w.useGpgme self
    if granted then (w.incref self).create (.keyIter self) else w
  | _ => w

/-- `pygpgme_keyiter_next` -/
def keyiterNext (self : Nat) (w : World) : World :=
  match w.cell self with
  | .keyIter ctx => w.useGpgme ctx
  | _ => w

/-- `pygpgme_data_new`; None has no data object. -/
def dataNew (granted : Bool) (fp : Option Nat) (ctx : Nat) (w : World) : World :=
  match granted, fp with
  | true, some fp => ((w.incref fp).incref ctx).create (.data fp ctx)
  | _, _ => w

/-- `read_cb`, `write_cb` or `seek_cb`. -/
def dataCallback (handle : Nat) (w : World) : World :=
  match w.cell handle with
  | .data fp ctx => (w.useObject ctx).useObject fp
  | _ => w

/-! ## Other objects -/

/-- `o` stores another reference, as an attribute or an item. -/
def link (o c : Nat) (w : World) : World :=
  match w.cell o with
  | .object refs => (w.incref c).assign o (.object (c :: refs)) [c] []
  | _ => w

def unlink (o c : Nat) (w : World) : World :=
  match w.cell o with
  | .object refs => if c ∈ refs then w.assign o (.object (refs.erase c)) [] [c] else w
  | _ => w

/-- A reference that `o` stores is read. -/
def take (o c : Nat) (w : World) : World :=
  match w.cell o with
  | .object refs => if c ∈ refs then w.incref c else w
  | _ => w

end World

inductive Label where
  | contextNew (granted : Bool)
  | contextInit (granted : Bool) (self : Nat)
  | clearCb (slot : Slot) (self : Nat)
  | storeCb (slot : Slot) (self value : Nat)
  | getCb (slot : Slot) (self : Nat)
  | invokeCb (slot : Slot) (self : Nat)
  /-- Any other use of `self->ctx`. -/
  | operation (self : Nat)
  | keylist (granted : Bool) (self : Nat)
  | keyiterNext (self : Nat)
  | dataNew (granted : Bool) (fp : Option Nat) (ctx : Nat)
  | dataCallback (handle : Nat)
  | newObject
  | link (o c : Nat)
  | unlink (o c : Nat)
  | take (o c : Nat)
  /-- Another variable, or an argument of a call. -/
  | copy (o : Nat)
  /-- `Py_DECREF`, or `gpgme_data_release` of a handle. -/
  | drop (o : Nat)
  | turn
  | collect (s : List Nat)
  deriving DecidableEq, Repr

/-- The interpreter takes these by itself. -/
def Label.internal : Label → Bool
  | .turn | .collect _ => true
  | _ => false

/-- The variables a step uses; what gets a new reference is a Python object. -/
def World.allows (w : World) : Label → Bool
  | .contextInit _ self | .clearCb _ self | .getCb _ self | .invokeCb _ self | .operation self
  | .keylist _ self | .keyiterNext self | .dataCallback self => w.held.contains self
  | .storeCb slot self value =>
    w.held.contains self && w.held.contains value && (w.cell value).isPython &&
      match w.cell self with
      | .context _ callback => (callback slot).isNone
      | _ => false
  | .dataNew _ fp ctx =>
    w.held.contains ctx && (w.cell ctx).isContext &&
      fp.all fun o => w.held.contains o && (w.cell o).isPython
  | .link o c => w.held.contains o && w.held.contains c && (w.cell c).isPython
  | .unlink o _ | .take o _ | .drop o => w.held.contains o
  | .copy o => w.held.contains o && (w.cell o).isPython
  | .collect s => w.collectable s
  | .contextNew _ | .newObject | .turn => true

def World.perform (w : World) : Label → Option World
  | .contextNew granted => some (w.contextNew granted)
  | .contextInit granted self => some (w.contextInit granted self)
  | .clearCb slot self => some (w.clearCb slot self)
  | .storeCb slot self value => some (w.storeCb slot self value)
  | .getCb slot self => some (w.getCb slot self)
  | .invokeCb slot self => some (w.invokeCb slot self)
  | .operation self => some (w.useGpgme self)
  | .keylist granted self => some (w.contextKeylist granted self)
  | .keyiterNext self => some (w.keyiterNext self)
  | .dataNew granted fp ctx => some (w.dataNew granted fp ctx)
  | .dataCallback handle => some (w.dataCallback handle)
  | .newObject => some (w.create (.object []))
  | .link o c => some (w.link o c)
  | .unlink o c => some (w.unlink o c)
  | .take o c => some (w.take o c)
  | .copy o => some (w.incref o)
  | .drop o => some (w.decref o)
  | .turn => w.turn
  | .collect s => some (w.collect s)

def World.step (w : World) (l : Label) : Option World :=
  if w.allows l then w.perform l else none

/-- Any program, with other threads. -/
def contexts : System World Label where
  init := fun w => w = World.start
  step := World.step

end Pygpgme.Source.ContextLifetime
