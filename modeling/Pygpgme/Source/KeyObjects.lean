import Pygpgme.Library.ObjectGraph
import Pygpgme.Library.Transition

/-!
# Key objects and the gpgme keys below them

lib/pygpgme-key.c, lib/pygpgme-keyiter.c:49-76, lib/pygpgme-context.c:527-598 and
849-877. Key, Subkey, UserId and KeySig objects have a pointer into the structure of a
gpgme key. A Key has a reference to that key; the others have one to their parent
object. Lists and tuples have references to their items. Python counts references to
objects, gpgme counts references to keys.
-/

set_option autoImplicit false

namespace Pygpgme.Source.KeyObjects
open Pygpgme.Library.ObjectGraph Pygpgme.Library.Transition

/-- The lists of a gpgme key: its subkeys, and its user IDs with their signatures. -/
structure Shape where
  subkeys : Nat
  /-- The number of signatures of each user ID. -/
  userIds : List Nat
  deriving DecidableEq, Repr

/-- The type of an object, and its pointer: a gpgme key, or the place of a structure
in the lists of one. -/
inductive Kind where
  | key (key : Nat)
  | subkey (key index : Nat)
  | userId (key index : Nat)
  | keySig (key userId index : Nat)
  | sequence
  deriving DecidableEq, Repr

/-- The gpgme key whose memory the pointer leads to. -/
def Kind.owner : Kind → Option Nat
  | .key k => some k
  | .subkey k _ => some k
  | .userId k _ => some k
  | .keySig k _ _ => some k
  | .sequence => none

structure World where
  /-- Python objects, with gpgme keys as their resources. -/
  graph : Objects Nat Nat
  kind : Nat → Kind
  next : Nat
  /-- References to objects in variables, of the program and of the C functions. -/
  held : List Nat
  /-- References to gpgme keys in variables of the C functions. -/
  taken : List Nat
  /-- The signers of each context, by its number. -/
  signers : List (Nat × Nat)
  /-- Memory of a freed key was used. -/
  fault : Bool

namespace World

def start : World := ⟨Objects.empty, fun _ => .sequence, 0, [], [], [], false⟩

/-! ## gpgme and the interpreter -/

/-- A pointer into a key is followed. -/
def touch (key : Nat) (w : World) : World :=
  { w with fault := w.fault || w.graph.counts key == 0 }

/-- gpgme returns a reference to a key, new or not. -/
def handOut (key : Nat) (w : World) : World :=
  { w with graph := w.graph.hold key, taken := key :: w.taken }

def gpgmeKeyRef (key : Nat) (w : World) : World := (w.touch key).handOut key

def gpgmeKeyUnref (key : Nat) (w : World) : World :=
  { w with graph := w.graph.unhold [key], taken := w.taken.erase key }

def signersOf (ctx : Nat) (w : World) : List Nat :=
  (w.signers.filter fun entry => entry.1 == ctx).map Prod.snd

def gpgmeSignersClear (ctx : Nat) (w : World) : World :=
  { w with
    graph := w.graph.unhold (w.signersOf ctx)
    signers := w.signers.filter fun entry => entry.1 != ctx }

/-- `granted` is false if gpgme has no memory; nobody looks at what it returns. -/
def gpgmeSignersAdd (granted : Bool) (ctx key : Nat) (w : World) : World :=
  if granted then
    let w := w.touch key
    { w with graph := w.graph.hold key, signers := w.signers ++ [(ctx, key)] }
  else w

def incref (o : Nat) (w : World) : World :=
  { w with graph := w.graph.incref o, held := o :: w.held }

/-- `Py_DECREF`, with the deallocators it runs: `pygpgme_key_dealloc` unrefs the key, the
others give up their parent, a list gives up its items. -/
def decref (o : Nat) (w : World) : World :=
  { w with graph := w.graph.release [o], held := w.held.erase o }

/-- A new object that takes over references from variables. -/
def create (kind : Kind) (children resources : List Nat) (w : World) : World :=
  { w with
    graph := w.graph.create w.next children resources
    kind := Function.update w.kind w.next kind
    next := w.next + 1
    held := w.next :: w.held.diff children
    taken := w.taken.diff resources }

/-- `PyList_Append`, which fails without memory; nobody looks at what it returns. -/
def append (granted : Bool) (list item : Nat) (w : World) : World :=
  if granted then { w with graph := (w.graph.incref item).adopt list item } else w

def increfAll : List Nat → World → World
  | [], w => w
  | o :: rest, w => increfAll rest (w.incref o)

/-- `PySequence_Tuple` -/
def sequenceTuple (granted : Bool) (list : Nat) (w : World) : World :=
  if granted then
    let items := w.graph.children list
    (w.increfAll items).create .sequence items []
  else w

/-! ## Key objects -/

/-- `pygpgme_key_new` -/
def keyNew (granted : Bool) (key : Nat) (w : World) : Option Nat × World :=
  if granted then (some w.next, (w.gpgmeKeyRef key).create (.key key) [] [key])
  else (none, w)

/-- The caller's reference is given up after `pygpgme_key_new`, whatever it returned. -/
def wrap (granted : Bool) (key : Nat) (w : World) : Option Nat × World :=
  let made := w.keyNew granted key
  (made.1, made.2.gpgmeKeyUnref key)

/-- `get_key`; without a key, gpgme returned an error. -/
def contextGetKey (granted : Bool) : Option Nat → World → World
  | some key, w => ((w.handOut key).wrap granted key).2
  | none, w => w

/-- An error, the end of the listing, or no key. -/
def keyiterNext (granted : Bool) : Option Nat → World → World
  | some key, w => ((w.handOut key).wrap granted key).2
  | none, w => w

/-! ## Lists of subkeys, user IDs and signatures -/

/-- The loop over a list below a key. `memory` says which requests are granted: item `i`
is request `2 * i + 1`, and appending it the one after. Each test of the loop reads from
the key; it ends early without an item. -/
def itemsLoop (memory : Nat → Bool) (list self key : Nat) :
    Nat → List Kind → World → Bool × World
  | _, [], w => (true, w.touch key)
  | i, kind :: rest, w =>
    let w := w.touch key
    if memory (2 * i + 1) then
      let item := w.next
      let w := (w.incref self).create kind [self] []
      itemsLoop memory list self key (i + 1) rest
        ((w.append (memory (2 * i + 2)) list item).decref item)
    else (false, w)

/-- The shape of the three getters. -/
def getItems (memory : Nat → Bool) (self key : Nat) (kinds : List Kind) (w : World) : World :=
  if memory 0 then
    match itemsLoop memory w.next self key 0 kinds (w.create .sequence [] []) with
    | (true, after) => after
    | (false, after) => after.decref w.next
  else w

section
variable (shape : Nat → Shape)

def subkeysOf (key : Nat) : List Kind := (List.range (shape key).subkeys).map (.subkey key)

def userIdsOf (key : Nat) : List Kind :=
  (List.range (shape key).userIds.length).map (.userId key)

def signaturesOf (key userId : Nat) : List Kind :=
  (List.range ((shape key).userIds.getD userId 0)).map (.keySig key userId)

def keyGetSubkeys (memory : Nat → Bool) (self : Nat) (w : World) : Option World :=
  match w.kind self with
  | .key key => some (w.getItems memory self key (subkeysOf shape key))
  | _ => none

def keyGetUids (memory : Nat → Bool) (self : Nat) (w : World) : Option World :=
  match w.kind self with
  | .key key => some (w.getItems memory self key (userIdsOf shape key))
  | _ => none

def userIdGetSignatures (memory : Nat → Bool) (self : Nat) (w : World) : Option World :=
  match w.kind self with
  | .userId key i => some (w.getItems memory self key (signaturesOf shape key i))
  | _ => none

end

/-- Any other attribute reads through the pointer. -/
def readAttribute (self : Nat) (w : World) : Option World :=
  (w.kind self).owner.map fun key => w.touch key

/-! ## Signers -/

/-- The loop of the getter; `gpgme_signers_enum` returns a reference. `none` is a crash:
without a list, the first item is appended to NULL, or `Py_DECREF` gets NULL. -/
def getSignersLoop (memory : Nat → Bool) (list : Option Nat) :
    Nat → List Nat → World → Option (Option Nat × World)
  | _, [], w => some (list, w)
  | i, key :: rest, w =>
    match (w.gpgmeKeyRef key).wrap (memory (2 * i + 1)) key, list with
    | (some item, w), some list =>
      getSignersLoop memory (some list) (i + 1) rest
        ((w.append (memory (2 * i + 2)) list item).decref item)
    | (none, w), some list => some (none, w.decref list)
    | _, none => none

def contextGetSigners (memory : Nat → Bool) (ctx : Nat) (w : World) : Option World :=
  let signers := w.signersOf ctx
  let made := if memory 0 then (some w.next, w.create .sequence [] []) else (none, w)
  (getSignersLoop memory made.1 0 signers made.2).map fun
    | (some list, w) => (w.sequenceTuple (memory (2 * signers.length + 1)) list).decref list
    | (none, w) => w

/-- The loop of the setter, up to the first item that is no Key. -/
def setSignersLoop (memory : Nat → Bool) (ctx : Nat) : Nat → List (Option Nat) → World → World
  | _, [], w => w
  | i, some o :: rest, w =>
    match w.kind o with
    | .key key => setSignersLoop memory ctx (i + 1) rest (w.gpgmeSignersAdd (memory i) ctx key)
    | _ => w
  | _, none :: _, w => w

/-- `value` has the items of a sequence; other objects than ours are `none`. Its length is
an `int`. -/
def contextSetSigners (memory : Nat → Bool) (ctx : Nat) (value : List (Option Nat)) (w : World) :
    World :=
  setSignersLoop memory ctx 0 (value.take (BitVec.ofNat 32 value.length).toInt.toNat)
    (w.gpgmeSignersClear ctx)

end World

/-- What a program does. Items of a sequence are reached by taking a reference. -/
inductive Label where
  | getKey (granted : Bool) (key : Option Nat)
  | keyIterNext (granted : Bool) (key : Option Nat)
  | getSigners (memory : Nat → Bool) (ctx : Nat)
  | setSigners (memory : Nat → Bool) (ctx : Nat) (value : List (Option Nat))
  | getSubkeys (memory : Nat → Bool) (object : Nat)
  | getUids (memory : Nat → Bool) (object : Nat)
  | getSignatures (memory : Nat → Bool) (object : Nat)
  | readAttribute (object : Nat)
  | take (object : Nat)
  | drop (object : Nat)

/-- The objects a step uses are in a variable of the program, or in a list at least. -/
def World.step (shape : Nat → Shape) (w : World) : Label → Option World
  | .getKey granted key => some (w.contextGetKey granted key)
  | .keyIterNext granted key => some (w.keyiterNext granted key)
  | .getSigners memory ctx => w.contextGetSigners memory ctx
  | .setSigners memory ctx value =>
    if ∀ o ∈ value.filterMap id, o ∈ w.graph.live then some (w.contextSetSigners memory ctx value)
    else none
  | .getSubkeys memory o => if o ∈ w.held then w.keyGetSubkeys shape memory o else none
  | .getUids memory o => if o ∈ w.held then w.keyGetUids shape memory o else none
  | .getSignatures memory o =>
    if o ∈ w.held then w.userIdGetSignatures shape memory o else none
  | .readAttribute o => if o ∈ w.held then w.readAttribute o else none
  | .take o => if o ∈ w.graph.live then some (w.incref o) else none
  | .drop o => if o ∈ w.held then some (w.decref o) else none

/-- gpgme's keys have the given shapes. -/
def keyObjects (shape : Nat → Shape) : System World Label where
  init := fun w => w = World.start
  step := World.step shape

end Pygpgme.Source.KeyObjects
