import Pygpgme.Library.Ownership
import Pygpgme.Source.Python

/-!
# Memory and references of one call

What a call owns is kept in a ledger: references to Python objects, blocks of the C
heap, gpgme data objects. Giving back what is not owned crashes the process. Which
allocations fail is a parameter; the attempts are counted.
-/

set_option autoImplicit false

namespace Pygpgme.Source.Memory
open Pygpgme.Library.Program Pygpgme.Library.Ownership Pygpgme.Source.Python

inductive Resource where
  /-- A reference to the bytes of a pattern. -/
  | bytes
  /-- The reference that `PySequence_Fast` returns. -/
  | sequence
  /-- What `malloc`, `calloc`, `strdup` and `PyMem_Calloc` return. -/
  | block
  /-- A `struct pygpgme_data`. -/
  | closure
  /-- A `gpgme_data_t`. -/
  | data
  /-- The references to the file and the context that come with a data object. -/
  | file | context
  deriving DecidableEq

structure Process where
  pending : Option PyExc
  attempts : Nat
  ledger : Ledger Resource

/-- As a method is called. -/
def Process.start : Process := ⟨none, 0, Ledger.empty⟩

abbrev Mem := StateProgram Process

def setPending (e : PyExc) : Mem Unit := modify fun s => { s with pending := some e }

/-- The classes that the binding tests for are no bases of `MemoryError`. -/
def memoryError : PyExc := ⟨.other false false false, [], []⟩

/-- `PyErr_NoMemory` -/
def noMemory : Mem Unit := setPending memoryError

def take (kind : Resource) : Mem (Token Resource) := fun s =>
  some ((s.ledger.take kind).1, { s with ledger := (s.ledger.take kind).2 })

def release (t : Token Resource) : Mem Unit := fun s =>
  if owned : t ∈ s.ledger.owned then some ((), { s with ledger := s.ledger.release t owned })
  else none

/-- `Py_XDECREF`, and `free` and `PyMem_Free`, which accept NULL. -/
def releaseIfAny : Option (Token Resource) → Mem Unit
  | some t => release t
  | none => return

/-- An attempt to allocate. -/
def allocates (fails : Nat → Bool) : Mem Bool := fun s =>
  some (!fails s.attempts, { s with attempts := s.attempts + 1 })

def allocate (fails : Nat → Bool) (kind : Resource) : Mem (Option (Token Resource)) := do
  if ← allocates fails then
    let t ← take kind
    return some t
  else return none

/-- gpgme runs an operation. -/
def operate : Mem Unit := modify fun s => { s with ledger := s.ledger.mark }

section
variable (s : Process)

@[simp] theorem achieves_setPending (e : PyExc) (Q : Unit → Process → Prop) :
    achieves (setPending e) s Q ↔ Q () { s with pending := some e } :=
  achieves_modify _ s Q

@[simp] theorem achieves_noMemory (Q : Unit → Process → Prop) :
    achieves noMemory s Q ↔ Q () { s with pending := some memoryError } :=
  achieves_modify _ s Q

@[simp] theorem achieves_take (kind : Resource) (Q : Token Resource → Process → Prop) :
    achieves (take kind) s Q ↔
      Q (s.ledger.take kind).1 { s with ledger := (s.ledger.take kind).2 } :=
  achieves_of_run rfl Q

@[simp] theorem achieves_release (t : Token Resource) (Q : Unit → Process → Prop) :
    achieves (release t) s Q ↔
      ∃ owned : t ∈ s.ledger.owned, Q () { s with ledger := s.ledger.release t owned } := by
  by_cases owned : t ∈ s.ledger.owned
  · have ran : (release t).run s = some ((), { s with ledger := s.ledger.release t owned }) :=
      dif_pos owned
    rw [achieves_of_run ran]
    exact ⟨fun post => ⟨owned, post⟩, fun ⟨_, post⟩ => post⟩
  · have stuck : (release t).run s = none := dif_neg owned
    simp [achieves, stuck, owned]

@[simp] theorem achieves_allocates (fails : Nat → Bool) (Q : Bool → Process → Prop) :
    achieves (allocates fails) s Q ↔
      Q (!fails s.attempts) { s with attempts := s.attempts + 1 } :=
  achieves_of_run rfl Q

@[simp] theorem achieves_allocate (fails : Nat → Bool) (kind : Resource)
    (Q : Option (Token Resource) → Process → Prop) :
    achieves (allocate fails kind) s Q ↔
      if fails s.attempts then Q none { s with attempts := s.attempts + 1 }
      else Q (some (s.ledger.take kind).1)
        { s with attempts := s.attempts + 1, ledger := (s.ledger.take kind).2 } := by
  cases failing : fails s.attempts <;> simp [allocate, failing]

@[simp] theorem achieves_operate (Q : Unit → Process → Prop) :
    achieves operate s Q ↔ Q () { s with ledger := s.ledger.mark } :=
  achieves_modify _ s Q

end

end Pygpgme.Source.Memory
