import Pygpgme.Source.ProgramDiscipline

/-!
# The lock and thread-state protocol of a Context, and where it blocks itself

Both results are about every interleaving of any number of threads. The first
is unconditional on what the threads do as long as no callback and no destructor
uses a locking entry point of the same Context; the second says that this
condition is exact for a thread never to wait for a mutex that is held on its
own behalf. Key iterators are allowed everywhere: they take no mutex.
-/

set_option autoImplicit false

namespace Pygpgme.Guarantees.LockProtocol
open Pygpgme.Library.LockMachine Pygpgme.Library.Transition Pygpgme.Source.Threads

variable {Tid : Type} [DecidableEq Tid]

/-- What the code expects of `mutex`, `tstate` and the interpreter lock. -/
structure ProtocolHolds (s : World Tid) : Prop where
  asserts : ∀ t, ¬ AssertFails s t
  published : ∀ x, s.tstate = some x →
    s.holding x = some .blocking ∧ ∀ u, s.holding u ≠ none → u = x
  attached : ∀ owner tstate, s.gil = some (owner, tstate) → tstate = owner
  exclusive : ∀ t u, s.holding t ≠ none → s.holding u ≠ none → t = u
  unlocked : s.locked = false → s.tstate = none ∧ ∀ t, s.holding t = none
  progress : (∃ t, s.code t ≠ []) → ∃ t s', step Ctx.act s t = some s'

/-- The invariant behind the protocol: views that agree with the shared state. -/
theorem tracked_flat {prog : Tid → Prog .python} (flat : ∀ t, (prog t).Flat false)
    {s : World Tid} (reached : Reachable (context prog) s) :
    ∃ v bs, Tracks false Monitor.blank v bs s :=
  Tracks.reach (fun t => flat_thread_follows (flat t)) (fun _ => Monitor.blank_along _ _) reached

omit [DecidableEq Tid] in
/-- A thread whose code follows the discipline never stands before a false assertion. -/
theorem assert_holds {v : Tid → View} {bs : Tid → Unit} {s : World Tid} {nested : Bool}
    (h : Tracks nested Monitor.blank v bs s) (t : Tid) : ¬ AssertFails s t := by
  rintro ⟨set, rest, hcode, fails⟩
  have follows := h.follows t
  simp only [hcode, Follows] at follows
  cases allowed : (v t).next (.assertState set : Instr Act) with
  | none =>
    simp only [allowed] at follows
    exact follows.2
  | some v' =>
    simp only [View.next] at allowed
    split at allowed
    next stored =>
      simp [(h.agrees.mutex.tstate t).mpr stored] at fails
    next path taken =>
      obtain ⟨x, hx⟩ := Option.ne_none_iff_exists'.mp (by simpa using fails)
      have stored := (h.agrees.mutex.tstate x).mp hx
      have same := h.agrees.mutex.unique x t (by simp [stored]) (by simp [taken])
      simp [same, taken] at stored
    · cases allowed

omit [DecidableEq Tid] in
theorem holding_iff {v : Tid → View} {s : World Tid} (h : Agrees v s) (t : Tid) :
    s.holding t ≠ none ↔ (v t).hold ≠ .free := by
  rw [h.mutex.holding t, ne_eq, Hold.path_eq_none]

/-- For any number of threads sharing one Context, each running any sequence of
accessors and blocking operations with any callbacks that leave the Context
alone, every reachable state of every interleaving keeps the protocol. -/
theorem lock_protocol (prog : Tid → Prog .python) (flat : ∀ t, (prog t).Flat false)
    (s : World Tid) (reached : Reachable (context prog) s) : ProtocolHolds s := by
  obtain ⟨v, bs, h⟩ := tracked_flat flat reached
  have exclusive : ∀ t u, s.holding t ≠ none → s.holding u ≠ none → t = u := by
    intro t u ht hu
    exact h.agrees.mutex.unique t u ((holding_iff h.agrees t).mp ht)
      ((holding_iff h.agrees u).mp hu)
  refine ⟨assert_holds h, ?_, ?_, exclusive, ?_, h.progress⟩
  · intro x hx
    have stored := (h.agrees.mutex.tstate x).mp hx
    have holds : s.holding x = some .blocking := by
      rw [h.agrees.mutex.holding x, stored]
      rfl
    exact ⟨holds, fun u hu => exclusive u x hu (by simp [holds])⟩
  · intro owner tstate hgil
    exact h.agrees.attached _ hgil
  · intro unlocked
    have free := h.agrees.mutex.free_of_unlocked unlocked
    refine ⟨Option.eq_none_iff_forall_ne_some.mpr fun x hx => ?_, fun t => ?_⟩
    · have stored := (h.agrees.mutex.tstate x).mp hx
      rw [free] at stored
      cases stored
    · rw [h.agrees.mutex.holding t, free t]
      rfl

/-- A thread signs with a passphrase callback that lets other threads run, and
another reads an attribute meanwhile. -/
def signAndRead : Bool → Prog .python
  | true =>
    .operation .sign ⟨false, 0, 0, 1, 0⟩ (.callback .passphrase (.switch .done) .done) .done
  | false => .accessor .getArmor .done .done

theorem signAndRead_flat (t : Bool) : (signAndRead t).Flat false := by
  cases t <;> simp [signAndRead, Prog.Flat, Accessor.destructs]

/-- The schedule stops inside the callback, with the other thread at the mutex. -/
theorem lock_protocol_signAndRead :
    ∃ s, run (context signAndRead) (start (fun t => threadCode (signAndRead t)) Ctx.new)
        [true, true, true, true, true, true, true, true, true, true, false, false] = some s ∧
      s.tstate = some true ∧ ProtocolHolds s := by
  have executed : ((run (context signAndRead)
      (start (fun t => threadCode (signAndRead t)) Ctx.new)
      [true, true, true, true, true, true, true, true, true, true, false, false]).map
        fun s => s.tstate) = some (some true) := by decide
  obtain ⟨s, hs, published⟩ := Option.map_eq_some_iff.mp executed
  exact ⟨s, hs, published, lock_protocol signAndRead signAndRead_flat s
    (Reachable.of_run _ (.init rfl) hs)⟩

/-- A program that nests runs alone up to the second `acquire`. -/
theorem self_wait_of_nested (prog : Tid → Prog .python) {t : Tid}
    (nested : ¬ (prog t).Flat false) :
    ∃ s, Reachable (context prog) s ∧ WaitsForItself s t := by
  obtain ⟨pre, path, post, v', hcode, allowed, held⟩ :=
    (prog t).nested_reaches (fun _ => rfl) (by simp) nested
  have initial : Reachable (context prog) (start (fun t => threadCode (prog t)) Ctx.new) :=
    .init rfl
  have split : (start (fun t => threadCode (prog t)) (Ctx.new : Ctx Tid)).code t =
      (.restoreThread :: pre) ++ (.acquire path :: (post ++ [.saveThread])) := by
    simp [start, threadCode, hcode]
  have arrives : View.idle.run (.restoreThread :: pre) = some v' := allowed
  obtain ⟨s, reached, waits, agrees⟩ :=
    (Agrees.start _ Ctx.new).solo (fun _ _ => ⟨rfl, rfl⟩) initial split arrives
  refine ⟨s, reached, ⟨path, post ++ [.saveThread], waits⟩, ?_⟩
  have view := (holding_iff agrees t).mpr
  simp only [Function.update_self] at view
  exact view held

/-- A thread waits for the context mutex while that mutex is held on its own
behalf in no reachable state, if and only if nothing that runs under the mutex
(a passphrase, progress, edit, read, write or seek callback, or the destructor of
a replaced callback) uses an attribute or method of the Context that takes it. -/
theorem no_self_wait_iff (prog : Tid → Prog .python) :
    (∀ s, Reachable (context prog) s → ∀ t, ¬ WaitsForItself s t) ↔
      ∀ t, (prog t).Flat false := by
  constructor
  · intro free t
    by_contra nested
    obtain ⟨s, reached, waits⟩ := self_wait_of_nested prog nested
    exact free s reached t waits
  · rintro flat s reached t ⟨⟨path, rest, hcode⟩, held⟩
    obtain ⟨v, bs, h⟩ := tracked_flat flat reached
    have follows := h.follows t
    have taken := (holding_iff h.agrees t).mp held
    simp [hcode, Follows, View.next, taken] at follows

/-- A `passphrase_cb` that reads `ctx.armor`. -/
def passphraseReadsArmor : Unit → Prog .python := fun _ =>
  .operation .sign ⟨false, 0, 0, 1, 0⟩
    (.callback .passphrase (.accessor .getArmor .done .done) .done) .done

theorem passphraseReadsArmor_waits_for_itself :
    ¬ ∀ s, Reachable (context passphraseReadsArmor) s → ∀ t, ¬ WaitsForItself s t := by
  intro free
  have executed : ((run (context passphraseReadsArmor)
      (start (fun t => threadCode (passphraseReadsArmor t)) Ctx.new)
      (List.replicate 10 ())).map fun s => ((s.code ()).head?, s.holding ())) =
        some (some (.acquire .plain), some .blocking) := by decide
  obtain ⟨s, hs, stands⟩ := Option.map_eq_some_iff.mp executed
  simp only [Prod.mk.injEq] at stands
  obtain ⟨rest, hcode⟩ := List.head?_eq_some_iff.mp stands.1
  exact free s (Reachable.of_run _ (.init rfl) hs) ()
    ⟨⟨.plain, rest, hcode⟩, by simp [stands.2]⟩

end Pygpgme.Guarantees.LockProtocol
