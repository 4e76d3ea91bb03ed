import Mathlib.Algebra.Order.Group.Multiset
import Pygpgme.Source.Handles

/-!
# Every exit path balances its handles

A method holds what its variables hold: before the operation nothing of a data object
is given back, after it everything is. Each shape of the methods is shown to end with
nothing held, for every argument and every failure.
-/

set_option autoImplicit false

namespace Pygpgme.Guarantees.Handles
open Pygpgme.Library.Program Pygpgme.Library.Ownership
open Pygpgme.Source Pygpgme.Source.Python Pygpgme.Source.Arguments Pygpgme.Source.Memory
open Pygpgme.Source.Handles
open Pygpgme.Source.Error (GpgError noError)

/-- Each resource taken is given back exactly once, only what was taken is given back,
and no data object before the operation has returned. -/
structure Balanced (l : Ledger Resource) : Prop where
  once : ∀ t, Event.taken t ∈ l.log → l.log.count (.released t) = 1
  created : ∀ t, Event.released t ∈ l.log → Event.taken t ∈ l.log
  returned : ∀ later earlier, l.log = later ++ .marked :: earlier →
    ∀ t, Event.released t ∈ earlier → t.kind ≠ .data

/-! ## What is held -/

/-- Before the operation: what is owned, and no data object was given back. -/
def Holds (owned : Multiset (Token Resource)) (s : Process) : Prop :=
  s.ledger.owned = owned ∧ Early (· = Resource.data) s.ledger.log

/-- The same after it, or when there is none. -/
def Ends (owned : Multiset (Token Resource)) (s : Process) : Prop :=
  s.ledger.owned = owned ∧ Late (· = Resource.data) s.ledger.log

/-- After the operation is entered, less has to be known. -/
theorem Holds.ends {owned : Multiset (Token Resource)} {s : Process} (holds : Holds owned s) :
    Ends owned s :=
  ⟨holds.1, holds.2.late⟩

theorem start_holds : Holds 0 .start :=
  ⟨rfl, .nil⟩

/-- A function that ends with nothing of its own has released all it took. -/
theorem Ends.balanced {s : Process} (ends : Ends 0 s) : Balanced s.ledger where
  once := s.ledger.settled_iff.mpr ends.1
  created := fun _ => s.ledger.released_taken
  returned := ends.2

/-- What a variable that may be NULL owns. -/
def tokenOf : Option (Token Resource) → Multiset (Token Resource)
  | some t => {t}
  | none => 0

def tokensOf : DataVar → Multiset (Token Resource)
  | .handle h => h.file ::ₘ h.context ::ₘ h.closure ::ₘ {h.data}
  | .uninitialised => 0
  | .null => 0

/-- A variable that was never set, or set to NULL, owns nothing. -/
theorem Ends.empty {dh : DataVar} (empty : tokensOf dh = 0) {owned : Multiset (Token Resource)}
    {s : Process} (ends : Ends owned s) : Ends (tokensOf dh + owned) s := by
  rwa [empty, Multiset.zero_add]

/-- The variable was set. -/
def IsSet (dh : DataVar) : Prop := dh ≠ .uninitialised

/-! ## Single steps -/

/-- A release is right for what is owned, and for nothing else. -/
theorem release_ends {t : Token Resource} {owned : Multiset (Token Resource)} {s : Process}
    (ends : Ends (t ::ₘ owned) s) :
    achieves (release t) s fun _ s' => Ends owned s' := by
  have member : t ∈ s.ledger.owned := by
    rw [ends.1]
    exact Multiset.mem_cons_self t owned
  rw [achieves_release]
  refine ⟨member, ?_, ends.2.cons (by simp)⟩
  rw [Ledger.owned_release, ends.1, Multiset.erase_cons_head]

theorem releaseIfAny_ends {t : Option (Token Resource)} {owned : Multiset (Token Resource)}
    {s : Process} (ends : Ends (tokenOf t + owned) s) :
    achieves (releaseIfAny t) s fun _ s' => Ends owned s' := by
  cases t with
  | none =>
    rw [releaseIfAny, achieves_pure]
    rwa [tokenOf, Multiset.zero_add] at ends
  | some t => exact release_ends ends

/-- `gpgme_data_release` of NULL does nothing; of a variable that was never set it would be
undefined. -/
theorem dataRelease_ends {dh : DataVar} (set : IsSet dh) {owned : Multiset (Token Resource)}
    {s : Process} (ends : Ends (tokensOf dh + owned) s) :
    achieves (dataRelease dh) s fun _ s' => Ends owned s' := by
  cases dh with
  | uninitialised => exact absurd rfl set
  | null =>
    rw [dataRelease, achieves_pure]
    rwa [tokensOf, Multiset.zero_add] at ends
  | handle h =>
    simp only [tokensOf, Multiset.cons_add, Multiset.singleton_add] at ends
    simp only [dataRelease, releaseCb, achieves_bind]
    apply achieves_mono (release_ends ends)
    intro _ s₁ ends₁
    apply achieves_mono (release_ends ends₁)
    intro _ s₂ ends₂
    apply achieves_mono (release_ends ends₂)
    intro _ s₃ ends₃
    exact release_ends ends₃

theorem take_holds (kind : Resource) {owned : Multiset (Token Resource)} {s : Process}
    (holds : Holds owned s) :
    achieves (take kind) s fun t s' => t.kind = kind ∧ Holds (t ::ₘ owned) s' := by
  rw [achieves_take]
  refine ⟨rfl, ?_, holds.2.taken _⟩
  rw [Ledger.owned_take, holds.1]

theorem allocate_holds (fails : Nat → Bool) (kind : Resource) {owned : Multiset (Token Resource)}
    {s : Process} (holds : Holds owned s) :
    achieves (allocate fails kind) s fun r s' =>
      (r = none ∧ Holds owned s') ∨ ∃ t, r = some t ∧ t.kind = kind ∧ Holds (t ::ₘ owned) s' := by
  rw [achieves_allocate]
  split
  · exact .inl ⟨rfl, holds⟩
  · obtain ⟨same, taken⟩ := (achieves_take s kind _).mp (take_holds kind holds)
    exact .inr ⟨_, rfl, same, taken⟩

/-- Before the operation anything but a data object may be released. -/
theorem release_holds {t : Token Resource} (other : t.kind ≠ .data)
    {owned : Multiset (Token Resource)} {s : Process} (holds : Holds (t ::ₘ owned) s) :
    achieves (release t) s fun _ s' => Holds owned s' := by
  have member : t ∈ s.ledger.owned := by
    rw [holds.1]
    exact Multiset.mem_cons_self t owned
  rw [achieves_release]
  refine ⟨member, ?_, holds.2.released other⟩
  rw [Ledger.owned_release, holds.1, Multiset.erase_cons_head]

/-- All data objects are there when gpgme is entered. -/
theorem operate_ends {owned : Multiset (Token Resource)} {s : Process} (holds : Holds owned s) :
    achieves operate s fun _ s' => Ends owned s' := by
  rw [achieves_operate]
  exact ⟨holds.1, holds.2.marked⟩

theorem setPending_holds (e : PyExc) {owned : Multiset (Token Resource)} {s : Process}
    (holds : Holds owned s) :
    achieves (Memory.setPending e) s fun _ s' => Holds owned s' := by
  rw [Memory.achieves_setPending]
  exact holds

/-- Nothing more is held when `p` is over than when it began. -/
def Balances (p : Mem (Option PyObject)) : Prop :=
  ∀ owned s, Holds owned s → achieves p s fun _ s' => Ends owned s'

theorem balances_pure (r : Option PyObject) : Balances (pure r) := by
  intro owned s holds
  rw [achieves_pure]
  exact holds.ends

/-- A refusal comes before anything is taken. -/
theorem refuse_balances (e : PyExc) : Balances (refuse e) := by
  intro owned s holds
  exact achieves_bind_of (setPending_holds e holds) (fun _ s' => balances_pure none owned s')

/-! ## Data objects and key arrays -/

/-- What `pygpgme_data_new` leaves: after a failure nothing more is held, and a variable
that was set still is. -/
inductive Opened (before : DataVar) (owned : Multiset (Token Resource)) (s : Process) :
    Bool × DataVar → Prop where
  | failed (dh : DataVar) (empty : tokensOf dh = 0) (kept : IsSet before → IsSet dh)
      (holds : Holds owned s) : Opened before owned s (true, dh)
  | opened (dh : DataVar) (set : IsSet dh) (holds : Holds (tokensOf dh + owned) s) :
      Opened before owned s (false, dh)

section
variable (fails : Nat → Bool)

/-- `pygpgme_data_new` fails with nothing taken, or takes what its handle has. -/
theorem dataNew_opened (err : GpgError) (fp : PyObject) {before : DataVar}
    (empty : tokensOf before = 0) {owned : Multiset (Token Resource)} {s : Process}
    (holds : Holds owned s) :
    achieves (dataNew fails err fp before) s fun r s' => Opened before owned s' r := by
  unfold dataNew
  split
  · rw [achieves_pure]
    refine .opened _ (by simp [IsSet]) ?_
    rwa [tokensOf, Multiset.zero_add]
  · apply achieves_bind_of (allocate_holds fails .closure holds)
    rintro r s₁ (⟨rfl, holds₁⟩ | ⟨closure, rfl, kind, holds₁⟩)
    · simp only [achieves_bind, achieves_noMemory, achieves_pure]
      exact .failed _ empty id holds₁
    · rw [achieves_ite]
      split
      · have other : closure.kind ≠ .data := by simp [kind]
        apply achieves_bind_of (release_holds other holds₁)
        intro _ s₂ holds₂
        rw [achieves_pure]
        exact .failed _ rfl (by simp [IsSet]) holds₂
      · apply achieves_bind_of (take_holds .data holds₁)
        intro data s₂ post
        obtain ⟨_, holds₂⟩ := post
        apply achieves_bind_of (take_holds .file holds₂)
        intro file s₃ post
        obtain ⟨_, holds₃⟩ := post
        apply achieves_bind_of (take_holds .context holds₃)
        intro context s₄ post
        obtain ⟨_, holds₄⟩ := post
        rw [achieves_pure]
        refine .opened _ (by simp [IsSet]) ?_
        have same : tokensOf (.handle ⟨data, closure, file, context⟩) + owned =
            context ::ₘ file ::ₘ data ::ₘ closure ::ₘ owned := by
          simp only [tokensOf, Multiset.cons_add, Multiset.singleton_add]
          rw [Multiset.cons_swap file, Multiset.cons_swap closure]
        rwa [same]

/-- Source/Data has the same function without memory: they fail alike. -/
theorem dataNew_agrees (state : Error.ModState) (err : GpgError) (fp : PyObject)
    (before : DataVar) (s : Process) (t : Interp) (failed : Bool) :
    (achieves (dataNew (fun _ => false) err fp before) s fun r _ => r.1 = failed) ↔
      achieves (Data.dataNew state err fp) t fun r _ => r = failed := by
  unfold dataNew Data.dataNew
  split
  · simp
  · by_cases made : err = noError
    · simp [made]
    · simp [made]

end

/-- Refused or not, a key array leaves itself and the reference to its sequence, where
it got as far as these. -/
def TakesArray (array : Mem (Bool × Option (Token Resource) × Option (Token Resource))) : Prop :=
  ∀ owned s, Holds owned s → achieves array s fun r s' =>
    Holds (tokenOf r.2.2 + (tokenOf r.2.1 + owned)) s'

/-- The array has the sequence and the keys, or gave up both. -/
theorem keyArrayNew_takes {o : PyObject} (sound : o ≠ .sigNotation none)
    (text itemText : String) : TakesArray (keyArrayNew o text itemText) := by
  intro owned s holds
  unfold keyArrayNew
  split
  next stops => exact absurd ((sequenceFast_crash_iff o text).mp stops) sound
  next e _ =>
    apply achieves_bind_of (setPending_holds e holds)
    intro _ s₁ holds₁
    rw [achieves_pure]
    rwa [tokenOf, Multiset.zero_add, Multiset.zero_add]
  next items _ =>
    apply achieves_bind_of (take_holds .sequence holds)
    intro seq s₁ post
    obtain ⟨_, holds₁⟩ := post
    apply achieves_bind_of (take_holds .block holds₁)
    intro keys s₂ post
    obtain ⟨_, holds₂⟩ := post
    split
    next e _ =>
      apply achieves_bind_of (setPending_holds e holds₂)
      intro _ s₃ holds₃
      rw [achieves_pure]
      exact holds₃
    next =>
      rw [achieves_pure]
      exact holds₂

/-- The iteration over a `SigNotation` without fields ends the process. -/
theorem keyArrayNew_crash (text itemText : String) (s : Process)
    (Q : Bool × Option (Token Resource) × Option (Token Resource) → Process → Prop) :
    ¬ achieves (keyArrayNew (.sigNotation none) text itemText) s Q := by
  unfold keyArrayNew
  rw [(sequenceFast_crash_iff _ text).mpr rfl]
  exact (achieves_crash s Q).mp

/-- What is refused are the arguments that Source/Arguments refuses. -/
theorem keyArrayNew_refused_iff (o : PyObject) (text itemText : String) (s : Process) :
    (achieves (keyArrayNew o text itemText) s fun r _ => r.1 = true) ↔
      ∃ e, (sequenceFast o text).bind (fun items =>
        raising (keyArray itemText (visited items))) = .error (.raised e) := by
  unfold keyArrayNew
  cases sequenceFast o text with
  | error stop => cases stop <;> simp [Except.bind]
  | ok items =>
    simp only [achieves_bind, achieves_take, Except.bind]
    cases keyArray itemText (visited items) with
    | error e => simp [raising, Except.mapError]
    | ok keys => simp [raising, Except.mapError]

/-- `None` takes nothing and is no refusal. -/
theorem recipientArrayOrNone_takes {recp : PyObject} (sound : recp ≠ .sigNotation none) :
    TakesArray (recipientArrayOrNone recp) := by
  intro owned s holds
  unfold recipientArrayOrNone
  split
  · rw [achieves_pure]
    rwa [tokenOf, Multiset.zero_add, Multiset.zero_add]
  · exact keyArrayNew_takes sound _ _ owned s holds

/-! ## The ends of the methods -/

/-- The array and the reference go back together. -/
theorem importKeysOut_ends {seq keys : Option (Token Resource)} (result : Option PyObject)
    {owned : Multiset (Token Resource)} {s : Process}
    (ends : Ends (tokenOf keys + (tokenOf seq + owned)) s) :
    achieves (importKeysOut seq keys result) s fun _ s' => Ends owned s' := by
  apply achieves_bind_of (releaseIfAny_ends ends)
  intro _ s₁ ends₁
  apply achieves_bind_of (releaseIfAny_ends ends₁)
  intro _ s₂ ends₂
  rw [achieves_pure]
  exact ends₂

/-- Each cleanup label releases what is set by then, in any case. -/
theorem exportKeysOut_ends {seq keys : Option (Token Resource)} {keydata : DataVar}
    (set : IsSet keydata) (result : Option PyObject) {owned : Multiset (Token Resource)}
    {s : Process} (ends : Ends (tokensOf keydata + (tokenOf keys + (tokenOf seq + owned))) s) :
    achieves (exportKeysOut seq keys keydata result) s fun _ s' => Ends owned s' := by
  apply achieves_bind_of (dataRelease_ends set ends)
  intro _ s₁ ends₁
  exact importKeysOut_ends result ends₁

/-- Here the data objects go back after what was taken before them. -/
theorem encryptEnd_ends {seq keys : Option (Token Resource)} {plain cipher : DataVar}
    (plainSet : IsSet plain) (cipherSet : IsSet cipher) (result : Option PyObject)
    {owned : Multiset (Token Resource)} {s : Process}
    (ends : Ends (tokensOf cipher + (tokensOf plain + (tokenOf keys + (tokenOf seq + owned)))) s) :
    achieves (encryptEnd seq keys plain cipher result) s fun _ s' => Ends owned s' := by
  have order : tokensOf cipher + (tokensOf plain + (tokenOf keys + (tokenOf seq + owned))) =
      tokenOf keys + (tokenOf seq + (tokensOf plain + (tokensOf cipher + owned))) := by
    simp only [add_left_comm]
  rw [order] at ends
  apply achieves_bind_of (releaseIfAny_ends ends)
  intro _ s₁ ends₁
  apply achieves_bind_of (releaseIfAny_ends ends₁)
  intro _ s₂ ends₂
  apply achieves_bind_of (dataRelease_ends plainSet ends₂)
  intro _ s₃ ends₃
  apply achieves_bind_of (dataRelease_ends cipherSet ends₃)
  intro _ s₄ ends₄
  rw [achieves_pure]
  exact ends₄

/-! ## The methods -/

section
variable (fails : Nat → Bool) (created : Nat → GpgError) (err : GpgError)
variable (result : Option PyObject)

/-- The shape of the methods with one data object. -/
theorem withData_balances (py : PyObject) : Balances (withData fails created err result py) := by
  intro owned s holds
  apply achieves_bind_of (dataNew_opened fails (created 0) py rfl holds)
  rintro _ s₁ (⟨_, _, _, holds₁⟩ | ⟨data, set, holds₁⟩)
  · exact balances_pure none owned s₁ holds₁
  · apply achieves_bind_of (operate_ends holds₁)
    intro _ s₂ ends₂
    apply achieves_bind_of (dataRelease_ends set ends₂)
    intro _ s₃ ends₃
    rw [achieves_ite, achieves_pure, achieves_pure, ite_self]
    exact ends₃

/-- With two, the first is released when the second cannot be made. -/
theorem withTwoData_balances (pyFirst pySecond : PyObject) :
    Balances (withTwoData fails created err result pyFirst pySecond) := by
  intro owned s holds
  apply achieves_bind_of (dataNew_opened fails (created 0) pyFirst rfl holds)
  rintro _ s₁ (⟨_, _, _, holds₁⟩ | ⟨first, firstSet, holds₁⟩)
  · exact balances_pure none owned s₁ holds₁
  · apply achieves_bind_of (dataNew_opened fails (created 1) pySecond rfl holds₁)
    rintro _ s₂ (⟨_, _, _, holds₂⟩ | ⟨second, secondSet, holds₂⟩)
    · apply achieves_bind_of (dataRelease_ends firstSet holds₂.ends)
      intro _ s₃ ends₃
      rw [achieves_pure]
      exact ends₃
    · apply achieves_bind_of (operate_ends holds₂)
      intro _ s₃ ends₃
      rw [add_left_comm] at ends₃
      apply achieves_bind_of (dataRelease_ends firstSet ends₃)
      intro _ s₄ ends₄
      apply achieves_bind_of (dataRelease_ends secondSet ends₄)
      intro _ s₅ ends₅
      rw [achieves_ite, achieves_pure, achieves_pure, ite_self]
      exact ends₅

theorem encryptWith_balances
    {array : Mem (Bool × Option (Token Resource) × Option (Token Resource))}
    (takes : TakesArray array) (pyPlain pyCipher : PyObject) :
    Balances (encryptWith fails created err result array pyPlain pyCipher) := by
  intro owned s holds
  apply achieves_bind_of (takes owned s holds)
  rintro ⟨failed, seq, keys⟩ s₁ holds₁
  have null : IsSet .null := by simp [IsSet]
  rw [achieves_ite]
  split
  · exact encryptEnd_ends null null none ((holds₁.ends.empty rfl).empty rfl)
  · apply achieves_bind_of (dataNew_opened fails (created 0) pyPlain rfl holds₁)
    rintro _ s₂ (⟨plain, empty, kept, holds₂⟩ | ⟨plain, plainSet, holds₂⟩)
    · exact encryptEnd_ends (kept null) null none ((holds₂.ends.empty empty).empty rfl)
    · apply achieves_bind_of (dataNew_opened fails (created 1) pyCipher rfl holds₂)
      rintro _ s₃ (⟨cipher, empty, kept, holds₃⟩ | ⟨cipher, cipherSet, holds₃⟩)
      · exact encryptEnd_ends plainSet (kept null) none (holds₃.ends.empty empty)
      · apply achieves_bind_of (operate_ends holds₃)
        intro _ s₄ ends₄
        rw [achieves_ite]
        split
        · exact encryptEnd_ends plainSet cipherSet none ends₄
        · exact encryptEnd_ends plainSet cipherSet result ends₄

/-- `encrypt` and `encrypt_sign` go to their label even for wrong arguments. -/
theorem encryptEnd_balances : Balances (encryptEnd none none .null .null none) := by
  intro owned s holds
  have null : IsSet .null := by simp [IsSet]
  apply encryptEnd_ends null null
  simpa [tokensOf, tokenOf] using holds.ends

theorem setPending_balances (e : PyExc) {p : Mem (Option PyObject)} (balances : Balances p) :
    Balances (Memory.setPending e >>= fun _ => p) := by
  intro owned s holds
  exact achieves_bind_of (setPending_holds e holds) (fun _ s' => balances owned s')

theorem contextEncrypt_balances {args : List PyObject}
    (sound : Method.encrypt.sequence args ≠ some (.sigNotation none)) :
    Balances (contextEncrypt fails created err result args) := by
  unfold contextEncrypt
  split
  next e _ => exact setPending_balances e encryptEnd_balances
  next recp plain cipher parsed =>
    have sound : recp ≠ .sigNotation none := by
      simpa [Method.sequence, parsed, Except.toOption] using sound
    exact encryptWith_balances fails created err result (recipientArrayOrNone_takes sound)
      plain cipher

theorem contextEncryptSign_balances {args : List PyObject}
    (sound : Method.encryptSign.sequence args ≠ some (.sigNotation none)) :
    Balances (contextEncryptSign fails created err result args) := by
  unfold contextEncryptSign
  split
  next e _ => exact setPending_balances e encryptEnd_balances
  next recp plain cipher parsed =>
    have sound : recp ≠ .sigNotation none := by
      simpa [Method.sequence, parsed, Except.toOption] using sound
    exact encryptWith_balances fails created err result (keyArrayNew_takes sound _ _) plain cipher

theorem contextVerify_balances (args : List PyObject) :
    Balances (contextVerify fails created err result args) := by
  unfold contextVerify
  split
  next e _ => exact refuse_balances e
  next pySig pySignedText pyPlaintext _ =>
    intro owned s holds
    apply achieves_bind_of (dataNew_opened fails (created 0) pySig rfl holds)
    rintro _ s₁ (⟨_, _, _, holds₁⟩ | ⟨sig, sigSet, holds₁⟩)
    · exact balances_pure none owned s₁ holds₁
    · apply achieves_bind_of (dataNew_opened fails (created 1) pySignedText rfl holds₁)
      rintro _ s₂ (⟨_, _, _, holds₂⟩ | ⟨signedText, textSet, holds₂⟩)
      · apply achieves_bind_of (dataRelease_ends sigSet holds₂.ends)
        intro _ s₃ ends₃
        rw [achieves_pure]
        exact ends₃
      · apply achieves_bind_of (dataNew_opened fails (created 2) pyPlaintext rfl holds₂)
        rintro _ s₃ (⟨_, _, _, holds₃⟩ | ⟨plaintext, plaintextSet, holds₃⟩)
        · have ends₃ := holds₃.ends
          rw [add_left_comm] at ends₃
          apply achieves_bind_of (dataRelease_ends sigSet ends₃)
          intro _ s₄ ends₄
          apply achieves_bind_of (dataRelease_ends textSet ends₄)
          intro _ s₅ ends₅
          rw [achieves_pure]
          exact ends₅
        · apply achieves_bind_of (operate_ends holds₃)
          intro _ s₄ ends₄
          have order : tokensOf plaintext + (tokensOf signedText + (tokensOf sig + owned)) =
              tokensOf sig + (tokensOf signedText + (tokensOf plaintext + owned)) := by
            simp only [add_left_comm]
          rw [order] at ends₄
          apply achieves_bind_of (dataRelease_ends sigSet ends₄)
          intro _ s₅ ends₅
          apply achieves_bind_of (dataRelease_ends textSet ends₅)
          intro _ s₆ ends₆
          apply achieves_bind_of (dataRelease_ends plaintextSet ends₆)
          intro _ s₇ ends₇
          rw [achieves_ite, achieves_pure, achieves_pure, ite_self]
          exact ends₇

theorem contextImportKeys_balances {args : List PyObject}
    (sound : Method.importKeys.sequence args ≠ some (.sigNotation none)) :
    Balances (contextImportKeys err result args) := by
  unfold contextImportKeys
  split
  next e _ => exact refuse_balances e
  next pyKeys parsed =>
    have sound : pyKeys ≠ .sigNotation none := by
      simpa [Method.sequence, parsed, Except.toOption] using sound
    intro owned s holds
    apply achieves_bind_of (keyArrayNew_takes sound _ _ owned s holds)
    rintro ⟨failed, seq, keys⟩ s₁ holds₁
    rw [achieves_ite]
    split
    · exact importKeysOut_ends none holds₁.ends
    · apply achieves_bind_of (operate_ends holds₁)
      intro _ s₂ ends₂
      rw [achieves_ite]
      split
      · exact importKeysOut_ends none ends₂
      · exact importKeysOut_ends result ends₂

theorem contextExportKeys_balances {args : List PyObject}
    (sound : Method.exportKeys.sequence args ≠ some (.sigNotation none)) :
    Balances (contextExportKeys fails created err result args) := by
  unfold contextExportKeys
  split
  next e _ => exact refuse_balances e
  next pyKeys pyKeydata _ parsed =>
    have sound : pyKeys ≠ .sigNotation none := by
      simpa [Method.sequence, parsed, Except.toOption] using sound
    intro owned s holds
    have null : IsSet .null := by simp [IsSet]
    apply achieves_bind_of (keyArrayNew_takes sound _ _ owned s holds)
    rintro ⟨failed, seq, keys⟩ s₁ holds₁
    rw [achieves_ite]
    split
    · exact exportKeysOut_ends null none (holds₁.ends.empty rfl)
    · apply achieves_bind_of (dataNew_opened fails (created 0) pyKeydata rfl holds₁)
      rintro _ s₂ (⟨keydata, empty, kept, holds₂⟩ | ⟨keydata, set, holds₂⟩)
      · exact exportKeysOut_ends (kept null) none (holds₂.ends.empty empty)
      · apply achieves_bind_of (operate_ends holds₂)
        intro _ s₃ ends₃
        rw [achieves_ite]
        split
        · exact exportKeysOut_ends set none ends₃
        · exact exportKeysOut_ends set result ends₃

theorem contextGenkey_balances (args : List PyObject) :
    Balances (contextGenkey fails created err result args) := by
  unfold contextGenkey
  split
  next e _ => exact refuse_balances e
  next pyPubkey pySeckey _ =>
    intro owned s holds
    apply achieves_bind_of (dataNew_opened fails (created 0) pyPubkey rfl holds)
    rintro _ s₁ (⟨_, _, _, holds₁⟩ | ⟨pubkey, pubkeySet, holds₁⟩)
    · exact balances_pure none owned s₁ holds₁
    · apply achieves_bind_of (dataNew_opened fails (created 1) pySeckey rfl holds₁)
      rintro _ s₂ (⟨_, _, _, holds₂⟩ | ⟨seckey, seckeySet, holds₂⟩)
      · apply achieves_bind_of (dataRelease_ends pubkeySet holds₂.ends)
        intro _ s₃ ends₃
        rw [achieves_pure]
        exact ends₃
      · apply achieves_bind_of (operate_ends holds₂)
        intro _ s₃ ends₃
        apply achieves_bind_of (dataRelease_ends seckeySet ends₃)
        intro _ s₄ ends₄
        apply achieves_bind_of (dataRelease_ends pubkeySet ends₄)
        intro _ s₅ ends₅
        rw [achieves_ite, achieves_pure, achieves_pure, ite_self]
        exact ends₅

theorem contextDecrypt_balances (args : List PyObject) :
    Balances (contextDecrypt fails created err result args) := by
  unfold contextDecrypt
  split
  next e _ => exact refuse_balances e
  next => exact withTwoData_balances fails created err result _ _

theorem contextDecryptVerify_balances (args : List PyObject) :
    Balances (contextDecryptVerify fails created err result args) := by
  unfold contextDecryptVerify
  split
  next e _ => exact refuse_balances e
  next => exact withTwoData_balances fails created err result _ _

theorem contextSign_balances (args : List PyObject) :
    Balances (contextSign fails created err result args) := by
  unfold contextSign
  split
  next e _ => exact refuse_balances e
  next => exact withTwoData_balances fails created err result _ _

theorem contextImport_balances (args : List PyObject) :
    Balances (contextImport fails created err result args) := by
  unfold contextImport
  split
  next e _ => exact refuse_balances e
  next => exact withData_balances fails created err result _

theorem contextExport_balances {args : List PyObject}
    (sound : Method.«export».sequence args ≠ some (.sigNotation none)) :
    Balances (contextExport fails created err result args) := by
  unfold contextExport
  split
  next stops => exact absurd ((exportArgs_crash_iff args).mp stops) sound
  next e _ => exact refuse_balances e
  next => exact withData_balances fails created err result _

theorem contextEdit_balances (args : List PyObject) :
    Balances (contextEdit fails created err result args) := by
  unfold contextEdit
  split
  next e _ => exact refuse_balances e
  next => exact withData_balances fails created err result _

theorem contextCardEdit_balances (args : List PyObject) :
    Balances (contextCardEdit fails created err result args) := by
  unfold contextCardEdit
  split
  next e _ => exact refuse_balances e
  next => exact withData_balances fails created err result _

/-- One proof for each method: what is set before each exit is released after it. -/
theorem call_balances (method : Method) {args : List PyObject}
    (sound : method.sequence args ≠ some (.sigNotation none)) :
    Balances (method.call fails created err result args) := by
  cases method with
  | encrypt => exact contextEncrypt_balances fails created err result sound
  | encryptSign => exact contextEncryptSign_balances fails created err result sound
  | decrypt => exact contextDecrypt_balances fails created err result args
  | decryptVerify => exact contextDecryptVerify_balances fails created err result args
  | sign => exact contextSign_balances fails created err result args
  | verify => exact contextVerify_balances fails created err result args
  | import_ => exact contextImport_balances fails created err result args
  | importKeys => exact contextImportKeys_balances err result sound
  | «export» => exact contextExport_balances fails created err result sound
  | exportKeys => exact contextExportKeys_balances fails created err result sound
  | genkey => exact contextGenkey_balances fails created err result args
  | edit => exact contextEdit_balances fails created err result args
  | cardEdit => exact contextCardEdit_balances fails created err result args

/-- A method that iterates over a `SigNotation` without fields does not come back. -/
theorem call_crashes {method : Method} {args : List PyObject}
    (uninitialised : method.sequence args = some (.sigNotation none)) (s : Process)
    (Q : Option PyObject → Process → Prop) :
    ¬ achieves (method.call fails created err result args) s Q := by
  cases method with
  | encrypt =>
    obtain ⟨⟨recp, plain, cipher⟩, parsed, rfl⟩ := toOption_map_eq_some_iff.mp uninitialised
    simp [Method.call, contextEncrypt, parsed, encryptWith, recipientArrayOrNone,
      recipientArray, keyArrayNew_crash]
  | encryptSign =>
    obtain ⟨⟨recp, plain, cipher⟩, parsed, rfl⟩ := toOption_map_eq_some_iff.mp uninitialised
    simp [Method.call, contextEncryptSign, parsed, encryptWith, recipientArray,
      keyArrayNew_crash]
  | importKeys =>
    unfold Method.sequence at uninitialised
    cases parsed : oneObject args with
    | error e => simp [parsed, Except.toOption] at uninitialised
    | ok pyKeys =>
      simp only [parsed, Except.toOption, Option.some.injEq] at uninitialised
      simp [Method.call, contextImportKeys, parsed, uninitialised, keySequenceArray,
        keyArrayNew_crash]
  | «export» =>
    have stops := (exportArgs_crash_iff args).mpr uninitialised
    simp [Method.call, contextExport, stops]
  | exportKeys =>
    obtain ⟨⟨pyKeys, pyKeydata, mode⟩, parsed, rfl⟩ :=
      toOption_map_eq_some_iff.mp uninitialised
    simp [Method.call, contextExportKeys, parsed, keySequenceArray, keyArrayNew_crash]
  | _ => cases uninitialised

end

/-- Whatever fails, whatever the arguments are: what the method took was given back once
when it comes back, data objects only after the operation. It does come back, unless
what it iterates over is a `SigNotation` without fields. -/
theorem handles_balanced (fails : Nat → Bool) (created : Nat → GpgError) (err : GpgError)
    (result : Option PyObject) (method : Method) (args : List PyObject) :
    match method.sequence args with
    | some (.sigNotation none) =>
      ¬ achieves (method.call fails created err result args) .start fun _ _ => True
    | _ =>
      achieves (method.call fails created err result args) .start
        fun _ s => Balanced s.ledger := by
  split
  next uninitialised => exact call_crashes fails created err result uninitialised .start _
  next sound =>
    apply achieves_mono
      (call_balances fails created err result method sound 0 .start start_holds)
    intro _ s ends
    exact ends.balanced

end Pygpgme.Guarantees.Handles
