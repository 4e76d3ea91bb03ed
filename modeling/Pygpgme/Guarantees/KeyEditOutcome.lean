import Pygpgme.Guarantees.ErrorCodes
import Pygpgme.Guarantees.KeyDialogue

/-!
# What the outcome of a key edit tells its caller

A decorated function returns as soon as no call of its callback failed. The engine may
stop asking before the edit is done, and then it returns all the same. A notice that the
callback does not skip ends the generator, and one that cannot be decoded fails before the
callback is called, so that an edit fails which would have succeeded without it. Both are
stated with the exact condition.
-/

set_option autoImplicit false

namespace Pygpgme.Guarantees.KeyEditOutcome
open Pygpgme.Library.Generator Pygpgme.Source.KeyEdit Pygpgme.Guarantees.KeyDialogue
open Pygpgme.Library.BitField (narrow)
open Pygpgme.Source.Python (Bytes FitsLong intMax longMin longMax)
open Pygpgme.Source.Error Pygpgme.Guarantees.ErrorCodes

/-! ## When the function returns -/

variable {state : ModState}

/-- The `errno` of a failed write fits into a `long` and is converted as it is. -/
theorem pyerrorCode_osError (errno : Errno) :
    pyerrorCode state (EditError.osError errno).toExc =
      state.errnoCodes.code (narrow 32 errno.value) := by
  have positive := errno.positive
  have bounded := errno.isInt
  have fits : FitsLong errno.value := by
    unfold FitsLong longMin longMax
    unfold intMax at bounded
    omega
  change state.errnoCodes.code (narrow 32 (longValue errno.value)) = _
  rw [longValue, if_pos fits]

/-- Nothing the callback raises is lost on its way through gpgme. -/
theorem code_toExc (opEdit : OpEdit state) (error : EditError) :
    errCode (pyerrorCode state error.toExc) ≠ 0 ∧
      errCode (pyerrorCode state error.toExc) ≠ falseCode := by
  cases error with
  | osError errno =>
    rw [pyerrorCode_osError]
    refine ⟨fun lost => ?_, opEdit.handled _⟩
    have multiple := (noCode_errno state.errnoCodes errno.value).mp lost
    have positive := errno.positive
    have bounded := errno.isInt
    unfold intMax at bounded
    omega
  | general =>
    change errCode (errMakeLong (longValue 0) (longValue 1)) ≠ 0 ∧
      errCode (errMakeLong (longValue 0) (longValue 1)) ≠ falseCode
    decide
  | assertion | unexpectedState | unicodeDecode | unicodeEncode =>
    change errCode (gpgmeError generalCode) ≠ 0 ∧ errCode (gpgmeError generalCode) ≠ falseCode
    decide

theorem opEdit_eq_noError (opEdit : OpEdit state) (answers : List Answer) :
    opEdit.run (answers.map (·.code state)) = noError ↔ ∀ a ∈ answers, a.raised = none := by
  constructor
  · intro quiet a member
    cases raised : a.raised with
    | none => rfl
    | some error =>
      have code : a.code state = pyerrorCode state error.toExc := by rw [Answer.code, raised]
      exact absurd quiet (opEdit.reports _
        ⟨_, List.mem_map_of_mem member, code ▸ code_toExc opEdit error⟩)
  · intro unraised
    apply opEdit.succeeds
    intro code member
    obtain ⟨a, inside, rfl⟩ := List.mem_map.mp member
    rw [Answer.code, unraised a inside]

theorem call_ok_iff (e : Editor) (opEdit : OpEdit state) (lines : List StatusLine) :
    e.call opEdit lines = .ok () ↔
      (∀ line ∈ lines, line.event ≠ none) ∧
        ∀ a ∈ e.answers (delivered lines), a.raised = none := by
  rw [Editor.answers, ← passLines_unraised, ← opEdit_eq_noError opEdit, Editor.call, keyEditor]
  split
  next quiet => simp [quiet]
  next failed => simp [failed]

/-! ## What the skipped events leave unchanged -/

section
variable {π : Type} {gen : KeyEditorGen π}

theorem flatMap_asked {β : Type} (gen : KeyEditorGen π) (f : Answer → List β) (nothing : f silent = [])
    (g : Option π) (events : List Event) :
    (deliver gen g (asked events)).flatMap f = (deliver gen g events).flatMap f := by
  induction events generalizing g with
  | nil => rfl
  | cons ev rest ih =>
    by_cases asking : asks ev = true
    · rw [asked, List.filter_cons_of_pos asking, deliver, deliver, List.flatMap_cons,
        List.flatMap_cons]
      exact congrArg _ (ih _)
    · rw [asked, List.filter_cons_of_neg asking, deliver, editCallback_of_not_asks asking,
        List.flatMap_cons, nothing, List.nil_append]
      exact ih g

theorem raised_asked (g : Option π) (events : List Event) :
    (∀ a ∈ deliver gen g (asked events), a.raised = none) ↔
      ∀ a ∈ deliver gen g events, a.raised = none := by
  have same := flatMap_asked gen (fun a => a.raised.toList) rfl g events
  have empty (answers : List Answer) :
      answers.flatMap (fun a => a.raised.toList) = [] ↔ ∀ a ∈ answers, a.raised = none := by
    simp [List.flatMap_eq_nil_iff]
  rw [← empty, ← empty, same]

/-- A statement about every answer is one about every place. -/
theorem forall_deliver_iff (cond : Answer → Prop) (g : Option π) (events : List Event) :
    (∀ a ∈ deliver gen g events, cond a) ↔
      ∀ before ev after, events = before ++ ev :: after →
        cond (editCallback gen (settle gen g before) ev).1 := by
  induction events generalizing g with
  | nil => simp [deliver]
  | cons first rest ih =>
    simp only [deliver, List.mem_cons, forall_eq_or_imp, ih]
    constructor
    · rintro ⟨here, later⟩ before ev after split
      cases before with
      | nil =>
        cases split
        exact here
      | cons x others =>
        cases split
        exact later others ev after rfl
    · intro all
      exact ⟨all [] first rest rfl, fun before ev after split =>
        all (first :: before) ev after (by rw [split]; rfl)⟩

end

/-! ## Fitting a dialogue -/

/-- The prompts are the beginning of those of a documented dialogue. -/
def Fits (e : Editor) (prompts : List (Option String)) : Prop :=
  ∃ dialogue, Documented e dialogue ∧ prompts <+: dialogue.map Prod.fst

theorem exists_said {events : List Event} {dialogue : List Exchange}
    (begins : events.map (·.args) <+: dialogue.map Prod.fst) :
    ∃ said : List (Message × Option String),
      said.map Prod.fst = events.map message ∧ said.map exchange <+: dialogue := by
  induction events generalizing dialogue with
  | nil => exact ⟨[], rfl, List.nil_prefix⟩
  | cons ev rest ih =>
    cases dialogue with
    | nil => simp at begins
    | cons x others =>
      simp only [List.map_cons, List.cons_prefix_cons] at begins
      obtain ⟨said, same, short⟩ := ih begins.2
      refine ⟨(message ev, x.2) :: said, by simp [same], ?_⟩
      simp only [List.map_cons, List.cons_prefix_cons]
      exact ⟨Prod.ext begins.1 rfl, short⟩

theorem fits_iff (e : Editor) (events : List Event) :
    Fits e (events.map (·.args)) ↔
      ∃ said q, Talk e.gen e.started said q ∧ said.map Prod.fst = events.map message := by
  constructor
  · rintro ⟨dialogue, documented, begins⟩
    obtain ⟨said, same, short⟩ := exists_said begins
    obtain ⟨q, talk⟩ := (speaks_documented e said).mpr ⟨dialogue, documented, short⟩
    exact ⟨said, q, talk, same⟩
  · rintro ⟨said, q, talk, same⟩
    obtain ⟨dialogue, documented, begins⟩ := (speaks_documented e said).mp ⟨q, talk⟩
    refine ⟨dialogue, documented, ?_⟩
    have prompts : events.map (·.args) = (said.map exchange).map Prod.fst := by
      have := congrArg (List.map Prod.snd) same
      simpa [exchange, message, Function.comp_def] using this.symm
    rw [prompts]
    exact begins.map _

theorem Fits.of_append {e : Editor} {first second : List (Option String)}
    (fits : Fits e (first ++ second)) : Fits e first := by
  obtain ⟨dialogue, documented, begins⟩ := fits
  exact ⟨dialogue, documented, (List.prefix_append _ _).trans begins⟩

theorem fits_snoc {e : Editor} {before : List Event} {said : List (Message × Option String)}
    {q : e.Yield} (talk : Talk e.gen e.started said q)
    (same : said.map Prod.fst = before.map message) (ev : Event) :
    Fits e ((before ++ [ev]).map (·.args)) ↔ ∃ v r, e.gen q (message ev) = .yields v r := by
  rw [fits_iff]
  constructor
  · rintro ⟨longer, r, long, all⟩
    obtain ⟨first, last, rfl, head, tail⟩ := List.map_eq_append_iff.mp
      (all.trans (List.map_append ..))
    obtain ⟨x, rest, rfl, sent, _⟩ := List.map_eq_cons_iff.mp tail
    obtain ⟨q', begun, ended⟩ := long.split
    obtain ⟨_, rfl⟩ := talk.deterministic begun (same.trans head.symm)
    obtain ⟨r', yields, _⟩ := talk_cons_iff.mp ended
    exact ⟨x.2, r', sent ▸ yields⟩
  · rintro ⟨v, r, yields⟩
    exact ⟨said ++ [(message ev, v)], r, talk.snoc yields, by simp [same]⟩

section
variable {e : Editor} {before : List Event} (asking : ∀ x ∈ before, asks x = true)
include asking

theorem settle_of_not_fits (misfit : ¬ Fits e (before.map (·.args))) :
    settle e.gen (some e.started) before = none := by
  obtain ⟨said, q, talk, same⟩ | ⟨sent, m, later, said, q, split, talk, same, stops⟩ :=
    talk_or_stops e.gen e.started (before.map message)
  · exact absurd ((fits_iff e before).mpr ⟨said, q, talk, same⟩) misfit
  · obtain ⟨first, after, rfl, rfl, tail⟩ := List.map_eq_append_iff.mp split
    obtain ⟨ev, rest, rfl, rfl, rfl⟩ := List.map_eq_cons_iff.mp tail
    have talked := deliver_talk talk (fun x member => asking x (by simp [member])) same
    obtain ⟨error, refused⟩ := editCallback_misfit q (asking ev (by simp)) stops
    have finished := deliver_finished e.gen
      (fun x (member : x ∈ rest) => asking x (by simp [member]))
    rw [settle_append, talked.2, settle, refused, finished.2]

/-- An event that fits gets its reply, any other is refused. -/
theorem answer_cases {ev : Event} (asksToo : asks ev = true) :
    (Fits e ((before ++ [ev]).map (·.args)) ∧ ∃ bytes, bytes ≠ [] ∧
        (editCallback e.gen (settle e.gen (some e.started) before) ev).1 = osWrite ev bytes) ∨
      (¬ Fits e ((before ++ [ev]).map (·.args)) ∧ ∃ error,
        (editCallback e.gen (settle e.gen (some e.started) before) ev).1 = refuse error) := by
  by_cases fits : Fits e (before.map (·.args))
  · obtain ⟨said, q, talk, same⟩ := (fits_iff e before).mp fits
    rw [(deliver_talk talk asking same).2, fits_snoc talk same]
    by_cases answered : ∃ v r, e.gen q (message ev) = .yields v r
    · obtain ⟨v, r, yields⟩ := answered
      obtain ⟨dialogue, documented, begins⟩ :=
        (speaks_documented e _).mp ⟨r, talk.snoc yields⟩
      obtain ⟨prompt, data, shape, ascii, nonempty⟩ := documented_told documented (ev.args, v)
        (begins.subset (by simp [exchange, message]))
      obtain rfl : v = some data := congrArg Prod.snd shape
      refine .inl ⟨⟨some data, r, yields⟩, data.toList.map fun c => UInt8.ofNat c.toNat,
        by simpa using nonempty, ?_⟩
      rw [editCallback_of_asks _ _ asksToo, send_of_yields yields]
      simp only [answerSent, writeReply, encodeAscii_of_ascii ascii]
    · obtain ⟨error, refused⟩ := editCallback_misfit q asksToo
        fun v r yields => answered ⟨v, r, yields⟩
      exact .inr ⟨answered, error, by rw [refused]⟩
  · refine .inr ⟨?_, .general, ?_⟩
    · rw [List.map_append]
      exact fun longer => fits longer.of_append
    · rw [settle_of_not_fits asking fits, editCallback_of_asks _ _ asksToo]
      rfl

/-- The callback writes exactly when the event fits and the descriptor takes it. -/
theorem writes_iff {ev : Event} (asksToo : asks ev = true) :
    (editCallback e.gen (settle e.gen (some e.started) before) ev).1.written ≠ [] ↔
      Fits e ((before ++ [ev]).map (·.args)) ∧ ev.write = .written := by
  obtain ⟨fits, bytes, nonempty, answer⟩ | ⟨misfit, error, answer⟩ := answer_cases asking asksToo
  · rw [answer, osWrite]
    cases ev.write with
    | written => exact ⟨fun _ => ⟨fits, rfl⟩, fun _ => nonempty⟩
    | failed errno => exact ⟨fun wrote => absurd rfl wrote, fun both => (by cases both.2)⟩
  · rw [answer]
    exact ⟨fun wrote => absurd rfl wrote, fun both => absurd both.1 misfit⟩

theorem unraised_iff {ev : Event} (asksToo : asks ev = true) :
    (editCallback e.gen (settle e.gen (some e.started) before) ev).1.raised = none ↔
      Fits e ((before ++ [ev]).map (·.args)) ∧ ev.write = .written := by
  obtain ⟨fits, bytes, _, answer⟩ | ⟨misfit, error, answer⟩ := answer_cases asking asksToo
  · rw [answer, osWrite]
    cases ev.write with
    | written => exact ⟨fun _ => ⟨fits, rfl⟩, fun _ => rfl⟩
    | failed errno => exact ⟨fun quiet => (by cases quiet), fun both => (by cases both.2)⟩
  · rw [answer]
    exact ⟨fun quiet => (by cases quiet), fun both => absurd both.1 misfit⟩

/-- No call fails exactly when every event fits and every descriptor takes its reply. -/
theorem unfailing_iff :
    (∀ a ∈ deliver e.gen (some e.started) before, a.raised = none) ↔
      Fits e (before.map (·.args)) ∧ ∀ ev ∈ before, ev.write = .written := by
  rw [forall_deliver_iff fun a => a.raised = none]
  have place {first after : List Event} {ev : Event} (split : before = first ++ ev :: after) :
      (editCallback e.gen (settle e.gen (some e.started) first) ev).1.raised = none ↔
        Fits e ((first ++ [ev]).map (·.args)) ∧ ev.write = .written :=
    unraised_iff (fun x member => asking x (by simp [split, member]))
      (asking ev (by simp [split]))
  constructor
  · intro all
    constructor
    · obtain rfl | ⟨first, last, rfl⟩ := List.eq_nil_or_concat before
      · exact (fits_iff e []).mpr ⟨[], _, .nil _, rfl⟩
      · rw [List.concat_eq_append] at place all ⊢
        exact ((place rfl).mp (all first last [] rfl)).1
    · intro ev member
      obtain ⟨first, after, split⟩ := List.append_of_mem member
      exact ((place split).mp (all first ev after split)).2
  · rintro ⟨fits, written⟩ first ev after split
    refine (place split).mpr ⟨?_, written ev (by simp [split])⟩
    rw [split, List.append_cons, List.map_append] at fits
    exact fits.of_append

end

/-- The calls that the callback does not return from at once. -/
def questions (lines : List StatusLine) : List Event := asked (delivered lines)

/-- The edit fails over one of its lines. -/
def Fails (e : Editor) (lines : List StatusLine) : Prop :=
  (∃ line ∈ lines, line.event = none) ∨ ¬ Fits e ((questions lines).map (·.args)) ∨
    ∃ ev ∈ questions lines, ev.write ≠ .written

/-- The function returns exactly when its lines make a beginning of a dialogue. -/
theorem returns_iff (e : Editor) (opEdit : OpEdit state) (lines : List StatusLine) :
    e.call opEdit lines = .ok () ↔ ¬ Fails e lines := by
  have quiet : (∀ a ∈ e.answers (delivered lines), a.raised = none) ↔
      Fits e ((questions lines).map (·.args)) ∧ ∀ ev ∈ questions lines, ev.write = .written := by
    rw [Editor.answers, ← raised_asked]
    exact unfailing_iff fun ev member => List.of_mem_filter member
  rw [call_ok_iff, quiet, Fails]
  push Not
  rfl

/-! ## Returning is not having edited -/

/-- What the caller asked for, as it is told to the engine. -/
def request : Editor → Exchange
  | .trust a => reply "edit_ownertrust.value" (number a.trust)
  | .sign a => reply "keyedit.prompt" (a.command ++ "\n")

/-- The call wrote this in reply to that prompt. -/
def Wrote (x : Exchange) (call : Event × Answer) : Prop :=
  call.1.args = x.1 ∧ ∃ data, x.2 = some data ∧ encodeAscii data = some call.2.written

/-- The request was written, and after it `quit`. -/
def CarriedOut (e : Editor) (calls : List (Event × Answer)) : Prop :=
  ∃ asking leaving, [asking, leaving].Sublist calls ∧ Wrote (request e) asking ∧
    encodeAscii "quit\n" = some leaving.2.written

/-- The prompts stop before the one that `quit` answers. -/
def Unfinished : Editor → List (Option String) → Prop
  | .trust _, prompts =>
    prompts = [] ∨ prompts = [some "keyedit.prompt"] ∨
      prompts = [some "keyedit.prompt", some "edit_ownertrust.value"] ∨
      prompts = [some "keyedit.prompt", some "edit_ownertrust.value",
        some "edit_ownertrust.set_ultimate.okay"]
  | .sign a, prompts =>
    prompts = [] ∨ prompts = [some "keyedit.prompt"] ∨
      ∃ questions, (∀ q ∈ questions, q ∈ (signReplies a).map Prod.fst) ∧
        prompts = some "keyedit.prompt" :: some "keyedit.prompt" :: questions

/-- The engine asked for less than an edit takes, and took every reply. -/
structure StopsEarly (e : Editor) (lines : List StatusLine) : Prop where
  decoded : ∀ line ∈ lines, line.event ≠ none
  unfinished : Unfinished e ((questions lines).map (·.args))
  taken : ∀ ev ∈ questions lines, ev.write = .written

/-- A beginning of a dialogue is unfinished and has no `quit`, or has both the request
and `quit`. -/
def Stage (e : Editor) (said : List Exchange) : Prop :=
  (Unfinished e (said.map Prod.fst) ∧ ∀ x ∈ said, x.2 ≠ some "quit\n") ∨
    (¬ Unfinished e (said.map Prod.fst) ∧
      ∃ leaving, [request e, leaving].Sublist said ∧ leaving.2 = some "quit\n")

theorem pair_sublist {α : Type} (x y : α) (before between after : List α) :
    [x, y].Sublist (before ++ x :: (between ++ y :: after)) := by
  have last : [y].Sublist (between ++ y :: after) :=
    List.singleton_sublist.mpr (by simp)
  exact (last.cons_cons x).trans (List.sublist_append_right before _)

theorem trust_stage (a : TrustArgs) {said dialogue : List Exchange}
    (documented : TrustDialogue a dialogue) (begins : said <+: dialogue) :
    Stage (.trust a) said := by
  obtain ⟨confirmed, known, rfl⟩ := documented
  have digit : a.trust ∈ ([0, 1, 2, 3, 4, 5] : List Int) := List.mem_cons_of_mem 0 a.accepted
  have differs := number_ne a.trust digit "quit\n" (by simp)
  simp only [confirmation, List.mem_cons, List.not_mem_nil, or_false] at known
  obtain rfl | rfl := known <;>
    simp only [closing, List.append_nil, List.cons_append, List.nil_append,
      List.prefix_cons_iff, List.prefix_nil] at begins
  · obtain rfl | ⟨_, rfl, rfl | ⟨_, rfl, rfl | ⟨rest, rfl, _⟩⟩⟩ := begins
    · simp [Stage, Unfinished]
    · simp [Stage, Unfinished, reply]
    · simp [Stage, Unfinished, reply, differs]
    · exact .inr ⟨by simp [Unfinished, reply], _, pair_sublist _ _ [_] [] rest, rfl⟩
  · obtain rfl | ⟨_, rfl, rfl | ⟨_, rfl, rfl | ⟨_, rfl, rfl | ⟨rest, rfl, _⟩⟩⟩⟩ := begins
    · simp [Stage, Unfinished]
    · simp [Stage, Unfinished, reply]
    · simp [Stage, Unfinished, reply, differs]
    · simp [Stage, Unfinished, reply, differs]
    · exact .inr ⟨by simp [Unfinished, reply], _, pair_sublist _ _ [_] [_] rest, rfl⟩

theorem questions_no_quit (a : SignArgs) {x : Exchange} (known : x ∈ signReplies a) :
    x.2 ≠ some "quit\n" := by
  have check : a.check = 0 ∨ a.check = 1 ∨ a.check = 2 ∨ a.check = 3 := by
    simpa using a.checked
  have differs := number_ne a.check (by simp; omega) "quit\n" (by simp)
  simp only [signReplies, List.mem_cons, List.not_mem_nil, or_false] at known
  obtain rfl | rfl | rfl | rfl := known
  · simp [reply]
  · cases a.expire <;> simp [reply]
  · simp [reply, differs]
  · simp [reply]

theorem sign_unfinished (a : SignArgs) {questions : List Exchange}
    (known : ∀ x ∈ questions, x ∈ signReplies a) :
    Stage (.sign a) (reply "keyedit.prompt" ("uid " ++ number a.index) ::
      reply "keyedit.prompt" (a.command ++ "\n") :: questions) := by
  refine .inl ⟨.inr (.inr ⟨questions.map Prod.fst, ?_, rfl⟩), ?_⟩
  · intro q member
    obtain ⟨x, inside, rfl⟩ := List.mem_map.mp member
    exact List.mem_map_of_mem (known x inside)
  · simp only [List.mem_cons, forall_eq_or_imp]
    refine ⟨?_, ?_, fun x inside => questions_no_quit a (known x inside)⟩
    · simpa [reply] using uid_ne (number a.index) "quit\n" (by decide)
    · simpa [reply] using command_ne a "quit\n" (by simp)

theorem sign_stage (a : SignArgs) {said dialogue : List Exchange}
    (documented : SignDialogue a dialogue) (begins : said <+: dialogue) :
    Stage (.sign a) said := by
  obtain ⟨questions, known, rfl⟩ := documented
  obtain short | ⟨rest, rfl⟩ :=
    List.prefix_or_prefix_of_prefix begins (List.prefix_append _ closing)
  · simp only [List.cons_append, List.nil_append, List.prefix_cons_iff] at short
    obtain rfl | ⟨_, rfl, rfl | ⟨first, rfl, few⟩⟩ := short
    · simp [Stage, Unfinished]
    · exact .inl ⟨.inr (.inl rfl), by
        simpa [reply] using uid_ne (number a.index) "quit\n" (by decide)⟩
    · exact sign_unfinished a fun x member => known x (few.subset member)
  · simp only [List.prefix_append_right_inj, closing, List.prefix_cons_iff] at begins
    obtain rfl | ⟨more, rfl, _⟩ := begins
    · rw [List.append_nil]
      exact sign_unfinished a known
    · refine .inr ⟨?_, _, pair_sublist _ _ [_] questions more, rfl⟩
      rintro (none | one | ⟨prompts, asked, split⟩)
      · cases none
      · cases one
      · simp only [List.cons_append, List.nil_append, List.map_cons, List.map_append,
          List.cons.injEq] at split
        have menu : some "keyedit.prompt" ∈ prompts := by simp [← split.2.2, reply]
        have unknown := asked _ menu
        simp [signReplies, reply] at unknown

theorem documented_stage {e : Editor} {said dialogue : List Exchange}
    (documented : Documented e dialogue) (begins : said <+: dialogue) : Stage e said := by
  cases e with
  | trust a => exact trust_stage a documented begins
  | sign a => exact sign_stage a documented begins

/-! ### From exchanges to calls -/

theorem encodeAscii_inj {first second : String} {bytes : Bytes}
    (left : encodeAscii first = some bytes) (right : encodeAscii second = some bytes) :
    first = second := by
  have decode {data : String} (encoded : encodeAscii data = some bytes) :
      data.toList = bytes.map fun b => Char.ofNat b.toNat := by
    unfold encodeAscii at encoded
    split at encoded
    next ascii =>
      cases encoded
      rw [List.map_map]
      have same : data.toList.map ((fun b => Char.ofNat b.toNat) ∘ fun c => UInt8.ofNat c.toNat) =
          data.toList.map id := by
        apply List.map_congr_left
        intro c member
        have small : c.toNat < 128 := by simpa using List.all_eq_true.mp ascii c member
        simp [Nat.mod_eq_of_lt (by omega : c.toNat < 256)]
      rw [same, List.map_id]
    · cases encoded
  exact String.toList_inj.mp ((decode left).trans (decode right).symm)

theorem sublist_forall₂ {α β : Type} {R : α → β → Prop} {few many : List α} {calls : List β}
    (part : few.Sublist many) (related : List.Forall₂ R many calls) :
    ∃ chosen, chosen.Sublist calls ∧ List.Forall₂ R few chosen := by
  induction part generalizing calls with
  | slnil => exact ⟨[], List.nil_sublist _, .nil⟩
  | cons x _ ih =>
    cases related with
    | cons _ rest =>
      obtain ⟨chosen, inside, matched⟩ := ih rest
      exact ⟨chosen, inside.cons _, matched⟩
  | cons_cons x _ ih =>
    cases related with
    | cons here rest =>
      obtain ⟨chosen, inside, matched⟩ := ih rest
      exact ⟨_ :: chosen, inside.cons_cons _, .cons here matched⟩

theorem related_of_mem {α β : Type} {R : α → β → Prop} {said : List α} {calls : List β}
    (related : List.Forall₂ R said calls) {call : β} (member : call ∈ calls) :
    ∃ x ∈ said, R x call := by
  induction related with
  | nil => cases member
  | cons here _ ih =>
    obtain rfl | later := List.mem_cons.mp member
    · exact ⟨_, List.mem_cons_self, here⟩
    · obtain ⟨x, inside, same⟩ := ih later
      exact ⟨x, List.mem_cons_of_mem _ inside, same⟩

theorem args_of_replies {said : List Exchange} {calls : List (Event × Answer)}
    (related : List.Forall₂ Replies said calls) :
    said.map Prod.fst = calls.map (·.1.args) := by
  induction related with
  | nil => rfl
  | cons here _ ih => rw [List.map_cons, List.map_cons, here.1, ih]

/-- The calls of the events that were not skipped. -/
def askedCalls (e : Editor) (events : List Event) : List (Event × Answer) :=
  (events.zip (e.answers events)).filter fun call => asks call.1

theorem askedCalls_fst (e : Editor) (events : List Event) :
    (askedCalls e events).map Prod.fst = asked events := by
  rw [askedCalls, Editor.answers, calls_asked, List.map_fst_zip]
  rw [length_deliver]

/-- When the function returns, every event that was not skipped was answered. -/
theorem returned_said {e : Editor} {events : List Event}
    (unfailing : ∀ a ∈ e.answers events, a.raised = none) :
    ∃ said, Stage e said ∧ List.Forall₂ Replies said (askedCalls e events) ∧
      said.map Prod.fst = (asked events).map (·.args) := by
  obtain ⟨_, said, answered, refused, split, followed⟩ := dialogue_followed e events
  obtain ⟨dialogue, documented, begins⟩ := followed.documented
  have nothing : refused = [] := by
    apply List.eq_nil_iff_forall_not_mem.mpr
    intro call member
    have inside : call ∈ answered ++ refused := List.mem_append_right _ member
    rw [← split] at inside
    have quiet := unfailing call.2 (List.of_mem_zip (List.mem_filter.mp inside).1).2
    have raised := (followed.refused call member).2
    simp [quiet] at raised
  have calls : askedCalls e events = answered := by
    rw [nothing, List.append_nil] at split
    exact split
  refine ⟨said, documented_stage documented begins, calls ▸ followed.replies, ?_⟩
  rw [args_of_replies followed.replies, ← calls, ← askedCalls_fst e, List.map_map]
  rfl

/-- A reply that the descriptor took was written. -/
theorem wrote_of_replies {x : Exchange} {call : Event × Answer} (replied : Replies x call)
    (taken : call.1.write = .written) : Wrote x call := by
  obtain ⟨prompt, data, bytes, shape, encoded, answer⟩ := replied
  refine ⟨prompt, data, shape, ?_⟩
  rw [answer, osWrite, taken]
  exact encoded

theorem exists_questions {a : SignArgs} {prompts : List (Option String)}
    (known : ∀ q ∈ prompts, q ∈ (signReplies a).map Prod.fst) :
    ∃ questions : List Exchange, (∀ x ∈ questions, x ∈ signReplies a) ∧
      questions.map Prod.fst = prompts := by
  induction prompts with
  | nil => exact ⟨[], by simp, rfl⟩
  | cons q rest ih =>
    obtain ⟨questions, asking, same⟩ := ih fun p member => known p (by simp [member])
    obtain ⟨x, inside, rfl⟩ := List.mem_map.mp (known q (by simp))
    exact ⟨x :: questions, by simpa [inside] using asking, by simp [same]⟩

theorem fits_of_unfinished {e : Editor} {prompts : List (Option String)}
    (unfinished : Unfinished e prompts) : Fits e prompts := by
  cases e with
  | trust a =>
    have plain : TrustDialogue a _ := ⟨[], by simp [confirmation], rfl⟩
    have confirmed : TrustDialogue a _ :=
      ⟨[reply "edit_ownertrust.set_ultimate.okay" "Y\n"], by simp [confirmation], rfl⟩
    obtain rfl | rfl | rfl | rfl := unfinished
    · exact ⟨_, plain, List.nil_prefix⟩
    · exact ⟨_, plain, by simp [reply]⟩
    · exact ⟨_, plain, by simp [reply]⟩
    · exact ⟨_, confirmed, by simp [reply]⟩
  | sign a =>
    have short : SignDialogue a _ := ⟨[], by simp, rfl⟩
    obtain rfl | rfl | ⟨prompts, known, rfl⟩ := unfinished
    · exact ⟨_, short, List.nil_prefix⟩
    · exact ⟨_, short, by simp [reply]⟩
    · obtain ⟨questions, asking, rfl⟩ := exists_questions known
      exact ⟨_, ⟨questions, asking, rfl⟩, by simp [reply]⟩

/-- What was written after a prompt is the reply that the dialogue has there. -/
theorem reply_of_written {said : List Exchange} {e : Editor} {events : List Event}
    (related : List.Forall₂ Replies said (askedCalls e events)) {call : Event × Answer}
    (member : call ∈ events.zip (e.answers events)) {data : String}
    (wrote : encodeAscii data = some call.2.written) (nonempty : call.2.written ≠ []) :
    ∃ x ∈ said, x.2 = some data := by
  have asking : asks call.1 = true := by
    by_contra quiet
    have nothing := silent_of_skipped _ events call member quiet
    rw [nothing] at nonempty
    exact nonempty rfl
  obtain ⟨x, inside, _, other, bytes, shape, encoded, answer⟩ :=
    related_of_mem related (List.mem_filter.mpr ⟨member, asking⟩)
  refine ⟨x, inside, shape.trans (congrArg some ?_)⟩
  rw [answer, osWrite] at wrote nonempty
  cases write : call.1.write with
  | written =>
    rw [write] at wrote
    exact encodeAscii_inj encoded wrote
  | failed errno =>
    rw [write] at nonempty
    exact absurd rfl nonempty

/-- For every editor and everything that gpgme passes to it: a normal return means that
the request was written and `quit` after it, exactly unless the engine stopped early. -/
theorem normal_return_iff (e : Editor) (opEdit : OpEdit state) (lines : List StatusLine) :
    (e.call opEdit lines = .ok () →
        CarriedOut e ((delivered lines).zip (e.answers (delivered lines)))) ↔
      ¬ StopsEarly e lines := by
  constructor
  · rintro carriedOut ⟨decoded, unfinished, taken⟩
    have returned : e.call opEdit lines = .ok () := by
      rw [returns_iff, Fails]
      push Not
      exact ⟨decoded, fits_of_unfinished unfinished, taken⟩
    obtain ⟨said, stage, related, prompts⟩ :=
      returned_said ((call_ok_iff e opEdit lines).mp returned).2
    obtain ⟨asking, leaving, order, _, quits⟩ := carriedOut returned
    obtain ⟨x, inside, same⟩ := reply_of_written related (order.subset (by simp)) quits
      (by intro empty; rw [empty] at quits; cases quits)
    obtain ⟨_, noQuit⟩ | ⟨finished, _⟩ := stage
    · exact noQuit x inside same
    · rw [prompts] at finished
      exact finished unfinished
  · intro finished returned
    obtain ⟨decoded, unfailing⟩ := (call_ok_iff e opEdit lines).mp returned
    have taken : ∀ ev ∈ questions lines, ev.write = .written := by
      have unfailed := (returns_iff e opEdit lines).mp returned
      rw [Fails] at unfailed
      push Not at unfailed
      exact unfailed.2.2
    obtain ⟨said, ⟨unfinished, _⟩ | ⟨_, leaving, order, quits⟩, related, prompts⟩ :=
      returned_said unfailing
    · rw [prompts] at unfinished
      exact absurd ⟨decoded, unfinished, taken⟩ finished
    · obtain ⟨chosen, inside, matched⟩ := sublist_forall₂ order related
      cases matched with
      | cons first rest =>
        cases rest with
        | cons second none =>
          cases none
          have wrote {x : Exchange} {call : Event × Answer} (replied : Replies x call)
              (member : call ∈ askedCalls e (delivered lines)) : Wrote x call :=
            wrote_of_replies replied
              (taken _ (by
                rw [questions, ← askedCalls_fst]
                exact List.mem_map_of_mem member))
          have asking := wrote first (inside.subset (by simp))
          obtain ⟨_, data, shape, leaves⟩ := wrote second (inside.subset (by simp))
          obtain rfl : data = "quit\n" := Option.some.inj (shape.symm.trans quits)
          exact ⟨_, _, inside.trans (List.filter_sublist ..), asking, leaves⟩

/-- `gpgme_op_edit` that returns the first error of a callback. -/
def firstError : OpEdit plainState where
  run codes := (codes.find? (· ≠ noError)).getD noError
  succeeds codes quiet := by
    rw [List.find?_eq_none.mpr]
    · rfl
    · simpa using quiet
  reports codes := by
    rintro ⟨code, member, nonzero, _⟩
    cases found : codes.find? (· ≠ noError) with
    | none =>
      have quiet := List.find?_eq_none.mp found code member
      have zero : code = noError := by simpa using quiet
      rw [zero] at nonzero
      exact absurd rfl nonzero
    | some first => simpa using List.find?_some found
  handled n := by
    by_cases zero : n = 0 <;> simp only [plainState, zero, if_true, if_false] <;> decide

/-- An engine that asks nothing at all. -/
theorem silent_engine_returns :
    (Editor.trust ⟨4, by decide⟩).call firstError [] = .ok () ∧
      ¬ CarriedOut (.trust ⟨4, by decide⟩)
        ((delivered []).zip ((Editor.trust ⟨4, by decide⟩).answers (delivered []))) := by
  refine ⟨rfl, ?_⟩
  rintro ⟨asking, leaving, order, _⟩
  cases order

/-! ## Notices -/

def prompts : Editor → List String
  | .trust _ => ["keyedit.prompt", "edit_ownertrust.value",
      "edit_ownertrust.set_ultimate.okay", "keyedit.save.okay"]
  | .sign _ => ["keyedit.prompt", "keyedit.sign_all.okay", "sign_uid.expire", "sign_uid.class",
      "sign_uid.okay", "keyedit.save.okay"]

/-- A member of the enum that asks for no answer and reports no failure. -/
def Informational (status : Status) : Prop :=
  status ∉ [.getBool, .getLine, .getHidden, .error, .failure] ∧ ∀ code, status ≠ .other code

/-- A line that only tells the callback something. -/
structure Notice (e : Editor) where
  line : StatusLine
  informational : Informational line.status
  noPrompt : ∀ prompt ∈ prompts e, line.args ≠ some (stringBytes prompt)

/-- The callback returns at it. -/
def Notice.Skipped {e : Editor} (n : Notice e) : Prop :=
  n.line.event ≠ none ∧ n.line.status ∈ ignored

/-- The callback sends it into the generator. -/
def Notice.Heard {e : Editor} (n : Notice e) : Prop :=
  n.line.event ≠ none ∧ n.line.status ∉ ignored

/-- What gpgme passes on, each line marked as one of the conversation or a notice. -/
abbrev Items (e : Editor) := List (StatusLine ⊕ Notice e)

def withNotices {e : Editor} (items : Items e) : List StatusLine :=
  items.map (Sum.elim id Notice.line)

def withoutNotices {e : Editor} (items : Items e) : List StatusLine :=
  items.filterMap Sum.getLeft?

def writtenBytes (e : Editor) (lines : List StatusLine) : Bytes :=
  (passLines e.gen (some e.started) lines).flatMap (·.written)

def SameBytes (e : Editor) (items : Items e) : Prop :=
  writtenBytes e (withNotices items) = writtenBytes e (withoutNotices items)

def SameOutcome (e : Editor) (opEdit : OpEdit state) (items : Items e) : Prop :=
  e.call opEdit (withNotices items) = .ok () ↔ e.call opEdit (withoutNotices items) = .ok ()

/-- After `before`, no call for a line of `after` both fits and has its reply taken. -/
def Unanswered (e : Editor) (before after : List StatusLine) : Prop :=
  ∀ between ev later, questions after = between ++ ev :: later →
    Fits e ((questions before ++ between ++ [ev]).map (·.args)) → ev.write ≠ .written

/-- The conversation comes to nothing without the notices: it fails if one of them is not
skipped, and has no reply after the first that is heard. -/
structure Undisturbed (e : Editor) (items : Items e) : Prop where
  fails : (∃ n, .inr n ∈ items ∧ ¬ n.Skipped) → Fails e (withoutNotices items)
  unanswered : ∀ before n after, items = before ++ .inr n :: after →
    (∀ m, .inr m ∈ before → ¬ m.Heard) → n.Heard →
      Unanswered e (withoutNotices before) (withoutNotices after)

/-- A generator only answers the prompts of its dialogue. -/
theorem yields_prompt {e : Editor} {p q : e.Yield} {m : Message} {v : Option String}
    (yields : e.gen p m = .yields v q) : ∃ prompt ∈ prompts e, m.2 = some prompt := by
  obtain ⟨status, args⟩ := m
  cases e with
  | trust a =>
    cases p with
    | started | trust | ultimate | quit =>
      exact ⟨_, by simp [prompts], congrArg Prod.fst (answer_yields.mp yields).1⟩
    | value =>
      by_cases confirm : args = some "edit_ownertrust.set_ultimate.okay"
      · exact ⟨_, by simp [prompts], confirm⟩
      · have menu := answer_yields.mp ((if_neg confirm).symm.trans yields)
        exact ⟨_, by simp [prompts], congrArg Prod.fst menu.1⟩
    | save => cases yields
  | sign a =>
    cases p with
    | started | uid | quit =>
      exact ⟨_, by simp [prompts], congrArg Prod.fst (answer_yields.mp yields).1⟩
    | signing =>
      obtain ⟨known, _⟩ | ⟨menu, _⟩ := (signing_yields a status args v q).mp yields
      · simp only [signReplies, reply, List.mem_cons, List.not_mem_nil, or_false,
          Prod.mk.injEq] at known
        obtain ⟨asked, _⟩ | ⟨asked, _⟩ | ⟨asked, _⟩ | ⟨asked, _⟩ := known <;>
          exact ⟨_, by simp [prompts], asked⟩
      · exact ⟨_, by simp [prompts], congrArg Prod.fst menu⟩
    | save => cases yields

theorem talk_prompts {e : Editor} {p q : e.Yield} {said : List (Message × Option String)}
    (talk : Talk e.gen p said q) : ∀ x ∈ said, ∃ prompt ∈ prompts e, x.1.2 = some prompt := by
  induction talk with
  | nil => simp
  | cons answered _ ih => simpa [yields_prompt answered] using ih

section
variable {e : Editor}

theorem Notice.Heard.event {n : Notice e} (heard : n.Heard) :
    ∃ ev, n.line.event = some ev ∧ asks ev = true ∧ ∀ prompt ∈ prompts e, ev.args ≠ some prompt := by
  obtain ⟨ev, decoded⟩ := Option.ne_none_iff_exists'.mp heard.1
  obtain ⟨args, readable, rfl⟩ := Option.map_eq_some_iff.mp decoded
  refine ⟨_, decoded, decide_eq_true heard.2, fun prompt known same => ?_⟩
  cases same
  exact n.noPrompt prompt known (decodeArgs_eq_some.mp readable)

/-- A notice that is heard ends the generator, wherever it is suspended. -/
theorem notice_ends {ev : Event} (asking : asks ev = true)
    (noPrompt : ∀ prompt ∈ prompts e, ev.args ≠ some prompt) (g : Option e.Yield) :
    ∃ error, editCallback e.gen g ev = (refuse error, none) := by
  cases g with
  | none => exact ⟨.general, editCallback_of_asks _ _ asking⟩
  | some p =>
    apply editCallback_misfit p asking
    intro v r yields
    obtain ⟨prompt, known, same⟩ := yields_prompt yields
    exact noPrompt prompt known same

theorem questions_append (first second : List StatusLine) :
    questions (first ++ second) = questions first ++ questions second := by
  rw [questions, delivered, List.filterMap_append, asked, List.filter_append]
  rfl

/-- The calls that a single line makes. -/
theorem questions_cons (line : StatusLine) (rest : List StatusLine) :
    questions (line :: rest) = questions [line] ++ questions rest :=
  questions_append [line] rest

theorem questions_of_not_heard {n : Notice e} (unheard : ¬ n.Heard) : questions [n.line] = [] := by
  cases decoded : n.line.event with
  | none => simp [questions, delivered, decoded, asked]
  | some ev =>
    obtain ⟨args, _, rfl⟩ := Option.map_eq_some_iff.mp decoded
    have skipped : n.line.status ∈ ignored := by
      by_contra other
      exact unheard ⟨by simp [decoded], other⟩
    simp [questions, delivered, decoded, asked, asks, skipped]

theorem questions_of_heard {line : StatusLine} {ev : Event} (decoded : line.event = some ev)
    (asking : asks ev = true) : questions [line] = [ev] := by
  simp [questions, delivered, decoded, asked, asking]

theorem questions_unheard {items : Items e} (unheard : ∀ m, .inr m ∈ items → ¬ m.Heard) :
    questions (withNotices items) = questions (withoutNotices items) := by
  induction items with
  | nil => rfl
  | cons item rest ih =>
    have same := ih fun m member => unheard m (List.mem_cons_of_mem _ member)
    cases item with
    | inl line =>
      have first : withoutNotices (.inl line :: rest) = line :: withoutNotices rest := rfl
      rw [first, questions_cons line, ← same]
      exact questions_cons line _
    | inr n =>
      have nothing := questions_of_not_heard (unheard n List.mem_cons_self)
      have dropped : withoutNotices (.inr n :: rest) = withoutNotices rest := rfl
      rw [dropped, ← same]
      exact (questions_cons n.line _).trans (by rw [nothing, List.nil_append]; rfl)

theorem first_heard (items : Items e) :
    (∀ m, .inr m ∈ items → ¬ m.Heard) ∨
      ∃ before n after, items = before ++ .inr n :: after ∧
        (∀ m, .inr m ∈ before → ¬ m.Heard) ∧ n.Heard := by
  induction items with
  | nil => exact .inl (by simp)
  | cons item rest ih =>
    obtain unheard | ⟨before, n, after, rfl, unheard, heard⟩ := ih
    · cases item with
      | inl line => exact .inl (by simpa using unheard)
      | inr n =>
        by_cases heard : n.Heard
        · exact .inr ⟨[], n, rest, rfl, by simp, heard⟩
        · exact .inl (by simpa [heard] using unheard)
    · cases item with
      | inl line => exact .inr ⟨.inl line :: before, n, after, rfl, by simpa using unheard, heard⟩
      | inr m =>
        by_cases known : m.Heard
        · exact .inr ⟨[], m, _, rfl, by simp, known⟩
        · exact .inr ⟨.inr m :: before, n, after, rfl, by simpa [known] using unheard, heard⟩

/-! ### The bytes -/

theorem writtenBytes_eq (e : Editor) (lines : List StatusLine) :
    writtenBytes e lines =
      (deliver e.gen (some e.started) (questions lines)).flatMap (·.written) := by
  rw [writtenBytes, passLines_flatMap _ rfl, questions, flatMap_asked _ _ rfl]

/-- What is written after some events, by the events themselves. -/
theorem nothing_written_iff {before after : List Event}
    (asking : ∀ ev ∈ before ++ after, asks ev = true) :
    (deliver e.gen (settle e.gen (some e.started) before) after).flatMap (·.written) = [] ↔
      ∀ between ev later, after = between ++ ev :: later →
        Fits e ((before ++ between ++ [ev]).map (·.args)) → ev.write ≠ .written := by
  rw [List.flatMap_eq_nil_iff, forall_deliver_iff fun a => a.written = []]
  refine forall_congr' fun between => forall_congr' fun ev => forall_congr' fun later =>
    forall_congr' fun split => ?_
  have earlier : ∀ x ∈ before ++ between, asks x = true := by
    intro x member
    apply asking x
    rw [split]
    simp only [List.mem_append] at member ⊢
    exact member.imp id .inl
  have here : asks ev = true := asking ev (by simp [split])
  have place := @writes_iff e _ earlier _ here
  rw [← settle_append, ← not_iff_not, ← ne_eq, place]
  simp

/-- The first notice that is heard ends the conversation, so the bytes are the same only
when the rest has none without it. -/
theorem sameBytes_iff_unanswered {before after : Items e} {n : Notice e}
    (unheard : ∀ m, .inr m ∈ before → ¬ m.Heard) (heard : n.Heard) :
    SameBytes e (before ++ .inr n :: after) ↔
      Unanswered e (withoutNotices before) (withoutNotices after) := by
  obtain ⟨ev, decoded, asking, noPrompt⟩ := heard.event
  have disturbed : questions (withNotices (before ++ .inr n :: after)) =
      questions (withoutNotices before) ++ ev :: questions (withNotices after) := by
    rw [← questions_unheard unheard, withNotices, List.map_append, List.map_cons,
      questions_append, questions_cons, Sum.elim_inr, questions_of_heard decoded asking]
    rfl
  have plain : questions (withoutNotices (before ++ .inr n :: after)) =
      questions (withoutNotices before) ++ questions (withoutNotices after) := by
    rw [withoutNotices, List.filterMap_append, questions_append]
    rfl
  have asked_ (lines : List StatusLine) : ∀ ev ∈ questions lines, asks ev = true :=
    fun ev member => List.of_mem_filter member
  obtain ⟨error, ends⟩ := notice_ends asking noPrompt
    (settle e.gen (some e.started) (questions (withoutNotices before)))
  have silence : (deliver e.gen none (questions (withNotices after))).flatMap (·.written) = [] := by
    rw [(deliver_finished e.gen (asked_ (withNotices after))).1]
    simp [refuse]
  rw [SameBytes, writtenBytes_eq, writtenBytes_eq, disturbed, plain, deliver_append,
    deliver_append, List.flatMap_append, List.flatMap_append, deliver, ends, List.flatMap_cons,
    silence, List.append_cancel_left_eq, Unanswered, ← nothing_written_iff]
  · exact eq_comm
  · intro ev member
    exact (List.mem_append.mp member).elim (asked_ _ ev) (asked_ _ ev)

/-! ### The outcome -/

/-- The prompts of a dialogue are those that its generator knows. -/
theorem Fits.known {events : List Event} (fits : Fits e (events.map (·.args))) {ev : Event}
    (member : ev ∈ events) : ∃ prompt ∈ prompts e, ev.args = some prompt := by
  obtain ⟨said, q, talk, same⟩ := (fits_iff e events).mp fits
  obtain ⟨x, inside, sent⟩ := List.mem_map.mp (same ▸ List.mem_map_of_mem member)
  obtain ⟨prompt, known, asked⟩ := talk_prompts talk x inside
  exact ⟨prompt, known, (congrArg Prod.snd sent).symm.trans asked⟩

/-- A notice that is not skipped fails the edit. -/
theorem fails_of_not_skipped {items : Items e} {n : Notice e} (member : .inr n ∈ items)
    (disturbing : ¬ n.Skipped) : Fails e (withNotices items) := by
  have inside : n.line ∈ withNotices items := List.mem_map.mpr ⟨.inr n, member, rfl⟩
  by_cases readable : n.line.event = none
  · exact .inl ⟨n.line, inside, readable⟩
  · have heard : n.Heard := ⟨readable, fun skipped => disturbing ⟨readable, skipped⟩⟩
    obtain ⟨ev, decoded, asking, noPrompt⟩ := heard.event
    refine .inr (.inl fun fits => ?_)
    have asked_ : ev ∈ questions (withNotices items) :=
      List.mem_filter.mpr ⟨List.mem_filterMap.mpr ⟨n.line, inside, decoded⟩, asking⟩
    obtain ⟨prompt, known, same⟩ := fits.known asked_
    exact noPrompt prompt known same

/-- Notices that are skipped change nothing. -/
theorem fails_congr {items : Items e} (skipped : ∀ n, .inr n ∈ items → n.Skipped) :
    Fails e (withNotices items) ↔ Fails e (withoutNotices items) := by
  have same : questions (withNotices items) = questions (withoutNotices items) :=
    questions_unheard fun m member heard => heard.2 (skipped m member).2
  have unread : (∃ line ∈ withNotices items, line.event = none) ↔
      ∃ line ∈ withoutNotices items, line.event = none := by
    constructor
    · rintro ⟨line, member, unreadable⟩
      obtain ⟨item, inside, rfl⟩ := List.mem_map.mp member
      cases item with
      | inl line => exact ⟨line, List.mem_filterMap.mpr ⟨_, inside, rfl⟩, unreadable⟩
      | inr n => exact absurd unreadable (skipped n inside).1
    · rintro ⟨line, member, unreadable⟩
      obtain ⟨item, inside, left⟩ := List.mem_filterMap.mp member
      obtain rfl := Sum.getLeft?_eq_some_iff.mp left
      exact ⟨line, List.mem_map.mpr ⟨_, inside, rfl⟩, unreadable⟩
  rw [Fails, Fails, same, unread]

theorem sameOutcome_iff (opEdit : OpEdit state) (items : Items e) :
    SameOutcome e opEdit items ↔
      ((∃ n, .inr n ∈ items ∧ ¬ n.Skipped) → Fails e (withoutNotices items)) := by
  rw [SameOutcome, returns_iff, returns_iff, not_iff_not]
  by_cases disturbed : ∃ n, .inr n ∈ items ∧ ¬ n.Skipped
  · obtain ⟨n, member, disturbing⟩ := disturbed
    rw [iff_true_left (fails_of_not_skipped member disturbing)]
    exact ⟨fun fails _ => fails, fun fails => fails ⟨n, member, disturbing⟩⟩
  · push Not at disturbed
    exact iff_of_true (fails_congr disturbed) fun ⟨n, member, disturbing⟩ =>
      absurd (disturbed n member) disturbing

end

/-- For every editor, every conversation and every insertion of notices into it: the
bytes written and the outcome stay the same exactly when the notices are all skipped, or
the conversation comes to nothing without them. -/
theorem notices_harmless_iff (e : Editor) (opEdit : OpEdit state) (items : Items e) :
    SameBytes e items ∧ SameOutcome e opEdit items ↔ Undisturbed e items := by
  rw [sameOutcome_iff]
  constructor
  · rintro ⟨same, fails⟩
    refine ⟨fails, ?_⟩
    rintro before n after rfl unheard heard
    exact (sameBytes_iff_unanswered unheard heard).mp same
  · rintro ⟨fails, unanswered⟩
    refine ⟨?_, fails⟩
    obtain unheard | ⟨before, n, after, rfl, unheard, heard⟩ := first_heard items
    · rw [SameBytes, writtenBytes_eq, writtenBytes_eq, questions_unheard unheard]
    · exact (sameBytes_iff_unanswered unheard heard).mpr (unanswered before n after rfl unheard heard)

/-- `edit_sign(ctx, key)` for a key with one user ID. -/
def plainSign : SignArgs where
  index := 0
  isLocal := false
  norevoke := false
  expire := true
  check := 0
  uids := 1
  inRange := by decide
  checked := by decide

def getLine (prompt : String) : StatusLine := ⟨.getLine, some (stringBytes prompt), .written⟩

def getBool (prompt : String) : StatusLine := ⟨.getBool, some (stringBytes prompt), .written⟩

/-- What gpg says when it asks for a passphrase; there is no descriptor to write to. -/
def pinentryLaunched : Notice (.sign plainSign) where
  line := ⟨.pinentryLaunched, some (stringBytes "4711 curses 1.1.0"),
    .failed ⟨9, by decide, by decide⟩⟩
  informational := ⟨by decide, fun code same => by cases same⟩
  noPrompt prompt known same := by
    obtain rfl := stringBytes_inj.mp (Option.some.inj same)
    exact absurd known (by decide)

/-- The conversation of a signature with a passphrase-protected key. -/
def protectedKey : Items (.sign plainSign) :=
  [.inl (getLine "keyedit.prompt"), .inl (getLine "keyedit.prompt"),
    .inl (getBool "sign_uid.okay"), .inr pinentryLaunched,
    .inl (getLine "keyedit.prompt"), .inl (getBool "keyedit.save.okay")]

theorem pinentry_disturbs : ¬ (SameBytes (.sign plainSign) protectedKey ∧
    SameOutcome (.sign plainSign) firstError protectedKey) := by
  rintro ⟨_, same⟩
  have fits : Fits (.sign plainSign) [some "keyedit.prompt", some "keyedit.prompt",
      some "sign_uid.okay", some "keyedit.prompt", some "keyedit.save.okay"] :=
    ⟨_, ⟨[reply "sign_uid.okay" "Y\n"], by simp [signReplies], rfl⟩, List.prefix_refl _⟩
  have fails := (sameOutcome_iff firstError protectedKey).mp same
    ⟨pinentryLaunched, by simp [protectedKey], fun skipped => absurd skipped.2 (by decide)⟩
  have plain : withoutNotices protectedKey =
      [getLine "keyedit.prompt", getLine "keyedit.prompt", getBool "sign_uid.okay",
        getLine "keyedit.prompt", getBool "keyedit.save.okay"] := rfl
  simp [plain, Fails, getLine, getBool, questions, delivered, asked, asks, ignored] at fails
  exact fails fits

end Pygpgme.Guarantees.KeyEditOutcome
