import Pygpgme.Source.KeyEdit

/-!
# What a key editor writes, and to which prompt

Whatever the engine reports, the replies follow the documented dialogue: each of them
goes to its own prompt, the first prompt that does not fit is refused, and from there on
nothing is written. The dialogues are stated as lists of exchanges, apart from the
generators that hold them.
-/

set_option autoImplicit false

namespace Pygpgme.Guarantees.KeyDialogue
open Pygpgme.Library.Generator Pygpgme.Source.KeyEdit
open Pygpgme.Source.Python (Bytes)

/-! ## The documented dialogues -/

/-- What the engine asks, and what it is told. -/
abbrev Exchange := Option String × Option String

def reply (prompt data : String) : Exchange := (some prompt, some data)

/-- Common to both: leave the menu and save. -/
def closing : List Exchange :=
  [reply "keyedit.prompt" "quit\n", reply "keyedit.save.okay" "Y\n"]

/-- gpg asks for it when the trust is ultimate. -/
def confirmation : List (List Exchange) :=
  [[], [reply "edit_ownertrust.set_ultimate.okay" "Y\n"]]

def TrustDialogue (a : TrustArgs) (dialogue : List Exchange) : Prop :=
  ∃ confirmed ∈ confirmation, dialogue =
    [reply "keyedit.prompt" "trust\n", reply "edit_ownertrust.value" (number a.trust)] ++
      confirmed ++ closing

/-- What may be asked while the key is signed, in any order and number. -/
def signReplies (a : SignArgs) : List Exchange :=
  [reply "keyedit.sign_all.okay" "Y\n",
    reply "sign_uid.expire" ((if a.expire then "Y" else "N") ++ "\n"),
    reply "sign_uid.class" (number a.check), reply "sign_uid.okay" "Y\n"]

def SignDialogue (a : SignArgs) (dialogue : List Exchange) : Prop :=
  ∃ questions : List Exchange, (∀ x ∈ questions, x ∈ signReplies a) ∧ dialogue =
    [reply "keyedit.prompt" ("uid " ++ number a.index),
      reply "keyedit.prompt" (a.command ++ "\n")] ++ questions ++ closing

def Documented : Editor → List Exchange → Prop
  | .trust a => TrustDialogue a
  | .sign a => SignDialogue a

/-! ## The generators speak the documented dialogues -/

theorem answer_yields {π : Type} {prompt data : String} {args v : Option String} {next q : π} :
    answer prompt args data next = .yields v q ↔
      (args, v) = reply prompt data ∧ q = next := by
  unfold answer reply
  split
  next asked => simp [asked, eq_comm]
  next other => simp [other]

/-- What is left of the dialogue at each position. -/
def TrustSpeaks (a : TrustArgs) : TrustYield → List Exchange → Prop
  | .started, word => TrustDialogue a word
  | .trust, word => ∃ confirmed ∈ confirmation,
      word = reply "edit_ownertrust.value" (number a.trust) :: (confirmed ++ closing)
  | .value, word => ∃ confirmed ∈ confirmation, word = confirmed ++ closing
  | .ultimate, word => word = closing
  | .quit, word => word = [reply "keyedit.save.okay" "Y\n"]
  | .save, word => word = []

theorem trust_derivative (a : TrustArgs) (p : TrustYield) (m : Message) (v : Option String)
    (rest : List Exchange) :
    TrustSpeaks a p ((m.2, v) :: rest) ↔
      ∃ q, editTrust a p m = .yields v q ∧ TrustSpeaks a q rest := by
  obtain ⟨status, args⟩ := m
  cases p with
  | started =>
    simp only [TrustSpeaks, TrustDialogue, editTrust, answer_yields, List.cons_append,
      List.nil_append, List.cons.injEq]
    grind
  | trust =>
    simp only [TrustSpeaks, editTrust, answer_yields, List.cons.injEq]
    grind
  | value =>
    simp only [TrustSpeaks, editTrust, confirmation, List.mem_cons, List.not_mem_nil, or_false,
      exists_eq_or_imp, exists_eq_left, List.nil_append, List.cons_append, closing,
      List.cons.injEq]
    split
    next asked => simp [asked, reply, eq_comm]
    next other => simp [answer_yields, other, reply, and_assoc]
  | ultimate =>
    simp [TrustSpeaks, editTrust, answer_yields, closing, and_assoc]
  | quit =>
    simp [TrustSpeaks, editTrust, answer_yields]
  | save =>
    simp [TrustSpeaks, editTrust]

def SignSpeaks (a : SignArgs) : SignYield → List Exchange → Prop
  | .started, word => SignDialogue a word
  | .uid, word => ∃ questions : List Exchange, (∀ x ∈ questions, x ∈ signReplies a) ∧
      word = reply "keyedit.prompt" (a.command ++ "\n") :: (questions ++ closing)
  | .signing, word => ∃ questions : List Exchange, (∀ x ∈ questions, x ∈ signReplies a) ∧
      word = questions ++ closing
  | .quit, word => word = [reply "keyedit.save.okay" "Y\n"]
  | .save, word => word = []

/-- The loop answers the questions of the signing step and is left at the menu. -/
theorem signing_yields (a : SignArgs) (status : Status) (args v : Option String)
    (q : SignYield) :
    editSign a .signing (status, args) = .yields v q ↔
      ((args, v) ∈ signReplies a ∧ q = .signing) ∨
        ((args, v) = reply "keyedit.prompt" "quit\n" ∧ q = .quit) := by
  simp only [editSign, signReplies, reply, List.mem_cons, List.not_mem_nil, or_false,
    Prod.mk.injEq]
  grind

theorem signing_derivative (a : SignArgs) (status : Status) (args v : Option String)
    (rest : List Exchange) :
    SignSpeaks a .signing ((args, v) :: rest) ↔
      ∃ q, editSign a .signing (status, args) = .yields v q ∧ SignSpeaks a q rest := by
  simp only [signing_yields]
  constructor
  · rintro ⟨questions, known, split⟩
    cases questions with
    | nil =>
      cases split
      exact ⟨.quit, .inr ⟨rfl, rfl⟩, rfl⟩
    | cons x others =>
      cases split
      exact ⟨.signing, .inl ⟨known _ (by simp), rfl⟩,
        others, fun x member => known x (by simp [member]), rfl⟩
  · rintro ⟨q, ⟨known, rfl⟩ | ⟨leave, rfl⟩, spoken⟩
    · obtain ⟨questions, knownRest, rfl⟩ := spoken
      exact ⟨(args, v) :: questions, by simpa [known] using knownRest, rfl⟩
    · cases spoken
      exact ⟨[], by simp, by simp [closing, leave]⟩

theorem sign_derivative (a : SignArgs) (p : SignYield) (m : Message) (v : Option String)
    (rest : List Exchange) :
    SignSpeaks a p ((m.2, v) :: rest) ↔
      ∃ q, editSign a p m = .yields v q ∧ SignSpeaks a q rest := by
  obtain ⟨status, args⟩ := m
  cases p with
  | started =>
    simp only [SignSpeaks, SignDialogue, editSign, answer_yields, List.cons_append,
      List.nil_append, List.cons.injEq]
    grind
  | uid =>
    simp only [SignSpeaks, editSign, answer_yields, List.cons.injEq]
    grind
  | signing => exact signing_derivative a status args v rest
  | quit => simp [SignSpeaks, editSign, answer_yields]
  | save => simp [SignSpeaks, editSign]

/-- An exchange as it was sent to and yielded by a generator. -/
def exchange (x : Message × Option String) : Exchange := (x.1.2, x.2)

/-- What a started generator can say are the beginnings of its dialogues. -/
theorem speaks_documented (e : Editor) (said : List (Message × Option String)) :
    (∃ q, Talk e.gen e.started said q) ↔
      ∃ dialogue, Documented e dialogue ∧ said.map exchange <+: dialogue := by
  cases e with
  | trust a =>
    apply talk_iff_prefix (fun p => ?_) (trust_derivative a) TrustYield.started said
    cases p with
    | started | trust | value => exact ⟨_, [], by simp [confirmation], rfl⟩
    | ultimate | quit | save => exact ⟨_, rfl⟩
  | sign a =>
    apply talk_iff_prefix (fun p => ?_) (sign_derivative a) SignYield.started said
    cases p with
    | started | uid | signing => exact ⟨_, [], by simp, rfl⟩
    | quit | save => exact ⟨_, rfl⟩

/-! ## The calls that are not skipped -/

def asks (ev : Event) : Bool := ev.status ∉ ignored

def asked (events : List Event) : List Event := events.filter asks

def message (ev : Event) : Message := (ev.status, ev.args)

section
variable {π : Type} {gen : KeyEditorGen π}

theorem editCallback_of_asks (gen : KeyEditorGen π) (g : Option π) {ev : Event} (asking : asks ev = true) :
    editCallback gen g ev =
      (answerSent ev (send gen g (message ev)).1, (send gen g (message ev)).2) :=
  editCallback_asked (of_decide_eq_true asking)

theorem editCallback_of_not_asks {g : Option π} {ev : Event} (quiet : ¬ asks ev = true) :
    editCallback gen g ev = (silent, g) :=
  editCallback_ignored (by simpa [asks] using quiet)

/-- An event that is skipped changes nothing for the others. -/
theorem calls_asked (gen : KeyEditorGen π) (g : Option π) (events : List Event) :
    (events.zip (deliver gen g events)).filter (fun call => asks call.1) =
      (asked events).zip (deliver gen g (asked events)) := by
  induction events generalizing g with
  | nil => rfl
  | cons ev rest ih =>
    by_cases asking : asks ev = true
    · simp [asked, deliver, asking] at ih ⊢
      exact ih _
    · rw [deliver, editCallback_of_not_asks asking]
      simp [asked, asking] at ih ⊢
      exact ih g

theorem silent_of_skipped (g : Option π) (events : List Event) :
    ∀ call ∈ events.zip (deliver gen g events), ¬ asks call.1 = true → call.2 = silent := by
  induction events generalizing g with
  | nil => simp [deliver]
  | cons ev rest ih =>
    intro call member quiet
    simp only [deliver, List.zip_cons_cons, List.mem_cons] at member
    obtain rfl | later := member
    · rw [editCallback_of_not_asks quiet]
    · exact ih _ call later quiet

/-- After its end a generator refuses everything. -/
theorem deliver_finished (gen : KeyEditorGen π) {events : List Event} (asking : ∀ ev ∈ events, asks ev = true) :
    deliver gen none events = events.map (fun _ => refuse .general) ∧
      settle gen none events = none := by
  induction events with
  | nil => exact ⟨rfl, rfl⟩
  | cons ev rest ih =>
    have first := editCallback_of_asks gen none (asking ev (by simp))
    obtain ⟨answers, stays⟩ := ih fun later member => asking later (by simp [member])
    simp [deliver, settle, first, answers, stays, answerSent]

/-- What does not fit ends the generator. -/
theorem editCallback_misfit (q : π) {ev : Event} (asking : asks ev = true)
    (misfit : ∀ v r, gen q (message ev) ≠ .yields v r) :
    ∃ e, editCallback gen (some q) ev = (refuse e, none) := by
  rw [editCallback_of_asks gen _ asking]
  cases resumed : gen q (message ev) with
  | yields v r => exact absurd resumed (misfit v r)
  | returns => exact ⟨.general, by simp [send, resumed, answerSent]⟩
  | raises e => exact ⟨e, by simp [send, resumed, answerSent]⟩

/-- What the callback does with the replies of the generator. -/
def answersTo (events : List Event) (said : List (Message × Option String)) : List Answer :=
  List.zipWith (fun ev x => answerSent ev (.value x.2)) events said

theorem deliver_talk {p q : π} {said : List (Message × Option String)} {events : List Event}
    (talk : Talk gen p said q) (asking : ∀ ev ∈ events, asks ev = true)
    (same : said.map Prod.fst = events.map message) :
    deliver gen (some p) events = answersTo events said ∧
      settle gen (some p) events = some q := by
  induction talk generalizing events with
  | nil p =>
    cases events with
    | nil => exact ⟨rfl, rfl⟩
    | cons ev rest => cases same
  | cons answered _ ih =>
    cases events with
    | nil => cases same
    | cons ev rest =>
      simp only [List.map_cons, List.cons.injEq] at same
      obtain ⟨rfl, tails⟩ := same
      have first := fun g : Option π => editCallback_of_asks gen g (asking ev (by simp))
      have sent := send_of_yields answered
      obtain ⟨answers, settled⟩ :=
        ih (fun later member => asking later (by simp [member])) tails
      simp [deliver, settle, first, sent, answers, settled, answersTo]

/-- The calls split into those that were answered and, from the first misfit on,
refusals. -/
theorem answered_then_refused (gen : KeyEditorGen π) (p : π) {events : List Event}
    (asking : ∀ ev ∈ events, asks ev = true) :
    ∃ before after said q, ∃ errors : List EditError, events = before ++ after ∧ Talk gen p said q ∧
      said.map Prod.fst = before.map message ∧
      deliver gen (some p) events = answersTo before said ++ errors.map refuse ∧
      errors.length = after.length ∧
      ∀ ev rest, after = ev :: rest → ∀ v r, gen q (message ev) ≠ .yields v r := by
  obtain ⟨said, q, talk, same⟩ | ⟨sent, m, later, said, q, split, talk, same, stops⟩ :=
    talk_or_stops gen p (events.map message)
  · obtain ⟨answers, _⟩ := deliver_talk talk asking same
    exact ⟨events, [], said, q, [], by simp, talk, same, by simp [answers], rfl, by simp⟩
  · obtain ⟨before, after, rfl, rfl, tail⟩ := List.map_eq_append_iff.mp split
    obtain ⟨ev, rest, rfl, rfl, rfl⟩ := List.map_eq_cons_iff.mp tail
    have answered := deliver_talk talk (fun x member => asking x (by simp [member])) same
    obtain ⟨e, misfit⟩ := editCallback_misfit q (asking ev (by simp)) stops
    have finished := deliver_finished gen
      (fun x (member : x ∈ rest) => asking x (by simp [member]))
    refine ⟨before, ev :: rest, said, q, e :: rest.map fun _ => .general, rfl, talk, same, ?_,
      by simp, ?_⟩
    · rw [deliver_append, answered.1, answered.2, deliver, misfit, finished.1]
      simp
    · rintro _ _ ⟨rfl, rfl⟩
      exact stops

end

/-! ## Replies are ASCII -/

def Ascii (data : String) : Prop := ∀ c ∈ data.toList, c.toNat < 128

instance (data : String) : Decidable (Ascii data) :=
  List.decidableBAll (fun c : Char => c.toNat < 128) data.toList

theorem encodeAscii_of_ascii {data : String} (ascii : Ascii data) :
    encodeAscii data = some (data.toList.map fun c => UInt8.ofNat c.toNat) :=
  if_pos (by simpa [Ascii] using ascii)

theorem Ascii.append {first second : String} (left : Ascii first) (right : Ascii second) :
    Ascii (first ++ second) := by
  intro c member
  rw [String.toList_append, List.mem_append] at member
  exact member.elim (left c) (right c)

theorem ascii_toString_nat (n : Nat) : Ascii (toString n) := by
  intro c member
  rw [Nat.toString_eq_ofList_toDigits, String.toList_ofList] at member
  have digit := Nat.isDigit_of_mem_toDigits (by omega) (by omega) member
  simp only [Char.isDigit, Bool.and_eq_true, decide_eq_true_eq, UInt32.le_iff_toNat_le] at digit
  have bound : c.toNat ≤ 57 := digit.2
  omega

theorem ascii_number (n : Int) : Ascii (number n) := by
  apply Ascii.append _ (by decide)
  cases n with
  | ofNat n => exact ascii_toString_nat n
  | negSucc n => exact Ascii.append (by decide) (ascii_toString_nat (n + 1))

/-- A reply, as the engine can read it. -/
def Told (x : Exchange) : Prop :=
  ∃ prompt data, x = reply prompt data ∧ Ascii data ∧ data.toList ≠ []

theorem told_line (prompt data : String) (ascii : Ascii data) :
    Told (reply prompt (data ++ "\n")) :=
  ⟨prompt, data ++ "\n", rfl, ascii.append (by decide), by simp⟩

theorem told_number (prompt : String) (n : Int) : Told (reply prompt (number n)) :=
  ⟨prompt, number n, rfl, ascii_number n, by simp [number]⟩

theorem told_uid (prompt : String) (n : Int) : Told (reply prompt ("uid " ++ number n)) :=
  ⟨prompt, _, rfl, Ascii.append (by decide) (ascii_number n), by simp [number]⟩

theorem told_closing : ∀ x ∈ closing, Told x := by
  simp only [closing, List.mem_cons, List.not_mem_nil, or_false, forall_eq_or_imp, forall_eq]
  exact ⟨told_line _ "quit" (by decide), told_line _ "Y" (by decide)⟩

theorem told_signReplies (a : SignArgs) : ∀ x ∈ signReplies a, Told x := by
  have yes (prompt : String) : Told (reply prompt "Y\n") :=
    told_line prompt "Y" (by decide)
  have answerExpire : Ascii (if a.expire then "Y" else "N") := by
    split <;> decide
  simp only [signReplies, List.mem_cons, List.not_mem_nil, or_false, forall_eq_or_imp, forall_eq]
  exact ⟨yes _, told_line _ _ answerExpire, told_number _ _, yes _⟩

theorem ascii_command (a : SignArgs) : Ascii a.command := by
  unfold SignArgs.command
  cases a.isLocal <;> cases a.norevoke <;> decide

theorem documented_told {e : Editor} {dialogue : List Exchange}
    (documented : Documented e dialogue) : ∀ x ∈ dialogue, Told x := by
  cases e with
  | trust a =>
    obtain ⟨confirmed, known, rfl⟩ := documented
    have confirms : ∀ x ∈ confirmed, Told x := by
      simp only [confirmation, List.mem_cons, List.not_mem_nil, or_false] at known
      obtain rfl | rfl := known
      · simp
      · simpa using told_line _ "Y" (by decide)
    intro x member
    simp only [List.mem_append, List.mem_cons, List.not_mem_nil, or_false] at member
    obtain ((rfl | rfl) | inside) | last := member
    · exact told_line _ "trust" (by decide)
    · exact told_number _ _
    · exact confirms x inside
    · exact told_closing x last
  | sign a =>
    obtain ⟨questions, known, rfl⟩ := documented
    intro x member
    simp only [List.mem_append, List.mem_cons, List.not_mem_nil, or_false] at member
    obtain ((rfl | rfl) | inside) | last := member
    · exact told_uid _ _
    · exact told_line _ _ (ascii_command a)
    · exact told_signReplies a x (known x inside)
    · exact told_closing x last

/-! ## Each reply to its own prompt -/

/-- The condition holds of every exchange, with those before it. -/
def Each (cond : List Exchange → Exchange → Prop) : List Exchange → List Exchange → Prop
  | _, [] => True
  | before, x :: rest => cond before x ∧ Each cond (before ++ [x]) rest

theorem each_append {cond : List Exchange → Exchange → Prop} (before first second : List Exchange) :
    Each cond before (first ++ second) ↔
      Each cond before first ∧ Each cond (before ++ first) second := by
  induction first generalizing before with
  | nil => simp [Each]
  | cons x rest ih => simp [Each, ih, and_assoc]

theorem each_of_prefix {cond : List Exchange → Exchange → Prop} {before short long : List Exchange}
    (begins : short <+: long) (all : Each cond before long) : Each cond before short := by
  obtain ⟨rest, rfl⟩ := begins
  exact ((each_append before short rest).mp all).1

/-- A condition that does not look back. -/
theorem each_of_forall {cond : List Exchange → Exchange → Prop} (before : List Exchange)
    {said : List Exchange} (all : ∀ x ∈ said, ∀ earlier, cond earlier x) :
    Each cond before said := by
  induction said generalizing before with
  | nil => trivial
  | cons x rest ih =>
    exact ⟨all x (by simp) before, ih _ fun y member => all y (by simp [member])⟩

/-- The replies that decide something, and the prompts they are for. -/
def OwnPrompt : Editor → List Exchange → Exchange → Prop
  | .trust a, before, x =>
    (x.2 = some (number a.trust) → x.1 = some "edit_ownertrust.value" ∧
      before.getLast? = some (reply "keyedit.prompt" "trust\n")) ∧
    (x.2 = some "Y\n" → x.1 = some "edit_ownertrust.set_ultimate.okay" ∨
      x.1 = some "keyedit.save.okay") ∧
    (x.2 = some "quit\n" → x.1 = some "keyedit.prompt" ∧
      reply "edit_ownertrust.value" (number a.trust) ∈ before)
  | .sign a, before, x =>
    (x.2 = some (number a.check) → x.1 = some "sign_uid.class") ∧
    (x.2 = some "Y\n" → x.1 = some "keyedit.sign_all.okay" ∨ x.1 = some "sign_uid.okay" ∨
      (x.1 = some "sign_uid.expire" ∧ a.expire = true) ∨ x.1 = some "keyedit.save.okay") ∧
    (x.2 = some "quit\n" → x.1 = some "keyedit.prompt" ∧
      reply "keyedit.prompt" (a.command ++ "\n") ∈ before)

theorem number_ne (n : Int) (digit : n ∈ ([0, 1, 2, 3, 4, 5] : List Int)) :
    ∀ data ∈ ["trust\n", "Y\n", "N\n", "quit\n"], number n ≠ data := by
  simp only [List.mem_cons, List.not_mem_nil, or_false] at digit
  rcases digit with rfl | rfl | rfl | rfl | rfl | rfl <;> decide

theorem trust_ownPrompt {a : TrustArgs} {dialogue : List Exchange}
    (documented : TrustDialogue a dialogue) : Each (OwnPrompt (.trust a)) [] dialogue := by
  obtain ⟨confirmed, known, rfl⟩ := documented
  have digit : a.trust ∈ ([0, 1, 2, 3, 4, 5] : List Int) := List.mem_cons_of_mem 0 a.accepted
  have differs := number_ne a.trust digit
  simp only [confirmation, List.mem_cons, List.not_mem_nil, or_false] at known
  simp only [List.mem_cons, List.not_mem_nil, or_false, forall_eq_or_imp, forall_eq] at differs
  obtain rfl | rfl := known <;>
    simp [Each, OwnPrompt, closing, reply, differs, Ne.symm, eq_comm]

theorem uid_ne (rest data : String) (other : data.toList.head? ≠ some 'u') :
    "uid " ++ rest ≠ data := by
  rintro rfl
  exact other (by simp)

theorem command_ne (a : SignArgs) :
    ∀ data ∈ ["Y\n", "quit\n", number 0, number 1, number 2, number 3],
      a.command ++ "\n" ≠ data := by
  unfold SignArgs.command
  cases a.isLocal <;> cases a.norevoke <;> decide

theorem sign_ownPrompt {a : SignArgs} {dialogue : List Exchange}
    (documented : SignDialogue a dialogue) : Each (OwnPrompt (.sign a)) [] dialogue := by
  obtain ⟨questions, known, rfl⟩ := documented
  have check : a.check = 0 ∨ a.check = 1 ∨ a.check = 2 ∨ a.check = 3 := by
    simpa using a.checked
  have differs : ∀ data ∈ ["trust\n", "Y\n", "N\n", "quit\n"], data ≠ number a.check :=
    fun data member => (number_ne a.check (by simp; omega) data member).symm
  simp only [List.mem_cons, List.not_mem_nil, or_false, forall_eq_or_imp, forall_eq] at differs
  have quit : number a.check ≠ "quit\n" := differs.2.2.2.symm
  have yes : number a.check ≠ "Y\n" := differs.2.1.symm
  have asking : ∀ x ∈ questions, ∀ earlier, OwnPrompt (.sign a) earlier x := by
    intro x inside earlier
    have member := known x inside
    simp only [signReplies, List.mem_cons, List.not_mem_nil, or_false] at member
    obtain rfl | rfl | rfl | rfl := member
    · simp [OwnPrompt, reply, differs]
    · cases expire : a.expire <;> simp [OwnPrompt, reply, differs, expire]
    · simp [OwnPrompt, reply, quit, yes]
    · simp [OwnPrompt, reply, differs]
  have uidOther := uid_ne (number a.index)
  have uidCheck : "uid " ++ number a.index ≠ number a.check := by
    rcases check with h | h | h | h <;> rw [h] <;> exact uidOther _ (by decide)
  have commandOther := command_ne a
  have commandCheck : a.command ++ "\n" ≠ number a.check := by
    rcases check with h | h | h | h <;> rw [h] <;> exact commandOther _ (by simp)
  rw [each_append, each_append]
  refine ⟨⟨?_, each_of_forall _ asking⟩, ?_⟩
  · simp [Each, OwnPrompt, reply, uidCheck, commandCheck, uidOther "Y\n" (by decide),
      uidOther "quit\n" (by decide), commandOther]
  · simp [Each, OwnPrompt, closing, reply, differs]

theorem documented_ownPrompt {e : Editor} {dialogue : List Exchange}
    (documented : Documented e dialogue) : Each (OwnPrompt e) [] dialogue := by
  cases e with
  | trust a => exact trust_ownPrompt documented
  | sign a => exact sign_ownPrompt documented

/-! ## The dialogue is kept to -/

/-- The call got this prompt and passed this reply to `os.write`. -/
def Replies (x : Exchange) (call : Event × Answer) : Prop :=
  call.1.args = x.1 ∧ ∃ data bytes, x.2 = some data ∧ encodeAscii data = some bytes ∧
    call.2 = osWrite call.1 bytes

/-- Calls that begin a documented dialogue, and after them refusals only. -/
structure Followed (e : Editor) (said : List Exchange)
    (answered refused : List (Event × Answer)) : Prop where
  documented : ∃ dialogue, Documented e dialogue ∧ said <+: dialogue
  ownPrompts : Each (OwnPrompt e) [] said
  replies : List.Forall₂ Replies said answered
  misfit : ∀ call rest, refused = call :: rest → ∀ data dialogue, Documented e dialogue →
    ¬ said ++ [(call.1.args, data)] <+: dialogue
  refused : ∀ call ∈ refused, call.2.written = [] ∧ call.2.raised.isSome = true

theorem replies_of_said {said : List (Message × Option String)} {events : List Event}
    (same : said.map Prod.fst = events.map message) (told : ∀ x ∈ said, Told (exchange x)) :
    List.Forall₂ Replies (said.map exchange) (events.zip (answersTo events said)) := by
  induction said generalizing events with
  | nil =>
    cases events with
    | nil => exact .nil
    | cons ev rest => cases same
  | cons x later ih =>
    cases events with
    | nil => cases same
    | cons ev rest =>
      simp only [List.map_cons, List.cons.injEq] at same
      obtain ⟨prompt, data, shape, ascii, _⟩ := told x (by simp)
      have encoded := encodeAscii_of_ascii ascii
      simp only [exchange, reply, Prod.mk.injEq] at shape
      refine .cons ⟨?_, data, _, shape.2, encoded, ?_⟩
        (ih same.2 fun y member => told y (by simp [member]))
      · simp [exchange, same.1, message]
      · simp [shape.2, answerSent, writeReply, encoded]

/-- No documented dialogue goes on with a prompt that ends the generator. -/
theorem misfit_undocumented {e : Editor} {said : List (Message × Option String)} {q : e.Yield}
    {ev : Event} (talk : Talk e.gen e.started said q)
    (stops : ∀ v r, e.gen q (message ev) ≠ .yields v r) (data : Option String)
    {dialogue : List Exchange} (documented : Documented e dialogue) :
    ¬ said.map exchange ++ [(ev.args, data)] <+: dialogue := by
  intro continues
  obtain ⟨r, longer⟩ := (speaks_documented e (said ++ [(message ev, data)])).mpr
    ⟨dialogue, documented, by simpa [exchange, message] using continues⟩
  obtain ⟨q', first, last⟩ := longer.split
  obtain ⟨_, rfl⟩ := talk.deterministic first rfl
  obtain ⟨r', yields, _⟩ := talk_cons_iff.mp last
  exact stops data r' yields

theorem length_answersTo {said : List (Message × Option String)} {events : List Event}
    (same : said.map Prod.fst = events.map message) :
    (answersTo events said).length = events.length := by
  have lengths := congrArg List.length same
  simp only [List.length_map] at lengths
  simp [answersTo, lengths]

/-- For every editor and every list of events, delivered to the end whatever the
callback raises: a skipped event does nothing; the others are answered as a documented
dialogue goes on, each reply to its own prompt, and the first that does not fit and all
those after it raise and write nothing. -/
theorem dialogue_followed (e : Editor) (events : List Event) :
    (∀ call ∈ events.zip (e.answers events), call.1.status ∈ ignored → call.2 = silent) ∧
      ∃ said answered refused,
        (events.zip (e.answers events)).filter (fun call => call.1.status ∉ ignored) =
          answered ++ refused ∧ Followed e said answered refused := by
  constructor
  · intro call member skipped
    exact silent_of_skipped _ events call member (by simpa [asks] using skipped)
  · obtain ⟨before, after, said, q, errors, split, talk, same, answers, sameLength, stops⟩ :=
      answered_then_refused e.gen e.started
        (fun ev (member : ev ∈ asked events) => List.of_mem_filter member)
    obtain ⟨dialogue, documented, begins⟩ := (speaks_documented e said).mp ⟨q, talk⟩
    have calls := calls_asked e.gen (some e.started) events
    rw [answers, split, List.zip_append (length_answersTo same).symm] at calls
    refine ⟨said.map exchange, _, _, calls, ⟨dialogue, documented, begins⟩,
      each_of_prefix begins (documented_ownPrompt documented), ?_, ?_, ?_⟩
    · apply replies_of_said same
      intro x member
      exact documented_told documented _ (begins.subset (List.mem_map_of_mem member))
    · intro call rest first data other spoken
      cases after with
      | nil => cases first
      | cons ev later =>
        cases errors with
        | nil => cases sameLength
        | cons error errors =>
          cases first
          exact misfit_undocumented talk (stops ev later rfl) data spoken
    · intro call member
      obtain ⟨_, inside⟩ := List.of_mem_zip member
      obtain ⟨error, _, shape⟩ := List.mem_map.mp inside
      simp [← shape, refuse]

/-- Ultimate trust, with a notice that is skipped and a prompt too many at the end. -/
example :
    ((Editor.trust ⟨5, by decide⟩).answers
        [⟨.getLine, some "keyedit.prompt", .written⟩,
          ⟨.gotIt, none, .written⟩,
          ⟨.getLine, some "edit_ownertrust.value", .written⟩,
          ⟨.getBool, some "edit_ownertrust.set_ultimate.okay", .written⟩,
          ⟨.getLine, some "edit_ownertrust.value", .written⟩]).map (·.written) =
      [[116, 114, 117, 115, 116, 10], [], [53, 10], [89, 10], []] := by
  decide

end Pygpgme.Guarantees.KeyDialogue
