/-
  The grammar of commands, with its errors.

  What a text means as a command is a matter of seven rules.  Each takes texts of one form and
  gives them one kind of answer: a command, or the reason why the text is none.  The rules speak of
  the text without the blanks at its ends, and of two kinds of space: only the space itself ends a
  verb or an id, while any blank may stand between a verb and its argument.  A text that no rule
  takes starts with a word that is no verb.

  The rules are told apart by their answers (`Rule.ofAnswer?`), so a text that two of them take
  would be read in two ways; and the reader gives every text that a rule takes the answer of that
  rule (`parse_of_follows`).  So no text is taken by two.  The crux is the other half, that every
  text behind a verb is taken by some rule (`exists_follows`): what stands behind the space is
  never empty or blank, since the text was trimmed, so there is an argument to be a number or not.
-/
import DebugDesk.Command
import DebugDesk.Proofs.Text.Decimal

namespace DebugDesk.Command

open DebugDesk.Text (eq_append_of_splitFirst eq_nil_of_trim_eq_append isBlank
  notMem_of_splitFirst_eq_none splitFirst splitFirst_append splitFirst_eq_none takeWhile_append_mark
  takeWhile_append_of_notMem takeWhile_of_notMem trim trimStart_append)
open DebugDesk.Text.Decimal (Writes word32?_eq_some_iff)

/-! ## Number tokens -/

/-- A token writes a number: a run of digits that writes a word, behind a plus sign or not. -/
def NumberToken (token : List Char) (n : UInt32) : Prop :=
  ∃ digits, Writes digits n ∧ (token = digits ∨ token = '+' :: digits)

theorem number?_eq_some_iff {token : List Char} {n : UInt32} :
    number? token = some n ↔ NumberToken token n := by
  unfold number?
  split
  · rename_i digits
    rw [word32?_eq_some_iff]
    constructor
    · exact fun h => ⟨digits, h, Or.inr rfl⟩
    · rintro ⟨digits', h, rfl | heq⟩
      · exact absurd (h.isDigit '+' List.mem_cons_self) (by decide)
      · injection heq with _ hdigits
        rw [hdigits]
        exact h
  · rename_i hplus
    rw [word32?_eq_some_iff]
    constructor
    · exact fun h => ⟨token, h, Or.inl rfl⟩
    · rintro ⟨digits, h, rfl | rfl⟩
      · exact h
      · exact absurd rfl (hplus digits)

theorem number?_eq_none_iff {token : List Char} :
    number? token = none ↔ ∀ n, ¬ NumberToken token n := by
  rw [Option.eq_none_iff_forall_ne_some]
  exact forall_congr' fun n => not_congr number?_eq_some_iff

/-! ## Verbs -/

namespace Verb

/-- The command of a verb that takes no argument. -/
def bare? : Verb → Option Command
  | resume => some .resume
  | next => some .next
  | _ => none

/-- The commands of a verb that takes a number and nothing else. -/
def numbered? : Verb → Option (UInt32 → Command)
  | breakAt => some .breakAt
  | clearAt => some .clearAt
  | _ => none

theorem cases_argument (verb : Verb) :
    (∃ command, verb.bare? = some command) ∨ (∃ command, verb.numbered? = some command) ∨
      verb = condition := by
  cases verb with
  | resume => exact Or.inl ⟨_, rfl⟩
  | next => exact Or.inl ⟨_, rfl⟩
  | breakAt => exact Or.inr (Or.inl ⟨_, rfl⟩)
  | clearAt => exact Or.inr (Or.inl ⟨_, rfl⟩)
  | condition => exact Or.inr (Or.inr rfl)

theorem space_notMem_word (verb : Verb) : ' ' ∉ verb.word.toList := by
  cases verb <;> decide

theorem ofWord?_word (verb : Verb) : ofWord? verb.word.toList = some verb := by
  cases verb <;> decide

theorem eq_word_of_ofWord? {word : List Char} {verb : Verb} (h : ofWord? word = some verb) :
    word = verb.word.toList := by
  have hword := List.find?_some h
  exact (of_decide_eq_true hword).symm

/-- No verb is the beginning of another. -/
theorem word_append_ne (verb other : Verb) (mark : Char) (rest : List Char) :
    verb.word.toList ++ mark :: rest ≠ other.word.toList := by
  cases verb <;> cases other <;> simp [word]

end Verb

/-! ## Arguments -/

/-- An argument stands behind a verb: a space follows the verb, then blanks may follow, and what
    comes then starts with something visible. -/
structure Behind (verb : Verb) (argument text : List Char) : Prop where
  exists_blanks : ∃ blanks, (∀ c ∈ blanks, isBlank c) ∧
    text = verb.word.toList ++ ' ' :: (blanks ++ argument)
  visible : ∃ c rest, argument = c :: rest ∧ isBlank c = false

/-- A cut of an argument: a token up to the first space, and the expression behind that space; if
    there is no space, all of it is the token and the expression is empty. -/
inductive Cut : (token expression argument : List Char) → Prop
  | whole {token : List Char} : ' ' ∉ token → Cut token [] token
  | space {token expression : List Char} : ' ' ∉ token →
    Cut token expression (token ++ ' ' :: expression)

theorem Cut.splitFirst_eq {token expression argument : List Char}
    (h : Cut token expression argument) :
    (splitFirst ' ' argument).getD (argument, []) = (token, expression) := by
  cases h with
  | whole h =>
    rw [splitFirst_eq_none h]
    rfl
  | space h =>
    rw [splitFirst_append ' ' token expression h]
    rfl

theorem exists_cut (argument : List Char) : ∃ token expression, Cut token expression argument := by
  cases hsplit : splitFirst ' ' argument with
  | none => exact ⟨argument, [], .whole (notMem_of_splitFirst_eq_none hsplit)⟩
  | some pieces =>
    obtain ⟨token, expression⟩ := pieces
    obtain ⟨rfl, htoken⟩ := eq_append_of_splitFirst hsplit
    exact ⟨token, expression, .space htoken⟩

/-- The token of an argument is not empty, since the argument starts with something visible. -/
theorem Cut.token_ne_nil {token expression argument : List Char} (h : Cut token expression argument)
    (hvisible : ∃ c rest, argument = c :: rest ∧ isBlank c = false) : token ≠ [] := by
  rintro rfl
  obtain ⟨c, rest, hargument, hc⟩ := hvisible
  cases h with
  | whole _ => nomatch hargument
  | space _ =>
    injection hargument with hspace _
    subst hspace
    exact absurd hc (by decide)

/-! ## The rules -/

/-- The forms of texts that are read. -/
inductive Rule where
  /-- A verb stands alone that takes no argument. -/
  | alone
  /-- A verb stands alone that takes an argument. -/
  | lacking
  /-- A number stands behind a verb that takes one. -/
  | number
  /-- Something else stands there. -/
  | noNumber
  /-- An id and perhaps an expression stand behind `condition`. -/
  | condition
  /-- Something else stands in place of the id. -/
  | noId
  /-- Something stands behind a verb that takes no argument. -/
  | surplus
  deriving DecidableEq, Repr

/-- What a text without blanks at its ends means by a rule. -/
inductive Follows : Rule → List Char → Except ParseError Command → Prop
  | alone {verb : Verb} {command : Command} : verb.bare? = some command →
    Follows .alone verb.word.toList (.ok command)
  | lacking {verb : Verb} : verb.bare? = none →
    Follows .lacking verb.word.toList (.error (.missingArgument verb))
  | number {verb : Verb} {command : UInt32 → Command} {token text : List Char} {n : UInt32} :
    verb.numbered? = some command → Behind verb token text → NumberToken token n →
    Follows .number text (.ok (command n))
  | noNumber {verb : Verb} {command : UInt32 → Command} {token text : List Char} :
    verb.numbered? = some command → Behind verb token text → (∀ n, ¬ NumberToken token n) →
    Follows .noNumber text (.error (.invalidNumber verb (String.ofList token)))
  | condition {token expression argument text : List Char} {id : UInt32} :
    Behind .condition argument text → Cut token expression argument → NumberToken token id →
    Follows .condition text (.ok (.condition id (String.ofList expression)))
  | noId {token expression argument text : List Char} :
    Behind .condition argument text → Cut token expression argument →
    (∀ id, ¬ NumberToken token id) →
    Follows .noId text (.error (.invalidNumber .condition (String.ofList token)))
  | surplus {verb : Verb} {command : Command} (rest : List Char) : verb.bare? = some command →
    Follows .surplus (verb.word.toList ++ ' ' :: rest) (.error (.unexpectedArgument verb))

/-- What a text without blanks at its ends means: what a rule says, or that its first word is no
    verb if it has none of the forms. -/
inductive Reads : Option Rule → List Char → Except ParseError Command → Prop
  | rule {rule : Rule} {text : List Char} {answer : Except ParseError Command} :
    Follows rule text answer → Reads (some rule) text answer
  | none {text : List Char} : (∀ rule answer, ¬ Follows rule text answer) →
    Reads none text (.error (.unknownVerb (String.ofList (text.takeWhile (· ≠ ' ')))))

/-- The rule that gives an answer. -/
def Rule.ofAnswer? : Except ParseError Command → Option Rule
  | .ok .resume => some alone
  | .ok .next => some alone
  | .ok (.breakAt _) => some number
  | .ok (.clearAt _) => some number
  | .ok (.condition _ _) => some condition
  | .error (.missingArgument _) => some lacking
  | .error (.invalidNumber .condition _) => some noId
  | .error (.invalidNumber _ _) => some noNumber
  | .error (.unexpectedArgument _) => some surplus
  | .error (.unknownVerb _) => none

variable {rule : Rule} {text argument : List Char} {answer : Except ParseError Command}
  {source : String} {verb : Verb}

/-- **Answers tell the rules apart.** -/
theorem Follows.ofAnswer? (h : Follows rule text answer) : Rule.ofAnswer? answer = some rule := by
  cases h with
  | @alone verb command hverb =>
    cases verb <;> cases hverb <;> rfl
  | lacking _ => rfl
  | @number verb command token text n hverb _ _ =>
    cases verb <;> cases hverb <;> rfl
  | @noNumber verb command token text hverb _ _ =>
    cases verb <;> cases hverb <;> rfl
  | condition _ _ _ => rfl
  | noId _ _ _ => rfl
  | surplus _ _ => rfl

theorem Reads.ofAnswer? {rule : Option Rule} (h : Reads rule text answer) :
    Rule.ofAnswer? answer = rule := by
  cases h with
  | rule h => exact h.ofAnswer?
  | none _ => rfl

/-- A text with a form starts with a verb. -/
theorem Follows.exists_verb (h : Follows rule text answer) :
    ∃ verb : Verb, text.takeWhile (· ≠ ' ') = verb.word.toList := by
  have halone : ∀ verb : Verb, verb.word.toList.takeWhile (· ≠ ' ') = verb.word.toList :=
    fun verb => takeWhile_of_notMem verb.space_notMem_word
  have hbehind : ∀ {verb : Verb} {argument text : List Char}, Behind verb argument text →
      text.takeWhile (· ≠ ' ') = verb.word.toList := by
    intro verb argument text h
    obtain ⟨blanks, _, rfl⟩ := h.exists_blanks
    exact takeWhile_append_mark verb.space_notMem_word _
  cases h with
  | @alone verb command _ => exact ⟨verb, halone verb⟩
  | @lacking verb _ => exact ⟨verb, halone verb⟩
  | @number verb _ _ _ _ _ h _ => exact ⟨verb, hbehind h⟩
  | @noNumber verb _ _ _ _ h _ => exact ⟨verb, hbehind h⟩
  | condition h _ _ => exact ⟨.condition, hbehind h⟩
  | noId h _ _ => exact ⟨.condition, hbehind h⟩
  | @surplus verb _ rest _ => exact ⟨verb, takeWhile_append_mark verb.space_notMem_word rest⟩

/-! ## Every text behind a verb has a form -/

/-- Behind a verb and a space stands an argument, since the text was trimmed. -/
theorem behind_of_trim {rest : List Char}
    (htrim : trim source.toList = verb.word.toList ++ ' ' :: rest) :
    ∃ argument, Behind verb argument (trim source.toList) := by
  have hrest : rest = rest.takeWhile isBlank ++ rest.dropWhile isBlank :=
    List.takeWhile_append_dropWhile.symm
  have hblanks : ∀ c ∈ rest.takeWhile isBlank, isBlank c :=
    fun c hc => List.all_eq_true.mp List.all_takeWhile c hc
  refine ⟨rest.dropWhile isBlank, ⟨rest.takeWhile isBlank, hblanks, ?_⟩, ?_⟩
  · rw [← hrest]
    exact htrim
  · cases hargument : rest.dropWhile isBlank with
    | cons c tail =>
      have hvisible := List.head?_dropWhile_not isBlank rest
      rw [hargument] at hvisible
      exact ⟨c, tail, rfl, hvisible⟩
    | nil =>
      -- otherwise the space and the blanks behind it would end the text
      rw [hargument, List.append_nil] at hrest
      have hall : ∀ c ∈ ' ' :: rest, isBlank c := by
        intro c hc
        rcases List.mem_cons.mp hc with rfl | hc
        · decide
        · rw [hrest] at hc
          exact hblanks c hc
      nomatch eq_nil_of_trim_eq_append hall htrim

theorem exists_follows_of_behind (h : Behind verb argument text) :
    ∃ rule answer, Follows rule text answer := by
  rcases verb.cases_argument with ⟨command, hverb⟩ | ⟨command, hverb⟩ | rfl
  · obtain ⟨blanks, _, rfl⟩ := h.exists_blanks
    exact ⟨_, _, .surplus _ hverb⟩
  · by_cases htoken : ∃ n, NumberToken argument n
    · obtain ⟨n, hn⟩ := htoken
      exact ⟨_, _, .number hverb h hn⟩
    · exact ⟨_, _, .noNumber hverb h (not_exists.mp htoken)⟩
  · obtain ⟨token, expression, hcut⟩ := exists_cut argument
    by_cases htoken : ∃ id, NumberToken token id
    · obtain ⟨id, hid⟩ := htoken
      exact ⟨_, _, .condition h hcut hid⟩
    · exact ⟨_, _, .noId h hcut (not_exists.mp htoken)⟩

/-- **A trimmed text that starts with a verb has a form.** -/
theorem exists_follows (hverb : (trim source.toList).takeWhile (· ≠ ' ') = verb.word.toList) :
    ∃ rule answer, Follows rule (trim source.toList) answer := by
  cases hsplit : splitFirst ' ' (trim source.toList) with
  | none =>
    rw [takeWhile_of_notMem (notMem_of_splitFirst_eq_none hsplit)] at hverb
    rw [hverb]
    cases hbare : verb.bare? with
    | some command => exact ⟨_, _, .alone hbare⟩
    | none => exact ⟨_, _, .lacking hbare⟩
  | some pieces =>
    obtain ⟨word, rest⟩ := pieces
    obtain ⟨htext, hword⟩ := eq_append_of_splitFirst hsplit
    rw [htext, takeWhile_append_mark hword] at hverb
    rw [hverb] at htext
    obtain ⟨argument, hbehind⟩ := behind_of_trim htext
    exact exists_follows_of_behind hbehind

/-! ## Reading -/

theorem parse_of_word (hword : trim source.toList = verb.word.toList) :
    parse source = ofVerb verb [] := by
  simp only [parse, hword, splitFirst_eq_none verb.space_notMem_word, verb.ofWord?_word]

theorem parse_of_behind (htext : trim source.toList = text) (h : Behind verb argument text) :
    parse source = ofVerb verb argument := by
  obtain ⟨blanks, hblanks, rfl⟩ := h.exists_blanks
  obtain ⟨c, rest, rfl, hc⟩ := h.visible
  simp only [parse, htext, splitFirst_append ' ' _ _ verb.space_notMem_word, verb.ofWord?_word,
    trimStart_append hblanks hc]

theorem parseNumber_of_token {token : List Char} {n : UInt32} (h : NumberToken token n) :
    parseNumber verb token = .ok n := by
  have hne : token ≠ [] := by
    rintro rfl
    obtain ⟨digits, hdigits, hnil | hnil⟩ := h
    · exact hdigits.ne_nil hnil.symm
    · nomatch hnil
  rw [parseNumber, if_neg hne, number?_eq_some_iff.mpr h]

theorem parseNumber_of_no_token {token : List Char} (hne : token ≠ [])
    (h : ∀ n, ¬ NumberToken token n) :
    parseNumber verb token = .error (.invalidNumber verb (String.ofList token)) := by
  rw [parseNumber, if_neg hne, number?_eq_none_iff.mpr h]

theorem ofVerb_of_bare {command : Command} (h : verb.bare? = some command) (argument : List Char) :
    ofVerb verb argument = parseBare verb command argument := by
  cases verb <;> cases h <;> rfl

theorem ofVerb_of_numbered {command : UInt32 → Command} (h : verb.numbered? = some command)
    (argument : List Char) : ofVerb verb argument = (parseNumber verb argument).map command := by
  cases verb <;> cases h <;> rfl

theorem ofVerb_nil_of_not_bare (h : verb.bare? = none) :
    ofVerb verb [] = .error (.missingArgument verb) := by
  cases verb with
  | resume => nomatch h
  | next => nomatch h
  | breakAt => rfl
  | clearAt => rfl
  | condition => rfl

theorem Behind.ne_nil (h : Behind verb argument text) : argument ≠ [] := by
  obtain ⟨c, rest, rfl, _⟩ := h.visible
  exact List.cons_ne_nil c rest

/-- **A text with a form is read by its rule.** -/
theorem parse_of_follows (htext : trim source.toList = text) (h : Follows rule text answer) :
    parse source = answer := by
  cases h with
  | alone hverb =>
    rw [parse_of_word htext, ofVerb_of_bare hverb]
    rfl
  | lacking hverb => rw [parse_of_word htext, ofVerb_nil_of_not_bare hverb]
  | number hverb hbehind hn =>
    rw [parse_of_behind htext hbehind, ofVerb_of_numbered hverb, parseNumber_of_token hn]
    rfl
  | noNumber hverb hbehind hn =>
    rw [parse_of_behind htext hbehind, ofVerb_of_numbered hverb,
      parseNumber_of_no_token hbehind.ne_nil hn]
    rfl
  | condition hbehind hcut hid =>
    rw [parse_of_behind htext hbehind, ofVerb, hcut.splitFirst_eq]
    show (parseNumber _ _).map _ = _
    rw [parseNumber_of_token hid]
    rfl
  | noId hbehind hcut hid =>
    rw [parse_of_behind htext hbehind, ofVerb, hcut.splitFirst_eq]
    show (parseNumber _ _).map _ = _
    rw [parseNumber_of_no_token (hcut.token_ne_nil hbehind.visible) hid]
    rfl
  | surplus rest hverb =>
    obtain ⟨argument, hbehind⟩ := behind_of_trim htext
    rw [parse_of_behind rfl hbehind, ofVerb_of_bare hverb, parseBare, if_neg hbehind.ne_nil]

/-- A text without a form starts with a word that is no verb. -/
theorem parse_of_no_rule (h : ∀ rule answer, ¬ Follows rule (trim source.toList) answer) :
    parse source =
      .error (.unknownVerb (String.ofList ((trim source.toList).takeWhile (· ≠ ' ')))) := by
  have hverb : Verb.ofWord? ((trim source.toList).takeWhile (· ≠ ' ')) = none := by
    cases hword : Verb.ofWord? ((trim source.toList).takeWhile (· ≠ ' ')) with
    | none => rfl
    | some verb =>
      obtain ⟨rule, answer, hrule⟩ := exists_follows (Verb.eq_word_of_ofWord? hword)
      exact absurd hrule (h rule answer)
  cases hsplit : splitFirst ' ' (trim source.toList) with
  | none =>
    rw [takeWhile_of_notMem (notMem_of_splitFirst_eq_none hsplit)] at hverb ⊢
    simp only [parse, hsplit, hverb]
  | some pieces =>
    obtain ⟨word, rest⟩ := pieces
    obtain ⟨htext, hspace⟩ := eq_append_of_splitFirst hsplit
    rw [htext, takeWhile_append_mark hspace] at hverb ⊢
    simp only [parse, hsplit, hverb]

theorem parse_of_reads {rule : Option Rule} (h : Reads rule (trim source.toList) answer) :
    parse source = answer := by
  generalize htext : trim source.toList = text at h
  cases h with
  | rule h => exact parse_of_follows htext h
  | none h =>
    subst htext
    exact parse_of_no_rule h

theorem exists_reads (text : List Char) : ∃ rule answer, Reads rule text answer := by
  by_cases h : ∃ rule answer, Follows rule text answer
  · obtain ⟨rule, answer, h⟩ := h
    exact ⟨_, _, .rule h⟩
  · refine ⟨_, _, .none fun rule answer hrule => h ⟨rule, answer, hrule⟩⟩

/-- **Commands are read by their grammar.**  Every text has exactly one form, or the first word of
    what is left without the blanks at its ends is no verb; and what the text means by its form is
    what is read.  A verb that anything but a space follows is no verb. -/
theorem parse_by_grammar (source : String) :
    (∃! rule, ∃ answer, Reads rule (trim source.toList) answer) ∧
    (∀ rule answer, Reads rule (trim source.toList) answer → parse source = answer) ∧
    ∀ (verb : Verb) (mark : Char) (rest : List Char), mark ≠ ' ' →
      trim source.toList = verb.word.toList ++ mark :: rest →
      parse source = .error (.unknownVerb
        (String.ofList (verb.word.toList ++ mark :: rest.takeWhile (· ≠ ' ')))) := by
  refine ⟨?_, ?_, ?_⟩
  · obtain ⟨rule, answer, h⟩ := exists_reads (trim source.toList)
    refine ⟨rule, ⟨answer, h⟩, ?_⟩
    rintro rule' ⟨answer', h'⟩
    -- both answers are what is read, and answers tell rules apart
    have hanswer : answer' = answer := (parse_of_reads h').symm.trans (parse_of_reads h)
    rw [← h.ofAnswer?, ← h'.ofAnswer?, hanswer]
  · intro rule answer h
    exact parse_of_reads h
  · intro verb mark rest hmark htext
    have hword : (trim source.toList).takeWhile (· ≠ ' ') =
        verb.word.toList ++ mark :: rest.takeWhile (· ≠ ' ') := by
      rw [htext, takeWhile_append_of_notMem verb.space_notMem_word,
        List.takeWhile_cons_of_pos (by simpa using hmark)]
    rw [← hword]
    refine parse_of_no_rule ?_
    intro rule answer h
    obtain ⟨other, hother⟩ := h.exists_verb
    exact verb.word_append_ne other mark _ (hword.symm.trans hother)

/-! ## Two kinds of space -/

/-- A command with blanks at its ends, and more than one between its parts. -/
def spacious : String := "\n condition \t+07  x > 5 \t"

/-- The blanks before the id do not count, and of those behind it one does not; and a tab behind a
    verb makes it another word. -/
theorem spacious_is_condition :
    parse spacious = .ok (.condition 7 " x > 5") ∧
      parse "clear\t7 x" = .error (.unknownVerb "clear\t7") := by
  obtain ⟨_, hreads, _⟩ := parse_by_grammar spacious
  obtain ⟨_, _, hunknown⟩ := parse_by_grammar "clear\t7 x"
  have htext : trim spacious.toList = "condition \t+07  x > 5".toList := by rfl
  have hbehind : Behind .condition "+07  x > 5".toList (trim spacious.toList) := by
    rw [htext]
    exact ⟨⟨['\t'], List.forall_mem_singleton.mpr (by decide), by decide⟩,
      '+', "07  x > 5".toList, by decide, by decide⟩
  have hcut : Cut "+07".toList " x > 5".toList "+07  x > 5".toList := .space (by decide)
  have hid : NumberToken "+07".toList 7 := number?_eq_some_iff.mp (by decide)
  refine ⟨?_, ?_⟩
  · exact hreads _ _ (.rule (.condition hbehind hcut hid))
  · exact hunknown .clearAt '\t' "7 x".toList (by decide) (by decide)

end DebugDesk.Command
