/-
  Command texts read back.

  A command is written without a mark for where its text ends, and its reader trims the text.  So
  the one thing that writing loses is the blanks at the end of a condition's expression; numbers,
  verbs and everything else in an expression come back as they are, the blanks at its start
  included, since one space behind the id is the border and no more (`parse_text`).

  What has been read has no such blanks to lose (`not_endsBlank_of_parse`): its expression is the
  end of a text that was trimmed.  So every command that was read from some text is read from its
  own.
-/
import DebugDesk.Proofs.Command.Grammar

namespace DebugDesk.Command

open DebugDesk.Text (exists_blanks isBlank isBlank_eq_false_of_isDigit isBlank_of_trimEnd_eq
  notMem_of_run trim trimEnd trimEnd_append trimEnd_append_blanks trimEnd_eq_nil_iff trim_cons)
open DebugDesk.Text.Decimal (digits writes_digits trimEnd_append_of_writes)

/-! ## What writing loses -/

/-- The command without the blanks at the end of its expression. -/
def trimmed : Command → Command
  | condition id expression => condition id (String.ofList (trimEnd expression.toList))
  | command => command

/-- Whether a command is a condition whose expression ends in a blank. -/
def EndsBlank : Command → Prop
  | condition _ expression => ∃ front c, expression.toList = front ++ [c] ∧ isBlank c
  | _ => False

/-- Trimming changes exactly the conditions that end in a blank. -/
theorem trimmed_eq_self_iff {c : Command} : c.trimmed = c ↔ ¬ c.EndsBlank := by
  cases c with
  | condition id expression =>
    constructor
    · rintro h ⟨front, c, hends, hblank⟩
      injection h with _ hexpression
      have htrim : trimEnd expression.toList = front ++ [c] := by
        rw [← hends, ← @String.toList_ofList (trimEnd expression.toList), hexpression]
      rw [isBlank_of_trimEnd_eq htrim] at hblank
      nomatch hblank
    · intro h
      obtain ⟨blanks, hblanks, htext⟩ := exists_blanks expression.toList
      rcases List.eq_nil_or_concat blanks with rfl | ⟨front, c, rfl⟩
      · rw [List.append_nil] at htext
        rw [trimmed, ← htext, String.ofList_toList]
      · refine absurd ⟨trimEnd expression.toList ++ front, c, ?_, hblanks c (by simp)⟩ h
        rw [List.append_assoc, ← List.concat_eq_append]
        exact htext
  | breakAt line => exact ⟨fun _ => not_false, fun _ => rfl⟩
  | clearAt line => exact ⟨fun _ => not_false, fun _ => rfl⟩
  | resume => exact ⟨fun _ => not_false, fun _ => rfl⟩
  | next => exact ⟨fun _ => not_false, fun _ => rfl⟩

/-! ## Reading what was written -/

theorem exists_cons_digits (n : UInt32) :
    ∃ c rest, digits n.toNat = c :: rest ∧ isBlank c = false := by
  have hn := writes_digits n
  obtain ⟨c, rest, hdigits⟩ := List.exists_cons_of_ne_nil hn.ne_nil
  refine ⟨c, rest, hdigits, isBlank_eq_false_of_isDigit (hn.isDigit c ?_)⟩
  rw [hdigits]
  exact List.mem_cons_self

theorem numberToken_digits (n : UInt32) : NumberToken (digits n.toNat) n :=
  ⟨_, writes_digits n, Or.inl rfl⟩

/-- What starts with a number stands as an argument behind a verb and a space. -/
theorem behind_of_digits (verb : Verb) (n : UInt32) (rest : List Char) :
    Behind verb (digits n.toNat ++ rest) (verb.word.toList ++ ' ' :: (digits n.toNat ++ rest)) := by
  obtain ⟨c, tail, hdigits, hc⟩ := exists_cons_digits n
  refine ⟨⟨[], fun _ hb => absurd hb List.not_mem_nil, rfl⟩, c, tail ++ rest, ?_, hc⟩
  rw [hdigits]
  rfl

theorem trim_word_append (verb : Verb) (rest : List Char) :
    trim (verb.word.toList ++ rest) = trimEnd (verb.word.toList ++ rest) := by
  cases verb <;> exact trim_cons _ (by decide)

/-- A text that ends in a number is trimmed nowhere. -/
theorem trim_number (verb : Verb) (n : UInt32) :
    trim (verb.word.toList ++ ' ' :: digits n.toNat) =
      verb.word.toList ++ ' ' :: digits n.toNat := by
  have hends := trimEnd_append_of_writes (verb.word.toList ++ [' ']) (writes_digits n)
  rw [List.append_assoc] at hends
  rw [trim_word_append]
  exact hends

/-- What is left of an id and an expression is cut at the border of the two, and what is left of
    the expression is its trimmed form. -/
theorem exists_cut_trim (id : UInt32) (expression : List Char) :
    ∃ rest, Cut (digits id.toNat) (trimEnd expression) (digits id.toNat ++ rest) ∧
      trim (Verb.condition.word.toList ++ ' ' :: (digits id.toNat ++ ' ' :: expression)) =
        Verb.condition.word.toList ++ ' ' :: (digits id.toNat ++ rest) := by
  have hspace : ' ' ∉ digits id.toNat := notMem_of_run (writes_digits id).isDigit (by decide)
  by_cases hblank : trimEnd expression = []
  · -- the space behind the id is trimmed away, too
    have hblanks : ∀ c ∈ ' ' :: expression, isBlank c := by
      intro c hc
      rcases List.mem_cons.mp hc with rfl | hc
      · decide
      · exact trimEnd_eq_nil_iff.mp hblank c hc
    refine ⟨[], ?_, ?_⟩
    · rw [hblank, List.append_nil]
      exact .whole hspace
    · have hnumber := trim_number .condition id
      rw [trim_word_append] at hnumber
      have htrim := trimEnd_append_blanks
        (Verb.condition.word.toList ++ ' ' :: digits id.toNat) (' ' :: expression) hblanks
      rw [hnumber, List.append_assoc] at htrim
      rw [trim_word_append, List.append_nil]
      exact htrim
  · refine ⟨' ' :: trimEnd expression, .space hspace, ?_⟩
    have htrim := trimEnd_append
      (Verb.condition.word.toList ++ ' ' :: (digits id.toNat ++ [' '])) hblank
    simp only [List.append_assoc, List.cons_append, List.nil_append] at htrim
    rw [trim_word_append]
    exact htrim

theorem parse_word (verb : Verb) {c : Command} (h : verb.bare? = some c) :
    parse verb.word = .ok c := by
  have hword : trim verb.word.toList = verb.word.toList := by
    cases verb <;> decide
  exact parse_of_follows hword (.alone h)

theorem parse_number_text (verb : Verb) {command : UInt32 → Command} {n : UInt32} {source : String}
    (h : verb.numbered? = some command)
    (htext : source.toList = verb.word.toList ++ ' ' :: digits n.toNat) :
    parse source = .ok (command n) := by
  have hbehind := behind_of_digits verb n []
  rw [List.append_nil] at hbehind
  refine parse_of_follows ?_ (.number h hbehind (numberToken_digits n))
  rw [htext]
  exact trim_number verb n

/-- **A command is read back from its text**, without the blanks at the end of an expression. -/
theorem parse_text (c : Command) : parse c.text = .ok c.trimmed := by
  cases c with
  | breakAt line =>
    refine parse_number_text .breakAt rfl ?_
    simp only [text, numberText, String.toList_append, String.toList_ofList]
    rfl
  | clearAt line =>
    refine parse_number_text .clearAt rfl ?_
    simp only [text, numberText, String.toList_append, String.toList_ofList]
    rfl
  | condition id expression =>
    have htext : (condition id expression).text.toList = Verb.condition.word.toList ++
        ' ' :: (digits id.toNat ++ ' ' :: expression.toList) := by
      simp only [text, numberText, String.toList_append, String.toList_ofList, List.append_assoc]
      rfl
    obtain ⟨rest, hcut, htrim⟩ := exists_cut_trim id expression.toList
    refine parse_of_follows ?_
      (.condition (behind_of_digits .condition id rest) hcut (numberToken_digits id))
    rw [htext]
    exact htrim
  | resume => exact parse_word .resume rfl
  | next => exact parse_word .next rfl

/-! ## What has been read -/

/-- The expression of a cut ends where the text does. -/
theorem Behind.exists_append {verb : Verb} {token expression argument text : List Char}
    (h : Behind verb argument text) (hcut : Cut token expression argument) (hne : expression ≠ []) :
    ∃ start, text = start ++ expression := by
  obtain ⟨blanks, _, rfl⟩ := h.exists_blanks
  cases hcut with
  | whole _ => exact absurd rfl hne
  | space _ =>
    refine ⟨verb.word.toList ++ ' ' :: (blanks ++ (token ++ [' '])), ?_⟩
    simp only [List.append_assoc, List.cons_append, List.nil_append]

/-- The expression of a command that was read does not end in a blank. -/
theorem not_endsBlank_of_parse {source : String} {c : Command} (h : parse source = .ok c) :
    ¬ c.EndsBlank := by
  obtain ⟨rule, answer, hreads⟩ := exists_reads (trim source.toList)
  have hanswer : answer = .ok c := (parse_of_reads hreads).symm.trans h
  subst hanswer
  generalize htrim : trim source.toList = text at hreads
  cases hreads with
  | rule hfollows =>
    cases hfollows with
    | @alone verb _ hverb =>
      cases verb <;> cases hverb <;> exact not_false
    | @number verb _ _ _ _ hverb _ _ =>
      cases verb <;> cases hverb <;> exact not_false
    | @condition token expression argument _ id hbehind hcut _ =>
      rintro ⟨front, c, hends, hblank⟩
      rw [String.toList_ofList] at hends
      have hne : expression ≠ [] := by
        rw [hends]
        exact List.append_ne_nil_of_right_ne_nil front (List.cons_ne_nil c [])
      obtain ⟨start, htext⟩ := hbehind.exists_append hcut hne
      rw [hends, ← List.append_assoc] at htext
      -- the text was trimmed, so what it ends in is visible
      rw [isBlank_of_trimEnd_eq (htrim.trans htext)] at hblank
      nomatch hblank

end DebugDesk.Command
