/-
  Confirmations are recognised exactly.

  A confirmation is an opening followed by `D at P:E`, with runs of decimal digits `D` and `E` and a
  path `P`.  The path may hold anything but a line feed, so it may look like the rest of a
  confirmation: it may have colons and digits of its own, and ` at ` as well.  Still a text has this
  form in one way only (`Form.unique`): `D` ends where the digits of the text end, because a blank
  follows, and `E` starts behind the last colon, because it holds none.

  The crux is that the reader cuts at these two places (`confirmation?_eq_some_iff`).  So it finds
  the only decomposition there is, and gives up exactly if that one does not write two words: because
  its digits are of another script, or because a number is too large.  No other decomposition is
  hidden by that, and no other kind of title is, since the openings of all kinds differ in their
  first character.
-/
import DebugDesk.Event.Title
import DebugDesk.Proofs.Text.Decimal
import DebugDesk.Sample

namespace DebugDesk

namespace Event

open DebugDesk.Text (after? after?_append dropWhile_run eq_append_of_after? eq_append_of_splitLast
  isDecimalDigit isDecimalDigit_of_isDigit notMem_of_run splitLast splitLast_append takeWhile_run
  trimEnd)
open DebugDesk.Text.Decimal (Writes word32?_eq_some_iff writes_digits trimEnd_append_of_writes)

/-! ## The form of a confirmation -/

/-- A text has the form of a confirmation: the opening, then `d at p:e`, with two non-empty runs of
    decimal digits of any script and a non-empty path on one line. -/
structure Form (opening d p e text : List Char) : Prop where
  text_eq : text = opening ++ d ++ " at ".toList ++ p ++ ":".toList ++ e
  id_ne_nil : d ≠ []
  id_digits : ∀ c ∈ d, isDecimalDigit c
  path_ne_nil : p ≠ []
  path_line : '\n' ∉ p
  line_ne_nil : e ≠ []
  line_digits : ∀ c ∈ e, isDecimalDigit c

variable {opening d p e d' p' e' text : List Char}

/-- The runs of digits that write words are decimal digits, too. -/
theorem Form.of_writes {id line : UInt32} (hid : Writes d id) (hline : Writes e line)
    (hp : p ≠ []) (hp' : '\n' ∉ p)
    (htext : text = opening ++ d ++ " at ".toList ++ p ++ ":".toList ++ e) :
    Form opening d p e text where
  text_eq := htext
  id_ne_nil := hid.ne_nil
  id_digits c hc := isDecimalDigit_of_isDigit (hid.isDigit c hc)
  path_ne_nil := hp
  path_line := hp'
  line_ne_nil := hline.ne_nil
  line_digits c hc := isDecimalDigit_of_isDigit (hline.isDigit c hc)

theorem append_form (opening d p e : List Char) :
    opening ++ d ++ " at ".toList ++ p ++ ":".toList ++ e =
      opening ++ (d ++ (" at ".toList ++ (p ++ ':' :: e))) := by
  simp

/-- The text between a run of digits and the path starts with a blank. -/
theorem at_append (rest : List Char) :
    " at ".toList ++ rest = ' ' :: ("at ".toList ++ rest) := by
  simp

/-- A run of digits ends at the blank behind it. -/
theorem takeWhile_digits {isDigit : Char → Bool} (hblank : isDigit ' ' = false)
    (hd : ∀ c ∈ d, isDigit c) (rest : List Char) :
    (d ++ (" at ".toList ++ rest)).takeWhile isDigit = d := by
  rw [at_append]
  exact takeWhile_run hd hblank _

theorem dropWhile_digits {isDigit : Char → Bool} (hblank : isDigit ' ' = false)
    (hd : ∀ c ∈ d, isDigit c) (rest : List Char) :
    (d ++ (" at ".toList ++ rest)).dropWhile isDigit = " at ".toList ++ rest := by
  rw [at_append]
  exact dropWhile_run hd hblank _

/-- **A text has the form of a confirmation in one way only**, whatever its path looks like. -/
theorem Form.unique (h : Form opening d p e text) (h' : Form opening d' p' e' text) :
    d = d' ∧ p = p' ∧ e = e' := by
  have hblank : isDecimalDigit ' ' = false := by decide
  have hcolon : isDecimalDigit ':' = false := by decide
  have hrest : d ++ (" at ".toList ++ (p ++ ':' :: e)) =
      d' ++ (" at ".toList ++ (p' ++ ':' :: e')) := by
    have htext := h.text_eq.symm.trans h'.text_eq
    rw [append_form, append_form] at htext
    exact List.append_cancel_left htext
  have hd : d = d' := by
    rw [← takeWhile_digits hblank h.id_digits, hrest, takeWhile_digits hblank h'.id_digits]
  subst hd
  have hplace : p ++ ':' :: e = p' ++ ':' :: e' :=
    List.append_cancel_left (List.append_cancel_left hrest)
  have hsplit : splitLast ':' (p ++ ':' :: e) = some (p, e) :=
    splitLast_append ':' p e (notMem_of_run h.line_digits hcolon)
  rw [hplace, splitLast_append ':' p' e' (notMem_of_run h'.line_digits hcolon)] at hsplit
  injection hsplit with hpair
  injection hpair with hp he
  exact ⟨rfl, hp.symm, he.symm⟩

/-! ## Reading a confirmation -/

/-- **What is read behind an opening**: exactly the numbers of the form `D at P:E`. -/
theorem confirmation?_eq_some_iff {id line : UInt32} :
    confirmation? text = some (id, line) ↔
      ∃ d p e, Form [] d p e text ∧ Writes d id ∧ Writes e line := by
  constructor
  · intro h
    simp only [confirmation?, Option.bind_eq_bind, Option.bind_eq_some_iff] at h
    obtain ⟨id', hid, place, hplace, ⟨p, e⟩, hsplit, line', hline, hanswer⟩ := h
    split at hanswer
    · nomatch hanswer
    · rename_i hpath
      injection hanswer with hpair
      injection hpair with hid' hline'
      subst hid' hline'
      obtain ⟨hp, hp'⟩ := not_or.mp hpath
      obtain ⟨hpieces, _⟩ := eq_append_of_splitLast hsplit
      have hdrop := eq_append_of_after? hplace
      have htext :
          text = [] ++ text.takeWhile Char.isDigit ++ " at ".toList ++ p ++ ":".toList ++ e := by
        rw [append_form, ← hpieces, ← hdrop, List.nil_append, List.takeWhile_append_dropWhile]
      have hwid := word32?_eq_some_iff.mp hid
      have hwline := word32?_eq_some_iff.mp hline
      exact ⟨_, p, e, .of_writes hwid hwline hp hp' htext, hwid, hwline⟩
  · rintro ⟨d, p, e, hform, hid, hline⟩
    have hblank : Char.isDigit ' ' = false := by decide
    have htext : text = d ++ (" at ".toList ++ (p ++ ':' :: e)) := by
      rw [hform.text_eq, append_form, List.nil_append]
    have hsplit : splitLast ':' (p ++ ':' :: e) = some (p, e) :=
      splitLast_append ':' p e (notMem_of_run hline.isDigit (by decide))
    have hpath : ¬ (p = [] ∨ '\n' ∈ p) := not_or.mpr ⟨hform.path_ne_nil, hform.path_line⟩
    rw [htext, confirmation?, takeWhile_digits hblank hid.isDigit,
      dropWhile_digits hblank hid.isDigit, word32?_eq_some_iff.mpr hid, after?_append]
    simp only [Option.bind_eq_bind, Option.bind_some, hsplit, word32?_eq_some_iff.mpr hline,
      if_neg hpath]

/-! ## Reading a title -/

/-- Behind its opening, a text has the form of a confirmation with the opening left out. -/
theorem form_append_iff {rest : List Char} :
    Form opening d p e (opening ++ rest) ↔ Form [] d p e rest := by
  constructor
  · intro h
    have htext := h.text_eq
    rw [append_form] at htext
    refine ⟨?_, h.id_ne_nil, h.id_digits, h.path_ne_nil, h.path_line, h.line_ne_nil, h.line_digits⟩
    rw [append_form]
    exact List.append_cancel_left htext
  · intro h
    refine ⟨?_, h.id_ne_nil, h.id_digits, h.path_ne_nil, h.path_line, h.line_ne_nil, h.line_digits⟩
    rw [append_form, h.text_eq, append_form, List.nil_append]

theorem Form.exists_rest (h : Form opening d p e text) :
    ∃ rest, text = opening ++ rest ∧ Form [] d p e rest := by
  have htext := h.text_eq
  rw [append_form] at htext
  rw [htext] at h
  exact ⟨_, htext, form_append_iff.mp h⟩

/-- Where two numbers are read behind an opening, the text has the form and writes them. -/
theorem exists_form_iff {id line : UInt32} :
    (∃ rest, text = opening ++ rest ∧ confirmation? rest = some (id, line)) ↔
      ∃ d p e, Form opening d p e text ∧ Writes d id ∧ Writes e line := by
  constructor
  · rintro ⟨rest, rfl, hread⟩
    obtain ⟨d, p, e, hform, hid, hline⟩ := confirmation?_eq_some_iff.mp hread
    exact ⟨d, p, e, form_append_iff.mpr hform, hid, hline⟩
  · rintro ⟨d, p, e, hform, hid, hline⟩
    obtain ⟨rest, htext, hrest⟩ := hform.exists_rest
    exact ⟨rest, htext, confirmation?_eq_some_iff.mpr ⟨d, p, e, hrest, hid, hline⟩⟩

/-- Nothing is read from a form that does not write two words. -/
theorem confirmation?_eq_none {rest : List Char} (h : Form [] d p e rest)
    (hwrites : ∀ id line, ¬ (Writes d id ∧ Writes e line)) : confirmation? rest = none := by
  cases hread : confirmation? rest with
  | none => rfl
  | some answer =>
    obtain ⟨id, line⟩ := answer
    obtain ⟨d', p', e', hform, hid, hline⟩ := confirmation?_eq_some_iff.mp hread
    -- what was read was read from this very form
    obtain ⟨rfl, _, rfl⟩ := h.unique hform
    exact absurd ⟨hid, hline⟩ (hwrites id line)

/-- The opening of a title that confirms a breakpoint. -/
theorem created_opening (rest : List Char) :
    "Breakpoint ".toList ++ rest = 'B' :: ("reakpoint ".toList ++ rest) := by
  simp

theorem after?_deleted_created (rest : List Char) :
    after? "Deleted breakpoint ".toList ("Breakpoint ".toList ++ rest) = none := by
  rw [created_opening]
  simp [after?]

theorem ofTrimmed_created (rest : List Char) :
    ofTrimmed ("Breakpoint ".toList ++ rest) =
      ((confirmation? rest).map fun answer => created answer.1 answer.2).getD unrecognized := by
  simp only [ofTrimmed, after?_deleted_created, after?_append]
  cases confirmation? rest <;> rfl

theorem ofTrimmed_deleted (rest : List Char) :
    ofTrimmed ("Deleted breakpoint ".toList ++ rest) =
      ((confirmation? rest).map fun answer => deleted answer.1 answer.2).getD unrecognized := by
  simp only [ofTrimmed, after?_append]
  cases confirmation? rest <;> rfl

theorem ofTrimmed_eq_created_iff {id line : UInt32} :
    ofTrimmed text = created id line ↔
      ∃ rest, text = "Breakpoint ".toList ++ rest ∧ confirmation? rest = some (id, line) := by
  constructor
  · intro h
    rw [ofTrimmed] at h
    split at h
    · split at h <;> nomatch h
    · split at h
      · rename_i rest hrest
        split at h
        · rename_i hread
          cases h
          exact ⟨rest, eq_append_of_after? hrest, hread⟩
        · nomatch h
      · split at h
        · split at h <;> nomatch h
        · nomatch h
  · rintro ⟨rest, rfl, hread⟩
    rw [ofTrimmed_created, hread]
    rfl

theorem ofTrimmed_eq_deleted_iff {id line : UInt32} :
    ofTrimmed text = deleted id line ↔
      ∃ rest, text = "Deleted breakpoint ".toList ++ rest ∧
        confirmation? rest = some (id, line) := by
  constructor
  · intro h
    rw [ofTrimmed] at h
    split at h
    · rename_i rest hrest
      split at h
      · rename_i hread
        cases h
        exact ⟨rest, eq_append_of_after? hrest, hread⟩
      · nomatch h
    · split at h
      · split at h <;> nomatch h
      · split at h
        · split at h <;> nomatch h
        · nomatch h
  · rintro ⟨rest, rfl, hread⟩
    rw [ofTrimmed_deleted, hread]
    rfl

/-- Every form of a confirmation makes an event of its own kind, or of none. -/
theorem ofTrimmed_of_form
    (h : Form "Breakpoint ".toList d p e text ∨ Form "Deleted breakpoint ".toList d p e text) :
    (∀ line, ofTrimmed text ≠ paused line) ∧
      ((∀ id line, ¬ (Writes d id ∧ Writes e line)) → ofTrimmed text = unrecognized) := by
  rcases h with h | h
  · obtain ⟨rest, rfl, hrest⟩ := h.exists_rest
    rw [ofTrimmed_created]
    refine ⟨fun line => ?_, fun hwrites => ?_⟩
    · cases confirmation? rest <;> exact Event.noConfusion
    · rw [confirmation?_eq_none hrest hwrites]
      rfl
  · obtain ⟨rest, rfl, hrest⟩ := h.exists_rest
    rw [ofTrimmed_deleted]
    refine ⟨fun line => ?_, fun hwrites => ?_⟩
    · cases confirmation? rest <;> exact Event.noConfusion
    · rw [confirmation?_eq_none hrest hwrites]
      rfl

/-- No text has the forms of both confirmations, since their openings differ. -/
theorem not_both_forms : ¬ (Form "Breakpoint ".toList d p e text ∧
    Form "Deleted breakpoint ".toList d' p' e' text) := by
  rintro ⟨h, h'⟩
  obtain ⟨rest, rfl, _⟩ := h.exists_rest
  obtain ⟨rest', htext, _⟩ := h'.exists_rest
  have hnone := after?_deleted_created rest
  rw [htext, after?_append] at hnone
  nomatch hnone

/-! ## What debuggers print -/

/-- A printed confirmation has its form and writes its numbers, and nothing of it is trimmed. -/
theorem exists_form_printed (opening : String) (id line : UInt32) {path : String}
    (hpath : path ≠ "") (hline : '\n' ∉ path.toList) :
    ∃ d p e, Form opening.toList d p e (trimEnd
        (opening ++ Printed.number id ++ " at " ++ path ++ ":" ++ Printed.number line).toList) ∧
      Writes d id ∧ Writes e line := by
  have hid := writes_digits id
  have hword := writes_digits line
  have htext : (opening ++ Printed.number id ++ " at " ++ path ++ ":" ++ Printed.number line).toList =
      opening.toList ++ Text.Decimal.digits id.toNat ++ " at ".toList ++ path.toList ++ ":".toList ++
        Text.Decimal.digits line.toNat := by
    simp only [Printed.number, String.toList_append, String.toList_ofList]
  have hne : path.toList ≠ [] := fun h => hpath (String.toList_eq_nil_iff.mp h)
  rw [htext, trimEnd_append_of_writes _ hword]
  exact ⟨_, path.toList, _, .of_writes hid hword hne hline rfl, hid, hword⟩

/-- **Confirmations are recognised exactly.**  Let the text be a title without its trailing blanks.
    The title says that a breakpoint was set, or was removed, exactly if the text has the form of
    this confirmation, and then it speaks of the id and the line that the form writes.  A text has
    either form in one way only, and never both.  A title of either form never says that a worker
    stopped, and says nothing if a number in it is no word.  What debuggers print reads back, for
    every id, line and path. -/
theorem confirmation_iff_form (title : String) :
    let text := trimEnd title.toList
    (∀ id line, ofTitle title = created id line ↔
      ∃ d p e, Form "Breakpoint ".toList d p e text ∧ Writes d id ∧ Writes e line) ∧
    (∀ id line, ofTitle title = deleted id line ↔
      ∃ d p e, Form "Deleted breakpoint ".toList d p e text ∧ Writes d id ∧ Writes e line) ∧
    (∀ opening d p e d' p' e', Form opening d p e text → Form opening d' p' e' text →
      d = d' ∧ p = p' ∧ e = e') ∧
    (∀ d p e d' p' e', ¬ (Form "Breakpoint ".toList d p e text ∧
      Form "Deleted breakpoint ".toList d' p' e' text)) ∧
    (∀ d p e, Form "Breakpoint ".toList d p e text ∨ Form "Deleted breakpoint ".toList d p e text →
      (∀ line, ofTitle title ≠ paused line) ∧
      ((∀ id line, ¬ (Writes d id ∧ Writes e line)) → ofTitle title = unrecognized)) ∧
    ∀ (id line : UInt32) (path : String), path ≠ "" → '\n' ∉ path.toList →
      ofTitle (Printed.created id path line) = created id line ∧
      ofTitle (Printed.deleted id path line) = deleted id line := by
  intro text
  refine ⟨?_, ?_, ?_, ?_, ?_, ?_⟩
  · intro id line
    exact ofTrimmed_eq_created_iff.trans exists_form_iff
  · intro id line
    exact ofTrimmed_eq_deleted_iff.trans exists_form_iff
  · intro opening d p e d' p' e' h h'
    exact h.unique h'
  · intro d p e d' p' e'
    exact not_both_forms
  · intro d p e h
    exact ofTrimmed_of_form h
  · intro id line path hpath hline
    constructor
    · exact ofTrimmed_eq_created_iff.mpr
        (exists_form_iff.mpr (exists_form_printed "Breakpoint " id line hpath hline))
    · exact ofTrimmed_eq_deleted_iff.mpr
        (exists_form_iff.mpr (exists_form_printed "Deleted breakpoint " id line hpath hline))

/-! ## A path that looks like the rest of a title -/

/-- A title with leading zeros, whose path holds ` at `, numbers and colons, and with trailing
    blanks. -/
def misleading : String := "Breakpoint 007 at /a at 5:3/b.py:10 \t\n"

/-- It is read as the confirmation of number 7 on line 10, and has the form with this path only; a
    breakpoint on the same path that is printed reads back. -/
theorem misleading_is_created :
    ofTitle misleading = created 7 10 ∧
      Form "Breakpoint ".toList "007".toList "/a at 5:3/b.py".toList "10".toList
        (trimEnd misleading.toList) ∧
      (∀ d p e, Form "Breakpoint ".toList d p e (trimEnd misleading.toList) →
        "/a at 5:3/b.py".toList = p) ∧
      ofTitle (Printed.deleted 7 "/a at 5:3/b.py" 10) = deleted 7 10 := by
  obtain ⟨hcreated, _, hunique, _, _, hprinted⟩ := confirmation_iff_form misleading
  have hid : Writes "007".toList 7 := word32?_eq_some_iff.mp (by decide)
  have hline : Writes "10".toList 10 := word32?_eq_some_iff.mp (by decide)
  have hform : Form "Breakpoint ".toList "007".toList "/a at 5:3/b.py".toList "10".toList
      (trimEnd misleading.toList) :=
    .of_writes hid hline (by decide) (by decide) (by decide)
  refine ⟨(hcreated 7 10).mpr ⟨_, _, _, hform, hid, hline⟩, hform, ?_, ?_⟩
  · intro d p e h
    exact (hunique _ _ _ _ _ _ _ hform h).2.1
  · exact (hprinted 7 10 "/a at 5:3/b.py" (by decide) (by decide)).2

end Event

end DebugDesk
