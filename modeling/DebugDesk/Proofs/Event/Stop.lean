/-
  Stops are recognised exactly.

  A frame marker says where a worker stopped: behind its opening comes the path, then the line
  number as a group `(N)`, then whatever describes the frame.  Only the first line of a title
  counts, and of the groups in it the last that leaves at least one character to the path.  Paths
  and frames may hold groups of their own, nested, unclosed, or written in the digits of any
  script.

  The crux is that the reader finds the last group although it only ever looks at one position
  (`lastGroup?_eq_some_iff`): a group behind a position is looked for first, and where there is
  none, a group at this position is the last.  The digits of that group make the line number or
  nothing does; no earlier group stands in for it.  Nor does anything else of the title matter: a
  group does not end in a blank, so trimming takes none away, and a group does not hold a line
  feed.
-/
import DebugDesk.Event.Title
import DebugDesk.Proofs.Text.Decimal

namespace DebugDesk.Event

open DebugDesk.Text (after? after?_append dropWhile_run eq_append_of_after? exists_blanks isBlank
  isDecimalDigit takeWhile_append_mark takeWhile_append_of_notMem takeWhile_of_notMem takeWhile_run
  trimEnd trimEnd_append trimEnd_append_blanks trimEnd_eq_nil_iff)
open DebugDesk.Text.Decimal (Writes word32?_eq_some_iff)

/-! ## Groups -/

/-- A group of a text: `(n)` with a non-empty run of decimal digits of any script. -/
structure Group (before n after text : List Char) : Prop where
  text_eq : text = before ++ "(".toList ++ n ++ ")".toList ++ after
  ne_nil : n ≠ []
  digits : ∀ c ∈ n, isDecimalDigit c

/-- The last group of a text, and at least `k` characters stand before it. -/
structure LastGroup (k : Nat) (before n after text : List Char) : Prop
    extends Group before n after text where
  le_length : k ≤ before.length
  last : ∀ {before' n' after'}, Group before' n' after' text → before'.length ≤ before.length

variable {before n after before' n' after' text start blanks : List Char} {k : Nat} {c : Char}

theorem append_group (before n after : List Char) :
    before ++ "(".toList ++ n ++ ")".toList ++ after = before ++ '(' :: (n ++ ')' :: after) := by
  simp

/-- Where a group starts, its digits and what follows are given. -/
theorem Group.unique (h : Group before n after text) (h' : Group before' n' after' text)
    (hlength : before.length = before'.length) : before = before' ∧ n = n' ∧ after = after' := by
  have htext := h.text_eq.symm.trans h'.text_eq
  rw [append_group, append_group] at htext
  obtain ⟨hbefore, hgroup⟩ := List.append_inj htext hlength
  injection hgroup with _ hgroup
  have hclose : isDecimalDigit ')' = false := by decide
  have hn : n = n' := by
    rw [← takeWhile_run h.digits hclose after, hgroup, takeWhile_run h'.digits hclose]
  subst hn
  injection List.append_cancel_left hgroup with _ hafter
  exact ⟨hbefore, rfl, hafter⟩

/-- **A text has one last group at most.** -/
theorem LastGroup.unique (h : LastGroup k before n after text)
    (h' : LastGroup k before' n' after' text) : before = before' ∧ n = n' ∧ after = after' :=
  h.toGroup.unique h'.toGroup (Nat.le_antisymm (h'.last h.toGroup) (h.last h'.toGroup))

/-- What is said of all last groups, or of some, is said of the one there is. -/
theorem LastGroup.forall_iff (h : LastGroup k before n after text) {P : List Char → Prop} :
    (∀ before n after, LastGroup k before n after text → P n) ↔ P n := by
  constructor
  · exact fun hall => hall before n after h
  · intro hn before' n' after' h'
    rw [← (h.unique h').2.1]
    exact hn

theorem LastGroup.exists_iff (h : LastGroup k before n after text) {P : List Char → Prop} :
    (∃ before n after, LastGroup k before n after text ∧ P n) ↔ P n := by
  constructor
  · rintro ⟨before', n', after', h', hn'⟩
    rw [(h.unique h').2.1]
    exact hn'
  · exact fun hn => ⟨before, n, after, h, hn⟩

/-- Text in front moves a group. -/
theorem group_append_iff (start : List Char) :
    Group (start ++ before) n after (start ++ text) ↔ Group before n after text := by
  constructor
  · intro h
    have htext := h.text_eq
    rw [append_group, List.append_assoc] at htext
    refine ⟨?_, h.ne_nil, h.digits⟩
    rw [append_group]
    exact List.append_cancel_left htext
  · intro h
    refine ⟨?_, h.ne_nil, h.digits⟩
    rw [append_group, h.text_eq, append_group, List.append_assoc]

/-- A group behind the first `k` characters is a group of what they leave. -/
theorem Group.drop (h : Group before n after text) (hk : k ≤ before.length) :
    Group (before.drop k) n after (text.drop k) := by
  have htake : text.take k = before.take k := by
    rw [h.text_eq, append_group, List.take_append_of_le_length hk]
  rw [← List.take_append_drop k text, ← List.take_append_drop k before, htake] at h
  exact (group_append_iff _).mp h

theorem Group.of_drop (h : Group before n after (text.drop k)) :
    Group (text.take k ++ before) n after text := by
  have hgroup := (group_append_iff (text.take k)).mpr h
  rw [List.take_append_drop] at hgroup
  exact hgroup

/-! ## Reading groups -/

theorem groupAt?_eq_some_iff : groupAt? text = some n ↔ ∃ after, Group [] n after text := by
  constructor
  · intro h
    unfold groupAt? at h
    split at h
    · rename_i rest
      dsimp only at h
      split at h
      · rename_i hgroup
        obtain ⟨hne, hclose⟩ := hgroup
        injection h with hn
        subst hn
        obtain ⟨after, hafter⟩ := List.head?_eq_some_iff.mp hclose
        refine ⟨after, ?_, hne, fun c hc => List.all_eq_true.mp List.all_takeWhile c hc⟩
        rw [append_group, ← hafter, List.takeWhile_append_dropWhile]
        rfl
      · nomatch h
    · nomatch h
  · rintro ⟨after, h⟩
    have hclose : isDecimalDigit ')' = false := by decide
    rw [h.text_eq, append_group, List.nil_append]
    simp only [groupAt?, takeWhile_run h.digits hclose, dropWhile_run h.digits hclose,
      List.head?_cons, and_true]
    rw [if_pos h.ne_nil]

theorem lastGroup?_cons_of_some (h : lastGroup? text = some n) :
    lastGroup? (c :: text) = some n := by
  rw [lastGroup?, h]

theorem lastGroup?_cons_of_none (h : lastGroup? text = none) :
    lastGroup? (c :: text) = groupAt? (c :: text) := by
  rw [lastGroup?, h]

/-- A group of a text stands at its start or behind its first character. -/
theorem Group.cons_cases (h : Group before n after (c :: text)) :
    before = [] ∨ ∃ before', before = c :: before' ∧ Group before' n after text := by
  cases before with
  | nil => exact Or.inl rfl
  | cons b before =>
    have htext := h.text_eq
    rw [append_group, List.cons_append] at htext
    injection htext with hc _
    subst hc
    exact Or.inr ⟨before, rfl, (group_append_iff [c]).mp h⟩

theorem not_group_of_lastGroup? (h : lastGroup? text = none) : ¬ Group before n after text := by
  induction text generalizing before with
  | nil =>
    intro hgroup
    have htext := hgroup.text_eq
    rw [append_group] at htext
    exact List.append_ne_nil_of_right_ne_nil before (List.cons_ne_nil _ _) htext.symm
  | cons c text ih =>
    intro hgroup
    cases hrest : lastGroup? text with
    | some n' =>
      rw [lastGroup?_cons_of_some hrest] at h
      nomatch h
    | none =>
      rw [lastGroup?_cons_of_none hrest] at h
      rcases hgroup.cons_cases with rfl | ⟨before', rfl, hgroup'⟩
      · rw [groupAt?_eq_some_iff.mpr ⟨after, hgroup⟩] at h
        nomatch h
      · exact ih hrest hgroup'

theorem exists_of_lastGroup? (h : lastGroup? text = some n) :
    ∃ before after, LastGroup 0 before n after text := by
  induction text with
  | nil => nomatch h
  | cons c text ih =>
    cases hrest : lastGroup? text with
    | some n' =>
      rw [lastGroup?_cons_of_some hrest] at h
      injection h with hn
      subst hn
      obtain ⟨before, after, hlast⟩ := ih hrest
      have hgroup := (group_append_iff [c]).mpr hlast.toGroup
      refine ⟨c :: before, after, hgroup, Nat.zero_le _, ?_⟩
      intro before' n'' after' hgroup'
      rcases hgroup'.cons_cases with rfl | ⟨before'', rfl, hgroup''⟩
      · exact Nat.zero_le _
      · exact Nat.succ_le_succ (hlast.last hgroup'')
    | none =>
      -- no group is behind this position, so the one found stands here
      rw [lastGroup?_cons_of_none hrest] at h
      obtain ⟨after, hgroup⟩ := groupAt?_eq_some_iff.mp h
      refine ⟨[], after, hgroup, Nat.le_refl 0, ?_⟩
      intro before' n'' after' hgroup'
      rcases hgroup'.cons_cases with rfl | ⟨before'', rfl, hgroup''⟩
      · exact Nat.le_refl 0
      · exact absurd hgroup'' (not_group_of_lastGroup? hrest)

/-- **What is read is the last group**, and something is read wherever there is a group. -/
theorem lastGroup?_eq_some_iff :
    lastGroup? text = some n ↔ ∃ before after, LastGroup 0 before n after text := by
  constructor
  · exact exists_of_lastGroup?
  · rintro ⟨before, after, h⟩
    cases hread : lastGroup? text with
    | none => exact absurd h.toGroup (not_group_of_lastGroup? hread)
    | some n' =>
      obtain ⟨before', after', h'⟩ := exists_of_lastGroup? hread
      rw [(h.unique h').2.1]

/-- Behind the first `k` characters, what is read is the last group that leaves them alone. -/
theorem lastGroup?_drop_eq_some_iff :
    lastGroup? (text.drop k) = some n ↔ ∃ before after, LastGroup k before n after text := by
  rw [lastGroup?_eq_some_iff]
  constructor
  · rintro ⟨before, after, h⟩
    have hk : k ≤ text.length := by
      have hlength := congrArg List.length h.text_eq
      rw [append_group, List.length_drop, List.length_append, List.length_cons] at hlength
      omega
    have htake : (text.take k).length = k := List.length_take_of_le hk
    have hlength : (text.take k ++ before).length = k + before.length := by
      rw [List.length_append, htake]
    refine ⟨text.take k ++ before, after, h.toGroup.of_drop, by omega, ?_⟩
    intro before' n' after' h'
    rcases Nat.lt_or_ge before'.length k with hlt | hge
    · omega
    · have hle := h.last (h'.drop hge)
      rw [List.length_drop] at hle
      omega
  · rintro ⟨before, after, h⟩
    refine ⟨before.drop k, after, h.toGroup.drop h.le_length, Nat.zero_le _, ?_⟩
    intro before' n' after' h'
    have hle := h.last h'.of_drop
    have hk := h.le_length
    have hshorter : k ≤ text.length := by
      have hlength := congrArg List.length h.text_eq
      rw [append_group, List.length_append] at hlength
      omega
    rw [List.length_append, List.length_take_of_le hshorter] at hle
    rw [List.length_drop]
    omega

/-- Where there is a group behind the first `k` characters, there is a last one. -/
theorem Group.exists_last (h : Group before n after text) (hk : k ≤ before.length) :
    ∃ before n after, LastGroup k before n after text := by
  cases hread : lastGroup? (text.drop k) with
  | none => exact absurd (h.drop hk) (not_group_of_lastGroup? hread)
  | some n' =>
    obtain ⟨before', after', hlast⟩ := lastGroup?_drop_eq_some_iff.mp hread
    exact ⟨before', n', after', hlast⟩

/-! ## First lines -/

/-- The first line of a text, without its line end. -/
def firstLine (text : List Char) : List Char := text.takeWhile (· ≠ '\n')

theorem firstLine_append_of_notMem (h : '\n' ∉ start) (text : List Char) :
    firstLine (start ++ text) = start ++ firstLine text :=
  takeWhile_append_of_notMem h text

theorem firstLine_eq_self (h : '\n' ∉ text) : firstLine text = text :=
  takeWhile_of_notMem h

/-- Behind an opening the first line is that of the text with the opening in front. -/
theorem firstLine_opening (rest : List Char) :
    firstLine ("> ".toList ++ rest) = "> ".toList ++ firstLine rest :=
  firstLine_append_of_notMem (by decide) rest

theorem firstLine_append_of_mem (h : '\n' ∈ start) (text : List Char) :
    firstLine (start ++ text) = firstLine start := by
  rw [firstLine, List.takeWhile_append, if_neg]
  · rfl
  · intro hlength
    have hall : start.takeWhile (· ≠ '\n') = start :=
      ( List.takeWhile_prefix _).eq_of_length hlength
    rw [← hall] at h
    have hbreak := List.all_eq_true.mp List.all_takeWhile '\n' h
    exact of_decide_eq_true hbreak rfl

/-- Trimming takes at most some blanks from the first line. -/
theorem exists_firstLine_eq (text : List Char) :
    ∃ blanks, (∀ c ∈ blanks, isBlank c) ∧ firstLine text = firstLine (trimEnd text) ++ blanks := by
  obtain ⟨blanks, hblanks, htext⟩ := exists_blanks text
  by_cases hline : '\n' ∈ trimEnd text
  · refine ⟨[], fun c hc => absurd hc List.not_mem_nil, ?_⟩
    rw [List.append_nil, ← firstLine_append_of_mem hline blanks, ← htext]
  · refine ⟨firstLine blanks, ?_, ?_⟩
    · intro c hc
      exact hblanks c (( List.takeWhile_prefix _).mem hc)
    · rw [firstLine_eq_self hline, ← firstLine_append_of_notMem hline, ← htext]

/-! ## Reading frame markers -/

/-- The first line of a title says that a worker stopped at a line: it has the opening of a frame
    marker, and the last group that starts at least one character behind the opening writes the
    line. -/
def Stops (first : List Char) (line : UInt32) : Prop :=
  "> ".toList <+: first ∧ ∃ before n after, LastGroup 3 before n after first ∧ Writes n line

variable {line : UInt32}

theorem stops_iff {first : List Char} : Stops first line ↔
    "> ".toList <+: first ∧ ∃ n, lastGroup? (first.drop 3) = some n ∧ Writes n line := by
  constructor
  · rintro ⟨hopening, before, n, after, hlast, hline⟩
    exact ⟨hopening, n, lastGroup?_drop_eq_some_iff.mpr ⟨before, after, hlast⟩, hline⟩
  · rintro ⟨hopening, n, hread, hline⟩
    obtain ⟨before, after, hlast⟩ := lastGroup?_drop_eq_some_iff.mp hread
    exact ⟨hopening, before, n, after, hlast, hline⟩

theorem stop?_eq_some_iff {rest : List Char} :
    stop? rest = some line ↔ Stops (firstLine ("> ".toList ++ rest)) line := by
  have hopening : "> ".toList <+: firstLine ("> ".toList ++ rest) := by
    rw [firstLine_opening]
    exact List.prefix_append _ _
  have hdrop : (firstLine ("> ".toList ++ rest)).drop 3 = (firstLine rest).drop 1 := by
    rw [firstLine_opening]
    rfl
  rw [stops_iff, hdrop, stop?, Option.bind_eq_bind, Option.bind_eq_some_iff]
  constructor
  · rintro ⟨n, hn, hline⟩
    exact ⟨hopening, n, hn, word32?_eq_some_iff.mp hline⟩
  · rintro ⟨_, n, hn, hline⟩
    exact ⟨n, hn, word32?_eq_some_iff.mpr hline⟩

theorem ofTrimmed_opening (rest : List Char) :
    ofTrimmed ("> ".toList ++ rest) = ((stop? rest).map paused).getD unrecognized := by
  have hopening : "> ".toList ++ rest = '>' :: (" ".toList ++ rest) := by simp
  have hdeleted : after? "Deleted breakpoint ".toList ("> ".toList ++ rest) = none := by
    rw [hopening]
    simp [after?]
  have hcreated : after? "Breakpoint ".toList ("> ".toList ++ rest) = none := by
    rw [hopening]
    simp [after?]
  simp only [ofTrimmed, hdeleted, hcreated, after?_append]
  cases stop? rest <;> rfl

theorem ofTrimmed_eq_paused_iff : ofTrimmed text = paused line ↔ Stops (firstLine text) line := by
  constructor
  · intro h
    rw [ofTrimmed] at h
    split at h
    · split at h <;> nomatch h
    · split at h
      · split at h <;> nomatch h
      · split at h
        · rename_i rest hrest
          split at h
          · rename_i hstop
            cases h
            rw [eq_append_of_after? hrest]
            exact stop?_eq_some_iff.mp hstop
          · nomatch h
        · nomatch h
  · intro h
    obtain ⟨rest, hrest⟩ := h.1.trans ( List.takeWhile_prefix _)
    rw [← hrest] at h ⊢
    rw [ofTrimmed_opening, stop?_eq_some_iff.mpr h]
    rfl

/-! ## What trimming leaves of the groups -/

/-- A group does not end in a blank, so blanks behind a text neither make groups nor take them
    away. -/
theorem group_append_blanks (hblanks : ∀ c ∈ blanks, isBlank c) :
    Group before n after (text ++ blanks) ↔
      ∃ after', after = after' ++ blanks ∧ Group before n after' text := by
  constructor
  · intro h
    have hclose : (before ++ '(' :: (n ++ [')'])) ++ after = text ++ blanks := by
      rw [h.text_eq, append_group]
      simp
    rcases List.append_eq_append_iff.mp hclose with ⟨after', htext, hafter⟩ | ⟨rest, hgroup, hrest⟩
    · refine ⟨after', hafter, ?_, h.ne_nil, h.digits⟩
      rw [htext, append_group]
      simp
    · rcases List.eq_nil_or_concat rest with rfl | ⟨front, c, rfl⟩
      · refine ⟨[], ?_, ?_, h.ne_nil, h.digits⟩
        · rw [hrest]
          simp
        · rw [List.append_nil] at hgroup
          rw [← hgroup, append_group]
      · -- the closing parenthesis would be the last of some blanks
        have hends : (before ++ '(' :: n) ++ [')'] = (text ++ front) ++ [c] := by
          simpa using hgroup
        injection List.append_inj_right' hends rfl with hc _
        subst hc
        have hblank := hblanks ')' (by simp [hrest])
        exact absurd hblank (by decide)
  · rintro ⟨after', rfl, h⟩
    refine ⟨?_, h.ne_nil, h.digits⟩
    rw [h.text_eq, append_group, append_group]
    simp

theorem lastGroup_append_blanks (hblanks : ∀ c ∈ blanks, isBlank c) :
    LastGroup k before n after (text ++ blanks) ↔
      ∃ after', after = after' ++ blanks ∧ LastGroup k before n after' text := by
  constructor
  · intro h
    obtain ⟨after', hafter, hgroup⟩ := (group_append_blanks hblanks).mp h.toGroup
    refine ⟨after', hafter, hgroup, h.le_length, ?_⟩
    intro before' n' after'' h'
    exact h.last ((group_append_blanks hblanks).mpr ⟨after'', rfl, h'⟩)
  · rintro ⟨after', rfl, h⟩
    refine ⟨(group_append_blanks hblanks).mpr ⟨after', rfl, h.toGroup⟩, h.le_length, ?_⟩
    intro before' n' after'' h'
    obtain ⟨_, _, hgroup⟩ := (group_append_blanks hblanks).mp h'
    exact h.last hgroup

/-- Blanks behind a first line do not change where it says that a worker stopped. -/
theorem stops_append_blanks (hblanks : ∀ c ∈ blanks, isBlank c) :
    Stops (text ++ blanks) line ↔ Stops text line := by
  constructor
  · rintro ⟨hopening, before, n, after, hlast, hline⟩
    obtain ⟨after', rfl, h⟩ := (lastGroup_append_blanks hblanks).mp hlast
    have hlength : "> ".toList.length ≤ text.length := by
      have hk := h.le_length
      rw [h.text_eq, append_group, List.length_append]
      show 2 ≤ _
      omega
    have hstarts : "> ".toList <+: text :=
      List.prefix_of_prefix_length_le hopening (List.prefix_append _ _) hlength
    exact ⟨hstarts, before, n, after', h, hline⟩
  · rintro ⟨hopening, before, n, after, hlast, hline⟩
    exact ⟨hopening.trans (List.prefix_append _ _), before, n, after ++ blanks,
      (lastGroup_append_blanks hblanks).mpr ⟨after, rfl, hlast⟩, hline⟩

/-- **Where a title says that a worker stopped can be read off its first line**, trimmed or not. -/
theorem ofTitle_eq_paused_iff {title : String} :
    ofTitle title = paused line ↔ Stops (firstLine title.toList) line := by
  obtain ⟨blanks, hblanks, hfirst⟩ := exists_firstLine_eq title.toList
  rw [ofTitle, ofTrimmed_eq_paused_iff, hfirst, stops_append_blanks hblanks]

theorem firstLine_trimEnd_prefix_self (text : List Char) : firstLine (trimEnd text) <+: text := by
  obtain ⟨blanks, _, htext⟩ := exists_blanks text
  have hline : firstLine (trimEnd text) <+: trimEnd text := List.takeWhile_prefix _
  have htrim : trimEnd text <+: text := ⟨blanks, htext.symm⟩
  exact hline.trans htrim

/-- A title with the opening of a frame marker says where a worker stopped, or nothing. -/
theorem ofTitle_of_opening {title : String} (h : "> ".toList <+: title.toList) :
    (∃ line, ofTitle title = paused line) ∨ ofTitle title = unrecognized := by
  obtain ⟨rest, hrest⟩ := h
  rw [ofTitle, ← hrest]
  by_cases hblank : trimEnd rest = []
  · -- nothing but the opening, of which the blank is trimmed away
    right
    have hopening : trimEnd ("> ".toList ++ rest) = ">".toList := by
      have hblanks : ∀ c ∈ ' ' :: rest, isBlank c := by
        intro c hc
        rcases List.mem_cons.mp hc with rfl | hc
        · decide
        · exact trimEnd_eq_nil_iff.mp hblank c hc
      exact trimEnd_append_blanks ">".toList (' ' :: rest) hblanks
    rw [hopening]
    decide
  · rw [trimEnd_append _ hblank, ofTrimmed_opening]
    cases stop? (trimEnd rest) with
    | none => exact Or.inr rfl
    | some line => exact Or.inl ⟨line, rfl⟩

theorem firstLine_of_notMem {start : String} (h : '\n' ∉ start.toList) (later : String) :
    firstLine (start ++ "\n" ++ later).toList = firstLine start.toList := by
  have htext : (start ++ "\n" ++ later).toList = start.toList ++ '\n' :: later.toList := by
    simp only [String.toList_append, List.append_assoc]
    rfl
  rw [htext, firstLine_eq_self h]
  exact takeWhile_append_mark h _

/-- The first line of a title, without the blanks at the end of the title. -/
def heading (title : String) : List Char := firstLine (trimEnd title.toList)

/-- **Stops are recognised exactly.**  A title says that a worker stopped at a line exactly if its
    heading has the opening of a frame marker, and the last of the groups that start at least one
    character behind the opening writes the line.  There is such a last group wherever there is such
    a group, and only one.  If it writes no word, the title says nothing, whatever the groups before
    it write.  What stands behind the first line never matters. -/
theorem stop_iff_last_group (title : String) :
    (∀ line, ofTitle title = paused line ↔
      "> ".toList <+: heading title ∧
        ∃ before n after, LastGroup 3 before n after (heading title) ∧ Writes n line) ∧
    ((∃ before n after, Group before n after (heading title) ∧ 3 ≤ before.length) →
      ∃ before n after, LastGroup 3 before n after (heading title)) ∧
    (∀ before n after before' n' after', LastGroup 3 before n after (heading title) →
      LastGroup 3 before' n' after' (heading title) →
      before = before' ∧ n = n' ∧ after = after') ∧
    (∀ before n after, "> ".toList <+: heading title → LastGroup 3 before n after (heading title) →
      (∀ line, ¬ Writes n line) → ofTitle title = unrecognized) ∧
    ∀ start later : String, '\n' ∉ start.toList →
      (∀ line, ofTitle (start ++ "\n" ++ later) = paused line ↔ ofTitle start = paused line) ∧
      ("> ".toList <+: start.toList → ofTitle (start ++ "\n" ++ later) = ofTitle start) := by
  refine ⟨?_, ?_, ?_, ?_, ?_⟩
  · intro line
    exact ofTrimmed_eq_paused_iff
  · rintro ⟨before, n, after, h, hk⟩
    exact h.exists_last hk
  · intro before n after before' n' after' h h'
    exact h.unique h'
  · intro before n after hopening h hwrites
    have hstarts := hopening.trans (firstLine_trimEnd_prefix_self _)
    rcases ofTitle_of_opening hstarts with ⟨line, hline⟩ | hnone
    · obtain ⟨_, before', n', after', h', hline'⟩ := ofTrimmed_eq_paused_iff.mp hline
      obtain ⟨_, rfl, _⟩ := h.unique h'
      exact absurd hline' (hwrites line)
    · exact hnone
  · intro start later hstart
    have hpaused : ∀ line, ofTitle (start ++ "\n" ++ later) = paused line ↔
        ofTitle start = paused line := by
      intro line
      rw [ofTitle_eq_paused_iff, ofTitle_eq_paused_iff, firstLine_of_notMem hstart]
    refine ⟨hpaused, fun hopening => ?_⟩
    have hopening' : "> ".toList <+: (start ++ "\n" ++ later).toList := by
      rw [String.toList_append, String.toList_append, List.append_assoc]
      exact hopening.trans (List.prefix_append _ _)
    rcases ofTitle_of_opening hopening' with ⟨line, hline⟩ | hnone
    · rw [hline, (hpaused line).mp hline]
    · rcases ofTitle_of_opening hopening with ⟨line, hline⟩ | hnone'
      · rw [(hpaused line).mpr hline, hline]
      · rw [hnone, hnone']

/-! ## A path and a frame full of parentheses -/

/-- A marker with groups in its path and its frame, parentheses that are not closed, and a second
    line. -/
def crowded : String := "> /srv/job(2)/(5(٣/u.py(08)run((7)\n(9) \t"

/-- It is read as a stop at line 7, and so it is without its second line; no other group is last.
    Where the digits of the last group are of another script, nothing is read. -/
theorem crowded_is_paused :
    ofTitle crowded = paused 7 ∧
      (∀ before n after, LastGroup 3 before n after (heading crowded) → "7".toList = n) ∧
      ofTitle ("> /u.py(7)f()" ++ "\n" ++ "(9)") = ofTitle "> /u.py(7)f()" ∧
      ofTitle "> /srv/job(2)/u.py(٣)" = unrecognized := by
  obtain ⟨hpaused, hexists, hunique, _, hlines⟩ := stop_iff_last_group crowded
  obtain ⟨_, _, _, hnone, _⟩ := stop_iff_last_group "> /srv/job(2)/u.py(٣)"
  have hgroup : Group "> /srv/job".toList ['2'] "/(5(٣/u.py(08)run((7)".toList (heading crowded) :=
    ⟨by decide, by decide, List.forall_mem_singleton.mpr (by decide)⟩
  obtain ⟨before, n, after, hlast⟩ := hexists ⟨_, _, _, hgroup, by decide⟩
  have hread := lastGroup?_drop_eq_some_iff.mpr ⟨before, after, hlast⟩
  have hn : n = "7".toList := Option.some.inj (hread.symm.trans (by decide))
  subst hn
  obtain ⟨before', after', hlast'⟩ := lastGroup?_drop_eq_some_iff.mp (show
    lastGroup? ((heading "> /srv/job(2)/u.py(٣)").drop 3) = some "٣".toList by decide)
  have hseven : Writes "7".toList 7 := word32?_eq_some_iff.mp (by decide)
  refine ⟨?_, ?_, ?_, ?_⟩
  · exact (hpaused 7).mpr ⟨by decide, before, _, after, hlast, hseven⟩
  · intro before'' n after'' h
    exact (hunique _ _ _ _ _ _ hlast h).2.1
  · exact (hlines _ _ (by decide)).2 (by decide)
  · refine hnone _ _ _ (by decide) hlast' ?_
    intro line hline
    exact absurd (hline.isDigit '٣' (by decide)) (by decide)

end DebugDesk.Event
