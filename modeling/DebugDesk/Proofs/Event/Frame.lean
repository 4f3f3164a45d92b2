/-
  What a frame does to the line of a stop.

  A frame marker is printed as `> path(line)frame`, and the frame is free text: the name of the
  function, and behind an arrow the value that it returns.  The number behind the path is meant to
  be the line of the stop.  But the reader takes the last group of the first line, so that paths
  may hold groups, and there is no mark that tells where the path ends.

  So the number behind the path is read exactly if the frame has no group in its first line, or if
  the last of its groups writes the same number (`stop_behind_path`).  Otherwise the stop moves to
  the line that the frame's last group writes, or is not recognised if it writes none.  Nothing
  unusual is needed for that: a function that returns a number with the name of its type in front
  is enough (`returned_value_moves_stop`).  The path has no part in it; it may hold what it likes
  but a line feed.

  The crux is that no group starts in one part of the marker and ends in another
  (`lastGroup?_printed`): a group holds no opening parenthesis but its first character.
-/
import DebugDesk.Proofs.Event.Stop
import DebugDesk.Sample

namespace DebugDesk.Event

open DebugDesk.Text (isDecimalDigit isDecimalDigit_of_isDigit notMem_of_run)
open DebugDesk.Text.Decimal (Writes writes_digits)

variable {n text start : List Char} {line : UInt32}

/-! ## The last group of a marker -/

theorem lastGroup?_append_of_some (start : List Char) (h : lastGroup? text = some n) :
    lastGroup? (start ++ text) = some n := by
  induction start with
  | nil => exact h
  | cons c start ih => exact lastGroup?_cons_of_some ih

/-- No group starts before the first opening parenthesis. -/
theorem lastGroup?_append_of_notMem (h : '(' ∉ start) (text : List Char) :
    lastGroup? (start ++ text) = lastGroup? text := by
  induction start with
  | nil => rfl
  | cons c start ih =>
    have hc : '(' ≠ c := fun e => h (e ▸ List.mem_cons_self)
    have hread := ih fun hmem => h (List.mem_cons_of_mem c hmem)
    cases htext : lastGroup? text with
    | some n =>
      rw [htext] at hread
      exact lastGroup?_cons_of_some hread
    | none =>
      rw [htext] at hread
      rw [List.cons_append, lastGroup?_cons_of_none hread]
      cases hgroup : groupAt? (c :: (start ++ text)) with
      | none => rfl
      | some n =>
        obtain ⟨after, h'⟩ := groupAt?_eq_some_iff.mp hgroup
        injection h'.text_eq with hfirst _
        exact absurd hfirst.symm hc

/-- A group is the last of a text unless another follows. -/
theorem lastGroup?_group (hne : n ≠ []) (hn : ∀ c ∈ n, isDecimalDigit c) (text : List Char) :
    lastGroup? ('(' :: (n ++ ')' :: text)) = some ((lastGroup? text).getD n) := by
  have hopen : '(' ∉ n ++ [')'] := by
    intro hmem
    rcases List.mem_append.mp hmem with hmem | hmem
    · exact notMem_of_run hn (by decide) hmem
    · exact absurd (List.mem_singleton.mp hmem) (by decide)
  have hrest : lastGroup? (n ++ ')' :: text) = lastGroup? text := by
    have hread := lastGroup?_append_of_notMem hopen text
    rw [List.append_assoc] at hread
    exact hread
  cases htext : lastGroup? text with
  | some n' =>
    rw [htext] at hrest
    exact lastGroup?_cons_of_some hrest
  | none =>
    rw [htext] at hrest
    rw [lastGroup?_cons_of_none hrest]
    have hgroup : Group [] n text ('(' :: (n ++ ')' :: text)) :=
      ⟨(append_group [] n text).symm, hne, hn⟩
    exact groupAt?_eq_some_iff.mpr ⟨text, hgroup⟩

/-- **The last group of a printed marker** is that of the frame, or the number behind the path. -/
theorem lastGroup?_printed (path : List Char) (line : UInt32) (frame : List Char) :
    lastGroup? (path ++ '(' :: (Text.Decimal.digits line.toNat ++ ')' :: frame)) =
      some ((lastGroup? frame).getD (Text.Decimal.digits line.toNat)) := by
  have hline := writes_digits line
  refine lastGroup?_append_of_some path (lastGroup?_group hline.ne_nil ?_ frame)
  intro c hc
  exact isDecimalDigit_of_isDigit (hline.isDigit c hc)

/-! ## Reading what debuggers print -/

theorem opening_prefix_paused (path : String) (line : UInt32) (frame : String) :
    "> ".toList <+: (Printed.paused path line frame).toList := by
  simp only [Printed.paused, String.toList_append, List.append_assoc]
  exact List.prefix_append _ _

/-- The first line of a printed marker goes as far as that of its frame. -/
theorem firstLine_paused {path : String} (hline : '\n' ∉ path.toList) (line : UInt32)
    (frame : String) : firstLine (Printed.paused path line frame).toList =
      "> ".toList ++ (path.toList ++
        '(' :: (Text.Decimal.digits line.toNat ++ ')' :: firstLine frame.toList)) := by
  have htext : (Printed.paused path line frame).toList =
      ("> ".toList ++ path.toList ++ "(".toList ++ Text.Decimal.digits line.toNat ++ ")".toList) ++
        frame.toList := by
    simp only [Printed.paused, Printed.number, String.toList_append, String.toList_ofList]
  have hnumber : '\n' ∉ Text.Decimal.digits line.toNat :=
    notMem_of_run (writes_digits line).isDigit (by decide)
  have hmarker : '\n' ∉
      "> ".toList ++ path.toList ++ "(".toList ++ Text.Decimal.digits line.toNat ++ ")".toList := by
    simp only [List.mem_append, not_or]
    exact ⟨⟨⟨⟨by decide, hline⟩, by decide⟩, hnumber⟩, by decide⟩
  rw [htext, firstLine_append_of_notMem hmarker]
  simp

/-- What is read from a printed marker is the last number of its frame, or the one behind the
    path. -/
theorem ofTitle_paused_eq_paused_iff {path : String} (hpath : path ≠ "")
    (hline : '\n' ∉ path.toList) {frame : String} {other : UInt32} :
    ofTitle (Printed.paused path line frame) = paused other ↔
      Writes ((lastGroup? (firstLine frame.toList)).getD (Text.Decimal.digits line.toNat))
        other := by
  obtain ⟨c, rest, hrest⟩ : ∃ c rest, path.toList = c :: rest :=
    List.exists_cons_of_ne_nil fun h => hpath (String.toList_eq_nil_iff.mp h)
  -- the opening and the first character of the path are left alone
  have hdrop : (firstLine (Printed.paused path line frame).toList).drop 3 =
      rest ++ '(' :: (Text.Decimal.digits line.toNat ++ ')' :: firstLine frame.toList) := by
    rw [firstLine_paused hline, hrest]
    rfl
  have hopening : "> ".toList <+: firstLine (Printed.paused path line frame).toList := by
    rw [firstLine_paused hline]
    exact List.prefix_append _ _
  rw [ofTitle_eq_paused_iff, stops_iff, hdrop, lastGroup?_printed]
  constructor
  · rintro ⟨_, n, hn, hother⟩
    rw [Option.some.inj hn]
    exact hother
  · intro hother
    exact ⟨hopening, _, rfl, hother⟩

section Marker

variable {path : String} {frame : String} {before after : List Char} (hpath : path ≠ "")
  (hline : '\n' ∉ path.toList)

include hpath hline

/-- Where the frame has groups, the last of them tells the line. -/
theorem ofTitle_paused_of_lastGroup (h : LastGroup 0 before n after (firstLine frame.toList))
    (line other : UInt32) :
    ofTitle (Printed.paused path line frame) = paused other ↔ Writes n other := by
  rw [ofTitle_paused_eq_paused_iff hpath hline, lastGroup?_eq_some_iff.mpr ⟨before, after, h⟩]
  exact Iff.rfl

/-- If that group writes no word, nothing is read. -/
theorem ofTitle_unrecognized_of_lastGroup
    (h : LastGroup 0 before n after (firstLine frame.toList)) (line : UInt32) :
    ofTitle (Printed.paused path line frame) = unrecognized ↔ ∀ word, ¬ Writes n word := by
  have hread := ofTitle_paused_of_lastGroup hpath hline h line
  constructor
  · intro hunrecognized word hwrites
    rw [(hread word).mpr hwrites] at hunrecognized
    nomatch hunrecognized
  · intro hno
    rcases ofTitle_of_opening (opening_prefix_paused path line frame) with ⟨word, hword⟩ | hnone
    · exact absurd ((hread word).mp hword) (hno word)
    · exact hnone

/-- Where it has none, the number behind the path does. -/
theorem ofTitle_paused_of_no_group
    (h : ∀ before n after, ¬ Group before n after (firstLine frame.toList)) :
    ofTitle (Printed.paused path line frame) = paused line := by
  rw [ofTitle_paused_eq_paused_iff hpath hline]
  cases hlast : lastGroup? (firstLine frame.toList) with
  | none => exact writes_digits line
  | some n =>
    obtain ⟨before, after, hgroup⟩ := exists_of_lastGroup? hlast
    exact absurd hgroup.toGroup (h before n after)

end Marker

/-- **Where a printed stop is read.**  The stop is read at the line behind the path exactly if the
    last group in the first line of the frame writes this line or there is none.  It is read at any
    other line exactly if that group writes it, and nothing is read exactly if the group writes no
    word.  The path may hold what it likes but a line feed. -/
theorem stop_behind_path (path : String) (line : UInt32) (frame : String) (hpath : path ≠ "")
    (hline : '\n' ∉ path.toList) :
    (ofTitle (Printed.paused path line frame) = paused line ↔
      ∀ before n after, LastGroup 0 before n after (firstLine frame.toList) → Writes n line) ∧
    (∀ other, ofTitle (Printed.paused path line frame) = paused other ↔
      (∃ before n after, LastGroup 0 before n after (firstLine frame.toList) ∧ Writes n other) ∨
        (∀ before n after, ¬ Group before n after (firstLine frame.toList)) ∧ other = line) ∧
    (ofTitle (Printed.paused path line frame) = unrecognized ↔
      ∃ before n after, LastGroup 0 before n after (firstLine frame.toList) ∧
        ∀ word, ¬ Writes n word) := by
  by_cases hgroups : ∃ before n after, LastGroup 0 before n after (firstLine frame.toList)
  · obtain ⟨before, n, after, h⟩ := hgroups
    have hread := ofTitle_paused_of_lastGroup hpath hline h line
    refine ⟨?_, ?_, ?_⟩
    · rw [hread, h.forall_iff]
    · intro other
      rw [hread, h.exists_iff, or_iff_left]
      rintro ⟨hnone, _⟩
      exact hnone before n after h.toGroup
    · rw [ofTitle_unrecognized_of_lastGroup hpath hline h, h.exists_iff]
  · have hnone : ∀ before n after, ¬ Group before n after (firstLine frame.toList) :=
      fun before n after h => hgroups (h.exists_last (Nat.zero_le _))
    rw [ofTitle_paused_of_no_group hpath hline hnone]
    refine ⟨?_, ?_, ?_⟩
    · exact ⟨fun _ before n after h => absurd h.toGroup (hnone before n after), fun _ => rfl⟩
    · intro other
      constructor
      · intro hpaused
        injection hpaused with hother
        exact Or.inr ⟨hnone, hother.symm⟩
      · rintro (⟨before, n, after, h, _⟩ | ⟨_, rfl⟩)
        · exact absurd h.toGroup (hnone before n after)
        · rfl
    · constructor
      · exact fun hunrecognized => nomatch hunrecognized
      · rintro ⟨before, n, after, h, _⟩
        exact absurd h.toGroup (hnone before n after)

/-- A frame with brackets and digits, but without a group in its first line, leaves the stop where
    it is, although the path has a group and the text goes on behind the first line. -/
theorem stop_behind_path_of_job :
    ofTitle (Printed.paused "/srv/job(2)/u.py" 10 "<module>(x, 7)->(5,)\n(9)") = paused 10 := by
  obtain ⟨hstop, _, _⟩ := stop_behind_path "/srv/job(2)/u.py" 10 "<module>(x, 7)->(5,)\n(9)"
    (by decide) (by decide)
  refine hstop.mpr ?_
  intro before n after h
  exact absurd h.toGroup (not_group_of_lastGroup? (by decide))

/-- **The value that a function returns moves the stop** to another line, if it is written with a
    number in parentheses.  So not every printed stop is read at its own line. -/
theorem returned_value_moves_stop :
    ofTitle (Printed.paused "/udf.py" 10 "f()->np.int64(5)") = paused 5 ∧
      ¬ ∀ (line : UInt32) (path frame : String), path ≠ "" → '(' ∉ path.toList →
        ')' ∉ path.toList → '\n' ∉ path.toList →
        ofTitle (Printed.paused path line frame) = paused line := by
  have hmoved : ofTitle (Printed.paused "/udf.py" 10 "f()->np.int64(5)") = paused 5 := by decide
  refine ⟨hmoved, fun hall => ?_⟩
  have hstays := hall 10 "/udf.py" "f()->np.int64(5)" (by decide) (by decide) (by decide)
    (by decide)
  rw [hmoved] at hstays
  exact absurd hstays (by decide)

end DebugDesk.Event
