/-
  A replay prints its whole result or nothing.

  Before anything is printed, four things have to be in order: the settings, the file of the
  recording, each of its lines, and the type of the operator.  They are looked at in this order, and
  the first that is not in order is the reason why nothing is printed (`Fault`).  If all are in order
  (`InOrder`), there is a result, and it is printed in full; batches of other operators, which come
  to light behind it, change the exit code and not the output.  Which files hold settings is said
  without the reader (`Settings.StandIn`).

  The crux is that there is nothing between the two.  All lines are looked at before the first batch
  is heard, so good lines in front of a bad one print nothing; and the replay of an operator that is
  tracked cannot fail (`Replay.run_of_tracks`).

  Printed is one line for each request and one for the breakpoints, whatever stands in the names of
  operators and workers (`Replay.whole_text`).
-/
import DebugDesk.CommandLine
import DebugDesk.Proofs.Board.Lifecycle
import DebugDesk.Proofs.Recording
import DebugDesk.Proofs.Replay
import DebugDesk.Proofs.Settings

namespace DebugDesk

/-! ## Whole results -/

namespace Replay

/-- **The whole result of a replay as a text**: for each request, in order, a line that is decoded to
    it, and behind them a line that is decoded to the breakpoints. -/
inductive Whole (r : Replay) : String → Prop where
  | lines {commands : List String} {last : String} {map : Table Breakpoint}
    (requests : List.Forall₂ (Json.IsLine Request.ofJson?) commands r.requests)
    (breakpoints : Json.IsLine (Json.asTable? Breakpoint.ofJson?) last map)
    (entries_eq : map.entries = r.breakpoints) :
    Whole r (String.join ((commands ++ [last]).map (· ++ "\n")))

/-- **The text of a replay is its whole result**, if the breakpoints are in the order of their
    keys. -/
theorem whole_text (r : Replay) (ascending : r.breakpoints.Pairwise fun e e' => e.1 < e'.1) :
    r.Whole r.text := by
  have hcommands : List.Forall₂ (Json.IsLine Request.ofJson?) (r.requests.map (·.toPayload.print))
      r.requests := by
    rw [List.forall₂_map_left_iff, List.forall₂_same]
    exact fun request _ => request.carries_payload.isLine (by decide)
  have hmap : Json.Carries (Json.asTable? Breakpoint.ofJson?) 2 r.breakpointsToJson
      ⟨r.breakpoints, ascending⟩ := Json.carries_table (List.Perm.refl _) fun e _ => e.2.carries
  exact .lines hcommands (hmap.isLine (by decide)) rfl

end Replay

namespace CommandLine

/-! ## What has to be in order -/

/-- **The batches of a recording under a path**, where each of its lines is blank or holds a batch. -/
inductive Recorded (files : String → FileContent) (path : String) : List Batch → Prop where
  | lines {content : ByteArray} {lines : List (List UInt8)} {held : List (Option Batch)}
    (opened : files path = .bytes content) (cut : Lines content.toList lines)
    (all : List.Forall₂ Recording.Holds lines held) : Recorded files path held.reduceOption

/-- **The settings of a replay**: the defaults, or those that stand in a file. -/
inductive Configured (files : String → FileContent) : (config : Option String) → Settings → Prop where
  | defaults : Configured files none {}
  | file {path : String} {s : Settings} (h : Settings.StandIn (files path) s) :
    Configured files (some path) s

/-- **Why a replay prints nothing**: the first thing that is not in order. -/
inductive Fault (files : String → FileContent) (a : ReplayArguments) : String → Prop where
  /-- No settings stand in the file that is named for them. -/
  | settings {path : String} {e : DeskError} (named : a.config = some path)
    (unusable : Settings.Unusable (files path) e) : Fault files a e.message
  /-- The recording cannot be opened. -/
  | opening {s : Settings} (configured : Configured files a.config s)
    (missing : files a.file = .missing) : Fault files a ("opening " ++ a.file)
  /-- What was opened has no lines to read. -/
  | reading {s : Settings} (configured : Configured files a.config s)
    (directory : files a.file = .directory) :
    Fault files a "i/o error: Is a directory (os error 21)"
  /-- A line offends, and none before it. -/
  | line {s : Settings} {content : ByteArray} {before after : List (List UInt8)} {line : List UInt8}
    {e : RecordingError} (configured : Configured files a.config s)
    (opened : files a.file = .bytes content) (cut : Lines content.toList (before ++ line :: after))
    (good : ∀ l ∈ before, ∃ held, Recording.Holds l held)
    (bad : Recording.Offends a.file (1 + before.length) line e) : Fault files a e.message
  /-- The type of the operator is none of those in the settings. -/
  | type {s : Settings} {recorded : List Batch} (configured : Configured files a.config s)
    (readable : Recorded files a.file recorded) (untracked : a.type ∉ s.operatorTypes) :
    Fault files a ("operator " ++ a.operator ++ " was not registered")

/-- **Everything is in order**: the settings, the recording and its lines, and the type. -/
structure InOrder (files : String → FileContent) (a : ReplayArguments) (s : Settings)
    (recorded : List Batch) : Prop where
  configured : Configured files a.config s
  readable : Recorded files a.file recorded
  tracked : a.type ∈ s.operatorTypes

variable {files : String → FileContent} {a : ReplayArguments} {s : Settings} {recorded : List Batch}

/-- The settings are found, or they are looked for in an unusable file. -/
theorem configured_or_unusable (files : String → FileContent) (config : Option String) :
    (∃ s, Configured files config s) ∨
      ∃ path e, config = some path ∧ Settings.Unusable (files path) e := by
  cases config with
  | none => exact .inl ⟨_, .defaults⟩
  | some path =>
    rcases Settings.standIn_or_unusable (files path) with ⟨s, h⟩ | ⟨e, h⟩
    · exact .inl ⟨s, .file h⟩
    · exact .inr ⟨path, e, rfl, h⟩

/-- There is a fault, or everything is in order. -/
theorem fault_or_inOrder (files : String → FileContent) (a : ReplayArguments) :
    (∃ reason, Fault files a reason) ∨ ∃ s recorded, InOrder files a s recorded := by
  rcases configured_or_unusable files a.config with ⟨s, hsettings⟩ | ⟨path, e, hconfig, hunusable⟩
  · cases hfile : files a.file with
    | missing => exact .inl ⟨_, .opening hsettings hfile⟩
    | directory => exact .inl ⟨_, .reading hsettings hfile⟩
    | bytes content =>
      obtain ⟨lines, hlines⟩ := exists_lines content.toList
      rcases Recording.all_hold_or_first_offends a.file lines 1 with
        ⟨held, hall⟩ | ⟨before, line, after, e, rfl, hbefore, hline⟩
      · have hrecorded : Recorded files a.file held.reduceOption := .lines hfile hlines hall
        by_cases htype : a.type ∈ s.operatorTypes
        · exact .inr ⟨s, _, hsettings, hrecorded, htype⟩
        · exact .inl ⟨_, .type hsettings hrecorded htype⟩
      · exact .inl ⟨_, .line hsettings hfile hlines hbefore hline⟩
  · exact .inl ⟨_, .settings hconfig hunusable⟩

/-! ## What comes out -/

theorem settings_of_configured {config : Option String} (h : Configured files config s) :
    settings files config = .ok s := by
  cases h with
  | defaults => rfl
  | file h => exact Settings.ofFile_eq_ok_iff.mpr h

theorem batches_of_recorded {path : String} (h : Recorded files path recorded) :
    batches files path = .ok recorded := by
  cases h with
  | lines opened cut all =>
    simp only [batches, opened, Recording.read_of_lines cut, Recording.readFrom_of_all_hold all]
    rfl

/-- **A fault is reported, and nothing is printed.** -/
theorem runReplay_of_fault {reason : String} (h : Fault files a reason) :
    runReplay files a = failure reason "" := by
  cases h with
  | settings named unusable =>
    simp only [runReplay, settings, named, Settings.ofFile_eq_error_iff.mpr unusable]
  | opening configured missing =>
    simp only [runReplay, settings_of_configured configured, batches, missing]
  | reading configured directory =>
    simp only [runReplay, settings_of_configured configured, batches, directory]
    rfl
  | line configured opened cut good bad =>
    simp only [runReplay, settings_of_configured configured, batches, opened,
      Recording.read_of_lines cut, Recording.readFrom_of_first_offends good bad]
    rfl
  | @type s recorded configured readable untracked =>
    have huntracked : s.tracks a.type = false :=
      Bool.eq_false_iff.mpr fun h => untracked ((s.tracks_iff a.type).mp h)
    have hrun : Replay.run "replay" s ⟨a.operator, a.type, a.workers⟩ recorded = .error _ :=
      Replay.run_of_not_tracks "replay" huntracked recorded
    simp only [runReplay, settings_of_configured configured, batches_of_recorded readable, hrun]

/-- How many batches are of other operators. -/
def foreignCount (a : ReplayArguments) (recorded : List Batch) : Nat :=
  recorded.countP (·.operator != a.operator)

theorem foreignCount_eq_zero_iff :
    foreignCount a recorded = 0 ↔ ∀ b ∈ recorded, b.operator = a.operator := by
  rw [foreignCount, List.countP_eq_zero]
  simp only [bne_iff_ne, ne_eq, not_not]

/-- **Where everything is in order, the whole result is printed**, whether batches failed or not. -/
theorem exists_runReplay_of_inOrder (h : InOrder files a s recorded) :
    ∃ r output, (∀ madeUp, Replay.run madeUp s ⟨a.operator, a.type, a.workers⟩ recorded = .ok r) ∧
      r.Whole output ∧
      runReplay files a = if foreignCount a recorded = 0 then ⟨0, output, ""⟩
        else failure (String.ofList (Text.Decimal.digits (foreignCount a recorded))
          ++ " console batches failed") output := by
  have htracks : s.tracks a.type = true := (s.tracks_iff a.type).mpr h.tracked
  have hrun (madeUp : String) :
      Replay.run madeUp s ⟨a.operator, a.type, a.workers⟩ recorded = .ok _ :=
    Replay.run_of_tracks madeUp htracks recorded
  refine ⟨_, _, hrun, Replay.whole_text _ (Board.entries_ascending _), ?_⟩
  simp only [runReplay, settings_of_configured h.configured, batches_of_recorded h.readable, hrun]
  rfl

/-! ## The whole result or nothing -/

/-- **A replay prints its whole result or nothing.**  Whatever the files hold, there is a fault or
    everything is in order.  A fault is reported with exit code 1, and nothing is printed.  Otherwise
    printed is exactly one line for each request that was sent, in order, and one line for the
    breakpoints, each of which is decoded to what it stands for; and the exit code is 0 if all batches
    are of the operator that is replayed, and 1 with the same output if one is not. -/
theorem replay_prints_whole_or_nothing (files : String → FileContent) (input : ByteArray)
    (arguments : List String) (a : ReplayArguments) (accepted : parse? arguments = some (.replay a)) :
    ((∃ reason, Fault files a reason) ∨ ∃ s recorded, InOrder files a s recorded) ∧
    (∀ reason, Fault files a reason →
      run files input arguments = ⟨1, "", "Error: " ++ reason ++ "\n"⟩) ∧
    ∀ s recorded, InOrder files a s recorded →
      ∃ r output,
        (∀ madeUp, Replay.run madeUp s ⟨a.operator, a.type, a.workers⟩ recorded = .ok r) ∧
        r.Whole output ∧
        ((∀ b ∈ recorded, b.operator = a.operator) →
          run files input arguments = ⟨0, output, ""⟩) ∧
        ∀ b ∈ recorded, b.operator ≠ a.operator →
          run files input arguments = ⟨1, output, "Error: " ++
            (String.ofList (Text.Decimal.digits (foreignCount a recorded))
              ++ " console batches failed") ++ "\n"⟩ := by
  have hrun : run files input arguments = runReplay files a := by
    rw [run, accepted]
    rfl
  rw [hrun]
  refine ⟨fault_or_inOrder files a, fun reason fault => runReplay_of_fault fault, ?_⟩
  intro s recorded hin
  obtain ⟨r, output, hresult, hwhole, hout⟩ := exists_runReplay_of_inOrder hin
  refine ⟨r, output, hresult, hwhole, fun hown => ?_, fun b hb hforeign => ?_⟩
  · rw [hout, if_pos (foreignCount_eq_zero_iff.mpr hown)]
  · rw [hout, if_neg fun hzero => hforeign (foreignCount_eq_zero_iff.mp hzero b hb)]
    rfl

/-! ## Settings from files, and a bad line behind good ones -/

/-- A confirmation for an operator with a line feed in its name. -/
def confirmed : Batch := ⟨"udf\n1", [.debugger "w" "Breakpoint 1 at /tmp/a.py:5"]⟩

/-- The line of the confirmation. -/
def confirmedLine : List UInt8 := Text.utf8 confirmed.toJson.print.toList

/-- The confirmation, and a batch of another operator. -/
def goodLines : List UInt8 :=
  confirmedLine ++ Recording.LineEnd.feed.bytes ++
    Text.utf8 (Sample.paused "w2" 5).toJson.print.toList

/-- The confirmation, and a line that holds no batch. -/
def badLines : List UInt8 := confirmedLine ++ 0x0A :: Text.utf8 "oops".toList

/-- Settings with one unknown name, for boards that write as `desk`. -/
def goodSettings : String :=
  "udf_operator_types = [\"PythonUDFV2\"]\n\n[store_mode]\nreplica_id = \"desk\"\nnote = 1\n" ++
    "kind = \"replicated\" # shared\n"

/-- A document with a kind of boards that there is not. -/
def badSettings : String := "store_mode = [\"shared\"]\n"

/-- A recording in order and one that is not, and settings in order and some that are not. -/
def fourFiles : String → FileContent
  | "good" => .bytes ⟨goodLines.toArray⟩
  | "bad" => .bytes ⟨badLines.toArray⟩
  | "good.toml" => .bytes goodSettings.toUTF8
  | "bad.toml" => .bytes badSettings.toUTF8
  | _ => .missing

/-- The arguments of a replay of the operator. -/
def argumentsFor (file : String) : List String :=
  ["replay", "--operator", "udf\n1", "--workers", "\"w\",x\ny", file]

/-- What these arguments ask for. -/
def askedFor (file : String) : ReplayArguments :=
  ⟨"udf\n1", "PythonUDFV2", ["\"w\"", "x\ny"], none, file⟩

/-- The arguments of a replay of the good recording with settings. -/
def argumentsWith (config : String) : List String := argumentsFor "good" ++ ["--config", config]

/-- The settings for shared boards. -/
def sharedSettings : Settings where
  operatorTypes := ["PythonUDFV2"]
  storeMode := .replicated (some "desk")

/-- What the replay of the good recording ends with. -/
def confirmedReplay : Replay where
  requests := [⟨"udf\n1", "\"w\"", "continue"⟩, ⟨"udf\n1", "x\ny", "continue"⟩]
  breakpoints := [("5", .confirmed 1)]
  tally := { registered := 1, batches := 1, failures := 1 }

theorem recorded_good : Recorded fourFiles "good" [confirmed, Sample.paused "w2" 5] := by
  have hwritten : Recording.Written (ByteArray.mk goodLines.toArray).toList
      [confirmed, Sample.paused "w2" 5] := by
    rw [toList_mk]
    exact .line (.batch confirmed) .feed (.last (.batch _))
  obtain ⟨lines, held, hlines, hall, hheld⟩ := hwritten.exists_lines
  rw [← hheld]
  exact .lines rfl hlines hall

theorem fault_badLine :
    Fault fourFiles (askedFor "bad") (RecordingError.invalidBatch "bad" 2).message := by
  have hfirst : Recording.Writes confirmed.toJson.print.toList (some confirmed) := .batch _
  have hlines : Lines (ByteArray.mk badLines.toArray).toList
      ([withoutReturn confirmedLine] ++ Text.utf8 "oops".toList :: []) := by
    rw [toList_mk]
    exact .ended (Text.feed_notMem_utf8 hfirst.single)
      (.unended (by decide) (Text.feed_notMem_utf8 (by decide)))
  have hoops : Recording.Offends "bad" 2 (Text.utf8 "oops".toList) (.invalidBatch "bad" 2) :=
    .noBatch (textOf?_eq_some_iff.mpr rfl) ⟨'o', by decide, by decide⟩ (by decide)
  exact .line .defaults rfl hlines
    (List.forall_mem_singleton.mpr ⟨_, hfirst.holds.withoutReturn⟩) hoops

/-- The good settings are found although their fields stand in no order and one is unknown. -/
theorem configured_good : Configured fourFiles (some "good.toml") sharedSettings := by
  have hunknown : ∀ f ∈ [("note", Json.integer 1)], f.1 ∉ ["kind", "replica_id"] := by decide
  have hmode : Json.Presents (StoreMode.forms (.replicated (some "desk")))
      (.object [("replica_id", .string "desk"), ("note", .integer 1),
        ("kind", .string "replicated")]) :=
    .object (.object (.keep rfl (.keep rfl .nil)) hunknown (@List.perm_append_comm _ [_, _] [_]))
  have hread : Toml.read? goodSettings = some (.table .header
      [("udf_operator_types", .array [.string "PythonUDFV2"]),
        ("store_mode", .table .header [("replica_id", .string "desk"), ("note", .integer 1),
          ("kind", .string "replicated")])]) := rfl
  exact .file (.document hread (.object (Json.Keeps.laidOut
    (.keep rfl (.leave rfl (.keep ⟨rfl, hmode⟩ .nil))))))

/-- No kind of boards is called shared. -/
theorem unusable_bad : Settings.Unusable (fourFiles "bad.toml")
    (.settings "the document holds no settings") := by
  have hread : Toml.read? badSettings
      = some (.table .header [("store_mode", .array [.string "shared"])]) := rfl
  have hnone : Settings.ofJson? (.object [("store_mode", .array [.string "shared"])]) = none := rfl
  exact .noSettings hread fun s hs => nomatch hnone.symm.trans (Settings.ofJson?_eq_some_iff.mpr hs)

/-- The good recording is printed in full although a batch failed, and with the good settings just as
    without.  Of the bad one nothing is printed, although its first line is good, and of the good one
    nothing with the bad settings. -/
theorem replay_prints_fourFiles :
    parse? (argumentsFor "good") = some (.replay (askedFor "good")) ∧
      InOrder fourFiles (askedFor "good") {} [confirmed, Sample.paused "w2" 5] ∧
      (∃ output, confirmedReplay.Whole output ∧ run fourFiles .empty (argumentsFor "good")
        = ⟨1, output, "Error: 1 console batches failed\n"⟩) ∧
      parse? (argumentsFor "bad") = some (.replay (askedFor "bad")) ∧
      run fourFiles .empty (argumentsFor "bad")
        = ⟨1, "", "Error: bad:2: invalid console update: the line holds no batch\n"⟩ ∧
      parse? (argumentsWith "good.toml")
        = some (.replay { askedFor "good" with config := some "good.toml" }) ∧
      InOrder fourFiles { askedFor "good" with config := some "good.toml" } sharedSettings
        [confirmed, Sample.paused "w2" 5] ∧
      (∃ output, confirmedReplay.Whole output ∧ run fourFiles .empty (argumentsWith "good.toml")
        = ⟨1, output, "Error: 1 console batches failed\n"⟩) ∧
      parse? (argumentsWith "bad.toml")
        = some (.replay { askedFor "good" with config := some "bad.toml" }) ∧
      run fourFiles .empty (argumentsWith "bad.toml")
        = ⟨1, "", "Error: configuration error: the document holds no settings\n"⟩ := by
  have hgood : parse? (argumentsFor "good") = some (.replay (askedFor "good")) := by decide
  have hbad : parse? (argumentsFor "bad") = some (.replay (askedFor "bad")) := by decide
  have hgoodSettings : parse? (argumentsWith "good.toml")
      = some (.replay { askedFor "good" with config := some "good.toml" }) := by decide
  have hbadSettings : parse? (argumentsWith "bad.toml")
      = some (.replay { askedFor "good" with config := some "bad.toml" }) := by decide
  obtain ⟨_, _, hwhole⟩ := replay_prints_whole_or_nothing fourFiles .empty _ _ hgood
  obtain ⟨_, hnothing, _⟩ := replay_prints_whole_or_nothing fourFiles .empty _ _ hbad
  obtain ⟨_, _, hwholeWith⟩ := replay_prints_whole_or_nothing fourFiles .empty _ _ hgoodSettings
  obtain ⟨_, hnothingWith, _⟩ := replay_prints_whole_or_nothing fourFiles .empty _ _ hbadSettings
  have hin : InOrder fourFiles (askedFor "good") {} [confirmed, Sample.paused "w2" 5] :=
    ⟨.defaults, recorded_good, by decide⟩
  have hinWith : InOrder fourFiles { askedFor "good" with config := some "good.toml" } sharedSettings
      [confirmed, Sample.paused "w2" 5] := ⟨configured_good, recorded_good, by decide⟩
  have hresult : Replay.run "" {} ⟨"udf\n1", "PythonUDFV2", ["\"w\"", "x\ny"]⟩
      [confirmed, Sample.paused "w2" 5] = .ok confirmedReplay :=
    (Replay.run_of_tracks "" (by decide) _).trans (congrArg Except.ok (by decide))
  have hresultWith : Replay.run "" sharedSettings ⟨"udf\n1", "PythonUDFV2", ["\"w\"", "x\ny"]⟩
      [confirmed, Sample.paused "w2" 5] = .ok confirmedReplay :=
    (Replay.run_of_tracks "" (by decide) _).trans (congrArg Except.ok (by decide))
  obtain ⟨r, output, hrun, hout, _, hforeign⟩ := hwhole _ _ hin
  obtain rfl : confirmedReplay = r := Except.ok.inj (hresult.symm.trans (hrun ""))
  obtain ⟨r, outputWith, hrunWith, houtWith, _, hforeignWith⟩ := hwholeWith _ _ hinWith
  obtain rfl : confirmedReplay = r := Except.ok.inj (hresultWith.symm.trans (hrunWith ""))
  exact ⟨hgood, hin,
    ⟨output, hout, hforeign (Sample.paused "w2" 5) (by decide) (by decide)⟩,
    hbad, hnothing _ fault_badLine, hgoodSettings, hinWith,
    ⟨outputWith, houtWith, hforeignWith (Sample.paused "w2" 5) (by decide) (by decide)⟩,
    hbadSettings, hnothingWith _ (.settings rfl unusable_bad)⟩

end CommandLine

end DebugDesk
