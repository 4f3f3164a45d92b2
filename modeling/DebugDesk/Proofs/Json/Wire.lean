/-
  What travels reads back.

  Eight kinds of record travel as JSON: breakpoints, events, batches of console messages, requests,
  status updates, announcements, snapshots of replicas, and settings.  Decoding the printed text of
  any of them gives it back (`decode?_print_records`), whatever characters its strings hold and
  however long its lists are.

  A record is carried because its fields are (`Carries.of_fields`), so a change to one record is a
  change to one lemma here.  Two kinds stand apart.  A status update is an object whose fields are
  the operators themselves, and it may list them in any order.  And the clocks of a snapshot are the
  one place where a number has to be bounded: a text carries words of 64 bits.
-/
import DebugDesk.Console
import DebugDesk.Proofs.Json.Record
import DebugDesk.Replica.Snapshot
import DebugDesk.Request
import DebugDesk.Settings
import DebugDesk.Status

namespace DebugDesk

open Json (Carries fits_object fits_integer fits_clock decode?)

/-! ## Breakpoints and events -/

/-- A breakpoint is carried with an id and without. -/
theorem Breakpoint.carries (b : Breakpoint) : Carries ofJson? 1 b.toJson b := by
  obtain ⟨id, condition, hit⟩ := b
  cases id with
  | none =>
    -- the id is left out, and all other fields are there
    exact .of_fields (fun _ => rfl) (List.sublist_cons_self _ _) (by decide) (by simp) (by simp)
  | some id =>
    have hid : Json.asNullable? Json.asWord32? (.ofWord32 id) = some (some id) := by
      rw [Json.asNullable?_of_ne_null Json.noConfusion, Json.asWord32?_ofWord32, Option.map_some]
    exact .of_fields (fun _ => rfl) (List.Sublist.refl _) (by decide) (by simp) (by simp [hid])

namespace Event

/-- The id and the line of a confirmation are two fields beside the tag. -/
theorem carries_confirmation (id line : UInt32) : Carries confirmationOfJson? 1
    (.object [("breakpoint_id", .ofWord32 id), ("line", .ofWord32 line)]) (id, line) :=
  .of_fields (fun _ => rfl) (List.Sublist.refl _) (by decide) (by simp) (by simp)

/-- An event is carried with its tag. -/
theorem carries (e : Event) : Carries ofJson? 1 e.toJson e := by
  cases e with
  | created id line | deleted id line =>
    refine ⟨fits_object (by simp), ?_⟩
    rw [toJson, ofJson?, Json.tagged?_object (by rfl) (by simp)]
    simp [(carries_confirmation id line).read_eq]
  | paused line =>
    refine ⟨fits_object (by simp), ?_⟩
    rw [toJson, ofJson?, Json.tagged?_object (by rfl) (by simp)]
    have hfields : (Json.object [("line", .ofWord32 line)]).fields? ["line"]
        = some [("line", .ofWord32 line)] := Json.fields?_object (List.Sublist.refl _) (by decide)
    simp [hfields]
  | unrecognized => exact ⟨fits_object (by simp), rfl⟩

end Event

/-! ## Console batches -/

theorem Timestamp.carries (t : Timestamp) : Carries ofJson? 1 t.toJson t := by
  have hseconds : Carries (Json.asInteger? Int64.minValue.toInt Int64.maxValue.toInt) 0
      (.integer t.seconds.toInt) t.seconds.toInt :=
    Json.carries_integer (Int64.minValue_le_toInt _) (Int64.toInt_le _) (by decide) (by decide)
  have hnanos : Carries (Json.asInteger? Int32.minValue.toInt Int32.maxValue.toInt) 0
      (.integer t.nanos.toInt) t.nanos.toInt :=
    Json.carries_integer (Int32.minValue_le_toInt _) (Int32.toInt_le _) (by decide) (by decide)
  refine .of_fields (fun _ => rfl) (List.Sublist.refl _) (by decide)
    (by simp [hseconds.toFits, hnanos.toFits]) ?_
  simp only [Json.Fields.optional?_cons, String.reduceEq, if_true, if_false, hseconds.read_eq,
    hnanos.read_eq]
  simp

namespace Message

theorem carries_category (name : String) :
    Carries categoryOfJson? 1 (.object [("name", .string name)]) name :=
  .of_fields (fun _ => rfl) (List.Sublist.refl _) (by decide) (by simp) (by simp)

theorem carries (m : Message) : Carries ofJson? 2 m.toJson m := by
  have htimestamp := m.timestamp.carries
  have hcategory := carries_category m.category
  exact .of_fields (fun _ => rfl) (List.Sublist.refl _) (by decide)
    (by simp [htimestamp.toFits, hcategory.toFits]) (by simp [htimestamp.read_eq, hcategory.read_eq])

end Message

theorem Batch.carries (b : Batch) : Carries ofJson? 4 b.toJson b := by
  have hmessages := Json.carries_list fun m (_ : m ∈ b.messages) => m.carries
  exact .of_fields (fun _ => rfl) (List.Sublist.refl _) (by decide)
    (by simp [hmessages.toFits]) (by simp [hmessages.read_eq])

/-! ## Requests, status updates and announcements -/

theorem Request.carries (r : Request) : Carries ofJson? 1 r.toJson r :=
  .of_fields (fun _ => rfl) (List.Sublist.refl _) (by decide) (by simp) (by simp)

/-- A payload carries the request as well. -/
theorem Request.carries_payload (r : Request) : Carries ofJson? 1 r.toPayload r :=
  ⟨fits_object (by simp), by rfl⟩

theorem Statistics.carries (s : Statistics) : Carries ofJson? 1 s.toJson s := by
  have hstate : OperatorState.ofJson? (.string s.state.name) = some s.state :=
    OperatorState.ofName?_name s.state
  exact .of_fields (fun _ => rfl) (List.Sublist.refl _) (by decide) (by simp) (by simp [hstate])

/-- **An update is carried in every order of its operators.** -/
theorem StatusUpdate.carries {update : StatusUpdate} {entries : List (String × Statistics)}
    (h : entries.Perm update.entries) :
    Carries ofJson? 2 (.object (entries.map fun e => (e.1, e.2.toJson))) update := by
  have hread : ofJson? = Json.asTable? Statistics.ofJson? := by
    funext value
    cases value <;> rfl
  rw [hread]
  exact Json.carries_table h fun e _ => e.2.carries

theorem Descriptor.carries (d : Descriptor) : Carries ofJson? 1 d.toJson d :=
  .of_fields (fun _ => rfl) (List.Sublist.refl _) (by decide) (by simp) (by simp)

/-! ## Snapshots and settings -/

namespace Snapshot

/-- Whether all clocks of a snapshot fit words of 64 bits. -/
def InRange (s : Snapshot) : Prop :=
  s.clock < UInt64.size ∧ ∀ r ∈ s.records, r.2.stamp.clock < UInt64.size

theorem carries_record {record : String × Register} (h : record.2.stamp.clock < UInt64.size) :
    Carries recordOfJson? 2 (recordToJson record) record := by
  have hvalue := Json.carries_nullable (o := record.2.value) (fun b _ => b.carries)
    fun _ => Json.noConfusion
  exact .of_fields (fun _ => rfl) (List.Sublist.refl _) (by decide)
    (by simp [hvalue.toFits, fits_clock h]) (by simp [hvalue.read_eq, Json.asClock?_integer h])

theorem carries {s : Snapshot} (h : s.InRange) : Carries ofJson? 4 s.toJson s := by
  have hrecords := Json.carries_list fun r hr => carries_record (h.2 r hr)
  exact .of_fields (fun _ => rfl) (List.Sublist.refl _) (by decide)
    (by simp [hrecords.toFits, fits_clock h.1])
    (by simp [hrecords.read_eq, Json.asClock?_integer h.1])

end Snapshot

theorem StoreMode.carries (m : StoreMode) : Carries ofJson? 1 m.toJson m := by
  cases m with
  | single => exact ⟨fits_object (by simp), rfl⟩
  | replicated id =>
    have hid : Carries (Json.asNullable? Json.asString?) 0 (.ofNullable .string id) id :=
      Json.carries_nullable (fun s _ => Json.carries_string s) fun _ => Json.noConfusion
    have hfields : (Json.object [("replica_id", .ofNullable .string id)]).fields? ["replica_id"]
        = some [("replica_id", .ofNullable .string id)] :=
      Json.fields?_object (List.Sublist.refl _) (by decide)
    refine ⟨fits_object (by simp [hid.toFits]), ?_⟩
    rw [toJson, ofJson?, Json.tagged?_object (by cases id <;> rfl) (by simp)]
    simp [hfields, hid.read_eq]

theorem Settings.carries (s : Settings) : Carries ofJson? 2 s.toJson s := by
  have htypes : Carries (Json.asList? Json.asString?) 1 (.ofStrings s.operatorTypes) s.operatorTypes :=
    Json.carries_list fun t _ => Json.carries_string t
  have hmode := s.storeMode.carries
  exact .of_fields (fun _ => rfl) (List.Sublist.refl _) (by decide)
    (by simp [htypes.toFits, hmode.toFits]) (by simp [htypes.read_eq, hmode.read_eq])

/-! ## Decoding undoes encoding -/

/-- **What travels reads back.**  The printed text of a record, decoded as a record of its kind, is
    this record: for all breakpoints, events, batches, requests, status updates, announcements and
    settings, and for all snapshots whose clocks fit words of 64 bits.  A status update reads back in
    whatever order its operators are listed. -/
theorem decode?_print_records :
    (∀ b : Breakpoint, decode? Breakpoint.ofJson? b.toJson.print = some b) ∧
    (∀ e : Event, decode? Event.ofJson? e.toJson.print = some e) ∧
    (∀ b : Batch, decode? Batch.ofJson? b.toJson.print = some b) ∧
    (∀ r : Request, decode? Request.ofJson? r.toJson.print = some r) ∧
    (∀ u : StatusUpdate, decode? StatusUpdate.ofJson? u.toJson.print = some u ∧
      ∀ entries : List (String × Statistics), entries.Perm u.entries →
        decode? StatusUpdate.ofJson? (Json.object (entries.map fun e => (e.1, e.2.toJson))).print
          = some u) ∧
    (∀ d : Descriptor, decode? Descriptor.ofJson? d.toJson.print = some d) ∧
    (∀ s : Snapshot, s.InRange → decode? Snapshot.ofJson? s.toJson.print = some s) ∧
    (∀ s : Settings, decode? Settings.ofJson? s.toJson.print = some s) := by
  refine ⟨fun b => ?_, fun e => ?_, fun b => ?_, fun r => ?_, fun u => ⟨?_, fun entries h => ?_⟩,
    fun d => ?_, fun s h => ?_, fun s => ?_⟩
  · exact b.carries.decode?_print (by decide)
  · exact e.carries.decode?_print (by decide)
  · exact b.carries.decode?_print (by decide)
  · exact r.carries.decode?_print (by decide)
  · exact (StatusUpdate.carries (List.Perm.refl u.entries)).decode?_print (by decide)
  · exact (StatusUpdate.carries h).decode?_print (by decide)
  · exact d.carries.decode?_print (by decide)
  · exact (Snapshot.carries h).decode?_print (by decide)
  · exact s.carries.decode?_print (by decide)

/-- A snapshot at the end of its clock, with a trace of a deletion, a record without an id, and
    writers whose names have to be escaped. -/
def Snapshot.exhausted : Snapshot where
  origin := "desk \"one\"\\"
  clock := 18446744073709551615
  records := [
    ("10", ⟨none, ⟨18446744073709551615, "a\nb\x01"⟩⟩),
    ("9", ⟨some ⟨none, "x > 'é\u2028😀'", true⟩, ⟨0, ""⟩⟩)]

/-- What is said about two operators, the second first. -/
def Statistics.reversed : List (String × Statistics) :=
  [("b", ⟨.paused, 18446744073709551615, 0⟩), ("a", ⟨.uninitialized, 0, 1⟩)]

/-- The snapshot reads back, and so does an update that lists its operators in reverse. -/
theorem exhausted_reads_back :
    (Snapshot.exhausted.InRange ∧
      decode? Snapshot.ofJson? Snapshot.exhausted.toJson.print = some Snapshot.exhausted) ∧
    (Statistics.reversed.Perm (Table.ofList Statistics.reversed).entries ∧
      decode? StatusUpdate.ofJson?
          (Json.object (Statistics.reversed.map fun e => (e.1, e.2.toJson))).print
        = some (Table.ofList Statistics.reversed)) := by
  have hrange : Snapshot.exhausted.InRange := ⟨by decide, by decide⟩
  have hperm : Statistics.reversed.Perm (Table.ofList Statistics.reversed).entries := by decide
  obtain ⟨_, _, _, _, hupdates, _, hsnapshots, _⟩ := decode?_print_records
  exact ⟨⟨hrange, hsnapshots _ hrange⟩, hperm, (hupdates _).2 _ hperm⟩

end DebugDesk
