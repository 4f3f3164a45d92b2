/-
  Console batches in any layout.

  Whoever relays a batch may write its objects as they like: at every level, be it the batch, a
  message, a time or a category, fields may stand in any order, unknown fields may hold anything, and
  fields may be left out that hold their default.  Every such text decodes to the batch.  A text does
  not decode at all if anywhere in it a field is missing that has no default, or a known field stands
  twice in one object.

  What a layout is and what a fault is, is said level by level, each in one place (`forms` and
  `Faulty`), and each level has three lemmas: its layouts are read, its faults are not, and it is
  read alike where the text is cut below it (`ofJson?_within`).  So a change to one record is a
  change to its table of fields and to these three, and the levels meet only in `Batch`.
-/
import DebugDesk.Console
import DebugDesk.Proofs.Json.Layout

namespace DebugDesk

open Json (FieldForm LaidOut decode?)

/-! ## Times -/

namespace Timestamp

/-- The fields of a time; both may be left out. -/
def forms (t : Timestamp) : List FieldForm :=
  [⟨"seconds", (· = .integer t.seconds.toInt), t.seconds = 0⟩,
   ⟨"nanos", (· = .integer t.nanos.toInt), t.nanos = 0⟩]

variable {t : Timestamp} {value : Json}

theorem laidOut_toJson (t : Timestamp) : LaidOut t.forms t.toJson :=
  Json.Keeps.laidOut (.keep rfl (.keep rfl .nil))

theorem ofJson?_of_laidOut (h : LaidOut t.forms value) : ofJson? value = some t := by
  have distinct : (t.forms.map (·.name)).Nodup := show ["seconds", "nanos"].Nodup by decide
  obtain ⟨kept, hkept, keeps⟩ := h.exists_fields? distinct
  -- the numbers are places in the table of fields
  have hseconds : kept.optional? "seconds" 0
      (Json.asInteger? Int64.minValue.toInt Int64.maxValue.toInt) = some t.seconds.toInt :=
    keeps.optional? distinct 0 rfl (fun h => h ▸ rfl) fun _ hwrites => hwrites ▸
      Json.asInteger?_integer (Int64.minValue_le_toInt _) (Int64.toInt_le _)
  have hnanos : kept.optional? "nanos" 0
      (Json.asInteger? Int32.minValue.toInt Int32.maxValue.toInt) = some t.nanos.toInt :=
    keeps.optional? distinct 1 rfl (fun h => h ▸ rfl) fun _ hwrites => hwrites ▸
      Json.asInteger?_integer (Int32.minValue_le_toInt _) (Int32.toInt_le _)
  change value.fields? ["seconds", "nanos"] = some kept at hkept
  simp only [ofJson?, hkept, hseconds, hnanos, Option.bind_eq_bind, Option.bind_some,
    Int64.ofInt_toInt, Int32.ofInt_toInt]
  rfl

/-- **A faulty time**: one of its fields stands twice. -/
abbrev Faulty : Json → Prop := Json.Faulty ["seconds", "nanos"] [] fun _ _ => False

theorem ofJson?_of_faulty (h : Faulty value) : ofJson? value = none := by
  cases hkept : value.fields? ["seconds", "nanos"] with
  | none => simp [ofJson?, hkept]
  | some kept =>
    rcases h.outcome (by simp) (by simp) hkept with ⟨_, hnone, _⟩ | ⟨_, _, hnone, _⟩
    · exact absurd hnone List.not_mem_nil
    · exact hnone.elim

theorem ofJson?_within (levels : Nat) (value : Json) :
    ofJson? (value.within (levels + 1)) = ofJson? value := by
  rw [ofJson?, ofJson?, Json.fields?_within]
  cases value.fields? ["seconds", "nanos"] with
  | none => rfl
  | some kept =>
    simp only [Option.map_some, Option.bind_eq_bind, Option.bind_some,
      Json.Fields.optional?_within (Json.asInteger?_within _ _ levels)]

end Timestamp

/-! ## Messages -/

namespace Message

/-- The field of a category, which has to be there. -/
def categoryForms (category : String) : List FieldForm :=
  [⟨"name", (· = .string category), False⟩]

/-- The fields of a message; all but the worker and the title may be left out. -/
def forms (m : Message) : List FieldForm :=
  [⟨"workerId", (· = .string m.worker), False⟩,
   ⟨"timestamp", LaidOut m.timestamp.forms, m.timestamp = {}⟩,
   ⟨"title", (· = .string m.title), False⟩,
   ⟨"message", (· = .string m.body), m.body = ""⟩,
   ⟨"source", (· = .string m.source), m.source = ""⟩,
   ⟨"msgType", LaidOut (categoryForms m.category), m.category = ""⟩]

variable {m : Message} {category : String} {value : Json}

theorem laidOut_toJson (m : Message) : LaidOut m.forms m.toJson := by
  have hcategory : LaidOut (categoryForms m.category) (.object [("name", .string m.category)]) :=
    Json.Keeps.laidOut (.keep rfl .nil)
  exact Json.Keeps.laidOut (.keep rfl (.keep m.timestamp.laidOut_toJson
    (.keep rfl (.keep rfl (.keep rfl (.keep hcategory .nil))))))

theorem categoryOfJson?_of_laidOut (h : LaidOut (categoryForms category) value) :
    categoryOfJson? value = some category := by
  have distinct : ((categoryForms category).map (·.name)).Nodup := List.nodup_singleton _
  obtain ⟨kept, hkept, keeps⟩ := h.exists_fields? distinct
  have hname : kept.required? "name" Json.asString? = some category :=
    keeps.required? distinct 0 rfl id fun _ hwrites => hwrites ▸ rfl
  change value.fields? ["name"] = some kept at hkept
  simp only [categoryOfJson?, hkept, hname, Option.bind_eq_bind, Option.bind_some]

theorem ofJson?_of_laidOut (h : LaidOut m.forms value) : ofJson? value = some m := by
  have distinct : (m.forms.map (·.name)).Nodup := show fieldNames.Nodup by decide
  obtain ⟨kept, hkept, keeps⟩ := h.exists_fields? distinct
  have hworker : kept.required? "workerId" Json.asString? = some m.worker :=
    keeps.required? distinct 0 rfl id fun _ hwrites => hwrites ▸ rfl
  have htimestamp : kept.optional? "timestamp" {} Timestamp.ofJson? = some m.timestamp :=
    keeps.optional? distinct 1 rfl Eq.symm fun _ => Timestamp.ofJson?_of_laidOut
  have htitle : kept.required? "title" Json.asString? = some m.title :=
    keeps.required? distinct 2 rfl id fun _ hwrites => hwrites ▸ rfl
  have hbody : kept.optional? "message" "" Json.asString? = some m.body :=
    keeps.optional? distinct 3 rfl Eq.symm fun _ hwrites => hwrites ▸ rfl
  have hsource : kept.optional? "source" "" Json.asString? = some m.source :=
    keeps.optional? distinct 4 rfl Eq.symm fun _ hwrites => hwrites ▸ rfl
  have hcategory : kept.optional? "msgType" "" categoryOfJson? = some m.category :=
    keeps.optional? distinct 5 rfl Eq.symm fun _ => categoryOfJson?_of_laidOut
  change value.fields? fieldNames = some kept at hkept
  simp only [ofJson?, hkept, hworker, htimestamp, htitle, hbody, hsource, hcategory,
    Option.bind_eq_bind, Option.bind_some]
  rfl

/-- **A faulty category**: its name is missing or stands twice. -/
abbrev FaultyCategory : Json → Prop := Json.Faulty ["name"] ["name"] fun _ _ => False

/-- The parts of a message that may have faults themselves. -/
inductive FaultyPart : String → Json → Prop where
  | timestamp {value : Json} (h : Timestamp.Faulty value) : FaultyPart "timestamp" value
  | category {value : Json} (h : FaultyCategory value) : FaultyPart "msgType" value

/-- **A faulty message**: its worker or its title is missing, a known field stands twice, or its time
    or its category is faulty. -/
abbrev Faulty : Json → Prop := Json.Faulty fieldNames ["workerId", "title"] FaultyPart

theorem categoryOfJson?_of_faulty (h : FaultyCategory value) : categoryOfJson? value = none := by
  cases hkept : value.fields? ["name"] with
  | none => simp [categoryOfJson?, hkept]
  | some kept =>
    rcases h.outcome (by simp) (by simp) hkept with ⟨name, hname, hlookup⟩ | ⟨_, _, hnone, _⟩
    · obtain rfl := List.mem_singleton.mp hname
      simp [categoryOfJson?, hkept, Json.required?_of_lookup_eq_none hlookup]
    · exact hnone.elim

theorem ofJson?_of_faulty (h : Faulty value) : ofJson? value = none := by
  have inside_known : ∀ name value, FaultyPart name value → name ∈ fieldNames := by
    rintro _ _ (_ | _) <;> decide
  cases hkept : value.fields? fieldNames with
  | none => simp [ofJson?, hkept]
  | some kept =>
    -- were it read, no required field would be missing and no part would be unread
    rw [Option.eq_none_iff_forall_ne_some]
    intro m hm
    simp only [ofJson?, hkept, Option.bind_eq_bind, Option.bind_some, Option.bind_eq_some_iff]
      at hm
    obtain ⟨worker, hworker, timestamp, htimestamp, title, htitle, body, _, source, _, category,
      hcategory, _⟩ := hm
    rcases h.outcome (by decide) inside_known hkept with
      ⟨name, hname, hlookup⟩ | ⟨name, part, hpart, hlookup⟩
    · rcases List.mem_pair.mp hname with rfl | rfl
      · rw [Json.required?_of_lookup_eq_none hlookup] at hworker
        nomatch hworker
      · rw [Json.required?_of_lookup_eq_none hlookup] at htitle
        nomatch htitle
    · cases hpart with
      | timestamp hfaulty =>
        rw [Json.optional?_of_lookup hlookup, Timestamp.ofJson?_of_faulty hfaulty] at htimestamp
        nomatch htimestamp
      | category hfaulty =>
        rw [Json.optional?_of_lookup hlookup, categoryOfJson?_of_faulty hfaulty] at hcategory
        nomatch hcategory

theorem categoryOfJson?_within (levels : Nat) (value : Json) :
    categoryOfJson? (value.within (levels + 1)) = categoryOfJson? value := by
  rw [categoryOfJson?, categoryOfJson?, Json.fields?_within]
  cases value.fields? ["name"] with
  | none => rfl
  | some kept =>
    simp only [Option.map_some, Option.bind_eq_bind, Option.bind_some,
      Json.Fields.required?_within (Json.asString?_within levels)]

theorem ofJson?_within (levels : Nat) (value : Json) :
    ofJson? (value.within (levels + 2)) = ofJson? value := by
  rw [ofJson?, ofJson?, Json.fields?_within]
  cases value.fields? fieldNames with
  | none => rfl
  | some kept =>
    simp only [Option.map_some, Option.bind_eq_bind, Option.bind_some,
      Json.Fields.required?_within (Json.asString?_within (levels + 1)),
      Json.Fields.optional?_within (Json.asString?_within (levels + 1)),
      Json.Fields.optional?_within (Timestamp.ofJson?_within levels),
      Json.Fields.optional?_within (categoryOfJson?_within levels)]

end Message

/-! ## Batches -/

namespace Batch

/-- The fields of a batch; the messages may be left out if there are none. -/
def forms (b : Batch) : List FieldForm :=
  [⟨"operatorId", (· = .string b.operator), False⟩,
   ⟨"messages", fun value => ∃ items, value = .array items ∧
      List.Forall₂ (fun m item => LaidOut (Message.forms m) item) b.messages items,
    b.messages = []⟩]

variable {b : Batch} {value : Json}

theorem laidOut_toJson (b : Batch) : LaidOut b.forms b.toJson := by
  refine Json.Keeps.laidOut (.keep rfl (.keep ⟨_, rfl, ?_⟩ .nil))
  rw [List.forall₂_map_right_iff, List.forall₂_same]
  exact fun m _ => m.laidOut_toJson

/-- **Every layout of a batch is read as the batch.** -/
theorem ofJson?_of_laidOut (h : LaidOut b.forms value) : ofJson? value = some b := by
  have distinct : (b.forms.map (·.name)).Nodup := show fieldNames.Nodup by decide
  obtain ⟨kept, hkept, keeps⟩ := h.exists_fields? distinct
  have hoperator : kept.required? "operatorId" Json.asString? = some b.operator :=
    keeps.required? distinct 0 rfl id fun _ hwrites => hwrites ▸ rfl
  have hmessages : kept.optional? "messages" [] (Json.asList? Message.ofJson?) = some b.messages := by
    refine keeps.optional? distinct 1 rfl Eq.symm fun value hwrites => ?_
    obtain ⟨items, rfl, hitems⟩ := hwrites
    exact Json.mapM_eq_some_of_forall₂ (hitems.imp fun _ _ => Message.ofJson?_of_laidOut)
  change value.fields? fieldNames = some kept at hkept
  simp only [ofJson?, hkept, hoperator, hmessages, Option.bind_eq_bind, Option.bind_some]
  rfl

/-- The part of a batch that may have faults itself. -/
inductive FaultyPart : String → Json → Prop where
  | message {items : List Json} {item : Json} (mem : item ∈ items) (h : Message.Faulty item) :
    FaultyPart "messages" (.array items)

/-- **A faulty batch**: its operator is missing, a known field stands twice, or one of its messages is
    faulty. -/
abbrev Faulty : Json → Prop := Json.Faulty fieldNames ["operatorId"] FaultyPart

/-- **No batch with a fault is read.** -/
theorem ofJson?_of_faulty (h : Faulty value) : ofJson? value = none := by
  have inside_known : ∀ name value, FaultyPart name value → name ∈ fieldNames := by
    rintro _ _ ⟨_, _⟩
    decide
  cases hkept : value.fields? fieldNames with
  | none => simp [ofJson?, hkept]
  | some kept =>
    rw [Option.eq_none_iff_forall_ne_some]
    intro b hb
    simp only [ofJson?, hkept, Option.bind_eq_bind, Option.bind_some, Option.bind_eq_some_iff]
      at hb
    obtain ⟨operator, hoperator, messages, hmessages, _⟩ := hb
    rcases h.outcome (by decide) inside_known hkept with
      ⟨name, hname, hlookup⟩ | ⟨name, part, hpart, hlookup⟩
    · obtain rfl := List.mem_singleton.mp hname
      rw [Json.required?_of_lookup_eq_none hlookup] at hoperator
      nomatch hoperator
    · obtain ⟨mem, hitem⟩ := hpart
      have hnone := Json.mapM_eq_none_of_mem mem (Message.ofJson?_of_faulty hitem)
      rw [Json.optional?_of_lookup hlookup] at hmessages
      exact nomatch hnone.symm.trans hmessages

/-- A batch takes four levels of containers. -/
theorem ofJson?_within (levels : Nat) (value : Json) :
    ofJson? (value.within (levels + 4)) = ofJson? value := by
  rw [ofJson?, ofJson?, Json.fields?_within]
  cases value.fields? fieldNames with
  | none => rfl
  | some kept =>
    simp only [Option.map_some, Option.bind_eq_bind, Option.bind_some,
      Json.Fields.required?_within (Json.asString?_within (levels + 3)),
      Json.Fields.optional?_within (Json.asList?_within (Message.ofJson?_within levels))]

/-- **The layout of a batch does not matter, and no layout makes up for a fault.**  The object form of
    a batch is one of its layouts, and every text of any of its layouts decodes to the batch.  A text
    in which a field is missing that has to be there, or a known field stands twice in one object, be
    it in the batch, in a message, in a time or in a category, does not decode, whatever else it
    holds. -/
theorem decode?_any_layout (b : Batch) :
    LaidOut b.forms b.toJson ∧
    ∀ (text : String) (value : Json), Json.parse? text.toList = some value →
      (LaidOut b.forms value → decode? ofJson? text = some b) ∧
      (Faulty value → decode? ofJson? text = none) := by
  refine ⟨b.laidOut_toJson, fun text value hparse => ?_⟩
  -- a kept value has these levels and the four of a batch
  have hdecode : decode? ofJson? text = ofJson? value :=
    Json.decode?_of_parse? (ofJson?_within 123) hparse
  rw [hdecode]
  exact ⟨ofJson?_of_laidOut, ofJson?_of_faulty⟩

/-! ## A batch from another relay -/

/-- Two messages; the first has nothing but its worker and its title. -/
def relayed : Batch :=
  ⟨"op", [{ worker := "w1", title := "--Return--" },
    { worker := "w2", timestamp := ⟨0, 5⟩, title := "> /u.py(5)f()", category := "PRINT" }]⟩

/-- Arrays in arrays. -/
def nested : Nat → Json
  | 0 => .null
  | levels + 1 => .array [nested levels]

/-- The batch with its fields in reverse, the defaults left out, and unknown fields, one of which
    nests deeper than a kept value.  The time of the second message is given. -/
def reversed (time : Json) : Json :=
  .object [
    ("note", .object [("operatorId", .integer 7), ("trace", nested 200)]),
    ("messages", .array [
      .object [("title", .string "--Return--"), ("workerId", .string "w1")],
      .object [
        ("msgtype", .null), ("msgtype", .null),
        ("msgType", .object [("level", .null), ("name", .string "PRINT")]),
        ("title", .string "> /u.py(5)f()"), ("timestamp", time), ("workerId", .string "w2")]]),
    ("operatorId", .string "op")]

/-- Five nanoseconds. -/
def fiveNanos : Json := .object [("nanos", .integer 5)]

/-- Five nanoseconds, said twice. -/
def fiveNanosTwice : Json := .object [("nanos", .integer 5), ("nanos", .integer 5)]

theorem laidOut_reversed : LaidOut relayed.forms (reversed fiveNanos) := by
  have htime : LaidOut (Timestamp.forms ⟨0, 5⟩) fiveNanos :=
    Json.Keeps.laidOut (.leave rfl (.keep rfl .nil))
  have hcategory : LaidOut (Message.categoryForms "PRINT")
      (.object [("level", .null), ("name", .string "PRINT")]) :=
    .object (.keep rfl .nil) (by decide) (List.reverse_perm [_, _])
  refine .object (.keep rfl (.keep ⟨_, rfl, .cons ?_ (.cons ?_ .nil)⟩ .nil)) (by decide)
    (List.reverse_perm [_, _, _])
  · exact .object
      (.keep rfl (.leave rfl (.keep rfl (.leave rfl (.leave rfl (.leave rfl .nil))))))
      (by decide) (List.reverse_perm [_, _])
  · exact .object
      (.keep rfl (.keep htime (.keep rfl (.leave rfl (.leave rfl (.keep hcategory .nil))))))
      (by decide) (List.reverse_perm [_, _, _, _, _, _])

theorem faulty_reversed : Faulty (reversed fiveNanosTwice) := by
  have htime : Timestamp.Faulty fiveNanosTwice :=
    .twice (List.mem_of_getElem? (i := 1) rfl) (by decide)
  refine .part (List.mem_of_getElem? (i := 1) rfl) (.message (List.mem_of_getElem? (i := 1) rfl) ?_)
  exact .part (List.mem_of_getElem? (i := 4) rfl) (.timestamp htime)

theorem writable_nested : ∀ levels, (nested levels).Writable
  | 0 => trivial
  | levels + 1 => ⟨writable_nested levels, trivial⟩

theorem writable_reversed (time : Json) (h : time.Writable) : (reversed time).Writable := by
  have hnested : (nested 200).Writable := writable_nested 200
  have hseven : 7 < UInt64.size := by decide
  simp [reversed, Json.Writable, Json.FieldsWritable, Json.ItemsWritable, h, hnested, hseven]

/-- The text decodes to the batch, although its unknown fields reach beyond the depth of a kept
    value; with the nanoseconds said twice it does not decode. -/
theorem reversed_decodes :
    (Json.parse? (reversed fiveNanos).print.toList = some (reversed fiveNanos) ∧
      LaidOut relayed.forms (reversed fiveNanos) ∧
      decode? ofJson? (reversed fiveNanos).print = some relayed) ∧
    Json.parse? (reversed fiveNanosTwice).print.toList = some (reversed fiveNanosTwice) ∧
      Faulty (reversed fiveNanosTwice) ∧ decode? ofJson? (reversed fiveNanosTwice).print = none := by
  have hfive : 5 < UInt64.size := by decide
  have honce := Json.parse?_print (writable_reversed fiveNanos ⟨hfive, trivial⟩)
  have htwice := Json.parse?_print (writable_reversed fiveNanosTwice ⟨hfive, hfive, trivial⟩)
  obtain ⟨_, hall⟩ := decode?_any_layout relayed
  exact ⟨⟨honce, laidOut_reversed, (hall _ _ honce).1 laidOut_reversed⟩,
    htwice, faulty_reversed, (hall _ _ htwice).2 faulty_reversed⟩

end Batch

end DebugDesk
