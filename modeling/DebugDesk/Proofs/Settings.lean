/-
  Which files hold settings.

  A file holds settings if it is a TOML document in UTF-8 whose root presents them (`StandIn`): under
  each of the three names stands what writes the setting, or the name is left out and the setting is
  its default.  Names that settings do not know are passed over.  Any other file is unusable, for the
  first thing that is wrong with it (`Unusable`).

  The kind of boards is a tagged record.  It stands in a table of its own or in an array, and its kind
  says whether a name for the replicas may stand beside it (`StoreMode.forms`).

  A file holds at most one record of settings, and is unusable exactly if it holds none; both follow
  from the reader being exact in what it accepts (`ofFile_eq_ok_iff`, `ofFile_eq_error_iff`).
-/
import DebugDesk.Proofs.Json.Reading
import DebugDesk.Proofs.Text.Utf8
import DebugDesk.Settings.File

namespace DebugDesk

open Json (FieldForm Presents)

/-! ## The kind of boards -/

namespace StoreMode

/-- What the tag of a mode says. -/
def kind : StoreMode → String
  | single => "local"
  | replicated _ => "replicated"

/-- The fields of a mode beside its tag; the name of the replicas may be left out if they have none. -/
def beside : StoreMode → List FieldForm
  | single => []
  | replicated id => [⟨"replica_id", (· = .ofNullable .string id), id = none⟩]

/-- The fields of a mode. -/
def forms (m : StoreMode) : List FieldForm := Json.tagForm "kind" m.kind :: m.beside

variable {m : StoreMode} {value rest : Json}

theorem distinct_beside (m : StoreMode) : (m.beside.map (·.name)).Nodup := by
  cases m with
  | single => exact List.nodup_nil
  | replicated id => exact List.nodup_singleton _

/-- A mode is read from its tag and from what stands beside it. -/
theorem ofJson?_eq_some_iff_tagged : ofJson? value = some m ↔
    ∃ rest, value.tagged? "kind" = some (m.kind, rest) ∧ Presents m.beside rest := by
  simp only [Json.presents_iff m.distinct_beside]
  cases htagged : value.tagged? "kind" with
  | none => simp [ofJson?, htagged]
  | some tagged =>
    obtain ⟨kind, rest⟩ := tagged
    have hread : ofJson? value = some m ↔ kind = m.kind ∧
        ∃ kept, rest.fields? (m.beside.map (·.name)) = some kept ∧
          ∀ form ∈ m.beside, form.FoundIn kept := by
      rw [ofJson?, htagged]
      by_cases hlocal : kind = "local"
      · subst hlocal
        cases m <;> simp [StoreMode.kind, beside, Option.bind_eq_some_iff]
      · by_cases hreplicated : kind = "replicated"
        · subst hreplicated
          cases m <;> simp [StoreMode.kind, beside, Option.bind_eq_some_iff,
            ← Json.optional?_eq_some_iff fun value => Json.asNullable?_asString?_eq_some_iff]
        · cases m <;> simp [StoreMode.kind, hlocal, hreplicated]
    simp [hread]

/-- **A mode is read from exactly the values that present it** and can be held as a whole. -/
theorem ofJson?_eq_some_iff : ofJson? value = some m ↔
    value.isReadable = true ∧ Presents m.forms value := by
  have fresh : "kind" ∉ m.beside.map (·.name) := by
    cases m <;> simp [beside]
  rw [ofJson?_eq_some_iff_tagged, forms, Json.presents_tagged_iff fresh]

end StoreMode

/-! ## Settings -/

namespace Settings

/-- The fields of settings; each may be left out if it is the default. -/
def forms (s : Settings) : List FieldForm :=
  [⟨"udf_operator_types", (· = .ofStrings s.operatorTypes),
      s.operatorTypes = ["PythonUDFV2", "PythonUDFSourceV2", "DualInputPortsPythonUDFV2"]⟩,
   ⟨"command_message_type", (· = .string s.messageType), s.messageType = "DebugCommandRequest"⟩,
   ⟨"store_mode", fun value => value.isReadable = true ∧ Presents s.storeMode.forms value,
      s.storeMode = .single⟩]

variable {s : Settings} {value : Json} {content : FileContent} {e : DeskError}

/-- **Settings are read from exactly the values that present them.** -/
theorem ofJson?_eq_some_iff : ofJson? value = some s ↔ Presents s.forms value := by
  have distinct : (s.forms.map (·.name)).Nodup :=
    show ["udf_operator_types", "command_message_type", "store_mode"].Nodup by decide
  rw [Json.presents_iff distinct, ofJson?]
  simp only [Option.bind_eq_bind, Option.bind_eq_some_iff, Option.pure_def, Option.some.injEq, forms,
    List.forall_mem_cons, List.map_cons, List.map_nil]
  refine exists_congr fun kept => and_congr_right fun _ => ?_
  rw [← Json.optional?_eq_some_iff fun value => Json.asList?_asString?_eq_some_iff,
    ← Json.optional?_eq_some_iff fun value => Json.asString?_eq_some_iff,
    ← Json.optional?_eq_some_iff fun value => StoreMode.ofJson?_eq_some_iff]
  constructor
  · rintro ⟨types, htypes, message, hmessage, mode, hmode, rfl⟩
    exact ⟨htypes, hmessage, hmode, nofun⟩
  · rintro ⟨htypes, hmessage, hmode, _⟩
    exact ⟨_, htypes, _, hmessage, _, hmode, rfl⟩

/-! ## Files -/

/-- **Settings stand in a file**: it is a document in UTF-8 whose root presents them. -/
inductive StandIn : FileContent → Settings → Prop where
  | document {text : String} {root : Toml} {s : Settings} (read : Toml.read? text = some root)
    (presents : Presents s.forms root.toJson) : StandIn (.bytes text.toUTF8) s

/-- **Why no settings stand in a file.** -/
inductive Unusable : FileContent → DeskError → Prop where
  | missing : Unusable .missing (.settings "no such file")
  | directory : Unusable .directory (.settings "a directory is no file")
  | noText {content : ByteArray} (h : ∀ text : String, content ≠ text.toUTF8) :
    Unusable (.bytes content) (.settings "the file is not encoded in UTF-8")
  | noDocument {text : String} (h : Toml.read? text = none) :
    Unusable (.bytes text.toUTF8) (.settings "the document holds no settings")
  | noSettings {text : String} {root : Toml} (read : Toml.read? text = some root)
    (h : ∀ s : Settings, ¬ Presents s.forms root.toJson) :
    Unusable (.bytes text.toUTF8) (.settings "the document holds no settings")

theorem ofFile_of_standIn (h : StandIn content s) : ofFile content = .ok s := by
  cases h with
  | document read presents =>
    simp only [ofFile, Text.fromUTF8?_eq_some_iff.mpr rfl, ofToml?, read, Option.bind_some,
      ofJson?_eq_some_iff.mpr presents]

theorem ofFile_of_unusable (h : Unusable content e) : ofFile content = .error e := by
  cases h with
  | missing => rfl
  | directory => rfl
  | @noText content h =>
    have hnone : String.fromUTF8? content = none :=
      Option.eq_none_iff_forall_ne_some.mpr fun text htext => h text (Text.fromUTF8?_eq_some_iff.mp htext)
    simp only [ofFile, hnone]
  | noDocument h => simp only [ofFile, Text.fromUTF8?_eq_some_iff.mpr rfl, ofToml?, h, Option.bind_none]
  | noSettings read h =>
    have hnone := Option.eq_none_iff_forall_ne_some.mpr fun s hs => h s (ofJson?_eq_some_iff.mp hs)
    simp only [ofFile, Text.fromUTF8?_eq_some_iff.mpr rfl, ofToml?, read, Option.bind_some, hnone]

/-- Settings stand in a file, or it is unusable. -/
theorem standIn_or_unusable (content : FileContent) :
    (∃ s, StandIn content s) ∨ ∃ e, Unusable content e := by
  cases content with
  | missing => exact .inr ⟨_, .missing⟩
  | directory => exact .inr ⟨_, .directory⟩
  | bytes content =>
    cases htext : String.fromUTF8? content with
    | none =>
      refine .inr ⟨_, .noText fun text heq => ?_⟩
      nomatch htext.symm.trans (Text.fromUTF8?_eq_some_iff.mpr heq)
    | some text =>
      rw [Text.fromUTF8?_eq_some_iff.mp htext]
      cases hread : Toml.read? text with
      | none => exact .inr ⟨_, .noDocument hread⟩
      | some root =>
        by_cases hpresents : ∃ s : Settings, Presents s.forms root.toJson
        · obtain ⟨s, hs⟩ := hpresents
          exact .inl ⟨s, .document hread hs⟩
        · exact .inr ⟨_, .noSettings hread (not_exists.mp hpresents)⟩

/-- **Loading a file gives the settings that stand in it**, and none but these. -/
theorem ofFile_eq_ok_iff : ofFile content = .ok s ↔ StandIn content s := by
  refine ⟨fun h => ?_, ofFile_of_standIn⟩
  rcases standIn_or_unusable content with ⟨t, hin⟩ | ⟨e, hunusable⟩
  · rw [ofFile_of_standIn hin] at h
    exact Except.ok.inj h ▸ hin
  · rw [ofFile_of_unusable hunusable] at h
    nomatch h

/-- **Loading a file fails for the reason why no settings stand in it**, and for no other. -/
theorem ofFile_eq_error_iff : ofFile content = .error e ↔ Unusable content e := by
  refine ⟨fun h => ?_, ofFile_of_unusable⟩
  rcases standIn_or_unusable content with ⟨t, hin⟩ | ⟨e, hunusable⟩
  · rw [ofFile_of_standIn hin] at h
    nomatch h
  · rw [ofFile_of_unusable hunusable] at h
    exact Except.error.inj h ▸ hunusable

end Settings

end DebugDesk
