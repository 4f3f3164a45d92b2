/-
  Objects in any layout.

  An object may lay out a record in many ways.  Its fields may stand in any order, fields of other
  names may stand between them, whatever these hold, and a field that holds its default may be left
  out (`LaidOut`).  It makes no difference: among the known names a layout has only the fields that
  were kept, so their declared order is all that a reader gets to see (`LaidOut.exists_fields?`), and
  a look-up finds what writes the field, or finds nothing where the default is meant.

  What does make a difference is a fault: a field is missing that has to be there, a known field
  stands twice, or what a known field holds has a fault itself (`Faulty`).  No order and no other
  field makes up for that (`Faulty.outcome`).

  The crux of both is that a known name stands at most once where the fields of an object are read,
  and is found there wherever it stands (`lookup_of_fields?`).

  Unknown fields may nest deeper than a kept value does, and are cut then.  A reader that looks only
  at a few levels does not see it (`decode?_of_parse?`); that it does not is shown reader by reader,
  with one lemma for each way to read a field.
-/
import DebugDesk.Proofs.Json.Record
import Mathlib.Data.List.Duplicate
import Mathlib.Data.List.Forall2

namespace DebugDesk.Json

/-! ## Look-ups among the fields that are read -/

theorem lookup_filterMap (fields : Fields) {names : List String} {name : String}
    (mem : name ∈ names) :
    (names.filterMap fun known => (fields.lookup known).map (known, ·)).lookup name
      = fields.lookup name := by
  induction names with
  | nil => exact absurd mem List.not_mem_nil
  | cons known names ih =>
    rw [List.filterMap_cons]
    by_cases hname : name = known
    · subst hname
      cases hvalue : fields.lookup name with
      | some value => exact List.lookup_cons_self
      | none =>
        -- no further occurrence of the name among the known ones finds anything, either
        refine lookup_eq_none_of_absent fun f hf heq => ?_
        obtain ⟨other, _, hother⟩ := List.mem_filterMap.mp hf
        obtain ⟨value, hlookup, rfl⟩ := Option.map_eq_some_iff.mp hother
        change other = name at heq
        rw [heq, hvalue] at hlookup
        nomatch hlookup
    · have hrest := ih ((List.mem_cons.mp mem).resolve_left hname)
      cases fields.lookup known with
      | none => exact hrest
      | some value =>
        refine Eq.trans ?_ hrest
        show List.lookup name ((known, value) :: _) = _
        rw [List.lookup_cons, beq_eq_false_iff_ne.mpr hname]

/-- Where the fields of an object are read, each known name stands at most once, and is looked up
    as in the object. -/
theorem lookup_of_fields? {names : List String} {fields kept : Fields}
    (h : fields? names (object fields) = some kept) {name : String} (mem : name ∈ names) :
    fields.countP (·.1 == name) ≤ 1 ∧ kept.lookup name = fields.lookup name := by
  rw [fields?] at h
  split at h
  · rename_i honce
    obtain rfl := Option.some.inj h
    exact ⟨of_decide_eq_true (List.all_eq_true.mp honce name mem), lookup_filterMap fields mem⟩
  · cases h

/-! ## Layouts -/

/-- One field of a record, as objects write it. -/
structure FieldForm where
  name : String
  /-- The values that write what the field holds. -/
  writes : Json → Prop
  /-- Whether the field may be left out, because it holds its default. -/
  omissible : Prop

/-- The known fields that an object may have for a record: each writes what it should, and what is
    left out may be left out. -/
inductive Keeps : List FieldForm → Fields → Prop where
  | nil : Keeps [] []
  | keep {form : FieldForm} {forms : List FieldForm} {value : Json} {kept : Fields}
    (h : form.writes value) (rest : Keeps forms kept) :
    Keeps (form :: forms) ((form.name, value) :: kept)
  | leave {form : FieldForm} {forms : List FieldForm} {kept : Fields}
    (h : form.omissible) (rest : Keeps forms kept) : Keeps (form :: forms) kept

/-- **An object lays a record out**: it has the fields of the record but for some that may be left
    out, and any fields of unknown names, in any order. -/
inductive LaidOut (forms : List FieldForm) : Json → Prop where
  | object {kept others fields : Fields} (keeps : Keeps forms kept)
    (unknown : ∀ f ∈ others, f.1 ∉ forms.map (·.name)) (order : fields.Perm (kept ++ others)) :
    LaidOut forms (.object fields)

/-- All that is kept is a layout. -/
theorem Keeps.laidOut {forms : List FieldForm} {kept : Fields} (h : Keeps forms kept) :
    LaidOut forms (.object kept) := by
  refine .object h (fun _ hf => absurd hf List.not_mem_nil) ?_
  rw [List.append_nil]

namespace Keeps

variable {forms : List FieldForm} {kept : Fields}

theorem listed (h : Keeps forms kept) : (kept.map (·.1)).Sublist (forms.map (·.name)) := by
  induction h with
  | nil => exact List.Sublist.refl _
  | keep _ _ ih => exact ih.cons_cons _
  | leave _ _ ih => exact ih.cons _

variable {name : String} {writes : Json → Prop} {omissible : Prop}

/-- A look-up finds what writes the field, or the field may be left out. -/
theorem lookup (h : Keeps forms kept) (distinct : (forms.map (·.name)).Nodup)
    (mem : ⟨name, writes, omissible⟩ ∈ forms) :
    (∃ value, kept.lookup name = some value ∧ writes value) ∨
      kept.lookup name = none ∧ omissible := by
  induction h with
  | nil => exact absurd mem List.not_mem_nil
  | @keep form forms value kept hwrites rest ih =>
    obtain ⟨hfirst, hrest⟩ := List.nodup_cons.mp distinct
    rcases List.mem_cons.mp mem with rfl | mem
    · exact .inl ⟨value, List.lookup_cons_self, hwrites⟩
    · have hmem : name ∈ forms.map (·.name) := List.mem_map_of_mem mem
      have hne : name ≠ form.name := by
        intro heq
        rw [heq] at hmem
        exact hfirst hmem
      rw [List.lookup_cons, beq_eq_false_iff_ne.mpr hne]
      exact ih hrest mem
  | @leave form forms kept homissible rest ih =>
    obtain ⟨hfirst, hrest⟩ := List.nodup_cons.mp distinct
    rcases List.mem_cons.mp mem with rfl | mem
    · refine .inr ⟨lookup_eq_none_of_absent fun f hf heq => hfirst ?_, homissible⟩
      exact rest.listed.subset (heq ▸ List.mem_map_of_mem hf)
    · exact ih hrest mem

variable {α : Type} {read? : Json → Option α} {a : α}

/-- A field that may not be left out is read. -/
theorem required? (h : Keeps forms kept) (distinct : (forms.map (·.name)).Nodup) (k : Nat)
    (place : forms[k]? = some ⟨name, writes, omissible⟩) (present : ¬ omissible)
    (read_eq : ∀ value, writes value → read? value = some a) :
    Fields.required? kept name read? = some a := by
  rcases h.lookup distinct (List.mem_of_getElem? place) with ⟨value, hlookup, hwrites⟩ | ⟨_, habsent⟩
  · rw [Fields.required?, hlookup]
    exact read_eq value hwrites
  · exact absurd habsent present

/-- A field that may be left out is read, or stands for its default. -/
theorem optional? (h : Keeps forms kept) (distinct : (forms.map (·.name)).Nodup) (k : Nat)
    (place : forms[k]? = some ⟨name, writes, omissible⟩) {default : α}
    (default_eq : omissible → default = a)
    (read_eq : ∀ value, writes value → read? value = some a) :
    Fields.optional? kept name default read? = some a := by
  rcases h.lookup distinct (List.mem_of_getElem? place) with
    ⟨value, hlookup, hwrites⟩ | ⟨hlookup, habsent⟩
  · rw [Fields.optional?, hlookup]
    exact read_eq value hwrites
  · rw [Fields.optional?, hlookup]
    exact congrArg some (default_eq habsent)

end Keeps

/-- **Of a layout a reader gets to see the kept fields in their declared order**, and nothing else. -/
theorem LaidOut.exists_fields? {forms : List FieldForm} {value : Json} (h : LaidOut forms value)
    (distinct : (forms.map (·.name)).Nodup) :
    ∃ kept, value.fields? (forms.map (·.name)) = some kept ∧ Keeps forms kept := by
  obtain ⟨keeps, unknown, order⟩ := h
  exact ⟨_, fields?_of_perm order keeps.listed unknown distinct, keeps⟩

/-! ## Faults -/

/-- **What no layout has**: a field that has to be there is missing, a known field stands twice, or
    what a field holds has a fault itself. -/
inductive Faulty (known needed : List String) (inside : String → Json → Prop) : Json → Prop where
  | missing {fields : Fields} {name : String} (h : name ∈ needed)
    (absent : ∀ f ∈ fields, f.1 ≠ name) : Faulty known needed inside (.object fields)
  | twice {fields : Fields} {name : String} (h : name ∈ known)
    (again : List.Duplicate name (fields.map (·.1))) : Faulty known needed inside (.object fields)
  | part {fields : Fields} {name : String} {value : Json} (mem : (name, value) ∈ fields)
    (h : inside name value) : Faulty known needed inside (.object fields)

/-- **Of a faulty object a reader gets to see no fields, or the fault.** -/
theorem Faulty.outcome {known needed : List String} {inside : String → Json → Prop} {value : Json}
    (h : Faulty known needed inside value) (needed_known : ∀ name ∈ needed, name ∈ known)
    (inside_known : ∀ name value, inside name value → name ∈ known) {kept : Fields}
    (hkept : value.fields? known = some kept) :
    (∃ name ∈ needed, kept.lookup name = none) ∨
      ∃ name value, inside name value ∧ kept.lookup name = some value := by
  cases h with
  | missing hneeded absent =>
    refine .inl ⟨_, hneeded, ?_⟩
    rw [(lookup_of_fields? hkept (needed_known _ hneeded)).2]
    exact lookup_eq_none_of_absent absent
  | @twice fields name hknown again =>
    have honce := (lookup_of_fields? hkept hknown).1
    have htwice := List.duplicate_iff_two_le_count.mp again
    rw [List.count, List.countP_map] at htwice
    exact absurd htwice (Nat.not_le_of_lt (Nat.lt_succ_of_le honce))
  | part mem hinside =>
    obtain ⟨honce, hlookup⟩ := lookup_of_fields? hkept (inside_known _ _ hinside)
    exact .inr ⟨_, _, hinside, hlookup.trans (lookup_eq_of_mem honce mem)⟩

theorem required?_of_lookup_eq_none {α : Type} {fields : Fields} {name : String}
    (h : fields.lookup name = none) (read? : Json → Option α) :
    fields.required? name read? = none := by
  rw [Fields.required?, h]

theorem optional?_of_lookup {α : Type} {fields : Fields} {name : String} {value : Json}
    (h : fields.lookup name = some value) (default : α) (read? : Json → Option α) :
    fields.optional? name default read? = read? value := by
  rw [Fields.optional?, h]

/-! ## Lists of records -/

theorem mapM_eq_some_of_forall₂ {α : Type} {read? : Json → Option α} {as : List α}
    {items : List Json} (h : List.Forall₂ (fun a item => read? item = some a) as items) :
    items.mapM read? = some as := by
  induction h with
  | nil => rfl
  | cons ha _ ih =>
    rw [List.mapM_cons, ha, ih]
    rfl

theorem mapM_eq_none_of_mem {α : Type} {read? : Json → Option α} {items : List Json} {item : Json}
    (mem : item ∈ items) (h : read? item = none) : items.mapM read? = none := by
  induction items with
  | nil => exact absurd mem List.not_mem_nil
  | cons first items ih =>
    rw [List.mapM_cons]
    rcases List.mem_cons.mp mem with rfl | mem
    · rw [h]
      rfl
    · rw [ih mem]
      cases read? first <;> rfl

/-! ## Texts that are cut -/

theorem itemsWithin_eq_map (levels : Nat) (items : List Json) :
    itemsWithin levels items = items.map (within levels) := by
  induction items with
  | nil => rfl
  | cons item items ih => rw [itemsWithin, ih, List.map_cons]

theorem fieldsWithin_eq_map (levels : Nat) (fields : Fields) :
    fieldsWithin levels fields = fields.map fun f => (f.1, within levels f.2) := by
  induction fields with
  | nil => rfl
  | cons f fields ih => rw [fieldsWithin, ih, List.map_cons]

theorem lookup_map_within (levels : Nat) (fields : Fields) (name : String) :
    (fields.map fun f => (f.1, within levels f.2)).lookup name
      = (fields.lookup name).map (within levels) := by
  induction fields with
  | nil => rfl
  | cons f fields ih =>
    rw [List.map_cons, List.lookup_cons, List.lookup_cons, ih]
    cases name == f.1 <;> rfl

/-- Cutting below the fields of a record leaves the same fields, with their values cut. -/
theorem fields?_within (levels : Nat) (names : List String) (value : Json) :
    fields? names (value.within (levels + 1)) =
      (fields? names value).map fun kept => kept.map fun f => (f.1, f.2.within levels) := by
  cases value with
  | object fields =>
    have hcount : ∀ name : String, (fieldsWithin levels fields).countP (·.1 == name)
        = fields.countP (·.1 == name) := by
      intro name
      rw [fieldsWithin_eq_map, List.countP_map]
      rfl
    have hlookup : ∀ name : String, (fieldsWithin levels fields).lookup name
        = (fields.lookup name).map (within levels) := by
      intro name
      rw [fieldsWithin_eq_map, lookup_map_within]
    simp only [within, fields?, hcount, hlookup]
    split
    · rw [Option.map_some, List.map_filterMap]
      congr 2
      funext name
      cases fields.lookup name <;> rfl
    · rfl
  | array items =>
    simp only [within, fields?, itemsWithin_eq_map, List.length_map]
    split
    · rw [Option.map_some, List.zip_map_right]
      rfl
    · rfl
  | _ => rfl

section Cut

variable {α : Type} {read? : Json → Option α} {levels : Nat}

/-- A reader that does not see a cut does not see it in a field. -/
theorem Fields.required?_within (h : ∀ value, read? (value.within levels) = read? value)
    (fields : Fields) (name : String) :
    required? (fields.map fun f => (f.1, f.2.within levels)) name read?
      = required? fields name read? := by
  rw [required?, required?, lookup_map_within]
  cases fields.lookup name with
  | none => rfl
  | some value => exact h value

theorem Fields.optional?_within (h : ∀ value, read? (value.within levels) = read? value)
    (fields : Fields) (name : String) (default : α) :
    optional? (fields.map fun f => (f.1, f.2.within levels)) name default read?
      = optional? fields name default read? := by
  rw [optional?, optional?, lookup_map_within]
  cases fields.lookup name with
  | none => rfl
  | some value => exact h value

theorem asString?_within (levels : Nat) (value : Json) :
    asString? (value.within levels) = asString? value := by
  cases value <;> cases levels <;> rfl

theorem asInteger?_within (least greatest : Int) (levels : Nat) (value : Json) :
    asInteger? least greatest (value.within levels) = asInteger? least greatest value := by
  cases value <;> cases levels <;> rfl

theorem asList?_within (h : ∀ value, read? (value.within levels) = read? value) (value : Json) :
    asList? read? (value.within (levels + 1)) = asList? read? value := by
  cases value with
  | array items =>
    simp only [within, asList?, itemsWithin_eq_map]
    induction items with
    | nil => rfl
    | cons item items ih => rw [List.map_cons, List.mapM_cons, List.mapM_cons, ih, h]
  | _ => rfl

/-- **Decoding a text of a value is reading the value**, to a reader that does not see where texts
    are cut. -/
theorem decode?_of_parse? (h : ∀ value, read? (value.within maxDepth) = read? value) {text : String}
    {value : Json} (hparse : parse? text.toList = some value) :
    decode? read? text = read? value := by
  rw [decode?, Json.read?, hparse]
  exact h value

end Cut

end DebugDesk.Json
