/-
  Exactly what a record is read from.

  A record can be written as an object or as an array.  An object may lay it out in any order and
  with unknown fields beside it (`LaidOut`); an array has its fields in their declared order, and
  those at the end may be left out (`Listed`).  That these and no other values are read, is said
  field by field: a value presents a record exactly if each field of the record is found among the
  fields that it is read as (`presents_iff`).

  A tagged record is its tag and the record of its other fields, and the tag of an object may stand
  anywhere (`presents_tagged_iff`).

  The crux is that nothing is lost where an object is read: what it has beside the known fields are
  fields of unknown names, so it is a layout (`LaidOut.of_foundIn`).
-/
import DebugDesk.Proofs.Json.Layout

namespace DebugDesk.Json

/-! ## Both forms of a record -/

/-- **An array lists a record**: it has the fields in their declared order, and the last of them may
    be left out. -/
inductive Listed : List FieldForm → List Json → Prop where
  | stop {forms : List FieldForm} (rest : ∀ form ∈ forms, form.omissible) : Listed forms []
  | item {form : FieldForm} {forms : List FieldForm} {value : Json} {items : List Json}
    (h : form.writes value) (rest : Listed forms items) : Listed (form :: forms) (value :: items)

/-- **A value presents a record**: it is an object that lays it out or an array that lists it. -/
inductive Presents (forms : List FieldForm) : Json → Prop where
  | object {value : Json} (h : LaidOut forms value) : Presents forms value
  | array {items : List Json} (h : Listed forms items) : Presents forms (.array items)

/-- Among some fields stands one that writes the field, or none and it may be left out. -/
def FieldForm.FoundIn (form : FieldForm) (fields : Fields) : Prop :=
  (∃ value, fields.lookup form.name = some value ∧ form.writes value) ∨
    fields.lookup form.name = none ∧ form.omissible

section Presents

variable {forms : List FieldForm} {fields kept : Fields} {items : List Json} {value : Json}

theorem Keeps.of_foundIn (h : ∀ form ∈ forms, form.FoundIn fields) :
    Keeps forms ((forms.map (·.name)).filterMap fun name => (fields.lookup name).map (name, ·)) := by
  induction forms with
  | nil => exact .nil
  | cons form forms ih =>
    obtain ⟨hform, hforms⟩ := List.forall_mem_cons.mp h
    rw [List.map_cons, List.filterMap_cons]
    rcases hform with ⟨value, hlookup, hwrites⟩ | ⟨hlookup, homissible⟩
    · rw [hlookup]
      exact .keep hwrites (ih hforms)
    · rw [hlookup]
      exact .leave homissible (ih hforms)

/-- Looking up each of some names, none of which stands twice, finds the fields of these names. -/
theorem perm_filter_lookup {names : List String} (distinct : names.Nodup)
    (once : ∀ name ∈ names, fields.countP (·.1 == name) ≤ 1)
    (listed : ((names.filterMap fun name => (fields.lookup name).map (name, ·)).map (·.1)).Sublist names) :
    (fields.filter fun f => names.contains f.1).Perm
      (names.filterMap fun name => (fields.lookup name).map (name, ·)) := by
  have hfilter : ((fields.filter fun f => names.contains f.1).map (·.1)).Nodup := by
    refine List.nodup_iff_count_le_one.mpr fun name => ?_
    by_cases hname : name ∈ names
    · rw [List.count, List.countP_map]
      exact (List.filter_sublist.countP_le).trans (once name hname)
    · refine le_of_eq_of_le (List.count_eq_zero.mpr fun h => hname ?_) (Nat.zero_le 1)
      obtain ⟨f, hf, rfl⟩ := List.mem_map.mp h
      exact List.contains_iff_mem.mp (List.mem_filter.mp hf).2
  refine (List.perm_ext_iff_of_nodup (.of_map _ hfilter) (.of_map _ (listed.nodup distinct))).mpr ?_
  rintro ⟨name, value⟩
  rw [List.mem_filterMap, List.mem_filter, List.contains_iff_mem]
  constructor
  · rintro ⟨hfield, hname⟩
    exact ⟨name, hname, by rw [lookup_eq_of_mem (once name hname) hfield]; rfl⟩
  · rintro ⟨known, hknown, hfound⟩
    obtain ⟨found, hlookup, heq⟩ := Option.map_eq_some_iff.mp hfound
    obtain ⟨rfl, rfl⟩ := Prod.mk.inj heq
    obtain ⟨before, after, rfl, _⟩ := List.lookup_eq_some_iff.mp hlookup
    exact ⟨List.mem_append_right _ List.mem_cons_self, hknown⟩

/-- An object in which each field is found, and stands at most once, is a layout. -/
theorem LaidOut.of_foundIn (distinct : (forms.map (·.name)).Nodup)
    (once : ∀ name ∈ forms.map (·.name), fields.countP (·.1 == name) ≤ 1)
    (h : ∀ form ∈ forms, form.FoundIn fields) : LaidOut forms (.object fields) := by
  have keeps := Keeps.of_foundIn h
  have hknown := perm_filter_lookup distinct once keeps.listed
  have hunknown : ∀ f ∈ fields.filter fun f => !(forms.map (·.name)).contains f.1,
      f.1 ∉ forms.map (·.name) := by
    intro f hf hname
    have hother := (List.mem_filter.mp hf).2
    rw [List.contains_iff_mem.mpr hname] at hother
    nomatch hother
  exact .object keeps hunknown
    ((List.filter_append_perm _ fields).symm.trans (hknown.append_right _))

/-- Behind another name, a field is found where it was. -/
theorem FieldForm.foundIn_cons_of_ne {form : FieldForm} {name : String} (h : form.name ≠ name) :
    form.FoundIn ((name, value) :: fields) ↔ form.FoundIn fields := by
  rw [FoundIn, FoundIn, List.lookup_cons, beq_eq_false_iff_ne.mpr h]

/-- An array lists a record if it is not too long and each field is found at its place. -/
theorem listed_iff (distinct : (forms.map (·.name)).Nodup) :
    Listed forms items ↔ items.length ≤ (forms.map (·.name)).length ∧
      ∀ form ∈ forms, form.FoundIn ((forms.map (·.name)).zip items) := by
  induction forms generalizing items with
  | nil =>
    cases items with
    | nil => exact ⟨fun _ => ⟨Nat.le_refl _, nofun⟩, fun _ => .stop nofun⟩
    | cons value items => exact ⟨nofun, fun h => nomatch h.1⟩
  | cons form forms ih =>
    obtain ⟨hfirst, hrest⟩ := List.nodup_cons.mp distinct
    cases items with
    | nil =>
      have hnone (other : FieldForm) : other.FoundIn [] ↔ other.omissible :=
        ⟨fun h => h.elim nofun (·.2), fun h => .inr ⟨rfl, h⟩⟩
      rw [List.zip_nil_right]
      refine ⟨fun h => ⟨Nat.zero_le _, fun other hother => (hnone other).mpr ?_⟩,
        fun h => .stop fun other hother => (hnone other).mp (h.2 other hother)⟩
      cases h with
      | stop rest => exact rest other hother
    | cons value items =>
      have hfound : form.FoundIn ((form.name, value) :: (forms.map (·.name)).zip items) ↔
          form.writes value := by
        rw [FieldForm.FoundIn, List.lookup_cons_self]
        exact ⟨fun h => h.elim (fun ⟨_, heq, h⟩ => Option.some.inj heq ▸ h) nofun,
          fun h => .inl ⟨value, rfl, h⟩⟩
      have hothers : ∀ other ∈ forms,
          (other.FoundIn ((form.name, value) :: (forms.map (·.name)).zip items) ↔
            other.FoundIn ((forms.map (·.name)).zip items)) := fun other hother =>
        FieldForm.foundIn_cons_of_ne fun heq =>
          hfirst (List.mem_map.mpr ⟨other, hother, heq⟩)
      rw [List.map_cons, List.zip_cons_cons, List.forall_mem_cons, hfound,
        forall₂_congr hothers, List.length_cons, List.length_cons, Nat.add_le_add_iff_right,
        and_left_comm, ← ih hrest]
      exact ⟨fun h => by cases h with | item h rest => exact ⟨h, rest⟩, fun h => .item h.1 h.2⟩

/-- **A value presents a record if it can be read as fields in which each field of the record is
    found.** -/
theorem presents_iff (distinct : (forms.map (·.name)).Nodup) : Presents forms value ↔
    ∃ kept, value.fields? (forms.map (·.name)) = some kept ∧ ∀ form ∈ forms, form.FoundIn kept := by
  constructor
  · rintro (h | h)
    · obtain ⟨kept, hkept, keeps⟩ := h.exists_fields? distinct
      exact ⟨kept, hkept, fun form hform => keeps.lookup distinct hform⟩
    · obtain ⟨hlength, hfound⟩ := (listed_iff distinct).mp h
      exact ⟨_, if_pos hlength, hfound⟩
  · rintro ⟨kept, hkept, hfound⟩
    cases value with
    | object fields =>
      refine .object (.of_foundIn distinct (fun name hname => (lookup_of_fields? hkept hname).1) ?_)
      intro form hform
      have hlookup := (lookup_of_fields? hkept (List.mem_map_of_mem hform)).2
      rw [FieldForm.FoundIn, ← hlookup]
      exact hfound form hform
    | array items =>
      rw [fields?] at hkept
      split at hkept
      · rename_i hlength
        obtain rfl := Option.some.inj hkept
        exact .array ((listed_iff distinct).mpr ⟨hlength, hfound⟩)
      · cases hkept
    | _ => cases hkept

/-! ## Tagged records -/

/-- The field that carries the kind of a tagged record. -/
def tagForm (tag kind : String) : FieldForm := ⟨tag, (· = .string kind), False⟩

variable {tag kind : String}

/-- A tag is found wherever it stands, if it stands once and all of the object can be held. -/
theorem exists_tagged?_of_perm {others : Fields} (readable : (object fields).isReadable = true)
    (order : fields.Perm ((tag, .string kind) :: others)) (untagged : ∀ f ∈ others, f.1 ≠ tag) :
    ∃ rest, (object fields).tagged? tag = some (kind, object rest) ∧ rest.Perm others := by
  have hothers : others.filter (·.1 == tag) = [] :=
    List.filter_eq_nil_iff.mpr fun f hf heq => untagged f hf (beq_iff_eq.mp heq)
  have hrest : others.filter (·.1 != tag) = others :=
    List.filter_eq_self.mpr fun f hf => bne_iff_ne.mpr (untagged f hf)
  have htag : fields.filter (·.1 == tag) = [(tag, .string kind)] := by
    have h := order.filter (·.1 == tag)
    simp only [List.filter_cons, beq_self_eq_true, if_true, hothers] at h
    exact List.perm_singleton.mp h
  have h := order.filter (·.1 != tag)
  simp only [List.filter_cons, bne_self_eq_false, Bool.false_eq_true, if_false, hrest] at h
  exact ⟨_, by simp only [tagged?, readable, htag]; rfl, h⟩

/-- Where a tag is found, the object has it once, beside what is left. -/
theorem perm_of_tagged? {rest : Json} (h : (object fields).tagged? tag = some (kind, rest)) :
    ∃ others, rest = object others ∧ fields.Perm ((tag, .string kind) :: others) ∧
      ∀ f ∈ others, f.1 ≠ tag := by
  rw [tagged?] at h
  split at h
  · cases h
  · split at h
    · rename_i name kind' hfilter
      obtain ⟨rfl, rfl⟩ := Prod.mk.inj (Option.some.inj h)
      have hname : (name, string kind') ∈ fields.filter (·.1 == tag) := hfilter ▸ List.mem_cons_self
      obtain rfl : name = tag := beq_iff_eq.mp (List.mem_filter.mp hname).2
      refine ⟨_, rfl, ?_, fun f hf => bne_iff_ne.mp (List.mem_filter.mp hf).2⟩
      have hall := List.filter_append_perm (·.1 == name) fields
      rw [hfilter] at hall
      exact hall.symm
    · cases h

/-- Only what can be held as a whole is read behind a tag. -/
theorem isReadable_of_tagged? {rest : Json} (h : value.tagged? tag = some (kind, rest)) :
    value.isReadable = true := by
  unfold tagged? at h
  split at h
  · cases h
  · rename_i hreadable
    simpa using hreadable

/-- **Behind its tag, a tagged record presents the record of its other fields**; all of it has to be
    readable. -/
theorem presents_tagged_iff (fresh : tag ∉ forms.map (·.name)) :
    (value.isReadable = true ∧ Presents (tagForm tag kind :: forms) value) ↔
      ∃ rest, value.tagged? tag = some (kind, rest) ∧ Presents forms rest := by
  constructor
  · rintro ⟨hreadable, h⟩
    cases h with
    | object h =>
      cases h with
      | @object kept others fields keeps unknown order =>
        cases keeps with
        | leave h => exact h.elim
        | @keep _ _ _ kept h rest =>
          cases h
          have hkept : ∀ f ∈ kept, f.1 ≠ tag := by
            rintro f hf rfl
            exact fresh (rest.listed.subset (List.mem_map_of_mem hf))
          have hothers : ∀ f ∈ others, f.1 ≠ tag :=
            fun f hf heq => unknown f hf (heq ▸ List.mem_cons_self)
          obtain ⟨fields, htagged, hfields⟩ := exists_tagged?_of_perm hreadable order
            (List.forall_mem_append.mpr ⟨hkept, hothers⟩)
          exact ⟨_, htagged, .object (.object rest
            (fun f hf hname => unknown f hf (List.mem_cons_of_mem _ hname)) hfields)⟩
    | array h =>
      cases h with
      | stop rest => exact (rest _ List.mem_cons_self).elim
      | @item _ _ _ items h rest =>
        cases h
        exact ⟨.array items, by simp only [tagged?, hreadable]; rfl, .array rest⟩
  · rintro ⟨rest, htagged, h⟩
    have hreadable := isReadable_of_tagged? htagged
    refine ⟨hreadable, ?_⟩
    cases value with
    | object fields =>
      obtain ⟨others, rfl, order, untagged⟩ := perm_of_tagged? htagged
      obtain ⟨keeps, unknown, hothers⟩ := h
      refine .object (.object (.keep rfl keeps) (fun f hf hname => ?_)
        (order.trans (hothers.cons _)))
      rcases List.mem_cons.mp hname with hname | hname
      · exact untagged f (hothers.mem_iff.mpr (List.mem_append_right _ hf)) hname
      · exact unknown f hf hname
    | array items =>
      unfold tagged? at htagged
      simp only [hreadable, Bool.not_true, Bool.false_eq_true, if_false] at htagged
      split at htagged
      · rename_i heq
        cases heq
      · rename_i heq
        obtain rfl := Json.array.inj heq
        obtain ⟨rfl, rfl⟩ := Prod.mk.inj (Option.some.inj htagged)
        cases h with
        | object h => cases h
        | array h => exact .array (.item rfl h)
      · cases htagged
    | _ => simp [tagged?] at htagged

end Presents

/-! ## Fields -/

section Fields

variable {α : Type} {read? : Json → Option α} {a default : α} {writes : Json → Prop} {name : String}
  {kept : Fields} {value : Json}

/-- What a field is read as says what is found, or that it is left out. -/
theorem optional?_eq_some_iff (h : ∀ value, read? value = some a ↔ writes value) :
    kept.optional? name default read? = some a ↔
      FieldForm.FoundIn ⟨name, writes, a = default⟩ kept := by
  rw [Fields.optional?, FieldForm.FoundIn]
  cases kept.lookup name with
  | none => simp [eq_comm]
  | some value => simp [h]

theorem asString?_eq_some_iff {s : String} : asString? value = some s ↔ value = .string s := by
  cases value <;> simp [asString?]

theorem asNullable?_asString?_eq_some_iff {s : Option String} :
    asNullable? asString? value = some s ↔ value = .ofNullable .string s := by
  cases value <;> cases s <;> simp [asNullable?, asString?, ofNullable]

theorem asList?_asString?_eq_some_iff {strings : List String} :
    asList? asString? value = some strings ↔ value = .ofStrings strings := by
  cases value with
  | array items =>
    rw [asList?, ofStrings, array.injEq]
    induction items generalizing strings with
    | nil => cases strings <;> simp
    | cons item items ih =>
      simp only [List.mapM_cons, Option.bind_eq_bind, Option.bind_eq_some_iff, Option.pure_def,
        Option.some.injEq, asString?_eq_some_iff, ih]
      constructor
      · rintro ⟨s, rfl, strings, rfl, rfl⟩
        rfl
      · intro h
        obtain ⟨s, strings, rfl, rfl, rfl⟩ := List.map_eq_cons_iff.mp h.symm
        exact ⟨s, rfl, strings, rfl, rfl⟩
  | _ => simp [asList?, ofStrings]

end Fields

end DebugDesk.Json
