/-
  Records read back.

  A record is written as an object of its fields and read field by field.  What it takes for a value
  to carry a record is said once (`Carries`): a text can carry the value (`Fits`), and reading the
  value gives the record.  It holds of the values that fields hold (words, strings, lists, and values
  that may be absent), and from these it is put together, record by record (`Carries.of_fields`).

  The crux is `fields?_of_perm`: an object is nothing but the known fields that it has, in their
  declared order, in whatever order it lists them and whatever else it has.  A reader of tables does
  not ask for the order, either: where names are distinct, a look-up is the same in every order
  (`lookup_eq_of_perm`).
-/
import DebugDesk.Json.Record
import DebugDesk.Proofs.Json.Print
import DebugDesk.Table
import Mathlib.Data.List.Induction
import Mathlib.Data.List.Nodup

namespace DebugDesk

/-! ## Look-ups do not depend on the order -/

/-- **Where names are distinct, a look-up is the same in every order.** -/
theorem lookup_eq_of_perm {α : Type} {l m : List (String × α)} (h : l.Perm m)
    (distinct : (l.map (·.1)).Nodup) (name : String) : l.lookup name = m.lookup name := by
  induction h with
  | nil => rfl
  | cons e _ ih =>
    rw [List.map_cons, List.nodup_cons] at distinct
    rw [List.lookup_cons, List.lookup_cons, ih distinct.2]
  | swap e f l =>
    obtain ⟨k, v⟩ := e
    obtain ⟨k', v'⟩ := f
    have hne : k' ≠ k := by
      intro heq
      simp [heq] at distinct
    by_cases hk : name = k
    · subst hk
      have hb : (name == k') = false := beq_eq_false_iff_ne.mpr hne.symm
      simp only [List.lookup_cons, beq_self_eq_true, hb]
    · have hb : (name == k) = false := beq_eq_false_iff_ne.mpr hk
      simp only [List.lookup_cons, hb]
  | trans h _ ih ih' => rw [ih distinct, ih' ((h.map _).nodup_iff.mp distinct)]

namespace Table

variable {α : Type}

theorem get?_ofList (entries : List (String × α)) (key : String) :
    (ofList entries).get? key = entries.reverse.lookup key := by
  induction entries using List.reverseRecOn with
  | nil => rfl
  | append_singleton entries e ih =>
    obtain ⟨k, v⟩ := e
    have hlast : ofList (entries ++ [(k, v)]) = (ofList entries).insert k v := by
      simp [ofList, List.foldl_append]
    rw [hlast, get?_insert, ih, List.reverse_append, List.reverse_singleton, List.singleton_append,
      List.lookup_cons]
    by_cases hkey : key = k
    · rw [if_pos hkey, beq_iff_eq.mpr hkey]
    · rw [if_neg hkey, beq_eq_false_iff_ne.mpr hkey]

/-- A table is made of its entries, in whatever order they come. -/
theorem ofList_of_perm {t : Table α} {entries : List (String × α)} (h : entries.Perm t.entries) :
    ofList entries = t := by
  refine ext_get? fun key => ?_
  have hreverse : entries.reverse.Perm t.entries := (List.reverse_perm entries).trans h
  rw [get?_ofList]
  exact lookup_eq_of_perm hreverse ((hreverse.map _).nodup_iff.mpr t.keys_nodup) key

end Table

namespace Json

/-! ## Values that fit a text -/

/-- Whether a text can carry a value, with containers nested in at most the given number of levels. -/
structure Fits (levels : Nat) (value : Json) : Prop where
  writable : value.Writable
  depth_le : value.depth ≤ levels

section Fits

variable {levels : Nat}

@[simp] theorem fits_null : null.Fits levels := ⟨trivial, Nat.zero_le _⟩

@[simp] theorem fits_bool (b : Bool) : (bool b).Fits levels := by
  cases b <;> exact ⟨trivial, Nat.zero_le _⟩

@[simp] theorem fits_string (s : String) : (string s).Fits levels := ⟨trivial, Nat.zero_le _⟩

theorem fits_integer {n : Int} (h : n.natAbs < UInt64.size) : (integer n).Fits levels :=
  ⟨h, Nat.zero_le _⟩

theorem fits_clock {n : Nat} (h : n < UInt64.size) : (integer n).Fits levels := fits_integer h

/-- An array fits if its items do. -/
theorem fits_array {items : List Json} (h : ∀ item ∈ items, item.Fits levels) :
    (array items).Fits (levels + 1) := by
  have hparts : ItemsWritable items ∧ itemsDepth items ≤ levels := by
    induction items with
    | nil => exact ⟨trivial, Nat.zero_le _⟩
    | cons item items ih =>
      obtain ⟨hitem, hitems⟩ := List.forall_mem_cons.mp h
      obtain ⟨hwritable, hdepth⟩ := ih hitems
      exact ⟨⟨hitem.writable, hwritable⟩, Nat.max_le.mpr ⟨hitem.depth_le, hdepth⟩⟩
  exact ⟨hparts.1, Nat.succ_le_succ hparts.2⟩

/-- An object fits if the values of its fields do. -/
theorem fits_object {fields : List (String × Json)} (h : ∀ f ∈ fields, f.2.Fits levels) :
    (object fields).Fits (levels + 1) := by
  have hparts : FieldsWritable fields ∧ fieldsDepth fields ≤ levels := by
    induction fields with
    | nil => exact ⟨trivial, Nat.zero_le _⟩
    | cons f fields ih =>
      obtain ⟨hf, hfields⟩ := List.forall_mem_cons.mp h
      obtain ⟨hwritable, hdepth⟩ := ih hfields
      exact ⟨⟨hf.writable, hwritable⟩, Nat.max_le.mpr ⟨hf.depth_le, hdepth⟩⟩
  exact ⟨hparts.1, Nat.succ_le_succ hparts.2⟩

end Fits

/-! ## Values that carry a record -/

/-- What a text says, read as a record. -/
def decode? {α : Type} (read? : Json → Option α) (text : String) : Option α :=
  (Json.read? text).bind read?

/-- A value carries `a` to a reader: a text can carry the value, and it is read as `a`. -/
structure Carries {α : Type} (read? : Json → Option α) (levels : Nat) (value : Json) (a : α) : Prop
    extends Fits levels value where
  read_eq : read? value = some a

section Carries

variable {α : Type} {write : α → Json} {read? : Json → Option α} {levels : Nat}

/-- **What a value carries is decoded from its printed text.** -/
theorem Carries.decode?_print {value : Json} {a : α} (h : Carries read? levels value a)
    (shallow : levels ≤ maxDepth) : decode? read? value.print = some a := by
  rw [decode?, read?_print h.writable (Nat.le_trans h.depth_le shallow)]
  exact h.read_eq

/-! ### Values of fields -/

@[simp] theorem asString?_string (s : String) : asString? (string s) = some s := rfl

@[simp] theorem asBool?_bool (b : Bool) : asBool? (bool b) = some b := rfl

theorem asInteger?_integer {least greatest n : Int} (hleast : least ≤ n) (hgreatest : n ≤ greatest) :
    asInteger? least greatest (integer n) = some n := if_pos ⟨hleast, hgreatest⟩

/-- An integer between bounds that a text can carry. -/
theorem carries_integer {least greatest n : Int} (hleast : least ≤ n) (hgreatest : n ≤ greatest)
    (hlow : -(UInt64.size : Int) < least) (hhigh : greatest < UInt64.size) :
    Carries (asInteger? least greatest) levels (integer n) n :=
  ⟨fits_integer (by omega), asInteger?_integer hleast hgreatest⟩

@[simp] theorem asWord32?_ofWord32 (w : UInt32) : asWord32? (ofWord32 w) = some w := by
  have hlt := w.toNat_lt_size
  rw [asWord32?, ofWord32, asInteger?_integer (by omega) (by omega)]
  simp

@[simp] theorem asWord64?_integer (w : UInt64) : asWord64? (integer w.toNat) = some w := by
  have hlt := w.toNat_lt_size
  rw [asWord64?, asInteger?_integer (by omega) (by omega)]
  simp

theorem asClock?_integer {n : Nat} (h : n < UInt64.size) : asClock? (integer n) = some n := by
  rw [asClock?, asInteger?_integer (by omega) (by omega)]
  simp

@[simp] theorem fits_ofWord32 (w : UInt32) : (ofWord32 w).Fits levels :=
  fits_integer (Nat.lt_trans w.toNat_lt_size (by decide))

@[simp] theorem fits_word64 (w : UInt64) : (integer w.toNat).Fits levels :=
  fits_integer w.toNat_lt_size

theorem carries_string (s : String) : Carries asString? levels (string s) s := ⟨fits_string s, rfl⟩

theorem asNullable?_of_ne_null {value : Json} (h : value ≠ null) :
    asNullable? read? value = (read? value).map some := asNullable?.eq_2 read? value h

/-- A value that may be absent; `null` must not stand for a value that is there. -/
theorem carries_nullable {o : Option α} (h : ∀ a, o = some a → Carries read? levels (write a) a)
    (some_ne_null : ∀ a, write a ≠ null) :
    Carries (asNullable? read?) levels (ofNullable write o) o := by
  cases o with
  | none => exact ⟨fits_null, rfl⟩
  | some a =>
    refine ⟨(h a rfl).toFits, ?_⟩
    rw [ofNullable, asNullable?_of_ne_null (some_ne_null a), (h a rfl).read_eq]
    rfl

/-- Items that are read one by one. -/
theorem mapM_map_of_read_eq {β γ : Type} {write : α → β} {read? : β → Option γ} {f : α → γ}
    {as : List α} (h : ∀ a ∈ as, read? (write a) = some (f a)) :
    (as.map write).mapM read? = some (as.map f) := by
  induction as with
  | nil => rfl
  | cons a as ih =>
    obtain ⟨ha, has⟩ := List.forall_mem_cons.mp h
    rw [List.map_cons, List.mapM_cons, ha, ih has]
    rfl

theorem carries_list {as : List α} (h : ∀ a ∈ as, Carries read? levels (write a) a) :
    Carries (asList? read?) (levels + 1) (array (as.map write)) as where
  toFits := by
    refine fits_array fun item hitem => ?_
    obtain ⟨a, ha, rfl⟩ := List.mem_map.mp hitem
    exact (h a ha).toFits
  read_eq := by
    show (as.map write).mapM read? = some as
    rw [mapM_map_of_read_eq (f := id) fun a ha => (h a ha).read_eq, List.map_id]

/-! ### Tables -/

/-- The table that an object writes with a field per entry. -/
def asTable? (read? : Json → Option α) : Json → Option (Table α)
  | object fields => (fields.mapM fun e => (read? e.2).map fun a => (e.1, a)).map Table.ofList
  | _ => none

/-- **A table is carried in every order of its entries.** -/
theorem carries_table {t : Table α} {entries : List (String × α)} (h : entries.Perm t.entries)
    (hitems : ∀ e ∈ entries, Carries read? levels (write e.2) e.2) :
    Carries (asTable? read?) (levels + 1) (object (entries.map fun e => (e.1, write e.2))) t where
  toFits := by
    refine fits_object fun f hf => ?_
    obtain ⟨e, he, rfl⟩ := List.mem_map.mp hf
    exact (hitems e he).toFits
  read_eq := by
    have hread : ∀ e ∈ entries, (read? (write e.2)).map (fun a => (e.1, a)) = some e :=
      fun e he => by rw [(hitems e he).read_eq]; rfl
    have hentries : (entries.map fun e => (e.1, write e.2)).mapM
        (fun e => (read? e.2).map fun a => (e.1, a)) = some entries := by
      rw [mapM_map_of_read_eq (f := id) hread, List.map_id]
    rw [asTable?, hentries, Option.map_some, Table.ofList_of_perm h]

end Carries

/-! ### Objects of fields -/

namespace Fields

variable {α : Type} (read? : Json → Option α) (fields : Fields) (known name : String) (value : Json)

/-- The first field is the one that is sought, or does not matter. -/
@[simp] theorem required?_cons : required? ((known, value) :: fields) name read? =
    if name = known then read? value else required? fields name read? := by
  rw [required?, List.lookup_cons]
  by_cases h : name = known
  · rw [if_pos h, beq_iff_eq.mpr h]
  · rw [if_neg h, beq_eq_false_iff_ne.mpr h]
    rfl

@[simp] theorem optional?_nil (default : α) : optional? [] name default read? = some default := rfl

@[simp] theorem optional?_cons (default : α) : optional? ((known, value) :: fields) name default read? =
    if name = known then read? value else optional? fields name default read? := by
  rw [optional?, List.lookup_cons]
  by_cases h : name = known
  · rw [if_pos h, beq_iff_eq.mpr h]
  · rw [if_neg h, beq_eq_false_iff_ne.mpr h]
    rfl

end Fields

/-- Looking up each known name gives back the fields that are there. -/
theorem filterMap_lookup {names : List String} {fields : List (String × Json)}
    (listed : (fields.map (·.1)).Sublist names) (distinct : names.Nodup) :
    (names.filterMap fun name => (fields.lookup name).map (name, ·)) = fields := by
  induction names generalizing fields with
  | nil =>
    rw [List.sublist_nil, List.map_eq_nil_iff] at listed
    rw [listed]
    rfl
  | cons name names ih =>
    obtain ⟨hname, hnames⟩ := List.nodup_cons.mp distinct
    rcases List.sublist_cons_iff.mp listed with habsent | ⟨rest, hfields, hrest⟩
    · have hnone : fields.lookup name = none := by
        rw [List.lookup_eq_none_iff]
        intro f hf
        have hmem : f.1 ∈ names := habsent.subset (List.mem_map_of_mem hf)
        exact bne_iff_ne.mpr fun heq => hname (heq ▸ hmem)
      rw [List.filterMap_cons_none (by rw [hnone]; rfl), ih habsent hnames]
    · obtain ⟨⟨known, value⟩, fields, rfl, hknown, rfl⟩ := List.map_eq_cons_iff.mp hfields
      obtain rfl : known = name := hknown
      rw [List.filterMap_cons_some (by rw [List.lookup_cons_self]; rfl)]
      congr 1
      refine Eq.trans (List.filterMap_congr fun other hother => ?_) (ih hrest hnames)
      have hb : (other == known) = false := beq_eq_false_iff_ne.mpr fun heq => hname (heq ▸ hother)
      rw [List.lookup_cons, hb]

/-- **A field whose name stands once is found**, wherever it stands. -/
theorem lookup_eq_of_mem {fields : Fields} {name : String} {value : Json}
    (once : fields.countP (·.1 == name) ≤ 1) (mem : (name, value) ∈ fields) :
    fields.lookup name = some value := by
  obtain ⟨before, after, rfl⟩ := List.append_of_mem mem
  simp only [List.countP_append, List.countP_cons, beq_self_eq_true, if_true] at once
  have hbefore : before.countP (·.1 == name) = 0 := by omega
  refine List.lookup_eq_some_iff.mpr ⟨before, after, rfl, fun f hf => ?_⟩
  exact bne_iff_ne.mpr fun heq => List.countP_eq_zero.mp hbefore f hf (beq_iff_eq.mpr heq.symm)

theorem lookup_eq_none_of_absent {fields : Fields} {name : String}
    (absent : ∀ f ∈ fields, f.1 ≠ name) : fields.lookup name = none :=
  List.lookup_eq_none_iff.mpr fun f hf => bne_iff_ne.mpr (absent f hf).symm

/-- **An object is its known fields in their declared order**, in whatever order it lists them and
    whichever unknown ones it has beside them. -/
theorem fields?_of_perm {names : List String} {fields kept others : Fields}
    (order : fields.Perm (kept ++ others)) (listed : (kept.map (·.1)).Sublist names)
    (unknown : ∀ f ∈ others, f.1 ∉ names) (distinct : names.Nodup) :
    fields? names (object fields) = some kept := by
  have honce : ∀ name ∈ names, fields.countP (·.1 == name) ≤ 1 := by
    intro name hname
    have hkept := List.nodup_iff_count_le_one.mp (listed.nodup distinct) name
    rw [List.count, List.countP_map] at hkept
    have hothers : others.countP (·.1 == name) = 0 :=
      List.countP_eq_zero.mpr fun f hf heq => unknown f hf (beq_iff_eq.mp heq ▸ hname)
    rw [order.countP_eq, List.countP_append, hothers]
    exact hkept
  have hlookup : ∀ name ∈ names, fields.lookup name = kept.lookup name := by
    intro name hname
    cases hkept : kept.lookup name with
    | some value =>
      obtain ⟨before, after, rfl, _⟩ := List.lookup_eq_some_iff.mp hkept
      exact lookup_eq_of_mem (honce name hname) (order.mem_iff.mpr (by simp))
    | none =>
      refine lookup_eq_none_of_absent fun f hf heq => ?_
      rcases List.mem_append.mp (order.mem_iff.mp hf) with hf | hf
      · exact bne_iff_ne.mp (List.lookup_eq_none_iff.mp hkept f hf) heq.symm
      · exact unknown f hf (heq ▸ hname)
  have hall : (names.all fun name => fields.countP (·.1 == name) ≤ 1) = true :=
    List.all_eq_true.mpr fun name hname => decide_eq_true (honce name hname)
  rw [fields?, if_pos hall, ← filterMap_lookup listed distinct]
  exact congrArg some (List.filterMap_congr fun name hname => by rw [hlookup name hname])

/-- An object that lists known fields in their declared order is these fields. -/
theorem fields?_object {names : List String} {fields : List (String × Json)}
    (listed : (fields.map (·.1)).Sublist names) (distinct : names.Nodup) :
    fields? names (object fields) = some fields := by
  have order : fields.Perm (fields ++ []) := by rw [List.append_nil]
  exact fields?_of_perm order listed (fun _ hf => absurd hf List.not_mem_nil) distinct

/-- **An object carries a record** if it lists known fields of the record, each of which fits, and
    these fields make the record. -/
theorem Carries.of_fields {α : Type} {read? : Json → Option α} {levels : Nat} {a : α}
    {names : List String} {fields : List (String × Json)} {make? : Fields → Option α}
    (hread : ∀ value, read? value = value.fields? names >>= make?)
    (listed : (fields.map (·.1)).Sublist names) (distinct : names.Nodup)
    (fits : ∀ f ∈ fields, f.2.Fits levels) (made : make? fields = some a) :
    Carries read? (levels + 1) (object fields) a where
  toFits := fits_object fits
  read_eq := by
    rw [hread, fields?_object listed distinct]
    exact made

/-- Behind its tag, a tagged record is the record of its other fields. -/
theorem tagged?_object {tag kind : String} {fields : List (String × Json)}
    (readable : fieldsAreReadable fields = true) (untagged : ∀ f ∈ fields, f.1 ≠ tag) :
    (object ((tag, string kind) :: fields)).tagged? tag = some (kind, object fields) := by
  have hreadable : (object ((tag, string kind) :: fields)).isReadable = true := readable
  have hnone : fields.filter (·.1 == tag) = [] :=
    List.filter_eq_nil_iff.mpr fun f hf heq => untagged f hf (beq_iff_eq.mp heq)
  have hall : fields.filter (·.1 != tag) = fields :=
    List.filter_eq_self.mpr fun f hf => bne_iff_ne.mpr (untagged f hf)
  simp [tagged?, hreadable, hnone, hall]

end Json

end DebugDesk
