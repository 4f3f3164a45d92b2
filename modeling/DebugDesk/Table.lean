/-
  Tables: finite maps from names to values, in the order of the names.

  Breakpoints are kept by line key, registers by line key, boards and worker lists by operator, and
  every answer that lists them lists them in the order of their keys.  A table is therefore its
  list of entries, strictly ascending by key; the order is that of code points, so "10" comes
  before "9".

  The ascent is part of the type, so two tables with the same look-ups are the same table
  (`Table.ext_get?`), and every operation is described once, by what a look-up answers afterwards:

    * `get?_upsert`: writing at a key changes what that key answers, and nothing else;
    * `get?_erase`:  erasing a key makes it answer nothing, and changes nothing else.
-/
namespace DebugDesk

/-- A finite map from strings to values, held as its entries in ascending order of the keys. -/
structure Table (α : Type) where
  /-- The entries, strictly ascending by key. -/
  entries : List (String × α)
  /-- No key stands before a smaller or equal one. -/
  ascending : entries.Pairwise fun a b => a.1 < b.1

namespace Table

variable {α : Type}

/-! ## Entries in order -/

/-- Writes at a key of an ascending list: the function is given the value that stands there. -/
def upsertIn (key : String) (f : Option α → α) : List (String × α) → List (String × α)
  | [] => [(key, f none)]
  | (k, v) :: rest =>
    if key < k then (key, f none) :: (k, v) :: rest
    else if key = k then (key, f (some v)) :: rest
    else (k, v) :: upsertIn key f rest

theorem mem_upsertIn {key : String} {f : Option α → α} {a : String × α} {l : List (String × α)}
    (h : a ∈ upsertIn key f l) : a.1 = key ∨ a ∈ l := by
  induction l with
  | nil =>
    rw [upsertIn, List.mem_singleton] at h
    exact .inl (by rw [h])
  | cons e rest ih =>
    obtain ⟨k, v⟩ := e
    rw [upsertIn] at h
    split at h
    · rcases List.mem_cons.mp h with h | h
      · exact .inl (by rw [h])
      · exact .inr h
    · split at h
      · rcases List.mem_cons.mp h with h | h
        · exact .inl (by rw [h])
        · exact .inr (List.mem_cons_of_mem _ h)
      · rcases List.mem_cons.mp h with h | h
        · exact .inr (by rw [h]; exact List.mem_cons_self)
        · rcases ih h with h | h
          · exact .inl h
          · exact .inr (List.mem_cons_of_mem _ h)

theorem lt_of_not_lt_of_ne {a b : String} (h : ¬ a < b) (ne : a ≠ b) : b < a :=
  Decidable.byContradiction fun h' =>
    ne (String.le_antisymm (String.not_lt.mp h') (String.not_lt.mp h))

theorem upsertIn_ascending (key : String) (f : Option α → α) {l : List (String × α)}
    (h : l.Pairwise fun a b => a.1 < b.1) : (upsertIn key f l).Pairwise fun a b => a.1 < b.1 := by
  induction l with
  | nil => exact List.pairwise_singleton _ _
  | cons e rest ih =>
    obtain ⟨k, v⟩ := e
    rw [upsertIn]
    split
    · rename_i hlt
      refine List.Pairwise.cons ?_ h
      intro a ha
      rcases List.mem_cons.mp ha with ha | ha
      · rw [ha]; exact hlt
      · exact String.lt_trans hlt (List.rel_of_pairwise_cons h ha)
    · rename_i hlt
      split
      · rename_i heq
        subst heq
        exact List.Pairwise.cons (fun a ha => List.rel_of_pairwise_cons h ha) (List.Pairwise.of_cons h)
      · rename_i hne
        refine List.Pairwise.cons ?_ (ih (List.Pairwise.of_cons h))
        intro a ha
        rcases mem_upsertIn ha with ha | ha
        · rw [ha]; exact lt_of_not_lt_of_ne hlt hne
        · exact List.rel_of_pairwise_cons h ha

/-! ## Operations -/

/-- The table without entries. -/
def empty : Table α := ⟨[], List.Pairwise.nil⟩

instance : Inhabited (Table α) := ⟨empty⟩

/-- The value at a key. -/
def get? (t : Table α) (key : String) : Option α := t.entries.lookup key

/-- Writes at a key the value computed from what stands there. -/
def upsert (t : Table α) (key : String) (f : Option α → α) : Table α :=
  ⟨upsertIn key f t.entries, upsertIn_ascending key f t.ascending⟩

/-- Puts a value at a key, replacing the one that stands there. -/
def insert (t : Table α) (key : String) (value : α) : Table α :=
  t.upsert key fun _ => value

/-- Removes a key. -/
def erase (t : Table α) (key : String) : Table α :=
  ⟨t.entries.filter fun e => e.1 != key, t.ascending.filter _⟩

/-- Whether a key has a value. -/
def contains (t : Table α) (key : String) : Bool := (t.get? key).isSome

/-- The keys in ascending order. -/
def keys (t : Table α) : List String := t.entries.map (·.1)

/-- The number of entries. -/
def size (t : Table α) : Nat := t.entries.length

/-- The table of a list of entries; of two entries with one key the later wins. -/
def ofList (entries : List (String × α)) : Table α :=
  entries.foldl (fun t e => t.insert e.1 e.2) empty

/-! ## What a look-up answers -/

theorem get?_empty (key : String) : (empty : Table α).get? key = none := rfl

theorem lookup_upsertIn_self (key : String) (f : Option α → α) {l : List (String × α)}
    (h : l.Pairwise fun a b => a.1 < b.1) :
    (upsertIn key f l).lookup key = some (f (l.lookup key)) := by
  induction l with
  | nil => simp [upsertIn]
  | cons e rest ih =>
    obtain ⟨k, v⟩ := e
    rw [upsertIn]
    split
    · rename_i hlt
      have hne : key ≠ k := String.ne_of_lt hlt
      have hrest : rest.lookup key = none := by
        rw [List.lookup_eq_none_iff]
        intro a ha
        have hk : key < a.1 := String.lt_trans hlt (List.rel_of_pairwise_cons h ha)
        rw [bne_iff_ne]
        exact String.ne_of_lt hk
      have hbeq : (key == k) = false := beq_eq_false_iff_ne.mpr hne
      rw [List.lookup_cons_self, List.lookup_cons, hbeq, hrest]
    · split
      · rename_i heq
        subst heq
        rw [List.lookup_cons_self, List.lookup_cons_self]
      · rename_i hne
        have hbeq : (key == k) = false := beq_eq_false_iff_ne.mpr hne
        rw [List.lookup_cons, List.lookup_cons, hbeq, ih (List.Pairwise.of_cons h)]

theorem lookup_upsertIn_of_ne {key other : String} (f : Option α → α) (hne : other ≠ key)
    (l : List (String × α)) : (upsertIn key f l).lookup other = l.lookup other := by
  have hbeq : (other == key) = false := beq_eq_false_iff_ne.mpr hne
  induction l with
  | nil => simp [upsertIn, List.lookup_cons, hbeq]
  | cons e rest ih =>
    obtain ⟨k, v⟩ := e
    rw [upsertIn]
    split
    · rw [List.lookup_cons, hbeq]
    · split
      · rename_i heq
        subst heq
        rw [List.lookup_cons, List.lookup_cons, hbeq]
      · rw [List.lookup_cons, List.lookup_cons, ih]

/-- **Writing at a key changes what that key answers, and nothing else.** -/
theorem get?_upsert (t : Table α) (key other : String) (f : Option α → α) :
    (t.upsert key f).get? other = if other = key then some (f (t.get? key)) else t.get? other := by
  split
  · rename_i heq
    subst heq
    exact lookup_upsertIn_self other f t.ascending
  · rename_i hne
    exact lookup_upsertIn_of_ne f hne t.entries

theorem get?_insert (t : Table α) (key other : String) (value : α) :
    (t.insert key value).get? other = if other = key then some value else t.get? other :=
  get?_upsert t key other _

/-- **Erasing a key makes it answer nothing, and changes nothing else.** -/
theorem get?_erase (t : Table α) (key other : String) :
    (t.erase key).get? other = if other = key then none else t.get? other := by
  simp only [get?, erase]
  induction t.entries with
  | nil => simp
  | cons e rest ih =>
    obtain ⟨k, v⟩ := e
    rw [List.filter_cons]
    by_cases hk : k = key
    · subst hk
      simp only [bne_self_eq_false, Bool.false_eq_true, if_false, ih, List.lookup_cons]
      by_cases ho : other = k
      · simp [ho]
      · have hb : (other == k) = false := beq_eq_false_iff_ne.mpr ho
        simp [ho, hb]
    · have hb : (k != key) = true := bne_iff_ne.mpr hk
      simp only [hb, if_true, List.lookup_cons, ih]
      by_cases ho : other = k
      · subst ho; simp [hk]
      · have hb' : (other == k) = false := beq_eq_false_iff_ne.mpr ho
        simp [hb']

/-! ## Equality -/

theorem ext_entries {s t : Table α} (h : s.entries = t.entries) : s = t := by
  cases s; cases t; cases h; rfl

instance [DecidableEq α] : DecidableEq (Table α) := fun s t =>
  if h : s.entries = t.entries then isTrue (ext_entries h)
  else isFalse fun e => h (by rw [e])

theorem mem_entries_iff (t : Table α) (key : String) (value : α) :
    (key, value) ∈ t.entries ↔ t.get? key = some value := by
  have main : ∀ l : List (String × α), l.Pairwise (fun a b => a.1 < b.1) →
      ((key, value) ∈ l ↔ l.lookup key = some value) := by
    intro l h
    induction l with
    | nil => simp
    | cons e rest ih =>
      obtain ⟨k, v⟩ := e
      rw [List.mem_cons, List.lookup_cons]
      by_cases hk : key = k
      · subst hk
        have hnot : (key, value) ∉ rest := fun m =>
          String.lt_irrefl key (List.rel_of_pairwise_cons h m)
        simp [hnot, eq_comm]
      · have hb : (key == k) = false := beq_eq_false_iff_ne.mpr hk
        rw [hb, ← ih (List.Pairwise.of_cons h)]
        simp [hk]
  exact main t.entries t.ascending

/-- **Two tables with the same look-ups are the same table.** -/
theorem ext_get? {s t : Table α} (h : ∀ key, s.get? key = t.get? key) : s = t := by
  have hmem : ∀ e : String × α, e ∈ s.entries ↔ e ∈ t.entries := by
    intro e
    obtain ⟨k, v⟩ := e
    rw [mem_entries_iff, mem_entries_iff, h k]
  have main : ∀ l m : List (String × α), l.Pairwise (fun a b => a.1 < b.1) →
      m.Pairwise (fun a b => a.1 < b.1) → (∀ e, e ∈ l ↔ e ∈ m) → l = m := by
    intro l
    induction l with
    | nil =>
      intro m _ _ hm
      cases m with
      | nil => rfl
      | cons e rest => exact absurd ((hm e).mpr List.mem_cons_self) (by simp)
    | cons a l ih =>
      intro m hl hm hmem
      cases m with
      | nil => exact absurd ((hmem a).mp List.mem_cons_self) (by simp)
      | cons b m =>
        have hab : a = b := by
          rcases List.mem_cons.mp ((hmem a).mp List.mem_cons_self) with e | ha
          · exact e
          · rcases List.mem_cons.mp ((hmem b).mpr List.mem_cons_self) with e | hb
            · exact e.symm
            · exact absurd (List.rel_of_pairwise_cons hm ha)
                (String.lt_asymm (List.rel_of_pairwise_cons hl hb))
        subst hab
        congr 1
        refine ih m (List.Pairwise.of_cons hl) (List.Pairwise.of_cons hm) ?_
        intro e
        have hl' : e ∈ l → e ≠ a := fun he h => by
          subst h; exact String.lt_irrefl _ (List.rel_of_pairwise_cons hl he)
        have hm' : e ∈ m → e ≠ a := fun he h => by
          subst h; exact String.lt_irrefl _ (List.rel_of_pairwise_cons hm he)
        constructor
        · intro he
          rcases List.mem_cons.mp ((hmem e).mp (List.mem_cons_of_mem _ he)) with h | h
          · exact absurd h (hl' he)
          · exact h
        · intro he
          rcases List.mem_cons.mp ((hmem e).mpr (List.mem_cons_of_mem _ he)) with h | h
          · exact absurd h (hm' he)
          · exact h
  exact ext_entries (main s.entries t.entries s.ascending t.ascending hmem)

example : ((ofList [("9", 1), ("10", 2), ("9", 3)]).entries) = [("10", 2), ("9", 3)] := by decide

/-! ## Keys -/

theorem contains_insert (t : Table α) (key other : String) (value : α) :
    (t.insert key value).contains other = (decide (other = key) || t.contains other) := by
  rw [contains, contains, get?_insert]
  split <;> simp [*]

theorem mem_keys_iff (t : Table α) (key : String) : key ∈ t.keys ↔ t.contains key = true := by
  rw [keys, contains, Option.isSome_iff_exists]
  constructor
  · intro h
    obtain ⟨⟨_, value⟩, hmem, rfl⟩ := List.mem_map.mp h
    exact ⟨value, (t.mem_entries_iff _ value).mp hmem⟩
  · rintro ⟨value, hget⟩
    exact List.mem_map_of_mem ((t.mem_entries_iff key value).mpr hget)

theorem keys_ascending (t : Table α) : t.keys.Pairwise (· < ·) :=
  List.pairwise_map.mpr t.ascending

theorem keys_nodup (t : Table α) : t.keys.Nodup := by
  exact t.keys_ascending.imp String.ne_of_lt

theorem size_eq_length_keys (t : Table α) : t.size = t.keys.length :=
  (List.length_map _).symm

end Table

end DebugDesk
