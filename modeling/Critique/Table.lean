/-!
# Tables

A `Table` maps names to values.  Its entries stand in strictly ascending order of their names, by
code points, so that two tables with the same entries are equal and an iteration runs in the order
of the names.
-/

namespace Critique

/-- A finite map from names to values, kept in ascending order of the names. -/
structure Table (α : Type) where
  entries : List (String × α)
  ascending : entries.Pairwise (fun a b => a.1 < b.1)

namespace Table

variable {α : Type}

/-- The table without entries. -/
def empty : Table α := ⟨[], .nil⟩

instance : Inhabited (Table α) := ⟨empty⟩

/-- Put an entry at its place in an ascending list; an entry of the same name is replaced. -/
def insertEntry (name : String) (value : α) : List (String × α) → List (String × α)
  | [] => [(name, value)]
  | (n, v) :: rest =>
    if name < n then (name, value) :: (n, v) :: rest
    else if name = n then (name, value) :: rest
    else (n, v) :: insertEntry name value rest

theorem mem_insertEntry {name : String} {value : α} {es : List (String × α)} {e : String × α}
    (h : e ∈ insertEntry name value es) : e = (name, value) ∨ e ∈ es := by
  induction es with
  | nil => simpa [insertEntry] using h
  | cons p rest ih =>
    obtain ⟨n, v⟩ := p
    simp only [insertEntry] at h
    split at h
    · simpa using h
    · split at h
      · rcases List.mem_cons.1 h with h | h
        · exact .inl h
        · exact .inr (List.mem_cons_of_mem _ h)
      · rcases List.mem_cons.1 h with h | h
        · exact .inr (h ▸ List.mem_cons_self)
        · exact (ih h).imp_right (List.mem_cons_of_mem _)

theorem insertEntry_ascending (name : String) (value : α) {es : List (String × α)}
    (h : es.Pairwise (fun a b => a.1 < b.1)) :
    (insertEntry name value es).Pairwise (fun a b => a.1 < b.1) := by
  induction es with
  | nil => simp [insertEntry]
  | cons p rest ih =>
    obtain ⟨n, v⟩ := p
    obtain ⟨hn, hrest⟩ := List.pairwise_cons.1 h
    simp only [insertEntry]
    split
    · rename_i hlt
      refine List.pairwise_cons.2 ⟨fun e he => ?_, h⟩
      rcases List.mem_cons.1 he with rfl | he
      · exact hlt
      · exact String.lt_trans hlt (hn e he)
    · rename_i hlt
      split
      · rename_i heq
        subst heq
        exact List.pairwise_cons.2 ⟨hn, hrest⟩
      · rename_i hne
        refine List.pairwise_cons.2 ⟨fun e he => ?_, ih hrest⟩
        rcases mem_insertEntry he with rfl | he
        · have hle : n ≤ name := String.not_lt.1 hlt
          exact Decidable.byContradiction fun hnot =>
            hne (String.le_antisymm (String.not_lt.1 hnot) hle)
        · exact hn e he

/-- Add an entry; an entry of the same name is replaced. -/
def insert (t : Table α) (name : String) (value : α) : Table α :=
  ⟨insertEntry name value t.entries, insertEntry_ascending name value t.ascending⟩

/-- The value under a name. -/
def get? (t : Table α) (name : String) : Option α :=
  t.entries.lookup name

theorem lookup_cons_eq_ite (m : String) (v : α) (rest : List (String × α)) (n : String) :
    ((m, v) :: rest).lookup n = if n = m then some v else rest.lookup n := by
  by_cases h : n = m
  · simp [h]
  · have hbeq : (n == m) = false := by simpa using h
    simp [List.lookup_cons, hbeq, h]

theorem lookup_insertEntry (name : String) (value : α) (es : List (String × α)) (n : String) :
    (insertEntry name value es).lookup n = if n = name then some value else es.lookup n := by
  induction es with
  | nil => rw [insertEntry, lookup_cons_eq_ite]
  | cons p rest ih =>
    obtain ⟨m, v⟩ := p
    simp only [insertEntry]
    split
    · rw [lookup_cons_eq_ite]
    · split
      · rename_i heq
        subst heq
        rw [lookup_cons_eq_ite, lookup_cons_eq_ite]
        split <;> rfl
      · rename_i hne
        rw [lookup_cons_eq_ite, lookup_cons_eq_ite, ih]
        by_cases h : n = m
        · simp [h, Ne.symm hne]
        · simp [h]

@[simp] theorem get?_insert (t : Table α) (name : String) (value : α) (n : String) :
    (t.insert name value).get? n = if n = name then some value else t.get? n :=
  lookup_insertEntry name value t.entries n

@[simp] theorem get?_empty (n : String) : (empty : Table α).get? n = none := rfl

/-- Add an entry unless the name is taken. -/
def insertNew (t : Table α) (name : String) (value : α) : Table α :=
  match t.get? name with
  | some _ => t
  | none => t.insert name value

/-- Add entries one after another, so that the last of a name wins. -/
def insertAll (t : Table α) (es : List (String × α)) : Table α :=
  es.foldl (fun t (name, value) => t.insert name value) t

/-- The table of a list of entries; the last entry of a name wins. -/
def ofList (es : List (String × α)) : Table α :=
  empty.insertAll es

/-- The table without the entry of a name. -/
def erase (t : Table α) (name : String) : Table α :=
  ⟨t.entries.filter (·.1 ≠ name), t.ascending.filter _⟩

/-- The names, in ascending order. -/
def names (t : Table α) : List String :=
  t.entries.map (·.1)

@[simp] theorem get?_insertNew (t : Table α) (name : String) (value : α) (n : String) :
    (t.insertNew name value).get? n = (t.get? n).or (if n = name then some value else none) := by
  unfold insertNew
  split
  · rename_i v hv
    by_cases h : n = name
    · simp [h, hv]
    · simp [h]
  · rename_i hnone
    by_cases h : n = name
    · simp [h, hnone]
    · simp [h]

theorem lookup_filter_ne (name : String) (es : List (String × α)) (n : String) :
    (es.filter (·.1 ≠ name)).lookup n = if n = name then none else es.lookup n := by
  induction es with
  | nil => simp
  | cons p rest ih =>
    obtain ⟨m, v⟩ := p
    by_cases hm : m = name
    · rw [List.filter_cons_of_neg (by simp [hm]), ih, lookup_cons_eq_ite]
      by_cases h : n = name
      · simp [h]
      · simp [h, hm]
    · rw [List.filter_cons_of_pos (by simp [hm]), lookup_cons_eq_ite, ih, lookup_cons_eq_ite]
      by_cases h : n = m
      · simp [h, hm]
      · simp [h]

@[simp] theorem get?_erase (t : Table α) (name n : String) :
    (t.erase name).get? n = if n = name then none else t.get? n :=
  lookup_filter_ne name t.entries n

theorem mem_names_iff {t : Table α} {n : String} : n ∈ t.names ↔ (t.get? n).isSome = true := by
  unfold names get?
  induction t.entries with
  | nil => simp
  | cons p rest ih =>
    rw [List.map_cons, List.mem_cons, ih, lookup_cons_eq_ite]
    by_cases h : n = p.1
    · simp [h]
    · simp [h]

/-- The number of entries. -/
def size (t : Table α) : Nat :=
  t.entries.length

/-- Are there no entries? -/
def isEmpty (t : Table α) : Bool :=
  t.entries.isEmpty

instance [BEq α] : BEq (Table α) := ⟨fun s t => s.entries == t.entries⟩

@[simp] theorem entries_empty : (empty : Table α).entries = [] := rfl

theorem ext {s t : Table α} (h : s.entries = t.entries) : s = t := by
  cases s; cases t; congr

end Table

end Critique
