import Critique.Json.Decode
import Critique.Proofs.Json.Number

/-!
# The numbers of a document are finite

There is no text for a number beyond all floating-point numbers: a literal that reaches so far is
unreadable.  So all numbers of a document that was read are finite (`hasFiniteNumbers_of_parse?`),
and so is whatever a reader takes out of it (`isFinite_of_asFloat?`).
-/

namespace Critique

/-! ## Lists of optional results -/

section Option

variable {α β : Type}

/-- A function succeeds on a list when it succeeds on each of its elements. -/
lemma mapM_eq_some_iff {f : α → Option β} {xs : List α} {ys : List β} :
    xs.mapM f = some ys ↔ List.Forall₂ (fun x y => f x = some y) xs ys := by
  induction xs generalizing ys with
  | nil => simp [eq_comm]
  | cons x xs ih =>
    rw [List.mapM_cons]
    constructor
    · intro h
      obtain ⟨y, hy, h⟩ := Option.bind_eq_some_iff.1 h
      obtain ⟨ys, hys, h⟩ := Option.bind_eq_some_iff.1 h
      cases h
      exact .cons hy (ih.1 hys)
    · intro h
      cases h with
      | cons hy hys =>
        exact Option.bind_eq_some_iff.2 ⟨_, hy, Option.bind_eq_some_iff.2 ⟨_, ih.2 hys, rfl⟩⟩

/-- What a function gives on a list, it gives on one of its elements. -/
lemma exists_of_mem_mapM_eq_some {f : α → Option β} {xs : List α} {ys : List β}
    (h : xs.mapM f = some ys) {y : β} (hy : y ∈ ys) : ∃ x ∈ xs, f x = some y := by
  rw [mapM_eq_some_iff] at h
  induction h with
  | nil => exact absurd hy List.not_mem_nil
  | cons hx _ ih =>
    rcases List.mem_cons.1 hy with rfl | hy
    · exact ⟨_, List.mem_cons_self, hx⟩
    · obtain ⟨x, hmem, hx⟩ := ih hy
      exact ⟨x, List.mem_cons_of_mem _ hmem, hx⟩

lemma exists_of_mapM_eq_some {f : α → Option β} {xs : List α} {ys : List β}
    (h : xs.mapM f = some ys) {x : α} (hx : x ∈ xs) : ∃ y ∈ ys, f x = some y := by
  rw [mapM_eq_some_iff] at h
  induction h with
  | nil => exact absurd hx List.not_mem_nil
  | cons hy _ ih =>
    rcases List.mem_cons.1 hx with rfl | hx
    · exact ⟨_, List.mem_cons_self, hy⟩
    · obtain ⟨y, hmem, hy⟩ := ih hx
      exact ⟨y, List.mem_cons_of_mem _ hmem, hy⟩

end Option

namespace Json

/-- Documents all of whose numbers are finite. -/
inductive HasFiniteNumbers : Json → Prop
  | null : HasFiniteNumbers .null
  | bool (b : Bool) : HasFiniteNumbers (.bool b)
  | num {n : Number} (hn : n.toFloat.isFinite = true) : HasFiniteNumbers (.num n)
  | str (s : String) : HasFiniteNumbers (.str s)
  | arr {items : List Json} (hitems : ∀ v ∈ items, HasFiniteNumbers v) :
      HasFiniteNumbers (.arr items)
  | obj {fields : List (String × Json)} (hfields : ∀ f ∈ fields, HasFiniteNumbers f.2) :
      HasFiniteNumbers (.obj fields)
  | unreadable : HasFiniteNumbers .unreadable

/-! ## What is read -/

lemma hasFiniteNumbers_ofLiteral (l : Literal) : HasFiniteNumbers (ofLiteral l) := by
  unfold ofLiteral
  split
  · rename_i n hn
    exact .num (Literal.isFinite_of_value? hn)
  · exact .unreadable

lemma hasFiniteNumbers_ofUnits (us : List StringUnit) : HasFiniteNumbers (ofUnits us) := by
  unfold ofUnits
  split
  · exact .str _
  · exact .unreadable

lemma hasFiniteNumbers_ofFields {fields : List (List StringUnit × Json)}
    (h : ∀ f ∈ fields, HasFiniteNumbers f.2) : HasFiniteNumbers (ofFields fields) := by
  simp only [ofFields]
  split
  · rename_i named hnamed
    refine .obj fun f hf => ?_
    obtain ⟨g, hg, hname⟩ := exists_of_mem_mapM_eq_some hnamed hf
    obtain ⟨name, -, rfl⟩ := Option.map_eq_some_iff.1 hname
    exact h g hg
  · exact .unreadable

/-- With a given depth, each reader keeps numbers finite. -/
structure ReadsFinite (depth : ℕ) : Prop where
  value : ∀ {cs v rest}, value? depth cs = some (v, rest) → HasFiniteNumbers v
  items : ∀ {cs vs rest}, items? depth cs = some (vs, rest) → ∀ v ∈ vs, HasFiniteNumbers v
  fields : ∀ {cs fs rest}, fields? depth cs = some (fs, rest) → ∀ f ∈ fs, HasFiniteNumbers f.2

namespace ReadsFinite

variable {depth : ℕ} {cs rest : List Char}

lemma value_succ (h : ReadsFinite depth) {v : Json}
    (hread : value? (depth + 1) cs = some (v, rest)) : HasFiniteNumbers v := by
  -- one case for each first character of a value, in the order of the reader
  rw [value?] at hread
  split at hread
  · cases hread
    exact .null
  · cases hread
    exact .bool true
  · cases hread
    exact .bool false
  · obtain ⟨p, -, hp⟩ := Option.map_eq_some_iff.1 hread
    cases hp
    exact hasFiniteNumbers_ofUnits _
  · split at hread
    · cases hread
      exact .arr fun v hv => absurd hv List.not_mem_nil
    · obtain ⟨p, hitems, hp⟩ := Option.map_eq_some_iff.1 hread
      cases hp
      exact .arr (h.items hitems)
  · split at hread
    · cases hread
      exact .obj fun f hf => absurd hf List.not_mem_nil
    · obtain ⟨p, hfields, hp⟩ := Option.map_eq_some_iff.1 hread
      cases hp
      exact hasFiniteNumbers_ofFields (h.fields hfields)
  · obtain ⟨p, -, hp⟩ := Option.map_eq_some_iff.1 hread
    cases hp
    exact hasFiniteNumbers_ofLiteral _

lemma items_succ (h : ReadsFinite depth) {vs : List Json}
    (hread : items? (depth + 1) cs = some (vs, rest)) : ∀ v ∈ vs, HasFiniteNumbers v := by
  rw [items?] at hread
  split at hread
  · cases hread
  · rename_i v after hv
    have hfirst := h.value hv
    split at hread
    · cases hread
      simpa using hfirst
    · obtain ⟨p, hitems, hp⟩ := Option.map_eq_some_iff.1 hread
      cases hp
      exact List.forall_mem_cons.2 ⟨hfirst, h.items hitems⟩
    · cases hread

lemma fields_succ (h : ReadsFinite depth) {fs : List (List StringUnit × Json)}
    (hread : fields? (depth + 1) cs = some (fs, rest)) : ∀ f ∈ fs, HasFiniteNumbers f.2 := by
  rw [fields?] at hread
  split at hread
  · split at hread
    · cases hread
    · split at hread
      · split at hread
        · cases hread
        · rename_i v after hv
          have hfirst := h.value hv
          split at hread
          · cases hread
            simpa using hfirst
          · obtain ⟨p, hfields, hp⟩ := Option.map_eq_some_iff.1 hread
            cases hp
            exact List.forall_mem_cons.2 ⟨hfirst, h.fields hfields⟩
          · cases hread
      · cases hread
  · cases hread

end ReadsFinite

lemma readsFinite (depth : ℕ) : ReadsFinite depth := by
  induction depth with
  | zero =>
    refine ⟨?_, ?_, ?_⟩
    · intro cs v rest h
      simp [value?] at h
    · intro cs vs rest h
      simp [items?] at h
    · intro cs fs rest h
      simp [fields?] at h
  | succ depth ih => exact ⟨ih.value_succ, ih.items_succ, ih.fields_succ⟩

/-- **All numbers of a document that was read are finite.** -/
theorem hasFiniteNumbers_of_parse? {text : String} {v : Json} (h : parse? text = some v) :
    HasFiniteNumbers v := by
  rw [parse?, parseChars?] at h
  split at h
  · rename_i w rest hread
    split_ifs at h
    cases h
    exact (readsFinite _).value hread
  · cases h

/-! ## What is taken out of a document -/

section Readers

variable {v : Json}

lemma isFinite_of_asFloat? {x : Float} (hv : HasFiniteNumbers v) (h : asFloat? v = some x) :
    x.isFinite = true := by
  cases hv with
  | num hn => exact Option.some.inj h ▸ hn
  | null => cases h
  | bool b => cases h
  | str s => cases h
  | arr hitems => cases h
  | obj hfields => cases h
  | unreadable => cases h

/-- The elements of a list that was read come from finite documents. -/
lemma exists_of_mem_asList? {α : Type} {read : Json → Option α} {xs : List α} {x : α}
    (hv : HasFiniteNumbers v) (h : asList? read v = some xs) (hx : x ∈ xs) :
    ∃ w, HasFiniteNumbers w ∧ read w = some x := by
  cases hv with
  | arr hitems =>
    obtain ⟨w, hw, hread⟩ := exists_of_mem_mapM_eq_some h hx
    exact ⟨w, hitems w hw, hread⟩
  | null => cases h
  | bool b => cases h
  | num hn => cases h
  | str s => cases h
  | obj hfields => cases h
  | unreadable => cases h

/-- The fields of a record are finite documents. -/
lemma hasFiniteNumbers_of_asRecord? {names : List String} {fields : List (Option Json)}
    (hv : HasFiniteNumbers v) (h : asRecord? names v = some fields) {w : Json}
    (hw : some w ∈ fields) : HasFiniteNumbers w := by
  -- a record is an object, or a list that has its values in the order of the fields
  cases hv with
  | @obj held hheld =>
    obtain ⟨name, -, hname⟩ := exists_of_mem_mapM_eq_some h hw
    unfold uniqueField? at hname
    split at hname
    · cases hname
    · rename_i heq
      cases hname
      have hmem := List.mem_of_mem_filter (heq ▸ List.mem_singleton_self _)
      exact hheld _ hmem
    · cases hname
  | @arr items hitems =>
    simp only [asRecord?] at h
    split_ifs at h
    cases h
    rcases List.mem_append.1 hw with hw | hw
    · obtain ⟨u, hu, heq⟩ := List.mem_map.1 hw
      exact hitems w (Option.some.inj heq ▸ hu)
    · cases List.eq_of_mem_replicate hw
  | null => cases h
  | bool b => cases h
  | num hn => cases h
  | str s => cases h
  | unreadable => cases h

end Readers

end Json

end Critique
