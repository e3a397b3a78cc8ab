import Critique.FileTree.Basic
import Mathlib.Tactic.SplitIfs

/-!
# What a look-up finds

A look-up gives a place together with what it found there.  The two belong together: what was found
is what stands at that place in the tree, however many links were followed on the way.
-/

namespace Critique

lemma Node.get?_append (root : Node) (p q : Location) :
    root.get? (p ++ q) = (root.get? p).bind (·.get? q) := by
  induction p generalizing root with
  | nil => rfl
  | cons name p ih =>
    simp only [List.cons_append, Node.get?]
    cases root.entries.lookup name with
    | none => rfl
    | some child => exact ih child

section Found

variable {root : Node} {aim : Aim} {place p : Location} {names : List OsText} {node : Node}

/-- A run along names ends at what stands at its place. -/
lemma get?_of_descend (h : descend root aim place names = .arrived (.found p node)) :
    root.get? p = some node := by
  fun_induction descend root aim place names with
  | case1 place child hget =>
    cases h
    exact hget
  | case3 _ _ _ _ _ _ ih => exact ih h
  | case4 _ _ _ _ _ ih => exact ih h
  | case9 place name rest entries hget _ _ _ _ target hlookup =>
    cases h
    rw [Node.get?_append, hget]
    simp [Node.get?, Node.entries, hlookup]
  | case11 _ _ _ _ _ _ _ _ _ _ _ _ ih => exact ih h
  | _ => cases h

/-- A run that ends at nothing ends in a directory that has no entry of the last name. -/
lemma get?_of_descend_absent (h : descend root aim place names = .arrived (.absent p)) :
    ∃ dir name entries, p = dir ++ [name] ∧ root.get? dir = some (.dir entries) ∧
      entries.lookup name = none := by
  fun_induction descend root aim place names with
  | case3 _ _ _ _ _ _ ih => exact ih h
  | case4 _ _ _ _ _ ih => exact ih h
  | case7 place name rest entries hget _ _ _ _ hlookup =>
    cases h
    exact ⟨place, name, entries, rfl, hget, hlookup⟩
  | case11 _ _ _ _ _ _ _ _ _ _ _ _ ih => exact ih h
  | _ => cases h

lemma get?_of_lookUp {links : Nat} (h : lookUp root aim links place names = .ok (.found p node)) :
    root.get? p = some node := by
  fun_induction lookUp root aim links place names with
  | case1 _ _ _ _ hdescend =>
    cases h
    exact get?_of_descend hdescend
  | case5 _ _ _ _ _ _ _ _ _ ih => exact ih h
  | _ => cases h

lemma get?_of_lookUp_absent {links : Nat}
    (h : lookUp root aim links place names = .ok (.absent p)) :
    ∃ dir name entries, p = dir ++ [name] ∧ root.get? dir = some (.dir entries) ∧
      entries.lookup name = none := by
  fun_induction lookUp root aim links place names with
  | case1 _ _ _ _ hdescend =>
    cases h
    exact get?_of_descend_absent hdescend
  | case5 _ _ _ _ _ _ _ _ _ ih => exact ih h
  | _ => cases h

end Found

/-! ## With and without the last link -/

section Entry

variable {root : Node} {place p : Location} {names : List OsText} {node : Node}

/-- A run that does not follow the last name ends at a link, or goes as one that does. -/
lemma descend_entry (root : Node) (place : Location) (names : List OsText) :
    (∃ q target, descend root .entry place names = .arrived (.found q (.link target))) ∨
      descend root .entry place names = descend root .follow place names := by
  induction names generalizing place with
  | nil => exact .inr rfl
  | cons name rest ih =>
    simp only [descend, reduceCtorEq, decide_false, Bool.false_and, Bool.false_eq_true, if_false]
    cases root.get? place with
    | none => exact .inr rfl
    | some node =>
      cases node with
      | dir entries =>
        dsimp only
        -- all names but the last are treated alike, and so is a last name that is no link
        by_cases hidle : (name = .empty || name = Path.hereName) = true
        · simpa only [if_pos hidle] using ih place
        by_cases hup : name = Path.upName
        · simpa only [if_neg hidle, if_pos hup] using ih place.dropLast
        by_cases hlimit : nameLimit < name.length
        · exact .inr (by simp only [if_neg hidle, if_neg hup, if_pos hlimit])
        simp only [if_neg hidle, if_neg hup, if_neg hlimit]
        cases entries.lookup name with
        | none => exact .inr rfl
        | some child =>
          cases child with
          | link target =>
            cases rest with
            | nil => exact .inl ⟨_, _, rfl⟩
            | cons next rest => exact .inr rfl
          | _ => exact ih (place ++ [name])
      | _ => exact .inr rfl

/-- Where a look-up finds something, one that does not follow the last name finds a link or the
same. -/
lemma lookUp_entry {links : Nat} (h : lookUp root .follow links place names = .ok (.found p node)) :
    (∃ q target, lookUp root .entry links place names = .ok (.found q (.link target))) ∨
      lookUp root .entry links place names = .ok (.found p node) := by
  fun_induction lookUp root .follow links place names with
  | case1 links place names stop hstop =>
    rcases descend_entry root place names with ⟨q, target, hlink⟩ | hsame
    · exact .inl ⟨q, target, by rw [lookUp, hlink]⟩
    · right
      rw [lookUp, hsame, hstop]
      exact h
  | case5 place names base target rest hjump links htarget start ih =>
    rcases descend_entry root place names with ⟨q, target, hlink⟩ | hsame
    · exact .inl ⟨q, target, by rw [lookUp, hlink]⟩
    · rw [lookUp, hsame, hjump]
      simpa only [if_neg htarget] using ih h
  | _ => cases h

end Entry

namespace FileTree

variable {t t' : FileTree} {path : OsText}

lemma find_eq_ok_iff {aim : Aim} {place : Location} {node : Node} :
    t.find aim path = .ok (place, node) ↔ t.locate aim path = .ok (.found place node) := by
  unfold find
  split <;> simp_all

/-- A path is looked up from the root or from the working directory. -/
lemma exists_lookUp_of_locateNames {aim : Aim} {names : List OsText} {p : Place}
    (h : t.locateNames aim path names = .ok p) :
    ∃ start, lookUp t.root aim 40 start names = .ok p := by
  unfold locateNames at h
  split_ifs at h
  · exact ⟨_, h⟩
  · exact ⟨_, h⟩

lemma get?_of_find {aim : Aim} {place : Location} {node : Node}
    (h : t.find aim path = .ok (place, node)) : t.root.get? place = some node := by
  obtain ⟨start, hlookUp⟩ := exists_lookUp_of_locateNames (find_eq_ok_iff.1 h)
  exact get?_of_lookUp hlookUp

lemma contains_of_find {place : Location} {node : Node}
    (h : t.find .follow path = .ok (place, node)) : t.contains path = true := by
  rw [contains, stat, h]
  rfl

/-- What is found at a path is what stands there, or a link stands there. -/
lemma find_entry {place : Location} {node : Node} (h : t.find .follow path = .ok (place, node)) :
    (∃ q target, t.find .entry path = .ok (q, .link target)) ∨
      t.find .entry path = .ok (place, node) := by
  simp only [find_eq_ok_iff, locate, locateNames] at h ⊢
  split_ifs at h ⊢
  all_goals exact lookUp_entry h

end FileTree

end Critique
