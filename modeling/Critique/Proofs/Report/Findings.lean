import Critique.Report
import Mathlib.Data.List.Induction
import Mathlib.Data.List.Nodup

/-!
# Which findings layering keeps

`Report.merge` adds issues and suggestions through one function, `appendNew`: an incoming element
is appended unless an element with its key is there already.  The list that is searched grows while
the incoming one is read, so a repetition inside one incoming report, one across two reports and
one against the first report are a single case.  What the first report repeats is not looked at.

`NewPart key held incoming added` says which part of `incoming` is new over `held`: a selection in
order that consists of the first element of each key that is not held.  The main statement
`Report.foldl_merge_newPart` says that a run of any number of merges appends exactly the new part
of all that was merged.  It rests on two facts: such a run is one `appendNew` over the
concatenation (`foldl_merge_appendNew`), and one `appendNew` adds the new part
(`exists_newPart_appendNew`).

The same analysis gives the algebra of `appendNew`: its keys (`mem_keys_appendNew`), what it leaves
alone (`appendNew_of_covered`), and that it is associative although it treats its two arguments
differently (`appendNew_assoc`).
-/

namespace Critique

variable {α κ : Type} [DecidableEq κ] {key : α → κ}

/-! ## One element at a time -/

@[simp] lemma appendNew_nil (held : List α) : appendNew key held [] = held := rfl

/-- Reading two lists one after the other is reading their concatenation. -/
lemma appendNew_append (held new₁ new₂ : List α) :
    appendNew key held (new₁ ++ new₂) = appendNew key (appendNew key held new₁) new₂ := by
  simp only [appendNew, List.foldl_append]

lemma any_key_iff (held : List α) (k : κ) :
    held.any (fun h => key h = k) = true ↔ k ∈ held.map key := by
  rw [List.any_eq_true, List.mem_map]
  simp only [decide_eq_true_eq]

/-- One step: an element whose key is held is dropped, any other goes to the end. -/
lemma appendNew_singleton (held : List α) (x : α) :
    appendNew key held [x] = if key x ∈ held.map key then held else held ++ [x] := by
  simp only [appendNew, List.foldl_cons, List.foldl_nil, any_key_iff]

lemma appendNew_singleton_of_mem {held : List α} {x : α} (h : key x ∈ held.map key) :
    appendNew key held [x] = held := by
  rw [appendNew_singleton, if_pos h]

lemma appendNew_singleton_of_notMem {held : List α} {x : α} (h : key x ∉ held.map key) :
    appendNew key held [x] = held ++ [x] := by
  rw [appendNew_singleton, if_neg h]

/-! ## The new part of a list -/

/-- The part `added` of `incoming` that is new over `held`: `fresh` and `covers` say which keys it
has, `first` which element stands for a key, `sublist` and `distinct` in which order they stand and
that none stands there twice. -/
structure NewPart (key : α → κ) (held incoming added : List α) : Prop where
  /-- It is a selection of what comes in, in order. -/
  sublist : added.Sublist incoming
  /-- None of its keys is held. -/
  fresh : ∀ x ∈ added, ∀ h ∈ held, key x ≠ key h
  /-- No two of its elements have the same key. -/
  distinct : added.Pairwise (fun x y => key x ≠ key y)
  /-- Every key that comes in is there at the end. -/
  covers : ∀ x ∈ incoming, ∃ y ∈ held ++ added, key y = key x
  /-- Each of its elements is the first of its key among what comes in. -/
  first : ∀ x ∈ added, incoming.find? (fun y => key y = key x) = some x

namespace NewPart

variable {held incoming added : List α} {x : α}

lemma nil (key : α → κ) (held : List α) : NewPart key held [] [] where
  sublist := List.Sublist.refl _
  fresh := by simp
  distinct := List.Pairwise.nil
  covers := by simp
  first := by simp

/-- Nothing that comes in has a key that is neither held nor added. -/
lemma key_notMem_incoming (h : NewPart key held incoming added)
    (hx : key x ∉ (held ++ added).map key) : ∀ y ∈ incoming, key y ≠ key x := by
  intro y hy hyx
  obtain ⟨z, hz, hzy⟩ := h.covers y hy
  exact hx (List.mem_map.2 ⟨z, hz, hzy.trans hyx⟩)

/-- One more element whose key is held or added does not change the new part. -/
lemma concat_of_mem (h : NewPart key held incoming added)
    (hx : key x ∈ (held ++ added).map key) : NewPart key held (incoming ++ [x]) added where
  sublist := h.sublist.trans (List.sublist_append_left _ _)
  fresh := h.fresh
  distinct := h.distinct
  covers := by
    intro y hy
    rcases List.mem_append.1 hy with hy | hy
    · exact h.covers y hy
    · rw [List.mem_singleton.1 hy]
      exact List.mem_map.1 hx
  first := by
    intro y hy
    rw [List.find?_append, h.first y hy, Option.some_or]

/-- One more element whose key is neither held nor added is the new part's last element. -/
lemma concat_of_notMem (h : NewPart key held incoming added)
    (hx : key x ∉ (held ++ added).map key) :
    NewPart key held (incoming ++ [x]) (added ++ [x]) where
  sublist := h.sublist.append (List.Sublist.refl _)
  fresh := by
    intro y hy z hz hyz
    rcases List.mem_append.1 hy with hy | hy
    · exact h.fresh y hy z hz hyz
    · rw [List.mem_singleton.1 hy] at hyz
      exact hx (List.mem_map.2 ⟨z, List.mem_append_left _ hz, hyz.symm⟩)
  distinct := by
    refine List.pairwise_append.2 ⟨h.distinct, List.pairwise_singleton _ _, ?_⟩
    intro y hy z hz hyz
    rw [List.mem_singleton.1 hz] at hyz
    exact hx (List.mem_map.2 ⟨y, List.mem_append_right _ hy, hyz⟩)
  covers := by
    intro y hy
    rcases List.mem_append.1 hy with hy | hy
    · obtain ⟨z, hz, hzy⟩ := h.covers y hy
      exact ⟨z, by simpa using (List.mem_append.1 hz).imp_right Or.inl, hzy⟩
    · rw [List.mem_singleton.1 hy]
      exact ⟨x, by simp, rfl⟩
  first := by
    intro y hy
    rcases List.mem_append.1 hy with hy | hy
    · rw [List.find?_append, h.first y hy, Option.some_or]
    · rw [List.mem_singleton.1 hy]
      -- `x` is found only at the end, since its key did not come in before.
      have hnone : incoming.find? (fun z => key z = key x) = none :=
        List.find?_eq_none.2 fun z hz => by simpa using h.key_notMem_incoming hx z hz
      rw [List.find?_append, hnone, Option.none_or]
      simp

end NewPart

/-- **One append adds the new part.**  The induction is on the end of what comes in, where the step
sees everything that was added before. -/
lemma exists_newPart_appendNew (key : α → κ) (held new : List α) :
    ∃ added, appendNew key held new = held ++ added ∧ NewPart key held new added := by
  induction new using List.reverseRecOn with
  | nil => exact ⟨[], by simp, .nil key held⟩
  | append_singleton new x ih =>
    obtain ⟨added, heq, hnew⟩ := ih
    rw [appendNew_append, heq]
    by_cases hx : key x ∈ (held ++ added).map key
    · exact ⟨added, appendNew_singleton_of_mem hx, hnew.concat_of_mem hx⟩
    · refine ⟨added ++ [x], ?_, hnew.concat_of_notMem hx⟩
      rw [appendNew_singleton_of_notMem hx, List.append_assoc]

/-! ## The algebra of `appendNew` -/

/-- What is held stays as it is and comes first. -/
lemma isPrefix_appendNew (held new : List α) : held <+: appendNew key held new := by
  obtain ⟨added, heq, -⟩ := exists_newPart_appendNew key held new
  exact ⟨added, heq.symm⟩

/-- The keys afterwards are those that were held and those that came in. -/
lemma mem_keys_appendNew (held new : List α) (k : κ) :
    k ∈ (appendNew key held new).map key ↔ k ∈ held.map key ∨ k ∈ new.map key := by
  obtain ⟨added, heq, hnew⟩ := exists_newPart_appendNew key held new
  rw [heq, List.map_append, List.mem_append]
  constructor
  · rintro (hk | hk)
    · exact Or.inl hk
    · exact Or.inr ((hnew.sublist.map key).subset hk)
  · rintro (hk | hk)
    · exact Or.inl hk
    · obtain ⟨x, hx, rfl⟩ := List.mem_map.1 hk
      obtain ⟨y, hy, hyx⟩ := hnew.covers x hx
      rw [← List.mem_append, ← List.map_append]
      exact List.mem_map.2 ⟨y, hy, hyx⟩

/-- Nothing is added when all keys are held. -/
lemma appendNew_of_covered {held new : List α} (h : ∀ x ∈ new, key x ∈ held.map key) :
    appendNew key held new = held := by
  induction new with
  | nil => rfl
  | cons x xs ih =>
    rw [← List.singleton_append, appendNew_append,
      appendNew_singleton_of_mem (h x List.mem_cons_self)]
    exact ih fun y hy => h y (List.mem_cons_of_mem _ hy)

/-- Reading a list a second time adds nothing. -/
lemma appendNew_appendNew_self (held new : List α) :
    appendNew key (appendNew key held new) new = appendNew key held new := by
  apply appendNew_of_covered
  intro x hx
  exact (mem_keys_appendNew held new _).2 (Or.inr (List.mem_map_of_mem hx))

/-- **Associativity.**  On the left `mid` loses its repetitions before `new` is read, on the right
`new` loses what `mid` has before both are read; either way the keys that were seen before an
element of `new` are the same. -/
lemma appendNew_assoc (held mid new : List α) :
    appendNew key (appendNew key held mid) new = appendNew key held (appendNew key mid new) := by
  induction new using List.reverseRecOn with
  | nil => rfl
  | append_singleton new x ih =>
    rw [appendNew_append, appendNew_append mid, ih]
    by_cases hx : key x ∈ (appendNew key mid new).map key
    · have hall : key x ∈ (appendNew key held (appendNew key mid new)).map key :=
        (mem_keys_appendNew _ _ _).2 (Or.inr hx)
      rw [appendNew_singleton_of_mem hx, appendNew_singleton_of_mem hall]
    · rw [appendNew_singleton_of_notMem hx, appendNew_append]

/-! ## Runs of merges -/

namespace Report

/-- A run of merges reads the findings of all merged reports one after another, whichever list of
findings one looks at. -/
lemma foldl_merge_appendNew (key : α → κ) (findings : Report → List α)
    (hmerge : ∀ a b : Report, findings (a.merge b) = appendNew key (findings a) (findings b))
    (r₀ : Report) (rs : List Report) :
    findings (rs.foldl merge r₀) = appendNew key (findings r₀) (rs.flatMap findings) := by
  induction rs generalizing r₀ with
  | nil => rfl
  | cons r rs ih =>
    rw [List.foldl_cons, ih, hmerge, List.flatMap_cons, appendNew_append]

/-- **What a run of merges adds.**  Whatever reports are layered over a first one, in whatever
number, its issues and its suggestions stay in front, repetitions included, and behind them stands
the new part of all that was layered: the first finding of each key that the first report does not
have, with the severity or the sample of that occurrence. -/
theorem foldl_merge_newPart (r₀ : Report) (rs : List Report) :
    (∃ added, (rs.foldl merge r₀).issues = r₀.issues ++ added ∧
      NewPart Issue.key r₀.issues (rs.flatMap (·.issues)) added) ∧
    ∃ added, (rs.foldl merge r₀).suggestions = r₀.suggestions ++ added ∧
      NewPart Suggestion.key r₀.suggestions (rs.flatMap (·.suggestions)) added := by
  constructor
  · rw [foldl_merge_appendNew Issue.key issues (fun _ _ => rfl)]
    exact exists_newPart_appendNew Issue.key _ _
  · rw [foldl_merge_appendNew Suggestion.key suggestions (fun _ _ => rfl)]
    exact exists_newPart_appendNew Suggestion.key _ _

-- A repetition in the first report stays; of the three issues about line 2 the first one counts,
-- with its severity.
example :
    (List.foldl merge { issues := [⟨.style, "m", 1, .low⟩, ⟨.style, "m", 1, .low⟩] }
      [{ issues := [⟨.style, "m", 2, .high⟩, ⟨.style, "m", 1, .high⟩, ⟨.style, "m", 2, .medium⟩] },
        { issues := [⟨.style, "m", 2, .low⟩, ⟨.other, "m", 2, .low⟩] }]).issues =
      [⟨.style, "m", 1, .low⟩, ⟨.style, "m", 1, .low⟩, ⟨.style, "m", 2, .high⟩,
        ⟨.other, "m", 2, .low⟩] := by
  decide

end Report

end Critique
