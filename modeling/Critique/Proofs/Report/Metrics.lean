import Critique.Report
import Mathlib.Data.List.Induction
import Mathlib.Data.List.Nodup

/-!
# The names of layered metrics

Layering drops no metric: `Report.appendMetrics` puts each incoming metric behind those that are
there and only looks at its name.  A name that is taken gets `model.` in front of it, once and
without another look.

`appendMetrics_eq_append_mapIdx` says what stands at each place of the result.  The rest of the
module is about the question whether the names of the result are pairwise distinct when those of
both reports are.  They need not be: the renamed metric may meet its new name among what is there
already (`names_merge_repeat`).  `nodup_names_merge_iff` gives the exact condition, which asks only
about the names of the first report and the names that stand before the renamed metric in the
second one.
-/

namespace Critique

/-- The names of metrics, in order. -/
def Metric.names (ms : List Metric) : List String :=
  ms.map (·.name)

@[simp] lemma Metric.names_append (ms ns : List Metric) :
    names (ms ++ ns) = names ms ++ names ns := List.map_append

@[simp] lemma Metric.names_singleton (m : Metric) : names [m] = [m.name] := rfl

lemma Metric.names_isPrefix {ms ns : List Metric} (h : ms <+: ns) : names ms <+: names ns :=
  h.map _

namespace Report

open Critique.Metric (names names_append names_singleton names_isPrefix)

/-! ## The name that a metric gets -/

lemma any_name_iff (held : List Metric) (name : String) :
    held.any (·.name == name) = true ↔ name ∈ names held := by
  rw [List.any_eq_true, names, List.mem_map]
  simp only [beq_iff_eq]

/-- A metric keeps its name or gets `model.` in front of it, and which of the two is decided by the
names that are there. -/
lemma freshName_eq_ite (held : List Metric) (name : String) :
    freshName held name = if name ∈ names held then "model." ++ name else name := by
  simp only [freshName, any_name_iff]

lemma freshName_of_mem {held : List Metric} {name : String} (h : name ∈ names held) :
    freshName held name = "model." ++ name := by
  rw [freshName_eq_ite, if_pos h]

lemma freshName_of_notMem {held : List Metric} {name : String} (h : name ∉ names held) :
    freshName held name = name := by
  rw [freshName_eq_ite, if_neg h]

/-! ## One metric at a time -/

@[simp] lemma appendMetrics_nil (held : List Metric) : appendMetrics held [] = held := rfl

lemma appendMetrics_append (held new₁ new₂ : List Metric) :
    appendMetrics held (new₁ ++ new₂) = appendMetrics (appendMetrics held new₁) new₂ := by
  simp only [appendMetrics, List.foldl_append]

/-- The last metric is named after all others have been. -/
lemma appendMetrics_concat (held new : List Metric) (m : Metric) :
    appendMetrics held (new ++ [m]) =
      appendMetrics held new ++
        [{ m with name := freshName (appendMetrics held new) m.name }] := by
  rw [appendMetrics_append]
  rfl

/-- What is held stays as it is and comes first. -/
lemma isPrefix_appendMetrics (held new : List Metric) : held <+: appendMetrics held new := by
  induction new using List.reverseRecOn with
  | nil => exact List.prefix_rfl
  | append_singleton new m ih =>
    rw [appendMetrics_concat]
    exact ih.trans (List.prefix_append _ _)

/-- No metric is dropped. -/
@[simp] lemma length_appendMetrics (held new : List Metric) :
    (appendMetrics held new).length = held.length + new.length := by
  induction new using List.reverseRecOn with
  | nil => rfl
  | append_singleton new m ih =>
    rw [appendMetrics_concat, List.length_append, ih, List.length_append]
    simp only [List.length_singleton]
    omega

/-! ## What stands where -/

/-- The result up to a place is the result of reading up to there. -/
lemma take_appendMetrics (held new : List Metric) (i : ℕ) :
    (appendMetrics held new).take (held.length + i) = appendMetrics held (new.take i) := by
  by_cases hi : i ≤ new.length
  · have hlen : held.length + i = (appendMetrics held (new.take i)).length := by
      rw [length_appendMetrics, List.length_take, Nat.min_eq_left hi]
    -- what is read later does not touch what stands there already
    have hpre : appendMetrics held (new.take i) <+: appendMetrics held new := by
      conv_rhs => rw [← List.take_append_drop i new, appendMetrics_append]
      exact isPrefix_appendMetrics _ _
    rw [hlen]
    exact (List.prefix_iff_eq_take.1 hpre).symm
  · rw [List.take_of_length_le (by omega : new.length ≤ i),
      List.take_of_length_le (by rw [length_appendMetrics]; omega)]

/-- The metric that comes in at place `i` stands behind those that were held, at its own place,
under the name that it gets from all metrics before it. -/
lemma getElem?_appendMetrics (held : List Metric) {new : List Metric} {i : ℕ} {m : Metric}
    (h : new[i]? = some m) :
    (appendMetrics held new)[held.length + i]? = some
      { m with name := freshName ((appendMetrics held new).take (held.length + i)) m.name } := by
  have hi : i < new.length := (List.getElem?_eq_some_iff.1 h).1
  have hlen : held.length + i = (appendMetrics held (new.take i)).length := by
    rw [length_appendMetrics, List.length_take, Nat.min_eq_left (Nat.le_of_lt hi)]
  -- Cut the result just behind the place that is asked for.
  rw [take_appendMetrics, ← List.getElem?_take_of_lt (Nat.lt_succ_self (held.length + i)),
    Nat.succ_eq_add_one, Nat.add_assoc, take_appendMetrics, List.take_add_one, h,
    Option.toList_some, appendMetrics_concat, hlen]
  exact List.getElem?_concat_length

/-- The result is what was held, followed by one metric for each that comes in, each under the name
that it gets from all metrics before it. -/
lemma appendMetrics_eq_append_mapIdx (held new : List Metric) :
    appendMetrics held new = held ++ new.mapIdx fun i m =>
      { m with name := freshName ((appendMetrics held new).take (held.length + i)) m.name } := by
  apply List.ext_getElem?
  intro k
  by_cases hk : k < held.length
  · rw [List.getElem?_append_left hk]
    obtain ⟨added, hadded⟩ := isPrefix_appendMetrics held new
    rw [← hadded, List.getElem?_append_left hk]
  · obtain ⟨i, rfl⟩ := Nat.exists_eq_add_of_le (Nat.le_of_not_lt hk)
    rw [List.getElem?_append_right (Nat.le_add_right _ _), Nat.add_sub_cancel_left,
      List.getElem?_mapIdx]
    cases h : new[i]? with
    | none =>
      have hlen : new.length ≤ i := List.getElem?_eq_none_iff.1 h
      exact List.getElem?_eq_none_iff.2 (by rw [length_appendMetrics]; omega)
    | some m => rw [getElem?_appendMetrics held h, Option.map_some]

/-! ## Looking up a metric -/

/-- A metric that is found in a report is found in every report that starts with its metrics. -/
lemma metric?_of_isPrefix {a r : Report} (h : a.metrics <+: r.metrics) {name : String} {m : Metric}
    (hm : a.metric? name = some m) : r.metric? name = some m :=
  h.find?_eq_some hm

/-- With distinct names every metric is found under its own name. -/
lemma metric?_of_nodup {r : Report} (h : (names r.metrics).Nodup) {m : Metric}
    (hm : m ∈ r.metrics) : r.metric? m.name = some m := by
  obtain ⟨before, after, hsplit⟩ := List.append_of_mem hm
  have hbefore : before.find? (·.name == m.name) = none := by
    refine List.find?_eq_none.2 fun n hn hname => ?_
    rw [hsplit, names_append] at h
    exact (List.nodup_append.1 h).2.2 n.name (List.mem_map_of_mem hn) m.name
      (List.mem_map_of_mem List.mem_cons_self) (by simpa using hname)
  rw [metric?, hsplit, List.find?_append, hbefore, Option.none_or]
  simp

/-! ## Which names there are -/

/-- Every incoming name is a name of the result: it was there, or its metric keeps it. -/
lemma mem_names_appendMetrics {held new : List Metric} {name : String} (h : name ∈ names new) :
    name ∈ names (appendMetrics held new) := by
  induction new using List.reverseRecOn with
  | nil => exact absurd h List.not_mem_nil
  | append_singleton new m ih =>
    rw [names_append, List.mem_append, names_singleton, List.mem_singleton] at h
    rw [appendMetrics_concat, names_append, List.mem_append]
    rcases h with h | rfl
    · exact Or.inl (ih h)
    · by_cases hm : m.name ∈ names (appendMetrics held new)
      · exact Or.inl hm
      · exact Or.inr (by simp [freshName_of_notMem hm])

/-- A name of the result was held, came in, or is that of a metric that was renamed. -/
lemma of_mem_names_appendMetrics {held new : List Metric} {name : String}
    (h : name ∈ names (appendMetrics held new)) :
    name ∈ names held ∨ name ∈ names new ∨ ∃ n ∈ names new, name = "model." ++ n := by
  induction new using List.reverseRecOn with
  | nil => exact Or.inl h
  | append_singleton new m ih =>
    rw [appendMetrics_concat, names_append, List.mem_append, names_singleton,
      List.mem_singleton, freshName_eq_ite] at h
    rw [names_append, names_singleton]
    rcases h with h | h
    · rcases ih h with hheld | hnew | ⟨n, hn, hname⟩
      · exact Or.inl hheld
      · exact Or.inr (Or.inl (List.mem_append_left _ hnew))
      · exact Or.inr (Or.inr ⟨n, List.mem_append_left _ hn, hname⟩)
    · split at h
      · exact Or.inr (Or.inr ⟨m.name, by simp, h⟩)
      · exact Or.inr (Or.inl (by simp [h]))

/-! ## Distinct names -/

/-- One more metric repeats a name only when it is renamed and its new name is taken as well. -/
lemma nodup_names_concat_iff (ms : List Metric) (m : Metric) :
    (names (ms ++ [{ m with name := freshName ms m.name }])).Nodup ↔
      (names ms).Nodup ∧ (m.name ∈ names ms → "model." ++ m.name ∉ names ms) := by
  rw [names_append, names_singleton, ← List.concat_eq_append, List.nodup_concat, and_comm]
  refine and_congr_right fun _ => ?_
  by_cases hm : m.name ∈ names ms
  · simp [freshName_of_mem hm, hm]
  · simp [freshName_of_notMem hm, hm]

/-- The names of the result are distinct when no step repeats one. -/
lemma nodup_names_appendMetrics_iff {held : List Metric} (hheld : (names held).Nodup)
    (new : List Metric) :
    (names (appendMetrics held new)).Nodup ↔
      ∀ before m, before ++ [m] <+: new → m.name ∈ names (appendMetrics held before) →
        "model." ++ m.name ∉ names (appendMetrics held before) := by
  induction new using List.reverseRecOn with
  | nil => simpa using hheld
  | append_singleton new x ih =>
    rw [appendMetrics_concat, nodup_names_concat_iff, ih]
    constructor
    · rintro ⟨hold, hlast⟩ before m hpre hm
      rcases List.prefix_concat_iff.1 hpre with heq | hpre
      · obtain ⟨rfl, hmx⟩ := List.append_inj' heq rfl
        obtain rfl : m = x := by simpa using hmx
        exact hlast hm
      · exact hold before m hpre hm
    · intro h
      refine ⟨fun before m hpre => h before m (hpre.trans (List.prefix_append _ _)), ?_⟩
      exact h new x List.prefix_rfl

/-- Where a renamed metric meets its new name.  The metrics that were renamed before it are no
danger, since their own names differ from its name. -/
lemma model_name_mem_appendMetrics_iff (held : List Metric) {before : List Metric} {m : Metric}
    (hdistinct : (names (before ++ [m])).Nodup) :
    "model." ++ m.name ∈ names (appendMetrics held before) ↔
      "model." ++ m.name ∈ names held ∨ "model." ++ m.name ∈ names before := by
  constructor
  · intro h
    rcases of_mem_names_appendMetrics h with hheld | hbefore | ⟨n, hn, hname⟩
    · exact Or.inl hheld
    · exact Or.inr hbefore
    · have hmn : m.name = n := (String.append_right_inj _).1 hname
      rw [names_append, List.nodup_append] at hdistinct
      exact absurd hmn.symm (hdistinct.2.2 n hn m.name (by simp))
  · rintro (h | h)
    · exact (names_isPrefix (isPrefix_appendMetrics held before)).subset h
    · exact mem_names_appendMetrics h

/-- **When layering keeps names apart.**  If the names of each report are distinct, the names of the
result are distinct exactly when no metric of the second report whose name is taken by an earlier
metric of the result finds `model.` and its name among the names of the first report or among those
that stand before it in the second one.  Then every metric of the result is found by its name. -/
theorem nodup_names_merge_iff (a b : Report) (ha : (names a.metrics).Nodup)
    (hb : (names b.metrics).Nodup) :
    ((names (a.merge b).metrics).Nodup ↔
      ∀ before m, before ++ [m] <+: b.metrics →
        m.name ∈ names (appendMetrics a.metrics before) →
        "model." ++ m.name ∉ names a.metrics ∧ "model." ++ m.name ∉ names before) ∧
    ((names (a.merge b).metrics).Nodup →
      ∀ m ∈ (a.merge b).metrics, (a.merge b).metric? m.name = some m) := by
  refine ⟨?_, fun h m hm => metric?_of_nodup h hm⟩
  have hmerge : (a.merge b).metrics = appendMetrics a.metrics b.metrics := rfl
  rw [hmerge, nodup_names_appendMetrics_iff ha]
  refine forall₄_congr fun before m hpre _ => ?_
  have hdistinct : (names (before ++ [m])).Nodup :=
    hb.sublist (names_isPrefix hpre).sublist
  rw [model_name_mem_appendMetrics_iff a.metrics hdistinct, not_or]

/-- A metric that comes in under `model.complexity` behind a renamed one is renamed in turn, and all
names stay apart. -/
theorem names_merge_chain :
    let a : Report := { metrics := [⟨"complexity", 0.2, ""⟩] }
    let b : Report := { metrics := [⟨"complexity", 0.75, ""⟩, ⟨"model.complexity", 0.5, ""⟩] }
    (names a.metrics).Nodup ∧ (names b.metrics).Nodup ∧ (names (a.merge b).metrics).Nodup ∧
      ∀ m ∈ (a.merge b).metrics, (a.merge b).metric? m.name = some m := by
  intro a b
  have hmerge := nodup_names_merge_iff a b (by decide) (by decide)
  exact ⟨by decide, by decide, by decide, hmerge.2 (by decide)⟩

/-- **Names can repeat.**  With the same two metrics in the other order, the one that is renamed
meets its new name. -/
theorem names_merge_repeat :
    ¬ ∀ a b : Report, (names a.metrics).Nodup → (names b.metrics).Nodup →
      (names (a.merge b).metrics).Nodup := by
  intro h
  have hmerge := h { metrics := [⟨"complexity", 0.2, ""⟩] }
    { metrics := [⟨"model.complexity", 0.5, ""⟩, ⟨"complexity", 0.75, ""⟩] }
    (by decide) (by decide)
  exact absurd hmerge (by decide)

end Report

end Critique
