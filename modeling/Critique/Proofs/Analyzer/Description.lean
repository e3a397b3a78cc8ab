import Critique.Proofs.Analyzer.Primary

/-!
# Whom the details of a composite describe

A composite tells the details of its primary analyzer as its own, and those of its secondary one
under names that start with `secondary.`.  The primary analyzer may be a composite with a secondary
one of its own, so that such names are taken already.  The name of the secondary analyzer is then
replaced, but details under taken names are not (`get?_layer_secondary`).

So the entry of a tree under `secondary.` and a name is told by the leader, if it has an entry of
that very name, or else by the innermost secondary analyzer on the way from the leader to the root
that has a detail of that name (`get?_secondary_describe`).  The entry `secondary` names the
outermost one.  They are the same analyzer only where the inner ones have no such detail.
-/

namespace Critique

/-! ## One layer -/

section Layer

variable {primary secondary : Description} {key : String}

lemma secondary_append_ne_primary (key : String) : "secondary." ++ key ≠ "primary" := by
  intro h
  have hhead := congrArg (·.toList.head?) h
  simp at hhead

lemma secondary_append_ne_secondary (key : String) : "secondary." ++ key ≠ "secondary" := by
  intro h
  have hlength := congrArg (·.toList.length) h
  simp at hlength

/-- Entries that are added under names with a prefix leave taken names as they are. -/
lemma get?_foldl_insertNew (front : String) (es : List (String × String)) (t : Table String)
    (key : String) :
    (es.foldl (fun ds (name, value) => ds.insertNew (front ++ name) value) t).get? (front ++ key) =
      (t.get? (front ++ key)).or (es.lookup key) := by
  induction es generalizing t with
  | nil => simp
  | cons e es ih =>
    obtain ⟨name, value⟩ := e
    -- the first of two entries with one name is kept, as `lookup` finds the first
    rw [List.foldl_cons, ih, Table.get?_insertNew, Table.lookup_cons_eq_ite, Option.or_assoc]
    by_cases h : key = name
    · simp [h]
    · simp [h]

/-- No entry that is added under a prefix has a name without it. -/
lemma get?_foldl_insertNew_of_ne {front : String} {es : List (String × String)} (t : Table String)
    {name : String} (h : ∀ key, front ++ key ≠ name) :
    (es.foldl (fun ds (name, value) => ds.insertNew (front ++ name) value) t).get? name =
      t.get? name := by
  induction es generalizing t with
  | nil => rfl
  | cons e es ih =>
    rw [List.foldl_cons, ih, Table.get?_insertNew, if_neg (Ne.symm (h e.1)), Option.or_none]

lemma get?_layer_none (h : key ≠ "primary") :
    (primary.layer none).details.get? key = primary.details.get? key := by
  rw [Description.layer, Table.get?_insert, if_neg h]

lemma get?_layer_primary (secondary : Option Description) :
    (primary.layer secondary).details.get? "primary" = some primary.name := by
  cases secondary with
  | none => simp [Description.layer]
  | some s =>
    rw [Description.layer, get?_foldl_insertNew_of_ne _ secondary_append_ne_primary]
    simp

lemma get?_layer_name :
    (primary.layer (some secondary)).details.get? "secondary" = some secondary.name := by
  rw [Description.layer, get?_foldl_insertNew_of_ne _ secondary_append_ne_secondary]
  simp

/-- A detail of the secondary analyzer is told unless its name is taken. -/
lemma get?_layer_secondary :
    (primary.layer (some secondary)).details.get? ("secondary." ++ key) =
      (primary.details.get? ("secondary." ++ key)).or (secondary.details.get? key) := by
  rw [Description.layer, get?_foldl_insertNew, Table.get?_insert, Table.get?_insert,
    if_neg (secondary_append_ne_secondary key), if_neg (secondary_append_ne_primary key)]
  rfl

end Layer

namespace Analyzer

/-! ## A tree -/

/-- The secondary analyzers on the way from the leader to the root, the innermost first. -/
def secondaries : Analyzer → List Analyzer
  | heuristic _ => []
  | model _ => []
  | alone primary => primary.secondaries
  | layered primary secondary => primary.secondaries ++ [secondary]

/-- What a tree tells under `secondary.` and a name: the leader comes first, and then the secondary
analyzers from the inside. -/
lemma get?_secondary_describe (a : Analyzer) (key : String) :
    a.describe.details.get? ("secondary." ++ key) =
      (a.leader.describe.details.get? ("secondary." ++ key)).or
        (a.secondaries.findSome? fun s => s.describe.details.get? key) := by
  -- along the leaders: a composite adds its secondary analyzer behind those of its primary one
  induction a with
  | heuristic settings => exact Option.or_none.symm
  | model classifier => exact Option.or_none.symm
  | alone primary ih =>
    rw [describe, get?_layer_none (secondary_append_ne_primary key)]
    exact ih
  | layered primary secondary ih _ =>
    rw [describe, get?_layer_secondary, ih, secondaries, List.findSome?_append, Option.or_assoc,
      List.findSome?_singleton]
    rfl

/-- A heuristic analyzer tells nothing about another one. -/
lemma get?_secondary_heuristic (settings : Settings) (key : String) :
    (heuristic settings).describe.details.get? ("secondary." ++ key) = none := by
  -- its own names begin with other letters
  have hne : ∀ name : String, name.toList.head? ≠ some 's' → "secondary." ++ key ≠ name := by
    rintro name hname rfl
    simp at hname
  simp only [describe, Table.ofList, Table.insertAll, List.foldl, Table.get?_insert,
    Table.get?_empty, if_neg (hne "languages" (by decide)),
    if_neg (hne "max_line_length" (by decide)), if_neg (hne "complexity_threshold" (by decide))]

/-- **Whom the details of a composite describe.**  In every tree, for every composite with a primary
and a secondary analyzer:

* `primary` and `secondary` are the names of the two;
* a detail of the secondary analyzer is told with its own value exactly when the primary one has no
  entry of that name with another value;
* under `secondary.` and a name stands the entry of the leader, or else the detail of the innermost
  secondary analyzer that has one of that name;
* so all details of the secondary analyzer are told when the leader is heuristic and the primary
  analyzer has no secondary ones, as in the analyzer of a run. -/
theorem details_of_layered (primary secondary : Analyzer) :
    let told := (layered primary secondary).describe.details
    told.get? "primary" = some primary.describe.name ∧
    told.get? "secondary" = some secondary.describe.name ∧
    (∀ key value, secondary.describe.details.get? key = some value →
      (told.get? ("secondary." ++ key) = some value ↔
        ∀ other, primary.describe.details.get? ("secondary." ++ key) = some other →
          other = value)) ∧
    (∀ key, told.get? ("secondary." ++ key) =
      (primary.leader.describe.details.get? ("secondary." ++ key)).or
        ((primary.secondaries ++ [secondary]).findSome? fun s => s.describe.details.get? key)) ∧
    ∀ settings, primary.leader = heuristic settings → primary.secondaries = [] →
      ∀ key, told.get? ("secondary." ++ key) = secondary.describe.details.get? key := by
  refine ⟨get?_layer_primary _, get?_layer_name, ?_, ?_, ?_⟩
  · intro key value hvalue
    rw [describe, get?_layer_secondary, hvalue]
    cases primary.describe.details.get? ("secondary." ++ key) with
    | none => simp
    | some other => simp
  · exact get?_secondary_describe (layered primary secondary)
  · intro settings hleader hinner key
    -- nothing stands before the details of the secondary analyzer, so each is found
    rw [get?_secondary_describe, leader, secondaries, hleader, hinner,
      get?_secondary_heuristic settings key, Option.none_or]
    simp

/-- Two composites whose secondary analyzers have different details: both are told, and the names
are those of the outer composite. -/
theorem details_of_layered_disjoint :
    let first : Classifier :=
      { name := "first", details := .ofList [("device", "cpu")],
        classify := fun _ _ => .error .timeout }
    let second : Classifier :=
      { name := "second", details := .ofList [("region", "west")],
        classify := fun _ _ => .error .timeout }
    let inner := layered (heuristic {}) (model first)
    let told := (layered inner (model second)).describe.details
    told.get? "primary" = some "codecritic-heuristics" ∧ told.get? "secondary" = some "second" ∧
      told.get? ("secondary." ++ "region") = some "west" ∧
      told.get? ("secondary." ++ "device") = some "cpu" ∧
      inner.describe.details.get? ("secondary." ++ "device") = some "cpu" := by
  intro first second inner told
  obtain ⟨hprimary, hsecondary, hown, horder, -⟩ := details_of_layered inner (model second)
  obtain ⟨-, -, -, -, hall⟩ := details_of_layered (heuristic {}) (model first)
  have hfree : inner.describe.details.get? ("secondary." ++ "region") = none := by
    rw [hall {} rfl rfl "region"]
    decide +kernel
  refine ⟨hprimary, hsecondary, ?_, ?_, ?_⟩
  · exact (hown "region" "west" (by decide +kernel)).2 fun other hother => by
      rw [hfree] at hother
      cases hother
  · rw [horder "device"]
    decide +kernel
  · rw [hall {} rfl rfl "device"]
    decide +kernel

/-- When the secondary analyzers of two composites have a detail of the same name, the outer
composite names the one and tells the detail of the other. -/
theorem details_of_layered_mixed :
    let first : Classifier :=
      { name := "first", details := .ofList [("device", "cpu")],
        classify := fun _ _ => .error .timeout }
    let second : Classifier :=
      { name := "second", details := .ofList [("device", "gpu")],
        classify := fun _ _ => .error .timeout }
    let told := (layered (layered (heuristic {}) (model first)) (model second)).describe.details
    told.get? "secondary" = some (model second).describe.name ∧
      (model second).describe.details.get? "device" = some "gpu" ∧
      told.get? ("secondary." ++ "device") = some "cpu" ∧
      ¬ ∀ (primary secondary : Analyzer) (key value : String),
        secondary.describe.details.get? key = some value →
          (layered primary secondary).describe.details.get? ("secondary." ++ key) = some value := by
  intro first second told
  have hcpu : told.get? ("secondary." ++ "device") = some "cpu" := by decide +kernel
  have hgpu : (model second).describe.details.get? "device" = some "gpu" := by decide +kernel
  refine ⟨by decide +kernel, hgpu, hcpu, fun hright => ?_⟩
  have h := hright (layered (heuristic {}) (model first)) (model second) "device" "gpu" hgpu
  rw [hcpu] at h
  exact absurd h (by decide)

end Analyzer

end Critique
