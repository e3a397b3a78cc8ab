import Critique.Proofs.Decimal.Order
import Critique.Proofs.Text.Utf8
import Critique.Settings

/-!
# The rules of settings

`Settings.Valid` says what is asked of settings, and `Settings.rules` lists it rule by rule, in the
order in which the rules are looked at.  The complaint about settings is that of the first rule in
the list that is broken (`Settings.violation?_eq_firstBroken?`), and there is none exactly for valid
settings.

Several rules can be broken at once, and which of them comes first depends on the weights: each
keyword has two rules, and the keywords stand in the order of their bytes.
-/

namespace Critique

open Text Decimal

/-- Something other than white space stands in the text. -/
def Text.HasContent (s : String) : Prop :=
  ∃ c ∈ s.toList, isBlank c = false

lemma not_hasContent_iff {s : String} : ¬ HasContent s ↔ isAllBlank s = true := by
  simp [HasContent, isAllBlank]

instance (s : String) : Decidable (HasContent s) :=
  decidable_of_iff (¬ isAllBlank s = true) (by rw [← not_hasContent_iff, not_not])

/-- One thing that is asked of settings, and the complaint when it is not so. -/
structure Rule where
  complaint : Violation
  Kept : Prop
  [decidableKept : Decidable Kept]

instance (r : Rule) : Decidable r.Kept := r.decidableKept

/-- The complaint about the first rule of a list that is broken. -/
def Rule.firstBroken? (rules : List Rule) : Option Violation :=
  (rules.find? fun r => ¬ r.Kept).map (·.complaint)

/-- What is asked of a weight: first of its keyword, then of the weight itself. -/
def weightRules (entry : String × Float) : List Rule := [
  ⟨.blankKeyword, HasContent entry.1⟩,
  ⟨.weight entry.1 entry.2, entry.2.isFinite = true ∧ ¬ entry.2 < 0⟩]

/-- What is asked of model settings. -/
def ModelSettings.rules (m : ModelSettings) : List Rule := [
  ⟨.blankEndpoint, HasContent m.endpoint⟩,
  ⟨.zeroTimeout, 0 < m.timeoutMs⟩]

/-- What is asked of settings, in the order in which it is looked at. -/
def Settings.rules (s : Settings) : List Rule := [
    ⟨.zeroLineLength, 0 < s.maxLineLength⟩,
    ⟨.threshold s.complexityThreshold, 0 ≤ s.complexityThreshold ∧ s.complexityThreshold ≤ 1⟩] ++
  s.weights.entries.flatMap weightRules ++ s.model.toList.flatMap ModelSettings.rules

/-- What the rules ask of settings, taken together. -/
structure Settings.Valid (s : Settings) : Prop where
  lineLength : 0 < s.maxLineLength
  threshold : 0 ≤ s.complexityThreshold ∧ s.complexityThreshold ≤ 1
  weight : ∀ entry ∈ s.weights.entries,
    HasContent entry.1 ∧ entry.2.isFinite = true ∧ ¬ entry.2 < 0
  model : ∀ m, s.model = some m → HasContent m.endpoint ∧ 0 < m.timeoutMs

/-! ## Numbers -/

section Numbers

variable {x : Float}

lemma isNaN_eq_false_of_isNumber (h : IsNumber x) : x.isNaN = false := by
  have hunpack : x.isNaN = x.toModel.unpack.isNaN := rfl
  rw [hunpack]
  cases hx : x.toModel.unpack with
  | notANumber => exact absurd hx h
  | _ => rfl

lemma isNumber_of_isFinite (h : x.isFinite = true) : IsNumber x := by
  have hunpack : x.isFinite = x.toModel.unpack.isFinite := rfl
  intro hnan
  rw [hunpack, hnan] at h
  cases h

/-- A finite number is at least zero when it is not negative. -/
lemma nonneg_iff_not_neg (h : x.isFinite = true) : 0 ≤ x ↔ ¬ x < 0 := by
  have hzero : IsNumber 0 := isNumber_of_isFinite (by decide)
  have hx := isNumber_of_isFinite h
  rw [le_iff_place, lt_iff_place]
  simp [hzero, hx]

end Numbers

/-! ## The first broken rule -/

namespace Rule

lemma firstBroken?_cons (r : Rule) (rules : List Rule) :
    firstBroken? (r :: rules) = if r.Kept then firstBroken? rules else some r.complaint := by
  by_cases h : r.Kept <;> simp [firstBroken?, h]

lemma firstBroken?_append (rules others : List Rule) :
    firstBroken? (rules ++ others) = (firstBroken? rules).or (firstBroken? others) := by
  simp only [firstBroken?, List.find?_append, Option.map_or]

lemma firstBroken?_flatMap {α : Type} (xs : List α) (f : α → List Rule) :
    firstBroken? (xs.flatMap f) = xs.findSome? fun x => firstBroken? (f x) := by
  induction xs with
  | nil => rfl
  | cons x xs ih =>
    rw [List.flatMap_cons, firstBroken?_append, ih, List.findSome?_cons]
    cases firstBroken? (f x) <;> rfl

lemma firstBroken?_eq_none_iff {rules : List Rule} :
    firstBroken? rules = none ↔ ∀ r ∈ rules, r.Kept := by
  simp [firstBroken?]

lemma firstBroken?_eq_some_iff {rules : List Rule} {v : Violation} :
    firstBroken? rules = some v ↔
      ∃ kept r rest, rules = kept ++ r :: rest ∧ (∀ q ∈ kept, q.Kept) ∧ ¬ r.Kept ∧
        r.complaint = v := by
  simp only [firstBroken?, Option.map_eq_some_iff, List.find?_eq_some_iff_append]
  constructor
  · rintro ⟨r, ⟨hr, kept, rest, hrules, hkept⟩, hv⟩
    exact ⟨kept, r, rest, hrules, by simpa using hkept, by simpa using hr, hv⟩
  · rintro ⟨kept, r, rest, hrules, hkept, hr, hv⟩
    exact ⟨r, ⟨by simpa using hr, kept, rest, hrules, by simpa using hkept⟩, hv⟩

end Rule

open Rule

lemma weightViolation?_eq_firstBroken? (entry : String × Float) :
    weightViolation? entry = firstBroken? (weightRules entry) := by
  simp only [weightViolation?, weightRules, firstBroken?_cons, ← not_hasContent_iff]
  by_cases hkeyword : HasContent entry.1
  · by_cases hfinite : entry.2.isFinite = true
    · simp [hkeyword, hfinite, nonneg_iff_not_neg hfinite, firstBroken?]
    · simp [hkeyword, hfinite]
  · simp [hkeyword]

lemma ModelSettings.violation?_eq_firstBroken? (m : ModelSettings) :
    m.violation? = firstBroken? m.rules := by
  have htimeout : 0 < m.timeoutMs ↔ ¬ m.timeoutMs = 0 := by
    rw [UInt64.pos_iff_ne_zero]
  simp only [violation?, rules, firstBroken?_cons, ← not_hasContent_iff, htimeout, ite_not]
  rfl

namespace Settings

variable {s : Settings}

/-- The complaint about settings is that of the first broken rule. -/
lemma violation?_eq_firstBroken? (s : Settings) : s.violation? = firstBroken? s.rules := by
  have hlength : 0 < s.maxLineLength ↔ ¬ s.maxLineLength = 0 := by
    rw [UInt64.pos_iff_ne_zero]
  have hweights : firstBroken? (s.weights.entries.flatMap weightRules) =
      s.weights.entries.findSome? weightViolation? := by
    rw [firstBroken?_flatMap]
    exact congrArg (List.findSome? · _) (funext fun e => (weightViolation?_eq_firstBroken? e).symm)
  have hmodel : firstBroken? (s.model.toList.flatMap ModelSettings.rules) =
      s.model.bind ModelSettings.violation? := by
    cases s.model with
    | none => rfl
    | some m =>
      rw [Option.toList_some, List.flatMap_singleton, Option.bind_some,
        m.violation?_eq_firstBroken?]
  rw [rules, List.append_assoc, List.cons_append, List.cons_append, List.nil_append,
    firstBroken?_cons, firstBroken?_cons, firstBroken?_append, hweights, hmodel]
  simp only [violation?, hlength, ite_not]
  by_cases hzero : s.maxLineLength = 0
  · simp [hzero]
  by_cases hthreshold : 0 ≤ s.complexityThreshold ∧ s.complexityThreshold ≤ 1
  · simp [hzero, hthreshold, Option.orElse_eq_or]
  · simp [hzero, hthreshold]

/-- Settings are valid when they keep all rules. -/
lemma valid_iff : s.Valid ↔ ∀ r ∈ s.rules, r.Kept := by
  simp only [rules, weightRules, ModelSettings.rules, List.forall_mem_append, List.forall_mem_cons,
    List.forall_mem_flatMap, Option.mem_toList]
  constructor
  · rintro ⟨hlength, hthreshold, hweight, hmodel⟩
    exact ⟨⟨⟨hlength, hthreshold, by simp⟩,
      fun e he => ⟨(hweight e he).1, (hweight e he).2, by simp⟩⟩,
      fun m hm => ⟨(hmodel m hm).1, (hmodel m hm).2, by simp⟩⟩
  · rintro ⟨⟨⟨hlength, hthreshold, -⟩, hweight⟩, hmodel⟩
    exact ⟨hlength, hthreshold, fun e he => ⟨(hweight e he).1, (hweight e he).2.1⟩,
      fun m hm => ⟨(hmodel m hm).1, (hmodel m hm).2.1⟩⟩

/-- Keywords stand in the order of their bytes. -/
lemma pairwise_encode_weights (s : Settings) :
    (s.weights.entries.map fun e => Utf8.encode e.1).Pairwise (· < ·) := by
  rw [List.pairwise_map]
  exact s.weights.ascending.imp Utf8.encode_lt_encode_iff.2

/-- **The complaint about settings is that of the first rule that they break.**  For all settings:

* there is no complaint exactly when the settings are valid, and then the threshold is a number;
* otherwise the complaint is that of a rule that is broken while all rules before it are kept;
* the rules about weights come in the order of the bytes of their keywords. -/
theorem violation?_first_broken (s : Settings) :
    (s.violation? = none ↔ s.Valid) ∧
    (s.Valid → s.complexityThreshold.isNaN = false) ∧
    (∀ v, s.violation? = some v ↔
      ∃ kept r rest, s.rules = kept ++ r :: rest ∧ (∀ q ∈ kept, q.Kept) ∧ ¬ r.Kept ∧
        r.complaint = v) ∧
    (s.weights.entries.map fun e => Utf8.encode e.1).Pairwise (· < ·) := by
  refine ⟨?_, ?_, ?_, pairwise_encode_weights s⟩
  · rw [violation?_eq_firstBroken?, firstBroken?_eq_none_iff, valid_iff]
  · intro h
    exact isNaN_eq_false_of_isNumber (isNumber_of_nonneg h.threshold.1)
  · intro v
    rw [violation?_eq_firstBroken?, firstBroken?_eq_some_iff]

/-- Two weights below zero, one of a blank keyword, and a model without an endpoint: the complaint
is about the keyword.  The default settings are valid. -/
theorem violation?_first_broken_keyword :
    let c : Settings := {
      weights := ⟨[(" ", -1), ("b", -1)], by decide⟩
      model := some { endpoint := "" } }
    c.violation? = some .blankKeyword ∧ Settings.default.Valid ∧
      Settings.default.complexityThreshold.isNaN = false := by
  intro c
  have hvalid : Settings.default.Valid :=
    (violation?_first_broken Settings.default).1.1 Settings.violation?_default
  obtain ⟨-, -, hfirst, -⟩ := violation?_first_broken c
  refine ⟨(hfirst .blankKeyword).2 ?_, hvalid, (violation?_first_broken _).2.1 hvalid⟩
  refine ⟨[⟨.zeroLineLength, 0 < c.maxLineLength⟩,
    ⟨.threshold c.complexityThreshold, 0 ≤ c.complexityThreshold ∧ c.complexityThreshold ≤ 1⟩],
    ⟨.blankKeyword, HasContent " "⟩, _, rfl, ?_, by decide, rfl⟩
  simp only [List.forall_mem_cons]
  exact ⟨by decide, by decide, by simp⟩

end Settings

end Critique
