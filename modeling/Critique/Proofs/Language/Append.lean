import Critique.Proofs.Language.JavaScript
import Critique.Proofs.Language.Python
import Critique.Proofs.Text.Segment
import Critique.Proofs.Token.Join

/-!
# Features of texts put together

When a text ends a line, the features of that text followed by another come from the features of
the two: lengths, lines and counts are added, tokens stand one after the other, and a flag is on
when it is on for one of them.  One flag is different.  The blanks between a colon and the word
behind it may be line feeds, so that an annotation of JavaScript can begin in the first text and end
in the second; the flag for it is on when it is on for one of the two, but not only then.

`Joined` says this for one feature, whatever its kind, and is proved for all names of a bundle at
once (`Python.joined_extract`, `JavaScript.joined_extract`), so that a feature that no text of a
language has is covered as well.
-/

namespace Critique

open Text

/-! ## Features of one name -/

/-- How a feature of two texts together comes from the same feature of each: none of the three texts
has it, or it is a count and the counts are added, or it is a flag and the flags are related. -/
inductive Joined (flags : Bool → Bool → Bool → Prop) :
    Option FeatureValue → Option FeatureValue → Option FeatureValue → Prop where
  | absent : Joined flags none none none
  | count (m n : ℕ) :
      Joined flags (some (.count m)) (some (.count n)) (some (.count (m + n)))
  | flag {p q r : Bool} (h : flags p q r) :
      Joined flags (some (.flag p)) (some (.flag q)) (some (.flag r))

/-- The flag is on for the whole exactly when it is on for one of the parts. -/
def FlagOr (p q r : Bool) : Prop :=
  r = (p || q)

/-- The flag is on for the whole when it is on for one of the parts, and perhaps otherwise. -/
def FlagKept (p q r : Bool) : Prop :=
  p = true ∨ q = true → r = true

section Joined

variable {flags : Bool → Bool → Bool → Prop} {first second whole : FeatureSet} {name : String}

lemma Joined.count_eq (h : Joined flags (first.get? name) (second.get? name) (whole.get? name)) :
    whole.count name = first.count name + second.count name := by
  unfold FeatureSet.count
  generalize first.get? name = x, second.get? name = y, whole.get? name = z at h ⊢
  cases h with
  | absent => rfl
  | count m n => rfl
  | flag h => rfl

lemma Joined.flag_eq (h : Joined FlagOr (first.get? name) (second.get? name) (whole.get? name)) :
    whole.flag name = (first.flag name || second.flag name) := by
  unfold FeatureSet.flag
  generalize first.get? name = x, second.get? name = y, whole.get? name = z at h ⊢
  cases h with
  | absent => rfl
  | count m n => rfl
  | flag h => exact h

lemma Joined.flagKept {x y z : Option FeatureValue} (h : Joined FlagOr x y z) :
    Joined FlagKept x y z := by
  cases h with
  | absent => exact .absent
  | count m n => exact .count m n
  | flag h => exact .flag fun hon => by rw [h, Bool.or_eq_true]; exact hon

lemma Joined.flag_of_or (h : Joined FlagKept (first.get? name) (second.get? name) (whole.get? name))
    (hon : first.flag name = true ∨ second.flag name = true) : whole.flag name = true := by
  unfold FeatureSet.flag at hon ⊢
  generalize first.get? name = x, second.get? name = y, whole.get? name = z at h hon ⊢
  cases h with
  | absent => simp at hon
  | count m n => simp [FeatureValue.asFlag?] at hon
  | flag h => exact h hon

end Joined

/-! ## Features of a language -/

namespace JavaScript

/-- An annotation of one part is one of the whole, wherever the whole is cut. -/
lemma hasTypes_append_of_or {a b : List Char} (hon : hasTypes a = true ∨ hasTypes b = true) :
    hasTypes (a ++ b) = true := by
  simp only [hasTypes_iff] at hon ⊢
  rcases hon with ⟨before, blanks, c, after, rfl, hblanks, hc⟩ |
    ⟨before, blanks, c, after, rfl, hblanks, hc⟩
  · exact ⟨before, blanks, c, after ++ b, by simp, hblanks, hc⟩
  · exact ⟨a ++ before, blanks, c, after, by simp, hblanks, hc⟩

lemma joined_extract_hasTypes (a b : List Char) :
    Joined FlagKept ((extract a).get? "has_types") ((extract b).get? "has_types")
      ((extract (a ++ b)).get? "has_types") := by
  have hget : ∀ text, (extract text).get? "has_types" = some (.flag (hasTypes text)) := by
    intro text
    simp [extract, Table.ofList, Table.insertAll]
  rw [hget, hget, hget]
  exact .flag hasTypes_append_of_or

end JavaScript

section Languages

variable {a : List Char} (h : EndsLine a) (b : List Char)

include h

namespace Python

lemma hasTypeHints_append : hasTypeHints (a ++ b) = (hasTypeHints a || hasTypeHints b) := by
  rw [hasTypeHints_eq_any_lines, h.lines_append, List.any_append, ← hasTypeHints_eq_any_lines,
    ← hasTypeHints_eq_any_lines]

lemma hasDocstrings_append : hasDocstrings (a ++ b) = (hasDocstrings a || hasDocstrings b) := by
  rw [hasDocstrings, h.contains_append (by decide) (by decide) (by decide),
    h.contains_append (by decide) (by decide) (by decide), hasDocstrings, hasDocstrings]
  ac_rfl

lemma joined_extract (name : String) :
    Joined FlagOr ((extract a).get? name) ((extract b).get? name)
      ((extract (a ++ b)).get? name) := by
  have hdef := h.countDelimited_append (show "def".toList ≠ [] by decide) (by decide) b
  have hclass := h.countDelimited_append (show "class".toList ≠ [] by decide) (by decide) b
  -- one case for each feature, and one for all other names
  simp only [extract, Table.ofList, Table.insertAll, List.foldl, Table.get?_insert,
    Table.get?_empty, hasTypeHints_append h, hasDocstrings_append h, hdef, hclass]
  split_ifs
  · exact .count _ _
  · exact .count _ _
  · exact .flag rfl
  · exact .flag rfl
  · exact .absent

end Python

namespace JavaScript

lemma countFunctions_append :
    countFunctions (a ++ b) = countFunctions a + countFunctions b := by
  rw [countFunctions, h.countDelimited_append (by decide) (by decide),
    h.countSign_append (by decide) (by decide), countFunctions, countFunctions]
  omega

lemma usesAsync_append : usesAsync (a ++ b) = (usesAsync a || usesAsync b) := by
  rw [usesAsync, h.countDelimited_append (by decide) (by decide), usesAsync, usesAsync,
    Bool.eq_iff_iff, Bool.or_eq_true, decide_eq_true_iff, decide_eq_true_iff, decide_eq_true_iff]
  omega

lemma joined_extract {name : String} (hname : name ≠ "has_types") :
    Joined FlagOr ((extract a).get? name) ((extract b).get? name)
      ((extract (a ++ b)).get? name) := by
  have hclass := h.countDelimited_append (show "class".toList ≠ [] by decide) (by decide) b
  simp only [extract, Table.ofList, Table.insertAll, List.foldl, Table.get?_insert,
    Table.get?_empty, if_neg hname, countFunctions_append h, usesAsync_append h, hclass]
  split_ifs
  · exact .flag rfl
  · exact .count _ _
  · exact .count _ _
  · exact .absent

end JavaScript

/-- No run of word characters goes on behind a line feed. -/
lemma not_meetInRun : ¬ MeetInRun a b := by
  rintro ⟨⟨c, hc, hplain⟩, -⟩
  rcases h with rfl | hfeed
  · simp at hc
  · obtain rfl : c = '\n' := Option.some.inj (hc.symm.trans hfeed)
    exact absurd hplain (by decide)

end Languages

/-! ## Features of a text -/

/-- What holds of every bundle holds of the features of every language; a language without a bundle
adds none. -/
lemma joined_extractFeatures {flags : Bool → Bool → Bool → Prop} {a b name : String}
    (h : ∀ bundle ∈ bundles, Joined flags ((bundle.extract a.toList).get? name)
      ((bundle.extract b.toList).get? name) ((bundle.extract (a.toList ++ b.toList)).get? name))
    (language : String) :
    Joined flags ((extractFeatures a language).get? name) ((extractFeatures b language).get? name)
      ((extractFeatures (a ++ b) language).get? name) := by
  cases hb : bundleFor? language with
  | none =>
    simp only [FeatureSet.get?, extractFeatures, hb]
    exact .absent
  | some bundle =>
    simp only [get?_extractFeatures hb, String.toList_append]
    exact h bundle (List.mem_of_find?_eq_some hb)

/-- **Features of texts put together.**  For every text that is empty or ends in a line feed, every
text behind it and every language tag, the two together have the added lengths and numbers of lines,
and the tokens of the first and then those of the second.  Of the features that the language adds,
the counts are added, and a flag is on exactly when it is on for one of the two; only the flag for
types may be on when it is on for neither.  A feature is there for the two together exactly when it
is there for each, and as a value of the same kind. -/
theorem extractFeatures_append (a b language : String) (h : EndsLine a.toList) :
    let first := extractFeatures a language
    let second := extractFeatures b language
    let whole := extractFeatures (a ++ b) language
    whole.length = first.length + second.length ∧
      whole.numLines = first.numLines + second.numLines ∧
      whole.tokens = first.tokens ++ second.tokens ∧
      (∀ name, whole.count name = first.count name + second.count name) ∧
      (∀ name, name ≠ "has_types" → whole.flag name = (first.flag name || second.flag name)) ∧
      (first.flag "has_types" = true ∨ second.flag "has_types" = true →
        whole.flag "has_types" = true) ∧
      (∀ name, name ≠ "has_types" →
        Joined FlagOr (first.get? name) (second.get? name) (whole.get? name)) ∧
      Joined FlagKept (first.get? "has_types") (second.get? "has_types")
        (whole.get? "has_types") := by
  -- the bundles differ only in the flag for types, which is kept but not exact
  have hjoined : ∀ {name}, name ≠ "has_types" → Joined FlagOr
      ((extractFeatures a language).get? name) ((extractFeatures b language).get? name)
      ((extractFeatures (a ++ b) language).get? name) := by
    intro name hname
    refine joined_extractFeatures ?_ language
    simp only [bundles, List.forall_mem_cons]
    exact ⟨Python.joined_extract h _ name, JavaScript.joined_extract h _ hname,
      List.forall_mem_nil _⟩
  have htypes : Joined FlagKept ((extractFeatures a language).get? "has_types")
      ((extractFeatures b language).get? "has_types")
      ((extractFeatures (a ++ b) language).get? "has_types") := by
    refine joined_extractFeatures ?_ language
    simp only [bundles, List.forall_mem_cons]
    exact ⟨(Python.joined_extract h _ "has_types").flagKept,
      JavaScript.joined_extract_hasTypes _ _, List.forall_mem_nil _⟩
  refine ⟨?_, ?_, ?_, fun name => ?_, fun name hname => (hjoined hname).flag_eq,
    htypes.flag_of_or, fun name => hjoined, htypes⟩
  · simp [extractFeatures]
  · simp only [extractFeatures, String.toList_append, h.lines_append, List.length_append]
  · simp only [extractFeatures, tokenize, String.toList_append,
      splitTokens_append (not_meetInRun h b.toList), List.map_append]
  · -- a flag counts as no number, so the exception is none for the counts
    by_cases hname : name = "has_types"
    · exact hname ▸ htypes.count_eq
    · exact (hjoined hname).count_eq

/-- An annotation that begins in the first text and ends in the second: neither has one, but the two
together do, while the arrow is counted where it stands. -/
theorem extractFeatures_append_annotation :
    let a := "let f = (x:\n"
    let b := "  number) => x"
    EndsLine a.toList ∧
      (extractFeatures a "TypeScript").flag "has_types" = false ∧
      (extractFeatures b "TypeScript").flag "has_types" = false ∧
      (extractFeatures (a ++ b) "TypeScript").flag "has_types" = true ∧
      (extractFeatures (a ++ b) "TypeScript").count "num_functions" =
        (extractFeatures a "TypeScript").count "num_functions" +
          (extractFeatures b "TypeScript").count "num_functions" ∧
      (extractFeatures (a ++ b) "TypeScript").numLines = 2 := by
  intro a b
  have hends : EndsLine a.toList := .inr (by decide +kernel)
  obtain ⟨-, hlines, -, hcount, -⟩ := extractFeatures_append a b "TypeScript" hends
  exact ⟨hends, by decide +kernel, by decide +kernel, by decide +kernel, hcount "num_functions",
    hlines.trans (by decide +kernel)⟩

end Critique
