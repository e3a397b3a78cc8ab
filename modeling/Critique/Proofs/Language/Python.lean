import Critique.Proofs.Review.LineEnding
import Critique.Proofs.Text.Line
import Critique.Proofs.Text.Pattern

/-!
# Type hints of a Python text

A text has type hints when a function header with an annotated parameter stands in it.  There are
three ways to say what such a header is, and this module says that they agree.

* `hasTypeHints` reads the name and the parameters up to the first character that does not belong to
  them, and asks whether that is the right parenthesis.
* `IsAnnotatedHeader` says what a header is made of.
* `header` is the pattern `def \w+\([^)\n]*: \w+[^)\n]*\)`, which divides the parameters in some way
  around an annotation.

The first two agree because a run of characters that is followed by a character of another kind is
the longest run (`exists_run_iff`).  The third divides the parameters in more detail than the second,
but what stands between the parentheses is the same.

A header lies inside a line, so a text has type hints when one of its lines does.
-/

namespace Critique.Python

open Text

/-! ## Headers -/

/-- A function header with an annotated parameter: `def`, a space, a name, and in parentheses, on one
line, parameters among which there is a colon, a space and the beginning of a word. -/
def IsAnnotatedHeader (part : List Char) : Prop :=
  ∃ name inner, part = "def ".toList ++ name ++ '(' :: inner ++ [')'] ∧
    (name ≠ [] ∧ ∀ c ∈ name, isWord c = true) ∧ (∀ c ∈ inner, c ≠ ')' ∧ c ≠ '\n') ∧
    ∃ x c y, inner = x ++ [':', ' ', c] ++ y ∧ isWord c = true

/-- A character that may stand between the parentheses of a header. -/
def isInner (c : Char) : Bool :=
  c != ')' && c != '\n'

/-- The pattern `def \w+\([^)\n]*: \w+[^)\n]*\)`. -/
def header : Pattern :=
  .seq (.text "def ".toList) <| .seq (.some isWord) <| .seq (.text ['(']) <|
    .seq (.many isInner) <| .seq (.text [':', ' ']) <| .seq (.some isWord) <|
    .seq (.many isInner) (.text [')'])

lemma isInner_iff {c : Char} : isInner c = true ↔ c ≠ ')' ∧ c ≠ '\n' := by
  simp [isInner]

lemma isInner_of_isWord {c : Char} (h : isWord c = true) : isInner c = true := by
  rw [isInner_iff]
  refine ⟨?_, ?_⟩
  · rintro rfl
    exact absurd h (by decide)
  · rintro rfl
    exact absurd h (by decide)

/-- The pattern divides the parameters around one annotation; any division gives a header. -/
lemma matches_header_iff {before part after : List Char} :
    header.Matches before part after ↔ IsAnnotatedHeader part := by
  constructor
  · rintro ⟨_, _, rfl, rfl, name, _, rfl, hname, _, _, rfl, rfl, x, _, rfl, hx, _, _, rfl, rfl,
      type, _, rfl, htype, y, _, rfl, hy, rfl⟩
    obtain ⟨hne, hword⟩ := Pattern.matches_some_iff.1 htype
    obtain ⟨c, type, rfl⟩ := List.exists_cons_of_ne_nil hne
    obtain ⟨hc, htype⟩ := List.forall_mem_cons.1 hword
    refine ⟨name, x ++ [':', ' ', c] ++ (type ++ y), by simp, Pattern.matches_some_iff.1 hname, ?_,
      x, c, type ++ y, rfl, hc⟩
    -- the word of the annotation and what stands around it are all inside the parentheses
    have hinner : ∀ d ∈ x ++ [':', ' ', c] ++ (type ++ y), isInner d = true := by
      simp only [List.mem_append, List.mem_cons, List.not_mem_nil, or_false]
      rintro d ((hd | rfl | rfl | rfl) | hd | hd)
      · exact hx d hd
      · decide
      · decide
      · exact isInner_of_isWord hc
      · exact isInner_of_isWord (htype d hd)
      · exact hy d hd
    exact fun d hd => isInner_iff.1 (hinner d hd)
  · rintro ⟨name, _, rfl, hname, hinner, x, c, y, rfl, hc⟩
    have hinner' : ∀ d ∈ x ++ [':', ' ', c] ++ y, isInner d = true := fun d hd =>
      isInner_iff.2 (hinner d hd)
    -- the pattern may take one character as the word and leave the rest to what follows
    refine ⟨_, _, by simp only [List.append_assoc]; rfl, rfl, name, _, rfl,
      Pattern.matches_some_iff.2 hname, ['('], _, rfl, rfl, x, _, by simp; rfl, ?_, [':', ' '],
      c :: (y ++ [')']), by simp, rfl, [c], y ++ [')'], rfl,
      Pattern.matches_some_iff.2 ⟨List.cons_ne_nil c [], by simpa using hc⟩, y, [')'], rfl, ?_, rfl⟩
    · exact fun d hd => hinner' d (by simp [hd])
    · exact fun d hd => hinner' d (by simp [hd])

/-! ## Reading a header -/

/-- A run of a class, with something of another class behind it, is the longest run of the class at
the start of the text. -/
lemma exists_run_iff {k : Char → Bool} {d : Char} (hd : k d = false) {text : List Char}
    {P : List Char → List Char → Prop} :
    (startsWith [d] (text.dropWhile k) = true ∧
        P (text.takeWhile k) ((text.dropWhile k).drop 1)) ↔
      ∃ run rest, text = run ++ d :: rest ∧ (∀ c ∈ run, k c = true) ∧ P run rest := by
  constructor
  · rintro ⟨hstart, hP⟩
    obtain ⟨rest, hrest⟩ := startsWith_iff.1 hstart
    rw [List.singleton_append] at hrest
    rw [← hrest] at hP
    refine ⟨text.takeWhile k, rest, ?_, List.all_eq_true.1 List.all_takeWhile, hP⟩
    rw [hrest, List.takeWhile_append_dropWhile]
  · rintro ⟨run, rest, rfl, hrun, hP⟩
    -- `d` ends the run, so the longest run is this one
    have hstop : ¬ k d = true := by rw [hd]; exact Bool.false_ne_true
    rw [List.takeWhile_append_of_pos hrun, List.dropWhile_append_of_pos hrun,
      List.takeWhile_cons_of_neg hstop, List.dropWhile_cons_of_neg hstop, List.append_nil]
    exact ⟨startsWith_iff.2 (List.prefix_append [d] rest), hP⟩

lemma annotationAt_iff {text : List Char} :
    annotationAt text = true ↔ ∃ c rest, text = ':' :: ' ' :: c :: rest ∧ isWord c = true := by
  fun_cases annotationAt text with
  | case1 c rest => simp
  | case2 text hother =>
    simp only [Bool.false_eq_true, false_iff]
    rintro ⟨c, rest, rfl, -⟩
    exact hother c rest rfl

lemma anySuffix_annotationAt_iff {text : List Char} :
    anySuffix annotationAt text = true ↔
      ∃ x c y, text = x ++ [':', ' ', c] ++ y ∧ isWord c = true := by
  rw [anySuffix_iff]
  constructor
  · rintro ⟨_, ⟨x, rfl⟩, h⟩
    obtain ⟨c, y, rfl, hc⟩ := annotationAt_iff.1 h
    exact ⟨x, c, y, by simp, hc⟩
  · rintro ⟨x, c, y, rfl, hc⟩
    exact ⟨[':', ' ', c] ++ y, by rw [List.append_assoc]; exact List.suffix_append x _,
      annotationAt_iff.2 ⟨c, y, rfl, hc⟩⟩

lemma annotatedParameters_iff {text : List Char} :
    annotatedParameters text = true ↔
      ∃ inner rest, text = inner ++ ')' :: rest ∧ (∀ c ∈ inner, isInner c = true) ∧
        ∃ x c y, inner = x ++ [':', ' ', c] ++ y ∧ isWord c = true := by
  have hclass : (fun c : Char => c != ')' && c != '\n') = isInner := rfl
  rw [← exists_run_iff (k := isInner) (d := ')') (by decide)
    (P := fun inner _ => ∃ x c y, inner = x ++ [':', ' ', c] ++ y ∧ isWord c = true),
    ← anySuffix_annotationAt_iff, ← Bool.and_eq_true]
  simp only [annotatedParameters, hclass, drop_length_takeWhile]

lemma annotatedNameAt_iff {text : List Char} :
    annotatedNameAt text = true ↔
      ∃ name rest, text = name ++ '(' :: rest ∧ (∀ c ∈ name, isWord c = true) ∧ name ≠ [] ∧
        annotatedParameters rest = true := by
  rw [← exists_run_iff (k := isWord) (d := '(') (by decide)
    (P := fun name rest => name ≠ [] ∧ annotatedParameters rest = true)]
  simp only [annotatedNameAt, Bool.and_eq_true, Bool.not_eq_true', List.isEmpty_eq_false_iff]
  tauto

/-- A header is read where a part that is one starts. -/
lemma annotatedHeaderAt_iff {text : List Char} :
    annotatedHeaderAt text = true ↔ ∃ part, IsAnnotatedHeader part ∧ part <+: text := by
  rw [annotatedHeaderAt_eq, Bool.and_eq_true, startsWith_iff, annotatedNameAt_iff]
  constructor
  · rintro ⟨⟨text, rfl⟩, name, parameters, hname, hword, hne, hparameters⟩
    obtain ⟨inner, rest, rfl, hinner, hannotation⟩ := annotatedParameters_iff.1 hparameters
    obtain rfl : text = name ++ '(' :: (inner ++ ')' :: rest) := hname
    exact ⟨_, ⟨name, inner, rfl, ⟨hne, hword⟩, fun c hc => isInner_iff.1 (hinner c hc),
      hannotation⟩, rest, by simp⟩
  · rintro ⟨_, ⟨name, inner, rfl, ⟨hne, hword⟩, hinner, hannotation⟩, rest, rfl⟩
    refine ⟨⟨name ++ '(' :: (inner ++ ')' :: rest), by simp⟩, name, inner ++ ')' :: rest, by simp,
      hword, hne, ?_⟩
    exact annotatedParameters_iff.2
      ⟨inner, rest, rfl, fun c hc => isInner_iff.2 (hinner c hc), hannotation⟩

lemma hasTypeHints_iff {text : List Char} :
    hasTypeHints text = true ↔ ∃ part, IsAnnotatedHeader part ∧ part <:+: text := by
  rw [hasTypeHints, anySuffix_iff]
  constructor
  · rintro ⟨rest, hrest, h⟩
    obtain ⟨part, hpart, hprefix⟩ := annotatedHeaderAt_iff.1 h
    exact ⟨part, hpart, hprefix.isInfix.trans hrest.isInfix⟩
  · rintro ⟨part, hpart, hinfix⟩
    obtain ⟨rest, hprefix, hrest⟩ := List.infix_iff_prefix_suffix.1 hinfix
    exact ⟨rest, hrest, annotatedHeaderAt_iff.2 ⟨part, hpart, hprefix⟩⟩

lemma hasTypeHints_iff_occursIn {text : List Char} :
    hasTypeHints text = true ↔ header.OccursIn text := by
  rw [hasTypeHints_iff]
  constructor
  · rintro ⟨part, hpart, before, after, rfl⟩
    exact ⟨before, part, after, rfl, matches_header_iff.2 hpart⟩
  · rintro ⟨before, part, after, rfl, h⟩
    exact ⟨part, matches_header_iff.1 h, before, after, rfl⟩

/-! ## Lines -/

lemma IsAnnotatedHeader.lineFeed_notMem {part : List Char} (h : IsAnnotatedHeader part) :
    '\n' ∉ part := by
  obtain ⟨name, inner, rfl, ⟨-, hword⟩, hinner, -⟩ := h
  have hname : '\n' ∉ name := fun hmem => absurd (hword _ hmem) (by decide)
  have hparameters : '\n' ∉ inner := fun hmem => (hinner _ hmem).2 rfl
  simp [hname, hparameters]

lemma hasTypeHints_eq_any_lines (text : List Char) :
    hasTypeHints text = (lines text).any hasTypeHints := by
  have hline : ∀ part, IsAnnotatedHeader part →
      (part <:+: text ↔ ∃ l ∈ lines text, part <:+: l) := by
    intro part h
    have hclose : part.getLast? = some ')' := by
      obtain ⟨name, inner, rfl, -⟩ := h
      exact List.getLast?_concat
    refine infix_iff_exists_line ?_ h.lineFeed_notMem (by simp [hclose])
    rintro rfl
    simp at hclose
  rw [Bool.eq_iff_iff, hasTypeHints_iff, List.any_eq_true]
  constructor
  · rintro ⟨part, hpart, h⟩
    obtain ⟨l, hl, hinfix⟩ := (hline part hpart).1 h
    exact ⟨l, hl, hasTypeHints_iff.2 ⟨part, hpart, hinfix⟩⟩
  · rintro ⟨l, hl, h⟩
    obtain ⟨part, hpart, hinfix⟩ := hasTypeHints_iff.1 h
    exact ⟨part, hpart, (hline part hpart).2 ⟨l, hl, hinfix⟩⟩

/-! ## The feature and the suggestion -/

section Feature

variable {language : String} (h : lowerCase language = "python") (code : String)

include h

lemma get?_hasTypeHints :
    (extractFeatures code language).get? "has_type_hints" =
      some (.flag (hasTypeHints code.toList)) := by
  rw [get?_extractFeatures (bundleFor?_of_python h)]
  simp [bundle, extract, Table.ofList, Table.insertAll]

lemma get?_numFunctions :
    (extractFeatures code language).get? "num_functions" =
      some (.count (countDelimited "def".toList code.toList)) := by
  rw [get?_extractFeatures (bundleFor?_of_python h)]
  simp [bundle, extract, Table.ofList, Table.insertAll]

lemma get?_numClasses :
    (extractFeatures code language).get? "num_classes" =
      some (.count (countDelimited "class".toList code.toList)) := by
  rw [get?_extractFeatures (bundleFor?_of_python h)]
  simp [bundle, extract, Table.ofList, Table.insertAll]

lemma flag_hasTypeHints :
    (extractFeatures code language).flag "has_type_hints" = hasTypeHints code.toList :=
  FeatureSet.flag_of_get? (get?_hasTypeHints h code)

lemma suggestImprovements_eq :
    suggestImprovements code language =
      if hasTypeHints code.toList then [] else [typeHintSuggestion] := by
  rw [suggestImprovements_of_bundle (bundleFor?_of_python h), ← flag_hasTypeHints h code]
  simp only [bundle, suggest]

end Feature

/-- **Type hints.**  For every text and every language tag that is `python` in lower case, the flag
for type hints is on exactly when a header with an annotated parameter stands in the text, which is
the case exactly when the pattern `header` occurs in it; it is on exactly when it is on for one of
the lines; and there is one suggestion, to add type hints, when it is off, and none when it is on. -/
theorem typeHints_iff_annotatedHeader (code language : String)
    (h : lowerCase language = "python") :
    (∃ on, (extractFeatures code language).get? "has_type_hints" = some (.flag on) ∧
      (on = true ↔ ∃ part, IsAnnotatedHeader part ∧ part <:+: code.toList) ∧
      (on = true ↔ header.OccursIn code.toList) ∧
      on = (textLines code).any fun line =>
        (extractFeatures line language).flag "has_type_hints") ∧
    (suggestImprovements code language = [typeHintSuggestion] ↔
      ¬ ∃ part, IsAnnotatedHeader part ∧ part <:+: code.toList) ∧
    (suggestImprovements code language = [] ↔
      ∃ part, IsAnnotatedHeader part ∧ part <:+: code.toList) := by
  refine ⟨⟨_, get?_hasTypeHints h code, hasTypeHints_iff, hasTypeHints_iff_occursIn, ?_⟩, ?_, ?_⟩
  · simp only [flag_hasTypeHints h, textLines, List.any_map]
    rw [hasTypeHints_eq_any_lines]
    simp [Function.comp_def]
  · rw [suggestImprovements_eq h, ← hasTypeHints_iff]
    split <;> simp_all
  · rw [suggestImprovements_eq h, ← hasTypeHints_iff]
    split <;> simp_all

/-- A closing parenthesis inside the parameters ends them, so the first line has no annotated
header; the second one has, with a name that is not plain. -/
theorem typeHints_iff_annotatedHeader_nested :
    let code := "def f(a=(1), b: int):\r\ndef größe(x, y: int) -> int:"
    lowerCase "Python" = "python" ∧
      suggestImprovements "def f(a=(1), b: int):" "Python" = [typeHintSuggestion] ∧
      suggestImprovements code "Python" = [] ∧
      ∃ part, IsAnnotatedHeader part ∧ part <:+: code.toList := by
  intro code
  have hpython : lowerCase "Python" = "python" := by decide
  have hfirst : suggestImprovements "def f(a=(1), b: int):" "Python" = [typeHintSuggestion] := by
    rw [suggestImprovements_eq hpython, if_neg (by decide)]
  have hcode : suggestImprovements code "Python" = [] := by
    rw [suggestImprovements_eq hpython, if_pos (by decide)]
  exact ⟨hpython, hfirst, hcode,
    (typeHints_iff_annotatedHeader code "Python" hpython).2.2.1 hcode⟩

end Critique.Python
