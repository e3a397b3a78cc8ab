import Critique.Proofs.Text.LineEnding
import Critique.Review

/-!
# Line endings do not change a review

A text whose lines end in a carriage return and a line feed is reviewed like the same text with
line feeds alone: the issues, with their line numbers, the suggestions and the complexity score are
equal, and so is every feature but the number of characters.  `review_crlf` is the statement.

What the review is made of is taken in turn: the patterns of Python (`Python.extract_congr`), those
of JavaScript (`JavaScript.extract_congr`), the features (`extractFeatures_congr`), the suggestions
and the smells.  The patterns are first written as "starts with a fixed text, and then …"
(`annotatedHeaderAt_eq`, `typedAt_eq`), the form for which `startsWith_and_congr` is stated.
-/

namespace Critique

open Text

/-! ## Python -/

namespace Python

lemma drop_length_takeWhile (p : Char → Bool) (text : List Char) :
    text.drop (text.takeWhile p).length = text.dropWhile p := by
  calc text.drop (text.takeWhile p).length
      = (text.takeWhile p ++ text.dropWhile p).drop (text.takeWhile p).length := by
        rw [List.takeWhile_append_dropWhile]
    _ = text.dropWhile p := List.drop_left' rfl

/-- The parameters of a header do not go beyond its line. -/
lemma annotatedParameters_congr {x y : List Char} (h : ReturnsAdded x y) :
    annotatedParameters x = annotatedParameters y := by
  simp only [annotatedParameters, drop_length_takeWhile]
  -- the texts agree up to the first line feed, and there the parameters are over in both
  rcases h.takeWhile_eq_or (p := fun c => c != ')' && c != '\n') (by decide) (by decide) with
    ⟨htake, hdrop⟩ | ⟨x', y', hx, hy⟩
  · rw [htake, startsWith_congr (by decide) hdrop]
  · rw [hx, hy]
    rfl

/-- Does a name start here, followed by parentheses with an annotated parameter? -/
def annotatedNameAt (text : List Char) : Bool :=
  !(text.takeWhile isWord).isEmpty &&
    (startsWith ['('] (text.dropWhile isWord) &&
      annotatedParameters ((text.dropWhile isWord).drop 1))

/-- A header with an annotated parameter is `def`, a space, and a name with such parameters. -/
lemma annotatedHeaderAt_eq (text : List Char) :
    annotatedHeaderAt text =
      (startsWith ['d', 'e', 'f', ' '] text && annotatedNameAt (text.drop 4)) := by
  by_cases hdef : ∃ rest, text = 'd' :: 'e' :: 'f' :: ' ' :: rest
  · obtain ⟨rest, rfl⟩ := hdef
    have hstart : startsWith ['d', 'e', 'f', ' '] ('d' :: 'e' :: 'f' :: ' ' :: rest) = true := by
      simp [startsWith, List.isPrefixOf]
    rw [hstart, Bool.true_and, annotatedHeaderAt, annotatedNameAt]
    simp only [List.drop_succ_cons, List.drop_zero]
    -- the match of the definition: a name of at least one character, and then a parenthesis
    cases rest.takeWhile isWord with
    | nil => rfl
    | cons c name =>
      cases rest.dropWhile isWord with
      | nil => rfl
      | cons d parameters =>
        by_cases hd : d = '('
        · simp [hd, startsWith]
        · have hopen : ('(' == d) = false := by simpa using Ne.symm hd
          simp [hd, startsWith, List.isPrefixOf, hopen]
  · have hstart : startsWith ['d', 'e', 'f', ' '] text = false := by
      rw [Bool.eq_false_iff]
      intro hstart
      obtain ⟨rest, hrest⟩ := List.isPrefixOf_iff_prefix.1 hstart
      exact hdef ⟨rest, hrest.symm⟩
    rw [hstart, Bool.false_and, annotatedHeaderAt]
    intro rest hrest
    exact hdef ⟨rest, hrest⟩

lemma annotatedNameAt_congr {x y : List Char} (h : ReturnsAdded x y) :
    annotatedNameAt x = annotatedNameAt y := by
  -- no name has a carriage return or a line feed in it, so the added ones are behind it
  have hname : x.takeWhile isWord = y.takeWhile isWord :=
    h.takeWhile_eq isWord_return isWord_lineFeed
  have hrest : ReturnsAdded (x.dropWhile isWord) (y.dropWhile isWord) :=
    h.dropWhile (isWord_return.trans isWord_lineFeed.symm)
  rw [annotatedNameAt, annotatedNameAt, hname]
  congr 1
  exact startsWith_and_congr (by decide) (by decide) annotatedParameters_congr hrest

lemma hasTypeHints_congr {x y : List Char} (h : ReturnsAdded x y) :
    hasTypeHints x = hasTypeHints y := by
  refine anySuffix_congr ?_ (fun _ => rfl) h
  intro x y h
  rw [annotatedHeaderAt_eq, annotatedHeaderAt_eq]
  exact startsWith_and_congr (by decide) (by decide) annotatedNameAt_congr h

lemma hasDocstrings_congr {x y : List Char} (h : ReturnsAdded x y) :
    hasDocstrings x = hasDocstrings y := by
  rw [hasDocstrings, hasDocstrings, contains_congr (by decide) h,
    contains_congr (by decide) h]

lemma extract_congr {x y : List Char} (h : ReturnsAdded x y) : extract x = extract y := by
  rw [extract, extract, hasTypeHints_congr h, hasDocstrings_congr h,
    countDelimited_congr (by decide) h,
    countDelimited_congr (by decide) h]

end Python

/-! ## JavaScript and TypeScript -/

namespace JavaScript

/-- An annotation is a colon, any white space, and a word. -/
lemma typedAt_eq (text : List Char) :
    typedAt text = (startsWith [':'] text && wordAhead ((text.drop 1).dropWhile isBlank)) := by
  cases text with
  | nil => rfl
  | cons c rest =>
    by_cases hc : c = ':'
    · simp [hc, typedAt, startsWith]
    · have hcolon : (':' == c) = false := by simpa using Ne.symm hc
      simp [hc, typedAt, startsWith, List.isPrefixOf, hcolon]

lemma hasTypes_congr {x y : List Char} (h : ReturnsAdded x y) : hasTypes x = hasTypes y := by
  refine anySuffix_congr ?_ (fun _ => rfl) h
  intro x y h
  rw [typedAt_eq, typedAt_eq]
  refine startsWith_and_congr (by decide) (by decide)
    (p := fun rest => wordAhead (rest.dropWhile isBlank)) ?_ h
  intro x y h
  exact wordAhead_congr (h.dropWhile (isBlank_return.trans isBlank_lineFeed.symm))

lemma countFunctions_congr {x y : List Char} (h : ReturnsAdded x y) :
    countFunctions x = countFunctions y := by
  rw [countFunctions, countFunctions, countDelimited_congr (by decide) h,
    countSign_congr (by decide) h]

lemma usesAsync_congr {x y : List Char} (h : ReturnsAdded x y) : usesAsync x = usesAsync y := by
  rw [usesAsync, usesAsync, countDelimited_congr (by decide) h]

/-- The lower-case form of a line ending is the line ending. -/
lemma usesPromises_congr {x y : List Char} (h : ReturnsAdded x y) :
    usesPromises x = usesPromises y := by
  have hlower : ReturnsAdded (x.flatMap lowerChar) (y.flatMap lowerChar) :=
    h.flatMap (by decide) (by decide)
  rw [usesPromises, usesPromises, contains_congr (by decide) h,
    contains_congr (by decide) hlower]

lemma extract_congr {x y : List Char} (h : ReturnsAdded x y) : extract x = extract y := by
  rw [extract, extract, hasTypes_congr h, countFunctions_congr h, usesAsync_congr h,
    countDelimited_congr (by decide) h]

end JavaScript

/-! ## Features and suggestions -/

lemma mem_bundles_of_bundleFor? {tag : String} {b : Bundle} (h : bundleFor? tag = some b) :
    b = Python.bundle ∨ b = JavaScript.bundle := by
  have hmem : b ∈ bundles := List.mem_of_find?_eq_some h
  simpa [bundles] using hmem

lemma extract_bundleFor?_congr {tag : String} {b : Bundle} (hb : bundleFor? tag = some b)
    {x y : List Char} (h : ReturnsAdded x y) : b.extract x = b.extract y := by
  rcases mem_bundles_of_bundleFor? hb with rfl | rfl
  · exact Python.extract_congr h
  · exact JavaScript.extract_congr h

/-- Suggestions look at the text and at the features that the language adds. -/
lemma suggest_bundleFor?_congr {tag : String} {b : Bundle} (hb : bundleFor? tag = some b)
    {x y : List Char} (h : ReturnsAdded x y) {f g : FeatureSet} (hfg : f.extra = g.extra) :
    b.suggest x f = b.suggest y g := by
  have hflag : ∀ name, f.flag name = g.flag name := by
    intro name
    rw [FeatureSet.flag, FeatureSet.flag, FeatureSet.get?, FeatureSet.get?, hfg]
  rcases mem_bundles_of_bundleFor? hb with rfl | rfl
  · simp only [Python.bundle, Python.suggest, hflag]
  · simp only [JavaScript.bundle, JavaScript.suggest, hflag, JavaScript.usesPromises_congr h]

section Snippet

variable {code code' : String} (h : ReturnsAdded code'.toList code.toList)

include h

lemma tokenize_congr : tokenize code' = tokenize code := by
  rw [tokenize, tokenize, splitTokens_congr h]

lemma extractFeatures_congr (hreturn : '\r' ∉ code.toList) (language : String) :
    extractFeatures code' language =
      { extractFeatures code language with length := code'.toList.length } := by
  simp only [extractFeatures, lines_congr h hreturn, tokenize_congr h, FeatureSet.mk.injEq,
    true_and]
  cases hb : bundleFor? language with
  | none => rfl
  | some b => exact extract_bundleFor?_congr hb h

lemma suggestImprovements_congr (hreturn : '\r' ∉ code.toList) (language : String) :
    suggestImprovements code' language = suggestImprovements code language := by
  rw [suggestImprovements, suggestImprovements]
  cases hb : bundleFor? language with
  | none => rfl
  | some b =>
    refine suggest_bundleFor?_congr hb h ?_
    rw [extractFeatures_congr h hreturn]

lemma score_congr (weights : Table Float) :
    Weights.score weights code' = Weights.score weights code := by
  rw [Weights.score, Weights.score, tokenize_congr h]

lemma findSmells_congr (hreturn : '\r' ∉ code.toList) (limits : Limits) :
    findSmells limits code' = findSmells limits code := by
  rw [findSmells, findSmells, exceedsComplexity, exceedsComplexity, lines_congr h hreturn,
    score_congr h]

lemma review_congr (hreturn : '\r' ∉ code.toList) (settings : Settings) (language : String) :
    review settings code' language = review settings code language := by
  rw [review, review, findSmells_congr h hreturn, suggestImprovements_congr h hreturn,
    score_congr h]

end Snippet

/-- **Line endings do not change a review.**  For a text without carriage returns, all settings and
every language tag, the text with carriage returns and line feeds in place of line feeds has the
same report, with the same issues on the same lines, the same suggestions and the same score.  Its
features are the same as well, the number of lines, the tokens and all features of the language;
only the number of characters grows, by one for each line feed. -/
theorem review_crlf (settings : Settings) (code language : String) (h : '\r' ∉ code.toList) :
    review settings (withCrlf code) language = review settings code language ∧
    extractFeatures (withCrlf code) language =
      { extractFeatures code language with
        length := code.toList.length + code.toList.count '\n' } := by
  have hadded : ReturnsAdded (withCrlf code).toList code.toList := by
    rw [withCrlf, String.toList_ofList]
    exact .crlf code.toList
  refine ⟨review_congr hadded h settings language, ?_⟩
  rw [extractFeatures_congr hadded h, withCrlf, String.toList_ofList, length_crlf]

/-- A header whose parameters go over two lines, with an annotation on the second. -/
theorem review_crlf_header :
    let code := "def add(a,\n        b: int):\n    return a + b\n"
    '\r' ∉ code.toList ∧
      withCrlf code = "def add(a,\r\n        b: int):\r\n    return a + b\r\n" ∧
      review {} (withCrlf code) "python" = review {} code "python" ∧
      (extractFeatures (withCrlf code) "python").extra = (extractFeatures code "python").extra := by
  intro code
  have hreturn : '\r' ∉ code.toList := by decide
  obtain ⟨hreview, hfeatures⟩ := review_crlf {} code "python" hreturn
  exact ⟨hreturn, by decide, hreview, by rw [hfeatures]⟩

end Critique
