import Critique.Proofs.Review.LineEnding
import Critique.Proofs.Text.Pattern

/-!
# Functions, annotations and asynchronous code of a JavaScript text

The features of JavaScript and TypeScript texts are read here as statements about positions and as
searches for patterns.

* Functions are counted in two passes, one for the word and one for the arrow.  A search for the
  pattern `\bfunction\b|=>`, which takes one part after another and goes on behind it, finds the
  same number (`finds_functionOrArrow`): neither part can start inside the other or inside a part of
  its own kind (`not_startsAt_inside`).
* An annotation is the pattern `:\s*\w+`.  The blanks behind the colon may be any number of those
  that are there, but since no blank is a word character (`isWord_eq_false_of_isBlank`) the word
  starts behind all of them.
* Whether there is asynchronous code is asked twice, for the feature and, through the feature, for
  the suggestion.
-/

namespace Critique.JavaScript

open Text

/-- The pattern `\bfunction\b|=>`. -/
def functionOrArrow : Pattern :=
  .either (.alone "function".toList) (.text "=>".toList)

/-- The pattern `:\s*\w+`. -/
def annotation : Pattern :=
  .seq (.text [':']) <| .seq (.many isBlank) (.some isWord)

/-- The pattern `\basync\b`. -/
def asyncWord : Pattern :=
  .alone "async".toList

/-! ## Functions and arrows -/

section Functions

variable {text : List Char} {i j n : ℕ}

lemma isWord_of_mem_function : ∀ c ∈ "function".toList, isWord c = true :=
  List.all_eq_true.1 (by decide)

/-- A function or an arrow starts here. -/
abbrev StartsAt (text : List Char) (i : ℕ) : Prop :=
  StandsAloneAt isWord "function".toList text i ∨ OccursAt "=>".toList text i

lemma spanAt_functionOrArrow_iff :
    functionOrArrow.SpanAt text i n ↔
      (n = 8 ∧ StandsAloneAt isWord "function".toList text i) ∨
        (n = 2 ∧ OccursAt "=>".toList text i) := by
  rw [functionOrArrow, Pattern.spanAt_either_iff,
    Pattern.spanAt_alone_iff (by decide) isWord_of_mem_function,
    Pattern.spanAt_text_iff (by decide)]
  rfl

lemma getElem?_of_function (h : OccursAt "function".toList text i) : text[i]? = some 'f' :=
  h.getElem? (n := 0) (by decide)

lemma getElem?_of_arrow (h : OccursAt "=>".toList text i) : text[i]? = some '=' :=
  h.getElem? (n := 0) (by decide)

lemma not_arrow_of_function (h : StandsAloneAt isWord "function".toList text i) :
    ¬ OccursAt "=>".toList text i := by
  intro harrow
  have hboth := (getElem?_of_function h.occurs).symm.trans (getElem?_of_arrow harrow)
  exact absurd hboth (by decide)

/-- Neither starts inside the other or inside another of its kind. -/
lemma not_startsAt_inside (h : functionOrArrow.SpanAt text i n) (hij : i < j) (hjn : j < i + n) :
    ¬ StartsAt text j := by
  -- the word has no `=` in it and does not stand alone inside itself; the arrow goes on with `>`
  obtain ⟨m, rfl⟩ := Nat.exists_eq_add_of_lt hij
  rcases spanAt_functionOrArrow_iff.1 h with ⟨rfl, hfunction⟩ | ⟨rfl, harrow⟩
  · have hm : m + 1 < "function".toList.length := by
      change m + 1 < 8
      omega
    rintro (hword | hsign)
    · exact hfunction.occurs.not_standsAloneAt isWord_of_mem_function hij (by omega) hword
    · have hletter : "function".toList[m + 1]? = some '=' :=
        (hfunction.occurs.getElem? hm).symm.trans (getElem?_of_arrow hsign)
      exact absurd (List.mem_of_getElem? hletter) (by decide)
  · obtain rfl : m = 0 := by omega
    have hsecond : text[i + 1]? = some '>' := harrow.getElem? (n := 1) (by decide)
    rintro (hword | hsign)
    · exact absurd (hsecond.symm.trans (getElem?_of_function hword.occurs)) (by decide)
    · exact absurd (hsecond.symm.trans (getElem?_of_arrow hsign)) (by decide)

lemma count_or {P Q : ℕ → Prop} [DecidablePred P] [DecidablePred Q] (h : ∀ i, P i → ¬ Q i)
    (n : ℕ) : Nat.count (fun i => P i ∨ Q i) n = Nat.count P n + Nat.count Q n := by
  induction n with
  | zero => simp
  | succ n ih =>
    rw [Nat.count_succ, Nat.count_succ, Nat.count_succ, ih]
    have hdisjoint := h n
    by_cases hP : P n
    · simp only [hP, hdisjoint hP, if_true, if_false, true_or]
      omega
    · simp only [hP, if_false, false_or]
      omega

/-- Every search finds as many functions and arrows as are counted in two passes. -/
lemma finds_functionOrArrow (text : List Char) :
    functionOrArrow.Finds text (countFunctions text) := by
  have hstarts : ∀ i, StartsAt text i ↔ ∃ n, functionOrArrow.SpanAt text i n := by
    intro i
    simp only [spanAt_functionOrArrow_iff]
    constructor
    · rintro (hword | hsign)
      · exact ⟨8, .inl ⟨rfl, hword⟩⟩
      · exact ⟨2, .inr ⟨rfl, hsign⟩⟩
    · rintro ⟨n, ⟨-, hword⟩ | ⟨-, hsign⟩⟩
      · exact .inl hword
      · exact .inr hsign
  have hempty : ∀ i, ¬ functionOrArrow.SpanAt text i 0 := by
    intro i hspan
    rcases spanAt_functionOrArrow_iff.1 hspan with ⟨hzero, -⟩ | ⟨hzero, -⟩
    · exact absurd hzero (by decide)
    · exact absurd hzero (by decide)
  -- no two of them overlap, so the search sees every place where one starts
  rw [countFunctions, countDelimited_eq, countSign_eq,
    ← count_or fun i => not_arrow_of_function]
  exact Pattern.finds_count hstarts (fun i n k hspan => not_startsAt_inside hspan) hempty

end Functions

/-! ## Annotations -/

section Annotations

variable {text : List Char}

/-- No blank is a word character. -/
lemma isWord_eq_false_of_isBlank {c : Char} (h : isBlank c = true) : isWord c = false := by
  have hall : ∀ r ∈ blankRanges, ∀ n ∈ List.range' r.1 (r.2 + 1 - r.1),
      isWord (Char.ofNat n) = false := by
    decide +kernel
  obtain ⟨r, hr, hlow, hhigh⟩ := covers_iff.1 h
  have hword := hall r hr c.toNat (List.mem_range'_1.2 ⟨hlow, by omega⟩)
  rwa [Char.ofNat_toNat] at hword

/-- A colon, any number of blanks and a word character stand one after the other. -/
def HasAnnotation (text : List Char) : Prop :=
  ∃ before blanks c after, text = before ++ ':' :: blanks ++ c :: after ∧
    (∀ b ∈ blanks, isBlank b = true) ∧ isWord c = true

lemma wordAhead_iff : wordAhead text = true ↔ ∃ c rest, text = c :: rest ∧ isWord c = true := by
  cases text with
  | nil => simp [wordAhead]
  | cons c rest => simp [wordAhead]

/-- The word behind some blanks is the word behind all of them. -/
lemma wordAhead_dropWhile_iff :
    wordAhead (text.dropWhile isBlank) = true ↔
      ∃ blanks c after, text = blanks ++ c :: after ∧ (∀ b ∈ blanks, isBlank b = true) ∧
        isWord c = true := by
  constructor
  · intro h
    obtain ⟨c, after, hdrop, hc⟩ := wordAhead_iff.1 h
    refine ⟨text.takeWhile isBlank, c, after, ?_, List.all_eq_true.1 List.all_takeWhile, hc⟩
    rw [← hdrop, List.takeWhile_append_dropWhile]
  · rintro ⟨blanks, c, after, rfl, hblanks, hc⟩
    -- the word begins with no blank, so the blanks before it are the longest run
    have hstop : ¬ isBlank c = true := fun hblank => by
      simp [isWord_eq_false_of_isBlank hblank] at hc
    rw [List.dropWhile_append_of_pos hblanks, List.dropWhile_cons_of_neg hstop]
    exact hc

lemma hasTypes_iff : hasTypes text = true ↔ HasAnnotation text := by
  rw [hasTypes, anySuffix_iff]
  constructor
  · rintro ⟨_, ⟨before, rfl⟩, h⟩
    rw [typedAt_eq, Bool.and_eq_true, startsWith_iff] at h
    obtain ⟨⟨rest, rfl⟩, hword⟩ := h
    obtain ⟨blanks, c, after, hrest, hblanks, hc⟩ := wordAhead_dropWhile_iff.1 hword
    obtain rfl : rest = blanks ++ c :: after := hrest
    exact ⟨before, blanks, c, after, by simp, hblanks, hc⟩
  · rintro ⟨before, blanks, c, after, rfl, hblanks, hc⟩
    refine ⟨':' :: (blanks ++ c :: after), ⟨before, by simp⟩, ?_⟩
    exact wordAhead_dropWhile_iff.2 ⟨blanks, c, after, rfl, hblanks, hc⟩

lemma occursIn_annotation_iff : annotation.OccursIn text ↔ HasAnnotation text := by
  constructor
  · rintro ⟨before, _, after, rfl, _, _, rfl, rfl, blanks, word, rfl, hblanks, hword⟩
    obtain ⟨hne, hword⟩ := Pattern.matches_some_iff.1 hword
    obtain ⟨c, word, rfl⟩ := List.exists_cons_of_ne_nil hne
    exact ⟨before, blanks, c, word ++ after, by simp, hblanks, hword c List.mem_cons_self⟩
  · rintro ⟨before, blanks, c, after, rfl, hblanks, hc⟩
    refine ⟨before, [':'] ++ (blanks ++ [c]), after, by simp, [':'], blanks ++ [c], rfl, rfl,
      blanks, [c], rfl, hblanks, Pattern.matches_some_iff.2 ⟨List.cons_ne_nil c [], ?_⟩⟩
    simpa using hc

end Annotations

/-! ## Asynchronous code and promises -/

lemma usesAsync_iff {text : List Char} :
    usesAsync text = true ↔ ∃ i, StandsAloneAt isWord "async".toList text i := by
  rw [usesAsync, decide_eq_true_iff, countDelimited_eq, Nat.pos_iff_ne_zero,
    Nat.count_ne_iff_exists]
  constructor
  · rintro ⟨i, -, h⟩
    exact ⟨i, h⟩
  · rintro ⟨i, h⟩
    exact ⟨i, h.occurs.lt_length (by decide), h⟩

lemma usesAsync_iff_occursIn {text : List Char} :
    usesAsync text = true ↔ asyncWord.OccursIn text := by
  have hword : ∀ c ∈ "async".toList, isWord c = true := List.all_eq_true.1 (by decide)
  rw [usesAsync_iff, asyncWord, Pattern.occursIn_alone_iff (by decide) hword]

lemma usesPromises_iff {code : String} :
    usesPromises code.toList = true ↔
      "fetch".toList <:+: code.toList ∨ "promise".toList <:+: (lowerCase code).toList := by
  have hlower : (lowerCase code).toList = code.toList.flatMap lowerChar := String.toList_ofList
  rw [usesPromises, Bool.or_eq_true, contains_iff, contains_iff, hlower]

/-! ## The features and the suggestion -/

section Feature

variable {language : String}
  (h : lowerCase language = "javascript" ∨ lowerCase language = "typescript") (code : String)

include h

lemma get?_numFunctions :
    (extractFeatures code language).get? "num_functions" =
      some (.count (countFunctions code.toList)) := by
  rw [get?_extractFeatures (bundleFor?_of_javaScript h)]
  simp [bundle, extract, Table.ofList, Table.insertAll]

lemma get?_numClasses :
    (extractFeatures code language).get? "num_classes" =
      some (.count (countDelimited "class".toList code.toList)) := by
  rw [get?_extractFeatures (bundleFor?_of_javaScript h)]
  simp [bundle, extract, Table.ofList, Table.insertAll]

lemma get?_usesAsync :
    (extractFeatures code language).get? "uses_async" = some (.flag (usesAsync code.toList)) := by
  rw [get?_extractFeatures (bundleFor?_of_javaScript h)]
  simp [bundle, extract, Table.ofList, Table.insertAll]

lemma get?_hasTypes :
    (extractFeatures code language).get? "has_types" = some (.flag (hasTypes code.toList)) := by
  rw [get?_extractFeatures (bundleFor?_of_javaScript h)]
  simp [bundle, extract, Table.ofList, Table.insertAll]

lemma suggestImprovements_eq :
    suggestImprovements code language =
      if !usesAsync code.toList && usesPromises code.toList then [asyncSuggestion] else [] := by
  rw [suggestImprovements_of_bundle (bundleFor?_of_javaScript h),
    ← FeatureSet.flag_of_get? (get?_usesAsync h code)]
  simp only [bundle, suggest]

end Feature

/-- A text works with promises and nowhere has the word `async` alone. -/
def WantsAsync (code : String) : Prop :=
  (¬ ∃ i, StandsAloneAt isWord "async".toList code.toList i) ∧
    ("fetch".toList <:+: code.toList ∨ "promise".toList <:+: (lowerCase code).toList)

lemma wantsAsync_iff {code : String} :
    (!usesAsync code.toList && usesPromises code.toList) = true ↔ WantsAsync code := by
  rw [Bool.and_eq_true, usesPromises_iff, Bool.not_eq_true', ← Bool.not_eq_true, usesAsync_iff,
    WantsAsync]

/-- **Features of JavaScript and TypeScript.**  For every text and every language tag that is
`javascript` or `typescript` in lower case:

* the number of functions is the number of positions where the word `function` stands alone and of
  those where an arrow occurs, and every search for `functionOrArrow` finds that many parts;
* the flag for asynchronous code is on exactly when the word `async` stands alone somewhere;
* the flag for types is on exactly when a colon, any blanks and a word character stand one after the
  other;
* there is one suggestion, to use asynchronous functions, for a text that works with promises and in
  which the word `async` stands alone nowhere, and no suggestion otherwise;
* another such tag gives the same features and suggestions. -/
theorem features_iff_positions (code language : String)
    (h : lowerCase language = "javascript" ∨ lowerCase language = "typescript") :
    (∃ n, (extractFeatures code language).get? "num_functions" = some (.count n) ∧
      n = Nat.count (StandsAloneAt isWord "function".toList code.toList) code.toList.length +
        Nat.count (OccursAt "=>".toList code.toList) code.toList.length ∧
      functionOrArrow.Finds code.toList n) ∧
    (∃ on, (extractFeatures code language).get? "uses_async" = some (.flag on) ∧
      (on = true ↔ ∃ i, StandsAloneAt isWord "async".toList code.toList i) ∧
      (on = true ↔ asyncWord.OccursIn code.toList)) ∧
    (∃ on, (extractFeatures code language).get? "has_types" = some (.flag on) ∧
      (on = true ↔ HasAnnotation code.toList) ∧ (on = true ↔ annotation.OccursIn code.toList)) ∧
    (suggestImprovements code language = [asyncSuggestion] ↔ WantsAsync code) ∧
    (suggestImprovements code language = [] ↔ ¬ WantsAsync code) ∧
    ∀ other, lowerCase other = "javascript" ∨ lowerCase other = "typescript" →
      extractFeatures code other = { extractFeatures code language with language := other } ∧
      suggestImprovements code other = suggestImprovements code language := by
  refine ⟨⟨_, get?_numFunctions h code, ?_, finds_functionOrArrow _⟩,
    ⟨_, get?_usesAsync h code, usesAsync_iff, usesAsync_iff_occursIn⟩,
    ⟨_, get?_hasTypes h code, hasTypes_iff, hasTypes_iff.trans occursIn_annotation_iff.symm⟩,
    ?_, ?_, ?_⟩
  · rw [countFunctions, countDelimited_eq, countSign_eq]
  · rw [suggestImprovements_eq h, ← wantsAsync_iff]
    split <;> simp_all
  · rw [suggestImprovements_eq h, ← wantsAsync_iff]
    split <;> simp_all
  · intro other hother
    refine ⟨?_, ?_⟩
    · simp only [extractFeatures, bundleFor?_of_javaScript h, bundleFor?_of_javaScript hother]
    · rw [suggestImprovements_eq h, suggestImprovements_eq hother]

/-- An arrow directly behind the word, and one word that goes on with a letter that is not plain. -/
theorem features_iff_positions_arrow :
    let code := "function=>functioné(): Promise"
    (lowerCase "JavaScript" = "javascript" ∨ lowerCase "JavaScript" = "typescript") ∧
      (extractFeatures code "JavaScript").get? "num_functions" = some (.count 2) ∧
      functionOrArrow.Finds code.toList 2 ∧
      suggestImprovements code "JavaScript" = [asyncSuggestion] := by
  intro code
  have hscript : lowerCase "JavaScript" = "javascript" ∨ lowerCase "JavaScript" = "typescript" :=
    .inl (by decide)
  obtain ⟨⟨n, hget, hn, hfinds⟩, -, -, -, -, -⟩ :=
    features_iff_positions code "JavaScript" hscript
  obtain rfl : n = 2 := by rw [hn]; decide +kernel
  refine ⟨hscript, hget, hfinds, ?_⟩
  rw [suggestImprovements_eq hscript, if_pos (by decide +kernel)]

end Critique.JavaScript
