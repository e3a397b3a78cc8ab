import Critique.Proofs.Language.JavaScript
import Critique.Proofs.Language.Python
import Critique.Proofs.Token.Join

/-!
# Keywords and tokens

Keywords are found in two ways.  A search counts the positions where a word stands alone, with no
word character of any script beside it.  The tokens of a text are cut by the narrow class of plain
word characters alone.  Each of the two is a number of positions: a word is a token as often as it
stands alone for the narrow class (`count_splitTokens`).  The wide class holds the narrow one, so
that the search never counts more than there are tokens, and it counts as many when the text has no
other word characters.

`tokensFrom` is what the comparison is carried along: the tokens that begin in the rest of a text,
without the end of a run that began before it.

Arrows are not tokens but two of them, `=` and `>`, which may have blanks between them.
-/

namespace Critique

open Text

/-! ## Tokens as positions -/

/-- The tokens that begin in a text.  `inRun` says whether the character before the text is a plain
word character, so that a run at the start of the text has begun before. -/
def tokensFrom (inRun : Bool) (text : List Char) : List (List Char) :=
  if inRun && plainAhead text then (splitTokens text).tail else splitTokens text

lemma tokensFrom_false (text : List Char) : tokensFrom false text = splitTokens text := by
  simp [tokensFrom]

lemma tokensFrom_of_plainAhead_eq_false {text : List Char} (h : plainAhead text = false)
    (inRun : Bool) : tokensFrom inRun text = splitTokens text := by
  simp [tokensFrom, h]

/-- A text that starts with a run has that run as its first token. -/
lemma splitTokens_cons_of_isPlain {c : Char} (hc : isPlain c = true) (cs : List Char) :
    splitTokens (c :: cs) = (c :: cs).takeWhile isPlain :: tokensFrom true cs := by
  induction cs generalizing c with
  | nil => simp [splitTokens, hc, plainAhead, pushToken, tokensFrom]
  | cons d cs ih =>
    rw [splitTokens, if_pos hc, List.takeWhile_cons_of_pos hc]
    by_cases hd : isPlain d = true
    · have hahead : plainAhead (d :: cs) = true := hd
      rw [tokensFrom, hahead, ih hd]
      rfl
    · have hahead : plainAhead (d :: cs) = false := Bool.eq_false_iff.2 hd
      rw [tokensFrom_of_plainAhead_eq_false hahead, hahead, List.takeWhile_cons_of_neg hd]
      cases splitTokens (d :: cs) <;> rfl

lemma tokensFrom_true_cons_of_isPlain {c : Char} (hc : isPlain c = true) (cs : List Char) :
    tokensFrom true (c :: cs) = tokensFrom true cs := by
  have hahead : plainAhead (c :: cs) = true := hc
  rw [tokensFrom, hahead, splitTokens_cons_of_isPlain hc]
  rfl

lemma splitTokens_cons_of_not_isPlain {c : Char} (hc : ¬ isPlain c = true) (cs : List Char) :
    splitTokens (c :: cs) = if isBlank c then splitTokens cs else [c] :: splitTokens cs := by
  rw [splitTokens, if_neg hc]

/-- A run that ends where it does is the longest run at the start of the text. -/
lemma takeWhile_isPlain_eq_iff {word text : List Char} (hword : ∀ c ∈ word, isPlain c = true) :
    text.takeWhile isPlain = word ↔
      word <+: text ∧ ∀ c ∈ (text.drop word.length).head?, isPlain c = false := by
  constructor
  · rintro rfl
    refine ⟨List.takeWhile_prefix isPlain, fun c hc => ?_⟩
    rw [Python.drop_length_takeWhile] at hc
    have hstop := List.head?_dropWhile_not isPlain text
    rw [Option.mem_def.1 hc] at hstop
    exact hstop
  · rintro ⟨⟨rest, rfl⟩, hstop⟩
    rw [List.drop_left] at hstop
    rw [List.takeWhile_append_of_pos hword]
    cases rest with
    | nil => simp
    | cons c rest =>
      rw [List.takeWhile_cons_of_neg (by simp [hstop c rfl]), List.append_nil]

/-- **Tokens as positions.**  A run of plain word characters is a token as often as it stands alone
for the narrow class. -/
lemma count_splitTokens {word : List Char} (hword : IsWordRun word) (text : List Char) :
    (splitTokens text).count word =
      Nat.count (StandsAloneAt isPlain word text) text.length := by
  rw [← tokensFrom_false]
  -- the text is read from the left; the state is whether a run is going on in front of what is left
  refine count_eq_of_step
    (f := fun front rest => (tokensFrom (front.getLast?.any isPlain) rest).count word) ?_ ?_
  · simp [tokensFrom, splitTokens]
  intro front c rest htext
  have hat : StandsAloneAt isPlain word text front.length ↔
      front.getLast?.any isPlain = false ∧ (c :: rest).takeWhile isPlain = word := by
    rw [htext, standsAloneAt_length_iff, takeWhile_isPlain_eq_iff hword.2, any_eq_false_iff]
  simp only [List.getLast?_concat, Option.any_some, hat]
  by_cases hc : isPlain c = true
  · cases front.getLast?.any isPlain with
    | true => simp [hc, tokensFrom_true_cons_of_isPlain hc]
    | false =>
      rw [tokensFrom_false, splitTokens_cons_of_isPlain hc, hc, List.count_cons]
      simp [Nat.add_comm]
  · have hahead : plainAhead (c :: rest) = false := Bool.eq_false_iff.2 hc
    have hempty : (c :: rest).takeWhile isPlain ≠ word := by
      rw [List.takeWhile_cons_of_neg hc]
      exact Ne.symm hword.1
    have hother : [c] ≠ word := by
      rintro rfl
      exact hc (hword.2 c List.mem_cons_self)
    rw [tokensFrom_of_plainAhead_eq_false hahead, splitTokens_cons_of_not_isPlain hc,
      Bool.eq_false_iff.2 hc, tokensFrom_false]
    split
    · simp [hempty]
    · simp [hempty, hother]

/-! ## Searches and tokens -/

section Keywords

variable {word : String} {code : String}

lemma count_tokenize (word code : String) :
    (tokenize code).count word = (splitTokens code.toList).count word.toList := by
  have hinjective : Function.Injective String.ofList := fun _ _ => String.ofList_injective
  rw [tokenize, ← List.count_map_of_injective _ _ hinjective, String.ofList_toList]

/-- A search never counts a word more often than it is a token. -/
lemma countDelimited_le_count (hword : IsWordRun word.toList) :
    countDelimited word.toList code.toList ≤ (tokenize code).count word := by
  rw [count_tokenize, count_splitTokens hword, countDelimited_eq]
  exact Nat.count_mono_left fun i _ halone => halone.mono fun c => isWord_of_isPlain

/-- It counts the word as often when all word characters of the text are plain. -/
lemma countDelimited_eq_count (hword : IsWordRun word.toList)
    (hplain : ∀ c ∈ code.toList, isWord c = true → isPlain c = true) :
    countDelimited word.toList code.toList = (tokenize code).count word := by
  have hclass : ∀ c ∈ code.toList, isPlain c = isWord c := fun c hc =>
    Bool.eq_iff_iff.2 ⟨isWord_of_isPlain, hplain c hc⟩
  refine le_antisymm (countDelimited_le_count hword) ?_
  rw [count_tokenize, count_splitTokens hword, countDelimited_eq]
  exact Nat.count_mono_left fun i _ halone => (standsAloneAt_congr hclass i).1 halone

/-- A search for the word as a pattern finds what is counted. -/
lemma finds_alone_of_isWordRun (hword : IsWordRun word.toList) :
    (Pattern.alone word.toList).Finds code.toList (countDelimited word.toList code.toList) :=
  Pattern.finds_alone hword.1 (fun c hc => isWord_of_isPlain (hword.2 c hc)) code.toList

lemma isWordRun_of_isTokenShaped {t : List Char} (h : isTokenShaped t = true)
    (hplain : plainAhead t = true) : IsWordRun t := by
  rcases isTokenShaped_iff.1 h with hrun | hsymbol
  · exact hrun
  · match t, hsymbol with
    | [c], ⟨hc, _⟩ => simp [plainAhead, hc] at hplain

end Keywords

/-! ## Arrows -/

/-- The pairs of entries that stand next to each other. -/
def neighbours {α : Type} (ts : List α) : List (α × α) :=
  ts.zip ts.tail

lemma neighbours_cons_cons {α : Type} (t u : α) (ts : List α) :
    neighbours (t :: u :: ts) = (t, u) :: neighbours (u :: ts) := rfl

section Arrows

variable {α : Type} [BEq α] {a b t : α}

lemma count_neighbours_le_cons (t : α) (ts : List α) :
    (neighbours ts).count (a, b) ≤ (neighbours (t :: ts)).count (a, b) := by
  cases ts with
  | nil => simp [neighbours]
  | cons u ts =>
    rw [neighbours_cons_cons]
    exact List.count_le_count_cons

lemma count_neighbours_cons_of_ne [LawfulBEq α] (h : t ≠ a) (ts : List α) :
    (neighbours (t :: ts)).count (a, b) = (neighbours ts).count (a, b) := by
  cases ts with
  | nil => simp [neighbours]
  | cons u ts =>
    rw [neighbours_cons_cons, List.count_cons_of_ne]
    simp [h]

end Arrows

/-- A character in front of a text takes no pair of signs away: it can only become part of a run,
and runs are no signs. -/
lemma count_neighbours_splitTokens_le {a b : List Char} (ha : ∀ c ∈ a, ¬ isPlain c = true)
    (c : Char) (cs : List Char) :
    (neighbours (splitTokens cs)).count (a, b) ≤
      (neighbours (splitTokens (c :: cs))).count (a, b) := by
  by_cases hc : isPlain c = true
  · rw [splitTokens_cons_of_isPlain hc]
    refine le_trans ?_ (count_neighbours_le_cons _ _)
    -- the run behind may have been a token of its own, but never a sign
    cases hahead : plainAhead cs with
    | false => rw [tokensFrom_of_plainAhead_eq_false hahead]
    | true =>
      cases cs with
      | nil => simp [plainAhead] at hahead
      | cons d cs =>
        have hd : isPlain d = true := hahead
        have hne : (d :: cs).takeWhile isPlain ≠ a := by
          rintro rfl
          rw [List.takeWhile_cons_of_pos hd] at ha
          exact ha d List.mem_cons_self hd
        rw [splitTokens_cons_of_isPlain hd, tokensFrom_true_cons_of_isPlain hd,
          count_neighbours_cons_of_ne hne]
  · rw [splitTokens_cons_of_not_isPlain hc]
    split
    · exact le_rfl
    · exact count_neighbours_le_cons _ _

/-- Every arrow is a pair of tokens. -/
lemma countSign_arrow_le (text : List Char) :
    countSign ['=', '>'] text ≤ (neighbours (splitTokens text)).count (['='], ['>']) := by
  induction text with
  | nil => simp [countSign]
  | cons c cs ih =>
    rw [countSign]
    split
    · -- an arrow that starts here is two tokens, and a pair of them
      rename_i hstart
      obtain ⟨rest, hrest⟩ := startsWith_iff.1 hstart
      obtain ⟨rfl, rfl⟩ : '=' = c ∧ '>' :: rest = cs := List.cons.inj hrest
      have hfirst : splitTokens ('=' :: '>' :: rest) = ['='] :: splitTokens ('>' :: rest) :=
        splitTokens_symbol_append (t := ['=']) ⟨by decide, by decide⟩ _
      have hsecond : splitTokens ('>' :: rest) = ['>'] :: splitTokens rest :=
        splitTokens_symbol_append (t := ['>']) ⟨by decide, by decide⟩ _
      rw [hsecond] at ih
      rw [hfirst, hsecond, neighbours_cons_cons, List.count_cons_self]
      omega
    · have hsign : ∀ d ∈ ['='], ¬ isPlain d = true := List.forall_mem_singleton.2 (by decide)
      rw [Nat.zero_add]
      exact ih.trans (count_neighbours_splitTokens_le hsign c cs)

lemma count_neighbours_tokenize (code : String) (a b : List Char) :
    (neighbours (tokenize code)).count (String.ofList a, String.ofList b) =
      (neighbours (splitTokens code.toList)).count (a, b) := by
  have hinjective : Function.Injective (Prod.map String.ofList String.ofList) := by
    rintro ⟨a, b⟩ ⟨c, d⟩ h
    obtain ⟨h₁, h₂⟩ := Prod.mk.inj h
    exact Prod.ext (String.ofList_injective h₁) (String.ofList_injective h₂)
  rw [← List.count_map_of_injective _ _ hinjective, neighbours, neighbours, tokenize,
    ← List.map_tail, List.zip_map]
  rfl

lemma countFunctions_le_count (code : String) :
    JavaScript.countFunctions code.toList ≤
      (tokenize code).count "function" + (neighbours (tokenize code)).count ("=", ">") := by
  have hrun : IsWordRun "function".toList := isWordRun_of_isTokenShaped (by decide) (by decide)
  have hword : countDelimited "function".toList code.toList ≤ (tokenize code).count "function" :=
    countDelimited_le_count hrun
  have harrow := countSign_arrow_le code.toList
  rw [← count_neighbours_tokenize] at harrow
  exact Nat.add_le_add hword harrow

/-! ## The features and the tokens -/

/-- **Keywords and tokens.**  For every text and language tag, the number of functions and classes of
a Python text is at most the number of tokens `def` and `class`; of a JavaScript text, the number of
functions is at most the number of tokens `function` and of pairs of a token `=` and a token `>`
behind it, the number of classes is at most the number of tokens `class`, and where the word `async`
stands alone it is a token.  When all word characters of the text are plain, the numbers of functions
of a Python text and of classes are those of the tokens, and the word `async` stands alone exactly
when it is a token.  The numbers are those that searches for the words as patterns find. -/
theorem keyword_counts_le_tokens (code : String) :
    (∀ language, lowerCase language = "python" → ∃ functions classes,
      (extractFeatures code language).get? "num_functions" = some (.count functions) ∧
      (extractFeatures code language).get? "num_classes" = some (.count classes) ∧
      (Pattern.alone "def".toList).Finds code.toList functions ∧
      (Pattern.alone "class".toList).Finds code.toList classes ∧
      functions ≤ (tokenize code).count "def" ∧ classes ≤ (tokenize code).count "class" ∧
      ((∀ c ∈ code.toList, isWord c = true → isPlain c = true) →
        functions = (tokenize code).count "def" ∧ classes = (tokenize code).count "class")) ∧
    ∀ language, lowerCase language = "javascript" ∨ lowerCase language = "typescript" →
      ∃ functions classes async,
        (extractFeatures code language).get? "num_functions" = some (.count functions) ∧
        (extractFeatures code language).get? "num_classes" = some (.count classes) ∧
        (extractFeatures code language).get? "uses_async" = some (.flag async) ∧
        JavaScript.functionOrArrow.Finds code.toList functions ∧
        (Pattern.alone "class".toList).Finds code.toList classes ∧
        functions ≤
          (tokenize code).count "function" + (neighbours (tokenize code)).count ("=", ">") ∧
        classes ≤ (tokenize code).count "class" ∧ (async = true → "async" ∈ tokenize code) ∧
        ((∀ c ∈ code.toList, isWord c = true → isPlain c = true) →
          classes = (tokenize code).count "class" ∧ (async = true ↔ "async" ∈ tokenize code)) := by
  have hdef : IsWordRun "def".toList := isWordRun_of_isTokenShaped (by decide) (by decide)
  have hclass : IsWordRun "class".toList := isWordRun_of_isTokenShaped (by decide) (by decide)
  have hasync : IsWordRun "async".toList := isWordRun_of_isTokenShaped (by decide) (by decide)
  refine ⟨fun language h => ?_, fun language h => ?_⟩
  · refine ⟨_, _, Python.get?_numFunctions h code, Python.get?_numClasses h code,
      finds_alone_of_isWordRun hdef, finds_alone_of_isWordRun hclass, countDelimited_le_count hdef,
      countDelimited_le_count hclass, fun hplain => ?_⟩
    exact ⟨countDelimited_eq_count hdef hplain, countDelimited_eq_count hclass hplain⟩
  · refine ⟨_, _, _, JavaScript.get?_numFunctions h code, JavaScript.get?_numClasses h code,
      JavaScript.get?_usesAsync h code, JavaScript.finds_functionOrArrow code.toList,
      finds_alone_of_isWordRun hclass, countFunctions_le_count code,
      countDelimited_le_count hclass, fun hon => ?_, fun hplain => ⟨?_, ?_⟩⟩
    · have hpos : 0 < countDelimited "async".toList code.toList := of_decide_eq_true hon
      exact List.count_pos_iff.1 (hpos.trans_le (countDelimited_le_count hasync))
    · exact countDelimited_eq_count hclass hplain
    · rw [← List.count_pos_iff, ← countDelimited_eq_count hasync hplain, JavaScript.usesAsync,
        decide_eq_true_iff]

/-- A letter that is not plain stands before the first `def`, so that only the second one is counted
but both are tokens; without that letter both are counted. -/
theorem keyword_counts_le_tokens_letter :
    lowerCase "Python" = "python" ∧
      (∃ functions, (extractFeatures "édef def" "Python").get? "num_functions" =
          some (.count functions) ∧ functions ≤ (tokenize "édef def").count "def") ∧
      (∀ c ∈ "+def def".toList, isWord c = true → isPlain c = true) ∧
      (extractFeatures "+def def" "Python").get? "num_functions" =
        some (.count ((tokenize "+def def").count "def")) ∧
      countDelimited "def".toList "édef def".toList < (tokenize "édef def").count "def" := by
  have hpython : lowerCase "Python" = "python" := by decide
  have hplain : ∀ c ∈ "+def def".toList, isWord c = true → isPlain c = true := by
    have hall : "+def def".toList.all (fun c => !isWord c || isPlain c) = true := by decide
    intro c hc hword
    simpa [hword] using List.all_eq_true.1 hall c hc
  obtain ⟨functions, _, hget, -, -, -, hle, -⟩ :=
    (keyword_counts_le_tokens "édef def").1 "Python" hpython
  obtain ⟨plainFunctions, _, hplainGet, -, -, -, -, -, heq⟩ :=
    (keyword_counts_le_tokens "+def def").1 "Python" hpython
  rw [(heq hplain).1] at hplainGet
  exact ⟨hpython, ⟨functions, hget, hle⟩, hplain, hplainGet, by decide +kernel⟩

end Critique
