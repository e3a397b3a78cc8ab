import Critique.Proofs.Review.Score

/-!
# Which weights count

A weight is looked up under a token.  So a keyword that is no token, such as `else if`, `=>` or a
word with a space at its end, is never looked up, and its entry could as well be left out
(`weigh_erase_of_notMem`).  A keyword that is a token is the only token of the text that consists of
it alone, and there its weight is all that counts.

The first half holds for all numbers.  The second half says that a score changes when the entry is
left out, and that needs a weight that shows: with floating-point numbers, any weight above zero
does (`zero_lt_min_one`).
-/

namespace Critique

open Text Decimal

/-! ## Keywords that are tokens -/

lemma isTokenShaped_of_mem_tokenize {code t : String} (h : t ∈ tokenize code) :
    isTokenShaped t.toList = true := by
  obtain ⟨u, hu, rfl⟩ := List.mem_map.1 h
  rw [String.toList_ofList]
  exact isTokenShaped_of_mem_splitTokens hu

lemma tokenize_of_isTokenShaped {k : String} (h : isTokenShaped k.toList = true) :
    tokenize k = [k] := by
  rw [tokenize, splitTokens_of_isTokenShaped h, List.map_singleton, String.ofList_toList]

namespace Weights

/-! ## Leaving out what is not looked up -/

section Lookup

variable {α : Type} {weights : Table α} {tokens : List String} {k : String}

/-- The entry of a keyword that is not among the tokens is not looked up. -/
lemma weigh_erase_of_notMem (h : k ∉ tokens) :
    weigh (weights.erase k) tokens = weigh weights tokens := by
  refine List.filterMap_congr fun t ht => ?_
  have hne : t ≠ k := fun heq => h (heq ▸ ht)
  rw [Table.get?_erase, if_neg hne]

/-- Tokens without an entry add nothing. -/
lemma weigh_filter_names (weights : Table α) (tokens : List String) :
    weigh weights (tokens.filter (· ∈ weights.names)) = weigh weights tokens := by
  rw [weigh, List.filterMap_filter]
  refine List.filterMap_congr fun t _ => ?_
  by_cases ht : t ∈ weights.names
  · simp [ht]
  · have hnone : weights.get? t = none := by simpa [Table.mem_names_iff] using ht
    simp [ht, hnone]

variable [OfNat α 0] [OfNat α 1] [Add α] [Min α]

lemma score_erase_of_not_isTokenShaped (h : ¬ isTokenShaped k.toList = true) (code : String) :
    score (weights.erase k) code = score weights code := by
  have hk : k ∉ tokenize code := fun hmem => h (isTokenShaped_of_mem_tokenize hmem)
  rw [score, scoreTokens, total, weigh_erase_of_notMem hk]
  rfl

lemma score_self {w : α} (h : isTokenShaped k.toList = true) (hw : weights.get? k = some w) :
    score weights k = min (0 + w) 1 := by
  simp [score, scoreTokens, total, weigh, tokenize_of_isTokenShaped h, hw]

lemma score_erase_self (h : isTokenShaped k.toList = true) :
    score (weights.erase k) k = min 0 1 := by
  simp [score, scoreTokens, total, weigh, tokenize_of_isTokenShaped h]

end Lookup

/-! ## Weights that show -/

/-- A positive weight is a positive score, also with the rounding of floating-point numbers. -/
lemma zero_lt_min_one {w : Float} (hw : 0 < w) : 0 < min (0 + w) 1 := by
  -- a sum from zero is not rounded, so the weight is still positive
  rw [float_zero_add hw]
  by_cases h : w ≤ 1
  · rwa [growingSums_float.min_of_le w h]
  · rw [growingSums_float.min_of_not_le w h]
    decide

/-- **Which weights count.**  For every table of weights, over any numbers, and every text:

* the score is that of the tokens of the text that have an entry, in their order;
* an entry whose keyword is neither a run of word characters nor one single symbol can be left out
  without changing the score;
* and an entry whose keyword is one of these counts in the text that is the keyword: this text has
  that one token, and scores the weight, or one if that is less.

So an entry with a positive floating-point weight changes the score of some text exactly when its
keyword has the shape of a token. -/
theorem entry_counts_iff_token :
    (∀ (α : Type) [OfNat α 0] [OfNat α 1] [Add α] [Min α] (weights : Table α),
      (∀ code, score weights code =
        scoreTokens weights ((tokenize code).filter (· ∈ weights.names))) ∧
      ∀ k : String,
        (¬ (IsWordRun k.toList ∨ IsSymbol k.toList) →
          ∀ code, score (weights.erase k) code = score weights code) ∧
        (IsWordRun k.toList ∨ IsSymbol k.toList →
          tokenize k = [k] ∧ score (weights.erase k) k = min 0 1 ∧
          ∀ w, weights.get? k = some w → score weights k = min (0 + w) 1)) ∧
    ∀ (weights : Table Float) (k : String) (w : Float), weights.get? k = some w → 0 < w →
      ((∃ code, score (weights.erase k) code ≠ score weights code) ↔
        IsWordRun k.toList ∨ IsSymbol k.toList) := by
  refine ⟨?_, ?_⟩
  · intro α _ _ _ _ weights
    refine ⟨fun code => ?_, fun k => ⟨fun h code => ?_, fun h => ?_⟩⟩
    · rw [score, scoreTokens, scoreTokens, total, total, weigh_filter_names]
    · rw [← isTokenShaped_iff] at h
      exact score_erase_of_not_isTokenShaped h code
    · rw [← isTokenShaped_iff] at h
      exact ⟨tokenize_of_isTokenShaped h, score_erase_self h, fun w hw => score_self h hw⟩
  · intro weights k w hw hpos
    rw [← isTokenShaped_iff]
    constructor
    · rintro ⟨code, hne⟩
      by_contra h
      exact hne (score_erase_of_not_isTokenShaped h code)
    · intro h
      -- the keyword is its own text: with the entry it scores more than zero, without it zero
      refine ⟨k, fun heq => ?_⟩
      rw [score_erase_self h, score_self h hw] at heq
      have hlt := zero_lt_min_one hpos
      rw [← heq] at hlt
      exact absurd hlt (by decide)

/-- Five keywords that no text has as a token, and two that some text has, one of them a letter
outside of the plain word characters. -/
theorem entry_counts_iff_token_operators :
    let exact : Table ℚ := .ofList [("else if", 1), ("=>", 1), ("né", 1), (" if", 1), ("", 1),
      ("é", 1 / 4), ("if_1", 2)]
    let rounded : Table Float := .ofList [("=>", 0.5), ("é", 0.25)]
    (∀ code, score (exact.erase "else if") code = score exact code) ∧
      (∀ code, score (exact.erase "=>") code = score exact code) ∧
      (∀ code, score (exact.erase "né") code = score exact code) ∧
      (∀ code, score (exact.erase " if") code = score exact code) ∧
      (∀ code, score (exact.erase "") code = score exact code) ∧
      (tokenize "é" = ["é"] ∧ score exact "é" = min (0 + 1 / 4) 1) ∧
      (tokenize "if_1" = ["if_1"] ∧ score exact "if_1" = min (0 + 2) 1) ∧
      (∃ code, score (rounded.erase "é") code ≠ score rounded code) ∧
      ¬ ∃ code, score (rounded.erase "=>") code ≠ score rounded code := by
  intro exact rounded
  obtain ⟨hall, hfloat⟩ := entry_counts_iff_token
  obtain ⟨-, hentry⟩ := hall ℚ exact
  have hnot : ∀ k : String, isTokenShaped k.toList = false →
      ¬ (IsWordRun k.toList ∨ IsSymbol k.toList) := by
    intro k hk h
    rw [isTokenShaped_iff.2 h] at hk
    cases hk
  have hword : ∀ k : String, isTokenShaped k.toList = true →
      IsWordRun k.toList ∨ IsSymbol k.toList := fun k hk => isTokenShaped_iff.1 hk
  refine ⟨(hentry "else if").1 (hnot _ (by decide)), (hentry "=>").1 (hnot _ (by decide)),
    (hentry "né").1 (hnot _ (by decide)), (hentry " if").1 (hnot _ (by decide)),
    (hentry "").1 (hnot _ (by decide)), ?_, ?_, ?_, ?_⟩
  · obtain ⟨htokens, -, hscore⟩ := (hentry "é").2 (hword _ (by decide))
    exact ⟨htokens, hscore _ (by decide +kernel)⟩
  · obtain ⟨htokens, -, hscore⟩ := (hentry "if_1").2 (hword _ (by decide))
    exact ⟨htokens, hscore _ (by decide +kernel)⟩
  · exact (hfloat rounded "é" 0.25 (by decide +kernel) (by decide)).2 (hword _ (by decide))
  · rw [hfloat rounded "=>" 0.5 (by decide +kernel) (by decide)]
    exact hnot _ (by decide)

end Weights

end Critique
