import Critique.Proofs.Token.Decomposition

/-!
# Tokens of texts put together

The tokens of two texts one after the other are the tokens of the first and then those of the
second, unless the seam lies inside a run of word characters (`MeetInRun`).  In that case the run
goes on over the seam: the last token of the first text and the first of the second are one token.

Both laws are proved along the first text, with `pushToken` as the step: what a character does to
the tokens behind it does not depend on the tokens after the first (`pushToken_append`), and at the
seam it fuses in the same way with a token that has grown at its end (`exists_pushToken_fused`).

A space is no word character, so tokens with single spaces between them are read back.  The tokens
of a text are tokens, and so they are found again when they are joined.
-/

namespace Critique

open Text

/-- The seam between two texts lies inside a run of word characters: the first text ends in one
and the second starts with one. -/
def MeetInRun (a b : List Char) : Prop :=
  (∃ c ∈ a.getLast?, isPlain c = true) ∧ ∃ c ∈ b.head?, isPlain c = true

/-! ## The shape of a token -/

lemma isTokenShaped_iff {t : List Char} :
    isTokenShaped t = true ↔ IsWordRun t ∨ IsSymbol t := by
  match t with
  | [] => simp [isTokenShaped, IsWordRun, IsSymbol]
  | [c] =>
    cases hplain : isPlain c with
    | true => simp [isTokenShaped, IsWordRun, hplain]
    | false => simp [isTokenShaped, IsWordRun, IsSymbol, hplain]
  | c :: d :: t => simp [isTokenShaped, IsWordRun, IsSymbol]

lemma isTokenShaped_of_mem_splitTokens {text t : List Char} (h : t ∈ splitTokens text) :
    isTokenShaped t = true := by
  obtain ⟨lead, parts, hparts⟩ := exists_decomposition text
  rw [hparts.splitTokens_eq] at h
  obtain ⟨p, hp, rfl⟩ := List.mem_map.1 h
  exact isTokenShaped_iff.2 (hparts.token p hp)

/-- A token alone is its own list of tokens. -/
lemma splitTokens_of_isTokenShaped {t : List Char} (h : isTokenShaped t = true) :
    splitTokens t = [t] := by
  have hempty : plainAhead [] = false := rfl
  rcases isTokenShaped_iff.1 h with hrun | hsymbol
  · simpa [splitTokens] using splitTokens_wordRun_append hrun hempty
  · simpa [splitTokens] using splitTokens_symbol_append hsymbol []

/-! ## The seam -/

section Seam

variable {a b : List Char}

lemma plainAhead_iff {cs : List Char} :
    plainAhead cs = true ↔ ∃ c ∈ cs.head?, isPlain c = true := by
  cases cs with
  | nil => simp [plainAhead]
  | cons c cs => simp [plainAhead]

lemma MeetInRun.cons (c : Char) (h : MeetInRun a b) : MeetInRun (c :: a) b := by
  obtain ⟨⟨d, hd, hplain⟩, hb⟩ := h
  refine ⟨⟨d, ?_, hplain⟩, hb⟩
  cases a with
  | nil => simp at hd
  | cons e a => rwa [List.getLast?_cons_cons]

lemma MeetInRun.tail {c : Char} (h : MeetInRun (c :: a) b) (ha : a ≠ []) : MeetInRun a b := by
  obtain ⟨⟨d, hd, hplain⟩, hb⟩ := h
  obtain ⟨e, a, rfl⟩ := List.exists_cons_of_ne_nil ha
  rw [List.getLast?_cons_cons] at hd
  exact ⟨⟨d, hd, hplain⟩, hb⟩

/-- A text that starts with a word character has a first token. -/
lemma splitTokens_ne_nil {cs : List Char} (h : plainAhead cs = true) : splitTokens cs ≠ [] := by
  cases cs with
  | nil => simp [plainAhead] at h
  | cons c cs =>
    have hplain : isPlain c = true := h
    rw [splitTokens, if_pos hplain]
    cases splitTokens cs with
    | nil => simp [pushToken]
    | cons t ts => cases plainAhead cs <;> simp [pushToken]

lemma pushToken_append {fuse : Bool} {ts : List (List Char)} (h : fuse = true → ts ≠ [])
    (c : Char) (us : List (List Char)) :
    pushToken fuse c (ts ++ us) = pushToken fuse c ts ++ us := by
  cases ts with
  | nil =>
    have hfuse : fuse = false := by simpa using h
    subst hfuse
    cases us <;> rfl
  | cons t ts => cases fuse <;> rfl

/-- Apart from runs that go on over the seam, the tokens of two texts stay as they are. -/
lemma splitTokens_append (h : ¬ MeetInRun a b) :
    splitTokens (a ++ b) = splitTokens a ++ splitTokens b := by
  induction a with
  | nil => rfl
  | cons c a ih =>
    have hrest := ih fun hmeet => h (hmeet.cons c)
    rw [List.cons_append, splitTokens, splitTokens, hrest]
    split_ifs with hplain hblank
    · have hahead : plainAhead (a ++ b) = plainAhead a := by
        cases a with
        | cons d a => rfl
        | nil =>
          rw [List.nil_append, plainAhead, ← Bool.not_eq_true]
          intro hb
          exact h ⟨⟨c, rfl, hplain⟩, plainAhead_iff.1 hb⟩
      rw [hahead, pushToken_append splitTokens_ne_nil]
    · rfl
    · rfl

/-- A character in front does the same to tokens whose last one ends in `u` as to tokens where that
one goes on with `v`. -/
lemma exists_pushToken_fused (fuse : Bool) (c : Char) (ts : List (List Char)) (u : List Char) :
    ∃ ts' u', pushToken fuse c (ts ++ [u]) = ts' ++ [u'] ∧
      ∀ v us, pushToken fuse c (ts ++ (u ++ v) :: us) = ts' ++ (u' ++ v) :: us := by
  cases ts with
  | nil =>
    cases fuse with
    | true => exact ⟨[], c :: u, rfl, fun v us => rfl⟩
    | false => exact ⟨[[c]], u, rfl, fun v us => rfl⟩
  | cons t ts =>
    cases fuse with
    | true => exact ⟨(c :: t) :: ts, u, rfl, fun v us => rfl⟩
    | false => exact ⟨[c] :: t :: ts, u, rfl, fun v us => rfl⟩

/-- At a seam inside a run, the last token of the first text and the first of the second are one
token. -/
lemma exists_splitTokens_append_fused (h : MeetInRun a b) :
    ∃ ts u v us, splitTokens a = ts ++ [u] ∧ splitTokens b = v :: us ∧
      splitTokens (a ++ b) = ts ++ (u ++ v) :: us := by
  have hahead : plainAhead b = true := plainAhead_iff.2 h.2
  obtain ⟨v, us, hb⟩ := List.exists_cons_of_ne_nil (splitTokens_ne_nil hahead)
  induction a with
  | nil => simp [MeetInRun] at h
  | cons c a ih =>
    -- the seam is behind the last character of `a`; in front of it both texts are cut alike
    by_cases ha : a = []
    · subst ha
      have hplain : isPlain c = true := by simpa using h.1
      refine ⟨[], [c], v, us, ?_, hb, ?_⟩
      · rw [splitTokens, if_pos hplain]
        rfl
      · rw [List.singleton_append, splitTokens, if_pos hplain, hahead, hb]
        rfl
    · obtain ⟨ts, u, v, us, hfirst, hsecond, hboth⟩ := ih (h.tail ha)
      have hnext : plainAhead (a ++ b) = plainAhead a := by
        obtain ⟨d, a, rfl⟩ := List.exists_cons_of_ne_nil ha
        rfl
      rw [List.cons_append, splitTokens, splitTokens, hfirst, hboth, hnext]
      split_ifs with hplain hblank
      · obtain ⟨ts', u', hpush, hfused⟩ := exists_pushToken_fused (plainAhead a) c ts u
        exact ⟨ts', u', v, us, hpush, hsecond, hfused v us⟩
      · exact ⟨ts, u, v, us, rfl, hsecond, rfl⟩
      · exact ⟨[c] :: ts, u, v, us, rfl, hsecond, rfl⟩

end Seam

/-! ## Tokens joined by spaces -/

lemma splitTokens_intercalate {ts : List (List Char)} (h : ∀ t ∈ ts, isTokenShaped t = true) :
    splitTokens ([' '].intercalate ts) = ts := by
  induction ts with
  | nil => rfl
  | cons t ts ih =>
    obtain ⟨ht, hts⟩ := List.forall_mem_cons.1 h
    cases ts with
    | nil => rw [List.intercalate_singleton, splitTokens_of_isTokenShaped ht]
    | cons u ts =>
      -- a space is no word character, so no token grows over it
      have hseam : ¬ MeetInRun t (' ' :: [' '].intercalate (u :: ts)) := by
        rintro ⟨-, c, hc, hplain⟩
        obtain rfl : ' ' = c := by simpa using hc
        exact absurd hplain (by decide)
      rw [List.intercalate_cons_cons, List.append_assoc, List.singleton_append,
        splitTokens_append hseam, splitTokens_of_isTokenShaped ht, splitTokens,
        if_neg (by decide), if_pos (by decide), ih hts]
      rfl

lemma map_toList_tokenize (code : String) :
    (tokenize code).map String.toList = splitTokens code.toList := by
  simp [tokenize, Function.comp_def]

/-- **Tokens of texts put together.**  Tokens with single spaces between them are read back; the
tokens of two texts one after the other are the tokens of each, unless the first ends and the second
starts in a word character; in that case the last token of the first and the first token of the
second are one token, and nothing else changes.  So the tokens of a text, joined by spaces, have the
same tokens as the text. -/
theorem tokenize_joined_texts :
    (∀ ts : List String, (∀ t ∈ ts, isTokenShaped t.toList = true) →
      tokenize (" ".intercalate ts) = ts) ∧
    (∀ a b : String, ¬ MeetInRun a.toList b.toList →
      tokenize (a ++ b) = tokenize a ++ tokenize b) ∧
    (∀ a b : String, MeetInRun a.toList b.toList →
      ∃ ts u v us, tokenize a = ts ++ [u] ∧ tokenize b = v :: us ∧
        tokenize (a ++ b) = ts ++ (u ++ v) :: us) ∧
    ∀ code : String, tokenize (" ".intercalate (tokenize code)) = tokenize code := by
  -- the last part is the first one for tokens, which have the shape of tokens
  have hjoin : ∀ ts : List String, (∀ t ∈ ts, isTokenShaped t.toList = true) →
      tokenize (" ".intercalate ts) = ts := by
    intro ts h
    rw [tokenize, String.toList_intercalate]
    have hshaped : ∀ t ∈ ts.map String.toList, isTokenShaped t = true := by
      simpa using h
    rw [show " ".toList = [' '] from rfl, splitTokens_intercalate hshaped]
    simp [Function.comp_def]
  refine ⟨hjoin, ?_, ?_, ?_⟩
  · intro a b h
    rw [tokenize, String.toList_append, splitTokens_append h, List.map_append]
    rfl
  · intro a b h
    obtain ⟨ts, u, v, us, ha, hb, hab⟩ := exists_splitTokens_append_fused h
    refine ⟨ts.map String.ofList, .ofList u, .ofList v, us.map String.ofList, ?_, ?_, ?_⟩
    · rw [tokenize, ha, List.map_append]
      rfl
    · rw [tokenize, hb, List.map_cons]
    · rw [tokenize, String.toList_append, hab, List.map_append, List.map_cons, String.ofList_append]
  · intro code
    refine hjoin (tokenize code) fun t ht => ?_
    have hmem : t.toList ∈ splitTokens code.toList := by
      rw [← map_toList_tokenize]
      exact List.mem_map_of_mem ht
    exact isTokenShaped_of_mem_splitTokens hmem

/-- An identifier cut in two, behind a letter that is no plain word character. -/
theorem tokenize_joined_texts_identifier :
    (∀ t ∈ ["x", "é", "=", "1"], isTokenShaped t.toList = true) ∧
      tokenize (" ".intercalate ["x", "é", "=", "1"]) = ["x", "é", "=", "1"] ∧
      ¬ MeetInRun "x".toList "é = 1".toList ∧
      tokenize ("x" ++ "é = 1") = tokenize "x" ++ tokenize "é = 1" ∧
      MeetInRun "a = x_".toList "1y + 2".toList ∧
      ∃ ts u v us, tokenize "a = x_" = ts ++ [u] ∧ tokenize "1y + 2" = v :: us ∧
        tokenize ("a = x_" ++ "1y + 2") = ts ++ (u ++ v) :: us := by
  obtain ⟨hjoin, happend, hfused, -⟩ := tokenize_joined_texts
  have hshaped : ∀ t ∈ ["x", "é", "=", "1"], isTokenShaped t.toList = true := by decide
  have hapart : ¬ MeetInRun "x".toList "é = 1".toList := by
    rintro ⟨-, c, hc, hplain⟩
    obtain rfl : 'é' = c := by simpa using hc
    exact absurd hplain (by decide)
  have hmeet : MeetInRun "a = x_".toList "1y + 2".toList :=
    ⟨⟨'_', rfl, by decide⟩, ⟨'1', rfl, by decide⟩⟩
  exact ⟨hshaped, hjoin _ hshaped, hapart, happend _ _ hapart, hmeet, hfused _ _ hmeet⟩

end Critique
