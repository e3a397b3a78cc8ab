import Critique.Token
import Mathlib

/-!
# Tokens and the white space between them

A text is a sequence of tokens with white space around them, `s₀ t₁ s₁ … tₙ sₙ`.  The white space
may be missing, but not between two runs of word characters, which would be one run.  This module
says that the tokens of a text are the only ones with which it can be written like that.

`Decomposition` is the written form: `lead` is `s₀`, and each part is a token with the white space
behind it.  That there is one is proved along the text (`exists_decomposition`), and that there is
no other along the parts (`Decomposition.splitTokens_eq`).  The second direction needs to know how
`splitTokens` treats what is put in front of a text: blanks, a run, or a symbol.
-/

namespace Critique

open Text

/-- A run of plain word characters. -/
def IsWordRun (t : List Char) : Prop :=
  t ≠ [] ∧ ∀ c ∈ t, isPlain c = true

/-- One character that is neither a plain word character nor white space. -/
def IsSymbol : List Char → Prop
  | [c] => isPlain c = false ∧ isBlank c = false
  | _ => False

/-- The text in which `lead` is followed by the parts, each a token and what stands behind it. -/
def weave (lead : List Char) : (parts : List (List Char × List Char)) → List Char
  | [] => lead
  | (token, gap) :: parts => lead ++ token ++ weave gap parts

/-- The text is written with tokens and white space around them, and two runs of word characters
have some white space between them. -/
structure Decomposition (text lead : List Char) (parts : List (List Char × List Char)) : Prop where
  text_eq : text = weave lead parts
  lead_blank : ∀ c ∈ lead, isBlank c = true
  gap_blank : ∀ p ∈ parts, ∀ c ∈ p.2, isBlank c = true
  token : ∀ p ∈ parts, IsWordRun p.1 ∨ IsSymbol p.1
  apart : parts.IsChain fun p q => IsWordRun p.1 → IsWordRun q.1 → p.2 ≠ []

/-! ## Classes of characters -/

lemma isBlank_eq_false_of_isPlain {c : Char} (h : isPlain c = true) : isBlank c = false := by
  have hle : c.toNat < 128 := by
    simp only [isPlain, Char.isAlpha, Char.isUpper, Char.isLower, Char.isDigit, Bool.or_eq_true,
      Bool.and_eq_true, decide_eq_true_eq, beq_iff_eq, UInt32.le_iff_toNat_le] at h
    rcases h with ((⟨-, h⟩ | ⟨-, h⟩) | ⟨-, h⟩) | rfl
    · exact Nat.lt_of_le_of_lt h (by decide)
    · exact Nat.lt_of_le_of_lt h (by decide)
    · exact Nat.lt_of_le_of_lt h (by decide)
    · decide
  have hall : ∀ n < 128, isPlain (Char.ofNat n) = true → isBlank (Char.ofNat n) = false := by decide
  have hchar : Char.ofNat c.toNat = c := Char.ofNat_toNat c
  rw [← hchar] at h ⊢
  exact hall c.toNat hle h

lemma IsSymbol.not_isWordRun {t : List Char} (h : IsSymbol t) : ¬ IsWordRun t := by
  intro hrun
  match t, h with
  | [c], ⟨hplain, _⟩ =>
    have := hrun.2 c List.mem_cons_self
    simp [hplain] at this

/-! ## Something in front of a text -/

lemma splitTokens_blank_append {gap : List Char} (h : ∀ c ∈ gap, isBlank c = true)
    (cs : List Char) : splitTokens (gap ++ cs) = splitTokens cs := by
  induction gap with
  | nil => rfl
  | cons c gap ih =>
    have hblank := h c List.mem_cons_self
    have hplain : isPlain c = false := by
      by_contra hplain
      rw [Bool.not_eq_false] at hplain
      simp [isBlank_eq_false_of_isPlain hplain] at hblank
    rw [List.cons_append, splitTokens, if_neg (by simp [hplain]), if_pos hblank]
    exact ih fun d hd => h d (List.mem_cons_of_mem c hd)

/-- A run of word characters in front of a text is a token when the text does not go on with it. -/
lemma splitTokens_wordRun_append {t cs : List Char} (h : IsWordRun t)
    (hcs : plainAhead cs = false) : splitTokens (t ++ cs) = t :: splitTokens cs := by
  obtain ⟨hne, hplain⟩ := h
  induction t with
  | nil => exact absurd rfl hne
  | cons c t ih =>
    have hc := hplain c List.mem_cons_self
    have hrest : ∀ d ∈ t, isPlain d = true := fun d hd => hplain d (List.mem_cons_of_mem c hd)
    rw [List.cons_append, splitTokens, if_pos hc]
    cases t with
    | nil =>
      rw [List.nil_append, hcs]
      cases splitTokens cs <;> rfl
    | cons d t =>
      have hahead : plainAhead (d :: t ++ cs) = true := hrest d List.mem_cons_self
      rw [hahead, ih (List.cons_ne_nil d t) hrest]
      rfl

lemma splitTokens_symbol_append {t : List Char} (h : IsSymbol t) (cs : List Char) :
    splitTokens (t ++ cs) = t :: splitTokens cs := by
  match t, h with
  | [c], ⟨hplain, hblank⟩ =>
    rw [List.singleton_append, splitTokens, if_neg (by simp [hplain]), if_neg (by simp [hblank])]

/-! ## No other decomposition -/

section Unique

variable {text lead token gap : List Char} {parts : List (List Char × List Char)}

/-- What stands behind the first token is decomposed by the other parts. -/
lemma Decomposition.tail (h : Decomposition text lead ((token, gap) :: parts)) :
    Decomposition (weave gap parts) gap parts where
  text_eq := rfl
  lead_blank := h.gap_blank _ List.mem_cons_self
  gap_blank p hp := h.gap_blank p (List.mem_cons_of_mem _ hp)
  token p hp := h.token p (List.mem_cons_of_mem _ hp)
  apart := h.apart.tail

/-- A text starts with a word character only where its first token does and nothing stands before
it. -/
lemma Decomposition.of_plainAhead (h : Decomposition text lead parts)
    (hplain : plainAhead text = true) :
    lead = [] ∧ ∃ t gap rest, parts = (t, gap) :: rest ∧ IsWordRun t := by
  -- neither a blank nor a symbol is a word character
  have hlead : lead = [] := by
    cases hl : lead with
    | nil => rfl
    | cons c cs =>
      have hblank := h.lead_blank c (hl ▸ List.mem_cons_self)
      have hc : isPlain c = true := by
        rw [h.text_eq, hl] at hplain
        cases parts with
        | nil => exact hplain
        | cons p parts => exact hplain
      simp [isBlank_eq_false_of_isPlain hc] at hblank
  subst hlead
  cases parts with
  | nil => simp [h.text_eq, weave, plainAhead] at hplain
  | cons p parts =>
    obtain ⟨t, gap⟩ := p
    refine ⟨rfl, t, gap, parts, rfl, ?_⟩
    rcases h.token (t, gap) List.mem_cons_self with hrun | hsymbol
    · exact hrun
    · match t, hsymbol with
      | [c], ⟨hc, _⟩ =>
        have hplain' : isPlain c = true := by
          rw [h.text_eq] at hplain
          exact hplain
        simp [hc] at hplain'

/-- Behind a run of word characters the text does not go on with one. -/
lemma Decomposition.plainAhead_tail (h : Decomposition text lead ((token, gap) :: parts))
    (hrun : IsWordRun token) : plainAhead (weave gap parts) = false := by
  by_contra hplain
  rw [Bool.not_eq_false] at hplain
  obtain ⟨rfl, t, gap', rest, rfl, hnext⟩ := h.tail.of_plainAhead hplain
  exact (List.isChain_cons_cons.1 h.apart).1 hrun hnext rfl

/-- **There is no other.**  The tokens of a decomposition are the tokens of the text. -/
lemma Decomposition.splitTokens_eq (h : Decomposition text lead parts) :
    splitTokens text = parts.map Prod.fst := by
  induction parts generalizing text lead with
  | nil =>
    have hblank := splitTokens_blank_append h.lead_blank []
    rw [List.append_nil] at hblank
    rw [h.text_eq]
    exact hblank
  | cons p parts ih =>
    -- the blanks in front are skipped and the first token is cut off; the rest is a decomposition
    obtain ⟨t, gap⟩ := p
    rw [h.text_eq, weave, List.append_assoc, splitTokens_blank_append h.lead_blank]
    have hrest := ih h.tail
    rcases h.token (t, gap) List.mem_cons_self with hrun | hsymbol
    · rw [splitTokens_wordRun_append hrun (h.plainAhead_tail hrun), hrest, List.map_cons]
    · rw [splitTokens_symbol_append hsymbol, hrest, List.map_cons]

end Unique

/-! ## A decomposition of every text -/

/-- One character in front of a decomposed text, as a token of its own. -/
lemma Decomposition.cons_token {c : Char} {text lead : List Char}
    {parts : List (List Char × List Char)} (h : Decomposition text lead parts)
    (hc : IsWordRun [c] ∨ IsSymbol [c]) (hahead : IsWordRun [c] → plainAhead text = false) :
    Decomposition (c :: text) [] (([c], lead) :: parts) where
  text_eq := by rw [h.text_eq]; rfl
  lead_blank := fun d hd => absurd hd List.not_mem_nil
  gap_blank p hp := by
    rcases List.mem_cons.1 hp with rfl | hp
    · exact h.lead_blank
    · exact h.gap_blank p hp
  token p hp := by
    rcases List.mem_cons.1 hp with rfl | hp
    · exact hc
    · exact h.token p hp
  apart := by
    refine List.isChain_cons.2 ⟨fun q hq hrun hnext hlead => ?_, h.apart⟩
    -- a run directly behind the character would make the text go on with it
    have hplain := hahead hrun
    cases parts with
    | nil => cases hq
    | cons p parts =>
      obtain ⟨t, gap⟩ := p
      cases hq
      obtain ⟨d, t, rfl⟩ := List.exists_cons_of_ne_nil hnext.1
      have hd : isPlain d = true := hnext.2 d List.mem_cons_self
      have hlead' : lead = [] := hlead
      rw [h.text_eq, hlead'] at hplain
      simp [weave, plainAhead, hd] at hplain

lemma exists_decomposition (text : List Char) : ∃ lead parts, Decomposition text lead parts := by
  induction text with
  | nil =>
    exact ⟨[], [], rfl, by simp, by simp, by simp, .nil⟩
  | cons c text ih =>
    -- from the right: `c` joins the run behind it, is a token of its own, or a blank in front
    obtain ⟨lead, parts, h⟩ := ih
    by_cases hplain : isPlain c = true
    · by_cases hahead : plainAhead text = true
      · -- the character joins the run behind it
        obtain ⟨rfl, t, gap, rest, rfl, hrun⟩ := h.of_plainAhead hahead
        have hjoined : IsWordRun (c :: t) :=
          ⟨List.cons_ne_nil c t, List.forall_mem_cons.2 ⟨hplain, hrun.2⟩⟩
        refine ⟨[], (c :: t, gap) :: rest, ⟨?_, h.lead_blank, ?_, ?_, ?_⟩⟩
        · rw [h.text_eq]
          rfl
        · intro p hp
          rcases List.mem_cons.1 hp with rfl | hp
          · exact h.gap_blank (t, gap) List.mem_cons_self
          · exact h.gap_blank p (List.mem_cons_of_mem _ hp)
        · intro p hp
          rcases List.mem_cons.1 hp with rfl | hp
          · exact .inl hjoined
          · exact h.token p (List.mem_cons_of_mem _ hp)
        · obtain ⟨hfirst, hrest⟩ := List.isChain_cons.1 h.apart
          exact List.isChain_cons.2 ⟨fun q hq _ => hfirst q hq hrun, hrest⟩
      · have hrun : IsWordRun [c] := ⟨List.cons_ne_nil c [], by simpa using hplain⟩
        exact ⟨_, _, h.cons_token (.inl hrun) fun _ => Bool.eq_false_iff.2 hahead⟩
    · by_cases hblank : isBlank c = true
      · refine ⟨c :: lead, parts, ?_, List.forall_mem_cons.2 ⟨hblank, h.lead_blank⟩, h.gap_blank,
          h.token, h.apart⟩
        rw [h.text_eq]
        cases parts <;> rfl
      · have hsymbol : IsSymbol [c] := ⟨Bool.eq_false_iff.2 hplain, Bool.eq_false_iff.2 hblank⟩
        exact ⟨_, _, h.cons_token (.inr hsymbol) fun hrun => absurd hrun hsymbol.not_isWordRun⟩

/-! ## The characters of the tokens -/

lemma flatten_pushToken (fuse : Bool) (c : Char) (ts : List (List Char)) :
    (pushToken fuse c ts).flatten = c :: ts.flatten := by
  cases ts with
  | nil => rfl
  | cons t ts => cases fuse <;> rfl

/-- Nothing but white space is lost, and nothing is added or moved. -/
lemma flatten_splitTokens (text : List Char) :
    (splitTokens text).flatten = text.filter fun c => !isBlank c := by
  induction text with
  | nil => rfl
  | cons c text ih =>
    rw [splitTokens]
    split_ifs with hplain hblank
    · rw [flatten_pushToken, ih,
        List.filter_cons_of_pos (by simp [isBlank_eq_false_of_isPlain hplain])]
    · rw [ih, List.filter_cons_of_neg (by simp [hblank])]
    · rw [List.flatten_cons, ih, List.filter_cons_of_pos (by simp [hblank])]
      rfl

/-- **The tokens of a text.**  Every text can be written as `s₀ t₁ s₁ … tₙ sₙ` with white space
`sᵢ`, tokens `tᵢ` that are runs of word characters or single symbols, and some white space between
any two runs; a list of tokens is the list of tokens of the text exactly when the text can be
written with it; and the tokens one after another are the text without its white space. -/
theorem tokenize_eq_iff_decomposition (code : String) :
    (∀ ts : List String, tokenize code = ts ↔
      ∃ lead parts, Decomposition code.toList lead parts ∧
        ts = parts.map fun p => String.ofList p.1) ∧
    String.join (tokenize code) = String.ofList (code.toList.filter fun c => !isBlank c) := by
  have htokens : ∀ lead parts, Decomposition code.toList lead parts →
      tokenize code = parts.map fun p => String.ofList p.1 := by
    intro lead parts h
    rw [tokenize, h.splitTokens_eq, List.map_map]
    rfl
  refine ⟨fun ts => ⟨?_, ?_⟩, ?_⟩
  · rintro rfl
    obtain ⟨lead, parts, h⟩ := exists_decomposition code.toList
    exact ⟨lead, parts, h, htokens lead parts h⟩
  · rintro ⟨lead, parts, h, rfl⟩
    exact htokens lead parts h
  · rw [← String.toList_inj, String.toList_join, String.toList_ofList, tokenize, List.flatMap_map,
      ← flatten_splitTokens, List.flatMap_def]
    simp

end Critique
