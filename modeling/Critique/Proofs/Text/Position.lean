import Critique.Text.Search
import Mathlib.Data.Nat.Count

/-!
# Positions in a text

Searches are defined by recursion on the rest of a text.  Here they are read as statements about
positions: a sign occurs at a position (`OccursAt`), or a word stands alone at a position, with no
character of some class directly before or behind it (`StandsAloneAt`).  What the searches count is
the number of such positions (`countSign_eq`, `countDelimited_eq`).

`count_eq_of_step` is the one induction behind these: a number that grows by one at every position
of a certain kind, while the text is read, is the number of such positions.  It is stated with what
has been read as a parameter, since whether a word stands alone depends on the character before it.
-/

namespace Critique.Text

/-- The pattern occurs at this position of the text. -/
def OccursAt (pattern text : List Char) (i : ℕ) : Prop :=
  pattern <+: text.drop i

instance (pattern text : List Char) : DecidablePred (OccursAt pattern text) :=
  fun i => inferInstanceAs (Decidable (pattern <+: text.drop i))

/-- The word occurs at this position of the text, and neither the character directly before it nor
the one directly behind it, if there are such, belongs to the class. -/
structure StandsAloneAt (k : Char → Bool) (word text : List Char) (i : ℕ) : Prop where
  occurs : OccursAt word text i
  before : ∀ c ∈ (text.take i).getLast?, k c = false
  behind : ∀ c ∈ (text.drop (i + word.length)).head?, k c = false

lemma any_eq_false_iff {k : Char → Bool} {o : Option Char} :
    o.any k = false ↔ ∀ c ∈ o, k c = false := by
  cases o <;> simp

instance (k : Char → Bool) (word text : List Char) : DecidablePred (StandsAloneAt k word text) :=
  fun i => decidable_of_iff
    (OccursAt word text i ∧ (text.take i).getLast?.any k = false ∧
      (text.drop (i + word.length)).head?.any k = false)
    ⟨fun ⟨h, hbefore, hbehind⟩ => ⟨h, any_eq_false_iff.1 hbefore, any_eq_false_iff.1 hbehind⟩,
      fun ⟨h, hbefore, hbehind⟩ => ⟨h, any_eq_false_iff.2 hbefore, any_eq_false_iff.2 hbehind⟩⟩

/-! ## Where something occurs -/

lemma startsWith_iff {pattern text : List Char} :
    startsWith pattern text = true ↔ pattern <+: text :=
  List.isPrefixOf_iff_prefix

/-- Some rest of the text has the property. -/
lemma anySuffix_iff {p : List Char → Bool} {text : List Char} :
    anySuffix p text = true ↔ ∃ rest, rest <:+ text ∧ p rest = true := by
  induction text with
  | nil => simp [anySuffix]
  | cons c cs ih =>
    rw [anySuffix, Bool.or_eq_true, ih]
    simp only [List.suffix_cons_iff]
    constructor
    · rintro (h | ⟨rest, hrest, h⟩)
      · exact ⟨c :: cs, .inl rfl, h⟩
      · exact ⟨rest, .inr hrest, h⟩
    · rintro ⟨rest, rfl | hrest, h⟩
      · exact .inl h
      · exact .inr ⟨rest, hrest, h⟩

/-- A text contains another exactly when that is a part of it. -/
lemma contains_iff {pattern text : List Char} :
    contains pattern text = true ↔ pattern <:+: text := by
  rw [contains, anySuffix_iff, List.infix_iff_prefix_suffix]
  constructor
  · rintro ⟨rest, hrest, h⟩
    exact ⟨rest, startsWith_iff.1 h, hrest⟩
  · rintro ⟨rest, h, hrest⟩
    exact ⟨rest, hrest, startsWith_iff.2 h⟩

lemma OccursAt.getElem? {pattern text : List Char} {i : ℕ} (h : OccursAt pattern text i) {n : ℕ}
    (hn : n < pattern.length) : text[i + n]? = pattern[n]? := by
  obtain ⟨rest, hrest⟩ := h
  rw [← List.getElem?_drop, ← hrest, List.getElem?_append_left hn]

/-- What is not empty occurs before the end of the text. -/
lemma OccursAt.lt_length {pattern text : List Char} (hne : pattern ≠ []) {i : ℕ}
    (h : OccursAt pattern text i) : i < text.length := by
  have hle := h.length_le
  rw [List.length_drop] at hle
  have hpos := List.length_pos_iff.2 hne
  omega

/-- Behind what has been read, a word stands alone if the rest starts with it. -/
lemma standsAloneAt_length_iff {k : Char → Bool} {word front rest : List Char} :
    StandsAloneAt k word (front ++ rest) front.length ↔
      (∀ c ∈ front.getLast?, k c = false) ∧ word <+: rest ∧
        ∀ c ∈ (rest.drop word.length).head?, k c = false := by
  have hdrop : (front ++ rest).drop (front.length + word.length) = rest.drop word.length := by
    rw [← List.drop_drop, List.drop_left]
  constructor
  · rintro ⟨hoccurs, hbefore, hbehind⟩
    rw [OccursAt, List.drop_left] at hoccurs
    rw [List.take_left] at hbefore
    rw [hdrop] at hbehind
    exact ⟨hbefore, hoccurs, hbehind⟩
  · rintro ⟨hbefore, hoccurs, hbehind⟩
    refine ⟨?_, ?_, ?_⟩
    · rwa [OccursAt, List.drop_left]
    · rwa [List.take_left]
    · rwa [hdrop]

/-- Inside and directly behind an occurrence of characters of a class, nothing stands alone. -/
lemma OccursAt.not_standsAloneAt {k : Char → Bool} {word other text : List Char} {i j : ℕ}
    (h : OccursAt word text i) (hword : ∀ c ∈ word, k c = true) (hij : i < j)
    (hj : j ≤ i + word.length) : ¬ StandsAloneAt k other text j := by
  intro halone
  obtain ⟨n, rfl⟩ := Nat.exists_eq_add_of_lt hij
  have hn : n < word.length := by omega
  have hbefore : text[i + n]? = some word[n] := by
    rw [h.getElem? hn, List.getElem?_eq_getElem hn]
  have hlast : word[n] ∈ (text.take (i + n + 1)).getLast? := by
    rw [List.getLast?_take]
    simp [hbefore]
  have hout := halone.before _ hlast
  rw [hword _ (List.getElem_mem hn)] at hout
  exact Bool.noConfusion hout

/-- A word alone for a class is alone for any smaller one. -/
lemma StandsAloneAt.mono {k l : Char → Bool} (hle : ∀ c, l c = true → k c = true)
    {word text : List Char} {i : ℕ} (h : StandsAloneAt k word text i) :
    StandsAloneAt l word text i := by
  have hout : ∀ c, k c = false → l c = false := by
    intro c hk
    rw [← Bool.not_eq_true] at hk ⊢
    exact fun hl => hk (hle c hl)
  exact ⟨h.occurs, fun c hc => hout c (h.before c hc), fun c hc => hout c (h.behind c hc)⟩

/-- For classes that agree on the characters of the text, a word stands alone at the same
positions. -/
lemma standsAloneAt_congr {k l : Char → Bool} {word text : List Char}
    (h : ∀ c ∈ text, k c = l c) (i : ℕ) :
    StandsAloneAt k word text i ↔ StandsAloneAt l word text i := by
  have hbefore : ∀ c ∈ (text.take i).getLast?, k c = l c := fun c hc =>
    h c (List.mem_of_mem_take (List.mem_of_getLast? hc))
  have hbehind : ∀ c ∈ (text.drop (i + word.length)).head?, k c = l c := fun c hc =>
    h c (List.mem_of_mem_drop (List.mem_of_head? hc))
  constructor
  · intro halone
    exact ⟨halone.occurs, fun c hc => hbefore c hc ▸ halone.before c hc,
      fun c hc => hbehind c hc ▸ halone.behind c hc⟩
  · intro halone
    exact ⟨halone.occurs, fun c hc => (hbefore c hc).symm ▸ halone.before c hc,
      fun c hc => (hbehind c hc).symm ▸ halone.behind c hc⟩

/-! ## What is counted -/

/-- A number that grows by one at every position of a certain kind, while the text is read, is the
number of such positions.  `f front rest` is what is still to come when `front` has been read. -/
lemma count_eq_of_step {P : ℕ → Prop} [DecidablePred P] {text : List Char}
    {f : List Char → List Char → ℕ} (hnil : f text [] = 0)
    (hcons : ∀ front c rest, text = front ++ c :: rest →
      f front (c :: rest) = (if P front.length then 1 else 0) + f (front ++ [c]) rest) :
    f [] text = Nat.count P text.length := by
  have hrun : ∀ rest front, text = front ++ rest →
      Nat.count P front.length + f front rest = Nat.count P text.length := by
    intro rest
    induction rest with
    | nil =>
      intro front htext
      rw [List.append_nil] at htext
      rw [← htext, hnil, Nat.add_zero]
    | cons c rest ih =>
      intro front htext
      have hread : text = (front ++ [c]) ++ rest := by rw [htext, List.append_assoc]; rfl
      have hnext := ih (front ++ [c]) hread
      rw [List.length_append, List.length_singleton, Nat.count_succ] at hnext
      rw [hcons front c rest htext, ← hnext, Nat.add_assoc]
  simpa using hrun text [] rfl

lemma countSign_eq (sign text : List Char) :
    countSign sign text = Nat.count (OccursAt sign text) text.length := by
  refine count_eq_of_step (f := fun _ rest => countSign sign rest) rfl ?_
  intro front c rest htext
  have hat : startsWith sign (c :: rest) = true ↔ OccursAt sign text front.length := by
    rw [startsWith_iff, OccursAt, htext, List.drop_left]
  simp only [countSign, hat]

/-- A word stands alone for the wide class of word characters where the search says so. -/
lemma countDelimited_eq (word text : List Char) :
    countDelimited word text = Nat.count (StandsAloneAt isWord word text) text.length := by
  refine count_eq_of_step
    (f := fun front rest => countDelimitedFrom word (front.getLast?.any isWord) rest) rfl ?_
  intro front c rest htext
  have hahead : ∀ cs : List Char, wordAhead cs = false ↔ ∀ c ∈ cs.head?, isWord c = false := by
    intro cs
    cases cs with
    | nil => simp [wordAhead]
    | cons d cs => simp [wordAhead]
  have hat : (!front.getLast?.any isWord && startsWithWord word (c :: rest)) = true ↔
      StandsAloneAt isWord word text front.length := by
    rw [htext, standsAloneAt_length_iff, startsWithWord, Bool.and_eq_true, Bool.and_eq_true,
      startsWith_iff, Bool.not_eq_true', Bool.not_eq_true', hahead, any_eq_false_iff]
  simp only [countDelimitedFrom, hat, List.getLast?_concat, Option.any_some]

end Critique.Text
