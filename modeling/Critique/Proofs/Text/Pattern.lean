import Critique.Proofs.Text.Position
import Mathlib.Data.Nat.Find

/-!
# Patterns and the search for them

A `Pattern` says what a part of a text looks like, and `Matches` says which parts do.  A part is
looked at where it stands, between what is before and what is after it, because an `edge` depends on
both sides.  Nothing is said about which of several parts is preferred.

A search takes a part that starts at the first possible position, goes on behind it, and takes the
next (`Search`), so that the parts it finds do not overlap.  There may be several searches of a
text, since parts of different lengths can start at one position.  When no part starts inside
another and none is empty, all of them find the same number of parts, the number of positions where
a part starts (`finds_count`): nothing is lost by going on behind the part that was found.
-/

namespace Critique.Text

/-- What a part of a text can look like. -/
inductive Pattern where
  /-- These characters. -/
  | text (cs : List Char)
  /-- One character of a class. -/
  | one (k : Char → Bool)
  /-- Any number of characters of a class. -/
  | many (k : Char → Bool)
  /-- No character, but the beginning or the end of a word. -/
  | edge
  /-- One pattern and then another. -/
  | seq (first second : Pattern)
  /-- One of two patterns. -/
  | either (first second : Pattern)

namespace Pattern

/-- One or more characters of a class. -/
def some (k : Char → Bool) : Pattern :=
  seq (one k) (many k)

/-- A word that begins and ends where it stands. -/
def alone (word : List Char) : Pattern :=
  seq edge (seq (text word) edge)

/-- The part between `before` and `after` looks like the pattern.  A word begins or ends at an edge:
a word character stands on one side of it and none on the other. -/
def Matches : Pattern → (before part after : List Char) → Prop
  | text cs, _, part, _ => part = cs
  | one k, _, part, _ => ∃ c, part = [c] ∧ k c = true
  | many k, _, part, _ => ∀ c ∈ part, k c = true
  | edge, before, part, after =>
    part = [] ∧ before.getLast?.any isWord ≠ after.head?.any isWord
  | seq p q, before, part, after =>
    ∃ x y, part = x ++ y ∧ p.Matches before x (y ++ after) ∧ q.Matches (before ++ x) y after
  | either p q, before, part, after => p.Matches before part after ∨ q.Matches before part after

/-- A part with the length `n` that starts at position `i` of the text looks like the pattern. -/
def SpanAt (p : Pattern) (cs : List Char) (i n : ℕ) : Prop :=
  ∃ before part after, cs = before ++ part ++ after ∧ before.length = i ∧ part.length = n ∧
    p.Matches before part after

/-- Some part of the text looks like the pattern. -/
def OccursIn (p : Pattern) (cs : List Char) : Prop :=
  ∃ before part after, cs = before ++ part ++ after ∧ p.Matches before part after

/-- A search of the text from position `i` on finds parts at these positions and with these lengths.
Each starts at the first position where a part starts, and the search goes on behind it. -/
inductive Search (p : Pattern) (cs : List Char) : ℕ → List (ℕ × ℕ) → Prop where
  | stop {i : ℕ} : (∀ j n, i ≤ j → ¬ p.SpanAt cs j n) → Search p cs i []
  | found {i j n : ℕ} {spans : List (ℕ × ℕ)} : i ≤ j →
      (∀ k m, i ≤ k → k < j → ¬ p.SpanAt cs k m) → p.SpanAt cs j n → 0 < n →
      Search p cs (j + n) spans → Search p cs i ((j, n) :: spans)

/-- There is a search of the whole text, and every one finds this number of parts. -/
def Finds (p : Pattern) (cs : List Char) (n : ℕ) : Prop :=
  (∃ spans, p.Search cs 0 spans) ∧ ∀ spans, p.Search cs 0 spans → spans.length = n

/-! ## Single patterns -/

lemma matches_some_iff {k : Char → Bool} {before part after : List Char} :
    (some k).Matches before part after ↔ part ≠ [] ∧ ∀ c ∈ part, k c = true := by
  constructor
  · rintro ⟨_, y, rfl, ⟨c, rfl, hc⟩, hy⟩
    exact ⟨List.cons_ne_nil c y, List.forall_mem_cons.2 ⟨hc, hy⟩⟩
  · rintro ⟨hne, hpart⟩
    obtain ⟨c, y, rfl⟩ := List.exists_cons_of_ne_nil hne
    obtain ⟨hc, hy⟩ := List.forall_mem_cons.1 hpart
    exact ⟨[c], y, rfl, ⟨c, rfl, hc⟩, hy⟩

/-- The edges of a word that is made of word characters lie between it and other characters. -/
lemma matches_alone_iff {word : List Char} (hne : word ≠ []) (hword : ∀ c ∈ word, isWord c = true)
    {before part after : List Char} :
    (alone word).Matches before part after ↔
      part = word ∧ (∀ c ∈ before.getLast?, isWord c = false) ∧
        ∀ c ∈ after.head?, isWord c = false := by
  have hhead : ∀ after : List Char, (word ++ after).head?.any isWord = true := by
    intro after
    obtain ⟨c, cs, rfl⟩ := List.exists_cons_of_ne_nil hne
    simpa using hword c List.mem_cons_self
  have hlast : (before ++ word).getLast?.any isWord = true := by
    rw [List.getLast?_append_of_ne_nil before hne, List.getLast?_eq_some_getLast hne]
    simpa using hword _ (List.getLast_mem hne)
  have hout : ∀ o : Option Char, o.any isWord ≠ true ↔ ∀ c ∈ o, isWord c = false := by
    intro o
    rw [ne_eq, Bool.not_eq_true, any_eq_false_iff]
  -- an edge is a change between word characters and others; the word itself is known
  constructor
  · rintro ⟨_, _, rfl, ⟨rfl, hbefore⟩, _, _, rfl, rfl, rfl, hafter⟩
    rw [List.append_nil, hhead] at hbefore
    rw [List.append_nil, hlast] at hafter
    exact ⟨List.append_nil _, (hout _).1 hbefore, (hout _).1 (Ne.symm hafter)⟩
  · rintro ⟨rfl, hbefore, hafter⟩
    refine ⟨[], part, rfl, ⟨rfl, ?_⟩, part, [], (List.append_nil part).symm, rfl, rfl, ?_⟩
    · rw [hhead]
      exact (hout _).2 hbefore
    · rw [List.append_nil, hlast]
      exact Ne.symm ((hout _).2 hafter)

/-! ## Where parts start -/

section Positions

variable {p q : Pattern} {cs : List Char} {i n : ℕ}

lemma SpanAt.le (h : p.SpanAt cs i n) : i + n ≤ cs.length := by
  obtain ⟨before, part, after, rfl, rfl, rfl, -⟩ := h
  simp

lemma occursIn_iff : p.OccursIn cs ↔ ∃ i n, p.SpanAt cs i n := by
  constructor
  · rintro ⟨before, part, after, hcs, h⟩
    exact ⟨_, _, before, part, after, hcs, rfl, rfl, h⟩
  · rintro ⟨i, n, before, part, after, hcs, -, -, h⟩
    exact ⟨before, part, after, hcs, h⟩

lemma spanAt_either_iff : (either p q).SpanAt cs i n ↔ p.SpanAt cs i n ∨ q.SpanAt cs i n := by
  constructor
  · rintro ⟨before, part, after, hcs, hi, hn, h | h⟩
    · exact .inl ⟨before, part, after, hcs, hi, hn, h⟩
    · exact .inr ⟨before, part, after, hcs, hi, hn, h⟩
  · rintro (⟨before, part, after, hcs, hi, hn, h⟩ | ⟨before, part, after, hcs, hi, hn, h⟩)
    · exact ⟨before, part, after, hcs, hi, hn, .inl h⟩
    · exact ⟨before, part, after, hcs, hi, hn, .inr h⟩

/-- A sign that occurs at a position cuts the text there. -/
lemma exists_of_occursAt {sign : List Char} (hne : sign ≠ []) (h : OccursAt sign cs i) :
    ∃ before after, cs = before ++ sign ++ after ∧ before.length = i := by
  obtain ⟨after, hafter⟩ := h
  refine ⟨cs.take i, after, ?_, ?_⟩
  · rw [List.append_assoc, hafter, List.take_append_drop]
  · have hlength : (cs.drop i).length ≠ 0 := by
      rw [← hafter, List.length_append]
      have := List.length_pos_iff.2 hne
      omega
    rw [List.length_drop] at hlength
    rw [List.length_take]
    omega

lemma spanAt_text_iff {sign : List Char} (hne : sign ≠ []) :
    (text sign).SpanAt cs i n ↔ n = sign.length ∧ OccursAt sign cs i := by
  constructor
  · rintro ⟨before, part, after, rfl, rfl, rfl, rfl⟩
    refine ⟨rfl, ?_⟩
    rw [OccursAt, List.append_assoc, List.drop_left]
    exact List.prefix_append part after
  · rintro ⟨rfl, h⟩
    obtain ⟨before, after, hcs, hi⟩ := exists_of_occursAt hne h
    exact ⟨before, sign, after, hcs, hi, rfl, rfl⟩

lemma spanAt_alone_iff {word : List Char} (hne : word ≠ []) (hword : ∀ c ∈ word, isWord c = true) :
    (alone word).SpanAt cs i n ↔ n = word.length ∧ StandsAloneAt isWord word cs i := by
  have halone : ∀ before after : List Char,
      StandsAloneAt isWord word (before ++ word ++ after) before.length ↔
        (∀ c ∈ before.getLast?, isWord c = false) ∧ ∀ c ∈ after.head?, isWord c = false := by
    intro before after
    rw [List.append_assoc, standsAloneAt_length_iff, List.drop_left]
    simp
  constructor
  · rintro ⟨before, part, after, rfl, rfl, rfl, h⟩
    obtain ⟨rfl, hedges⟩ := (matches_alone_iff hne hword).1 h
    exact ⟨rfl, (halone before after).2 hedges⟩
  · rintro ⟨rfl, h⟩
    obtain ⟨before, after, rfl, rfl⟩ := exists_of_occursAt hne h.occurs
    exact ⟨before, word, after, rfl, rfl, rfl,
      (matches_alone_iff hne hword).2 ⟨rfl, (halone before after).1 h⟩⟩

/-- A word stands alone somewhere exactly when the search for it counts something. -/
lemma occursIn_alone_iff {word : List Char} (hne : word ≠ [])
    (hword : ∀ c ∈ word, isWord c = true) :
    (alone word).OccursIn cs ↔ ∃ i, StandsAloneAt isWord word cs i := by
  simp [occursIn_iff, spanAt_alone_iff hne hword]

end Positions

/-! ## What a search finds -/

/-- Nothing is counted where there is nothing to count. -/
lemma count_eq_of_forall_not {P : ℕ → Prop} [DecidablePred P] {a b : ℕ} (hab : a ≤ b)
    (h : ∀ k, a ≤ k → k < b → ¬ P k) : Nat.count P a = Nat.count P b := by
  refine le_antisymm (Nat.count_monotone P hab) (not_lt.1 fun hlt => ?_)
  obtain ⟨k, ⟨hak, hkb⟩, hk⟩ := Nat.exists_of_count_lt_count hlt
  exact h k hak hkb hk

/-- From a position on, a search finds as many parts as there are positions where one starts, when
no part starts inside another. -/
lemma Search.count_add_length {p : Pattern} {cs : List Char} {P : ℕ → Prop} [DecidablePred P]
    (hP : ∀ i, P i ↔ ∃ n, p.SpanAt cs i n)
    (hinside : ∀ i n k, p.SpanAt cs i n → i < k → k < i + n → ¬ P k)
    {i : ℕ} {spans : List (ℕ × ℕ)} (h : p.Search cs i spans) (hi : i ≤ cs.length) :
    Nat.count P i + spans.length = Nat.count P cs.length := by
  -- along the search: nothing starts in a gap, one part at its end, and none inside the part
  induction h with
  | @stop i hnone =>
    have hnot : ∀ k, i ≤ k → k < cs.length → ¬ P k := by
      intro k hik _ hk
      obtain ⟨n, hn⟩ := (hP k).1 hk
      exact hnone k n hik hn
    rw [List.length_nil, Nat.add_zero, count_eq_of_forall_not hi hnot]
  | @found i j n spans hij hgap hspan hpos _ ih =>
    have hbefore : Nat.count P i = Nat.count P j := by
      refine count_eq_of_forall_not hij fun k hik hkj hk => ?_
      obtain ⟨m, hm⟩ := (hP k).1 hk
      exact hgap k m hik hkj hm
    have hstart : Nat.count P (j + 1) = Nat.count P j + 1 :=
      Nat.count_succ_eq_succ_count_iff.2 ((hP j).2 ⟨n, hspan⟩)
    have hpart : Nat.count P (j + 1) = Nat.count P (j + n) :=
      count_eq_of_forall_not (by omega) fun k hjk hkn => hinside j n k hspan (by omega) hkn
    have hrest := ih hspan.le
    rw [List.length_cons]
    omega

lemma exists_search {p : Pattern} {cs : List Char} (hempty : ∀ i, ¬ p.SpanAt cs i 0) (i : ℕ) :
    ∃ spans, p.Search cs i spans := by
  classical
  -- every part found is not empty, so less and less of the text is left
  induction hleft : cs.length - i using Nat.strong_induction_on generalizing i with
  | _ left ih =>
    by_cases hany : ∃ j, i ≤ j ∧ ∃ n, p.SpanAt cs j n
    · obtain ⟨hij, n, hspan⟩ := Nat.find_spec hany
      have hgap : ∀ k m, i ≤ k → k < Nat.find hany → ¬ p.SpanAt cs k m :=
        fun k m hik hk hm => Nat.find_min hany hk ⟨hik, m, hm⟩
      have hpos : 0 < n := by
        refine Nat.pos_of_ne_zero ?_
        rintro rfl
        exact hempty _ hspan
      have hle := hspan.le
      obtain ⟨spans, hspans⟩ := ih _ (by omega) (Nat.find hany + n) rfl
      exact ⟨_, .found hij hgap hspan hpos hspans⟩
    · exact ⟨[], .stop fun j n hij hspan => hany ⟨j, hij, n, hspan⟩⟩

/-- **What a search finds.**  When no part starts inside another and none is empty, every search
finds as many parts as there are positions where one starts. -/
lemma finds_count {p : Pattern} {cs : List Char} {P : ℕ → Prop} [DecidablePred P]
    (hP : ∀ i, P i ↔ ∃ n, p.SpanAt cs i n)
    (hinside : ∀ i n k, p.SpanAt cs i n → i < k → k < i + n → ¬ P k)
    (hempty : ∀ i, ¬ p.SpanAt cs i 0) : p.Finds cs (Nat.count P cs.length) := by
  refine ⟨exists_search hempty 0, fun spans h => ?_⟩
  have hcount := h.count_add_length hP hinside (Nat.zero_le _)
  rwa [Nat.count_zero, Nat.zero_add] at hcount

/-- A search for a word finds it as often as it is counted: where it stands alone it does not stand
alone once more inside. -/
lemma finds_alone {word : List Char} (hne : word ≠ []) (hword : ∀ c ∈ word, isWord c = true)
    (cs : List Char) : (alone word).Finds cs (countDelimited word cs) := by
  rw [countDelimited_eq]
  refine finds_count (fun i => ?_) (fun i n k hspan hik hkn => ?_) (fun i hspan => ?_)
  · simp [spanAt_alone_iff hne hword]
  · obtain ⟨rfl, halone⟩ := (spanAt_alone_iff hne hword).1 hspan
    exact halone.occurs.not_standsAloneAt hword hik hkn.le
  · have hlength := ((spanAt_alone_iff hne hword).1 hspan).1
    exact hne (List.length_eq_zero_iff.1 hlength.symm)

end Pattern

end Critique.Text
