import Critique.Text.Line
import Critique.Text.Search
import Critique.Token
import Mathlib.Data.List.Basic

/-!
# Line endings

A line can end in a line feed or in a carriage return and a line feed.  `crlf` gives every line of
a text the second ending.  The functions that cut and search a text do not see the difference, and
this module says so for each of them.

The statements are about more than `crlf`.  `ReturnsAdded x y` says that `x` is `y` with carriage
returns put in front of some of its line feeds.  Unlike `crlf`, this relation is kept when a text is
cut somewhere (`ReturnsAdded.dropWhile`, `ReturnsAdded.and_congr`) and when it is mapped character
by character (`ReturnsAdded.flatMap`), so that searches that look at rests of a text can be
compared rest by rest (`anySuffix_congr`, `countDelimited_congr`, `countSign_congr`).

Patterns are found at the same places because a pattern that is not empty and has no part of a line
ending (`Inline`) starts neither at the added character nor at the line feed behind it.  Only the
cutting into lines needs a hypothesis about the text: a carriage return that is there already would
move into the line when a second one is put behind it (`lines_congr`).
-/

namespace Critique.Text

/-- The text with a carriage return in front of every line feed. -/
def crlf (text : List Char) : List Char :=
  text.flatMap fun c => if c = '\n' then ['\r', '\n'] else [c]

/-- A text with a carriage return in front of every line feed. -/
def withCrlf (s : String) : String :=
  String.ofList (crlf s.toList)

lemma length_crlf (text : List Char) : (crlf text).length = text.length + text.count '\n' := by
  induction text with
  | nil => rfl
  | cons c cs ih =>
    rw [crlf] at ih
    rw [crlf, List.flatMap_cons, List.length_append, ih, List.length_cons, List.count_cons]
    by_cases hc : c = '\n'
    · simp only [hc, if_true, List.length_cons, List.length_nil, beq_self_eq_true]
      omega
    · simp only [hc, if_false, List.length_singleton, beq_iff_eq]
      omega

/-- The first text is the second with carriage returns added in front of some line feeds. -/
inductive ReturnsAdded : List Char → List Char → Prop where
  | nil : ReturnsAdded [] []
  | same (c : Char) {x y : List Char} : ReturnsAdded x y → ReturnsAdded (c :: x) (c :: y)
  | added {x y : List Char} : ReturnsAdded x y → ReturnsAdded ('\r' :: '\n' :: x) ('\n' :: y)

namespace ReturnsAdded

variable {x y : List Char}

lemma crlf (text : List Char) : ReturnsAdded (crlf text) text := by
  induction text with
  | nil => exact .nil
  | cons c cs ih =>
    rw [Text.crlf, List.flatMap_cons]
    by_cases hc : c = '\n'
    · rw [if_pos hc, hc]
      exact .added ih
    · rw [if_neg hc]
      exact .same c ih

lemma append_left (before : List Char) (h : ReturnsAdded x y) :
    ReturnsAdded (before ++ x) (before ++ y) := by
  induction before with
  | nil => exact h
  | cons c before ih => exact .same c ih

/-- A map that leaves the two characters of a line ending alone keeps the relation. -/
lemma flatMap {f : Char → List Char} (hr : f '\r' = ['\r']) (hn : f '\n' = ['\n'])
    (h : ReturnsAdded x y) : ReturnsAdded (x.flatMap f) (y.flatMap f) := by
  induction h with
  | nil => exact .nil
  | same c _ ih =>
    rw [List.flatMap_cons, List.flatMap_cons]
    exact ih.append_left (f c)
  | added _ ih =>
    rw [List.flatMap_cons, List.flatMap_cons, List.flatMap_cons, hr, hn]
    exact .added ih

/-- So does dropping a class to which both characters of a line ending belong, or neither. -/
lemma dropWhile {p : Char → Bool} (hp : p '\r' = p '\n') (h : ReturnsAdded x y) :
    ReturnsAdded (x.dropWhile p) (y.dropWhile p) := by
  induction h with
  | nil => exact .nil
  | same c h ih =>
    by_cases hc : p c = true
    · rwa [List.dropWhile_cons_of_pos hc, List.dropWhile_cons_of_pos hc]
    · rw [List.dropWhile_cons_of_neg hc, List.dropWhile_cons_of_neg hc]
      exact .same c h
  | added h ih =>
    by_cases hn : p '\n' = true
    · rwa [List.dropWhile_cons_of_pos (hp.trans hn), List.dropWhile_cons_of_pos hn,
        List.dropWhile_cons_of_pos hn]
    · rw [List.dropWhile_cons_of_neg (hp ▸ hn), List.dropWhile_cons_of_neg hn]
      exact .added h

/-- What is taken from the start is the same when it ends before the first line ending. -/
lemma takeWhile_eq {p : Char → Bool} (hr : p '\r' = false) (hn : p '\n' = false)
    (h : ReturnsAdded x y) : x.takeWhile p = y.takeWhile p := by
  induction h with
  | nil => rfl
  | same c _ ih => rw [List.takeWhile_cons, List.takeWhile_cons, ih]
  | added _ _ => simp [hr, hn]

/-- A class without the line feed stops at the same character in both texts: either the texts are
the same up to there, or both stop at a line feed, one with a return in front of it. -/
lemma takeWhile_eq_or {p : Char → Bool} (hr : p '\r' = true) (hn : p '\n' = false)
    (h : ReturnsAdded x y) :
    (x.takeWhile p = y.takeWhile p ∧ ReturnsAdded (x.dropWhile p) (y.dropWhile p)) ∨
      ∃ x' y', x.dropWhile p = '\n' :: x' ∧ y.dropWhile p = '\n' :: y' := by
  induction h with
  | nil => exact Or.inl ⟨rfl, .nil⟩
  | same c h ih =>
    by_cases hc : p c = true
    · rw [List.takeWhile_cons_of_pos hc, List.takeWhile_cons_of_pos hc,
        List.dropWhile_cons_of_pos hc, List.dropWhile_cons_of_pos hc]
      exact ih.imp_left fun ⟨htake, hdrop⟩ => ⟨by rw [htake], hdrop⟩
    · rw [List.takeWhile_cons_of_neg hc, List.takeWhile_cons_of_neg hc,
        List.dropWhile_cons_of_neg hc, List.dropWhile_cons_of_neg hc]
      exact Or.inl ⟨rfl, .same c h⟩
  | @added x y _ _ =>
    -- the added return is taken, and the line feed behind it is not
    have hstop : ¬ p '\n' = true := by rw [hn]; exact Bool.false_ne_true
    refine Or.inr ⟨x, y, ?_, List.dropWhile_cons_of_neg hstop⟩
    rw [List.dropWhile_cons_of_pos hr, List.dropWhile_cons_of_neg hstop]

end ReturnsAdded

/-! ## Lines -/

lemma lines_cons_of_ne {c : Char} (hn : c ≠ '\n') (hr : c ≠ '\r') (cs : List Char) :
    lines (c :: cs) =
      match lines cs with
      | [] => [[c]]
      | l :: ls => (c :: l) :: ls := by
  cases hrest : lines cs with
  | nil => simp [lines, hr, hrest]
  | cons l ls => simp [lines, hr, hrest]

/-- Without other carriage returns, both endings give the same lines. -/
lemma lines_congr {x y : List Char} (h : ReturnsAdded x y) (hy : '\r' ∉ y) : lines x = lines y := by
  induction h with
  | nil => rfl
  | @same c x y _ ih =>
    rw [List.mem_cons, not_or] at hy
    by_cases hc : c = '\n'
    · rw [hc, lines, lines, ih hy.2]
    · rw [lines_cons_of_ne hc (Ne.symm hy.1), lines_cons_of_ne hc (Ne.symm hy.1), ih hy.2]
  | added _ ih =>
    rw [List.mem_cons, not_or] at hy
    rw [lines, lines, ih hy.2]

/-! ## Tokens -/

lemma isPlain_return : isPlain '\r' = false := by decide

lemma isPlain_lineFeed : isPlain '\n' = false := by decide

lemma isBlank_return : isBlank '\r' = true := by decide

lemma isBlank_lineFeed : isBlank '\n' = true := by decide

lemma plainAhead_congr {x y : List Char} (h : ReturnsAdded x y) : plainAhead x = plainAhead y := by
  cases h with
  | nil => rfl
  | same c _ => rfl
  | added _ => rw [plainAhead, plainAhead, isPlain_return, isPlain_lineFeed]

/-- Both characters of a line ending are white space, which belongs to no token. -/
lemma splitTokens_congr {x y : List Char} (h : ReturnsAdded x y) :
    splitTokens x = splitTokens y := by
  induction h with
  | nil => rfl
  | same c h ih => rw [splitTokens, splitTokens, ih, plainAhead_congr h]
  | added _ ih =>
    simp only [splitTokens, isPlain_return, isPlain_lineFeed, isBlank_return, isBlank_lineFeed]
    exact ih

/-! ## Patterns -/

/-- A pattern that has characters, none of which belongs to a line ending. -/
structure Inline (pattern : List Char) : Prop where
  ne_nil : pattern ≠ []
  return_notMem : '\r' ∉ pattern
  lineFeed_notMem : '\n' ∉ pattern

instance (pattern : List Char) : Decidable (Inline pattern) :=
  decidable_of_iff (pattern ≠ [] ∧ '\r' ∉ pattern ∧ '\n' ∉ pattern)
    ⟨fun ⟨hne, hr, hn⟩ => ⟨hne, hr, hn⟩, fun ⟨hne, hr, hn⟩ => ⟨hne, hr, hn⟩⟩

/-- A pattern inside a line does not start at a character of a line ending. -/
lemma Inline.startsWith_cons {pattern : List Char} (hp : Inline pattern) {c : Char}
    (hc : c = '\r' ∨ c = '\n') (cs : List Char) : startsWith pattern (c :: cs) = false := by
  obtain ⟨hne, hr, hn⟩ := hp
  cases pattern with
  | nil => exact absurd rfl hne
  | cons d pattern =>
    have hdc : d ≠ c := by
      rintro rfl
      rcases hc with rfl | rfl
      · exact hr List.mem_cons_self
      · exact hn List.mem_cons_self
    simp [startsWith, List.isPrefixOf, hdc]

/-- A pattern without parts of a line ending is found at the same places, and what is asked of the
text behind it has the same answer. -/
lemma startsWith_and_congr {pattern : List Char} (hr : '\r' ∉ pattern) (hn : '\n' ∉ pattern)
    {p : List Char → Bool} (hp : ∀ {x y}, ReturnsAdded x y → p x = p y) {x y : List Char}
    (h : ReturnsAdded x y) :
    (startsWith pattern x && p (x.drop pattern.length)) =
      (startsWith pattern y && p (y.drop pattern.length)) := by
  induction pattern generalizing x y with
  | nil => simpa [startsWith] using hp h
  | cons d pattern ih =>
    rw [List.mem_cons, not_or] at hr hn
    cases h with
    | nil => rfl
    | same c h =>
      simp only [startsWith, List.isPrefixOf, List.length_cons, List.drop_succ_cons,
        Bool.and_assoc] at ih ⊢
      rw [ih hr.2 hn.2 h]
    | added h =>
      have hd : (d == '\r') = false := by simpa using Ne.symm hr.1
      have hd' : (d == '\n') = false := by simpa using Ne.symm hn.1
      simp [startsWith, List.isPrefixOf, hd, hd']

lemma startsWith_congr {pattern : List Char} (hp : Inline pattern) {x y : List Char}
    (h : ReturnsAdded x y) : startsWith pattern x = startsWith pattern y := by
  simpa using startsWith_and_congr hp.return_notMem hp.lineFeed_notMem
    (p := fun _ => true) (fun _ => rfl) h

/-! ## Searches -/

/-- A property of rests that does not see added returns and does not hold at a line feed. -/
lemma anySuffix_congr {p : List Char → Bool} (hp : ∀ {x y}, ReturnsAdded x y → p x = p y)
    (hn : ∀ cs, p ('\n' :: cs) = false) {x y : List Char} (h : ReturnsAdded x y) :
    anySuffix p x = anySuffix p y := by
  induction h with
  | nil => rfl
  | same c h ih => rw [anySuffix, anySuffix, ih, hp (.same c h)]
  | added h ih =>
    -- The rest at the added return answers as the rest at the line feed did.
    rw [anySuffix, anySuffix, anySuffix, ih, hp (.added h), hn, hn, Bool.false_or]

lemma contains_congr {pattern : List Char} (hp : Inline pattern) {x y : List Char}
    (h : ReturnsAdded x y) : contains pattern x = contains pattern y :=
  anySuffix_congr (startsWith_congr hp) (hp.startsWith_cons (Or.inr rfl)) h

lemma isWord_return : isWord '\r' = false := by decide

lemma isWord_lineFeed : isWord '\n' = false := by decide

lemma wordAhead_congr {x y : List Char} (h : ReturnsAdded x y) : wordAhead x = wordAhead y := by
  cases h with
  | nil => rfl
  | same c _ => rfl
  | added _ => rw [wordAhead, wordAhead, isWord_return, isWord_lineFeed]

lemma startsWithWord_congr {word : List Char} (hw : Inline word) {x y : List Char}
    (h : ReturnsAdded x y) : startsWithWord word x = startsWithWord word y :=
  startsWith_and_congr hw.return_notMem hw.lineFeed_notMem
    (p := fun rest => !wordAhead rest) (fun h => by rw [wordAhead_congr h]) h

lemma Inline.startsWithWord_cons {word : List Char} (hw : Inline word) {c : Char}
    (hc : c = '\r' ∨ c = '\n') (cs : List Char) : startsWithWord word (c :: cs) = false := by
  rw [startsWithWord, hw.startsWith_cons hc, Bool.false_and]

/-- A word stands alone at the same places: neither character of a line ending is a word
character, so the added one delimits a word as the line feed did. -/
lemma countDelimitedFrom_congr {word : List Char} (hw : Inline word) {x y : List Char}
    (h : ReturnsAdded x y) (inWord : Bool) :
    countDelimitedFrom word inWord x = countDelimitedFrom word inWord y := by
  induction h generalizing inWord with
  | nil => rfl
  | same c h ih =>
    rw [countDelimitedFrom, countDelimitedFrom, ih, startsWithWord_congr hw (.same c h)]
  | added _ ih =>
    simp only [countDelimitedFrom, hw.startsWithWord_cons (Or.inl rfl),
      hw.startsWithWord_cons (Or.inr rfl), Bool.and_false, ih]
    simp

lemma countDelimited_congr {word : List Char} (hw : Inline word) {x y : List Char}
    (h : ReturnsAdded x y) : countDelimited word x = countDelimited word y :=
  countDelimitedFrom_congr hw h false

lemma countSign_congr {sign : List Char} (hs : Inline sign) {x y : List Char}
    (h : ReturnsAdded x y) : countSign sign x = countSign sign y := by
  induction h with
  | nil => rfl
  | same c h ih => rw [countSign, countSign, ih, startsWith_congr hs (.same c h)]
  | added _ ih =>
    simp only [countSign, hs.startsWith_cons (Or.inl rfl), hs.startsWith_cons (Or.inr rfl), ih]
    simp

end Critique.Text
