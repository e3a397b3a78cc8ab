import Critique.Proofs.Text.Line
import Critique.Proofs.Text.Position

/-!
# A text cut at its line feeds

`Segments` cuts a text at its line feeds and at nothing else: some pieces that a line feed ends, and
a last one behind all of them.  There is exactly one way to do this (`exists_segments`,
`Segments.unique`), and the lines of the text are read off it (`Segments.lines_eq`): an ended piece
gives up one carriage return, the last piece is a line as it stands, and none if it is empty.

A text that is empty or ends in a line feed (`EndsLine`) has nothing in its last piece.  What is
put behind such a text starts a new line, and everything that is found inside lines is found in the
first text or in the second: lines (`EndsLine.lines_append`), parts (`EndsLine.contains_append`),
and the places where a sign occurs or a word stands alone (`EndsLine.countSign_append`,
`EndsLine.countDelimited_append`).  What has no line feed in it and starts in front of one is over
before it (`prefix_append_lineFeed_iff`), so that nothing lies across the seam.
-/

namespace Critique.Text

variable {part text : List Char}

/-! ## Pieces -/

/-- The text is cut at its line feeds: a line feed stands behind each piece of `ended`, and `last`
stands behind the last line feed. -/
structure Segments (text : List Char) (ended : List (List Char)) (last : List Char) : Prop where
  text_eq : text = ended.flatMap (· ++ ['\n']) ++ last
  lineFeed_notMem : ∀ s ∈ ended, '\n' ∉ s
  lineFeed_notMem_last : '\n' ∉ last

/-- A piece without the carriage return at its end, if there is one: one of them and no more. -/
def dropReturn (s : List Char) : List Char :=
  if s.getLast? = some '\r' then s.dropLast else s

/-- The lines that the pieces of a text make. -/
def segmentLines (ended : List (List Char)) (last : List Char) : List (List Char) :=
  ended.map dropReturn ++ if last = [] then [] else [last]

namespace Segments

variable {ended : List (List Char)} {last : List Char}

lemma lineFeed (h : Segments text ended last) : Segments ('\n' :: text) ([] :: ended) last where
  text_eq := by rw [h.text_eq]; rfl
  lineFeed_notMem := List.forall_mem_cons.2 ⟨List.not_mem_nil, h.lineFeed_notMem⟩
  lineFeed_notMem_last := h.lineFeed_notMem_last

/-- A character that is no line feed goes in front of the first piece, whichever that is. -/
lemma exists_cons {c : Char} (hc : c ≠ '\n') (h : Segments text ended last) :
    ∃ ended' last', Segments (c :: text) ended' last' := by
  have hfront : ∀ s : List Char, '\n' ∉ s → '\n' ∉ c :: s := by
    intro s hs
    simp [hs, hc.symm]
  cases ended with
  | nil => exact ⟨[], c :: last, by rw [h.text_eq]; rfl, h.lineFeed_notMem,
      hfront last h.lineFeed_notMem_last⟩
  | cons s ended =>
    obtain ⟨hs, hended⟩ := List.forall_mem_cons.1 h.lineFeed_notMem
    exact ⟨(c :: s) :: ended, last, by rw [h.text_eq]; rfl,
      List.forall_mem_cons.2 ⟨hfront s hs, hended⟩, h.lineFeed_notMem_last⟩

lemma append {b last' : List Char} {ended' : List (List Char)} (ha : Segments text ended [])
    (hb : Segments b ended' last') : Segments (text ++ b) (ended ++ ended') last' where
  text_eq := by
    rw [ha.text_eq, hb.text_eq, List.append_nil, List.flatMap_append, List.append_assoc]
  lineFeed_notMem := fun s hs =>
    (List.mem_append.1 hs).elim (ha.lineFeed_notMem s) (hb.lineFeed_notMem s)
  lineFeed_notMem_last := hb.lineFeed_notMem_last

end Segments

lemma exists_segments (text : List Char) : ∃ ended last, Segments text ended last := by
  induction text with
  | nil => exact ⟨[], [], rfl, List.forall_mem_nil _, List.not_mem_nil⟩
  | cons c cs ih =>
    obtain ⟨ended, last, h⟩ := ih
    by_cases hc : c = '\n'
    · exact ⟨[] :: ended, last, hc ▸ h.lineFeed⟩
    · exact h.exists_cons hc

/-- The first line feed of a text stands at one place. -/
lemma append_lineFeed_inj {s t x y : List Char} (hs : '\n' ∉ s) (ht : '\n' ∉ t)
    (h : s ++ '\n' :: x = t ++ '\n' :: y) : s = t ∧ x = y := by
  induction s generalizing t with
  | nil =>
    cases t with
    | nil => exact ⟨rfl, (List.cons.inj h).2⟩
    | cons d t => exact absurd ((List.cons.inj h).1 ▸ List.mem_cons_self) ht
  | cons c s ih =>
    cases t with
    | nil => exact absurd ((List.cons.inj h).1 ▸ List.mem_cons_self) hs
    | cons d t =>
      obtain ⟨rfl, hrest⟩ := List.cons.inj h
      obtain ⟨rfl, hxy⟩ := ih (fun hmem => hs (List.mem_cons_of_mem c hmem))
        (fun hmem => ht (List.mem_cons_of_mem c hmem)) hrest
      exact ⟨rfl, hxy⟩

namespace Segments

variable {ended : List (List Char)} {last : List Char}

/-- Without ended pieces the text is its last piece. -/
lemma eq_last (h : Segments text [] last) : text = last :=
  h.text_eq

/-- The first ended piece stands in front of the first line feed, and the other pieces are those of
what follows. -/
lemma exists_rest {s : List Char} (h : Segments text (s :: ended) last) :
    ∃ rest, text = s ++ '\n' :: rest ∧ '\n' ∉ s ∧ Segments rest ended last := by
  obtain ⟨hs, hended⟩ := List.forall_mem_cons.1 h.lineFeed_notMem
  refine ⟨_, ?_, hs, rfl, hended, h.lineFeed_notMem_last⟩
  rw [h.text_eq, List.flatMap_cons]
  simp only [List.append_assoc, List.cons_append, List.nil_append]

/-- There is only one way to cut a text at its line feeds. -/
lemma unique {ended' : List (List Char)} {last' : List Char} (h : Segments text ended last)
    (h' : Segments text ended' last') : ended = ended' ∧ last = last' := by
  induction ended generalizing text ended' with
  | nil =>
    -- without an ended piece there is no line feed in the text, and so in both or in neither
    cases ended' with
    | nil => exact ⟨rfl, h.eq_last.symm.trans h'.eq_last⟩
    | cons t ended' =>
      obtain ⟨rest, rfl, -, -⟩ := h'.exists_rest
      have hlast := h.lineFeed_notMem_last
      rw [← h.eq_last] at hlast
      simp at hlast
  | cons s ended ih =>
    obtain ⟨rest, rfl, hs, hrest⟩ := h.exists_rest
    cases ended' with
    | nil =>
      have hlast := h'.lineFeed_notMem_last
      rw [← h'.eq_last] at hlast
      simp at hlast
    | cons t ended' =>
      obtain ⟨rest', htext, ht, hrest'⟩ := h'.exists_rest
      obtain ⟨rfl, rfl⟩ := append_lineFeed_inj hs ht htext
      obtain ⟨rfl, rfl⟩ := ih hrest hrest'
      exact ⟨rfl, rfl⟩

end Segments

/-! ## The lines of the pieces -/

lemma lines_of_lineFeed_notMem (h : '\n' ∉ text) :
    lines text = if text = [] then [] else [text] := by
  induction text with
  | nil => rfl
  | cons c cs ih =>
    have hcs : '\n' ∉ cs := fun hmem => h (List.mem_cons_of_mem c hmem)
    have hc : c ≠ '\n' := fun heq => h (heq ▸ List.mem_cons_self)
    rw [if_neg (List.cons_ne_nil c cs), lines, ih hcs]
    · by_cases hnil : cs = []
      · simp [hnil]
      · simp [hnil]
    · exact hc
    · rintro rest - rfl
      simp at hcs

lemma dropReturn_cons {c : Char} {s : List Char} (h : c = '\r' → s ≠ []) :
    dropReturn (c :: s) = c :: dropReturn s := by
  cases s with
  | nil =>
    have hc : c ≠ '\r' := fun heq => h heq rfl
    simp [dropReturn, hc]
  | cons d s =>
    rw [dropReturn, dropReturn, List.getLast?_cons_cons]
    split_ifs
    · rfl
    · rfl

/-- The first line ends at the first line feed. -/
lemma lines_append_lineFeed {s : List Char} (h : '\n' ∉ s) (rest : List Char) :
    lines (s ++ '\n' :: rest) = dropReturn s :: lines rest := by
  induction s with
  | nil => rfl
  | cons c s ih =>
    have hs : '\n' ∉ s := fun hmem => h (List.mem_cons_of_mem c hmem)
    have hc : c ≠ '\n' := fun heq => h (heq ▸ List.mem_cons_self)
    by_cases hreturn : c = '\r' ∧ s = []
    · obtain ⟨rfl, rfl⟩ := hreturn
      rfl
    · rw [not_and] at hreturn
      rw [List.cons_append, lines, ih hs, dropReturn_cons hreturn]
      · exact hc
      · rintro cs hr hcs
        obtain ⟨d, s, rfl⟩ := List.exists_cons_of_ne_nil (hreturn hr)
        exact hs ((List.cons.inj hcs).1 ▸ List.mem_cons_self)

/-- **The lines of a text** are those that its pieces make. -/
theorem Segments.lines_eq {ended : List (List Char)} {last : List Char}
    (h : Segments text ended last) : lines text = segmentLines ended last := by
  induction ended generalizing text with
  | nil => rw [h.eq_last, lines_of_lineFeed_notMem h.lineFeed_notMem_last, segmentLines]; rfl
  | cons s ended ih =>
    obtain ⟨rest, rfl, hs, hrest⟩ := h.exists_rest
    rw [lines_append_lineFeed hs, ih hrest, segmentLines, segmentLines]
    rfl

/-- One of two carriage returns stays, and so does the one behind the last line feed. -/
example : lines "a\r\r\n\nb\r".toList = ["a\r".toList, [], "b\r".toList] := by decide

/-! ## Behind a line feed -/

/-- What has no line feed in it and starts in front of one is over before it. -/
lemma prefix_append_lineFeed_iff (h : '\n' ∉ part) {front rest : List Char} :
    part <+: front ++ '\n' :: rest ↔ part <+: front := by
  induction front generalizing part with
  | nil => rw [List.nil_append, prefix_lineFeed_cons_iff h, List.prefix_nil]
  | cons c front ih =>
    cases part with
    | nil => simp
    | cons d part =>
      have hpart : '\n' ∉ part := fun hmem => h (List.mem_cons_of_mem d hmem)
      rw [List.cons_append, List.cons_prefix_cons, List.cons_prefix_cons, ih hpart]

lemma startsWith_append_lineFeed (h : '\n' ∉ part) (front rest : List Char) :
    startsWith part (front ++ '\n' :: rest) = startsWith part front := by
  rw [Bool.eq_iff_iff, startsWith_iff, startsWith_iff, prefix_append_lineFeed_iff h]

lemma startsWith_lineFeed_cons (hne : part ≠ []) (h : '\n' ∉ part) (rest : List Char) :
    startsWith part ('\n' :: rest) = false := by
  rw [← Bool.not_eq_true, startsWith_iff, prefix_lineFeed_cons_iff h]
  exact hne

/-- A line feed ends a word in the same way as the end of the text does. -/
lemma startsWithWord_append_lineFeed (h : '\n' ∉ part) (front rest : List Char) :
    startsWithWord part (front ++ '\n' :: rest) = startsWithWord part front := by
  rw [startsWithWord, startsWithWord, startsWith_append_lineFeed h]
  cases hstart : startsWith part front with
  | false => rfl
  | true =>
    have hle : part.length ≤ front.length := (startsWith_iff.1 hstart).length_le
    have hahead : ∀ cs : List Char, wordAhead (cs ++ '\n' :: rest) = wordAhead cs := by
      intro cs
      cases cs with
      | nil =>
        change isWord '\n' = false
        decide
      | cons c cs => rfl
    rw [List.drop_append_of_le_length hle, hahead]

lemma countSign_append_lineFeed (hne : part ≠ []) (h : '\n' ∉ part) (front rest : List Char) :
    countSign part (front ++ '\n' :: rest) = countSign part front + countSign part rest := by
  induction front with
  | nil => simp [countSign, startsWith_lineFeed_cons hne h]
  | cons c front ih =>
    rw [List.cons_append, countSign, countSign, ih, ← List.cons_append,
      startsWith_append_lineFeed h, Nat.add_assoc]

lemma countDelimitedFrom_append_lineFeed (hne : part ≠ []) (h : '\n' ∉ part) (inWord : Bool)
    (front rest : List Char) :
    countDelimitedFrom part inWord (front ++ '\n' :: rest) =
      countDelimitedFrom part inWord front + countDelimited part rest := by
  induction front generalizing inWord with
  | nil =>
    have hstart : startsWithWord part ('\n' :: rest) = false := by
      rw [startsWithWord, startsWith_lineFeed_cons hne h, Bool.false_and]
    have hfeed : isWord '\n' = false := by decide
    simp [countDelimitedFrom, countDelimited, hstart, hfeed]
  | cons c front ih =>
    rw [List.cons_append, countDelimitedFrom, countDelimitedFrom, ih, ← List.cons_append,
      startsWithWord_append_lineFeed h, Nat.add_assoc]

/-! ## Texts that end a line -/

/-- Nothing is in the text, or it ends in a line feed. -/
def EndsLine (text : List Char) : Prop :=
  text = [] ∨ text.getLast? = some '\n'

namespace EndsLine

variable {a : List Char}

lemma eq_nil_or_exists (h : EndsLine a) : a = [] ∨ ∃ front, a = front ++ ['\n'] :=
  h.imp_right List.getLast?_eq_some_iff.1

/-- Nothing stands behind the last line feed. -/
lemma exists_segments (h : EndsLine a) : ∃ ended, Segments a ended [] := by
  obtain ⟨ended, last, hseg⟩ := Text.exists_segments a
  have hlast : last = [] := by
    by_contra hne
    rcases h with rfl | hfeed
    · exact hne (List.append_eq_nil_iff.1 hseg.text_eq.symm).2
    · rw [hseg.text_eq, List.getLast?_append_of_ne_nil _ hne] at hfeed
      exact hseg.lineFeed_notMem_last (List.mem_of_getLast? hfeed)
  exact ⟨ended, hlast ▸ hseg⟩

lemma lines_append (h : EndsLine a) (b : List Char) : lines (a ++ b) = lines a ++ lines b := by
  obtain ⟨ended, ha⟩ := h.exists_segments
  obtain ⟨ended', last, hb⟩ := Text.exists_segments b
  rw [(ha.append hb).lines_eq, ha.lines_eq, hb.lines_eq]
  simp [segmentLines]

/-- A part that lies inside a line lies in the first text or in the second. -/
lemma contains_append (h : EndsLine a) (hne : part ≠ []) (hfeed : '\n' ∉ part)
    (hend : part.getLast? ≠ some '\r') (b : List Char) :
    contains part (a ++ b) = (contains part a || contains part b) := by
  have hline : ∀ text, contains part text = (lines text).any (contains part) := by
    intro text
    rw [Bool.eq_iff_iff, contains_iff, List.any_eq_true, infix_iff_exists_line hne hfeed hend]
    simp only [contains_iff]
  rw [hline, h.lines_append, List.any_append, ← hline, ← hline]

lemma countSign_append (h : EndsLine a) (hne : part ≠ []) (hfeed : '\n' ∉ part) (b : List Char) :
    countSign part (a ++ b) = countSign part a + countSign part b := by
  rcases h.eq_nil_or_exists with rfl | ⟨front, rfl⟩
  · simp [countSign]
  · rw [List.append_assoc, List.singleton_append, countSign_append_lineFeed hne hfeed,
      countSign_append_lineFeed hne hfeed]
    rfl

lemma countDelimited_append (h : EndsLine a) (hne : part ≠ []) (hfeed : '\n' ∉ part)
    (b : List Char) :
    countDelimited part (a ++ b) = countDelimited part a + countDelimited part b := by
  rcases h.eq_nil_or_exists with rfl | ⟨front, rfl⟩
  · simp [countDelimited, countDelimitedFrom]
  · rw [List.append_assoc, List.singleton_append, countDelimited, countDelimited,
      countDelimitedFrom_append_lineFeed hne hfeed, countDelimitedFrom_append_lineFeed hne hfeed]
    rfl

end EndsLine

end Critique.Text
