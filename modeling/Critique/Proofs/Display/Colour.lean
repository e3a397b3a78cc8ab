import Critique.Display.Page
import Critique.Proofs.Text.Line
import Mathlib.Data.List.Basic

/-!
# Colours are only decoration

`uncoloured` takes the colour sequences out of a text.  What is shown with colours is then what is
shown without them: each styled piece stands between a sequence that sets its style and one that
resets it, and its spaces are inside (`uncoloured_render`).

This needs that no piece holds an escape character of its own.  All that a page adds to the texts of
the reports has none, so it is enough to ask for those texts (`noEscape_page`).
-/

namespace Critique.Display

/-! ## Colour sequences -/

/-- May the character stand among the codes of a colour sequence? -/
def isCodeChar (c : Char) : Bool :=
  c.isDigit || c == ';'

/-- A text without its colour sequences.  Each starts with an escape character and a bracket, and
ends with an `m` behind its codes. -/
def uncoloured : List Char → List Char
  | '\x1b' :: '[' :: cs =>
    match _h : cs.dropWhile isCodeChar with
    | 'm' :: rest => uncoloured rest
    | _ => '\x1b' :: '[' :: uncoloured cs
  | c :: cs => c :: uncoloured cs
  | [] => []
termination_by cs => cs.length
decreasing_by
  · have hle := (List.dropWhile_suffix (l := cs) isCodeChar).length_le
    simp only [_h, List.length_cons] at hle ⊢
    omega
  · simp only [List.length_cons]
    omega
  · simp only [List.length_cons]
    omega

lemma uncoloured_sequence {codes : List Char} (h : ∀ c ∈ codes, isCodeChar c = true)
    (rest : List Char) :
    uncoloured ('\x1b' :: '[' :: (codes ++ 'm' :: rest)) = uncoloured rest := by
  have hrest : (codes ++ 'm' :: rest).dropWhile isCodeChar = 'm' :: rest := by
    rw [List.dropWhile_append_of_pos h, List.dropWhile_cons_of_neg (by decide)]
  rw [uncoloured]
  split
  · rename_i own heq
    rw [hrest] at heq
    cases heq
    rfl
  · rename_i hno
    exact absurd hrest (hno rest)

lemma uncoloured_append {text : List Char} (h : '\x1b' ∉ text) (rest : List Char) :
    uncoloured (text ++ rest) = text ++ uncoloured rest := by
  induction text with
  | nil => rfl
  | cons c text ih =>
    obtain ⟨hc, htext⟩ := not_or.1 (mt List.mem_cons.2 h)
    rw [List.cons_append, uncoloured, ih htext, List.cons_append]
    rintro cs rfl
    exact absurd rfl hc

/-! ## Pieces -/

lemma uncoloured_start (s : Style) (rest : List Char) :
    uncoloured (s.start ++ rest) = uncoloured rest := by
  obtain ⟨emphasis, colour⟩ := s
  have hcodes : (";".intercalate ((emphasis.map Emphasis.code).toList ++
      (colour.map Colour.code).toList)).toList.all isCodeChar = true := by
    rcases emphasis with _ | (_ | _) <;> rcases colour with _ | (_ | _ | _ | _ | _) <;> rfl
  have hstart := uncoloured_sequence (List.all_eq_true.1 hcodes) rest
  simpa [Style.start] using hstart

lemma uncoloured_reset (rest : List Char) : uncoloured (reset ++ rest) = uncoloured rest := by
  have hcodes : ['0'].all isCodeChar = true := rfl
  exact uncoloured_sequence (List.all_eq_true.1 hcodes) rest

lemma resume_of_notMem {text : List Char} (h : '\x1b' ∉ text) (start : List Char) :
    resume start text = text := by
  induction text with
  | nil => rfl
  | cons c text ih =>
    obtain ⟨hc, htext⟩ := not_or.1 (mt List.mem_cons.2 h)
    rw [resume, ih htext]
    rintro cs rfl
    exact absurd rfl hc

/-- There is no escape character in the text. -/
def NoEscape (s : String) : Prop :=
  '\x1b' ∉ s.toList

instance (s : String) : Decidable (NoEscape s) :=
  inferInstanceAs (Decidable ('\x1b' ∉ s.toList))

/-- The text of a piece, whatever its style. -/
def Piece.text : Piece → String
  | plain text => text
  | styled _ text => text

@[simp] lemma Piece.text_plain (s : String) : (plain s).text = s := rfl

@[simp] lemma text_bold (s : String) : (bold s).text = s := rfl

@[simp] lemma text_dimmed (s : String) : (dimmed s).text = s := rfl

@[simp] lemma text_tinted (c : Colour) (s : String) : (tinted c s).text = s := rfl

@[simp] lemma text_boldTinted (c : Colour) (s : String) : (boldTinted c s).text = s := rfl

lemma Piece.chars_false (p : Piece) : p.chars false = p.text.toList := by
  cases p with
  | plain text => rfl
  | styled style text => rfl

lemma Piece.uncoloured_chars {p : Piece} (h : NoEscape p.text) (rest : List Char) :
    uncoloured (p.chars true ++ rest) = p.chars false ++ uncoloured rest := by
  cases p with
  | plain text => exact uncoloured_append h rest
  | styled style text =>
    have htext : '\x1b' ∉ text.toList := h
    simp only [chars, if_true, resume_of_notMem htext, List.append_assoc, uncoloured_start]
    rw [uncoloured_append htext, uncoloured_reset]
    rfl

/-- Without its colour sequences, what is shown with colours is what is shown without them. -/
theorem uncoloured_render {pieces : List Piece} (h : ∀ p ∈ pieces, NoEscape p.text) :
    uncoloured (render true pieces).toList = (render false pieces).toList := by
  simp only [render, String.toList_ofList]
  induction pieces with
  | nil => rw [List.flatMap_nil, List.flatMap_nil, uncoloured]
  | cons p pieces ih =>
    obtain ⟨hp, hpieces⟩ := List.forall_mem_cons.1 h
    rw [List.flatMap_cons, Piece.uncoloured_chars hp, ih hpieces, List.flatMap_cons]

/-- Without colours there are no escape characters but those of the pieces. -/
lemma noEscape_render_false {pieces : List Piece} (h : ∀ p ∈ pieces, NoEscape p.text) :
    NoEscape (render false pieces) := by
  rw [NoEscape, render, String.toList_ofList]
  intro hmem
  obtain ⟨p, hp, hchar⟩ := List.mem_flatMap.1 hmem
  rw [p.chars_false] at hchar
  exact h p hp hchar

/-! ## What a page adds -/

section Texts

variable {s t : String}

@[simp] lemma noEscape_append : NoEscape (s ++ t) ↔ NoEscape s ∧ NoEscape t := by
  simp [NoEscape]

@[simp] lemma noEscape_padded {width : ℕ} : NoEscape (padded width s) ↔ NoEscape s := by
  simp [NoEscape, padded]

lemma notMem_toDigits (n : ℕ) : '\x1b' ∉ Nat.toDigits 10 n := by
  intro hmem
  have hdigit := Nat.isDigit_of_mem_toDigits (by omega) (by omega) hmem
  exact absurd hdigit (by decide)

@[simp] lemma noEscape_repr (n : ℕ) : NoEscape n.repr := by
  simp [NoEscape, Nat.repr, notMem_toDigits]

@[simp] lemma noEscape_fixed (places : ℕ) (x : Float) : NoEscape (Decimal.fixed places x) := by
  have hpoint : ∀ n, '\x1b' ∉ Decimal.pointChars places n := by
    intro n hmem
    have hdigits : '\x1b' ∉ List.replicate (places + 1 - (Nat.toDigits 10 n).length) '0' ++
        Nat.toDigits 10 n := by
      simp [notMem_toDigits]
    rw [Decimal.pointChars, List.mem_append, List.mem_cons] at hmem
    rcases hmem with hmem | hmem | hmem
    · exact hdigits (List.mem_of_mem_take hmem)
    · exact absurd hmem (by decide)
    · exact hdigits (List.mem_of_mem_drop hmem)
  unfold Decimal.fixed
  split
  · decide
  · split <;> decide
  · split <;> simp [NoEscape, hpoint]

lemma mem_of_mem_lines {c : Char} {text l : List Char} (hl : l ∈ Text.lines text) (hc : c ∈ l) :
    c ∈ text := by
  fun_induction Text.lines text generalizing l with
  | case1 => cases hl
  | case2 cs ih =>
    rcases List.mem_cons.1 hl with rfl | hl
    · cases hc
    · exact List.mem_cons_of_mem _ (ih hl hc)
  | case3 cs ih =>
    rcases List.mem_cons.1 hl with rfl | hl
    · cases hc
    · exact List.mem_cons_of_mem _ (List.mem_cons_of_mem _ (ih hl hc))
  | case4 d cs _ _ _ =>
    rw [List.mem_singleton.1 hl, List.mem_singleton] at hc
    exact hc ▸ List.mem_cons_self
  | case5 d cs _ _ first rest hlines ih =>
    rcases List.mem_cons.1 hl with rfl | hl
    · rcases List.mem_cons.1 hc with rfl | hc
      · exact List.mem_cons_self
      · exact List.mem_cons_of_mem _ (ih (hlines ▸ List.mem_cons_self) hc)
    · exact List.mem_cons_of_mem _ (ih (hlines ▸ List.mem_cons_of_mem _ hl) hc)

/-- The lines of a text have no escape character when the text has none. -/
lemma noEscape_of_mem_textLines (h : NoEscape s) {l : String} (hl : l ∈ Text.textLines s) :
    NoEscape l := by
  obtain ⟨cs, hcs, rfl⟩ := List.mem_map.1 hl
  intro hmem
  rw [String.toList_ofList] at hmem
  exact h (mem_of_mem_lines hcs hmem)

end Texts

end Display

/-! ## Pages -/

/-- The texts of a report. -/
def Report.texts (r : Report) : List String :=
  r.issues.map (·.message) ++ r.suggestions.flatMap (fun s => [s.message, s.sample]) ++
    r.metrics.flatMap fun m => [m.name, m.description]

/-- The texts of a report about a file. -/
def FileReport.texts (f : FileReport) : List String :=
  f.path :: f.language :: f.report.texts

namespace Display

lemma noEscape_findingHead {tag : Piece} (htag : NoEscape tag.text) (category : Category)
    (line : ℕ) : ∀ p ∈ findingHead tag category line, NoEscape p.text := by
  have hname : NoEscape category.name := by cases category <;> decide
  simp +decide [findingHead, htag, hname]

lemma noEscape_issuePieces {i : Issue} (h : NoEscape i.message) :
    ∀ p ∈ issuePieces i, NoEscape p.text := by
  have htag : NoEscape (severityTag i.severity).text := by
    cases i.severity <;> decide
  rw [issuePieces, List.forall_mem_append]
  refine ⟨noEscape_findingHead htag i.category i.line, ?_⟩
  simp +decide [h]

lemma noEscape_suggestionPieces {s : Suggestion} (h : NoEscape s.message)
    (hsample : NoEscape s.sample) : ∀ p ∈ suggestionPieces s, NoEscape p.text := by
  simp only [suggestionPieces, List.forall_mem_append, List.forall_mem_flatMap]
  refine ⟨⟨⟨noEscape_findingHead (by decide) s.category s.line, ?_⟩, fun l hl => ?_⟩, by decide⟩
  · simp +decide [h]
  · simp +decide [sampleLine, noEscape_of_mem_textLines hsample hl]

lemma noEscape_metricPieces {m : Metric} (h : NoEscape m.name)
    (hdescription : NoEscape m.description) : ∀ p ∈ metricPieces m, NoEscape p.text := by
  simp +decide [metricPieces, h, hdescription]

lemma noEscape_heading {title : String} (h : NoEscape title) (count : ℕ) :
    ∀ p ∈ heading title count, NoEscape p.text := by
  simp +decide [heading, h]

/-- A page about reports without escape characters has none. -/
lemma noEscape_filePieces {f : FileReport} (h : ∀ s ∈ f.texts, NoEscape s) :
    ∀ p ∈ filePieces f, NoEscape p.text := by
  simp only [FileReport.texts, Report.texts, List.forall_mem_cons, List.forall_mem_append,
    List.forall_mem_map, List.forall_mem_flatMap, List.not_mem_nil, false_imp_iff, implies_true,
    and_true] at h
  obtain ⟨hpath, hlanguage, ⟨hissues, hsuggestions⟩, hmetrics⟩ := h
  simp only [filePieces, List.forall_mem_append]
  refine ⟨⟨⟨⟨?_, ?_⟩, ?_⟩, ?_⟩, ?_⟩
  · simp +decide [hpath, hlanguage]
  · unfold cleanSection
    split <;> decide
  · unfold issuesSection
    split
    · simp
    · simp only [List.forall_mem_append, List.forall_mem_flatMap]
      exact ⟨noEscape_heading (by decide) _, fun i hi => noEscape_issuePieces (hissues i hi)⟩
  · unfold suggestionsSection
    split
    · simp
    · simp only [List.forall_mem_append, List.forall_mem_flatMap]
      exact ⟨noEscape_heading (by decide) _, fun s hs =>
        noEscape_suggestionPieces (hsuggestions s hs).1 (hsuggestions s hs).2⟩
  · unfold metricsSection
    split
    · simp
    · simp only [List.forall_mem_append, List.forall_mem_flatMap]
      exact ⟨⟨by decide, fun m hm =>
        noEscape_metricPieces (hmetrics m hm).1 (hmetrics m hm).2⟩, by decide⟩

lemma noEscape_summary (files : List FileReport) : ∀ p ∈ summary files, NoEscape p.text := by
  have hplural : NoEscape (if files.length = 1 then "" else "s") := by
    split <;> decide
  simp +decide [summary, hplural]

lemma noEscape_page {files : List FileReport} (h : ∀ f ∈ files, ∀ s ∈ f.texts, NoEscape s) :
    ∀ p ∈ page files, NoEscape p.text := by
  simp only [page, List.forall_mem_append, List.forall_mem_flatMap]
  exact ⟨⟨⟨by decide, fun f hf => noEscape_filePieces (h f hf)⟩, noEscape_summary files⟩, by decide⟩

/-- The header of every page is coloured. -/
lemma not_noEscape_page (files : List FileReport) : ¬ NoEscape (render true (page files)) := by
  have hheader : boldTinted .cyan "codecritic" ∈ page files := by simp [page]
  have hescape : '\x1b' ∈ (boldTinted .cyan "codecritic").chars true := by decide
  rw [NoEscape, render, String.toList_ofList, not_not]
  exact List.mem_flatMap.2 ⟨_, hheader, hescape⟩

/-- **Colours are only decoration.**  Take any reports whose texts hold no escape character.

* The page that is shown with colours, without its colour sequences, is the page that is shown
  without colours, spaces included.
* There is an escape character in the page with colours, and none in the page without. -/
theorem page_uncoloured {files : List FileReport} (h : ∀ f ∈ files, ∀ s ∈ f.texts, NoEscape s) :
    String.ofList (uncoloured (render true (page files)).toList) = render false (page files) ∧
      ¬ NoEscape (render true (page files)) ∧ NoEscape (render false (page files)) := by
  have hpieces := noEscape_page h
  refine ⟨?_, not_noEscape_page files, noEscape_render_false hpieces⟩
  rw [uncoloured_render hpieces, String.ofList_toList]

/-- A report with an issue whose category is padded, a suggestion with a sample of two lines, and a
metric. -/
theorem page_uncoloured_padded :
    let f : FileReport := {
      path := "a.py", language := "python"
      report := {
        issues := [⟨.style, "[31m is no colour", 3, .high⟩]
        suggestions := [⟨.improvement, "use this", 1, "def f(x: int):\n    pass"⟩]
        metrics := [⟨"complexity", 0.25, "from 0 to 1"⟩] } }
    (∀ s ∈ f.texts, NoEscape s) ∧
      String.ofList (uncoloured (render true (page [f])).toList) = render false (page [f]) := by
  intro f
  have htexts : ∀ s ∈ f.texts, NoEscape s := by decide
  have hfiles : ∀ g ∈ [f], ∀ s ∈ g.texts, NoEscape s := by simpa using htexts
  exact ⟨htexts, (page_uncoloured hfiles).1⟩

end Display

end Critique
