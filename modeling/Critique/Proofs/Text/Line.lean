import Critique.Text.Line
import Mathlib.Data.List.Basic

/-!
# What stands inside a line

A part of a text that has no line feed in it lies inside one line.  The converse holds as well,
except at the end of a line: a carriage return there belongs to the line ending and not to the line.
So a part that has characters, no line feed among them and no carriage return at its end, occurs in
a text exactly when it occurs in one of its lines (`infix_iff_exists_line`).
-/

namespace Critique.Text

variable {part text : List Char}

lemma lines_eq_nil_iff : lines text = [] ↔ text = [] := by
  fun_cases lines text with
  | case1 => simp
  | case2 cs => simp
  | case3 cs => simp
  | case4 c cs _ _ _ => simp
  | case5 c cs _ _ l ls _ => simp

/-- Only the empty part without line feeds starts a text that starts with a line feed. -/
lemma prefix_lineFeed_cons_iff (hfeed : '\n' ∉ part) {cs : List Char} :
    part <+: '\n' :: cs ↔ part = [] := by
  constructor
  · intro h
    rcases List.prefix_cons_iff.1 h with rfl | ⟨t, rfl, -⟩
    · rfl
    · exact absurd List.mem_cons_self hfeed
  · rintro rfl
    exact List.nil_prefix

/-- A part inside a line that does not end in a carriage return starts no text that starts with a
line ending of two characters. -/
lemma prefix_return_lineFeed_cons_iff (hfeed : '\n' ∉ part) (hend : part.getLast? ≠ some '\r')
    {cs : List Char} : part <+: '\r' :: '\n' :: cs ↔ part = [] := by
  constructor
  · intro h
    rcases List.prefix_cons_iff.1 h with rfl | ⟨t, rfl, ht⟩
    · rfl
    · have hrest : '\n' ∉ t := fun hmem => hfeed (List.mem_cons_of_mem _ hmem)
      obtain rfl := (prefix_lineFeed_cons_iff hrest).1 ht
      exact absurd rfl hend
  · rintro rfl
    exact List.nil_prefix

lemma getLast?_tail_ne {c d : Char} {cs : List Char} (h : (c :: cs).getLast? ≠ some d) :
    cs.getLast? ≠ some d := by
  cases cs with
  | nil => simp
  | cons e cs => rwa [List.getLast?_cons_cons] at h

/-- A part inside a line starts the text when it starts the first line. -/
lemma prefix_line_iff (hfeed : '\n' ∉ part) (hend : part.getLast? ≠ some '\r') {l : List Char}
    {ls : List (List Char)} (h : lines text = l :: ls) : part <+: l ↔ part <+: text := by
  fun_induction lines text generalizing part l ls with
  | case1 => simp at h
  | case2 cs =>
    obtain ⟨rfl, -⟩ := List.cons.inj h
    rw [prefix_lineFeed_cons_iff hfeed, List.prefix_nil]
  | case3 cs =>
    obtain ⟨rfl, -⟩ := List.cons.inj h
    rw [prefix_return_lineFeed_cons_iff hfeed hend, List.prefix_nil]
  | case4 c cs _ _ hnil _ =>
    obtain ⟨rfl, -⟩ := List.cons.inj h
    rw [lines_eq_nil_iff.1 hnil]
  | case5 c cs _ _ first rest hlines ih =>
    obtain ⟨rfl, -⟩ := List.cons.inj h
    cases part with
    | nil => simp
    | cons d part =>
      have hfeed' : '\n' ∉ part := fun hmem => hfeed (List.mem_cons_of_mem d hmem)
      rw [List.cons_prefix_cons, List.cons_prefix_cons, ih hfeed' (getLast?_tail_ne hend) hlines]

/-- **A part inside a line** occurs in a text exactly when it occurs in one of its lines. -/
lemma infix_iff_exists_line (hne : part ≠ []) (hfeed : '\n' ∉ part)
    (hend : part.getLast? ≠ some '\r') :
    part <:+: text ↔ ∃ l ∈ lines text, part <:+: l := by
  fun_induction lines text with
  | case1 => simp [hne]
  | case2 cs ih =>
    rw [List.infix_cons_iff, prefix_lineFeed_cons_iff hfeed, ih]
    simp [hne]
  | case3 cs ih =>
    rw [List.infix_cons_iff, prefix_return_lineFeed_cons_iff hfeed hend, List.infix_cons_iff,
      prefix_lineFeed_cons_iff hfeed, ih]
    simp [hne]
  | case4 c cs _ _ hnil _ =>
    rw [lines_eq_nil_iff.1 hnil]
    simp
  | case5 c cs hnewLine hreturn first rest hlines ih =>
    -- the first line of the rest goes on in front, the others are those of the rest
    have hcons : lines (c :: cs) = (c :: first) :: rest := by
      rw [lines, hlines]
      · exact hnewLine
      · exact hreturn
    have hfirst : part <+: c :: first ↔ part <+: c :: cs := prefix_line_iff hfeed hend hcons
    rw [hlines] at ih
    rw [List.infix_cons_iff, ih]
    simp only [List.mem_cons, exists_eq_or_imp, List.infix_cons_iff, hfirst, or_assoc]

end Critique.Text
