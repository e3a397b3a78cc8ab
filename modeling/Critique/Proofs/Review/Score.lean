import Critique.Proofs.Analyzer.Finite
import Critique.Proofs.Decimal.Order
import Critique.Proofs.Token.Join

/-!
# Scores grow with the text

A text that goes on behind white space keeps all its tokens, in front of those that are new
(`isPrefix_tokenize_append`).  So the sum of the weights only has more summands at its end, and as
no weight is negative, it does not fall.  Cutting both sums off at one keeps their order.

The argument needs little of the numbers: comparisons that can be chained, and sums that do not fall
below their first number (`GrowingSums`).  Rational numbers have this, and floating-point numbers as
well, although their sums are rounded.
-/

namespace Critique

open Text Decimal

/-! ## Numbers that can be summed up -/

/-- Numbers whose sums do not fall when more is added that is not negative, and which can be
compared as far as a score needs it. -/
structure GrowingSums (α : Type) [OfNat α 0] [OfNat α 1] [Add α] [LE α] [Min α] : Prop where
  zero_le_one : (0 : α) ≤ 1
  /-- What can be compared at all is not above itself. -/
  refl_of_le : ∀ x y : α, x ≤ y → x ≤ x ∧ y ≤ y
  le_trans : ∀ x y z : α, x ≤ y → y ≤ z → x ≤ z
  le_add : ∀ x w : α, 0 ≤ x → 0 ≤ w → x ≤ x + w
  min_of_le : ∀ x : α, x ≤ 1 → min x 1 = x
  min_of_not_le : ∀ x : α, ¬ x ≤ 1 → min x 1 = 1
  eq_one : ∀ x : α, x ≤ 1 → 1 ≤ x → x = 1

lemma growingSums_of_linearOrder {α : Type} [LinearOrder α] [Zero α] [One α] [Add α]
    (hone : (0 : α) ≤ 1) (hadd : ∀ x w : α, 0 ≤ x → 0 ≤ w → x ≤ x + w) : GrowingSums α where
  zero_le_one := hone
  refl_of_le _ _ _ := ⟨le_rfl, le_rfl⟩
  le_trans _ _ _ := le_trans
  le_add := hadd
  min_of_le _ := min_eq_left
  min_of_not_le _ h := min_eq_right (le_of_not_ge h)
  eq_one _ := le_antisymm

lemma growingSums_float : GrowingSums Float where
  zero_le_one := by decide
  refl_of_le _ _ h := ⟨float_le_refl (le_iff_place.1 h).1, float_le_refl (le_iff_place.1 h).2.1⟩
  le_trans _ _ _ := float_le_trans
  le_add _ _ := float_le_add
  min_of_le _ h := if_pos h
  min_of_not_le _ h := if_neg h
  eq_one _ := eq_one_of_le_of_le

namespace GrowingSums

variable {α : Type} [OfNat α 0] [OfNat α 1] [Add α] [LE α] [Min α] {x y : α} {ws : List α}

/-- A sum does not fall, however many numbers are added. -/
lemma le_foldl_add (hα : GrowingSums α) (hx : 0 ≤ x) (hws : ∀ w ∈ ws, 0 ≤ w) :
    x ≤ ws.foldl (· + ·) x := by
  induction ws generalizing x with
  | nil => exact (hα.refl_of_le 0 x hx).2
  | cons w ws ih =>
    have hstep : x ≤ x + w := hα.le_add x w hx (hws w List.mem_cons_self)
    have hrest := ih (hα.le_trans _ _ _ hx hstep) fun v hv => hws v (List.mem_cons_of_mem w hv)
    exact hα.le_trans _ _ _ hstep hrest

lemma min_le_one (hα : GrowingSums α) : min x 1 ≤ 1 := by
  by_cases hx : x ≤ 1
  · rwa [hα.min_of_le x hx]
  · rw [hα.min_of_not_le x hx]
    exact (hα.refl_of_le 0 1 hα.zero_le_one).2

lemma min_le_min (hα : GrowingSums α) (h : x ≤ y) : min x 1 ≤ min y 1 := by
  by_cases hy : y ≤ 1
  · rwa [hα.min_of_le y hy, hα.min_of_le x (hα.le_trans _ _ _ h hy)]
  · rw [hα.min_of_not_le y hy]
    exact hα.min_le_one

lemma nonneg_min (hα : GrowingSums α) (hx : 0 ≤ x) : 0 ≤ min x 1 := by
  by_cases h : x ≤ 1
  · rwa [hα.min_of_le x h]
  · rw [hα.min_of_not_le x h]
    exact hα.zero_le_one

end GrowingSums

/-! ## Texts that go on -/

/-- No run of word characters goes on over white space, and so no token is changed by what stands
behind it. -/
lemma isPrefix_tokenize_append (a : String) {s : String} (b : String) (hs : s ≠ "")
    (hblank : isAllBlank s = true) : tokenize a <+: tokenize (a ++ s ++ b) := by
  obtain ⟨c, cs, hcs⟩ : ∃ c cs, s.toList = c :: cs :=
    List.exists_cons_of_ne_nil (by simpa using hs)
  have hseam : ¬ MeetInRun a.toList (s.toList ++ b.toList) := by
    -- the seam is a blank, and no run goes on with a blank
    rintro ⟨-, d, hd, hplain⟩
    rw [isAllBlank, hcs, List.all_cons, Bool.and_eq_true] at hblank
    rw [hcs] at hd
    obtain rfl : c = d := Option.some.inj hd
    rw [isBlank_eq_false_of_isPlain hplain] at hblank
    exact absurd hblank.1 Bool.false_ne_true
  rw [tokenize, tokenize, String.toList_append, String.toList_append, List.append_assoc,
    splitTokens_append hseam, List.map_append]
  exact List.prefix_append _ _

namespace Weights

variable {α : Type} [OfNat α 0] [LE α] {weights : Table α} {tokens : List String}

lemma nonneg_of_mem_weigh (h : ∀ entry ∈ weights.entries, 0 ≤ entry.2) :
    ∀ w ∈ weigh weights tokens, 0 ≤ w := by
  intro w hw
  obtain ⟨token, -, htoken⟩ := List.mem_filterMap.1 hw
  exact h _ (mem_entries_of_get? htoken)

variable [OfNat α 1] [Add α] [Min α]

lemma nonneg_total (hα : GrowingSums α) (h : ∀ entry ∈ weights.entries, 0 ≤ entry.2) :
    0 ≤ total weights tokens :=
  hα.le_foldl_add (hα.refl_of_le 0 1 hα.zero_le_one).1 (nonneg_of_mem_weigh h)

lemma total_le_of_isPrefix (hα : GrowingSums α) (h : ∀ entry ∈ weights.entries, 0 ≤ entry.2)
    {longer : List String} (hpre : tokens <+: longer) :
    total weights tokens ≤ total weights longer := by
  obtain ⟨more, rfl⟩ := hpre
  have hsplit : total weights (tokens ++ more) =
      (weigh weights more).foldl (· + ·) (total weights tokens) := by
    rw [total, weigh, List.filterMap_append, List.foldl_append]
    rfl
  rw [hsplit]
  exact hα.le_foldl_add (nonneg_total hα h) (nonneg_of_mem_weigh h)

/-- **Scores grow with the text.**  For every table of weights that are not negative, and in all
numbers whose sums do not fall when such a weight is added:

* every score lies between zero and one;
* when a text goes on behind white space, its score does not fall;
* and a score of one stays one.

The numbers of any linear order are such numbers when adding one that is not negative decreases no
sum, and floating-point numbers are, with their rounding.  The weights of settings that satisfy all
rules are not negative. -/
theorem score_bounded_and_growing :
    (∀ (α : Type) [OfNat α 0] [OfNat α 1] [Add α] [LE α] [Min α], GrowingSums α →
      ∀ weights : Table α, (∀ entry ∈ weights.entries, 0 ≤ entry.2) → ∀ a : String,
        0 ≤ score weights a ∧ score weights a ≤ 1 ∧
        ∀ s b : String, s ≠ "" → isAllBlank s = true →
          score weights a ≤ score weights (a ++ s ++ b) ∧
          (score weights a = 1 → score weights (a ++ s ++ b) = 1)) ∧
    (∀ (α : Type) [LinearOrder α] [Zero α] [One α] [Add α], (0 : α) ≤ 1 →
      (∀ x w : α, 0 ≤ x → 0 ≤ w → x ≤ x + w) → GrowingSums α) ∧
    GrowingSums Float ∧
    ∀ settings : Settings, settings.violation? = none →
      ∀ entry ∈ settings.weights.entries, 0 ≤ entry.2 := by
  refine ⟨?_, fun α => growingSums_of_linearOrder, growingSums_float, ?_⟩
  · intro α _ _ _ _ _ hα weights hweights a
    refine ⟨hα.nonneg_min (nonneg_total hα hweights), hα.min_le_one, fun s b hs hblank => ?_⟩
    have hle : score weights a ≤ score weights (a ++ s ++ b) :=
      hα.min_le_min (total_le_of_isPrefix hα hweights (isPrefix_tokenize_append a b hs hblank))
    refine ⟨hle, fun hone => ?_⟩
    rw [hone] at hle
    exact hα.eq_one _ hα.min_le_one hle
  · intro settings hrules entry hentry
    exact (Settings.isWeighty hrules entry hentry).2

/-- Two words behind each other reach one, in rational and in floating-point numbers.  Without white
space between them the words are one word, which has no weight. -/
theorem score_bounded_and_growing_twice :
    let exact : Table ℚ := .ofList [("if", 3 / 4)]
    let rounded : Table Float := .ofList [("if", 0.75)]
    score exact "if" = 3 / 4 ∧ score exact ("if" ++ "if") = 0 ∧
      score exact ("if" ++ "\n" ++ "if") = 1 ∧
      (∀ b : String, score exact ("if" ++ "\n" ++ "if" ++ " " ++ b) = 1) ∧
      ∀ b : String, score rounded "if if" ≤ score rounded ("if if" ++ "\u3000" ++ b) := by
  intro exact rounded
  obtain ⟨hgrows, horder, hfloat, -⟩ := score_bounded_and_growing
  have hrational : GrowingSums ℚ := horder ℚ zero_le_one fun x w _ hw => le_add_of_nonneg_right hw
  have hone : score exact ("if" ++ "\n" ++ "if") = 1 := by decide +kernel
  refine ⟨by decide +kernel, by decide +kernel, hone, fun b => ?_, fun b => ?_⟩
  · obtain ⟨-, -, hcontinued⟩ := hgrows ℚ hrational exact (by decide +kernel) ("if" ++ "\n" ++ "if")
    exact (hcontinued " " b (by decide) (by decide)).2 hone
  · obtain ⟨-, -, hcontinued⟩ := hgrows Float hfloat rounded (by decide +kernel) "if if"
    exact (hcontinued "\u3000" b (by decide) (by decide)).1

end Weights

end Critique
