import Mathlib

/-!
# Rounding to a floating-point number

A computation with floating-point numbers keeps a whole number of units and two bits about what is
beyond it, and rounds at the end.  `Represents` says what this stands for as an exact number, and
`roundWithAccuracy_eq` what rounding makes of it: whatever lies in the interval of a floating-point
number is rounded to that number.

An interval reaches half of the last binary place to both sides.  Only below a power of two, where
the numbers lie twice as close, it reaches a quarter.
-/

namespace Critique.Decimal

open Float.Model Float.Model.UnpackedFloat

/-! ## Whole units and two bits -/

/-- The units and bits stand for the exact number `w`: the first bit says whether at least half a
unit is left, and the second one whether anything else is left. -/
def Represents : ExtendedMantissa → ℚ → Prop
  | ⟨m, false, false⟩, w => w = m
  | ⟨m, false, true⟩, w => m < w ∧ w < m + 1 / 2
  | ⟨m, true, false⟩, w => w = m + 1 / 2
  | ⟨m, true, true⟩, w => m + 1 / 2 < w ∧ w < m + 1

lemma Represents.bounds {em : ExtendedMantissa} {w : ℚ} (h : Represents em w) :
    (em.mantissa : ℚ) ≤ w ∧ w < em.mantissa + 1 := by
  obtain ⟨m, round, sticky⟩ := em
  cases round <;> cases sticky <;> simp only [Represents] at h ⊢ <;> constructor <;> linarith

lemma Represents.shiftRightOne {em : ExtendedMantissa} {w : ℚ} (h : Represents em w) :
    Represents em.shiftRightOne (w / 2) := by
  obtain ⟨m, round, sticky⟩ := em
  have hsplit : (m : ℚ) = 2 * (m / 2 : ℕ) + (m % 2 : ℕ) := by
    exact_mod_cast (Nat.div_add_mod m 2).symm
  have hzero : (0 != 0) = false := rfl
  have hone : (1 != 0) = true := rfl
  -- the last bit of `m` becomes the first one behind it
  rcases Nat.mod_two_eq_zero_or_one m with hmod | hmod <;> rw [hmod] at hsplit <;>
    cases round <;> cases sticky <;>
    simp only [Represents, ExtendedMantissa.shiftRightOne, hmod, hzero, hone, Bool.or_self,
      Bool.or_true, Bool.or_false] at h ⊢ <;>
    push_cast at hsplit
  all_goals first | linarith | (constructor <;> linarith)

lemma Represents.shiftRight {em : ExtendedMantissa} {w : ℚ} (h : Represents em w) (n : ℕ) :
    Represents (em >>> n) (w / 2 ^ n) := by
  induction n with
  | zero =>
    have hshift : em >>> 0 = em := rfl
    rwa [hshift, pow_zero, div_one]
  | succ n ih =>
    have hshift : em >>> (n + 1) = (em >>> n).shiftRightOne := rfl
    have hvalue : w / 2 ^ (n + 1) = w / 2 ^ n / 2 := by
      rw [pow_succ, div_div]
    rw [hshift, hvalue]
    exact ih.shiftRightOne

/-- A number within half a unit of a whole number is rounded to it; in the middle between two, the
even one is taken. -/
lemma Represents.roundedMantissa_eq {em : ExtendedMantissa} {w : ℚ} (h : Represents em w) {n : ℕ}
    (hlower : (n : ℚ) - 1 / 2 ≤ w) (hupper : w ≤ n + 1 / 2)
    (htie : w = n - 1 / 2 ∨ w = n + 1 / 2 → n % 2 = 0) : em.roundedMantissa = n := by
  obtain ⟨m, round, sticky⟩ := em
  have hnat : ∀ a b : ℕ, (a : ℚ) < b + 1 → a ≤ b := fun a b hab => by
    have : a < b + 1 := by exact_mod_cast hab
    omega
  -- the two bits say where `w` lies: at `m`, in a half of the unit above it, or in the middle
  cases round <;> cases sticky <;> simp only [Represents] at h <;>
    simp only [ExtendedMantissa.roundedMantissa, ExtendedMantissa.accuracy,
      Accuracy.roundToNearestEven]
  · exact le_antisymm (hnat m n (by linarith)) (hnat n m (by linarith))
  · exact le_antisymm (hnat m n (by linarith)) (hnat n m (by linarith))
  · -- the middle between `m` and `m + 1`
    have hle := hnat n (m + 1) (by push_cast; linarith)
    have hge := hnat m n (by linarith)
    have heven : n % 2 = 0 := by
      apply htie
      rcases Nat.lt_or_ge m n with hlt | hle'
      · have hn : n = m + 1 := by omega
        left
        rw [h, hn]
        push_cast
        ring
      · have hn : n = m := by omega
        right
        rw [h, hn]
    omega
  · have hle := hnat n (m + 1) (by push_cast; linarith)
    have hge := hnat (m + 1) n (by push_cast; linarith)
    omega

/-! ## Canonical numbers -/

/-- A positive number of the format: at most 53 binary digits, and as many as that unless it is
among the smallest numbers. -/
structure Canonical (M : ℕ) (E : ℤ) : Prop where
  pos : 0 < M
  lt : M < 2 ^ 53
  min : -1074 ≤ E
  full : 2 ^ 52 ≤ M ∨ E = -1074

/-- The interval of a number: what is nearer to it than to any other number, and the middle between
two if its last digit is even. -/
structure InInterval (M : ℕ) (E : ℤ) (v : ℚ) : Prop where
  lower : ((M : ℚ) - 1 / 2) * 2 ^ E ≤ v
  upper : v ≤ ((M : ℚ) + 1 / 2) * 2 ^ E
  narrow : M = 2 ^ 52 → -1074 < E → ((M : ℚ) - 1 / 4) * 2 ^ E ≤ v
  odd : M % 2 = 1 → ((M : ℚ) - 1 / 2) * 2 ^ E < v ∧ v < ((M : ℚ) + 1 / 2) * 2 ^ E

lemma two_zpow_pos (n : ℤ) : (0 : ℚ) < 2 ^ n := by positivity

lemma targetExponent_eq (m : ℕ) (e : ℤ) :
    Format.binary64.targetExponent (totalExponent m e) = max ((m.log2 : ℤ) + e - 52) (-1074) := by
  simp only [Format.targetExponent, totalExponent, Format.mantissaBits, Format.minExponent]
  norm_num
  omega

section Shift

variable {m M : ℕ} {e E T : ℤ} {a : Accuracy} {v : ℚ}

lemma Canonical.targetExponent_eq (h : Canonical M E) :
    Format.binary64.targetExponent (totalExponent M E) = E := by
  have hupper : M.log2 < 53 := (Nat.log2_lt h.pos.ne').2 h.lt
  have hmin := h.min
  rw [Decimal.targetExponent_eq]
  rcases h.full with hfull | hfull
  · have hlower : 52 ≤ M.log2 := (Nat.le_log2 h.pos.ne').2 hfull
    omega
  · omega

lemma Canonical.shift_eq (h : Canonical M E) :
    shiftToTargetExponent Format.binary64 M E .exact = (⟨M, false, false⟩, E) := by
  simp only [shiftToTargetExponent, h.targetExponent_eq, shiftToExponent, sub_self]
  simp only [Int.toNat_zero, Nat.cast_zero, add_zero]
  rfl

/-- Shifting to a greater exponent keeps the exact number. -/
lemma shift_represents (hT : Format.binary64.targetExponent (totalExponent m e) = T) (he : e ≤ T)
    (h : Represents (.ofMantissaAndAccuracy m a) (v / 2 ^ e)) :
    ∃ em, shiftToTargetExponent Format.binary64 m e a = (em, T) ∧ Represents em (v / 2 ^ T) := by
  have hamount : ((T - e).toNat : ℤ) = T - e := Int.toNat_of_nonneg (by omega)
  refine ⟨ExtendedMantissa.ofMantissaAndAccuracy m a >>> (T - e).toNat, ?_, ?_⟩
  · simp only [shiftToTargetExponent, hT, shiftToExponent, hamount, add_sub_cancel]
  · have hvalue : v / 2 ^ T = v / 2 ^ e / 2 ^ (T - e).toNat := by
      rw [← zpow_natCast, hamount, div_div, ← zpow_add₀ two_ne_zero, add_sub_cancel]
    rw [hvalue]
    exact h.shiftRight _

/-- What is left to do after the first shift: to round, and to shift once more where rounding gave
one binary digit too many. -/
lemma roundWithAccuracy_of_shift {sign : Sign} {em final : ExtendedMantissa}
    (hshift : shiftToTargetExponent Format.binary64 m e a = (em, T))
    (hagain : shiftToTargetExponent Format.binary64 em.roundedMantissa T .exact = (final, E))
    (hM : final.mantissa = M) (hpos : 0 < M) :
    roundWithAccuracy Format.binary64 sign m e a = .finite sign M E hpos := by
  subst hM
  simp only [roundWithAccuracy, hshift, hagain, dif_neg hpos.ne']

lemma mantissa_ofMantissaAndAccuracy (m : ℕ) (a : Accuracy) :
    (ExtendedMantissa.ofMantissaAndAccuracy m a).mantissa = m := by
  match a with
  | .exact => rfl
  | .inexact .lt => rfl
  | .inexact .eq => rfl
  | .inexact .gt => rfl

/-- The exponent that is shifted to is that of the number whose interval it is.  Only below a power
of two it can be the one before it. -/
lemma exponent_of_inInterval (hc : Canonical M E) (hv : InInterval M E v)
    (h : Represents (.ofMantissaAndAccuracy m a) (v / 2 ^ e))
    (hT : Format.binary64.targetExponent (totalExponent m e) = T) (he : e ≤ T) :
    T = E ∨ T = E - 1 ∧ M = 2 ^ 52 ∧ -1074 < E ∧ v < 2 ^ 52 * 2 ^ E := by
  have hbounds := h.bounds
  rw [mantissa_ofMantissaAndAccuracy, le_div_iff₀ (two_zpow_pos e), div_lt_iff₀ (two_zpow_pos e)]
    at hbounds
  rw [targetExponent_eq] at hT
  have hmin := hc.min
  -- the number of binary digits in front of the point, from above and below
  have hbelow : ∀ n : ℤ, (2 : ℚ) ^ n ≤ v → n < m.log2 + 1 + e := by
    intro n hn
    have hlog : ((m : ℚ) + 1) ≤ 2 ^ (m.log2 + 1) := by exact_mod_cast Nat.lt_log2_self
    have hlt : (2 : ℚ) ^ n < 2 ^ ((m.log2 : ℤ) + 1 + e) := by
      calc (2 : ℚ) ^ n ≤ v := hn
        _ < (m + 1) * 2 ^ e := hbounds.2
        _ ≤ 2 ^ (m.log2 + 1) * 2 ^ e := by gcongr
        _ = 2 ^ ((m.log2 : ℤ) + 1 + e) := by
          rw [zpow_add₀ two_ne_zero, ← zpow_natCast]
          push_cast
          rfl
    exact (zpow_lt_zpow_iff_right₀ one_lt_two).1 hlt
  have habove : ∀ n : ℤ, m ≠ 0 → v < 2 ^ n → m.log2 + e < n := by
    intro n hm hn
    have hlog : (2 : ℚ) ^ m.log2 ≤ m := by exact_mod_cast Nat.log2_self_le hm
    have hlt : (2 : ℚ) ^ ((m.log2 : ℤ) + e) < 2 ^ n := by
      calc (2 : ℚ) ^ ((m.log2 : ℤ) + e) = 2 ^ m.log2 * 2 ^ e := by
            rw [zpow_add₀ two_ne_zero, zpow_natCast]
        _ ≤ m * 2 ^ e := by gcongr
        _ ≤ v := hbounds.1
        _ < 2 ^ n := hn
    exact (zpow_lt_zpow_iff_right₀ one_lt_two).1 hlt
  have hle : T ≤ E := by
    by_cases hm : m = 0
    · -- too small for a single unit, which only happens at the smallest exponent
      simp only [hm, Nat.log2_zero] at hT
      omega
    · have hM : (M : ℚ) + 1 / 2 < 2 ^ 53 := by
        have hlt : (M : ℚ) + 1 ≤ 2 ^ 53 := by exact_mod_cast hc.lt
        linarith
      have hlt : v < 2 ^ (53 + E) := by
        calc v ≤ (M + 1 / 2) * 2 ^ E := hv.upper
          _ < 2 ^ 53 * 2 ^ E := by gcongr
          _ = 2 ^ (53 + E) := by
            rw [zpow_add₀ two_ne_zero]
            norm_cast
      have hlog := habove (53 + E) hm hlt
      omega
  -- the exponent can be smaller only where the interval reaches below a power of two
  by_cases hE : E = -1074
  · left
    omega
  have hM : 2 ^ 52 ≤ M := hc.full.resolve_right hE
  by_cases hlarge : (2 : ℚ) ^ 52 * 2 ^ E ≤ v
  · left
    have hpow : (2 : ℚ) ^ (52 + E) ≤ v := by
      rw [zpow_add₀ two_ne_zero]
      exact_mod_cast hlarge
    have hlog := hbelow (52 + E) hpow
    omega
  · have hMeq : M = 2 ^ 52 := by
      by_contra hne
      have hnext : (2 : ℚ) ^ 52 + 1 ≤ M := by exact_mod_cast Nat.lt_of_le_of_ne hM (Ne.symm hne)
      refine hlarge ?_
      calc (2 : ℚ) ^ 52 * 2 ^ E ≤ (M - 1 / 2) * 2 ^ E := by
            gcongr
            linarith
        _ ≤ v := hv.lower
    have hpow : (2 : ℚ) ^ (51 + E) ≤ v := by
      calc (2 : ℚ) ^ (51 + E) = 2 ^ 51 * 2 ^ E := by
            rw [zpow_add₀ two_ne_zero]
            norm_cast
        _ ≤ (M - 1 / 4) * 2 ^ E := by
            rw [hMeq]
            gcongr
            norm_num
        _ ≤ v := hv.narrow hMeq (by omega)
    have hlog := hbelow (51 + E) hpow
    by_cases hTE : T = E
    · exact .inl hTE
    · exact .inr ⟨by omega, hMeq, by omega, not_le.1 hlarge⟩

/-- Rounding to 53 binary digits can give the power of two that has one more. -/
lemma shift_two_pow (hE : -1074 ≤ E) :
    shiftToTargetExponent Format.binary64 (2 ^ 53) (E - 1) .exact =
      (⟨2 ^ 52, false, false⟩, E) := by
  have hT : Format.binary64.targetExponent (totalExponent (2 ^ 53) (E - 1)) = E := by
    rw [targetExponent_eq, Nat.log2_two_pow]
    push_cast
    omega
  simp only [shiftToTargetExponent, hT, shiftToExponent, sub_sub_cancel]
  norm_num
  rfl

/-- **Rounding.**  What lies in the interval of a number is rounded to that number. -/
theorem roundWithAccuracy_eq (hc : Canonical M E) (hv : InInterval M E v)
    (h : Represents (.ofMantissaAndAccuracy m a) (v / 2 ^ e))
    (he : e ≤ Format.binary64.targetExponent (totalExponent m e)) (sign : Sign) :
    roundWithAccuracy Format.binary64 sign m e a = .finite sign M E hc.pos := by
  generalize hT : Format.binary64.targetExponent (totalExponent m e) = T at he
  obtain ⟨em, hshift, hem⟩ := shift_represents hT he h
  rcases exponent_of_inInterval hc hv h hT he with rfl | ⟨rfl, rfl, hmin, hlt⟩
  · have hround : em.roundedMantissa = M := by
      refine hem.roundedMantissa_eq ?_ ?_ ?_
      · rw [le_div_iff₀ (two_zpow_pos T)]
        exact hv.lower
      · rw [div_le_iff₀ (two_zpow_pos T)]
        exact hv.upper
      · -- the ends of an interval belong to it only for an even number
        intro hmiddle
        by_contra hodd
        obtain ⟨hlower, hupper⟩ := hv.odd (by omega)
        rw [← lt_div_iff₀ (two_zpow_pos T)] at hlower
        rw [← div_lt_iff₀ (two_zpow_pos T)] at hupper
        rcases hmiddle with hmiddle | hmiddle
        · exact hlower.ne' hmiddle
        · exact hupper.ne hmiddle
    have hagain : shiftToTargetExponent Format.binary64 em.roundedMantissa T .exact =
        (⟨M, false, false⟩, T) := by rw [hround, hc.shift_eq]
    exact roundWithAccuracy_of_shift hshift hagain rfl hc.pos
  · -- just below a power of two: rounding goes up to it
    have hscale : v / 2 ^ (E - 1) = 2 * (v / 2 ^ E) := by
      rw [zpow_sub_one₀ two_ne_zero]
      field_simp
    have hquarter := hv.narrow rfl hmin
    rw [← le_div_iff₀ (two_zpow_pos E)] at hquarter
    rw [← div_lt_iff₀ (two_zpow_pos E)] at hlt
    have hround : em.roundedMantissa = 2 ^ 53 := by
      refine hem.roundedMantissa_eq ?_ ?_ fun _ => by norm_num
      · rw [hscale]
        push_cast at hquarter ⊢
        linarith
      · rw [hscale]
        push_cast at hlt ⊢
        linarith
    have hagain : shiftToTargetExponent Format.binary64 em.roundedMantissa (E - 1) .exact =
        (⟨2 ^ 52, false, false⟩, E) := by rw [hround, shift_two_pow hmin.le]
    exact roundWithAccuracy_of_shift hshift hagain rfl hc.pos

end Shift

end Critique.Decimal
