import Critique.Proofs.Decimal.Digits
import Critique.Proofs.Decimal.Rounding

/-!
# The shortest decimal lies in the interval

Whatever digits `shortest` takes, the decimal lies in the interval of the number
(`shortest_inInterval`), so that it is read as that number.

The search ends with such a decimal because seventeen digits always suffice (`exists_onGrid`).  The
grid of seventeen digits is finer than the last binary place.  Of the two grid points around the
number one is then nearer than the end of the interval on its side.
-/

namespace Critique.Decimal

/-! ## The leading digit -/

lemma ten_zpow_magnitude_le {num den : ℕ} (hnum : 0 < num) (hden : 0 < den) :
    (10 : ℚ) ^ magnitude num den ≤ num / den := by
  have hden' : (0 : ℚ) < den := by exact_mod_cast hden
  have hnum' : (0 : ℚ) < num := by exact_mod_cast hnum
  simp only [magnitude]
  -- at least one, a power of ten below one, or anything else below one
  split_ifs with hle heq
  · have hpos : 0 < num / den := Nat.div_pos hle hden
    have hcount := digitCount_pos (num / den)
    have hfloor : 10 ^ (digitCount (num / den) - 1) * den ≤ num :=
      (Nat.le_div_iff_mul_le hden).1 (ten_pow_digitCount_le hpos)
    have hexponent : ((digitCount (num / den) : ℤ) - 1) = (digitCount (num / den) - 1 : ℕ) := by
      omega
    rw [hexponent, zpow_natCast, le_div_iff₀ hden']
    exact_mod_cast hfloor
  · have hcount := digitCount_pos (den / num)
    have hexponent : (1 - (digitCount (den / num) : ℤ)) = -(digitCount (den / num) - 1 : ℕ) := by
      omega
    rw [hexponent, zpow_neg, zpow_natCast, inv_eq_one_div, div_le_div_iff₀ (by positivity) hden']
    have hcast : (den : ℚ) = num * 10 ^ (digitCount (den / num) - 1) := by exact_mod_cast heq
    rw [one_mul, hcast]
  · have hlt : den < num * 10 ^ digitCount (den / num) := by
      rw [Nat.mul_comm]
      exact (Nat.div_lt_iff_lt_mul hnum).1 (lt_ten_pow_digitCount _)
    have hcast : (den : ℚ) ≤ num * 10 ^ digitCount (den / num) := by exact_mod_cast hlt.le
    rw [zpow_neg, zpow_natCast, inv_eq_one_div, div_le_div_iff₀ (by positivity) hden', one_mul]
    exact hcast

namespace Target

variable (t : Target) (k : ℤ)

/-! ## Comparing with the grid -/

lemma gridFactor_pos : 0 < t.gridFactor k :=
  Nat.mul_pos (Nat.pow_pos (by norm_num)) (Nat.pow_pos (by norm_num))

lemma quarterFactor_pos : 0 < t.quarterFactor k :=
  Nat.mul_pos (Nat.pow_pos (by norm_num)) (Nat.pow_pos (by norm_num))

lemma pow_toNat {a : ℚ} (ha : a ≠ 0) (n : ℤ) : a ^ n.toNat = a ^ (-n).toNat * a ^ n := by
  rw [← zpow_natCast, ← zpow_natCast, ← zpow_add₀ ha]
  congr 1
  omega

/-- A unit of the grid and a quarter weigh in a comparison what they are. -/
lemma ten_zpow_eq : (10 : ℚ) ^ k = t.gridFactor k / t.quarterFactor k * 2 ^ t.quarter := by
  have hpos : (t.quarterFactor k : ℚ) ≠ 0 := by exact_mod_cast (t.quarterFactor_pos k).ne'
  have hten := pow_toNat (a := 10) (by norm_num) k
  have htwo := pow_toNat (a := 2) two_ne_zero t.quarter
  have hweight : (t.gridFactor k : ℚ) * 2 ^ t.quarter = t.quarterFactor k * 10 ^ k := by
    simp only [gridFactor, quarterFactor, Nat.pow_eq, Nat.cast_mul, Nat.cast_pow, Nat.cast_ofNat]
    rw [hten, htwo]
    ring
  rw [div_mul_eq_mul_div, hweight, mul_div_cancel_left₀ _ hpos]

variable {t k}

lemma quarters_le_iff {a d : ℕ} :
    a * t.quarterFactor k ≤ d * t.gridFactor k ↔ (a : ℚ) * 2 ^ t.quarter ≤ d * 10 ^ k := by
  have hpos : (0 : ℚ) < t.quarterFactor k := by exact_mod_cast t.quarterFactor_pos k
  rw [ten_zpow_eq t k, ← mul_assoc, mul_le_mul_iff_left₀ (two_zpow_pos _), mul_div_assoc',
    le_div_iff₀ hpos]
  norm_cast

lemma le_quarters_iff {a d : ℕ} :
    d * t.gridFactor k ≤ a * t.quarterFactor k ↔ (d : ℚ) * 10 ^ k ≤ a * 2 ^ t.quarter := by
  have hpos : (0 : ℚ) < t.quarterFactor k := by exact_mod_cast t.quarterFactor_pos k
  rw [ten_zpow_eq t k, ← mul_assoc, mul_le_mul_iff_left₀ (two_zpow_pos _), mul_div_assoc',
    div_le_iff₀ hpos]
  norm_cast

lemma holds_iff {d : ℕ} : t.holds k d = true ↔
    (t.closed = true ∧ (t.lower : ℚ) * 2 ^ t.quarter ≤ d * 10 ^ k ∧
      (d : ℚ) * 10 ^ k ≤ t.upper * 2 ^ t.quarter) ∨
    (t.lower : ℚ) * 2 ^ t.quarter < d * 10 ^ k ∧ (d : ℚ) * 10 ^ k < t.upper * 2 ^ t.quarter := by
  rw [← quarters_le_iff, ← le_quarters_iff, ← not_le, ← le_quarters_iff, ← not_le,
    ← quarters_le_iff]
  simp only [holds]
  split_ifs with hclosed
  · simp only [hclosed, Bool.and_eq_true, decide_eq_true_eq, true_and]
    omega
  · simp only [hclosed, Bool.and_eq_true, decide_eq_true_eq, not_le, Bool.false_eq_true,
      false_and, false_or]

/-! ## The two neighbours -/

/-- The greatest grid point that is not beyond the number. -/
def below (t : Target) (k : ℤ) : ℕ :=
  4 * t.mantissa * t.quarterFactor k / t.gridFactor k

lemma below_le : (t.below k : ℚ) * 10 ^ k ≤ (4 * t.mantissa : ℕ) * 2 ^ t.quarter :=
  le_quarters_iff.1 (Nat.div_mul_le_self _ _)

lemma lt_below_add_one :
    ((4 * t.mantissa : ℕ) : ℚ) * 2 ^ t.quarter < (t.below k + 1 : ℕ) * 10 ^ k := by
  rw [← not_le, ← le_quarters_iff, not_le]
  exact (Nat.div_lt_iff_lt_mul (t.gridFactor_pos k)).1 (Nat.lt_succ_self _)

lemma holds_of_onGrid? {tie : Tie} {d : ℕ} (h : t.onGrid? tie k = some d) :
    t.holds k d = true := by
  simp only [onGrid?] at h
  split at h
  · rename_i hbelow habove
    split_ifs at h
    · obtain rfl := Option.some.inj h
      exact hbelow
    · obtain rfl := Option.some.inj h
      exact habove
  · rename_i hbelow habove
    obtain rfl := Option.some.inj h
    exact hbelow
  · rename_i hbelow habove
    obtain rfl := Option.some.inj h
    exact habove
  · cases h

lemma holds_of_onGrid?_eq_none {tie : Tie} (h : t.onGrid? tie k = none) :
    t.holds k (t.below k) = false ∧ t.holds k (t.below k + 1) = false := by
  simp only [onGrid?] at h
  split at h
  · cases h
  · cases h
  · cases h
  · rename_i hbelow habove
    exact ⟨hbelow, habove⟩

/-! ## Seventeen digits -/

lemma ten_zpow_leading_le (hM : 0 < t.mantissa) :
    (10 : ℚ) ^ t.leading ≤ (4 * t.mantissa : ℕ) * 2 ^ t.quarter := by
  have htwo : ∀ n : ℕ, 0 < Nat.pow 2 n := fun n => Nat.pow_pos (by norm_num)
  refine le_of_le_of_eq (ten_zpow_magnitude_le (Nat.mul_pos (by omega) (htwo _)) (htwo _)) ?_
  have hpow := pow_toNat (a := 2) two_ne_zero t.quarter
  simp only [Nat.pow_eq, Nat.cast_mul, Nat.cast_pow, Nat.cast_ofNat]
  rw [hpow]
  field_simp

/-- What a target is when it is made from the parts of a number. -/
structure Sound (t : Target) : Prop where
  pos : 0 < t.mantissa
  lt : t.mantissa < 2 ^ 53
  narrow : t.narrow = true → t.mantissa = 2 ^ 52

lemma Sound.cast_lower (h : t.Sound) :
    (t.lower : ℚ) = 4 * t.mantissa - (if t.narrow then 1 else 2) := by
  have hpos := h.pos
  unfold lower
  split_ifs
  · rw [Nat.cast_sub (by omega)]
    push_cast
    rfl
  · rw [Nat.cast_sub (by omega)]
    push_cast
    rfl

lemma cast_upper : (t.upper : ℚ) = 4 * t.mantissa + 2 := by
  unfold upper
  push_cast
  rfl

/-- A grid of seventeen digits is finer than the interval is wide. -/
lemma Sound.grid_lt (h : t.Sound) (hk : k = t.leading - 16) :
    (10 : ℚ) ^ k < ((if t.narrow then 1 else 2) + 2) * 2 ^ t.quarter := by
  have hunit := two_zpow_pos t.quarter
  have hgrid : (10 : ℚ) ^ k * 10 ^ 16 ≤ 4 * t.mantissa * 2 ^ t.quarter := by
    have hpow : (10 : ℚ) ^ t.leading = 10 ^ k * 10 ^ 16 := by
      rw [hk, ← zpow_natCast, ← zpow_add₀ (by norm_num)]
      congr 1
      push_cast
      omega
    have hle := ten_zpow_leading_le h.pos
    rw [hpow] at hle
    exact_mod_cast hle
  split_ifs with hn
  · have hM : (t.mantissa : ℚ) = 2 ^ 52 := by exact_mod_cast h.narrow hn
    rw [hM] at hgrid
    linarith
  · have hM : (t.mantissa : ℚ) ≤ 2 ^ 53 := by exact_mod_cast h.lt.le
    have hsize : (t.mantissa : ℚ) * 2 ^ t.quarter ≤ 2 ^ 53 * 2 ^ t.quarter := by gcongr
    linarith

/-- Of the two grid points around the number one lies in the interval, if the grid has seventeen
digits. -/
lemma Sound.exists_holds (h : t.Sound) (hk : k = t.leading - 16) :
    t.holds k (t.below k) = true ∨ t.holds k (t.below k + 1) = true := by
  have hunit := two_zpow_pos t.quarter
  have hfine := h.grid_lt hk
  have hbelow := t.below_le (k := k)
  have habove := t.lt_below_add_one (k := k)
  have hwidth : (0 : ℚ) < if t.narrow then 1 else 2 := by
    split_ifs
    · norm_num
    · norm_num
  rw [holds_iff, holds_iff, h.cast_lower, cast_upper]
  push_cast at hbelow habove ⊢
  generalize (if t.narrow then (1 : ℚ) else 2) = w at *
  by_cases hnear : (4 * t.mantissa - w) * 2 ^ t.quarter < t.below k * 10 ^ k
  · refine .inl (.inr ⟨hnear, ?_⟩)
    linarith
  · -- too far below, so that the one above is near: between them is less than the whole width
    refine .inr (.inr ⟨?_, ?_⟩)
    · have hpos : 0 < w * 2 ^ t.quarter := mul_pos hwidth hunit
      linarith
    · linarith

lemma Sound.exists_search (h : t.Sound) (tie : Tie) (n fuel : ℕ) (hn : n + fuel = 17) :
    ∃ d k, t.search tie n (fuel + 1) = ⟨d, k⟩ ∧ t.holds k d = true := by
  induction fuel generalizing n with
  | zero =>
    -- the last try has seventeen digits
    obtain rfl : n = 17 := hn
    cases hgrid : t.onGrid? tie (t.leading + 1 - (17 : ℕ)) with
    | none =>
      obtain ⟨hbelow, habove⟩ := holds_of_onGrid?_eq_none hgrid
      have hdigits : t.leading + 1 - (17 : ℕ) = t.leading - 16 := by omega
      rcases h.exists_holds hdigits with hholds | hholds
      · exact absurd hholds (by rw [hbelow]; exact Bool.false_ne_true)
      · exact absurd hholds (by rw [habove]; exact Bool.false_ne_true)
    | some d => exact ⟨d, _, by simp only [search, hgrid], holds_of_onGrid? hgrid⟩
  | succ fuel ih =>
    cases hgrid : t.onGrid? tie (t.leading + 1 - n) with
    | none =>
      obtain ⟨d, k, hsearch, hholds⟩ := ih (n + 1) (by omega)
      refine ⟨d, k, ?_, hholds⟩
      rw [search]
      simp only [hgrid]
      exact hsearch
    | some d => exact ⟨d, _, by simp only [search, hgrid], holds_of_onGrid? hgrid⟩

end Target

/-! ## Trailing zeros -/

lemma Scaled.trimZeros_value (s : Scaled) (fuel : ℕ) :
    ((s.trimZeros fuel).digits : ℚ) * 10 ^ (s.trimZeros fuel).exponent =
      s.digits * 10 ^ s.exponent := by
  induction fuel generalizing s with
  | zero => rfl
  | succ fuel ih =>
    rw [trimZeros]
    split_ifs with hzero
    · rw [ih]
      have hdigits : (s.digits : ℚ) = 10 * (s.digits / 10 : ℕ) := by
        have hmul : s.digits = 10 * (s.digits / 10) := by omega
        exact_mod_cast hmul
      rw [hdigits, zpow_add_one₀ (by norm_num)]
      simp
      ring
    · rfl

/-- **The shortest decimal lies in the interval** of the number that it is made for. -/
theorem shortest_inInterval {M : ℕ} {E : ℤ} {narrow : Bool} (hc : Canonical M E)
    (hn : narrow = true ↔ M = 2 ^ 52 ∧ -1074 < E) (tie : Tie) :
    InInterval M E
      ((shortest tie M E narrow).digits * 10 ^ (shortest tie M E narrow).exponent) := by
  have ht : (Target.mk M (E - 2) narrow).Sound := ⟨hc.pos, hc.lt, fun h => (hn.1 h).1⟩
  obtain ⟨d, k, hsearch, hholds⟩ := ht.exists_search tie 1 16 rfl
  have hvalue := Scaled.trimZeros_value ⟨d, k⟩ 20
  simp only [shortest, hsearch]
  rw [hvalue]
  have hquarter : (2 : ℚ) ^ E = 4 * 2 ^ (E - 2) := by
    rw [zpow_sub₀ two_ne_zero]
    norm_num
    field_simp
  have hunit := two_zpow_pos (E - 2)
  rw [Target.holds_iff, ht.cast_lower, Target.cast_upper] at hholds
  -- in units of a quarter the ends are whole, so the search compares whole numbers
  have hends : (4 * M - (if narrow then 1 else 2)) * 2 ^ (E - 2) ≤ (d * 10 ^ k : ℚ) ∧
      (d * 10 ^ k : ℚ) ≤ (4 * M + 2) * 2 ^ (E - 2) := by
    rcases hholds with ⟨-, hlower, hupper⟩ | ⟨hlower, hupper⟩
    · exact ⟨hlower, hupper⟩
    · exact ⟨hlower.le, hupper.le⟩
  refine ⟨?_, ?_, ?_, ?_⟩
  · have hwidth : (if narrow then (1 : ℚ) else 2) ≤ 2 := by
      split_ifs
      · norm_num
      · norm_num
    have hle := mul_le_mul_of_nonneg_right hwidth hunit.le
    rw [hquarter]
    linarith
  · rw [hquarter]
    linarith
  · intro hM hE
    rw [if_pos (hn.2 ⟨hM, hE⟩)] at hends
    rw [hquarter]
    linarith
  · intro hodd
    have hwide : ¬ narrow = true := fun h => by
      have := (hn.1 h).1
      omega
    rw [if_neg hwide] at hholds
    rw [hquarter]
    rcases hholds with ⟨hclosed, -⟩ | ⟨hlower, hupper⟩
    · have heven : M % 2 = 0 := of_decide_eq_true hclosed
      omega
    · constructor
      · linarith
      · linarith

end Critique.Decimal
