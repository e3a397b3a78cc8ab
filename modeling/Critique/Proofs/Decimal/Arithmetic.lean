import Critique.Proofs.Decimal.Rounding

/-!
# Sums, products and quotients of floating-point numbers

The sum, the product and the quotient of two floating-point numbers are rounded once: when the exact
result lies in the interval of a number, the result is that number (`add_eq`, `mul_eq`, `div_eq`).
-/

namespace Critique.Decimal

open Float.Model Float.Model.UnpackedFloat

section Operations

variable {M m₁ m₂ : ℕ} {E e₁ e₂ : ℤ} {h₁ : 0 < m₁} {h₂ : 0 < m₂} {s₁ s₂ : Sign}

/-- A whole number of units that is shifted until it has as many binary digits as rounding needs. -/
lemma round_eq {m : ℕ} {e : ℤ} (hpos : 0 < m) (hc : Canonical M E)
    (hv : InInterval M E (m * 2 ^ e)) (sign : Sign) :
    UnpackedFloat.round Format.binary64 sign m e = .finite sign M E hc.pos := by
  obtain ⟨T, hT⟩ : ∃ T, T = max ((m.log2 : ℤ) + e - 52) (-1074) := ⟨_, rfl⟩
  obtain ⟨k, hk⟩ : ∃ k, k = (e - T).toNat := ⟨_, rfl⟩
  have hround : UnpackedFloat.round Format.binary64 sign m e =
      roundWithAccuracy Format.binary64 sign (m <<< k) (e - k) .exact := by
    rw [hk, hT, ← targetExponent_eq]
    rfl
  have hrep : Represents (.ofMantissaAndAccuracy (m <<< k) .exact)
      (m * 2 ^ e / 2 ^ (e - k) : ℚ) := by
    simp only [ExtendedMantissa.ofMantissaAndAccuracy, Represents, Nat.shiftLeft_eq]
    rw [zpow_sub₀ two_ne_zero, zpow_natCast]
    push_cast
    field_simp
  have hlog : m.log2 + k ≤ (m <<< k).log2 := by
    rw [Nat.shiftLeft_eq, Nat.le_log2 (Nat.mul_pos hpos (by positivity)).ne', Nat.pow_add]
    exact Nat.mul_le_mul_right _ (Nat.log2_self_le hpos.ne')
  rw [hround]
  refine roundWithAccuracy_eq hc hv hrep ?_ sign
  rw [targetExponent_eq]
  omega

lemma normalize_eq_round {n : ℕ} (hn : 0 < n) (e : ℤ) (zero : Sign) :
    UnpackedFloat.normalize Format.binary64 n e zero =
      UnpackedFloat.round Format.binary64 .positive n e := by
  have hcompare : compare (n : ℤ) 0 = .gt := by
    rw [Int.compare_eq_gt]
    omega
  simp only [UnpackedFloat.normalize, hcompare, Int.toNat_natCast]

/-- Units are shifted to the smaller of the two exponents, so that nothing is lost before the sum is
rounded. -/
lemma add_eq (hc : Canonical M E) (hv : InInterval M E (m₁ * 2 ^ e₁ + m₂ * 2 ^ e₂)) :
    add Format.binary64 (.finite .positive m₁ e₁ h₁) (.finite .positive m₂ e₂ h₂) =
      .finite .positive M E hc.pos := by
  obtain ⟨t, ht⟩ : ∃ t, t = min e₁ e₂ := ⟨_, rfl⟩
  obtain ⟨n, hn⟩ : ∃ n, n = m₁ <<< (e₁ - t).toNat + m₂ <<< (e₂ - t).toNat := ⟨_, rfl⟩
  have hadd : add Format.binary64 (.finite .positive m₁ e₁ h₁) (.finite .positive m₂ e₂ h₂) =
      UnpackedFloat.normalize Format.binary64 (n : ℤ) t .positive := by
    rw [hn, ht]
    rfl
  have hshift : ∀ (m : ℕ) (e : ℤ), t ≤ e →
      ((m <<< (e - t).toNat : ℕ) : ℚ) * 2 ^ t = m * 2 ^ e := fun m e he => by
    rw [Nat.shiftLeft_eq, Nat.cast_mul, mul_assoc]
    congr 1
    rw [Nat.cast_pow, Nat.cast_two, ← zpow_natCast, ← zpow_add₀ two_ne_zero,
      Int.toNat_of_nonneg (by omega), sub_add_cancel]
  have hvalue : (m₁ * 2 ^ e₁ + m₂ * 2 ^ e₂ : ℚ) = n * 2 ^ t := by
    rw [hn, Nat.cast_add, add_mul, hshift m₁ e₁ (by omega), hshift m₂ e₂ (by omega)]
  have hpos : 0 < n := by
    rw [hn, Nat.shiftLeft_eq]
    positivity
  rw [hvalue] at hv
  rw [hadd, normalize_eq_round hpos, round_eq hpos hc hv]

lemma mul_eq (hc : Canonical M E) (hv : InInterval M E (m₁ * m₂ * 2 ^ (e₁ + e₂)))
    (hbits : 2 ^ 52 ≤ m₁ * m₂) :
    mul Format.binary64 (.finite s₁ m₁ e₁ h₁) (.finite s₂ m₂ e₂ h₂) =
      .finite (s₁ * s₂) M E hc.pos := by
  have hrep : Represents (.ofMantissaAndAccuracy (m₁ * m₂) .exact)
      (m₁ * m₂ * 2 ^ (e₁ + e₂) / 2 ^ (e₁ + e₂)) := by
    rw [mul_div_cancel_right₀ _ (two_zpow_pos _).ne']
    simp only [ExtendedMantissa.ofMantissaAndAccuracy, Represents]
    push_cast
    rfl
  have hlog : 52 ≤ (m₁ * m₂).log2 := (Nat.le_log2 (Nat.mul_pos h₁ h₂).ne').2 hbits
  refine roundWithAccuracy_eq hc hv hrep ?_ _
  rw [targetExponent_eq]
  omega

/-- The whole part of a quotient and the accuracy of what is left stand for the quotient. -/
lemma represents_div (n : ℕ) {d : ℕ} (hd : 0 < d) :
    Represents (.ofMantissaAndAccuracy (n / d) (accuracyOfFraction (n % d) d)) (n / d : ℚ) := by
  have hpos : (0 : ℚ) < d := by exact_mod_cast hd
  have hsplit : (n / d : ℚ) = (n / d : ℕ) + (n % d : ℕ) / d := by
    have hn : (n : ℚ) = d * (n / d : ℕ) + (n % d : ℕ) := by
      exact_mod_cast (Nat.div_add_mod n d).symm
    field_simp
    linarith
  have hlt : n % d < d := Nat.mod_lt n hd
  rw [hsplit]
  generalize n / d = q at *
  generalize n % d = r at *
  unfold accuracyOfFraction
  by_cases hr : r = 0
  · simp [hr, ExtendedMantissa.ofMantissaAndAccuracy, Represents]
  rw [if_neg hr]
  have hr' : (0 : ℚ) < r := by exact_mod_cast Nat.pos_of_ne_zero hr
  have hlt' : (r : ℚ) < d := by exact_mod_cast hlt
  have hbounds : 0 < (r : ℚ) / d ∧ (r : ℚ) / d < 1 :=
    ⟨div_pos hr' hpos, (div_lt_one hpos).2 hlt'⟩
  -- the rest decides on which side of the middle the quotient lies
  cases hcompare : compare (2 * r) d with
  | lt =>
    have hhalf : (2 * r : ℚ) < d := by exact_mod_cast Nat.compare_eq_lt.1 hcompare
    have : (r : ℚ) / d < 1 / 2 := by
      rw [div_lt_div_iff₀ hpos two_pos]
      linarith
    simp only [ExtendedMantissa.ofMantissaAndAccuracy, Represents]
    constructor <;> linarith
  | eq =>
    have hhalf : (2 * r : ℚ) = d := by exact_mod_cast Nat.compare_eq_eq.1 hcompare
    have : (r : ℚ) / d = 1 / 2 := by
      rw [div_eq_div_iff hpos.ne' two_ne_zero]
      linarith
    simp only [ExtendedMantissa.ofMantissaAndAccuracy, Represents, this]
  | gt =>
    have hhalf : (d : ℚ) < 2 * r := by exact_mod_cast Nat.compare_eq_gt.1 hcompare
    have : 1 / 2 < (r : ℚ) / d := by
      rw [div_lt_div_iff₀ two_pos hpos]
      linarith
    simp only [ExtendedMantissa.ofMantissaAndAccuracy, Represents]
    constructor <;> linarith

/-- A quotient is computed with as many binary digits as rounding needs. -/
lemma two_pow_le_div {k : ℕ} (h₁ : 0 < m₁) (h₂ : 0 < m₂) (hk : m₂.log2 + 53 ≤ m₁.log2 + k) :
    2 ^ 52 ≤ m₁ <<< k / m₂ := by
  rw [Nat.le_div_iff_mul_le h₂, Nat.shiftLeft_eq]
  calc 2 ^ 52 * m₂ ≤ 2 ^ 52 * 2 ^ (m₂.log2 + 1) := Nat.mul_le_mul_left _ Nat.lt_log2_self.le
    _ = 2 ^ (m₂.log2 + 53) := by ring
    _ ≤ 2 ^ (m₁.log2 + k) := Nat.pow_le_pow_right two_pos hk
    _ = 2 ^ m₁.log2 * 2 ^ k := Nat.pow_add 2 _ _
    _ ≤ m₁ * 2 ^ k := Nat.mul_le_mul_right _ (Nat.log2_self_le h₁.ne')

/-- A quotient is rounded from units and bits that stand for the exact one. -/
lemma exists_div_eq_roundWithAccuracy (s₁ s₂ : Sign) (e₁ e₂ : ℤ) (h₁ : 0 < m₁) (h₂ : 0 < m₂) :
    ∃ m e a, div Format.binary64 (.finite s₁ m₁ e₁ h₁) (.finite s₂ m₂ e₂ h₂) =
        roundWithAccuracy Format.binary64 (s₁ / s₂) m e a ∧
      Represents (.ofMantissaAndAccuracy m a) (m₁ * 2 ^ e₁ / (m₂ * 2 ^ e₂) / 2 ^ e : ℚ) ∧
      e ≤ Format.binary64.targetExponent (totalExponent m e) := by
  -- the quotient is taken at the exponent `te`, for which the dividend is shifted by `k`
  obtain ⟨te, hte⟩ : ∃ te, te = min (e₁ - e₂)
      (Format.binary64.targetExponent (totalExponent m₁ e₁ - totalExponent m₂ e₂)) := ⟨_, rfl⟩
  obtain ⟨k, hk⟩ : ∃ k, k = (e₁ - e₂ - te).toNat := ⟨_, rfl⟩
  have hdiv : div Format.binary64 (.finite s₁ m₁ e₁ h₁) (.finite s₂ m₂ e₂ h₂) =
      roundWithAccuracy Format.binary64 (s₁ / s₂) (m₁ <<< k / m₂) te
        (accuracyOfFraction (m₁ <<< k % m₂) m₂) := by
    rw [hk, hte]
    rfl
  have hshift : (k : ℤ) = e₁ - e₂ - te := by
    rw [hk, Int.toNat_of_nonneg (by omega)]
  have hvalue : (m₁ * 2 ^ e₁ / (m₂ * 2 ^ e₂) / 2 ^ te : ℚ) = (m₁ <<< k : ℕ) / m₂ := by
    have hpow : (2 : ℚ) ^ k = 2 ^ e₁ / 2 ^ e₂ / 2 ^ te := by
      rw [← zpow_natCast, hshift, zpow_sub₀ two_ne_zero, zpow_sub₀ two_ne_zero]
    rw [Nat.shiftLeft_eq]
    push_cast
    rw [hpow]
    field_simp
  refine ⟨_, _, _, hdiv, ?_, ?_⟩
  · rw [hvalue]
    exact represents_div _ h₂
  · simp only [Format.targetExponent, totalExponent, Format.mantissaBits, Format.minExponent] at hte
    norm_num at hte
    rw [targetExponent_eq]
    by_cases hmin : te ≤ -1074
    · omega
    · have hbits := two_pow_le_div h₁ h₂ (k := k) (by omega)
      have hlog : 52 ≤ (m₁ <<< k / m₂).log2 := (Nat.le_log2 (by omega)).2 hbits
      omega

lemma div_eq (hc : Canonical M E) (hv : InInterval M E (m₁ * 2 ^ e₁ / (m₂ * 2 ^ e₂))) :
    div Format.binary64 (.finite s₁ m₁ e₁ h₁) (.finite s₂ m₂ e₂ h₂) =
      .finite (s₁ / s₂) M E hc.pos := by
  obtain ⟨m, e, a, hdiv, hrep, he⟩ := exists_div_eq_roundWithAccuracy s₁ s₂ e₁ e₂ h₁ h₂
  rw [hdiv, roundWithAccuracy_eq hc hv hrep he]

end Operations

end Critique.Decimal
