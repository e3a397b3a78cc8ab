import Critique.Proofs.Decimal.Nearest
import Mathlib.Data.Int.Log

/-!
# The range of floating-point numbers

Every positive number that is not too small lies in the interval of a floating-point number
(`exists_inInterval`), and that number is in range unless the given one reaches `overflow`
(`InInterval.exponent_le`).  What is too small is rounded to zero (`roundWithAccuracy_eq_zero`).

So the results of computations stay in range when the exact results do: a quotient by a number that
is not below one (`InRange.div`), a product below `overflow` (`IsPositive.isFinite_mul`), and a
whole number of 64 bits as a floating-point number (`exists_isPositive_toFloat`).
-/

namespace Critique.Decimal

open Float.Model Float.Model.UnpackedFloat

/-! ## Every number lies in an interval -/

/-- The whole number nearest to a number, and the even one of two that are equally near. -/
lemma exists_nearest_whole {w : ℚ} (hw : 0 ≤ w) :
    ∃ n : ℕ, (n : ℚ) - 1 / 2 ≤ w ∧ w ≤ n + 1 / 2 ∧
      (w = n - 1 / 2 ∨ w = n + 1 / 2 → n % 2 = 0) := by
  obtain ⟨m, hm⟩ : ∃ m, m = ⌊w⌋₊ := ⟨_, rfl⟩
  have hle : (m : ℚ) ≤ w := hm ▸ Nat.floor_le hw
  have hlt : w < m + 1 := hm ▸ Nat.lt_floor_add_one w
  rcases lt_trichotomy w (m + 1 / 2) with hbelow | hmiddle | habove
  · refine ⟨m, by linarith, hbelow.le, ?_⟩
    rintro (h | h) <;> linarith
  · rcases Nat.mod_two_eq_zero_or_one m with heven | hodd
    · exact ⟨m, by linarith, hmiddle.le, fun _ => heven⟩
    · refine ⟨m + 1, ?_, ?_, fun _ => by omega⟩
      · push_cast
        linarith
      · push_cast
        linarith
  · refine ⟨m + 1, ?_, ?_, ?_⟩
    · push_cast
      linarith
    · push_cast
      linarith
    · push_cast
      rintro (h | h) <;> linarith

/-- The exponent at which a number has 53 binary digits before the point, or the smallest one. -/
lemma exists_exponent {v : ℚ} (hv : 0 < v) :
    ∃ T : ℤ, -1074 ≤ T ∧ v / 2 ^ T < 2 ^ 53 ∧ (2 ^ 52 ≤ v / 2 ^ T ∨ T = -1074) := by
  have hlower : (2 : ℚ) ^ Int.log 2 v ≤ v := by exact_mod_cast Int.zpow_log_le_self (by norm_num) hv
  have hupper : v < 2 ^ (Int.log 2 v + 1) := by
    exact_mod_cast Int.lt_zpow_succ_log_self (b := 2) (by norm_num) v
  refine ⟨max (Int.log 2 v - 52) (-1074), by omega, ?_, ?_⟩
  · rw [div_lt_iff₀ (two_zpow_pos _)]
    calc v < 2 ^ (Int.log 2 v + 1) := hupper
      _ ≤ 2 ^ (53 + max (Int.log 2 v - 52) (-1074)) :=
        zpow_le_zpow_right₀ one_le_two (by omega)
      _ = 2 ^ 53 * 2 ^ max (Int.log 2 v - 52) (-1074) := by
        rw [zpow_add₀ two_ne_zero]
        norm_cast
  · by_cases hmin : Int.log 2 v - 52 ≤ -1074
    · exact .inr (by omega)
    · left
      have hmax : max (Int.log 2 v - 52) (-1074) = Int.log 2 v - 52 := by omega
      rw [hmax, le_div_iff₀ (two_zpow_pos _)]
      calc (2 : ℚ) ^ 52 * 2 ^ (Int.log 2 v - 52) = 2 ^ (52 + (Int.log 2 v - 52)) := by
            rw [zpow_add₀ two_ne_zero]
            norm_cast
        _ = 2 ^ Int.log 2 v := by congr 1; omega
        _ ≤ v := hlower

/-- A number that is rounded up to a power of two has one binary digit more. -/
lemma inInterval_of_carry {T : ℤ} {v : ℚ} (hlower : (2 ^ 53 - 1 / 2) * 2 ^ T ≤ v)
    (hlt : v < 2 ^ 53 * 2 ^ T) : InInterval (2 ^ 52) (T + 1) v := by
  have hT := two_zpow_pos T
  have hnext : (2 : ℚ) ^ (T + 1) = 2 * 2 ^ T := by rw [zpow_add_one₀ two_ne_zero, mul_comm]
  refine ⟨?_, ?_, fun _ _ => ?_, fun hodd => by norm_num at hodd⟩
  · rw [hnext]
    push_cast
    linarith
  · rw [hnext]
    push_cast
    linarith
  · rw [hnext]
    push_cast
    linarith

/-- **Every number lies in an interval** that is not too small for all of them. -/
theorem exists_inInterval {v : ℚ} (hv : 2 ^ (-1075 : ℤ) < v) :
    ∃ M E, Canonical M E ∧ InInterval M E v := by
  have hpos : 0 < v := lt_trans (two_zpow_pos _) hv
  obtain ⟨T, hmin, hlt, hfull⟩ := exists_exponent hpos
  have hT := two_zpow_pos T
  -- `n` units of `2 ^ T` are nearest to `v`; they are the number, unless there are too many
  obtain ⟨n, hlower, hupper, htie⟩ := exists_nearest_whole (div_nonneg hpos.le hT.le)
  have hle : n ≤ 2 ^ 53 := by
    have : (n : ℚ) < (2 ^ 53 + 1 : ℕ) := by push_cast; linarith
    exact Nat.lt_succ_iff.1 (by exact_mod_cast this)
  have hfull' : 2 ^ 52 ≤ n ∨ T = -1074 := by
    refine hfull.imp_left fun h => ?_
    have : ((2 ^ 52 : ℕ) : ℚ) < n + 1 := by push_cast; linarith
    exact Nat.lt_succ_iff.1 (by exact_mod_cast this)
  have hn : 0 < n := by
    rcases hfull' with h | rfl
    · omega
    · -- more than half of the smallest number
      have hhalf : (1 / 2 : ℚ) < v / 2 ^ (-1074 : ℤ) := by
        rw [lt_div_iff₀ hT]
        calc (1 / 2 : ℚ) * 2 ^ (-1074 : ℤ) = 2 ^ (-1 + -1074 : ℤ) := by
              rw [zpow_add₀ two_ne_zero, zpow_neg_one, one_div]
          _ < v := hv
      exact_mod_cast (by linarith : (0 : ℚ) < n)
  rw [le_div_iff₀ hT] at hlower
  rw [div_le_iff₀ hT] at hupper
  rcases Nat.lt_or_ge n (2 ^ 53) with hn53 | hn53
  · refine ⟨n, T, ⟨hn, hn53, hmin, hfull'⟩, hlower, hupper, ?_, ?_⟩
    · intro h52 hT'
      have hbits := hfull.resolve_right (by omega)
      rw [le_div_iff₀ hT] at hbits
      rw [h52]
      push_cast
      linarith
    · intro hodd
      refine ⟨lt_of_le_of_ne hlower ?_, lt_of_le_of_ne hupper ?_⟩
      · intro h
        have := htie (.inl (by rw [← h, mul_div_cancel_right₀ _ hT.ne']))
        omega
      · intro h
        have := htie (.inr (by rw [h, mul_div_cancel_right₀ _ hT.ne']))
        omega
  · -- rounded up to the power of two with one binary digit more
    obtain rfl : n = 2 ^ 53 := by omega
    rw [div_lt_iff₀ hT] at hlt
    push_cast at hlower
    exact ⟨2 ^ 52, T + 1, ⟨by norm_num, by norm_num, by omega, .inl le_rfl⟩,
      inInterval_of_carry hlower hlt⟩

/-! ## Too large and too small -/

/-- Half a place above the greatest number: what reaches it is beyond all numbers. -/
def overflow : ℚ := (2 ^ 53 - 1 / 2) * 2 ^ (971 : ℤ)

section Bounds

variable {M : ℕ} {E : ℤ} {v : ℚ}

lemma InInterval.exponent_le (hc : Canonical M E) (hv : InInterval M E v) (hlt : v < overflow) :
    E ≤ 971 := by
  by_contra hE
  have hfull : 2 ^ 52 ≤ M := hc.full.resolve_right (by omega)
  have hpow : (2 : ℚ) ^ (972 : ℤ) ≤ 2 ^ E := zpow_le_zpow_right₀ one_le_two (by omega)
  have hquarter : ((2 : ℚ) ^ 52 - 1 / 4) * 2 ^ E ≤ v := by
    by_cases hM : M = 2 ^ 52
    · have h := hv.narrow hM (by omega)
      rw [hM] at h
      exact_mod_cast h
    · have hnext : (2 : ℚ) ^ 52 + 1 ≤ M := by
        exact_mod_cast Nat.lt_of_le_of_ne hfull (Ne.symm hM)
      refine le_trans (mul_le_mul_of_nonneg_right ?_ (two_zpow_pos E).le) hv.lower
      linarith
  have hover : overflow = (2 ^ 52 - 1 / 4) * 2 ^ (972 : ℤ) := by
    rw [overflow, show (972 : ℤ) = 971 + 1 by norm_num, zpow_add_one₀ two_ne_zero]
    ring
  have hle : overflow ≤ v := by
    rw [hover]
    exact le_trans (mul_le_mul_of_nonneg_left hpow (by norm_num)) hquarter
  exact absurd hlt (not_lt.2 hle)

/-- A number that rounds something not below one is not below one itself. -/
lemma InInterval.full_of_one_le (hc : Canonical M E) (hv : InInterval M E v) (hone : 1 ≤ v) :
    2 ^ 52 ≤ M ∧ -52 ≤ E := by
  have hM : (M : ℚ) + 1 / 2 < 2 ^ 53 := by
    have : (M : ℚ) + 1 ≤ 2 ^ 53 := by exact_mod_cast hc.lt
    linarith
  have hpow : (2 : ℚ) ^ (0 : ℤ) < 2 ^ (53 + E) := by
    calc (2 : ℚ) ^ (0 : ℤ) = 1 := zpow_zero _
      _ ≤ v := hone
      _ ≤ (M + 1 / 2) * 2 ^ E := hv.upper
      _ < 2 ^ 53 * 2 ^ E := by
        have := two_zpow_pos E
        gcongr
      _ = 2 ^ (53 + E) := by
        rw [zpow_add₀ two_ne_zero]
        norm_cast
  have hE := (zpow_lt_zpow_iff_right₀ one_lt_two).1 hpow
  exact ⟨hc.full.resolve_right (by omega), by omega⟩

lemma one_le_of_full (hM : 2 ^ 52 ≤ M) (hE : -52 ≤ E) : (1 : ℚ) ≤ M * 2 ^ E := by
  have hM' : (2 : ℚ) ^ 52 ≤ M := by exact_mod_cast hM
  calc (1 : ℚ) = 2 ^ 52 * 2 ^ (-52 : ℤ) := by norm_num
    _ ≤ M * 2 ^ E := mul_le_mul hM' (zpow_le_zpow_right₀ one_le_two hE) (by positivity)
      (by positivity)

/-- Rounding adds at most one part in two to the 53rd. -/
lemma InInterval.value_le (hv : InInterval M E v) (hM : 2 ^ 52 ≤ M) (hE : -1074 < E) :
    (M : ℚ) * 2 ^ E ≤ v * (1 + 1 / 2 ^ 53) := by
  have hpos := two_zpow_pos E
  have hM' : (2 : ℚ) ^ 52 ≤ M := by exact_mod_cast hM
  by_cases h52 : M = 2 ^ 52
  · have h := hv.narrow h52 hE
    rw [h52] at h ⊢
    push_cast at h ⊢
    nlinarith
  · have hnext : (2 : ℚ) ^ 52 + 1 ≤ M := by exact_mod_cast Nat.lt_of_le_of_ne hM (Ne.symm h52)
    have h := hv.lower
    nlinarith

end Bounds

lemma Canonical.value_lt_overflow {M : ℕ} {E : ℤ} (hc : Canonical M E) (hE : E ≤ 971) :
    (M * 2 ^ E : ℚ) < overflow := by
  have hM : (M : ℚ) + 1 ≤ 2 ^ 53 := by exact_mod_cast hc.lt
  calc (M * 2 ^ E : ℚ) ≤ M * 2 ^ (971 : ℤ) := by
        gcongr
        norm_num
    _ < overflow := mul_lt_mul_of_pos_right (by linarith) (two_zpow_pos _)

lemma two_zpow_lt_one : (2 : ℚ) ^ (-1075 : ℤ) < 1 := by
  rw [← zpow_zero 2]
  exact zpow_lt_zpow_right₀ one_lt_two (by norm_num)

lemma ten_pow_lt_overflow : (10 : ℚ) ^ 308 < overflow := by
  have hnat : 2 * 10 ^ 308 < 18014398509481983 * 2 ^ 971 := by decide +kernel
  have hcast := (Nat.cast_lt (α := ℚ)).2 hnat
  simp only [Nat.cast_mul, Nat.cast_pow, Nat.cast_ofNat] at hcast
  rw [overflow, zpow_ofNat]
  generalize (10 : ℚ) ^ 308 = t at hcast ⊢
  generalize (2 : ℚ) ^ 971 = u at hcast ⊢
  linarith

lemma two_pow_lt_overflow : (2 : ℚ) ^ 64 < overflow := by
  calc (2 : ℚ) ^ 64 < 10 ^ 20 := by norm_num
    _ ≤ 10 ^ 308 := pow_le_pow_right₀ (by norm_num) (by norm_num)
    _ < overflow := ten_pow_lt_overflow

/-- What is at most half of the smallest number is rounded to zero. -/
lemma roundWithAccuracy_eq_zero {m : ℕ} {e : ℤ} {a : Accuracy} {v : ℚ}
    (h : Represents (.ofMantissaAndAccuracy m a) (v / 2 ^ e))
    (he : e ≤ Format.binary64.targetExponent (totalExponent m e)) (hv : v ≤ 2 ^ (-1075 : ℤ))
    (sign : Sign) : roundWithAccuracy Format.binary64 sign m e a = .zero sign := by
  have hbounds := h.bounds
  rw [mantissa_ofMantissaAndAccuracy, le_div_iff₀ (two_zpow_pos e)] at hbounds
  -- so small a number is shifted to the smallest exponent, where it is at most half a unit
  have hT : Format.binary64.targetExponent (totalExponent m e) = -1074 := by
    rw [targetExponent_eq] at he ⊢
    by_cases hm : m = 0
    · simp only [hm, Nat.log2_zero] at he ⊢
      omega
    · have hpow : (2 : ℚ) ^ ((m.log2 : ℤ) + e) ≤ 2 ^ (-1075 : ℤ) := by
        have hlog : (2 : ℚ) ^ m.log2 ≤ m := by exact_mod_cast Nat.log2_self_le hm
        calc (2 : ℚ) ^ ((m.log2 : ℤ) + e) = 2 ^ m.log2 * 2 ^ e := by
              rw [zpow_add₀ two_ne_zero, zpow_natCast]
          _ ≤ m * 2 ^ e := by gcongr
          _ ≤ v := hbounds.1
          _ ≤ 2 ^ (-1075 : ℤ) := hv
      have := (zpow_le_zpow_iff_right₀ one_lt_two).1 hpow
      omega
  obtain ⟨em, hshift, hem⟩ := shift_represents hT (hT ▸ he) h
  have hround : em.roundedMantissa = 0 := by
    have hnonneg : (0 : ℚ) ≤ v / 2 ^ (-1074 : ℤ) := by
      have hm : (0 : ℚ) ≤ m * 2 ^ e := by positivity
      exact div_nonneg (hm.trans hbounds.1) (two_zpow_pos _).le
    have hhalf : v / 2 ^ (-1074 : ℤ) ≤ 1 / 2 := by
      rw [div_le_iff₀ (two_zpow_pos _)]
      calc v ≤ 2 ^ (-1 + -1074 : ℤ) := hv
        _ = 1 / 2 * 2 ^ (-1074 : ℤ) := by rw [zpow_add₀ two_ne_zero, zpow_neg_one, one_div]
    refine hem.roundedMantissa_eq ?_ ?_ fun _ => rfl
    · rw [Nat.cast_zero]
      linarith
    · rw [Nat.cast_zero]
      linarith
  have hagain : shiftToTargetExponent Format.binary64 0 (-1074) .exact =
      (⟨0, false, false⟩, -1074) := rfl
  simp only [roundWithAccuracy, hshift, hround, hagain]
  rfl

/-! ## Numbers in range -/

/-- The positive number in range that has these parts. -/
structure IsPositive (x : Float) (M : ℕ) (E : ℤ) : Prop where
  canonical : Canonical M E
  le : E ≤ 971
  pack : x = .ofModel (.pack (.finite .positive M E canonical.pos))

/-- A number in range that is not negative. -/
def InRange (x : Float) : Prop :=
  x = 0 ∨ ∃ M E, IsPositive x M E

/-- The positive number in range that is nearest to `v`. -/
def Rounds (v : ℚ) (x : Float) : Prop :=
  ∃ M E, IsPositive x M E ∧ InInterval M E v

section InRange

variable {x y : Float} {M : ℕ} {E : ℤ} {v w : ℚ}

lemma IsPositive.unpack (h : IsPositive x M E) :
    x.toModel.unpack = .finite .positive M E h.canonical.pos := by
  have hunpack := unpack_pack h.canonical h.le .positive
  exact (congrArg (fun y : Float => y.toModel.unpack) h.pack).trans hunpack

lemma IsPositive.of_inInterval (hc : Canonical M E) (hv : InInterval M E v) (hlt : v < overflow) :
    IsPositive (.ofModel (.pack (.finite .positive M E hc.pos))) M E :=
  ⟨hc, hv.exponent_le hc hlt, rfl⟩

lemma InRange.isFinite (h : InRange x) : x.isFinite = true := by
  rcases h with rfl | ⟨M, E, h⟩
  · decide
  · have hunpack : x.isFinite = x.toModel.unpack.isFinite := rfl
    rw [hunpack, h.unpack]
    rfl

/-- A quotient by a number that is not below one. -/
lemma InRange.div (hx : InRange x) (hy : Rounds w y) (hw : 1 ≤ w) : InRange (x / y) := by
  obtain ⟨N, F, hy, hinterval⟩ := hy
  have hdiv : x / y =
      .ofModel (.pack (UnpackedFloat.div Format.binary64 x.toModel.unpack y.toModel.unpack)) := rfl
  rcases hx with rfl | ⟨M, E, hx⟩
  · left
    have hzero : (0 : Float).toModel.unpack = .zero .positive := rfl
    rw [hdiv, hy.unpack, hzero]
    rfl
  · rw [hx.unpack, hy.unpack] at hdiv
    have hone : (1 : ℚ) ≤ N * 2 ^ F := by
      obtain ⟨hN, hF⟩ := hinterval.full_of_one_le hy.canonical hw
      exact one_le_of_full hN hF
    have hpos : (0 : ℚ) < M * 2 ^ E := by
      have : (0 : ℚ) < M := by exact_mod_cast hx.canonical.pos
      exact mul_pos this (two_zpow_pos E)
    have hlt : (M * 2 ^ E / (N * 2 ^ F) : ℚ) < overflow :=
      lt_of_le_of_lt (div_le_self hpos.le hone) (hx.canonical.value_lt_overflow hx.le)
    -- the divisor is at least one, so the quotient can only become too small
    rcases le_or_gt (M * 2 ^ E / (N * 2 ^ F) : ℚ) (2 ^ (-1075 : ℤ)) with hsmall | hlarge
    · left
      obtain ⟨m, e, a, hround, hrep, he⟩ := exists_div_eq_roundWithAccuracy
        .positive .positive E F hx.canonical.pos hy.canonical.pos
      rw [hdiv, hround, roundWithAccuracy_eq_zero hrep he hsmall]
      rfl
    · right
      obtain ⟨Q, G, hc, hv⟩ := exists_inInterval hlarge
      refine ⟨Q, G, ?_⟩
      rw [hdiv, div_eq hc hv]
      exact .of_inInterval hc hv hlt

/-- A product that stays in range with both factors rounded up as far as they can be. -/
lemma Rounds.isFinite_mul (hx : Rounds v x) (hy : Rounds w y) (hv : 1 ≤ v) (hw : 1 ≤ w)
    (hlt : v * w * (1 + 1 / 2 ^ 53) ^ 2 < overflow) : (x * y).isFinite = true := by
  obtain ⟨M, E, hx, hxv⟩ := hx
  obtain ⟨N, F, hy, hyw⟩ := hy
  obtain ⟨hM, hE⟩ := hxv.full_of_one_le hx.canonical hv
  obtain ⟨hN, hF⟩ := hyw.full_of_one_le hy.canonical hw
  have hmul : x * y =
      .ofModel (.pack (UnpackedFloat.mul Format.binary64 x.toModel.unpack y.toModel.unpack)) := rfl
  have hvalue : (M * N * 2 ^ (E + F) : ℚ) = M * 2 ^ E * (N * 2 ^ F) := by
    rw [zpow_add₀ two_ne_zero]
    ring
  have hone : (1 : ℚ) ≤ M * N * 2 ^ (E + F) := by
    rw [hvalue]
    exact one_le_mul_of_one_le_of_one_le (one_le_of_full hM hE) (one_le_of_full hN hF)
  -- each factor is rounded up by less than one part in `2 ^ 53`
  have hbelow : (M * N * 2 ^ (E + F) : ℚ) < overflow := by
    refine lt_of_le_of_lt ?_ hlt
    calc (M * N * 2 ^ (E + F) : ℚ) = M * 2 ^ E * (N * 2 ^ F) := hvalue
      _ ≤ v * (1 + 1 / 2 ^ 53) * (w * (1 + 1 / 2 ^ 53)) := by
        refine mul_le_mul (hxv.value_le hM (by omega)) (hyw.value_le hN (by omega))
          (by positivity) (by positivity)
      _ = v * w * (1 + 1 / 2 ^ 53) ^ 2 := by ring
  obtain ⟨P, G, hc, hp⟩ := exists_inInterval (two_zpow_lt_one.trans_le hone)
  have hbits : 2 ^ 52 ≤ M * N := le_trans hM (Nat.le_mul_of_pos_right _ hy.canonical.pos)
  refine InRange.isFinite (.inr ⟨P, G, ?_⟩)
  rw [hmul, hx.unpack, hy.unpack, mul_eq hc hp hbits]
  exact .of_inInterval hc hp hbelow

/-- A whole number of 64 bits, as a floating-point number. -/
lemma rounds_toFloat {m : ℕ} (hpos : 0 < m) (hlt : m < 2 ^ 64) : Rounds m m.toUInt64.toFloat := by
  have hone : (1 : ℚ) ≤ m := by exact_mod_cast hpos
  have hword : (m : ℚ) < 2 ^ 64 := by exact_mod_cast hlt
  obtain ⟨M, E, hc, hv⟩ := exists_inInterval (two_zpow_lt_one.trans_le hone)
  refine ⟨M, E, ?_, hv⟩
  rw [toFloat_eq hpos hlt hc hv]
  exact .of_inInterval hc hv (hword.trans two_pow_lt_overflow)

lemma inRange_toFloat {m : ℕ} (hlt : m < 2 ^ 64) : InRange m.toUInt64.toFloat := by
  rcases Nat.eq_zero_or_pos m with rfl | hpos
  · exact .inl rfl
  · obtain ⟨M, E, h, -⟩ := rounds_toFloat hpos hlt
    exact .inr ⟨M, E, h⟩

/-- A power of ten, as a floating-point number. -/
lemma rounds_powerOfTen {n : ℕ} (hn : n ≤ 308) :
    Rounds (10 ^ n) (Float.ofScientific 1 false n) := by
  have hone : (1 : ℚ) ≤ 10 ^ n := one_le_pow₀ (by norm_num)
  have hlt : (10 : ℚ) ^ n < overflow :=
    lt_of_le_of_lt (pow_le_pow_right₀ (by norm_num) hn) ten_pow_lt_overflow
  obtain ⟨M, E, hc, hv⟩ := exists_inInterval (two_zpow_lt_one.trans_le hone)
  refine ⟨M, E, ?_, hv⟩
  have hvalue : ((1 : ℕ) : ℚ) * 10 ^ (n : ℤ) = 10 ^ n := by
    rw [Nat.cast_one, one_mul, zpow_natCast]
  have hten := ofScientific_eq hc Nat.one_pos false (k := n) rfl (by rwa [hvalue]) (by omega)
    (by omega)
  rw [hten]
  exact .of_inInterval hc hv hlt

end InRange

end Critique.Decimal
