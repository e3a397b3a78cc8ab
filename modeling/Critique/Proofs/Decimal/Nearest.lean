import Critique.Proofs.Decimal.Digits
import Critique.Proofs.Decimal.Parts

/-!
# The nearest number to a decimal

A decimal in the interval of a floating-point number is read as that number (`nearest_eq`).

There are two ways to compute it.  Where the digits and the power of ten are both floating-point
numbers themselves, they are multiplied or divided as such; otherwise both are kept exact.  Either
way one exact product or quotient is rounded once, and `mul_eq` and `div_eq` say to what.
-/

namespace Critique.Decimal

open Float.Model Float.Model.UnpackedFloat

/-- The parts of a positive floating-point number, of which `v` is the exact value. -/
def Exact (x : Float) (v : ℚ) : Prop :=
  ∃ (M : ℕ) (E : ℤ) (h : 0 < M), x.toModel.unpack = .finite .positive M E h ∧ 2 ^ 52 ≤ M ∧
    (M : ℚ) * 2 ^ E = v

section Products

variable {x y : Float} {v w : ℚ} {M : ℕ} {E : ℤ}

lemma Exact.mul (hx : Exact x v) (hy : Exact y w) (hc : Canonical M E)
    (hv : InInterval M E (v * w)) :
    x * y = .ofModel (.pack (.finite .positive M E hc.pos)) := by
  obtain ⟨m₁, e₁, h₁, hx, hle, rfl⟩ := hx
  obtain ⟨m₂, e₂, h₂, hy, -, rfl⟩ := hy
  have hvalue : (m₁ * 2 ^ e₁ * (m₂ * 2 ^ e₂) : ℚ) = m₁ * m₂ * 2 ^ (e₁ + e₂) := by
    rw [zpow_add₀ two_ne_zero]
    ring
  have hmul : x * y =
      .ofModel (.pack (UnpackedFloat.mul Format.binary64 x.toModel.unpack y.toModel.unpack)) := rfl
  rw [hvalue] at hv
  rw [hmul, hx, hy, mul_eq hc hv (le_trans hle (Nat.le_mul_of_pos_right _ h₂))]
  rfl

lemma Exact.div (hx : Exact x v) (hy : Exact y w) (hc : Canonical M E)
    (hv : InInterval M E (v / w)) :
    x / y = .ofModel (.pack (.finite .positive M E hc.pos)) := by
  obtain ⟨m₁, e₁, h₁, hx, -, rfl⟩ := hx
  obtain ⟨m₂, e₂, h₂, hy, -, rfl⟩ := hy
  have hdiv : x / y =
      .ofModel (.pack (UnpackedFloat.div Format.binary64 x.toModel.unpack y.toModel.unpack)) := rfl
  rw [hdiv, hx, hy, div_eq hc hv]
  rfl

end Products

/-! ## Whole numbers and powers of ten -/

lemma InInterval.self {M : ℕ} (E : ℤ) : InInterval M E (M * 2 ^ E) := by
  have hpos := two_zpow_pos E
  refine ⟨?_, ?_, fun _ _ => ?_, fun _ => ⟨?_, ?_⟩⟩ <;> nlinarith

/-- A whole number of 64 bits is rounded once. -/
lemma toFloat_eq {m M : ℕ} {E : ℤ} (hpos : 0 < m) (hlt : m < 2 ^ 64) (hc : Canonical M E)
    (hv : InInterval M E m) :
    m.toUInt64.toFloat = .ofModel (.pack (.finite .positive M E hc.pos)) := by
  have hfloat : m.toUInt64.toFloat =
      .ofModel (.pack (UnpackedFloat.normalize Format.binary64 m 0 .positive)) := by
    have hnat : m.toUInt64.toNat = m := Nat.mod_eq_of_lt hlt
    have hunfold : m.toUInt64.toFloat = .ofModel
      (.pack (UnpackedFloat.normalize Format.binary64 m.toUInt64.toNat 0 .positive)) := rfl
    rw [hunfold, hnat]
  have hvalue : (m : ℚ) = m * 2 ^ (0 : ℤ) := by rw [zpow_zero, mul_one]
  rw [hvalue] at hv
  rw [hfloat, normalize_eq_round hpos, round_eq hpos hc hv]

/-- A whole number of at most 53 binary digits is a floating-point number. -/
lemma exact_toFloat {m : ℕ} (hpos : 0 < m) (hlt : m < 2 ^ 53) : Exact m.toUInt64.toFloat m := by
  have hlog : m.log2 < 53 := (Nat.log2_lt hpos.ne').2 hlt
  -- shifted by `k` places, the number has all 53 binary digits
  obtain ⟨k, hk⟩ : ∃ k, k + m.log2 = 52 := ⟨52 - m.log2, by omega⟩
  have hlower : 2 ^ 52 ≤ m * 2 ^ k := by
    calc 2 ^ 52 = 2 ^ m.log2 * 2 ^ k := by rw [← Nat.pow_add, ← hk, Nat.add_comm]
      _ ≤ m * 2 ^ k := Nat.mul_le_mul_right _ (Nat.log2_self_le hpos.ne')
  have hupper : m * 2 ^ k < 2 ^ 53 := by
    calc m * 2 ^ k < 2 ^ (m.log2 + 1) * 2 ^ k :=
          Nat.mul_lt_mul_of_pos_right Nat.lt_log2_self (by positivity)
      _ = 2 ^ 53 := by
        rw [← Nat.pow_add]
        congr 1
        omega
  have hc : Canonical (m * 2 ^ k) (-k) := ⟨by omega, hupper, by omega, .inl hlower⟩
  have hvalue : ((m * 2 ^ k : ℕ) : ℚ) * 2 ^ (-k : ℤ) = m := by
    rw [zpow_neg, zpow_natCast]
    push_cast
    field_simp
  have hself : InInterval (m * 2 ^ k) (-k) m := by
    have h := InInterval.self (M := m * 2 ^ k) (-k)
    rwa [hvalue] at h
  refine ⟨m * 2 ^ k, -k, hc.pos, ?_, hlower, hvalue⟩
  rw [toFloat_eq hpos (by omega) hc hself]
  exact unpack_pack hc (by omega) .positive

/-- Is this the exact power `10 ^ e`, with all binary digits? -/
def Binary.isPowerOfTen (e : ℕ) : Binary → Bool
  | .finite false M E _ => 2 ^ 52 ≤ M && -52 ≤ E && M * 2 ^ (E + 52).toNat = 10 ^ e * 2 ^ 52
  | _ => false

lemma exact_of_isPowerOfTen {x : Float} {e : ℕ} (h : (Binary.ofFloat x).isPowerOfTen e = true) :
    Exact x (10 ^ e) := by
  cases hx : Binary.ofFloat x with
  | finite negative M E narrow =>
    cases negative with
    | true => simp [hx, Binary.isPowerOfTen] at h
    | false =>
      simp only [hx, Binary.isPowerOfTen, Bool.and_eq_true, decide_eq_true_eq] at h
      obtain ⟨⟨hM, hE⟩, hvalue⟩ := h
      have hp := parts_of_ofFloat (by omega) hx
      refine ⟨M, E, hp.canonical.pos, hp.unpack, hM, ?_⟩
      have hcast : (M : ℚ) * 2 ^ (E + 52).toNat = 10 ^ e * 2 ^ 52 := by exact_mod_cast hvalue
      have hpow : (2 : ℚ) ^ (E + 52).toNat = 2 ^ E * 2 ^ 52 := by
        rw [← zpow_natCast, Int.toNat_of_nonneg (by omega), zpow_add₀ two_ne_zero]
        norm_cast
      rw [hpow, ← mul_assoc] at hcast
      exact mul_right_cancel₀ (by positivity) hcast
  | nan => simp [hx, Binary.isPowerOfTen] at h
  | infinite negative => simp [hx, Binary.isPowerOfTen] at h

lemma exact_powerOfTen (e : Fin Float.exactlyRepresentablePowersOfTen.size) :
    Exact Float.exactlyRepresentablePowersOfTen[e] (10 ^ e.val) := by
  have hall : ∀ e : Fin Float.exactlyRepresentablePowersOfTen.size,
      (Binary.ofFloat Float.exactlyRepresentablePowersOfTen[e]).isPowerOfTen e = true := by
    decide +kernel
  exact exact_of_isPowerOfTen (hall e)

/-! ## Decimals -/

section Nearest

variable {M d : ℕ} {E k : ℤ}

/-- Digits and a power of ten that are kept exact. -/
lemma ofScientific_exact (hc : Canonical M E) (hv : InInterval M E (d * 10 ^ k)) (hd : 0 < d)
    (hupper : k ≤ 2 ^ 11) (hlower : -(2 ^ 11 + (d.log2 : ℤ)) ≤ k) :
    UnpackedFloat.ofScientific Format.binary64 d k = .finite .positive M E hc.pos := by
  have hsmall : ¬ k > 2 ^ Format.binary64.exponentBits := by
    norm_num
    omega
  have hlarge : ¬ k < -(2 ^ Format.binary64.exponentBits + (d.log2 : ℤ)) := by
    norm_num
    omega
  rw [UnpackedFloat.ofScientific, dif_neg hd.ne', if_neg hsmall, if_neg hlarge]
  -- a power of ten is multiplied with or divided by, and both powers are exact
  by_cases hk : 0 ≤ k
  · obtain ⟨n, rfl⟩ := Int.eq_ofNat_of_zero_le hk
    have hvalue : (d * 10 ^ (n : ℤ) : ℚ) = (d <<< 53 : ℕ) * (10 ^ n : ℕ) * 2 ^ (-53 + 0 : ℤ) := by
      rw [Nat.shiftLeft_eq, zpow_natCast, add_zero, zpow_neg]
      push_cast
      field_simp
    rw [hvalue] at hv
    have hbits : 2 ^ 52 ≤ d <<< 53 * 10 ^ n := by
      rw [Nat.shiftLeft_eq]
      calc 2 ^ 52 ≤ 1 * 2 ^ 53 * 1 := by norm_num
        _ ≤ d * 2 ^ 53 * 10 ^ n := by
          gcongr
          · exact hd
          · exact Nat.one_le_pow _ _ (by norm_num)
    rw [if_pos hk]
    simp only [Int.toNat_natCast]
    exact mul_eq hc hv hbits
  · obtain ⟨n, rfl⟩ : ∃ n : ℕ, k = -n := ⟨k.natAbs, by omega⟩
    have hvalue : (d * 10 ^ (-n : ℤ) : ℚ) = d * 2 ^ (0 : ℤ) / ((10 ^ n : ℕ) * 2 ^ (0 : ℤ)) := by
      rw [zpow_neg, zpow_natCast, zpow_zero, mul_one, mul_one, div_eq_mul_inv]
      push_cast
      rfl
    rw [hvalue] at hv
    rw [if_neg hk]
    simp only [neg_neg, Int.toNat_natCast]
    exact div_eq hc hv

lemma ofScientific_eq (hc : Canonical M E) (hd : 0 < d) {n : ℕ} (negative : Bool)
    (hk : k = if negative then -(n : ℤ) else n) (hv : InInterval M E (d * 10 ^ k))
    (hupper : k ≤ 2 ^ 11) (hlower : -(2 ^ 11 + (d.log2 : ℤ)) ≤ k) :
    Float.ofScientific d negative n = .ofModel (.pack (.finite .positive M E hc.pos)) := by
  by_cases hexact : d < 2 ^ 53 ∧ n ≤ 22
  · -- both are floating-point numbers
    have hten := exact_powerOfTen ⟨n, Nat.lt_succ_of_le hexact.2⟩
    have hwhole := exact_toFloat hd hexact.1
    rw [Float.ofScientific, dif_pos hexact]
    cases negative with
    | true =>
      refine hwhole.div hten hc ?_
      rw [hk] at hv
      simpa [zpow_neg, div_eq_mul_inv] using hv
    | false =>
      refine hwhole.mul hten hc ?_
      rw [hk] at hv
      simpa using hv
  · have hexponent : (if negative = true then Int.negOfNat n else Int.ofNat n) = k := by
      rw [hk]
      cases negative with
      | true => simp [Int.negOfNat_eq]
      | false => rfl
    rw [Float.ofScientific, dif_neg hexact]
    simp only [hexponent, Float.Model.ofScientific]
    rw [ofScientific_exact hc hv hd hupper hlower]

/-! ## The range of decimals -/

lemma two_zpow_le_ten_zpow {n : ℤ} (hn : 0 ≤ n) : (2 : ℚ) ^ (3 * n) ≤ 10 ^ n := by
  rw [zpow_mul]
  exact zpow_le_zpow_left₀ hn (by norm_num) (by norm_num)

lemma ten_zpow_le_two_zpow {n : ℤ} (hn : n ≤ 0) : (10 : ℚ) ^ n ≤ 2 ^ (3 * n) := by
  have hle := two_zpow_le_ten_zpow (n := -n) (by omega)
  rw [mul_neg, zpow_neg, zpow_neg] at hle
  exact (inv_le_inv₀ (by positivity) (by positivity)).1 hle

lemma InInterval.bounds {v : ℚ} (hc : Canonical M E) (hE : E ≤ 971) (hv : InInterval M E v) :
    2 ^ (-1075 : ℤ) ≤ v ∧ v < 2 ^ (1024 : ℤ) := by
  have hpos : (1 : ℚ) ≤ M := by exact_mod_cast hc.pos
  have hlt : (M : ℚ) + 1 ≤ 2 ^ 53 := by exact_mod_cast hc.lt
  have hmin := hc.min
  constructor
  · calc (2 : ℚ) ^ (-1075 : ℤ) ≤ 2 ^ (-1 + E) := zpow_le_zpow_right₀ one_le_two (by omega)
      _ = 1 / 2 * 2 ^ E := by rw [zpow_add₀ two_ne_zero, zpow_neg_one, one_div]
      _ ≤ (M - 1 / 2) * 2 ^ E := by
        gcongr
        linarith
      _ ≤ v := hv.lower
  · calc v ≤ (M + 1 / 2) * 2 ^ E := hv.upper
      _ < 2 ^ 53 * 2 ^ E := by
        gcongr
        linarith
      _ = 2 ^ (53 + E) := by
        rw [zpow_add₀ two_ne_zero]
        norm_cast
      _ ≤ 2 ^ (1024 : ℤ) := zpow_le_zpow_right₀ one_le_two (by omega)

/-- The place of the first digit of a decimal that rounds to a number. -/
lemma InInterval.leading_bounds (hc : Canonical M E) (hE : E ≤ 971) (hd : 0 < d)
    (hv : InInterval M E (d * 10 ^ k)) :
    -400 ≤ digitCount d + k ∧ digitCount d + k ≤ 400 := by
  obtain ⟨hlower, hupper⟩ := hv.bounds hc hE
  have hfirst : (10 : ℚ) ^ (digitCount d + k - 1) ≤ d * 10 ^ k := by
    have hle : (10 : ℚ) ^ (digitCount d - 1) ≤ d := by exact_mod_cast ten_pow_digitCount_le hd
    have hcount := digitCount_pos d
    calc (10 : ℚ) ^ (digitCount d + k - 1) = 10 ^ (digitCount d - 1) * 10 ^ k := by
          rw [← zpow_natCast, ← zpow_add₀ (by norm_num)]
          congr 1
          omega
      _ ≤ d * 10 ^ k := by gcongr
  have hnext : (d * 10 ^ k : ℚ) < 10 ^ (digitCount d + k) := by
    have hlt : (d : ℚ) < 10 ^ digitCount d := by exact_mod_cast lt_ten_pow_digitCount d
    calc (d * 10 ^ k : ℚ) < 10 ^ digitCount d * 10 ^ k := by gcongr
      _ = 10 ^ (digitCount d + k) := by rw [zpow_add₀ (by norm_num), zpow_natCast]
  -- a power of ten is compared with the power of two that has three times its exponent
  constructor
  · by_contra hout
    have hle := ten_zpow_le_two_zpow (n := digitCount d + k) (by omega)
    have hpow : (2 : ℚ) ^ (-1075 : ℤ) < 2 ^ (3 * (digitCount d + k)) := by linarith
    have := (zpow_lt_zpow_iff_right₀ one_lt_two).1 hpow
    omega
  · by_contra hout
    have hle := two_zpow_le_ten_zpow (n := digitCount d + k - 1) (by omega)
    have hpow : (2 : ℚ) ^ (3 * (digitCount d + k - 1)) < 2 ^ (1024 : ℤ) := by linarith
    have := (zpow_lt_zpow_iff_right₀ one_lt_two).1 hpow
    omega

lemma InInterval.digits_pos (hc : Canonical M E) (hE : E ≤ 971)
    (hv : InInterval M E (d * 10 ^ k)) : 0 < d := by
  obtain ⟨hlower, -⟩ := hv.bounds hc hE
  rw [Nat.pos_iff_ne_zero]
  rintro rfl
  rw [Nat.cast_zero, zero_mul] at hlower
  exact absurd hlower (not_le.2 (two_zpow_pos _))

lemma digitCount_le_log2 (d : ℕ) : digitCount d ≤ d.log2 + 1 := by
  have hlt : d < 10 ^ (d.log2 + 1) :=
    lt_of_lt_of_le Nat.lt_log2_self (Nat.pow_le_pow_left (by norm_num) _)
  exact (Nat.length_toDigits_le_iff (by norm_num) (Nat.succ_pos _)).2 hlt

/-- **The nearest number.**  A decimal in the interval of a number is read as that number. -/
theorem nearest_eq (hc : Canonical M E) (hE : E ≤ 971) (hv : InInterval M E (d * 10 ^ k)) :
    nearest d k = .ofModel (.pack (.finite .positive M E hc.pos)) := by
  have hd := hv.digits_pos hc hE
  obtain ⟨hlower, hupper⟩ := hv.leading_bounds hc hE hd
  have hcount := digitCount_le_log2 d
  have hfew : ¬ 400 < (digitCount d : ℤ) + k := by omega
  have hmany : ¬ (digitCount d : ℤ) + k < -400 := by omega
  simp only [nearest, if_neg hd.ne', if_neg hfew, if_neg hmany]
  split_ifs with hk
  · have hsize : k = if true then -(k.natAbs : ℤ) else k.natAbs := by
      rw [if_pos rfl]
      omega
    exact ofScientific_eq hc hd true hsize hv (by omega) (by omega)
  · have hsize : k = if false then -(k.natAbs : ℤ) else k.natAbs := by
      rw [if_neg Bool.false_ne_true]
      omega
    exact ofScientific_eq hc hd false hsize hv (by omega) (by omega)

end Nearest

end Critique.Decimal
