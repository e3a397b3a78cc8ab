import Critique.Proofs.Decimal.Range
import Critique.Proofs.Decimal.Sum

/-!
# The order of floating-point numbers

Two values are compared by their sides of zero, then by their exponents and then by their mantissas.
`place` makes one place in a lexicographic order of the three, and `le_iff_place` and `lt_iff_place`
say that comparing values is comparing places, unless one of the two is not a number.  So what holds
of every linear order holds here, and comparisons can be chained.

A sum of numbers that are not negative is rounded, and rounding can lose what was added, but never
gives less than there was before (`float_le_add`): the exact sum is not below the first number, and
nothing is rounded past a number (`place_le_of_inInterval`).
-/

namespace Critique.Decimal

open Float.Model Float.Model.UnpackedFloat

/-! ## Places -/

/-- Where a value stands among all values: its side of zero, beyond all numbers or not, then its
exponent, and then its mantissa. -/
def place : UnpackedFloat → ℤ ×ₗ ℤ ×ₗ ℤ
  | .infinity .negative => toLex (-2, toLex (0, 0))
  | .finite .negative m e _ => toLex (-1, toLex (-e, -m))
  | .notANumber => toLex (0, toLex (0, 0))
  | .zero _ => toLex (0, toLex (0, 0))
  | .finite .positive m e _ => toLex (1, toLex (e, m))
  | .infinity .positive => toLex (2, toLex (0, 0))

lemma compare_toLex {α β : Type} [Ord α] [Ord β] (a b : α) (x y : β) :
    compare (toLex (a, x)) (toLex (b, y)) = (compare a b).then (compare x y) := by
  rw [Prod.Lex.compare_def]
  rfl

lemma place_le_infinity (a : UnpackedFloat) : place a ≤ place (.infinity .positive) := by
  cases a with
  | notANumber => simp [place, Prod.Lex.toLex_le_toLex]
  | infinity s => cases s <;> simp [place, Prod.Lex.toLex_le_toLex]
  | zero s => simp [place, Prod.Lex.toLex_le_toLex]
  | finite s m e h => cases s <;> simp [place, Prod.Lex.toLex_le_toLex]

/-- Two numbers are compared by their places. -/
lemma compare_eq_place {a b : UnpackedFloat} (ha : a ≠ .notANumber) (hb : b ≠ .notANumber) :
    a.compare b = some (compare (place a) (place b)) := by
  have hcast : ∀ m n : ℕ, compare (m : ℤ) n = compare m n := fun m n => by
    simp [compare, compareOfLessAndEq]
  have hneg : ∀ m n : ℤ, compare (-m) (-n) = (compare m n).swap := fun m n => by
    rw [Int.compare_swap]
    simp [compare, compareOfLessAndEq, eq_comm]
  -- numbers of different kinds compare by kind; only two finite ones look at exponent and mantissa
  cases a with
  | notANumber => exact absurd rfl ha
  | infinity s =>
    cases b with
    | notANumber => exact absurd rfl hb
    | infinity t => cases s <;> cases t <;> rfl
    | zero t => cases s <;> rfl
    | finite t n f hn => cases s <;> cases t <;> rfl
  | zero s =>
    cases b with
    | notANumber => exact absurd rfl hb
    | infinity t => cases t <;> rfl
    | zero t => rfl
    | finite t n f hn => cases t <;> rfl
  | finite s m e hm =>
    cases b with
    | notANumber => exact absurd rfl hb
    | infinity t => cases s <;> cases t <;> rfl
    | zero t => cases s <;> rfl
    | finite t n f hn =>
      cases s with
      | negative =>
        cases t with
        | negative =>
          simp [UnpackedFloat.compare, place, compare_toLex, hcast, hneg, Ordering.swap_then]
        | positive => rfl
      | positive =>
        cases t with
        | negative => rfl
        | positive => simp [UnpackedFloat.compare, place, compare_toLex, hcast]

lemma compare_eq_some_iff {a b : UnpackedFloat} {o : Ordering} :
    a.compare b = some o ↔
      a ≠ .notANumber ∧ b ≠ .notANumber ∧ compare (place a) (place b) = o := by
  by_cases ha : a = .notANumber
  · subst ha
    exact ⟨fun h => (Option.some_ne_none o h.symm).elim, fun h => absurd rfl h.1⟩
  by_cases hb : b = .notANumber
  · subst hb
    have hnone : a.compare .notANumber = none := by cases a <;> rfl
    rw [hnone]
    exact ⟨fun h => (Option.some_ne_none o h.symm).elim, fun h => absurd rfl h.2.1⟩
  rw [compare_eq_place ha hb, Option.some_inj]
  exact ⟨fun h => ⟨ha, hb, h⟩, fun h => h.2.2⟩

/-! ## Comparing floating-point numbers -/

/-- The value is a number, or beyond all numbers. -/
def IsNumber (x : Float) : Prop :=
  x.toModel.unpack ≠ .notANumber

section Compare

variable {x y z : Float}

lemma le_iff_place :
    x ≤ y ↔ IsNumber x ∧ IsNumber y ∧ place x.toModel.unpack ≤ place y.toModel.unpack := by
  have hle : x ≤ y ↔ UnpackedFloat.le x.toModel.unpack y.toModel.unpack = true :=
    ⟨unpack_le_of_le, fun h => decide_eq_true (p := x.toModel ≤ y.toModel) h⟩
  rw [hle, UnpackedFloat.le, Option.any_eq_true]
  constructor
  · rintro ⟨o, ho, hisLE⟩
    obtain ⟨hx, hy, rfl⟩ := compare_eq_some_iff.1 ho
    exact ⟨hx, hy, compare_le_iff_le.1 (Ordering.isLE_iff_ne_gt.1 hisLE)⟩
  · rintro ⟨hx, hy, hplace⟩
    exact ⟨_, compare_eq_place hx hy, Ordering.isLE_iff_ne_gt.2 (compare_le_iff_le.2 hplace)⟩

lemma lt_iff_place :
    x < y ↔ IsNumber x ∧ IsNumber y ∧ place x.toModel.unpack < place y.toModel.unpack := by
  have hlt : x < y ↔ UnpackedFloat.lt x.toModel.unpack y.toModel.unpack = true :=
    ⟨fun h => of_decide_eq_true (p := x.toModel < y.toModel) h,
      fun h => decide_eq_true (p := x.toModel < y.toModel) h⟩
  rw [hlt, UnpackedFloat.lt, beq_iff_eq, compare_eq_some_iff, compare_lt_iff_lt]
  rfl

lemma float_le_trans (hxy : x ≤ y) (hyz : y ≤ z) : x ≤ z := by
  obtain ⟨hx, -, hplace⟩ := le_iff_place.1 hxy
  obtain ⟨-, hz, hplace'⟩ := le_iff_place.1 hyz
  exact le_iff_place.2 ⟨hx, hz, hplace.trans hplace'⟩

lemma float_lt_of_le_of_lt (hxy : x ≤ y) (hyz : y < z) : x < z := by
  obtain ⟨hx, -, hplace⟩ := le_iff_place.1 hxy
  obtain ⟨-, hz, hplace'⟩ := lt_iff_place.1 hyz
  exact lt_iff_place.2 ⟨hx, hz, hplace.trans_lt hplace'⟩

lemma float_le_refl (hx : IsNumber x) : x ≤ x :=
  le_iff_place.2 ⟨hx, hx, le_rfl⟩

lemma isNumber_of_nonneg (h : 0 ≤ x) : IsNumber x :=
  (le_iff_place.1 h).2.1

/-- Packing gives the number back that was unpacked. -/
lemma ofModel_pack_unpack (x : Float) : .ofModel (.pack x.toModel.unpack) = x :=
  Float.ofBits_toBits x

lemma eq_of_unpack_eq (h : x.toModel.unpack = y.toModel.unpack) : x = y := by
  rw [← ofModel_pack_unpack x, h, ofModel_pack_unpack]

/-- No other number stands in the place of a positive one. -/
lemma eq_of_place_eq {a : UnpackedFloat} {m : ℕ} {e : ℤ} {h : 0 < m}
    (ha : place a = place (.finite .positive m e h)) : a = .finite .positive m e h := by
  cases a with
  | notANumber => simp [place] at ha
  | infinity s => cases s <;> simp [place] at ha
  | zero s => simp [place] at ha
  | finite s n f hn =>
    cases s with
    | negative => simp [place] at ha
    | positive =>
      obtain ⟨rfl, rfl⟩ : f = e ∧ n = m := by simpa [place] using ha
      rfl

lemma eq_one_of_le_of_le (hle : x ≤ 1) (hge : 1 ≤ x) : x = 1 := by
  have hone : (1 : Float).toModel.unpack = .finite .positive (2 ^ 52) (-52) (by norm_num) := rfl
  have hplace := le_antisymm (le_iff_place.1 hle).2.2 (le_iff_place.1 hge).2.2
  rw [hone] at hplace
  exact eq_of_unpack_eq ((eq_of_place_eq hplace).trans hone.symm)

end Compare

/-! ## Numbers that are not negative -/

section Nonneg

variable {x w : Float}

lemma isPositive_of_unpack {m : ℕ} {e : ℤ} {h : 0 < m}
    (hx : x.toModel.unpack = .finite .positive m e h) : IsPositive x m e := by
  have hfinite : x.isFinite = true := by
    have hunpack : x.isFinite = x.toModel.unpack.isFinite := rfl
    rw [hunpack, hx]
    rfl
  obtain ⟨negative, M, E, narrow, hparts⟩ := exists_ofFloat_of_isFinite hfinite
  by_cases hM : M = 0
  · subst hM
    rw [eq_zero_of_ofFloat hparts] at hx
    cases negative with
    | true => cases hx
    | false => cases hx
  · have hp := parts_of_ofFloat hM hparts
    obtain ⟨-, rfl, rfl⟩ := finite.inj (hp.unpack.symm.trans hx)
    exact ⟨hp.canonical, hp.le, by rw [← hx, ofModel_pack_unpack]⟩

/-- What is not below zero is zero, positive or beyond all numbers. -/
lemma unpack_of_nonneg (hx : 0 ≤ x) :
    (∃ s, x.toModel.unpack = .zero s) ∨ (∃ M E, IsPositive x M E) ∨
      x.toModel.unpack = .infinity .positive := by
  obtain ⟨-, hnumber, hplace⟩ := le_iff_place.1 hx
  have hzero : place (0 : Float).toModel.unpack = toLex (0, toLex (0, 0)) := rfl
  rw [hzero] at hplace
  cases hunpack : x.toModel.unpack with
  | notANumber => exact absurd hunpack hnumber
  | infinity s =>
    cases s with
    | positive => exact .inr (.inr rfl)
    | negative =>
      rw [hunpack] at hplace
      simp [place, Prod.Lex.toLex_le_toLex] at hplace
  | zero s => exact .inl ⟨s, rfl⟩
  | finite s m e h =>
    cases s with
    | positive => exact .inr (.inl ⟨m, e, isPositive_of_unpack hunpack⟩)
    | negative =>
      rw [hunpack] at hplace
      simp [place, Prod.Lex.toLex_le_toLex] at hplace

/-! ## Sums -/

/-- An exact value that is not below a number is not rounded to anything below that number. -/
lemma place_le_of_inInterval {m M : ℕ} {e E : ℤ} {v : ℚ} (hm : Canonical m e) (hM : Canonical M E)
    (hle : (m : ℚ) * 2 ^ e ≤ v) (hv : InInterval M E v) :
    place (.finite .positive m e hm.pos) ≤ place (.finite .positive M E hM.pos) := by
  have hlt : v < 2 ^ 53 * 2 ^ E := by
    have hcast : (M : ℚ) + 1 ≤ 2 ^ 53 := by exact_mod_cast hM.lt
    calc v ≤ (M + 1 / 2) * 2 ^ E := hv.upper
      _ < 2 ^ 53 * 2 ^ E := by
        gcongr
        linarith
  -- a greater exponent means at least `2 ^ 53` units of the smaller one, which `v` does not reach
  have hexponent : e ≤ E := by
    by_contra hgt
    have hmin := hM.min
    have hfull : (2 : ℚ) ^ 52 ≤ m := by exact_mod_cast hm.full.resolve_right (by omega)
    have hpow : (2 : ℚ) * 2 ^ E ≤ 2 ^ e := by
      rw [← zpow_one_add₀ two_ne_zero]
      exact zpow_le_zpow_right₀ one_le_two (by omega)
    have hge : (2 : ℚ) ^ 53 * 2 ^ E ≤ v := by
      calc (2 : ℚ) ^ 53 * 2 ^ E = 2 ^ 52 * (2 * 2 ^ E) := by ring
        _ ≤ (m : ℚ) * 2 ^ e := by gcongr
        _ ≤ v := hle
    exact absurd hlt (not_lt.2 hge)
  simp only [place, Prod.Lex.toLex_le_toLex, lt_irrefl, true_and, false_or]
  rcases hexponent.lt_or_eq with hlt | rfl
  · exact .inl hlt
  · have hhalf : (m : ℚ) < (M + 1 : ℕ) := by
      have := le_of_mul_le_mul_right (hle.trans hv.upper) (two_zpow_pos e)
      push_cast
      linarith
    have hmantissa : m ≤ M := Nat.lt_succ_iff.1 (by exact_mod_cast hhalf)
    exact .inr ⟨rfl, by exact_mod_cast hmantissa⟩

/-- A number whose exponent is too great is packed to infinity. -/
lemma unpack_pack_of_lt {M : ℕ} {E : ℤ} (hM : 0 < M) (hE : 971 < E) :
    (Float.Model.pack (.finite .positive M E hM)).unpack = .infinity .positive := by
  have hpack : Float.Model.pack (.finite .positive M E hM) = .pack (.infinity .positive) := by
    have htop : 2 ^ Format.binary64.exponentBits ≤ (E + Format.binary64.exponentBias +
        Format.binary64.mantissaBitsWithoutImplicit).toNat + 1 := by
      simp only [Format.exponentBias]
      norm_num
      omega
    simp only [Float.Model.pack, UnpackedFloat.pack, if_pos htop]
  rw [hpack]
  rfl

lemma float_add_eq (x w : Float) : x + w = .ofModel (.pack
    (UnpackedFloat.add Format.binary64 x.toModel.unpack w.toModel.unpack)) :=
  rfl

lemma add_eq_left
    (h : UnpackedFloat.add Format.binary64 x.toModel.unpack w.toModel.unpack = x.toModel.unpack) :
    x + w = x := by
  rw [float_add_eq, h, ofModel_pack_unpack]

lemma add_eq_right
    (h : UnpackedFloat.add Format.binary64 x.toModel.unpack w.toModel.unpack = w.toModel.unpack) :
    x + w = w := by
  rw [float_add_eq, h, ofModel_pack_unpack]

lemma IsPositive.le_add {M N : ℕ} {E F : ℤ} (hx : IsPositive x M E) (hw : IsPositive w N F) :
    x ≤ x + w := by
  have hpos : (0 : ℚ) < N * 2 ^ F := by
    have : (0 : ℚ) < N := by exact_mod_cast hw.canonical.pos
    exact mul_pos this (two_zpow_pos F)
  have hlower : (2 : ℚ) ^ (-1075 : ℤ) ≤ M * 2 ^ E :=
    ((InInterval.self E).bounds hx.canonical hx.le).1
  obtain ⟨Q, G, hc, hv⟩ := exists_inInterval (v := M * 2 ^ E + N * 2 ^ F) (by linarith)
  have hadd : (x + w).toModel.unpack =
      (Float.Model.pack (.finite .positive Q G hc.pos)).unpack := by
    rw [float_add_eq, hx.unpack, hw.unpack, add_eq hc hv]
  -- the sum can be too large for a number, and infinity is above all
  rcases le_or_gt G 971 with hG | hG
  · rw [unpack_pack hc hG] at hadd
    rw [le_iff_place, IsNumber, IsNumber, hx.unpack, hadd]
    exact ⟨nofun, nofun, place_le_of_inInterval hx.canonical hc (by linarith) hv⟩
  · rw [unpack_pack_of_lt hc.pos hG] at hadd
    rw [le_iff_place, IsNumber, IsNumber, hx.unpack, hadd]
    exact ⟨nofun, nofun, place_le_infinity _⟩

/-- **A sum is not below its first number**, when the other one is not negative. -/
theorem float_le_add (hx : 0 ≤ x) (hw : 0 ≤ w) : x ≤ x + w := by
  have hself : x ≤ x := float_le_refl (isNumber_of_nonneg hx)
  -- Only two positive numbers are really added; any other sum is one of its two numbers.
  rcases unpack_of_nonneg hx with ⟨s, hzero⟩ | ⟨M, E, hpositive⟩ | hinfinite
  · have hx0 : x ≤ 0 := by
      rw [le_iff_place, IsNumber, hzero]
      exact ⟨nofun, nofun, le_rfl⟩
    refine float_le_trans hx0 ?_
    rcases unpack_of_nonneg hw with ⟨t, hzero'⟩ | ⟨N, F, hpositive'⟩ | hinfinite'
    · cases s with
      | positive => rwa [add_eq_left (by rw [hzero, hzero']; cases t <;> rfl)]
      | negative => rwa [add_eq_right (by rw [hzero, hzero']; cases t <;> rfl)]
    · rwa [add_eq_right (by rw [hzero, hpositive'.unpack]; rfl)]
    · rwa [add_eq_right (by rw [hzero, hinfinite']; rfl)]
  · rcases unpack_of_nonneg hw with ⟨t, hzero'⟩ | ⟨N, F, hpositive'⟩ | hinfinite'
    · rwa [add_eq_left (by rw [hpositive.unpack, hzero']; rfl)]
    · exact hpositive.le_add hpositive'
    · rw [add_eq_right (by rw [hpositive.unpack, hinfinite']; rfl), le_iff_place, IsNumber,
        IsNumber, hpositive.unpack, hinfinite']
      exact ⟨nofun, nofun, place_le_infinity _⟩
  · rcases unpack_of_nonneg hw with ⟨t, hzero'⟩ | ⟨N, F, hpositive'⟩ | hinfinite'
    · rwa [add_eq_left (by rw [hinfinite, hzero']; rfl)]
    · rwa [add_eq_left (by rw [hinfinite, hpositive'.unpack]; rfl)]
    · rwa [add_eq_left (by rw [hinfinite, hinfinite']; rfl)]

lemma float_zero_add (hw : 0 < w) : 0 + w = w := by
  obtain ⟨hzero, hnumber, hplace⟩ := lt_iff_place.1 hw
  have hnonneg : 0 ≤ w := le_iff_place.2 ⟨hzero, hnumber, hplace.le⟩
  rcases unpack_of_nonneg hnonneg with ⟨s, hw0⟩ | ⟨N, F, hpositive⟩ | hinfinite
  · rw [hw0] at hplace
    exact absurd hplace (lt_irrefl _)
  · exact add_eq_right (by rw [hpositive.unpack]; rfl)
  · exact add_eq_right (by rw [hinfinite]; rfl)

end Nonneg

end Critique.Decimal
