import Critique.Proofs.Decimal.Parts

/-!
# Sums of numbers that are not negative

A sum of finite numbers that are not negative can lie beyond all numbers, but only above them.
So its minimum with one is finite (`isFinite_min_one`).
-/

namespace Critique.Decimal

open Float.Model Float.Model.UnpackedFloat

/-! ## Signs -/

/-- Values that do not lie below zero.  What is no number does not, and neither does a zero with a
minus. -/
def Unnegative : UnpackedFloat → Prop
  | .notANumber => True
  | .zero _ => True
  | .infinity s => s = .positive
  | .finite s _ _ _ => s = .positive

lemma unnegative_roundWithAccuracy (m : ℕ) (e : ℤ) (a : Accuracy) :
    Unnegative (roundWithAccuracy Format.binary64 .positive m e a) := by
  unfold roundWithAccuracy
  dsimp only
  split_ifs
  · trivial
  · rfl

lemma unnegative_normalize {m : ℤ} (hm : 0 ≤ m) (e : ℤ) :
    Unnegative (UnpackedFloat.normalize Format.binary64 m e .positive) := by
  unfold UnpackedFloat.normalize
  split
  · rename_i hlt
    rw [Int.compare_eq_lt] at hlt
    omega
  · trivial
  · exact unnegative_roundWithAccuracy _ _ _

lemma unnegative_add {a b : UnpackedFloat} (ha : Unnegative a) (hb : Unnegative b) :
    Unnegative (UnpackedFloat.add Format.binary64 a b) := by
  cases a with
  | notANumber => trivial
  | infinity s =>
    obtain rfl : s = .positive := ha
    cases b with
    | notANumber => trivial
    | infinity t =>
      obtain rfl : t = .positive := hb
      rfl
    | zero t => rfl
    | finite t n f hn => rfl
  | zero s =>
    cases b with
    | notANumber => trivial
    | infinity t => exact hb
    | zero t =>
      show Unnegative (if (s == t) = true then .zero s else .zero .positive)
      split_ifs
      · trivial
      · trivial
    | finite t n f hn => exact hb
  | finite s m e hm =>
    obtain rfl : s = .positive := ha
    cases b with
    | notANumber => trivial
    | infinity t => exact hb
    | zero t => rfl
    | finite t n f hn =>
      obtain rfl : t = .positive := hb
      exact unnegative_normalize (Int.add_nonneg (Int.natCast_nonneg _) (Int.natCast_nonneg _)) _

/-- Packing keeps the sign, also where a number is too large and becomes infinite. -/
lemma unnegative_unpack_pack {u : UnpackedFloat} (h : Unnegative u) :
    Unnegative (Float.Model.pack u).unpack := by
  -- whatever exponent and fraction are packed, the sign decides
  have hparts : ∀ (e : BitVec 11) (f : BitVec 52),
      Unnegative (UnpackedFloat.unpack Format.binary64
        (packComponents Format.binary64 .positive e f)) := by
    intro e f
    simp only [UnpackedFloat.unpack, unpackExponent_packComponents, unpackMantissa_packComponents,
      unpackSign_packComponents, Sign.ofBitVec_toBitVec]
    split_ifs
    · rfl
    · trivial
    · trivial
    · rfl
    · rfl
  have hunpack : (Float.Model.pack u).unpack =
      UnpackedFloat.unpack Format.binary64 (UnpackedFloat.pack Format.binary64 u) := rfl
  rw [hunpack]
  cases u with
  | notANumber => exact hparts _ _
  | infinity s =>
    obtain rfl : s = .positive := h
    exact hparts _ _
  | zero s =>
    cases s with
    | positive => exact hparts _ _
    | negative => trivial
  | finite s m e hm =>
    obtain rfl : s = .positive := h
    unfold UnpackedFloat.pack
    dsimp only
    split_ifs
    · exact hparts _ _
    · exact hparts _ _
    · exact hparts _ _

/-! ## Floating-point numbers -/

/-- A sum of numbers of which none is negative. -/
lemma unnegative_foldl_add {x : Float} {ws : List Float} (hx : Unnegative x.toModel.unpack)
    (hws : ∀ w ∈ ws, Unnegative w.toModel.unpack) :
    Unnegative (ws.foldl (· + ·) x).toModel.unpack := by
  induction ws generalizing x with
  | nil => exact hx
  | cons w ws ih =>
    refine ih ?_ fun v hv => hws v (List.mem_cons_of_mem w hv)
    have hadd : (x + w).toModel.unpack = (Float.Model.pack
        (UnpackedFloat.add Format.binary64 x.toModel.unpack w.toModel.unpack)).unpack := rfl
    rw [hadd]
    exact unnegative_unpack_pack (unnegative_add hx (hws w List.mem_cons_self))

lemma unpack_le_of_le {x y : Float} (h : x ≤ y) :
    UnpackedFloat.le x.toModel.unpack y.toModel.unpack = true := by
  have hle : x.toModel ≤ y.toModel := of_decide_eq_true h
  exact hle

lemma unnegative_of_nonneg {x : Float} (hfinite : x.isFinite = true) (hx : 0 ≤ x) :
    Unnegative x.toModel.unpack := by
  have hle : UnpackedFloat.le (.zero .positive) x.toModel.unpack = true := unpack_le_of_le hx
  have hfin : x.toModel.unpack.isFinite = true := hfinite
  cases hunpack : x.toModel.unpack with
  | notANumber => trivial
  | infinity s =>
    rw [hunpack] at hfin
    cases hfin
  | zero s => trivial
  | finite s m e hm =>
    rw [hunpack] at hle
    cases s with
    | positive => rfl
    | negative => cases hle

/-- **The minimum with one is finite**, unless the other number is below all numbers. -/
theorem isFinite_min_one {x : Float} (hx : Unnegative x.toModel.unpack) :
    (min x 1).isFinite = true := by
  have hmin : min x 1 = if x ≤ 1 then x else 1 := rfl
  rw [hmin]
  split_ifs with hle
  · have hbelow := unpack_le_of_le hle
    have hone : (1 : Float).toModel.unpack = .finite .positive (2 ^ 52) (-52) (by norm_num) := rfl
    have hfinite : x.isFinite = x.toModel.unpack.isFinite := rfl
    rw [hone] at hbelow
    rw [hfinite]
    cases hunpack : x.toModel.unpack with
    | notANumber =>
      rw [hunpack] at hbelow
      cases hbelow
    | infinity s =>
      rw [hunpack] at hbelow hx
      obtain rfl : s = .positive := hx
      cases hbelow
    | zero s => rfl
    | finite s m e hm => rfl
  · decide

end Critique.Decimal
