import Critique.Decimal.Binary
import Critique.Proofs.Decimal.Arithmetic

/-!
# The parts of a floating-point number, put together

`Binary.ofFloat` takes a floating-point number apart, and packing puts it together again: the parts
of a number that is neither zero nor beyond all numbers are canonical, and the number is what they
are packed to (`parts_of_ofFloat`).  Canonical parts are found again in what they are packed to
(`unpack_pack`).
-/

namespace Critique.Decimal

open Float.Model Float.Model.UnpackedFloat

/-- The sign of a number that is negative or not. -/
def signOf (negative : Bool) : Sign :=
  if negative then .negative else .positive

/-! ## Bits -/

lemma eq_of_toNat_toBits {x y : Float} (h : x.toBits.toNat = y.toBits.toNat) : x = y :=
  Float.toBits_inj.1 (UInt64.toNat_inj.1 h)

lemma toNat_packComponents (negative : Bool) (e : BitVec 11) (f : BitVec 52) :
    (packComponents Format.binary64 (signOf negative) e f).toNat =
      (if negative then 2 ^ 63 else 0) + e.toNat * 2 ^ 52 + f.toNat := by
  unfold packComponents
  rw [BitVec.toNat_append, ← Nat.shiftLeft_add_eq_or_of_lt f.isLt, BitVec.toNat_append,
    ← Nat.shiftLeft_add_eq_or_of_lt e.isLt, Nat.shiftLeft_eq, Nat.shiftLeft_eq]
  cases negative with
  | true =>
    simp [signOf, Sign.toBitVec]
    omega
  | false => simp [signOf, Sign.toBitVec]

lemma toNat_unpackExponent (b : BitVec Format.binary64.numBits) :
    (unpackExponent b).toNat = b.toNat / 2 ^ 52 % 2 ^ 11 := by
  simp [unpackExponent, Nat.shiftRight_eq_div_pow]

lemma toNat_unpackMantissa (b : BitVec Format.binary64.numBits) :
    (unpackMantissa b).toNat = b.toNat % 2 ^ 52 := by
  simp [unpackMantissa]

/-! ## Packing -/

section Pack

variable {M : ℕ} {E : ℤ}

/-- The exponent that is written for a canonical number: zero for those with fewer binary digits. -/
def biased (M : ℕ) (E : ℤ) : ℕ :=
  if 2 ^ 52 ≤ M then (E + 1075).toNat else 0

lemma pack_eq (hc : Canonical M E) (hE : E ≤ 971) (s : Sign) :
    UnpackedFloat.pack Format.binary64 (.finite s M E hc.pos) =
      packComponents Format.binary64 s (BitVec.ofNat 11 (biased M E)) (BitVec.ofNat 52 M) := by
  have hmin := hc.min
  have hupper : M.log2 < 53 := (Nat.log2_lt hc.pos.ne').2 hc.lt
  have hbias : (E + Format.binary64.exponentBias +
      Format.binary64.mantissaBitsWithoutImplicit).toNat = (E + 1075).toNat := by
    simp only [Format.exponentBias]
    norm_num
    omega
  have hfits : ¬ 2 ^ Format.binary64.exponentBits ≤ (E + 1075).toNat + 1 := by
    norm_num
    omega
  simp only [UnpackedFloat.pack, hbias, if_neg hfits, biased]
  -- the exponent is written as zero exactly for the numbers without the leading binary digit
  by_cases hfull : 2 ^ 52 ≤ M
  · have hlower : 52 ≤ M.log2 := (Nat.le_log2 hc.pos.ne').2 hfull
    have hlog : M.log2 + 1 = Format.binary64.mantissaBits := by
      simp only [Format.mantissaBits]
      omega
    rw [if_pos hlog, if_pos hfull]
  · have hlower : M.log2 < 52 := (Nat.log2_lt hc.pos.ne').2 (by omega)
    have hlog : ¬ M.log2 + 1 = Format.binary64.mantissaBits := by
      simp only [Format.mantissaBits]
      omega
    rw [if_neg hlog, if_neg hfull]

lemma biased_lt (hc : Canonical M E) (hE : E ≤ 971) : biased M E < 2047 := by
  have hmin := hc.min
  unfold biased
  split_ifs
  · omega
  · omega

/-- Canonical parts are found again in the packed number. -/
lemma unpack_pack (hc : Canonical M E) (hE : E ≤ 971) (s : Sign) :
    (Float.Model.pack (.finite s M E hc.pos)).unpack = .finite s M E hc.pos := by
  have hlt := biased_lt hc hE
  have hmin := hc.min
  have hM := hc.lt
  have hbits : (BitVec.ofNat 11 (biased M E)).toNat = biased M E := by
    rw [BitVec.toNat_ofNat, Nat.mod_eq_of_lt (by omega)]
  have hfinite : BitVec.ofNat 11 (biased M E) ≠ -1#11 := by
    intro h
    have hnat := congrArg BitVec.toNat h
    rw [hbits] at hnat
    simp at hnat
    omega
  unfold Float.Model.unpack Float.Model.pack
  simp only [pack_eq hc hE, UnpackedFloat.unpack, unpackExponent_packComponents,
    unpackMantissa_packComponents, unpackSign_packComponents, Sign.ofBitVec_toBitVec]
  have hbias : (Format.binary64.exponentBias : ℤ) = 1023 := by simp [Format.exponentBias]
  rw [if_neg hfinite]
  -- reading puts the leading digit back where the exponent is not zero
  by_cases hfull : 2 ^ 52 ≤ M
  · have hexponent : biased M E = (E + 1075).toNat := if_pos hfull
    have hne : BitVec.ofNat 11 (biased M E) ≠ 0#11 := by
      intro h
      have hnat := congrArg BitVec.toNat h
      rw [hbits] at hnat
      simp at hnat
      omega
    have hmantissa : (1#1 ++ BitVec.ofNat 52 M).toNat = M := by
      rw [BitVec.toNat_append, ← Nat.shiftLeft_add_eq_or_of_lt (BitVec.isLt _), BitVec.toNat_ofNat,
        Nat.shiftLeft_eq]
      simp
      omega
    rw [if_neg hne, finite.injEq]
    refine ⟨rfl, hmantissa, ?_⟩
    rw [hbits, hbias, hexponent]
    push_cast
    omega
  · obtain rfl : E = -1074 := hc.full.resolve_left hfull
    have hexponent : biased M (-1074) = 0 := if_neg hfull
    have hmantissa : (BitVec.ofNat 52 M).toNat = M := by
      rw [BitVec.toNat_ofNat, Nat.mod_eq_of_lt (by omega)]
    have hne : BitVec.ofNat 52 M ≠ 0#52 := by
      intro h
      have hnat := congrArg BitVec.toNat h
      rw [hmantissa] at hnat
      exact hc.pos.ne' hnat
    have hzero : BitVec.ofNat 11 (biased M (-1074)) = 0#11 := by rw [hexponent]
    rw [if_pos hzero, dif_neg hne, finite.injEq]
    refine ⟨rfl, hmantissa, ?_⟩
    rw [hbits, hexponent, hbias]
    norm_num

lemma neg_pack (hc : Canonical M E) (hE : E ≤ 971) :
    -(Float.ofModel (.pack (.finite .positive M E hc.pos))) =
      .ofModel (.pack (.finite .negative M E hc.pos)) := by
  have hneg : -(Float.ofModel (.pack (.finite .positive M E hc.pos))) =
      .ofModel (.pack (Float.Model.pack (.finite .positive M E hc.pos)).unpack.neg) := rfl
  rw [hneg, unpack_pack hc hE]
  rfl

end Pack

/-! ## Parts of a number -/

/-- What the parts of a number are when it is neither zero nor beyond all numbers. -/
structure Parts (x : Float) (negative : Bool) (M : ℕ) (E : ℤ) (narrow : Bool) : Prop where
  canonical : Canonical M E
  le : E ≤ 971
  narrow_iff : narrow = true ↔ M = 2 ^ 52 ∧ -1074 < E
  pack : x = .ofModel (.pack (.finite (signOf negative) M E canonical.pos))

lemma Parts.unpack {x : Float} {negative narrow : Bool} {M : ℕ} {E : ℤ}
    (h : Parts x negative M E narrow) :
    x.toModel.unpack = .finite (signOf negative) M E h.canonical.pos := by
  have hunpack := unpack_pack h.canonical h.le (signOf negative)
  exact (congrArg (fun y : Float => y.toModel.unpack) h.pack).trans hunpack

lemma toNat_toBits_pack {M : ℕ} {E : ℤ} (hc : Canonical M E) (hE : E ≤ 971) (negative : Bool) :
    (Float.ofModel (.pack (.finite (signOf negative) M E hc.pos))).toBits.toNat =
      (if negative then 2 ^ 63 else 0) + biased M E * 2 ^ 52 + M % 2 ^ 52 := by
  have hlt := biased_lt hc hE
  have hbits : (Float.ofModel (.pack (.finite (signOf negative) M E hc.pos))).toBits.toNat =
      (UnpackedFloat.pack Format.binary64 (.finite (signOf negative) M E hc.pos)).toNat := rfl
  rw [hbits, pack_eq hc hE, toNat_packComponents, BitVec.toNat_ofNat, BitVec.toNat_ofNat,
    Nat.mod_eq_of_lt (by omega)]

/-- The bits of a number are its sign, its exponent and its fraction. -/
lemma eq_sign_add_exponent_add_fraction {n : ℕ} (h : n < 2 ^ 64) :
    n = (if decide (2 ^ 63 ≤ n) then 2 ^ 63 else 0) + n / 2 ^ 52 % 2 ^ 11 * 2 ^ 52 +
      n % 2 ^ 52 := by
  by_cases hsign : 2 ^ 63 ≤ n
  · simp only [hsign, decide_true, if_true]
    omega
  · simp only [hsign, decide_false, Bool.false_eq_true, if_false]
    omega

lemma parts_of_ofFloat {x : Float} {negative narrow : Bool} {M : ℕ} {E : ℤ} (hM : M ≠ 0)
    (h : Binary.ofFloat x = .finite negative M E narrow) : Parts x negative M E narrow := by
  obtain ⟨n, hn⟩ : ∃ n, n = x.toBits.toNat := ⟨_, rfl⟩
  have hlt : n < 2 ^ 64 := hn ▸ x.toBits.toNat_lt
  simp only [Binary.ofFloat, ← hn, Nat.pow_eq] at h
  -- the two kinds of finite numbers: without the leading binary digit, and with it
  split_ifs at h with htop hnan hzero
  · simp only [Binary.finite.injEq] at h
    obtain ⟨rfl, rfl, rfl, rfl⟩ := h
    have hc : Canonical (n % 2 ^ 52) (-1074) := ⟨by omega, by omega, le_rfl, .inr rfl⟩
    refine ⟨hc, by omega, by simp, eq_of_toNat_toBits ?_⟩
    have hbiased : biased (n % 2 ^ 52) (-1074) = 0 := if_neg (by omega)
    rw [toNat_toBits_pack hc (by omega), hbiased, ← hn, Nat.mod_mod]
    nth_rewrite 1 [eq_sign_add_exponent_add_fraction hlt]
    rw [hzero]
  · simp only [Binary.finite.injEq] at h
    obtain ⟨rfl, rfl, rfl, rfl⟩ := h
    have hc : Canonical (n % 2 ^ 52 + 2 ^ 52) ((n / 2 ^ 52 % 2 ^ 11 : ℕ) - 1075) :=
      ⟨by omega, by omega, by omega, .inl (by omega)⟩
    refine ⟨hc, by omega, ?_, eq_of_toNat_toBits ?_⟩
    · simp only [Bool.and_eq_true, decide_eq_true_eq]
      omega
    · have hbiased : biased (n % 2 ^ 52 + 2 ^ 52) ((n / 2 ^ 52 % 2 ^ 11 : ℕ) - 1075) =
          n / 2 ^ 52 % 2 ^ 11 := by
        rw [biased, if_pos (by omega)]
        omega
      rw [toNat_toBits_pack hc (by omega), hbiased, ← hn, Nat.add_mod_right, Nat.mod_mod]
      nth_rewrite 1 [eq_sign_add_exponent_add_fraction hlt]
      rfl

section Float

variable {x : Float} {negative narrow : Bool} {M : ℕ} {E : ℤ}

lemma eq_zero_of_ofFloat (hx : Binary.ofFloat x = .finite negative 0 E narrow) :
    x = if negative then -0 else 0 := by
  have hbits := eq_sign_add_exponent_add_fraction x.toBits.toNat_lt
  simp only [Binary.ofFloat, Nat.pow_eq] at hx
  split_ifs at hx with htop hfraction hexponent
  · simp only [Binary.finite.injEq] at hx
    obtain ⟨hsign, hfraction, -, -⟩ := hx
    rw [hsign, hexponent, hfraction] at hbits
    apply eq_of_toNat_toBits
    rw [hbits]
    cases negative with
    | true => decide +kernel
    | false => decide +kernel
  · simp only [Binary.finite.injEq] at hx
    omega

lemma isFinite_of_ofFloat (hx : Binary.ofFloat x = .finite negative M E narrow) :
    x.isFinite = true := by
  by_cases hM : M = 0
  · subst hM
    rw [eq_zero_of_ofFloat hx]
    cases negative with
    | true => decide +kernel
    | false => decide +kernel
  · have hunpack : x.isFinite = x.toModel.unpack.isFinite := rfl
    rw [hunpack, (parts_of_ofFloat hM hx).unpack]
    rfl

/-- What is neither infinite nor something else than a number has a mantissa and an exponent. -/
lemma exists_ofFloat_of_isFinite (h : x.isFinite = true) :
    ∃ negative M E narrow, Binary.ofFloat x = .finite negative M E narrow := by
  obtain ⟨b, hb⟩ : ∃ b : BitVec Format.binary64.numBits, b = x.toModel.toBits.toBitVec := ⟨_, rfl⟩
  have hbits : x.toBits.toNat = b.toNat := by
    rw [hb]
    rfl
  have hunpack : x.isFinite = (UnpackedFloat.unpack Format.binary64 b).isFinite := by
    rw [hb]
    rfl
  -- all ones in the exponent would make it infinite or no number
  have htop : ¬ b.toNat / 2 ^ 52 % 2 ^ 11 = 2047 := by
    intro htop
    have hexponent : UnpackedFloat.unpackExponent b = -1#11 := by
      apply BitVec.eq_of_toNat_eq
      rw [toNat_unpackExponent, htop]
      rfl
    rw [hunpack, UnpackedFloat.unpack] at h
    simp only [hexponent, if_true] at h
    split_ifs at h
    · cases h
    · cases h
  simp only [Binary.ofFloat, Nat.pow_eq, hbits, if_neg htop]
  split_ifs
  · exact ⟨_, _, _, _, rfl⟩
  · exact ⟨_, _, _, _, rfl⟩

lemma isFinite_neg (h : x.isFinite = true) : (-x).isFinite = true := by
  obtain ⟨negative, M, E, narrow, hx⟩ := exists_ofFloat_of_isFinite h
  by_cases hM : M = 0
  · subst hM
    rw [eq_zero_of_ofFloat hx]
    cases negative with
    | true => decide +kernel
    | false => decide +kernel
  · have hp := parts_of_ofFloat hM hx
    have hneg : (-x).isFinite = (Float.Model.pack x.toModel.unpack.neg).unpack.isFinite := rfl
    rw [hneg, hp.unpack]
    exact congrArg UnpackedFloat.isFinite (unpack_pack hp.canonical hp.le _)

end Float

end Critique.Decimal
