import Critique.Proofs.Decimal.Render

/-!
# Floating-point numbers in YAML text

Every floating-point number is read as it was written (`float?_render`), also those that are not
finite: these have words of their own, and no decimal is one of the words.
-/

namespace Critique.Yaml

open Decimal Float.Model

variable {x : Float} {negative narrow : Bool} {M : ℕ} {E : ℤ}

/-! ## Values that are not finite -/

lemma eq_infinity_of_ofFloat (hx : Binary.ofFloat x = .infinite negative) :
    x = if negative then -infinity else infinity := by
  have hbits := eq_sign_add_exponent_add_fraction x.toBits.toNat_lt
  simp only [Binary.ofFloat, Nat.pow_eq] at hx
  split_ifs at hx with htop hfraction
  have hsign := Binary.infinite.inj hx
  rw [hsign, htop, hfraction] at hbits
  apply eq_of_toNat_toBits
  rw [hbits]
  cases negative with
  | true => decide +kernel
  | false => decide +kernel

/-- There is only one value that is not a number. -/
lemma eq_nan_of_ofFloat (hx : Binary.ofFloat x = .nan) : x = 0 / 0 := by
  obtain ⟨b, hb⟩ : ∃ b : BitVec Format.binary64.numBits, b = x.toModel.toBits.toBitVec := ⟨_, rfl⟩
  have hvalid : Format.binary64.Valid b := hb ▸ x.toModel.valid
  have hbits : x.toBits.toNat = b.toNat := by
    rw [hb]
    rfl
  have hnan : (0 / 0 : Float).toBits.toNat =
      (UnpackedFloat.packedNaN Format.binary64).toNat := by decide +kernel
  simp only [Binary.ofFloat, Nat.pow_eq, hbits] at hx
  split_ifs at hx with htop hfraction
  have hexponent : UnpackedFloat.unpackExponent b = -1#11 := by
    apply BitVec.eq_of_toNat_eq
    rw [toNat_unpackExponent, htop]
    rfl
  have hmantissa : UnpackedFloat.unpackMantissa b ≠ 0#52 := by
    intro hzero
    have htoNat := congrArg BitVec.toNat hzero
    rw [toNat_unpackMantissa] at htoNat
    exact hfraction htoNat
  apply eq_of_toNat_toBits
  rw [hbits, hnan, hvalid.eq_packedNaN hexponent hmantissa]

/-! ## Words -/

/-- No word has its point behind a digit, so that what starts like a decimal is read as one. -/
lemma float?_of_digit {c : Char} (hc : c.isDigit = true) {cs text : List Char}
    (htext : text = if negative then '-' :: c :: cs else c :: cs) :
    float? text = (parse? text).filter Float.isFinite := by
  have hne : ∀ d : Char, d.isDigit = false → d ≠ c := by
    rintro d hd rfl
    rw [hc] at hd
    cases hd
  have hplus : text.head? ≠ some '+' := by
    rw [htext]
    cases negative with
    | true => simp
    | false => simpa using (hne '+' (by decide)).symm
  have hdrop : dropPlus text = text := by
    unfold dropPlus
    split
    · exact absurd rfl hplus
    · rfl
  -- the words for infinity and for no number start with a point, or with a minus sign and a point
  have hword : ∀ w : String, (w.toList.head? = some '.' ∨ w.toList.take 2 = ['-', '.']) →
      w ≠ String.ofList text := by
    rintro w hw rfl
    rw [String.toList_ofList, htext] at hw
    cases negative with
    | true => simp [(hne '.' (by decide)).symm] at hw
    | false => simp [(hne '.' (by decide)).symm, (hne '-' (by decide)).symm] at hw
  have hwords : ∀ ws : List String,
      (∀ w ∈ ws, w.toList.head? = some '.' ∨ w.toList.take 2 = ['-', '.']) →
      ws.contains (String.ofList text) = false := by
    intro ws hws
    rw [← Bool.not_eq_true, List.contains_iff_mem]
    exact fun hmem => hword _ (hws _ hmem) rfl
  have hhead : (text.head? == some '+') = false := by simpa using hplus
  simp only [float?, hdrop, hhead, Bool.false_and, Bool.false_eq_true, if_false,
    hwords [".inf", ".Inf", ".INF"] (by decide), hwords ["-.inf", "-.Inf", "-.INF"] (by decide),
    hwords [".nan", ".NaN", ".NAN"] (by decide)]

/-- **Every number is read as it was written.** -/
theorem float?_render (x : Float) : float? (layout.render x).toList = some x := by
  cases hx : Binary.ofFloat x with
  | nan =>
    have htext : layout.render x = ".nan" := by simp only [Layout.render, hx]; rfl
    rw [htext, eq_nan_of_ofFloat hx]
    rfl
  | infinite negative =>
    cases negative with
    | true =>
      have htext : layout.render x = "-.inf" := by simp only [Layout.render, hx]; rfl
      rw [htext, eq_infinity_of_ofFloat hx]
      rfl
    | false =>
      have htext : layout.render x = ".inf" := by simp only [Layout.render, hx]; rfl
      rw [htext, eq_infinity_of_ofFloat hx]
      rfl
  | finite negative M E narrow =>
    obtain ⟨text, w, d, k, htext, hspells, -, hvalue⟩ := layout.exists_spells_render hx
    obtain ⟨c, cs, rfl, hc⟩ := hspells.exists_digit
    rw [float?_of_digit hc htext, layout.parse?_render hx]
    simp [isFinite_of_ofFloat hx]

end Critique.Yaml
