import Critique.Json.Parser
import Critique.Proofs.Decimal.Range
import Critique.Proofs.Decimal.Render

/-!
# Numbers in JSON text

A number is read in steps, and each step rounds: the digits become a floating-point number, and a
power of ten is multiplied to it or divided from it.  So a floating-point number that was written
can come back as one of its neighbours.  What matters here is the range.

* Every number that is read is finite (`Literal.isFinite_of_value?`).
* Every finite number is written as a text that is read as a number (`exists_literal?_render`).  The
  steps together round up by less than the distance from the decimal to the end of the range, unless
  the number is one of the two greatest, and these two are read as well.
* A number that is not written as a whole one is not read as a whole one
  (`Number.exists_reread_real`).
-/

namespace Critique.Json

open Decimal

/-! ## What is read is finite -/

lemma inRange_div_powerOfTen {x : Float} (hx : InRange x) {n : ℕ} (hn : n ≤ 308) :
    InRange (x / powerOfTen n) :=
  hx.div (rounds_powerOfTen hn) (one_le_pow₀ (by norm_num))

lemma isFinite_of_scale? {x y : Float} {e : ℤ} (hx : InRange x) (h : scale? x e = some y) :
    y.isFinite = true := by
  fun_induction scale? x e with
  | case1 x e hlarge hzero => exact Option.some.inj h ▸ hx.isFinite
  | case2 x e hlarge hzero => cases h
  | case3 x e hlarge hnonneg z hfinite => exact Option.some.inj h ▸ hfinite
  | case4 x e hlarge hnonneg z hfinite => cases h
  | case5 x e hlarge hnonneg hfew =>
    exact Option.some.inj h ▸ (inRange_div_powerOfTen hx (by omega)).isFinite
  | case6 x e hlarge hnonneg hfew hzero => exact Option.some.inj h ▸ hx.isFinite
  | case7 x e hlarge hnonneg hfew hzero ih => exact ih (inRange_div_powerOfTen hx le_rfl) h

lemma ofDigits_cons (d : Char) (ds : List Char) :
    ofDigits (d :: ds) = (d.toNat - '0'.toNat) * 10 ^ ds.length + ofDigits ds := by
  have h := ofDigits_append [d] ds
  rw [List.singleton_append] at h
  rw [h]
  simp [ofDigits]

/-- What digits are appended to: at most a number of 64 bits, and not more than the digits say. -/
lemma appendDigits_bounds {n : ℕ} (hn : n ≤ maxWord) (ds : List Char) :
    (appendDigits n ds).1 ≤ maxWord ∧ (appendDigits n ds).2 ≤ ds.length ∧
      (appendDigits n ds).1 * 10 ^ (ds.length - (appendDigits n ds).2) ≤
        n * 10 ^ ds.length + ofDigits ds := by
  induction ds generalizing n with
  | nil => simp [appendDigits, hn]
  | cons d ds ih =>
    simp only [appendDigits]
    by_cases hfits : 10 * n + (d.toNat - '0'.toNat) ≤ maxWord
    · obtain ⟨hword, htaken, hvalue⟩ := ih hfits
      rw [if_pos hfits, ofDigits_cons, List.length_cons]
      refine ⟨hword, Nat.succ_le_succ htaken, ?_⟩
      calc _ = (appendDigits (10 * n + (d.toNat - '0'.toNat)) ds).1 *
            10 ^ (ds.length - (appendDigits (10 * n + (d.toNat - '0'.toNat)) ds).2) := by
              rw [Nat.add_sub_add_right]
        _ ≤ (10 * n + (d.toNat - '0'.toNat)) * 10 ^ ds.length + ofDigits ds := hvalue
        _ = _ := by ring
    · rw [if_neg hfits]
      exact ⟨hn, Nat.zero_le _, Nat.le_add_right _ _⟩

lemma appendDigits_zero_le (ds : List Char) : (appendDigits 0 ds).1 ≤ maxWord :=
  (appendDigits_bounds (Nat.zero_le _) ds).1

lemma lt_of_le_maxWord {n : ℕ} (h : n ≤ maxWord) : n < 2 ^ 64 := by
  have hmax : maxWord = 2 ^ 64 - 1 := rfl
  omega

namespace Literal

lemma isFinite_of_magnitude? {l : Literal} {x : Float} (h : l.magnitude? = some x) :
    x.isFinite = true := by
  have hword := (appendDigits_bounds (appendDigits_zero_le l.whole) (l.fraction.getD [])).1
  exact isFinite_of_scale? (inRange_toFloat (lt_of_le_maxWord hword)) h

/-- **Every number that is read is finite.** -/
theorem isFinite_of_value? {l : Literal} {n : Number} (h : l.value? = some n) :
    n.toFloat.isFinite = true := by
  have hwhole : (appendDigits 0 l.whole).1.toUInt64.toFloat.isFinite = true :=
    (inRange_toFloat (lt_of_le_maxWord (appendDigits_zero_le l.whole))).isFinite
  simp only [value?] at h
  split_ifs at h with hinteger hminus hnegative hsign
  · exact Option.some.inj h ▸ hwhole
  · exact Option.some.inj h ▸ isFinite_neg hwhole
  · exact Option.some.inj h ▸ isFinite_neg hwhole
  · obtain ⟨x, hx, rfl⟩ := Option.map_eq_some_iff.1 h
    exact isFinite_neg (isFinite_of_magnitude? hx)
  · obtain ⟨x, hx, rfl⟩ := Option.map_eq_some_iff.1 h
    exact isFinite_of_magnitude? hx

end Literal

/-! ## What is written is read -/

/-- What may stand after a number, because it is not read as more of it. -/
def Follows (rest : List Char) : Prop :=
  ∀ c, rest.head? = some c → c.isDigit = false ∧ c ≠ '.' ∧ c ≠ 'e' ∧ c ≠ 'E'

section Literal

variable {w tail rest : List Char} {f : Option (List Char)} {e : Option ℤ}

lemma digits?_append (hne : w ≠ []) (hw : ∀ c ∈ w, c.isDigit = true)
    (hrest : ∀ c, rest.head? = some c → c.isDigit = false) :
    digits? (w ++ rest) = some (w, rest) := by
  have htake : rest.takeWhile Char.isDigit = [] ∧ rest.dropWhile Char.isDigit = rest := by
    match rest with
    | [] => simp
    | c :: rest => simp [hrest c rfl]
  have hdigits : (w ++ rest).takeWhile Char.isDigit = w := by
    rw [List.takeWhile_append_of_pos hw, htake.1, List.append_nil]
  unfold digits?
  split
  · rename_i hnil
    exact absurd (hdigits.symm.trans hnil) hne
  · rw [hdigits, List.dropWhile_append_of_pos hw, htake.2]

lemma whole?_append (hw : IsWhole w) (htail : ∀ c, tail.head? = some c → c.isDigit = false) :
    whole? (w ++ tail) = some (w, tail) := by
  rcases hw.zero with rfl | hzero
  · rfl
  · unfold whole?
    split
    · rename_i cs heq
      obtain ⟨c, w, rfl⟩ := List.exists_cons_of_ne_nil hw.ne_nil
      simp only [List.cons_append, List.cons.injEq] at heq
      exact absurd (congrArg some heq.1) hzero
    · exact digits?_append hw.ne_nil hw.digits htail

lemma fraction?_of_follows (h : Follows rest) : fraction? rest = some (none, rest) := by
  unfold fraction?
  split
  · exact absurd rfl (h '.' rfl).2.1
  · rfl

lemma exponent?_of_follows (h : Follows rest) : exponent? rest = some (none, rest) := by
  match rest with
  | [] => rfl
  | c :: rest =>
    obtain ⟨-, -, hlower, hupper⟩ := h c rfl
    simp [exponent?, hlower, hupper]

/-- A number behind its sign, and the text after it. -/
def unsigned? (minus : Bool) (cs : List Char) : Option (Literal × List Char) := do
  let (whole, cs) ← whole? cs
  let (fraction, cs) ← fraction? cs
  let (exponent, cs) ← exponent? cs
  if whole == ['0'] && fraction.isNone && exponent.isNone && (cs.head?.any Char.isDigit) then none
  return (⟨minus, whole, fraction, exponent⟩, cs)

lemma literal?_eq_unsigned? {cs : List Char} (minus : Bool) (hcs : cs.head? ≠ some '-') :
    literal? (if minus then '-' :: cs else cs) = unsigned? minus cs := by
  cases minus with
  | true => rfl
  | false =>
    rw [if_neg Bool.false_ne_true]
    unfold literal?
    split
    · rename_i heq
      split at heq
      · exact absurd rfl hcs
      · cases heq
        rfl

lemma literal?_append (minus : Bool) (hw : IsWhole w)
    (htail : ∀ c, tail.head? = some c → c.isDigit = false)
    {middle : List Char} (hf : fraction? tail = some (f, middle))
    (he : exponent? middle = some (e, rest)) (hrest : Follows rest) :
    literal? (if minus then '-' :: (w ++ tail) else w ++ tail) =
      some (⟨minus, w, f, e⟩, rest) := by
  have hhead : (w ++ tail).head? ≠ some '-' := by
    obtain ⟨c, w, rfl⟩ := List.exists_cons_of_ne_nil hw.ne_nil
    rintro ⟨⟩
    exact absurd (hw.digits '-' List.mem_cons_self) (by decide)
  have hdigit : (rest.head?.any Char.isDigit) = false := by
    match rest with
    | [] => rfl
    | c :: rest => exact (hrest c rfl).1
  rw [literal?_eq_unsigned? minus hhead]
  simp [unsigned?, whole?_append hw htail, hf, he, hdigit]

lemma splitSign_append {cs : List Char} (hcs : cs ≠ []) :
    splitSign (cs ++ rest) = ((splitSign cs).1, (splitSign cs).2 ++ rest) := by
  obtain ⟨c, cs, rfl⟩ := List.exists_cons_of_ne_nil hcs
  by_cases hminus : c = '-'
  · subst hminus
    rfl
  · by_cases hplus : c = '+'
    · subst hplus
      rfl
    · simp [splitSign, hminus, hplus]

/-- An exponent as decimals are read, and as it is read in JSON text. -/
lemma exists_exponent?_append {t : List Char} {k : ℤ} (ht : Decimal.exponent? t = some k) :
    ∃ e : Option ℤ, e.getD 0 = k ∧
      ∀ rest, Follows rest → exponent? (t ++ rest) = some (e, rest) := by
  match t with
  | [] =>
    cases ht
    exact ⟨none, rfl, fun rest hrest => exponent?_of_follows hrest⟩
  | c :: cs =>
    obtain ⟨hletter, hdigits, hvalue⟩ : (c == 'e' || c == 'E') = true ∧
        ((splitSign cs).2.isEmpty || !(splitSign cs).2.all Char.isDigit) = false ∧
        (if (splitSign cs).1 then -(ofDigits (splitSign cs).2 : ℤ)
          else ofDigits (splitSign cs).2) = k := by
      simpa [Decimal.exponent?] using ht
    simp only [Bool.or_eq_false_iff, List.isEmpty_eq_false_iff, Bool.not_eq_false',
      List.all_eq_true] at hdigits
    obtain ⟨hne, hall⟩ := hdigits
    have hcs : cs ≠ [] := by
      rintro rfl
      exact hne rfl
    refine ⟨some k, rfl, fun rest hrest => ?_⟩
    have hread := digits?_append hne hall fun d hd => (hrest d hd).1
    simp only [List.cons_append, exponent?, hletter, if_true, splitSign_append hcs, hread,
      Option.map_some, hvalue]

/-- The text of a decimal is read as a number with the same digits and the same exponent. -/
lemma exists_literal?_of_spells {text : List Char} {d : ℕ} {k : ℤ} (h : Spells w text d k) :
    ∃ (f : Option (List Char)) (e : Option ℤ), d = ofDigits (w ++ f.getD []) ∧
      k = e.getD 0 - (f.getD []).length ∧
      ∀ minus rest, Follows rest →
        literal? (if minus then '-' :: (text ++ rest) else text ++ rest) =
          some (⟨minus, w, f, e⟩, rest) := by
  -- an exponent starts with its letter, so what stands in front of it ends there
  have hhead : ∀ {t : List Char} {e : ℤ}, Decimal.exponent? t = some e → ∀ {rest}, Follows rest →
      ∀ c, (t ++ rest).head? = some c → c.isDigit = false ∧ c ≠ '.' := by
    intro t e ht rest hrest c hc
    match t with
    | [] => exact ⟨(hrest c hc).1, (hrest c hc).2.1⟩
    | c' :: cs =>
      obtain rfl : c' = c := Option.some.inj hc
      rcases head?_of_exponent? ht rfl with rfl | rfl
      · decide
      · decide
  cases h with
  | @whole t _ hw ht =>
    obtain ⟨e, hk, he⟩ := exists_exponent?_append ht
    refine ⟨none, e, by simp, by simp [hk], fun minus rest hrest => ?_⟩
    have hfraction : fraction? (t ++ rest) = some (none, t ++ rest) := by
      unfold fraction?
      split
      · rename_i heq
        exact absurd rfl (hhead ht hrest '.' (by rw [heq]; rfl)).2
      · rfl
    rw [List.append_assoc]
    exact literal?_append minus hw (fun c hc => (hhead ht hrest c hc).1) hfraction (he rest hrest)
      hrest
  | @point f t _ hw hne hf ht =>
    obtain ⟨e, hk, he⟩ := exists_exponent?_append ht
    refine ⟨some f, e, rfl, by simp [hk], fun minus rest hrest => ?_⟩
    have hread : fraction? ('.' :: (f ++ (t ++ rest))) = some (some f, t ++ rest) := by
      simp only [fraction?, digits?_append hne hf fun c hc => (hhead ht hrest c hc).1,
        Option.map_some]
    have htext : w ++ '.' :: (f ++ t) ++ rest = w ++ '.' :: (f ++ (t ++ rest)) := by simp
    rw [htext]
    refine literal?_append minus hw (fun c hc => ?_) hread (he rest hrest) hrest
    obtain rfl : '.' = c := Option.some.inj hc
    decide

end Literal

/-! ## What is written is in range -/

lemma ofDigits_lt {ds : List Char} (h : ∀ c ∈ ds, c.isDigit = true) :
    ofDigits ds < 10 ^ ds.length := by
  induction ds with
  | nil => exact Nat.one_pos
  | cons d ds ih =>
    have hd : d.toNat - '0'.toNat ≤ 9 := by
      have hbounds : '0' ≤ d ∧ d ≤ '9' := by
        simpa [Char.isDigit, Char.le_def] using h d List.mem_cons_self
      have hnat : d.toNat ≤ '9'.toNat := hbounds.2
      have hnine : '9'.toNat = '0'.toNat + 9 := rfl
      omega
    have hrest := ih fun c hc => h c (List.mem_cons_of_mem d hc)
    rw [ofDigits_cons, List.length_cons, Nat.pow_succ]
    calc _ < (d.toNat - '0'.toNat) * 10 ^ ds.length + 10 ^ ds.length := by omega
      _ = (d.toNat - '0'.toNat + 1) * 10 ^ ds.length := by ring
      _ ≤ 10 * 10 ^ ds.length := Nat.mul_le_mul_right _ (by omega)
      _ = 10 ^ ds.length * 10 := Nat.mul_comm _ _

/-- As long as they fit into 64 bits, all digits are taken. -/
lemma appendDigits_of_le {n : ℕ} {ds : List Char} (h : n * 10 ^ ds.length + ofDigits ds ≤ maxWord) :
    appendDigits n ds = (n * 10 ^ ds.length + ofDigits ds, ds.length) := by
  induction ds generalizing n with
  | nil => simp [appendDigits, ofDigits]
  | cons d ds ih =>
    have hvalue : (10 * n + (d.toNat - '0'.toNat)) * 10 ^ ds.length + ofDigits ds =
        n * 10 ^ (d :: ds).length + ofDigits (d :: ds) := by
      rw [ofDigits_cons, List.length_cons]
      ring
    rw [← hvalue] at h ⊢
    have hfits : 10 * n + (d.toNat - '0'.toNat) ≤ maxWord :=
      le_trans (Nat.le_mul_of_pos_right _ (by positivity)) (le_trans (Nat.le_add_right _ _) h)
    simp only [appendDigits, if_pos hfits, ih h, List.length_cons]

lemma appendDigits_zero_of_le {ds : List Char} (h : ofDigits ds ≤ maxWord) :
    appendDigits 0 ds = (ofDigits ds, ds.length) := by
  have hfits : 0 * 10 ^ ds.length + ofDigits ds ≤ maxWord := by simpa using h
  simpa using appendDigits_of_le hfits

/-- Numbers up to here stay in range when the digits and the power of ten are rounded up. -/
def readBound : ℚ := (2 ^ 53 - 5 / 2) * 2 ^ (971 : ℤ)

lemma readBound_pos : 0 < readBound :=
  mul_pos (by norm_num) (two_zpow_pos _)

lemma readBound_mul_lt : readBound * (1 + 1 / 2 ^ 53) ^ 2 < overflow := by
  have hpos := two_zpow_pos 971
  rw [readBound, overflow]
  generalize (2 : ℚ) ^ (971 : ℤ) = u at hpos ⊢
  nlinarith

lemma readBound_lt_ten_pow : readBound < 10 ^ 309 := by
  have hnat : 18014398509481979 * 2 ^ 971 < 2 * 10 ^ 309 := by decide +kernel
  have hcast := (Nat.cast_lt (α := ℚ)).2 hnat
  simp only [Nat.cast_mul, Nat.cast_pow, Nat.cast_ofNat] at hcast
  rw [readBound, zpow_ofNat]
  generalize (10 : ℚ) ^ 309 = t at hcast ⊢
  generalize (2 : ℚ) ^ 971 = u at hcast ⊢
  linarith

lemma isSome_scale?_of_neg (x : Float) {e : ℤ} (he : e < 0) : (scale? x e).isSome = true := by
  fun_induction scale? x e with
  | case1 x e hlarge hzero => rfl
  | case2 x e hlarge hzero => omega
  | case3 x e hlarge hnonneg z hfinite => rfl
  | case4 x e hlarge hnonneg z hfinite => omega
  | case5 x e hlarge hnonneg hfew => rfl
  | case6 x e hlarge hnonneg hfew hzero => rfl
  | case7 x e hlarge hnonneg hfew hzero ih => exact ih (by omega)

lemma isSome_scale?_of_isFinite {x : Float} {n : ℕ} (hn : n ≤ 308)
    (hfinite : (x * powerOfTen n).isFinite = true) : (scale? x n).isSome = true := by
  rw [scale?, if_neg (by omega), if_pos (by omega)]
  simp only [Int.toNat_natCast, hfinite, if_true, Option.isSome_some]

lemma isSome_scale? {m : ℕ} {e : ℤ} (hm : m ≤ maxWord) (hv : (m : ℚ) * 10 ^ e ≤ readBound) :
    (scale? m.toUInt64.toFloat e).isSome = true := by
  rcases Int.lt_or_le e 0 with he | he
  · exact isSome_scale?_of_neg _ he
  obtain ⟨n, rfl⟩ := Int.eq_ofNat_of_zero_le he
  rw [zpow_natCast] at hv
  rcases Nat.eq_zero_or_pos m with rfl | hpos
  · -- zero stays zero
    by_cases hlarge : (308 : ℤ) < n
    · rw [scale?, if_pos hlarge]
      rfl
    · obtain ⟨M, E, hten, -⟩ := rounds_powerOfTen (n := n) (by omega)
      have hmul : (Nat.toUInt64 0).toFloat * powerOfTen n = .ofModel (.pack
        (.mul .binary64 (.zero .positive) (powerOfTen n).toModel.unpack)) := rfl
      have hfinite : ((Nat.toUInt64 0).toFloat * powerOfTen n).isFinite = true := by
        rw [hmul, powerOfTen, hten.unpack]
        show (Float.ofModel (.pack (.zero .positive))).isFinite = true
        decide
      exact isSome_scale?_of_isFinite (by omega) hfinite
  · -- one power of ten is enough, and the product stays below the greatest number
    have hone : (1 : ℚ) ≤ m := by exact_mod_cast hpos
    have hten : (1 : ℚ) ≤ 10 ^ n := one_le_pow₀ (by norm_num)
    have hn : n ≤ 308 := by
      by_contra hlarge
      have hle : (10 : ℚ) ^ 309 ≤ 10 ^ n := pow_le_pow_right₀ (by norm_num) (by omega)
      have hself : (10 : ℚ) ^ n ≤ m * 10 ^ n := le_mul_of_one_le_left (by positivity) hone
      exact absurd readBound_lt_ten_pow (not_lt.2 (hle.trans (hself.trans hv)))
    have hfinite : (m.toUInt64.toFloat * powerOfTen n).isFinite = true := by
      refine (rounds_toFloat hpos (lt_of_le_maxWord hm)).isFinite_mul (rounds_powerOfTen hn) hone
        hten (lt_of_le_of_lt ?_ readBound_mul_lt)
      exact mul_le_mul_of_nonneg_right hv (by positivity)
    exact isSome_scale?_of_isFinite hn hfinite

namespace Literal

/-- Digits of a number that is small enough, of which not too many stand before the point. -/
lemma isSome_magnitude? {l : Literal} (hw : ∀ c ∈ l.whole, c.isDigit = true)
    (hlength : l.whole.length ≤ 16)
    (hv : (ofDigits (l.whole ++ l.fraction.getD []) : ℚ) *
      10 ^ (l.exponent.getD 0 - (l.fraction.getD []).length) ≤ readBound) :
    l.magnitude?.isSome = true := by
  -- 16 digits fit into a word, so none in front of the point is left out
  have hword : ofDigits l.whole ≤ maxWord := by
    have hlt := ofDigits_lt hw
    have hpow : 10 ^ l.whole.length ≤ 10 ^ 16 := Nat.pow_le_pow_right (by norm_num) hlength
    have hmax : 10 ^ 16 ≤ maxWord := by decide
    omega
  have hwhole := appendDigits_zero_of_le hword
  obtain ⟨hm, htaken, hvalue⟩ := appendDigits_bounds hword (l.fraction.getD [])
  rw [ofDigits_append] at hv
  simp only [magnitude?, hwhole, Nat.sub_self, Nat.cast_zero, zero_sub]
  refine isSome_scale? hm (le_trans ?_ hv)
  generalize l.fraction.getD [] = f at *
  generalize appendDigits (ofDigits l.whole) f = p at *
  -- the digits that are left out only make the number smaller
  have hcast : (p.1 : ℚ) * 10 ^ (f.length - p.2) ≤
      (ofDigits l.whole * 10 ^ f.length + ofDigits f : ℕ) := by
    exact_mod_cast hvalue
  have hpow : (10 : ℚ) ^ (-(p.2 : ℤ) + l.exponent.getD 0) =
      10 ^ (f.length - p.2) * 10 ^ (l.exponent.getD 0 - f.length) := by
    rw [← zpow_natCast, ← zpow_add₀ (by norm_num)]
    congr 1
    omega
  rw [hpow, ← mul_assoc]
  exact mul_le_mul_of_nonneg_right hcast (by positivity)

lemma isSome_value? {l : Literal} (h : l.magnitude?.isSome = true) : l.value?.isSome = true := by
  simp only [value?]
  split_ifs
  · rfl
  · rfl
  · rfl
  · rw [Option.isSome_map]
    exact h
  · rw [Option.isSome_map]
    exact h

end Literal

/-- Only the decimals of the two greatest numbers lie beyond the bound. -/
lemma greatest_of_readBound_lt {M : ℕ} {E : ℤ} {v : ℚ} (hc : Canonical M E) (hE : E ≤ 971)
    (hv : InInterval M E v) (hlarge : readBound < v) :
    E = 971 ∧ (M = 2 ^ 53 - 2 ∨ M = 2 ^ 53 - 1) := by
  have hM : (M : ℚ) + 1 ≤ 2 ^ 53 := by exact_mod_cast hc.lt
  have hnonneg : (0 : ℚ) ≤ M + 1 / 2 := by positivity
  have hcoefficient : (M : ℚ) + 1 / 2 ≤ (2 ^ 53 - 5 / 2) * 2 := by linarith
  have htop : E = 971 := by
    by_contra hne
    refine absurd hlarge (not_lt.2 ?_)
    calc v ≤ (M + 1 / 2) * 2 ^ E := hv.upper
      _ ≤ (M + 1 / 2) * 2 ^ (970 : ℤ) :=
        mul_le_mul_of_nonneg_left (zpow_le_zpow_right₀ one_le_two (by omega)) hnonneg
      _ ≤ (2 ^ 53 - 5 / 2) * 2 * 2 ^ (970 : ℤ) :=
        mul_le_mul_of_nonneg_right hcoefficient (two_zpow_pos _).le
      _ = readBound := by
        rw [readBound, show (971 : ℤ) = 1 + 970 by norm_num, zpow_add₀ two_ne_zero, zpow_one,
          mul_assoc]
  subst htop
  have hlt : ((2 : ℚ) ^ 53 - 5 / 2) < M + 1 / 2 :=
    lt_of_mul_lt_mul_right (lt_of_lt_of_le hlarge hv.upper) (two_zpow_pos 971).le
  have hnat : 2 ^ 53 < M + 3 := by
    have : (2 : ℚ) ^ 53 < M + 3 := by linarith
    exact_mod_cast this
  have := hc.lt
  exact ⟨rfl, by omega⟩

/-- The texts of the two greatest numbers are read as numbers, too. -/
lemma isSome_magnitude?_greatest {M : ℕ} (hM : M = 2 ^ 53 - 2 ∨ M = 2 ^ 53 - 1) (hpos : 0 < M)
    (negative : Bool) :
    ((literal? (layout.render (.ofModel (.pack
      (.finite (signOf negative) M 971 hpos)))).toList).bind (·.1.magnitude?)).isSome = true := by
  rcases hM with rfl | rfl
  · obtain rfl : hpos = (by norm_num : 0 < 2 ^ 53 - 2) := rfl
    cases negative with
    | true => decide +kernel
    | false => decide +kernel
  · obtain rfl : hpos = (by norm_num : 0 < 2 ^ 53 - 1) := rfl
    cases negative with
    | true => decide +kernel
    | false => decide +kernel

/-- **Every finite number is written as a text that is read as a number.** -/
theorem exists_literal?_render {x : Float} (hx : x.isFinite = true) :
    ∃ l n, Literal.value? l = some n ∧
      ∀ rest, Follows rest → literal? ((layout.render x).toList ++ rest) = some (l, rest) := by
  obtain ⟨negative, M, E, narrow, hparts⟩ := exists_ofFloat_of_isFinite hx
  obtain ⟨text, w, d, k, htext, hspells, hlength, hvalue⟩ := layout.exists_spells_render hparts
  obtain ⟨f, e, hd, hk, hread⟩ := exists_literal?_of_spells hspells
  have hliteral : ∀ rest, Follows rest →
      literal? ((layout.render x).toList ++ rest) = some (⟨negative, w, f, e⟩, rest) := by
    intro rest hrest
    rw [htext, ← hread negative rest hrest]
    cases negative with
    | true => rfl
    | false => rfl
  have hmagnitude : (Literal.mk negative w f e).magnitude?.isSome = true := by
    -- the reader's two roundings could only leave the range for the two greatest numbers
    rcases le_or_gt ((d : ℚ) * 10 ^ k) readBound with hsmall | hlarge
    · refine Literal.isSome_magnitude? hspells.isWhole.digits ?_ ?_
      · rcases hlength with hone | hpositional
        · exact hone.le.trans (by norm_num)
        · simp only [layout, Bool.and_eq_true, decide_eq_true_eq] at hpositional
          show w.length ≤ 16
          omega
      · rw [← hd, ← hk]
        exact hsmall
    · rcases hvalue with ⟨-, rfl⟩ | ⟨hM, hinterval⟩
      · rw [Nat.cast_zero, zero_mul] at hlarge
        exact absurd hlarge (not_lt.2 readBound_pos.le)
      · have hp := parts_of_ofFloat hM hparts
        obtain ⟨rfl, htop⟩ := greatest_of_readBound_lt hp.canonical hp.le hinterval hlarge
        have hsome := isSome_magnitude?_greatest htop hp.canonical.pos negative
        have hempty := hliteral [] (fun c hc => by cases hc)
        rw [List.append_nil] at hempty
        rw [← hp.pack, hempty] at hsome
        exact hsome
  obtain ⟨n, hn⟩ := Option.isSome_iff_exists.1 (Literal.isSome_value? hmagnitude)
  exact ⟨_, n, hn, hliteral⟩

/-! ## Numbers as values -/

namespace Number

/-- Numbers that can be written: whole ones of 64 bits, and finite ones. -/
def Writable : Number → Prop
  | natural n => n ≤ maxWord
  | negative n => 0 < n ∧ n ≤ 2 ^ 63
  | real x => x.isFinite = true

/-- What the text of a number is read as. -/
def reread (n : Number) : Number :=
  ((literal? n.render).bind (·.1.value?)).getD n

lemma reread_eq {n m : Number} {l : Literal} (hvalue : l.value? = some m)
    (hread : ∀ rest, Follows rest → literal? (n.render ++ rest) = some (l, rest)) :
    n.reread = m := by
  have h := hread [] fun c hc => by cases hc
  rw [List.append_nil] at h
  rw [reread, h]
  simp [hvalue]

end Number

lemma isWhole_toDigits (n : ℕ) : IsWhole (Nat.toDigits 10 n) where
  ne_nil := Nat.toDigits_ne_nil
  digits _ hc := isDigit_of_mem_toDigits hc
  zero := by
    rcases Nat.eq_zero_or_pos n with rfl | hpos
    · exact .inl rfl
    · exact .inr (head?_toDigits_ne hpos)

lemma literal?_toDigits (minus : Bool) (n : ℕ) {rest : List Char} (hrest : Follows rest) :
    literal? (if minus then '-' :: (Nat.toDigits 10 n ++ rest) else Nat.toDigits 10 n ++ rest) =
      some (⟨minus, Nat.toDigits 10 n, none, none⟩, rest) :=
  literal?_append minus (isWhole_toDigits n) (fun c hc => (hrest c hc).1)
    (fraction?_of_follows hrest) (exponent?_of_follows hrest) hrest

lemma appendDigits_toDigits {n : ℕ} (hn : n ≤ maxWord) :
    appendDigits 0 (Nat.toDigits 10 n) = (n, (Nat.toDigits 10 n).length) := by
  rw [appendDigits_zero_of_le (by simpa using hn), ofDigits_toDigits]

lemma value?_natural {n : ℕ} (hn : n ≤ maxWord) :
    (Literal.mk false (Nat.toDigits 10 n) none none).value? = some (.natural n) := by
  simp [Literal.value?, appendDigits_toDigits hn]

namespace Number

lemma exists_literal? {n : Number} (h : n.Writable) :
    ∃ l, Literal.value? l = some n.reread ∧
      ∀ rest, Follows rest → literal? (n.render ++ rest) = some (l, rest) := by
  suffices hread : ∃ l m, Literal.value? l = some m ∧
      ∀ rest, Follows rest → literal? (n.render ++ rest) = some (l, rest) by
    obtain ⟨l, m, hvalue, hl⟩ := hread
    exact ⟨l, by rw [hvalue, reread_eq hvalue hl], hl⟩
  cases n with
  | natural n =>
    exact ⟨_, _, value?_natural h, fun rest hrest => literal?_toDigits false n hrest⟩
  | negative n =>
    have hword : n ≤ maxWord := le_trans h.2 (by decide)
    refine ⟨⟨true, Nat.toDigits 10 n, none, none⟩, .negative n, ?_,
      fun rest hrest => literal?_toDigits true n hrest⟩
    simpa [Literal.value?, appendDigits_toDigits hword, h.1] using h.2
  | real x => exact exists_literal?_render h

lemma reread_natural {n : ℕ} (h : n ≤ maxWord) : (natural n).reread = .natural n :=
  reread_eq (value?_natural h) fun _ hrest => literal?_toDigits false n hrest

/-- A number starts with a digit or a minus. -/
lemma exists_render_eq_cons {n : Number} (h : n.Writable) :
    ∃ c cs, n.render = c :: cs ∧ (c.isDigit = true ∨ c = '-') := by
  have hdigits : ∀ n, ∃ c cs, Nat.toDigits 10 n = c :: cs ∧ (c.isDigit = true ∨ c = '-') := by
    intro n
    obtain ⟨c, cs, hcs⟩ := List.exists_cons_of_ne_nil (isWhole_toDigits n).ne_nil
    exact ⟨c, cs, hcs, .inl (isDigit_of_mem_toDigits (n := n) (hcs ▸ List.mem_cons_self))⟩
  cases n with
  | natural n => exact hdigits n
  | negative n => exact ⟨'-', _, rfl, .inr rfl⟩
  | real x =>
    obtain ⟨negative, M, E, narrow, hparts⟩ := exists_ofFloat_of_isFinite h
    obtain ⟨text, w, d, k, htext, hspells, -, -⟩ := layout.exists_spells_render hparts
    obtain ⟨c, cs, rfl, hc⟩ := hspells.exists_digit
    cases negative with
    | true => exact ⟨'-', c :: cs, htext, .inr rfl⟩
    | false => exact ⟨c, cs, htext, .inl hc⟩

end Number

/-! ## Numbers that are not whole -/

lemma point_mem_positionalChars (digits : List Char) (leading : ℤ) :
    '.' ∈ positionalChars true digits leading := by
  simp only [positionalChars, if_true]
  split
  · simp
  · split <;> simp

/-- The text of a finite number has a point or an exponent. -/
lemma point_or_exponent_mem_render {x : Float} (hx : x.isFinite = true) :
    '.' ∈ (layout.render x).toList ∨ 'e' ∈ (layout.render x).toList := by
  obtain ⟨negative, M, E, narrow, hparts⟩ := exists_ofFloat_of_isFinite hx
  have hpositive : ∀ s, '.' ∈ layout.positiveChars s ∨ 'e' ∈ layout.positiveChars s := by
    intro s
    simp only [Layout.positiveChars]
    split_ifs
    · exact .inl (point_mem_positionalChars _ _)
    · exact .inr (by simp [scientificChars])
  have hkeep : layout.keepPoint = true := rfl
  simp only [Layout.render, hparts, String.toList_ofList, hkeep, if_true]
  by_cases hM : M = 0
  · cases negative <;> simp [hM]
  · cases negative
    · simpa [hM] using hpositive _
    · simpa [hM] using hpositive _

section Parts

variable {cs rest w : List Char}

lemma eq_append_of_whole? (h : whole? cs = some (w, rest)) :
    cs = w ++ rest ∧ ∀ c ∈ w, c.isDigit = true := by
  unfold whole? digits? at h
  split at h
  · cases h
    exact ⟨rfl, by simp⟩
  · split at h
    · cases h
    · cases h
      exact ⟨(List.takeWhile_append_dropWhile).symm, fun c hc => List.mem_takeWhile_imp hc⟩

lemma eq_of_fraction?_eq_none (h : fraction? cs = some (none, rest)) : rest = cs := by
  unfold fraction? at h
  split at h
  · obtain ⟨_, -, heq⟩ := Option.map_eq_some_iff.1 h
    cases heq
  · cases h
    rfl

lemma eq_of_exponent?_eq_none (h : exponent? cs = some (none, rest)) : rest = cs := by
  unfold exponent? at h
  split at h
  · split at h
    · obtain ⟨_, -, heq⟩ := Option.map_eq_some_iff.1 h
      cases heq
    · cases h
      rfl
  · cases h
    rfl

/-- A literal without a fraction and an exponent is made of digits. -/
lemma digits_of_literal? {l : Literal} (h : literal? cs = some (l, []))
    (hfraction : l.fraction = none) (hexponent : l.exponent = none) :
    ∀ c ∈ cs, c.isDigit = true ∨ c = '-' := by
  -- behind the minus sign nothing but the whole part is left
  have hread : ∀ minus text, unsigned? minus text = some (l, []) →
      ∀ c ∈ text, c.isDigit = true := by
    intro minus text hl
    obtain ⟨⟨w, r⟩, hw, hl⟩ := Option.bind_eq_some_iff.1 hl
    obtain ⟨⟨f, r'⟩, hf, hl⟩ := Option.bind_eq_some_iff.1 hl
    obtain ⟨⟨e, r''⟩, he, hl⟩ := Option.bind_eq_some_iff.1 hl
    simp only [Option.bind_eq_bind] at hl
    split at hl
    · cases hl
    · cases hl
      obtain rfl : f = none := hfraction
      obtain rfl : e = none := hexponent
      obtain ⟨rfl, hdigits⟩ := eq_append_of_whole? hw
      rw [← eq_of_fraction?_eq_none hf, ← eq_of_exponent?_eq_none he, List.append_nil]
      exact hdigits
  by_cases hminus : cs.head? = some '-'
  · obtain ⟨text, rfl⟩ : ∃ text, cs = '-' :: text := by
      cases cs with
      | nil => cases hminus
      | cons c text => exact ⟨text, by rw [Option.some.inj hminus]⟩
    intro c hc
    rcases List.mem_cons.1 hc with rfl | hc
    · exact .inr rfl
    · exact .inl (hread true text h c hc)
  · have hunsigned : literal? cs = unsigned? false cs := literal?_eq_unsigned? false hminus
    exact fun c hc => .inl (hread false cs (hunsigned ▸ h) c hc)

end Parts

lemma Literal.exists_real_of_value? {l : Literal} {n : Number}
    (hparts : ¬ (l.fraction = none ∧ l.exponent = none)) (h : l.value? = some n) :
    ∃ y, n = .real y := by
  have hcond : (l.fraction.isNone && l.exponent.isNone &&
      (appendDigits 0 l.whole).2 == l.whole.length) = false := by
    refine Bool.eq_false_iff.2 fun hwhole => hparts ?_
    simp only [Bool.and_eq_true, Option.isNone_iff_eq_none] at hwhole
    exact hwhole.1
  simp only [value?, hcond] at h
  obtain ⟨y, -, rfl⟩ := Option.map_eq_some_iff.1 h
  exact ⟨_, rfl⟩

/-- **A number that is not written as a whole one is not read as a whole one**, not even when its
value is whole. -/
theorem Number.exists_reread_real {x : Float} (hx : x.isFinite = true) :
    ∃ y, (real x).reread = .real y ∧ y.isFinite = true := by
  obtain ⟨l, n, hvalue, hread⟩ := exists_literal?_render hx
  have hparts : ¬ (l.fraction = none ∧ l.exponent = none) := by
    rintro ⟨hfraction, hexponent⟩
    have htext := hread [] fun c hc => by cases hc
    rw [List.append_nil] at htext
    have hdigits := digits_of_literal? htext hfraction hexponent
    rcases point_or_exponent_mem_render hx with hpoint | hletter
    · exact absurd (hdigits '.' hpoint) (by decide)
    · exact absurd (hdigits 'e' hletter) (by decide)
  obtain ⟨y, rfl⟩ := Literal.exists_real_of_value? hparts hvalue
  have hreread : (real x).reread = .real y := reread_eq (n := .real x) hvalue hread
  have hfinite := Literal.isFinite_of_value? hvalue
  rw [toFloat] at hfinite
  exact ⟨y, hreread, hfinite⟩

end Critique.Json
