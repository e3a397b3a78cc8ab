import Critique.Proofs.Decimal.Nearest
import Critique.Proofs.Decimal.Shortest

/-!
# Numbers, written and read again

Every layout writes a finite floating-point number as a text that is read as that number
(`Layout.parse?_render`).  The digits are those of a decimal in the interval of the number
(`shortest_inInterval`), and such a decimal is read as the number (`nearest_eq`).  Between the two
is the text: `Spells` says which decimal a text stands for, wherever its point is.
-/

namespace Critique.Decimal

/-! ## Texts of decimals -/

lemma ofDigits_append (a b : List Char) :
    ofDigits (a ++ b) = ofDigits a * 10 ^ b.length + ofDigits b := by
  rw [ofDigits_eq, ofDigits_eq, ofDigits_eq, Nat.ofDigitChars_append,
    Nat.ofDigitChars_eq_ofDigitChars_zero, Nat.mul_comm]

lemma ofDigits_replicate_zero (n : ℕ) : ofDigits (List.replicate n '0') = 0 := by
  rw [ofDigits_eq, Nat.ofDigitChars_replicate_zero, Nat.mul_zero]

/-- Digits that a decimal can start with: a zero stands there only alone. -/
structure IsWhole (w : List Char) : Prop where
  ne_nil : w ≠ []
  digits : ∀ c ∈ w, c.isDigit = true
  zero : w = ['0'] ∨ w.head? ≠ some '0'

lemma isWhole_zero : IsWhole ['0'] where
  ne_nil := by simp
  digits := by simp
  zero := .inl rfl

/-- Digits behind the first ones do not matter, unless the first one is a zero. -/
lemma IsWhole.of_head? {w ds : List Char} (hw : ∀ c ∈ w, c.isDigit = true)
    (hhead : w.head? = ds.head?) (hne : ds ≠ []) (hds : ds.head? ≠ some '0') : IsWhole w where
  ne_nil := by
    rintro rfl
    exact hne (List.head?_eq_none_iff.1 hhead.symm)
  digits := hw
  zero := .inr (hhead ▸ hds)

/-- The text stands for the decimal `d * 10 ^ k`, with or without a point, and starts with the
digits `w`. -/
inductive Spells (w : List Char) : List Char → ℕ → ℤ → Prop
  | whole {t : List Char} {e : ℤ} (hw : IsWhole w) (ht : exponent? t = some e) :
      Spells w (w ++ t) (ofDigits w) e
  | point {f t : List Char} {e : ℤ} (hw : IsWhole w) (hne : f ≠ [])
      (hf : ∀ c ∈ f, c.isDigit = true) (ht : exponent? t = some e) :
      Spells w (w ++ '.' :: (f ++ t)) (ofDigits (w ++ f)) (e - f.length)

section Spells

variable {w t : List Char} {d : ℕ} {e k : ℤ}

/-- What is read as an exponent is empty or starts with its letter. -/
lemma head?_of_exponent? (h : exponent? t = some e) {c : Char} (hc : t.head? = some c) :
    c = 'e' ∨ c = 'E' := by
  match t with
  | [] => cases hc
  | c' :: cs =>
    obtain rfl : c' = c := Option.some.inj hc
    by_contra hne
    simp [exponent?, hne] at h

lemma takeWhile_append_exponent (hw : ∀ c ∈ w, c.isDigit = true)
    (ht : exponent? t = some e) :
    (w ++ t).takeWhile Char.isDigit = w ∧ (w ++ t).dropWhile Char.isDigit = t := by
  rw [List.takeWhile_append_of_pos hw, List.dropWhile_append_of_pos hw]
  match t with
  | [] => simp
  | c :: cs =>
    have hdigit : c.isDigit = false := by
      rcases head?_of_exponent? ht rfl with rfl | rfl
      · decide
      · decide
    simp [hdigit]

lemma splitSign_of_isDigit (hne : w ≠ []) (hw : ∀ c ∈ w, c.isDigit = true)
    (rest : List Char) : splitSign (w ++ rest) = (false, w ++ rest) := by
  obtain ⟨c, w, rfl⟩ := List.exists_cons_of_ne_nil hne
  have hc := hw c List.mem_cons_self
  unfold splitSign
  split
  · rename_i heq
    obtain rfl : c = '-' := by simpa using congrArg List.head? heq
    cases hc
  · rename_i heq
    obtain rfl : c = '+' := by simpa using congrArg List.head? heq
    cases hc
  · rfl

lemma Spells.parse? {text : List Char} (h : Spells w text d k) (negative : Bool) :
    parse? (if negative then '-' :: text else text) =
      some (if negative then -nearest d k else nearest d k) := by
  have hsign : splitSign (if negative then '-' :: text else text) = (negative, text) := by
    cases negative with
    | true => rfl
    | false =>
      cases h with
      | whole hw ht => exact splitSign_of_isDigit hw.ne_nil hw.digits _
      | point hw hne hf ht => exact splitSign_of_isDigit hw.ne_nil hw.digits _
  cases h with
  | @whole t e hw ht =>
    obtain ⟨htake, hdrop⟩ := takeWhile_append_exponent hw.digits ht
    simp only [Decimal.parse?, hsign, htake, hdrop]
    -- what stands behind the digits is read as an exponent, so it does not begin with a point
    split
    · rcases head?_of_exponent? ht rfl with hpoint | hpoint
      · cases hpoint
      · cases hpoint
    · simp [ht, hw.ne_nil]
  | @point f t e hw hne hf ht =>
    obtain ⟨htake, hdrop⟩ := takeWhile_append_exponent hf ht
    have hpoint : ('.' : Char).isDigit = false := by decide
    simp [Decimal.parse?, hsign, List.takeWhile_append_of_pos hw.digits,
      List.dropWhile_append_of_pos hw.digits, hpoint, htake, hdrop, ht, hw.ne_nil]

lemma Spells.isWhole {text : List Char} (h : Spells w text d k) : IsWhole w := by
  cases h with
  | whole hw ht => exact hw
  | point hw hne hf ht => exact hw

lemma Spells.exists_digit {text : List Char} (h : Spells w text d k) :
    ∃ c cs, text = c :: cs ∧ c.isDigit = true := by
  obtain ⟨c, v, rfl⟩ := List.exists_cons_of_ne_nil h.isWhole.ne_nil
  have hc := h.isWhole.digits c List.mem_cons_self
  cases h with
  | whole hw ht => exact ⟨c, _, rfl, hc⟩
  | point hw hne hf ht => exact ⟨c, _, rfl, hc⟩

end Spells

/-! ## Layouts -/

section Layout

/-- Digits alone, with zeros around them or none, are all digits. -/
lemma isDigit_of_mem_append {a b : List Char} (ha : ∀ c ∈ a, c.isDigit = true)
    (hb : ∀ c ∈ b, c.isDigit = true) : ∀ c ∈ a ++ b, c.isDigit = true := by
  intro c hc
  rcases List.mem_append.1 hc with hc | hc
  · exact ha c hc
  · exact hb c hc

lemma isDigit_of_mem_zeros {m : ℕ} : ∀ c ∈ List.replicate m '0', c.isDigit = true := by
  intro c hc
  rw [List.eq_of_mem_replicate hc]
  decide

lemma isDigit_of_mem_zero : ∀ c ∈ ['0'], c.isDigit = true :=
  isDigit_of_mem_zeros (m := 1)

lemma Spells.whole_nil {w : List Char} (hw : IsWhole w) : Spells w w (ofDigits w) 0 := by
  have h := Spells.whole (t := []) hw rfl
  rwa [List.append_nil] at h

lemma Spells.point_nil {w f : List Char} (hw : IsWhole w) (hne : f ≠ [])
    (hf : ∀ c ∈ f, c.isDigit = true) :
    Spells w (w ++ '.' :: f) (ofDigits (w ++ f)) (-f.length) := by
  have h := Spells.point (t := []) hw hne hf rfl
  rwa [List.append_nil, zero_sub] at h

lemma exponent?_cons {cs : List Char} {negative : Bool} {n : ℕ}
    (h : splitSign cs = (negative, Nat.toDigits 10 n)) :
    exponent? ('e' :: cs) = some (if negative then -(n : ℤ) else n) := by
  have hall : (Nat.toDigits 10 n).all Char.isDigit = true :=
    List.all_eq_true.2 fun c hc => isDigit_of_mem_toDigits hc
  have hne : Nat.toDigits 10 n ≠ [] := Nat.toDigits_ne_nil
  simp [exponent?, h, hall, hne]

/-- The exponent as it is written, read again. -/
lemma exponent?_written (plus : Bool) (e : ℤ) :
    exponent? ('e' :: ((if e < 0 then ['-'] else if plus then ['+'] else []) ++
      Nat.toDigits 10 e.natAbs)) = some e := by
  by_cases hneg : e < 0
  · have habs : -(e.natAbs : ℤ) = e := by omega
    have hsign : splitSign (['-'] ++ Nat.toDigits 10 e.natAbs) = (true, Nat.toDigits 10 e.natAbs) :=
      rfl
    rw [if_pos hneg, exponent?_cons hsign, if_pos rfl, habs]
  · have habs : (e.natAbs : ℤ) = e := by omega
    have hsign : splitSign ((if plus then ['+'] else []) ++ Nat.toDigits 10 e.natAbs) =
        (false, Nat.toDigits 10 e.natAbs) := by
      cases plus with
      | true => rfl
      | false =>
        have h := splitSign_of_isDigit Nat.toDigits_ne_nil
          (fun c hc => isDigit_of_mem_toDigits (n := e.natAbs) hc) []
        rwa [List.append_nil] at h
    rw [if_neg hneg, exponent?_cons hsign, if_neg Bool.false_ne_true, habs]

variable {n : ℕ} {k leading : ℤ} (hn : 0 < n)
  (hleading : leading = k + (Nat.toDigits 10 n).length - 1)

include hn hleading

/-- Written without an exponent.  The point stands before, behind or among the digits. -/
lemma exists_spells_positional (keepPoint : Bool) :
    ∃ w d e, Spells w (positionalChars keepPoint (Nat.toDigits 10 n) leading) d e ∧
      (d : ℚ) * 10 ^ e = n * 10 ^ k ∧ (w.length = 1 ∨ (w.length : ℤ) - 1 = leading) := by
  have hdigits : ∀ c ∈ Nat.toDigits 10 n, c.isDigit = true := fun c hc => isDigit_of_mem_toDigits hc
  have hcount : 0 < (Nat.toDigits 10 n).length := Nat.length_toDigits_pos
  have hhead := head?_toDigits_ne hn
  have hvalue := ofDigits_toDigits n
  generalize Nat.toDigits 10 n = ds at *
  have hne : ds ≠ [] := List.ne_nil_of_length_pos hcount
  by_cases hneg : leading < 0
  · -- before the digits, with zeros between
    have hzeros := isDigit_of_mem_zeros (m := (-leading - 1).toNat)
    have hchars : positionalChars keepPoint ds leading =
        ['0'] ++ '.' :: (List.replicate (-leading - 1).toNat '0' ++ ds) := by
      simp [positionalChars, hneg]
    rw [hchars]
    refine ⟨_, _, _, .point_nil isWhole_zero (by simp [hne])
      (isDigit_of_mem_append hzeros hdigits), ?_, .inl rfl⟩
    have hlength : -((List.replicate (-leading - 1).toNat '0' ++ ds).length : ℤ) = k := by
      rw [List.length_append, List.length_replicate]
      omega
    rw [hlength, ofDigits_append, ofDigits_append, ofDigits_replicate_zero, hvalue]
    simp [ofDigits]
  · have hlast : leading + 1 - ds.length = k := by omega
    by_cases hlong : ds.length ≤ (leading + 1).toNat
    · -- behind the digits, with zeros between; a layout can leave it out
      have hzeros := isDigit_of_mem_zeros (m := k.toNat)
      have hall := isDigit_of_mem_append hdigits hzeros
      have hwhole : ofDigits (ds ++ List.replicate k.toNat '0') = n * 10 ^ k.toNat := by
        rw [ofDigits_append, ofDigits_replicate_zero, hvalue, List.length_replicate, Nat.add_zero]
      have hpow : ((n * 10 ^ k.toNat : ℕ) : ℚ) = n * 10 ^ k := by
        have hk : (k.toNat : ℤ) = k := by omega
        rw [← hk, zpow_natCast, Int.toNat_natCast]
        push_cast
        rfl
      have hw : IsWhole (ds ++ List.replicate k.toNat '0') :=
        .of_head? hall (List.head?_append_of_ne_nil ds hne) hne hhead
      have hlength : ((ds ++ List.replicate k.toNat '0').length : ℤ) - 1 = leading := by
        rw [List.length_append, List.length_replicate]
        omega
      cases keepPoint with
      | true =>
        have hchars : positionalChars true ds leading =
            (ds ++ List.replicate k.toNat '0') ++ '.' :: ['0'] := by
          simp [positionalChars, hneg, hlong, hlast]
        rw [hchars]
        refine ⟨_, _, _, .point_nil hw (by simp) isDigit_of_mem_zero, ?_, .inr hlength⟩
        rw [ofDigits_append, hwhole, ← hpow]
        simp [ofDigits]
      | false =>
        have hchars : positionalChars false ds leading = ds ++ List.replicate k.toNat '0' := by
          simp [positionalChars, hneg, hlong, hlast]
        rw [hchars]
        refine ⟨_, _, _, .whole_nil hw, ?_, .inr hlength⟩
        rw [hwhole, hpow, zpow_zero, mul_one]
    · -- among the digits
      have hchars : positionalChars keepPoint ds leading =
          ds.take (leading + 1).toNat ++ '.' :: ds.drop (leading + 1).toNat := by
        simp [positionalChars, hneg, hlong]
      have hw : IsWhole (ds.take (leading + 1).toNat) := by
        refine .of_head? (fun c hc => hdigits c (List.mem_of_mem_take hc)) ?_ hne hhead
        rw [List.head?_take, if_neg (by omega)]
      have hrest : ds.drop (leading + 1).toNat ≠ [] := by
        apply List.ne_nil_of_length_pos
        rw [List.length_drop]
        omega
      have hfirst : ((ds.take (leading + 1).toNat).length : ℤ) - 1 = leading := by
        rw [List.length_take]
        omega
      rw [hchars]
      refine ⟨_, _, _, .point_nil hw hrest (fun c hc => hdigits c (List.mem_of_mem_drop hc)), ?_,
        .inr hfirst⟩
      have hlength : -((ds.drop (leading + 1).toNat).length : ℤ) = k := by
        rw [List.length_drop]
        omega
      rw [hlength, List.take_append_drop, hvalue]

/-- Written with an exponent.  The point stands behind the first digit, if there are more. -/
lemma exists_spells_scientific (plus : Bool) :
    ∃ w d e, Spells w (scientificChars plus (Nat.toDigits 10 n) leading) d e ∧
      (d : ℚ) * 10 ^ e = n * 10 ^ k ∧ w.length = 1 := by
  have hdigits : ∀ c ∈ Nat.toDigits 10 n, c.isDigit = true := fun c hc => isDigit_of_mem_toDigits hc
  have hcount : 0 < (Nat.toDigits 10 n).length := Nat.length_toDigits_pos
  have hhead := head?_toDigits_ne hn
  have hvalue := ofDigits_toDigits n
  have hexponent := exponent?_written plus leading
  simp only [scientificChars, List.append_assoc, List.cons_append]
  generalize Nat.toDigits 10 n = ds at *
  -- one digit alone has no point behind it
  match ds with
  | [] => cases hcount
  | [d] =>
    have hk : leading = k := by simpa using hleading
    have hw : IsWhole [d] := .of_head? hdigits rfl (by simp) hhead
    refine ⟨_, _, _, .whole hw hexponent, ?_, rfl⟩
    rw [hvalue, hk]
  | d :: e :: rest =>
    have hk : leading - ((e :: rest).length : ℕ) = k := by
      rw [List.length_cons] at hleading
      omega
    have hw : IsWhole [d] := by
      have hfirst : [d].head? = (d :: e :: rest).head? := rfl
      refine .of_head? (fun c hc => ?_) hfirst (by simp) hhead
      exact hdigits c (List.mem_append_left (e :: rest) hc)
    have hspells := Spells.point (f := e :: rest) hw (by simp)
      (fun c hc => hdigits c (List.mem_cons_of_mem d hc)) hexponent
    refine ⟨_, _, _, hspells, ?_, rfl⟩
    have happend : [d] ++ e :: rest = d :: e :: rest := rfl
    rw [happend, hvalue, hk]

omit hn hleading in
/-- A positive decimal, in whatever layout. -/
lemma Layout.exists_spells (layout : Layout) {s : Scaled} (hs : 0 < s.digits) :
    ∃ w d e, Spells w (layout.positiveChars s) d e ∧
      (d : ℚ) * 10 ^ e = s.digits * 10 ^ s.exponent ∧
      (w.length = 1 ∨ layout.positional (w.length - 1) = true) := by
  simp only [positiveChars]
  split_ifs with hpositional
  · obtain ⟨w, d, e, hspells, hvalue, hlength⟩ := exists_spells_positional hs rfl layout.keepPoint
    refine ⟨w, d, e, hspells, hvalue, hlength.imp_right fun h => ?_⟩
    rw [h]
    exact hpositional
  · obtain ⟨w, d, e, hspells, hvalue, hlength⟩ := exists_spells_scientific hs rfl layout.plus
    exact ⟨w, d, e, hspells, hvalue, .inl hlength⟩

end Layout

/-! ## Floating-point numbers -/

section Float

open Float.Model

variable {x : Float} {negative narrow : Bool} {M : ℕ} {E : ℤ}

/-- The text of a finite number: a minus or none, and a decimal that rounds to the number. -/
lemma Layout.exists_spells_render (layout : Layout)
    (hx : Binary.ofFloat x = .finite negative M E narrow) :
    ∃ text w d k, (layout.render x).toList = (if negative then '-' :: text else text) ∧
      Spells w text d k ∧ (w.length = 1 ∨ layout.positional (w.length - 1) = true) ∧
      (M = 0 ∧ d = 0 ∨ M ≠ 0 ∧ InInterval M E (d * 10 ^ k)) := by
  simp only [render, hx, String.toList_ofList]
  by_cases hM : M = 0
  · obtain ⟨k, hspells⟩ :
        ∃ k, Spells ['0'] (if layout.keepPoint then ['0', '.', '0'] else ['0']) 0 k := by
      cases layout.keepPoint with
      | true => exact ⟨_, .point_nil isWhole_zero (by simp) isDigit_of_mem_zero⟩
      | false => exact ⟨_, .whole_nil isWhole_zero⟩
    exact ⟨_, _, 0, k, by rw [if_pos hM], hspells, .inl rfl, .inl ⟨hM, rfl⟩⟩
  · have hp := parts_of_ofFloat hM hx
    have hinterval := shortest_inInterval hp.canonical hp.narrow_iff layout.tie
    obtain ⟨w, d, k, hspells, hvalue, hlength⟩ :=
      layout.exists_spells (hinterval.digits_pos hp.canonical hp.le)
    rw [← hvalue] at hinterval
    exact ⟨_, w, d, k, by rw [if_neg hM], hspells, hlength, .inr ⟨hM, hinterval⟩⟩

/-- A number is nearest to every decimal that rounds to it. -/
lemma eq_nearest (hx : Binary.ofFloat x = .finite negative M E narrow) {d : ℕ} {k : ℤ}
    (hd : M = 0 ∧ d = 0 ∨ M ≠ 0 ∧ InInterval M E (d * 10 ^ k)) :
    x = if negative then -nearest d k else nearest d k := by
  rcases hd with ⟨rfl, rfl⟩ | ⟨hM, hinterval⟩
  · have hnearest : nearest 0 k = 0 := if_pos rfl
    rw [hnearest]
    exact eq_zero_of_ofFloat hx
  · have hp := parts_of_ofFloat hM hx
    rw [nearest_eq hp.canonical hp.le hinterval, neg_pack hp.canonical hp.le]
    cases negative with
    | true => exact hp.pack
    | false => exact hp.pack

/-- **A finite number is read as it was written**, in every layout. -/
theorem Layout.parse?_render (layout : Layout)
    (hx : Binary.ofFloat x = .finite negative M E narrow) :
    parse? (layout.render x).toList = some x := by
  obtain ⟨text, w, d, k, htext, hspells, -, hvalue⟩ := layout.exists_spells_render hx
  rw [htext, hspells.parse? negative, ← eq_nearest hx hvalue]

end Float

end Critique.Decimal
