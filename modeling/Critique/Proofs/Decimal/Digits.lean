import Critique.Yaml.Scalar
import Mathlib

/-!
# Decimal digits

The digits that a number is written with, read again.  No digit is a sign or the letter of a base,
and the first digit of a positive number is no zero, so that the digits of a number are read as that
number (`natural?_toDigits`).
-/

namespace Critique

namespace Decimal

lemma ofDigits_eq (ds : List Char) : ofDigits ds = Nat.ofDigitChars 10 ds 0 := by
  rw [Nat.ofDigitChars_eq_foldl]
  rfl

@[simp] lemma ofDigits_toDigits (n : Nat) : ofDigits (Nat.toDigits 10 n) = n := by
  rw [ofDigits_eq, Nat.ofDigitChars_ten_toDigits]

lemma isDigit_of_mem_toDigits {n : Nat} {c : Char} (h : c ∈ Nat.toDigits 10 n) : c.isDigit = true :=
  Nat.isDigit_of_mem_toDigits (by omega) (by omega) h

lemma digitChar_ne_zero {n : Nat} (hpos : 0 < n) (hlt : n < 10) : n.digitChar ≠ '0' := by
  have hall : ∀ k < 10, 0 < k → k.digitChar ≠ '0' := by decide
  exact hall n hlt hpos

/-- The first digit of a positive number is no zero. -/
lemma head?_toDigits_ne {n : Nat} (h : 0 < n) : (Nat.toDigits 10 n).head? ≠ some '0' := by
  induction n using Nat.strongRecOn with
  | ind n ih =>
    by_cases hlt : n < 10
    · rw [Nat.toDigits_of_lt_base hlt]
      simpa using digitChar_ne_zero h hlt
    · have hrest := ih (n / 10) (by omega) (by omega)
      rw [Nat.toDigits_of_base_le (by omega) (by omega)]
      cases hdigits : Nat.toDigits 10 (n / 10) with
      | nil => exact absurd hdigits Nat.toDigits_ne_nil
      | cons d ds => simpa [hdigits] using hrest

lemma digitCount_pos (n : Nat) : 0 < digitCount n :=
  Nat.length_toDigits_pos

lemma lt_ten_pow_digitCount (n : Nat) : n < 10 ^ digitCount n :=
  (Nat.length_toDigits_le_iff (by omega) (digitCount_pos n)).1 (Nat.le_refl _)

lemma ten_pow_digitCount_le {n : Nat} (h : 0 < n) : 10 ^ (digitCount n - 1) ≤ n := by
  by_cases hone : digitCount n = 1
  · rw [hone]
    exact h
  · have hpos := digitCount_pos n
    have hcount : (Nat.toDigits 10 n).length = digitCount n := rfl
    rw [← Nat.not_lt, ← Nat.length_toDigits_le_iff (by omega) (by omega)]
    omega

end Decimal

namespace Yaml

open Decimal

lemma digitValue?_of_isDigit {c : Char} (h : c.isDigit = true) :
    digitValue? 10 c = some (c.toNat - '0'.toNat) := by
  have hbounds : '0' ≤ c ∧ c ≤ '9' := by simpa [Char.isDigit, Char.le_def] using h
  have hlower : '0'.toNat ≤ c.toNat := hbounds.1
  have hupper : c.toNat ≤ '9'.toNat := hbounds.2
  have hvalue : c.toNat - '0'.toNat < 10 := by
    have : '9'.toNat = '0'.toNat + 9 := rfl
    omega
  simp only [digitValue?, hbounds, decide_true, Bool.and_self, if_true, if_pos hvalue]

/-- Digits are read as the number that they write. -/
lemma digitsNumber?_eq {ds : List Char} (hne : ds ≠ []) (h : ∀ c ∈ ds, c.isDigit = true) :
    digitsNumber? 10 ds = some (ofDigits ds) := by
  have hfold : ∀ (ds : List Char) (start : Nat), (∀ c ∈ ds, c.isDigit = true) →
      ds.foldlM (fun n c => (digitValue? 10 c).map fun d => 10 * n + d) start =
        some (ds.foldl (fun n d => 10 * n + (d.toNat - '0'.toNat)) start) := by
    intro ds
    induction ds with
    | nil => exact fun start _ => rfl
    | cons c ds ih =>
      intro start h
      rw [List.foldlM_cons, digitValue?_of_isDigit (h c List.mem_cons_self)]
      exact ih _ fun d hd => h d (List.mem_cons_of_mem _ hd)
  rw [digitsNumber?, if_neg (by simpa using hne)]
  exact hfold ds 0 h

section Head

variable {ds : List Char} (h : ∀ c ∈ ds, c.isDigit = true)

include h

lemma notMem_of_isDigit {c : Char} (hc : c.isDigit = false) : c ∉ ds := by
  intro hmem
  simp [h c hmem] at hc

lemma dropPlus_of_isDigit : dropPlus ds = ds := by
  unfold dropPlus
  split
  · exact absurd List.mem_cons_self (notMem_of_isDigit h (c := '+') (by decide))
  · rfl

lemma dropSign_of_isDigit : dropSign ds = ds := by
  unfold dropSign
  split
  · exact absurd List.mem_cons_self (notMem_of_isDigit h (c := '+') (by decide))
  · exact absurd List.mem_cons_self (notMem_of_isDigit h (c := '-') (by decide))
  · rfl

lemma splitBase_of_isDigit : splitBase ds = none := by
  unfold splitBase
  split
  · exact absurd (by simp) (notMem_of_isDigit h (c := 'x') (by decide))
  · exact absurd (by simp) (notMem_of_isDigit h (c := 'o') (by decide))
  · exact absurd (by simp) (notMem_of_isDigit h (c := 'b') (by decide))
  · rfl

end Head

lemma isZeroPadded_toDigits (n : Nat) : isZeroPadded (Nat.toDigits 10 n) = false := by
  unfold isZeroPadded
  rw [dropSign_of_isDigit fun c hc => isDigit_of_mem_toDigits hc]
  split
  · rename_i d ds heq
    have hlong : ¬ n < 10 := by
      intro hlt
      simpa [Nat.toDigits_of_lt_base hlt] using congrArg List.length heq
    exact absurd (by rw [heq]; rfl) (head?_toDigits_ne (n := n) (by omega))
  · rfl

/-- The digits of a number are read as that number. -/
lemma natural?_toDigits {n bound : Nat} (h : n < bound) :
    natural? bound (Nat.toDigits 10 n) = some n := by
  have hdigits : ∀ c ∈ Nat.toDigits 10 n, c.isDigit = true := fun c hc => isDigit_of_mem_toDigits hc
  simp only [natural?, dropPlus_of_isDigit hdigits, splitBase_of_isDigit hdigits,
    isZeroPadded_toDigits, digitsNumber?_eq Nat.toDigits_ne_nil hdigits, ofDigits_toDigits]
  simp [h]

end Yaml

end Critique
