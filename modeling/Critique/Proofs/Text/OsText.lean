import Critique.Proofs.Text.Utf8
import Critique.Text.OsText
import Mathlib.Data.List.Basic

/-!
# Names and their texts

Every text is the name of something, and a name is the bytes of at most one text
(`OsText.text?_eq_some_iff`).  A name that is shown as a text without U+FFFD in it is the bytes of
that text (`OsText.lossy_eq_iff`), so whoever compares what is shown with such a text compares
names.  The same holds for the first character, as long as that is a byte of its own
(`OsText.head?_lossy_eq_some_iff`).

What is shown with U+FFFD tells less: different names can be shown alike.
-/

namespace Critique

namespace Text.Utf8

/-! ## Characters of one byte -/

lemma utf8EncodeChar_of_lt {c : Char} (hc : c.val.toNat < 0x80) :
    String.utf8EncodeChar c = [UInt8.ofNat c.val.toNat] := by
  rw [String.utf8EncodeChar.eq_1, if_pos (by omega)]

/-- The byte of a character of one byte is in no other character. -/
lemma mem_utf8EncodeChar_iff {c d : Char} (hc : c.val.toNat < 0x80) :
    UInt8.ofNat c.val.toNat ∈ String.utf8EncodeChar d ↔ c = d := by
  constructor
  · intro h
    have hd := toNat_val_lt d
    rw [String.utf8EncodeChar.eq_1] at h
    -- all bytes of a longer character are from 80 on
    split_ifs at h with h1 h2 h3
    · rw [List.mem_singleton, ofNat_eq_ofNat_iff (by omega) (by omega)] at h
      exact Char.val_inj.1 (UInt32.toNat_inj.1 h)
    · simp only [List.mem_cons, List.not_mem_nil, or_false] at h
      rcases h with h | h <;> rw [ofNat_eq_ofNat_iff (by omega) (by omega)] at h <;> omega
    · simp only [List.mem_cons, List.not_mem_nil, or_false] at h
      rcases h with h | h | h <;> rw [ofNat_eq_ofNat_iff (by omega) (by omega)] at h <;> omega
    · simp only [List.mem_cons, List.not_mem_nil, or_false] at h
      rcases h with h | h | h | h <;>
        rw [ofNat_eq_ofNat_iff (by omega) (by omega)] at h <;> omega
  · rintro rfl
    rw [utf8EncodeChar_of_lt hc]
    exact List.mem_singleton_self _

lemma mem_encode_iff {c : Char} (hc : c.val.toNat < 0x80) {s : String} :
    UInt8.ofNat c.val.toNat ∈ encode s ↔ c ∈ s.toList := by
  simp only [encode, List.mem_flatMap, mem_utf8EncodeChar_iff hc]
  constructor
  · rintro ⟨_, hd, rfl⟩
    exact hd
  · intro h
    exact ⟨c, h, rfl⟩

/-! ## The lenient reading -/

/-- Where the lenient reading puts no U+FFFD, nothing is malformed. -/
lemma decodeLossy_eq_iff {bytes : List UInt8} {s : String} (h : '\uFFFD' ∉ s.toList) :
    decodeLossy bytes = s ↔ bytes = encode s := by
  constructor
  · intro hread
    rw [← decode?_eq_some_iff, decode?_eq_some_iff_pieces]
    have hlist : (pieces .start bytes).map (·.getD '\uFFFD') = s.toList := by
      rw [← hread, decodeLossy, String.toList_ofList]
    rw [← hlist] at h ⊢
    -- a malformed stretch would have put its U+FFFD there
    generalize pieces .start bytes = ps at h
    induction ps with
    | nil => rfl
    | cons p ps ih =>
      rw [List.map_cons, List.mem_cons, not_or] at h
      rw [List.map_cons, List.map_cons, ← ih h.2]
      cases p with
      | none => exact absurd rfl h.1
      | some c => rfl
  · rintro rfl
    exact decodeLossy_of_decode? (decode?_encode s)

/-- A text that is read leniently starts with a character of one byte exactly when the bytes do. -/
lemma head?_decodeLossy_eq_some_iff {c : Char} (hc : c.val.toNat < 0x80) {bytes : List UInt8} :
    (decodeLossy bytes).toList.head? = some c ↔
      bytes.head? = some (UInt8.ofNat c.val.toNat) := by
  rw [decodeLossy, String.toList_ofList, List.head?_map]
  constructor
  · intro h
    obtain ⟨p, hp, hpc⟩ := Option.map_eq_some_iff.1 h
    obtain ⟨ps, hps⟩ := List.head?_eq_some_iff.1 hp
    cases p with
    | none =>
      obtain rfl : '\uFFFD' = c := hpc
      exact absurd hc (by decide)
    | some d =>
      obtain rfl : d = c := hpc
      obtain ⟨rest, rfl, -⟩ := exists_of_pieces_eq_cons hps
      rw [utf8EncodeChar_of_lt hc]
      rfl
  · intro h
    obtain ⟨rest, rfl⟩ := List.head?_eq_some_iff.1 h
    have hchar := pieces_utf8EncodeChar_append c rest
    rw [utf8EncodeChar_of_lt hc, List.singleton_append] at hchar
    rw [hchar]
    rfl

end Text.Utf8

open Text

namespace OsText

variable {t : OsText} {s : String}

@[simp]
lemma bytes_append (s t : OsText) : (s ++ t).bytes = s.bytes ++ t.bytes := rfl

@[simp]
lemma bytes_ofText (s : String) : (ofText s).bytes = Utf8.encode s := rfl

@[simp]
lemma isEmpty_iff : t.isEmpty = true ↔ t = .empty := by
  rw [isEmpty, List.isEmpty_iff, OsText.ext_iff]
  rfl

lemma bytes_ne_nil_iff : t.bytes ≠ [] ↔ t ≠ .empty := by
  rw [ne_eq, ne_eq, OsText.ext_iff]
  rfl

/-- A name is the bytes of a text exactly when it has one. -/
lemma text?_eq_some_iff : t.text? = some s ↔ t = ofText s := by
  rw [text?, Utf8.decode?_eq_some_iff, OsText.ext_iff, bytes_ofText]

@[simp]
lemma text?_ofText (s : String) : (ofText s).text? = some s :=
  text?_eq_some_iff.2 rfl

@[simp]
lemma ofText_inj {s s' : String} : ofText s = ofText s' ↔ s = s' := by
  rw [← text?_eq_some_iff, text?_ofText, Option.some.injEq]

/-- What is shown without U+FFFD is the text of the name. -/
lemma lossy_eq_iff (h : '\uFFFD' ∉ s.toList) : t.lossy = s ↔ t = ofText s := by
  rw [lossy, Utf8.decodeLossy_eq_iff h, OsText.ext_iff, bytes_ofText]

@[simp]
lemma lossy_ofText (s : String) : (ofText s).lossy = s :=
  Utf8.decodeLossy_of_decode? (Utf8.decode?_encode s)

lemma head?_lossy_eq_some_iff {c : Char} (hc : c.val.toNat < 0x80) :
    t.lossy.toList.head? = some c ↔ t.bytes.head? = some (UInt8.ofNat c.val.toNat) :=
  Utf8.head?_decodeLossy_eq_some_iff hc

end OsText

end Critique
