import Critique.Text.Utf8
import Mathlib.Data.List.Basic
import Mathlib.Tactic.SplitIfs

/-!
# Texts and their bytes

Writing a text as bytes loses nothing: the strict reading gives the text back (`decode?_encode`),
and it reads nothing but what was written like that (`decode?_eq_some_iff`).
It also keeps the order: two texts compare by code points as their bytes compare one by one
(`encode_lt_encode_iff`), so a list of names that ascends by code points ascends by bytes.

Both come from what happens to a single character.  Its bytes take the automaton from one start
state to the next and hand out that character, and the bytes of a smaller character come before
those of a greater one whatever follows either of them.
-/

namespace Critique.Text.Utf8

/-! ## One byte -/

lemma toNat_ofNat_of_lt {n : Nat} (h : n < 256) : (UInt8.ofNat n).toNat = n := by
  rw [UInt8.toNat_ofNat', Nat.mod_eq_of_lt h]

lemma ofNat_lt_ofNat_iff {m n : Nat} (hm : m < 256) (hn : n < 256) :
    UInt8.ofNat m < UInt8.ofNat n ↔ m < n := by
  rw [UInt8.lt_iff_toNat_lt, toNat_ofNat_of_lt hm, toNat_ofNat_of_lt hn]

lemma ofNat_eq_ofNat_iff {m n : Nat} (hm : m < 256) (hn : n < 256) :
    UInt8.ofNat m = UInt8.ofNat n ↔ m = n := by
  rw [← UInt8.toNat_inj, toNat_ofNat_of_lt hm, toNat_ofNat_of_lt hn]

lemma toNat_val_lt (c : Char) : c.val.toNat < 0x110000 := by
  rcases c.valid with h | ⟨-, h⟩
  · exact Nat.lt_trans h (by decide)
  · exact h

/-! ## Order -/

/-- The first place at which the bytes of two characters differ decides. -/
lemma utf8EncodeChar_append_lt {c d : Char} (h : c < d) (x y : List UInt8) :
    String.utf8EncodeChar c ++ x < String.utf8EncodeChar d ++ y := by
  have hlt : c.val.toNat < d.val.toNat := h
  have hc := toNat_val_lt c
  have hd := toNat_val_lt d
  rw [String.utf8EncodeChar.eq_1, String.utf8EncodeChar.eq_1]
  generalize c.val.toNat = m at *
  generalize d.val.toNat = n at *
  -- the digits of a code point in base 64, one from the other
  have hdigits : ∀ k : Nat, k / 4096 = k / 64 / 64 ∧ k / 262144 = k / 64 / 64 / 64 := by
    intro k
    simp only [Nat.div_div_eq_div_mul, Nat.reduceMul, and_self]
  obtain ⟨hm, hm'⟩ := hdigits m
  obtain ⟨hn, hn'⟩ := hdigits n
  have htop : m / 64 / 64 / 64 % 8 = m / 64 / 64 / 64 := Nat.mod_eq_of_lt (by omega)
  have htop' : n / 64 / 64 / 64 % 8 = n / 64 / 64 / 64 := Nat.mod_eq_of_lt (by omega)
  rw [hm, hm', hn, hn', htop, htop']
  split_ifs <;>
    simp (disch := omega) only [List.cons_append, List.nil_append, List.cons_lt_cons_iff,
      ofNat_lt_ofNat_iff, ofNat_eq_ofNat_iff] <;>
    omega

lemma flatMap_utf8EncodeChar_lt {cs ds : List Char} (h : cs < ds) :
    cs.flatMap String.utf8EncodeChar < ds.flatMap String.utf8EncodeChar := by
  induction cs generalizing ds with
  | nil =>
    cases ds with
    | nil => exact absurd h (List.not_lt_nil _)
    | cons d ds =>
      obtain ⟨b, bs, hb⟩ := List.exists_cons_of_ne_nil (String.utf8EncodeChar_ne_nil (c := d))
      rw [List.flatMap_nil, List.flatMap_cons, hb, List.cons_append]
      exact List.nil_lt_cons _ _
  | cons c cs ih =>
    cases ds with
    | nil => exact absurd h (List.not_lt_nil _)
    | cons d ds =>
      rw [List.flatMap_cons, List.flatMap_cons]
      rcases List.cons_lt_cons_iff.1 h with hlt | ⟨rfl, hlt⟩
      · exact utf8EncodeChar_append_lt hlt _ _
      · exact List.append_left_lt (ih hlt)

lemma encode_lt_encode {s t : String} (h : s < t) : encode s < encode t :=
  flatMap_utf8EncodeChar_lt (String.lt_iff.1 h)

/-- Texts are in the order of their bytes. -/
theorem encode_lt_encode_iff {s t : String} : encode s < encode t ↔ s < t := by
  refine ⟨fun h => ?_, encode_lt_encode⟩
  -- of two texts that differ one is less, and its bytes are less as well
  by_contra hnot
  by_cases hgt : t < s
  · exact List.lt_asymm h (encode_lt_encode hgt)
  · have heq : s = t := String.le_antisymm (String.not_lt.1 hgt) (String.not_lt.1 hnot)
    exact List.lt_irrefl _ (heq ▸ h)

/-! ## Reading back -/

lemma pieces_start_cons {b : UInt8} {state : State} (h : begin b = ([], state))
    (bs : List UInt8) : pieces .start (b :: bs) = pieces state bs := by
  simp only [pieces, feed, h, List.nil_append]

lemma pieces_inside_cons {n lo hi : Nat} (hlo : lo ≤ n) (hhi : n ≤ hi) (hn : n < 256)
    (acc more : Nat) (bs : List UInt8) :
    pieces (.inside acc (more + 1) lo hi) (UInt8.ofNat n :: bs) =
      pieces (.inside (acc * 64 + (n - 0x80)) more 0x80 0xBF) bs := by
  simp [pieces, feed, toNat_ofNat_of_lt hn, hlo, hhi]

lemma pieces_inside_last {n lo hi : Nat} (hlo : lo ≤ n) (hhi : n ≤ hi) (hn : n < 256)
    (acc : Nat) (bs : List UInt8) :
    pieces (.inside acc 0 lo hi) (UInt8.ofNat n :: bs) =
      some (Char.ofNat (acc * 64 + (n - 0x80))) :: pieces .start bs := by
  simp [pieces, feed, toNat_ofNat_of_lt hn, hlo, hhi]

/-- The first of two bytes. -/
lemma begin_two : ∀ a < 32, 2 ≤ a →
    begin (UInt8.ofNat (a + 192)) = ([], .inside a 0 0x80 0xBF) := by
  decide

/-- The first of three bytes: the next one must neither make the character shorter to write nor
make it half of a pair. -/
lemma begin_three : ∀ a < 16, begin (UInt8.ofNat (a + 224)) =
    ([], .inside a 1 (if a = 0 then 0xA0 else 0x80) (if a = 13 then 0x9F else 0xBF)) := by
  decide

/-- The first of four bytes: the next one must neither make the character shorter to write nor make
it greater than all characters. -/
lemma begin_four : ∀ a < 5, begin (UInt8.ofNat (a + 240)) =
    ([], .inside a 2 (if a = 0 then 0x90 else 0x80) (if a = 4 then 0x8F else 0xBF)) := by
  decide

/-- The bytes of a character take the automaton from start to start and hand out the character. -/
lemma pieces_utf8EncodeChar_append (c : Char) (bs : List UInt8) :
    pieces .start (String.utf8EncodeChar c ++ bs) = some c :: pieces .start bs := by
  have hc := toNat_val_lt c
  -- characters are no halves of pairs, which is what the second byte of three is asked about
  have hpair : ¬(0xD800 ≤ c.val.toNat ∧ c.val.toNat ≤ 0xDFFF) := by
    rintro ⟨hlo, hhi⟩
    rcases c.valid with h | ⟨h, -⟩ <;> omega
  have hofNat : Char.ofNat c.val.toNat = c := Char.ofNat_toNat c
  rw [String.utf8EncodeChar.eq_1]
  generalize c.val.toNat = n at *
  split_ifs with h1 h2 h3
  · have hbyte : (UInt8.ofNat n).toNat = n := toNat_ofNat_of_lt (by omega)
    simp [pieces, feed, begin, hbyte, hofNat, show n < 0x80 by omega]
  · have hn : n / 64 % 32 * 64 + (n % 64 + 128 - 0x80) = n := by omega
    simp only [List.cons_append, List.nil_append]
    rw [pieces_start_cons (begin_two _ (by omega) (by omega)),
      pieces_inside_last (by omega) (by omega) (by omega), hn, hofNat]
  · have hn :
        (n / 4096 % 16 * 64 + (n / 64 % 64 + 128 - 0x80)) * 64 + (n % 64 + 128 - 0x80) = n := by
      omega
    simp only [List.cons_append, List.nil_append]
    rw [pieces_start_cons (begin_three _ (by omega)),
      pieces_inside_cons (by split <;> omega) (by split <;> omega) (by omega),
      pieces_inside_last (by omega) (by omega) (by omega), hn, hofNat]
  · have hn : ((n / 262144 % 8 * 64 + (n / 4096 % 64 + 128 - 0x80)) * 64 +
        (n / 64 % 64 + 128 - 0x80)) * 64 + (n % 64 + 128 - 0x80) = n := by
      omega
    simp only [List.cons_append, List.nil_append]
    rw [pieces_start_cons (begin_four _ (by omega)),
      pieces_inside_cons (by split <;> omega) (by split <;> omega) (by omega),
      pieces_inside_cons (by omega) (by omega) (by omega),
      pieces_inside_last (by omega) (by omega) (by omega), hn, hofNat]

lemma pieces_encode (s : String) : pieces .start (encode s) = s.toList.map some := by
  rw [encode]
  induction s.toList with
  | nil => rfl
  | cons c cs ih => rw [List.flatMap_cons, pieces_utf8EncodeChar_append, ih, List.map_cons]

lemma mapM_id_eq_some_iff {ps : List Piece} {cs : List Char} :
    ps.mapM id = some cs ↔ ps = cs.map some := by
  induction ps generalizing cs with
  | nil => cases cs <;> simp
  | cons p ps ih =>
    cases p with
    | none => cases cs <;> simp
    | some c =>
      cases cs with
      | nil => simp [Option.bind_eq_some_iff]
      | cons d cs => simp [Option.bind_eq_some_iff, ih, and_comm]

lemma decode?_eq_some_iff_pieces {bytes : List UInt8} {s : String} :
    decode? bytes = some s ↔ pieces .start bytes = s.toList.map some := by
  rw [decode?, Option.map_eq_some_iff, ← mapM_id_eq_some_iff]
  constructor
  · rintro ⟨cs, hcs, rfl⟩
    rwa [String.toList_ofList]
  · intro h
    exact ⟨s.toList, h, String.ofList_toList⟩

/-- What is written is read back. -/
theorem decode?_encode (s : String) : decode? (encode s) = some s :=
  decode?_eq_some_iff_pieces.2 (pieces_encode s)

/-! ## What can be read -/

/-- Where the strict reading succeeds, the lenient one reads the same text. -/
lemma decodeLossy_of_decode? {bytes : List UInt8} {s : String} (h : decode? bytes = some s) :
    decodeLossy bytes = s := by
  rw [decodeLossy, decode?_eq_some_iff_pieces.1 h, List.map_map]
  simp [Function.comp_def]

/-- Where the first piece read inside a character is a character, the bytes go on with one in the
range that is waited for. -/
lemma exists_cons_of_pieces_inside {acc more lo hi : Nat} {bs : List UInt8} {c : Char}
    {ps : List Piece} (h : pieces (.inside acc more lo hi) bs = some c :: ps) :
    ∃ b rest, bs = b :: rest ∧ lo ≤ b.toNat ∧ b.toNat ≤ hi ∧
      (feed (.inside acc more lo hi) b).1 ++ pieces (feed (.inside acc more lo hi) b).2 rest =
        some c :: ps := by
  cases bs with
  | nil => simp [pieces] at h
  | cons b rest =>
    refine ⟨b, rest, rfl, ?_⟩
    rw [pieces] at h
    by_cases hrange : lo ≤ b.toNat ∧ b.toNat ≤ hi
    · exact ⟨hrange.1, hrange.2, h⟩
    · have hfeed : (decide (lo ≤ b.toNat) && decide (b.toNat ≤ hi)) = false := by
        simpa using hrange
      simp [feed, hfeed] at h

lemma toNat_val_ofNat {n : Nat} (h : n.isValidChar) : (Char.ofNat n).val.toNat = n := by
  rw [Char.ofNat, dif_pos h]
  rfl

lemma ofNat_eq_of_toNat {n : Nat} {b : UInt8} (h : b.toNat = n) : UInt8.ofNat n = b := by
  rw [← h, UInt8.ofNat_toNat]

/-- A byte that starts no character makes a malformed stretch. -/
lemma begin_eq_none {b : UInt8} (h : ¬ b.toNat < 0x80) (h2 : ¬ (0xC2 ≤ b.toNat ∧ b.toNat ≤ 0xDF))
    (h3 : ¬ (0xE0 ≤ b.toNat ∧ b.toNat ≤ 0xEF)) (h4 : ¬ (0xF0 ≤ b.toNat ∧ b.toNat ≤ 0xF4)) :
    begin b = ([none], .start) := by
  simp only [begin, Bool.and_eq_true, decide_eq_true_eq, beq_iff_eq]
  repeat rw [if_neg (by omega)]

/-- Bytes whose first piece is a character start with the bytes of that character, and the other
pieces are read behind them. -/
lemma exists_of_pieces_eq_cons {bytes : List UInt8} {c : Char} {ps : List Piece}
    (h : pieces .start bytes = some c :: ps) :
    ∃ rest, bytes = String.utf8EncodeChar c ++ rest ∧ pieces .start rest = ps := by
  obtain ⟨b, bs, rfl⟩ : ∃ b bs, bytes = b :: bs := by
    cases bytes with
    | nil => simp [pieces] at h
    | cons b bs => exact ⟨b, bs, rfl⟩
  -- The first byte says how many there are, and each of the others adds six bits.
  by_cases h1 : b.toNat < 0x80
  · have hbegin : begin b = ([some (Char.ofNat b.toNat)], .start) := by simp [begin, h1]
    simp only [pieces, feed, hbegin, List.cons_append, List.nil_append, List.cons.injEq,
      Option.some.injEq] at h
    obtain ⟨rfl, hrest⟩ := h
    refine ⟨bs, ?_, hrest⟩
    rw [String.utf8EncodeChar.eq_1, toNat_val_ofNat (.inl (by omega)), if_pos (by omega),
      UInt8.ofNat_toNat]
    rfl
  by_cases h2 : 0xC2 ≤ b.toNat ∧ b.toNat ≤ 0xDF
  · obtain ⟨a, ha⟩ : ∃ a, b.toNat = a + 192 := ⟨b.toNat - 192, by omega⟩
    have hbegin := begin_two a (by omega) (by omega)
    rw [ofNat_eq_of_toNat ha] at hbegin
    rw [pieces_start_cons hbegin] at h
    obtain ⟨b₂, rest, rfl, hlo, hhi, h⟩ := exists_cons_of_pieces_inside h
    simp only [feed, hlo, hhi, decide_true, Bool.and_self, if_true, List.cons_append,
      List.nil_append, List.cons.injEq, Option.some.injEq] at h
    obtain ⟨rfl, hrest⟩ := h
    refine ⟨rest, ?_, hrest⟩
    rw [String.utf8EncodeChar.eq_1, toNat_val_ofNat (.inl (by omega)), if_neg (by omega),
      if_pos (by omega), ofNat_eq_of_toNat (b := b) (by omega),
      ofNat_eq_of_toNat (b := b₂) (by omega)]
    rfl
  by_cases h3 : 0xE0 ≤ b.toNat ∧ b.toNat ≤ 0xEF
  · obtain ⟨a, ha⟩ : ∃ a, b.toNat = a + 224 := ⟨b.toNat - 224, by omega⟩
    have hbegin := begin_three a (by omega)
    rw [ofNat_eq_of_toNat ha] at hbegin
    rw [pieces_start_cons hbegin] at h
    obtain ⟨b₂, bs, rfl, hlo₂, hhi₂, h⟩ := exists_cons_of_pieces_inside h
    simp only [feed, hlo₂, hhi₂, decide_true, Bool.and_self, if_true, List.nil_append] at h
    obtain ⟨b₃, rest, rfl, hlo₃, hhi₃, h⟩ := exists_cons_of_pieces_inside h
    simp only [feed, hlo₃, hhi₃, decide_true, Bool.and_self, if_true, List.cons_append,
      List.nil_append, List.cons.injEq, Option.some.injEq] at h
    obtain ⟨rfl, hrest⟩ := h
    have hlower : 0x80 ≤ b₂.toNat ∧ (a = 0 → 0xA0 ≤ b₂.toNat) := by split_ifs at hlo₂ <;> omega
    have hupper : b₂.toNat ≤ 0xBF ∧ (a = 13 → b₂.toNat ≤ 0x9F) := by split_ifs at hhi₂ <;> omega
    refine ⟨rest, ?_, hrest⟩
    clear hlo₂ hhi₂
    rw [String.utf8EncodeChar.eq_1, toNat_val_ofNat (by omega), if_neg (by omega),
      if_neg (by omega), if_pos (by omega), ofNat_eq_of_toNat (b := b) (by omega),
      ofNat_eq_of_toNat (b := b₂) (by omega), ofNat_eq_of_toNat (b := b₃) (by omega)]
    rfl
  by_cases h4 : 0xF0 ≤ b.toNat ∧ b.toNat ≤ 0xF4
  · obtain ⟨a, ha⟩ : ∃ a, b.toNat = a + 240 := ⟨b.toNat - 240, by omega⟩
    have hbegin := begin_four a (by omega)
    rw [ofNat_eq_of_toNat ha] at hbegin
    rw [pieces_start_cons hbegin] at h
    obtain ⟨b₂, bs, rfl, hlo₂, hhi₂, h⟩ := exists_cons_of_pieces_inside h
    simp only [feed, hlo₂, hhi₂, decide_true, Bool.and_self, if_true, List.nil_append] at h
    obtain ⟨b₃, bs, rfl, hlo₃, hhi₃, h⟩ := exists_cons_of_pieces_inside h
    simp only [feed, hlo₃, hhi₃, decide_true, Bool.and_self, if_true, List.nil_append] at h
    obtain ⟨b₄, rest, rfl, hlo₄, hhi₄, h⟩ := exists_cons_of_pieces_inside h
    simp only [feed, hlo₄, hhi₄, decide_true, Bool.and_self, if_true, List.cons_append,
      List.nil_append, List.cons.injEq, Option.some.injEq] at h
    obtain ⟨rfl, hrest⟩ := h
    have hlower : 0x80 ≤ b₂.toNat ∧ (a = 0 → 0x90 ≤ b₂.toNat) := by split_ifs at hlo₂ <;> omega
    have hupper : b₂.toNat ≤ 0xBF ∧ (a = 4 → b₂.toNat ≤ 0x8F) := by split_ifs at hhi₂ <;> omega
    refine ⟨rest, ?_, hrest⟩
    clear hlo₂ hhi₂
    rw [String.utf8EncodeChar.eq_1, toNat_val_ofNat (by omega), if_neg (by omega),
      if_neg (by omega), if_neg (by omega), ofNat_eq_of_toNat (b := b) (by omega),
      ofNat_eq_of_toNat (b := b₂) (by omega), ofNat_eq_of_toNat (b := b₃) (by omega),
      ofNat_eq_of_toNat (b := b₄) (by omega)]
    rfl
  · have hnone := begin_eq_none h1 h2 h3 h4
    simp [pieces, feed, hnone] at h

lemma pieces_inside_ne_nil (acc more lo hi : Nat) (bs : List UInt8) :
    pieces (.inside acc more lo hi) bs ≠ [] := by
  induction bs generalizing acc more lo hi with
  | nil => simp [pieces]
  | cons b bs ih =>
    rw [pieces, feed]
    split_ifs
    · cases more with
      | zero => simp
      | succ more => exact ih _ _ _ _
    · simp

lemma pieces_cons_ne_nil (b : UInt8) (bs : List UInt8) : pieces .start (b :: bs) ≠ [] := by
  rw [pieces, feed, begin]
  split_ifs <;> simp [pieces_inside_ne_nil]

/-- Bytes all of whose pieces are characters are the bytes of these characters. -/
lemma eq_flatMap_of_pieces {bytes : List UInt8} {cs : List Char}
    (h : pieces .start bytes = cs.map some) : bytes = cs.flatMap String.utf8EncodeChar := by
  induction cs generalizing bytes with
  | nil =>
    cases bytes with
    | nil => rfl
    | cons b bs => exact absurd h (pieces_cons_ne_nil b bs)
  | cons c cs ih =>
    obtain ⟨rest, rfl, hrest⟩ := exists_of_pieces_eq_cons h
    rw [List.flatMap_cons, ← ih hrest]

/-- The strict reading succeeds on the bytes of texts and on no others. -/
theorem decode?_eq_some_iff {bytes : List UInt8} {s : String} :
    decode? bytes = some s ↔ bytes = encode s :=
  ⟨fun h => eq_flatMap_of_pieces (decode?_eq_some_iff_pieces.1 h), fun h => h ▸ decode?_encode s⟩

end Critique.Text.Utf8
