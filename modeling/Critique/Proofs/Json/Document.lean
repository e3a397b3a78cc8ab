import Critique.Json.Printer
import Critique.Proofs.Json.Number

/-!
# JSON documents, written and read again

A document that can be written is read again (`parse?_pretty`): its texts, whole numbers, lists and
objects come back as they were, and each floating-point number comes back as what its own text is
read as (`Json.reread`).
-/

namespace Critique.Json

open Decimal

/-! ## White space -/

/-- Is the character passed over between the parts of a document? -/
def isSpace (c : Char) : Bool :=
  c == ' ' || c == '\n' || c == '\t' || c == '\r'

lemma skipSpace_eq (cs : List Char) : skipSpace cs = cs.dropWhile isSpace := rfl

lemma skipSpace_cons {c : Char} (hc : isSpace c = false) (cs : List Char) :
    skipSpace (c :: cs) = c :: cs := by
  rw [skipSpace_eq, List.dropWhile_cons_of_neg (by simp [hc])]

@[simp] lemma skipSpace_newLine (level : ℕ) (cs : List Char) :
    skipSpace (newLine level ++ cs) = skipSpace cs := by
  have hall : ∀ c ∈ newLine level, isSpace c = true := by
    intro c hc
    rcases List.mem_cons.1 hc with rfl | hc
    · rfl
    · rw [List.eq_of_mem_replicate hc]
      rfl
  rw [skipSpace_eq, List.dropWhile_append_of_pos hall, ← skipSpace_eq]

@[simp] lemma skipSpace_skipSpace (cs : List Char) : skipSpace (skipSpace cs) = skipSpace cs :=
  List.dropWhile_idempotent isSpace cs

/-! ## Strings -/

/-- The unit that a character is written as. -/
def unitOf (c : Char) : StringUnit :=
  if c.toNat < 0x20 ∧ c ∉ ['\x08', '\x0C', '\n', '\r', '\t'] then .code c.toNat else .char c

lemma hexDigit?_hexChar {n : ℕ} (h : n < 16) : hexDigit? (hexChar n) = some n := by
  have hall : ∀ n < 16, hexDigit? (hexChar n) = some n := by decide
  exact hall n h

lemma units?_shortEscape {e c : Char} (he : shortEscape? e = some c) (cs : List Char) :
    units? ('\\' :: e :: cs) = (units? cs).map fun p => (.char c :: p.1, p.2) := by
  have hu : e ≠ 'u' := by
    rintro rfl
    cases he
  rw [units?.eq_4 _ _ (by simp [hu]), he]
  cases units? cs with
  | none => rfl
  | some p => rfl

lemma units?_plain {c : Char} (hquote : c ≠ '"') (hslash : c ≠ '\\') (hc : ¬ c.toNat < 0x20)
    (cs : List Char) : units? (c :: cs) = (units? cs).map fun p => (.char c :: p.1, p.2) := by
  rw [units?.eq_5 c cs hquote (by simp [hslash]) (by simp [hslash]), if_neg (by simp [hc, hslash])]
  cases units? cs with
  | none => rfl
  | some p => rfl

lemma units?_escapeChar (c : Char) (cs : List Char) :
    units? (escapeChar c ++ cs) = (units? cs).map fun p => (unitOf c :: p.1, p.2) := by
  unfold escapeChar
  split
  · exact units?_shortEscape rfl cs
  · exact units?_shortEscape rfl cs
  · exact units?_shortEscape rfl cs
  · exact units?_shortEscape rfl cs
  · exact units?_shortEscape rfl cs
  · exact units?_shortEscape rfl cs
  · exact units?_shortEscape rfl cs
  · -- no short escape: a control character is written by its code, any other as it is
    rename_i hquote hslash hb hf hn hr ht
    split_ifs with hcontrol
    · have hunit : unitOf c = .code c.toNat :=
        if_pos ⟨hcontrol, by simpa using ⟨hb, hf, hn, hr, ht⟩⟩
      have hvalue : ((0 * 16 + 0) * 16 + c.toNat / 16) * 16 + c.toNat % 16 = c.toNat := by omega
      have hzero : hexDigit? '0' = some 0 := rfl
      simp only [List.cons_append, List.nil_append]
      rw [hunit, units?.eq_3, hzero, hexDigit?_hexChar (by omega), hexDigit?_hexChar (by omega)]
      simp only [Option.bind_eq_bind, Option.bind_some, hvalue]
      cases units? cs with
      | none => rfl
      | some p => rfl
    · have hunit : unitOf c = .char c := if_neg (by simp [hcontrol])
      rw [hunit]
      exact units?_plain hquote hslash hcontrol cs

lemma units?_escaped (s rest : List Char) :
    units? (s.flatMap escapeChar ++ '"' :: rest) = some (s.map unitOf, rest) := by
  induction s with
  | nil => rfl
  | cons c s ih =>
    rw [List.flatMap_cons, List.append_assoc, units?_escapeChar, ih]
    rfl

/-- A numeric escape that is no half of a character. -/
lemma joinUnits?_code {n : ℕ} (hn : n < 0xD800) (us : List StringUnit) :
    joinUnits? (.code n :: us) = (joinUnits? us).map (Char.ofNat n :: ·) := by
  have hhigh : ¬ 0xD800 ≤ n := by omega
  have hlow : ¬ 0xDC00 ≤ n := by omega
  match us with
  | [] => simp [joinUnits?, hhigh]
  | .char c :: us => simp [joinUnits?, hhigh]
  | .code lo :: us => simp [joinUnits?, hhigh, hlow]

lemma joinUnits?_map_unitOf (s : List Char) : joinUnits? (s.map unitOf) = some s := by
  induction s with
  | nil => rfl
  | cons c s ih =>
    rw [List.map_cons]
    by_cases hc : c.toNat < 0x20 ∧ c ∉ ['\x08', '\x0C', '\n', '\r', '\t']
    · have hunit : unitOf c = .code c.toNat := if_pos hc
      rw [hunit, joinUnits?_code (by omega), ih, Char.ofNat_toNat]
      rfl
    · have hunit : unitOf c = .char c := if_neg hc
      rw [hunit, joinUnits?, ih]
      rfl

lemma unitsText?_map_unitOf (s : String) : unitsText? (s.toList.map unitOf) = some s := by
  rw [unitsText?, joinUnits?_map_unitOf, Option.map_some, String.ofList_toList]

/-- A string is read as it was written. -/
lemma units?_stringChars (s : String) (rest : List Char) :
    ∃ cs, stringChars s ++ rest = '"' :: cs ∧ units? cs = some (s.toList.map unitOf, rest) := by
  refine ⟨s.toList.flatMap escapeChar ++ '"' :: rest, ?_, units?_escaped _ _⟩
  simp [stringChars]

/-! ## Values -/

/-- Documents that can be written: whole numbers have 64 bits, other numbers are finite, and nothing
is unreadable. -/
inductive Writable : Json → Prop
  | null : Writable .null
  | bool (b : Bool) : Writable (.bool b)
  | num {n : Number} (hn : n.Writable) : Writable (.num n)
  | str (s : String) : Writable (.str s)
  | arr {items : List Json} (hitems : ∀ v ∈ items, Writable v) : Writable (.arr items)
  | obj {fields : List (String × Json)} (hfields : ∀ f ∈ fields, Writable f.2) :
      Writable (.obj fields)

mutual

/-- A document with its numbers changed. -/
def mapNumbers (g : Number → Number) : Json → Json
  | .num n => .num (g n)
  | .arr items => .arr (mapItems g items)
  | .obj fields => .obj (mapFields g fields)
  | .null => .null
  | .bool b => .bool b
  | .str s => .str s
  | .unreadable => .unreadable

/-- Items with their numbers changed. -/
def mapItems (g : Number → Number) : List Json → List Json
  | [] => []
  | v :: vs => v.mapNumbers g :: mapItems g vs

/-- Fields with their numbers changed. -/
def mapFields (g : Number → Number) : List (String × Json) → List (String × Json)
  | [] => []
  | (name, v) :: fs => (name, v.mapNumbers g) :: mapFields g fs

end

mutual

lemma mapNumbers_id (v : Json) : v.mapNumbers id = v := by
  cases v with
  | arr items => rw [mapNumbers, mapItems_id]
  | obj fields => rw [mapNumbers, mapFields_id]
  | null => rfl
  | bool b => rfl
  | num n => rfl
  | str s => rfl
  | unreadable => rfl

lemma mapItems_id (vs : List Json) : mapItems id vs = vs := by
  cases vs with
  | nil => rfl
  | cons v vs => rw [mapItems, mapNumbers_id v, mapItems_id vs]

lemma mapFields_id (fs : List (String × Json)) : mapFields id fs = fs := by
  match fs with
  | [] => rfl
  | (name, v) :: fs => rw [mapFields, mapNumbers_id v, mapFields_id fs]

end

lemma mapItems_eq_map (g : Number → Number) (vs : List Json) :
    mapItems g vs = vs.map (mapNumbers g) := by
  induction vs with
  | nil => rfl
  | cons v vs ih => rw [mapItems, ih, List.map_cons]

lemma mapFields_eq_map (g : Number → Number) (fs : List (String × Json)) :
    mapFields g fs = fs.map fun f => (f.1, f.2.mapNumbers g) := by
  induction fs with
  | nil => rfl
  | cons f fs ih => rw [mapFields, ih, List.map_cons]

/-- What the text of a document is read as: every number is what its own text is read as. -/
def reread (v : Json) : Json :=
  v.mapNumbers Number.reread

/-- Is the text of a value read as that value, wherever it stands?  It is enough that the depth is
the length of the text. -/
def ReadBack (v : Json) : Prop :=
  ∀ level depth rest, Follows rest → (prettyChars level v).length ≤ depth →
    value? depth (prettyChars level v ++ rest) = some (v.reread, rest)

section Values

variable {depth level : ℕ} {cs rest : List Char}

@[simp] lemma value?_skipSpace : value? depth (skipSpace cs) = value? depth cs := by
  cases depth with
  | zero => rfl
  | succ depth => simp only [value?, skipSpace_skipSpace]

@[simp] lemma items?_skipSpace : items? depth (skipSpace cs) = items? depth cs := by
  cases depth with
  | zero => rfl
  | succ depth => simp only [items?, value?_skipSpace]

@[simp] lemma fields?_skipSpace : fields? depth (skipSpace cs) = fields? depth cs := by
  cases depth with
  | zero => rfl
  | succ depth => simp only [fields?, skipSpace_skipSpace]

lemma value?_newLine : value? depth (newLine level ++ cs) = value? depth cs := by
  rw [← value?_skipSpace, skipSpace_newLine, value?_skipSpace]

lemma value?_space : value? depth (' ' :: cs) = value? depth cs := by
  have hskip : skipSpace (' ' :: cs) = skipSpace cs := rfl
  rw [← value?_skipSpace, hskip, value?_skipSpace]

lemma follows_newLine : Follows (newLine level ++ cs) := by
  intro c hc
  obtain rfl : '\n' = c := Option.some.inj hc
  decide

lemma follows_cons {c : Char} (hc : c.isDigit = false ∧ c ≠ '.' ∧ c ≠ 'e' ∧ c ≠ 'E') :
    Follows (c :: cs) := by
  intro c' hc'
  obtain rfl : c = c' := Option.some.inj hc'
  exact hc

/-! ### One step of each reader -/

lemma value?_of_digit {c : Char} (hc : c.isDigit = true ∨ c = '-') :
    value? (depth + 1) (c :: cs) = (literal? (c :: cs)).map fun p => (ofLiteral p.1, p.2) := by
  have hne : ∀ d : Char, d.isDigit = false → d ≠ '-' → c ≠ d := by
    rintro d hd hminus rfl
    rcases hc with hc | hc
    · rw [hc] at hd
      cases hd
    · exact hminus hc
  have hspace : isSpace c = false := by
    simp [isSpace, hne ' ' rfl (by decide), hne '\n' rfl (by decide), hne '\t' rfl (by decide),
      hne '\r' rfl (by decide)]
  rw [value?, skipSpace_cons hspace]
  split
  · exact absurd (List.cons.inj ‹_›).1 (hne 'n' rfl (by decide))
  · exact absurd (List.cons.inj ‹_›).1 (hne 't' rfl (by decide))
  · exact absurd (List.cons.inj ‹_›).1 (hne 'f' rfl (by decide))
  · exact absurd (List.cons.inj ‹_›).1 (hne '"' rfl (by decide))
  · exact absurd (List.cons.inj ‹_›).1 (hne '[' rfl (by decide))
  · exact absurd (List.cons.inj ‹_›).1 (hne '\x7b' rfl (by decide))
  · rfl

lemma value?_arr (hcs : (skipSpace cs).head? ≠ some ']') :
    value? (depth + 1) ('[' :: cs) = (items? depth cs).map fun p => (.arr p.1, p.2) := by
  simp only [value?, skipSpace_cons (c := '[') rfl]
  split
  · rename_i heq
    exact absurd (by rw [heq]; rfl) hcs
  · rw [items?_skipSpace]

lemma value?_obj (hcs : (skipSpace cs).head? ≠ some '\x7d') :
    value? (depth + 1) ('\x7b' :: cs) = (fields? depth cs).map fun p => (ofFields p.1, p.2) := by
  simp only [value?, skipSpace_cons (c := '\x7b') rfl]
  split
  · rename_i heq
    exact absurd (by rw [heq]; rfl) hcs
  · rw [fields?_skipSpace]

section Steps

variable {v : Json} {after : List Char} (hv : value? depth cs = some (v, rest))

include hv

lemma items?_last (hrest : skipSpace rest = ']' :: after) :
    items? (depth + 1) cs = some ([v], after) := by
  simp only [items?, hv, hrest]

lemma items?_cons (hrest : skipSpace rest = ',' :: after) :
    items? (depth + 1) cs = (items? depth after).map fun p => (v :: p.1, p.2) := by
  simp only [items?, hv, hrest]

variable {text named behind : List Char} {name : List StringUnit}
  (htext : skipSpace text = '"' :: named) (hname : units? named = some (name, behind))
  (hcolon : skipSpace behind = ':' :: cs)

include htext hname hcolon

lemma fields?_last (hrest : skipSpace rest = '\x7d' :: after) :
    fields? (depth + 1) text = some ([(name, v)], after) := by
  simp only [fields?, htext, hname, hcolon, hv, hrest]

lemma fields?_cons (hrest : skipSpace rest = ',' :: after) :
    fields? (depth + 1) text = (fields? depth after).map fun p => ((name, v) :: p.1, p.2) := by
  simp only [fields?, htext, hname, hcolon, hv, hrest]

end Steps

end Values

/-! ### From the parts to the whole -/

/-- The text of a value starts neither with white space nor with a closing bracket. -/
lemma Writable.exists_prettyChars {v : Json} (h : Writable v) (level : ℕ) :
    ∃ c cs, prettyChars level v = c :: cs ∧ isSpace c = false ∧ c ≠ ']' := by
  cases h with
  | null => exact ⟨'n', _, rfl, rfl, by decide⟩
  | bool b =>
    cases b with
    | true => exact ⟨'t', _, rfl, rfl, by decide⟩
    | false => exact ⟨'f', _, rfl, rfl, by decide⟩
  | num hn =>
    obtain ⟨c, cs, hcs, hc⟩ := Number.exists_render_eq_cons hn
    refine ⟨c, cs, hcs, ?_⟩
    rcases hc with hc | rfl
    · constructor
      · rw [← Bool.not_eq_true]
        intro hspace
        simp only [isSpace, Bool.or_eq_true, beq_iff_eq] at hspace
        rcases hspace with ((rfl | rfl) | rfl) | rfl <;> cases hc
      · rintro rfl
        cases hc
    · decide
  | str s => exact ⟨'"', _, rfl, rfl, by decide⟩
  | @arr items hitems =>
    cases items with
    | nil => exact ⟨'[', _, rfl, rfl, by decide⟩
    | cons v vs => exact ⟨'[', _, rfl, rfl, by decide⟩
  | @obj fields hfields =>
    cases fields with
    | nil => exact ⟨'\x7b', _, rfl, rfl, by decide⟩
    | cons f fs => exact ⟨'\x7b', _, rfl, rfl, by decide⟩

section Induction

variable {depth level : ℕ} {rest : List Char}

lemma items?_prettyItems {items : List Json} (hne : items ≠ [])
    (hback : ∀ v ∈ items, ReadBack v) (hdepth : (prettyItems level items).length ≤ depth)
    (below : ℕ) :
    items? depth (prettyItems level items ++ (newLine below ++ ']' :: rest)) =
      some (mapItems Number.reread items, rest) := by
  induction items generalizing depth with
  | nil => exact absurd rfl hne
  | cons v vs ih =>
    have hv := hback v List.mem_cons_self
    -- a comma stands behind every item but the last; the depth pays for each reader that is called
    cases vs with
    | nil =>
      simp only [prettyItems, newLine, List.length_append, List.length_cons] at hdepth
      obtain ⟨depth, rfl⟩ : ∃ d, depth = d + 1 := ⟨depth - 1, by omega⟩
      have hread : value? depth (prettyItems level [v] ++ (newLine below ++ ']' :: rest)) =
          some (v.reread, newLine below ++ ']' :: rest) := by
        rw [prettyItems, List.append_assoc, value?_newLine]
        exact hv level depth _ follows_newLine (by omega)
      refine items?_last hread ?_
      rw [skipSpace_newLine, skipSpace_cons rfl]
    | cons w vs =>
      simp only [prettyItems, newLine, List.length_append, List.length_cons] at hdepth
      obtain ⟨depth, rfl⟩ : ∃ d, depth = d + 1 := ⟨depth - 1, by omega⟩
      have hread : value? depth
          (prettyItems level (v :: w :: vs) ++ (newLine below ++ ']' :: rest)) =
          some (v.reread,
            ',' :: (prettyItems level (w :: vs) ++ (newLine below ++ ']' :: rest))) := by
        rw [prettyItems, List.append_assoc, List.append_assoc, value?_newLine]
        · exact hv level depth _ (follows_cons (by decide)) (by omega)
        · simp
      rw [items?_cons hread (skipSpace_cons rfl _),
        ih (by simp) (fun v hv => hback v (List.mem_cons_of_mem _ hv)) (by omega)]
      rfl

/-- The fields of an object as they are read, with their names in units. -/
def unitFields (fields : List (String × Json)) : List (List StringUnit × Json) :=
  fields.map fun f => (f.1.toList.map unitOf, f.2.reread)

lemma ofFields_unitFields (fields : List (String × Json)) :
    ofFields (unitFields fields) = .obj (mapFields Number.reread fields) := by
  have hnamed : (unitFields fields).mapM
      (fun f => (unitsText? f.1).map fun name => (name, f.2)) =
      some (mapFields Number.reread fields) := by
    induction fields with
    | nil => rfl
    | cons f fs ih =>
      rw [unitFields, List.map_cons, List.mapM_cons]
      rw [unitFields] at ih
      rw [unitsText?_map_unitOf, Option.map_some, ih]
      rfl
  simp only [ofFields, hnamed]

lemma fields?_prettyFields {fields : List (String × Json)} (hne : fields ≠ [])
    (hback : ∀ f ∈ fields, ReadBack f.2) (hdepth : (prettyFields level fields).length ≤ depth)
    (below : ℕ) :
    fields? depth (prettyFields level fields ++ (newLine below ++ '\x7d' :: rest)) =
      some (unitFields fields, rest) := by
  induction fields generalizing depth with
  | nil => exact absurd rfl hne
  | cons f fs ih =>
    obtain ⟨name, v⟩ := f
    have hv : ReadBack v := hback (name, v) List.mem_cons_self
    -- as for items, with a name and a colon in front of each value
    cases fs with
    | nil =>
      simp only [prettyFields, newLine, List.length_append, List.length_cons] at hdepth
      obtain ⟨depth, rfl⟩ : ∃ d, depth = d + 1 := ⟨depth - 1, by omega⟩
      obtain ⟨cs, hcs, hname⟩ := units?_stringChars name
        (':' :: ' ' :: (prettyChars level v ++ (newLine below ++ '\x7d' :: rest)))
      have hread : value? depth
          (' ' :: (prettyChars level v ++ (newLine below ++ '\x7d' :: rest))) =
          some (v.reread, newLine below ++ '\x7d' :: rest) := by
        rw [value?_space]
        exact hv level depth _ follows_newLine (by omega)
      refine fields?_last hread ?_ hname (skipSpace_cons rfl _) ?_
      · simp only [prettyFields, List.append_assoc, List.cons_append]
        rw [skipSpace_newLine, hcs, skipSpace_cons rfl]
      · rw [skipSpace_newLine, skipSpace_cons rfl]
    | cons g fs =>
      simp only [prettyFields, newLine, List.length_append, List.length_cons] at hdepth
      obtain ⟨depth, rfl⟩ : ∃ d, depth = d + 1 := ⟨depth - 1, by omega⟩
      obtain ⟨after, hafter⟩ :
          ∃ after, after = prettyFields level (g :: fs) ++ (newLine below ++ '\x7d' :: rest) :=
        ⟨_, rfl⟩
      obtain ⟨cs, hcs, hname⟩ := units?_stringChars name
        (':' :: ' ' :: (prettyChars level v ++ ',' :: after))
      have hread : value? depth (' ' :: (prettyChars level v ++ ',' :: after)) =
          some (v.reread, ',' :: after) := by
        rw [value?_space]
        exact hv level depth _ (follows_cons (by decide)) (by omega)
      have htext : skipSpace (prettyFields level ((name, v) :: g :: fs) ++
          (newLine below ++ '\x7d' :: rest)) = '"' :: cs := by
        simp only [prettyFields, List.append_assoc, List.cons_append]
        rw [← hafter, skipSpace_newLine, hcs, skipSpace_cons rfl]
      rw [fields?_cons hread htext hname (skipSpace_cons rfl _) (skipSpace_cons rfl _), hafter,
        ih (by simp) (fun f hf => hback f (List.mem_cons_of_mem _ hf)) (by omega)]
      rfl

end Induction

lemma head?_prettyItems {v : Json} (hv : Writable v) (level : ℕ) (vs : List Json)
    (tail : List Char) :
    (skipSpace (prettyItems level (v :: vs) ++ tail)).head? ≠ some ']' := by
  obtain ⟨c, cs, hcs, hspace, hc⟩ := hv.exists_prettyChars level
  obtain ⟨after, hafter⟩ : ∃ after, prettyItems level (v :: vs) = newLine level ++ c :: after := by
    cases vs with
    | nil => exact ⟨_, by rw [prettyItems, hcs]⟩
    | cons w vs =>
      refine ⟨cs ++ ',' :: prettyItems level (w :: vs), ?_⟩
      simp only [prettyItems, hcs, List.append_assoc, List.cons_append]
  rw [hafter, List.append_assoc, skipSpace_newLine, List.cons_append, skipSpace_cons hspace]
  simpa using hc

lemma head?_prettyFields (level : ℕ) (f : String × Json) (fs : List (String × Json))
    (tail : List Char) :
    (skipSpace (prettyFields level (f :: fs) ++ tail)).head? ≠ some '\x7d' := by
  obtain ⟨after, hafter⟩ : ∃ after,
      prettyFields level (f :: fs) = newLine level ++ '"' :: after := by
    obtain ⟨name, v⟩ := f
    cases fs with
    | nil =>
      simp only [prettyFields, stringChars, List.append_assoc, List.cons_append]
      exact ⟨_, rfl⟩
    | cons g fs =>
      simp only [prettyFields, stringChars, List.append_assoc, List.cons_append]
      exact ⟨_, rfl⟩
  rw [hafter, List.append_assoc, skipSpace_newLine, List.cons_append, skipSpace_cons rfl]
  simp

/-- No text is empty, so that the depth is not used up. -/
lemma Writable.readBack_of_succ {v : Json} (h : Writable v)
    (hread : ∀ level depth rest, Follows rest → (prettyChars level v).length ≤ depth + 1 →
      value? (depth + 1) (prettyChars level v ++ rest) = some (v.reread, rest)) : ReadBack v := by
  intro level depth rest hrest hdepth
  obtain ⟨c, cs, htext, -, -⟩ := h.exists_prettyChars level
  obtain ⟨depth, rfl⟩ : ∃ d, depth = d + 1 := by
    rw [htext, List.length_cons] at hdepth
    exact ⟨depth - 1, by omega⟩
  exact hread level depth rest hrest hdepth

/-- A list is read again when its items are. -/
lemma readBack_arr {items : List Json} (hitems : ∀ v ∈ items, Writable v)
    (ih : ∀ v ∈ items, ReadBack v) : ReadBack (.arr items) := by
  refine (Writable.arr hitems).readBack_of_succ fun level depth rest _ hdepth => ?_
  cases items with
  | nil =>
    show value? (depth + 1) ('[' :: ']' :: rest) = _
    simp only [value?, skipSpace_cons (c := '[') rfl, skipSpace_cons (c := ']') rfl]
    rfl
  | cons v vs =>
    have hhead := head?_prettyItems (hitems v List.mem_cons_self) (level + 1) vs
      (newLine level ++ ']' :: rest)
    have htext : prettyChars level (.arr (v :: vs)) ++ rest =
        '[' :: (prettyItems (level + 1) (v :: vs) ++ (newLine level ++ ']' :: rest)) := by
      simp [prettyChars]
    simp only [prettyChars, List.length_append, List.length_cons] at hdepth
    rw [htext, value?_arr hhead, items?_prettyItems (by simp) ih (by omega)]
    rfl

/-- A record is read again when the values of its fields are. -/
lemma readBack_obj {fields : List (String × Json)} (hfields : ∀ f ∈ fields, Writable f.2)
    (ih : ∀ f ∈ fields, ReadBack f.2) : ReadBack (.obj fields) := by
  refine (Writable.obj hfields).readBack_of_succ fun level depth rest _ hdepth => ?_
  cases fields with
  | nil =>
    show value? (depth + 1) ('\x7b' :: '\x7d' :: rest) = _
    simp only [value?, skipSpace_cons (c := '\x7b') rfl, skipSpace_cons (c := '\x7d') rfl]
    rfl
  | cons f fs =>
    have hhead := head?_prettyFields (level + 1) f fs (newLine level ++ '\x7d' :: rest)
    have htext : prettyChars level (.obj (f :: fs)) ++ rest =
        '\x7b' :: (prettyFields (level + 1) (f :: fs) ++ (newLine level ++ '\x7d' :: rest)) := by
      simp [prettyChars]
    simp only [prettyChars, List.length_append, List.length_cons] at hdepth
    rw [htext, value?_obj hhead, fields?_prettyFields (by simp) ih (by omega), Option.map_some,
      ofFields_unitFields]
    rfl

/-- Every value that can be written is read again. -/
lemma Writable.readBack {v : Json} (h : Writable v) : ReadBack v := by
  induction h with
  | null =>
    refine Writable.null.readBack_of_succ fun level depth rest _ _ => ?_
    show value? (depth + 1) ('n' :: 'u' :: 'l' :: 'l' :: rest) = _
    simp only [value?, skipSpace_cons (c := 'n') rfl, reread, mapNumbers]
  | bool b =>
    refine (Writable.bool b).readBack_of_succ fun level depth rest _ _ => ?_
    cases b with
    | true =>
      show value? (depth + 1) ('t' :: 'r' :: 'u' :: 'e' :: rest) = _
      simp only [value?, skipSpace_cons (c := 't') rfl, reread, mapNumbers]
    | false =>
      show value? (depth + 1) ('f' :: 'a' :: 'l' :: 's' :: 'e' :: rest) = _
      simp only [value?, skipSpace_cons (c := 'f') rfl, reread, mapNumbers]
  -- a number ends where its text does only because of what stands behind it (`Follows`)
  | @num n hn =>
    refine (Writable.num hn).readBack_of_succ fun level depth rest hrest _ => ?_
    obtain ⟨c, cs, hcs, hc⟩ := Number.exists_render_eq_cons hn
    obtain ⟨l, hvalue, hread⟩ := Number.exists_literal? hn
    have hliteral := hread rest hrest
    have htext : prettyChars level (.num n) = c :: cs := hcs
    rw [hcs, List.cons_append] at hliteral
    rw [htext, List.cons_append, value?_of_digit hc, hliteral]
    simp only [Option.map_some, ofLiteral, hvalue, reread, mapNumbers]
  | str s =>
    refine (Writable.str s).readBack_of_succ fun level depth rest _ _ => ?_
    obtain ⟨cs, hcs, hunits⟩ := units?_stringChars s rest
    have htext : prettyChars level (.str s) = stringChars s := rfl
    rw [htext, hcs]
    simp only [value?, skipSpace_cons (c := '"') rfl, hunits, Option.map_some, ofUnits,
      unitsText?_map_unitOf, reread, mapNumbers]
  | arr hitems ih => exact readBack_arr hitems ih
  | obj hfields ih => exact readBack_obj hfields ih

/-- **A document is read as it was written**, up to what the texts of its numbers are read as. -/
theorem parse?_pretty {v : Json} (h : Writable v) : parse? v.pretty = some v.reread := by
  have hread := h.readBack 0 (2 * (prettyChars 0 v).length + 2) [] (fun c hc => by cases hc)
    (by omega)
  rw [List.append_nil] at hread
  rw [parse?, pretty, String.toList_ofList, parseChars?, hread]
  rfl

end Critique.Json
