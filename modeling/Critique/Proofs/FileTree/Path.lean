import Critique.FileTree.Walk
import Critique.Proofs.FileTree.Reorder
import Critique.Proofs.Text.OsText
import Mathlib.Data.List.Lex
import Mathlib.Data.List.TakeWhile
import Mathlib.Data.Prod.Lex

/-!
# The parts of a path

The path of an entry has the parts of its directory's path and one more, the entry's name
(`Path.parts_join`).  This holds for every directory path, the empty one and the root included, as
long as the name is one that a directory can list (`Node.IsProperName`).  Three things are read off
the parts, and so they depend on the name alone or on the names below a common path: the extension
of a file, the language it stands for, and the order of paths.

The order compares parts one by one.  It is the order of lists of keys, where a key has the kind of
a part and its bytes (`Path.partsLe_iff`), and so it is total, and two paths that are at most each
other have the same parts.
-/

namespace Critique

/-- The texts that are names of entries. -/
@[simp]
lemma Node.isProperName_ofText_iff {s : String} :
    IsProperName s ↔ (s ≠ "" ∧ '/' ∉ s.toList) ∧ s ≠ "." ∧ s ≠ ".." := by
  have hempty : OsText.empty = OsText.ofText "" := rfl
  have hhere : Path.hereName = OsText.ofText "." := by decide +kernel
  have hup : Path.upName = OsText.ofText ".." := by decide +kernel
  have hslash : Path.slash ∈ (s : OsText).bytes ↔ '/' ∈ s.toList :=
    Text.Utf8.mem_encode_iff (c := '/') (by decide)
  simp only [IsProperName, IsName, hempty, hhere, hup, hslash, ne_eq, OsText.ofText_inj]

namespace Path

/-! ## Names and parts -/

section Split

lemma splitSlash_ne_nil (bs : List UInt8) : splitSlash bs ≠ [] := by
  fun_cases splitSlash bs <;> simp_all

lemma splitSlash_append_slash (as bs : List UInt8) :
    splitSlash (as ++ slash :: bs) = splitSlash as ++ splitSlash bs := by
  induction as with
  | nil => simp [splitSlash]
  | cons a as ih =>
    by_cases ha : a = slash
    · simp [splitSlash, ha, ih]
    · obtain ⟨p, ps, hps⟩ := List.exists_cons_of_ne_nil (splitSlash_ne_nil as)
      simp [splitSlash, ha, ih, hps]

lemma splitSlash_of_notMem {bs : List UInt8} (h : slash ∉ bs) : splitSlash bs = [bs] := by
  induction bs with
  | nil => rfl
  | cons b bs ih =>
    obtain ⟨hb, hbs⟩ := not_or.1 (mt List.mem_cons.2 h)
    simp [splitSlash, Ne.symm hb, ih hbs]

end Split

variable {dir name path : OsText}

/-- The names in the path of an entry are those of its directory and its own. -/
lemma names_join (hname : Node.IsName name) (dir : OsText) :
    names (join dir name) = names dir ++ [name] := by
  have hown : (splitSlash name.bytes).filter (!·.isEmpty) = [name.bytes] := by
    rw [splitSlash_of_notMem hname.2]
    simpa using OsText.bytes_ne_nil_iff.2 hname.1
  unfold join
  split_ifs with h
  · rcases Bool.or_eq_true_iff.1 h with hempty | hslash
    · obtain rfl : dir = .empty := OsText.isEmpty_iff.1 hempty
      simp [names, hown, splitSlash, OsText.empty]
    · -- the slash at the end leaves nothing but an empty name behind it
      obtain ⟨front, hfront⟩ := List.getLast?_eq_some_iff.1 (by simpa [endsInSlash] using hslash)
      simp only [names, OsText.bytes_append, hfront, List.append_assoc, List.singleton_append,
        splitSlash_append_slash, List.filter_append, hown]
      simp [splitSlash]
  · have hbytes : (dir ++ ⟨[slash]⟩ ++ name).bytes = dir.bytes ++ slash :: name.bytes := by simp
    simp only [names, hbytes, splitSlash_append_slash, List.filter_append, hown]
    simp

lemma isAbsolute_join (hname : Node.IsName name) (dir : OsText) :
    isAbsolute (join dir name) = isAbsolute dir := by
  obtain ⟨b, bs, hbs⟩ : ∃ b bs, name.bytes = b :: bs :=
    List.exists_cons_of_ne_nil (OsText.bytes_ne_nil_iff.2 hname.1)
  have hb : b ≠ slash := by
    rintro rfl
    exact hname.2 (by simp [hbs])
  unfold join isAbsolute
  cases hdir : dir.bytes with
  | nil =>
    have hempty : dir.isEmpty = true := by simp [OsText.isEmpty, hdir]
    simp [hempty, hdir, hbs, hb]
  | cons d ds => split_ifs <;> simp [hdir]

lemma ofName_of_isProperName (hname : Node.IsProperName name) : Part.ofName name = .name name := by
  rw [Part.ofName, if_neg hname.2.1, if_neg hname.2.2]

/-- The path of an entry has one part more than that of its directory. -/
theorem parts_join (hname : Node.IsProperName name) (dir : OsText) :
    parts (join dir name) = parts dir ++ [.name name] := by
  have hne : Part.name name ≠ .here := by simp
  simp only [parts, names_join hname.1, isAbsolute_join hname.1, List.map_append, List.map_cons,
    List.map_nil, ofName_of_isProperName hname]
  split_ifs
  · simp
  · cases (names dir).map Part.ofName with
    | nil => simp
    | cons p ps => cases p <;> simp

/-- The path of what is at a place below a path. -/
def joinAll (path : OsText) (place : Location) : OsText :=
  place.foldl join path

lemma parts_joinAll {place : Location} (h : ∀ name ∈ place, Node.IsProperName name)
    (path : OsText) : parts (joinAll path place) = parts path ++ place.map .name := by
  induction place generalizing path with
  | nil => simp [joinAll]
  | cons name place ih =>
    obtain ⟨hname, hrest⟩ := List.forall_mem_cons.1 h
    have hrest := ih hrest (join path name)
    rw [parts_join hname] at hrest
    simpa [joinAll] using hrest

lemma joinAll_concat (path : OsText) (dirs : List OsText) (name : OsText) :
    joinAll path (dirs ++ [name]) = join (joinAll path dirs) name := by
  simp [joinAll]

/-! ## Extensions and languages -/

lemma fileName?_join (hname : Node.IsProperName name) (dir : OsText) :
    fileName? (join dir name) = some name := by
  simp [fileName?, parts_join hname]

/-- A name with a dot is divided by the last of them. -/
lemma exists_last_dot (h : dot ∈ name.bytes) :
    ∃ stem ext : OsText, name = stem ++ ⟨[dot]⟩ ++ ext ∧ dot ∉ ext.bytes := by
  obtain ⟨ext, stem, hback, hext⟩ := List.eq_append_cons_of_mem (List.mem_reverse.2 h)
  refine ⟨⟨stem.reverse⟩, ⟨ext.reverse⟩, OsText.ext ?_, ?_⟩
  · rw [← List.reverse_reverse name.bytes, hback]
    simp
  · simpa using hext

lemma nameExtension?_of_notMem (h : dot ∉ name.bytes) : nameExtension? name = none := by
  have hall : name.bytes.reverse.takeWhile (· != dot) = name.bytes.reverse := by
    refine List.takeWhile_eq_self_iff.2 fun b hb => ?_
    simpa using fun heq : b = dot => h (heq ▸ List.mem_reverse.1 hb)
  simp [nameExtension?, hall]

lemma nameExtension?_append_dot (stem : OsText) {ext : OsText} (h : dot ∉ ext.bytes) :
    nameExtension? (stem ++ ⟨[dot]⟩ ++ ext) = if stem = .empty then none else some ext := by
  have hback : (stem ++ ⟨[dot]⟩ ++ ext).bytes.reverse =
      ext.bytes.reverse ++ dot :: stem.bytes.reverse := by simp
  have htail : (stem ++ ⟨[dot]⟩ ++ ext).bytes.reverse.takeWhile (· != dot) =
      ext.bytes.reverse := by
    rw [hback, List.takeWhile_append_of_pos]
    · simp
    · intro b hb
      simpa using fun heq : b = dot => h (heq ▸ List.mem_reverse.1 hb)
  have hhead : (stem ++ ⟨[dot]⟩ ++ ext).bytes.length - ext.bytes.reverse.length =
      stem.bytes.length + 1 := by
    simp
    omega
  simp only [nameExtension?, htail, hhead]
  by_cases hstem : stem = .empty
  · simp [hstem, OsText.empty]
  · have hlong : stem.bytes.length ≠ 0 := by simpa using OsText.bytes_ne_nil_iff.2 hstem
    rw [if_neg (by omega), if_neg hstem]
    simp

/-- A name has an extension when its last dot has something before it. -/
theorem nameExtension?_eq_some_iff {ext : OsText} :
    nameExtension? name = some ext ↔
      ∃ stem, stem ≠ .empty ∧ name = stem ++ ⟨[dot]⟩ ++ ext ∧ dot ∉ ext.bytes := by
  constructor
  · intro h
    by_cases hdot : dot ∈ name.bytes
    · obtain ⟨stem, own, rfl, hown⟩ := exists_last_dot hdot
      rw [nameExtension?_append_dot stem hown] at h
      split_ifs at h with hstem
      cases h
      exact ⟨stem, hstem, rfl, hown⟩
    · rw [nameExtension?_of_notMem hdot] at h
      cases h
  · rintro ⟨stem, hstem, rfl, hext⟩
    rw [nameExtension?_append_dot stem hext, if_neg hstem]

/-- The name of a source file: a stem, a dot, and an extension that some bundle handles.  The stem
need not be a text. -/
def IsSourceName (name : OsText) : Prop :=
  ∃ (stem : OsText) (ext : String), stem ≠ .empty ∧ name = stem ++ "." ++ ext ∧
    '.' ∉ ext.toList ∧ Text.lowerCase ext ∈ supportedExtensions

end Path

/-- The extensions that stand for a language are those that some bundle handles. -/
lemma isSome_languageOfExtension?_iff {ext : String} :
    (languageOfExtension? ext).isSome ↔ Text.lowerCase ext ∈ supportedExtensions := by
  have hall : extensionsByLanguage.flatMap (·.2) = supportedExtensions := by decide
  rw [languageOfExtension?, Option.isSome_map, List.find?_isSome, ← hall, List.mem_flatMap]
  simp

/-- An extension stands for no other languages than those that some bundle handles. -/
lemma mem_supportedLanguages_of_extension {ext tag : String}
    (h : languageOfExtension? ext = some tag) : tag ∈ supportedLanguages := by
  obtain ⟨entry, hentry, rfl⟩ := Option.map_eq_some_iff.1 h
  have hmem := List.mem_of_find?_eq_some hentry
  have hall : ∀ e ∈ extensionsByLanguage, e.1 ∈ supportedLanguages := by decide
  exact hall entry hmem

namespace Path

variable {name : OsText}

/-- The language of a file depends on its name alone. -/
lemma languageOfPath?_join (hname : Node.IsProperName name) (dir : OsText) :
    languageOfPath? (join dir name) =
      ((nameExtension? name).bind OsText.text?).bind languageOfExtension? := by
  have hempty : languageOfExtension? "" = none := by decide +kernel
  unfold languageOfPath? extension?
  rw [fileName?_join hname, Option.bind_some]
  cases (nameExtension? name).bind OsText.text? with
  | none => exact hempty
  | some ext => rfl

/-- A name whose extension is a text is divided by that text. -/
lemma bind_text?_nameExtension?_eq_some_iff {ext : String} :
    (nameExtension? name).bind OsText.text? = some ext ↔
      ∃ stem : OsText, stem ≠ .empty ∧ name = stem ++ "." ++ ext ∧ '.' ∉ ext.toList := by
  have hdot : dot ∈ (ext : OsText).bytes ↔ '.' ∈ ext.toList :=
    Text.Utf8.mem_encode_iff (c := '.') (by decide)
  simp only [Option.bind_eq_some_iff, nameExtension?_eq_some_iff, OsText.text?_eq_some_iff]
  constructor
  · rintro ⟨_, ⟨stem, hstem, hname, hext⟩, rfl⟩
    exact ⟨stem, hstem, hname, mt hdot.2 hext⟩
  · rintro ⟨stem, hstem, hname, hext⟩
    exact ⟨_, ⟨stem, hstem, hname, mt hdot.1 hext⟩, rfl⟩

lemma isSome_languageOfPath?_join_iff (hname : Node.IsProperName name) (dir : OsText) :
    (languageOfPath? (join dir name)).isSome ↔ IsSourceName name := by
  rw [languageOfPath?_join hname, Option.isSome_iff_exists]
  constructor
  · rintro ⟨tag, h⟩
    obtain ⟨ext, hext, htag⟩ := Option.bind_eq_some_iff.1 h
    obtain ⟨stem, hstem, heq, hdot⟩ := bind_text?_nameExtension?_eq_some_iff.1 hext
    exact ⟨stem, ext, hstem, heq, hdot, isSome_languageOfExtension?_iff.1 (by rw [htag]; rfl)⟩
  · rintro ⟨stem, ext, hstem, heq, hdot, hlower⟩
    obtain ⟨tag, htag⟩ := Option.isSome_iff_exists.1 (isSome_languageOfExtension?_iff.2 hlower)
    have hext := bind_text?_nameExtension?_eq_some_iff.2 ⟨stem, hstem, heq, hdot⟩
    exact ⟨tag, Option.bind_eq_some_iff.2 ⟨ext, hext, htag⟩⟩

/-! ## The order of paths -/

/-- Bytes compare as the numbers that they stand for. -/
lemma map_toNat_lt_iff {as bs : List UInt8} :
    as.map UInt8.toNat < bs.map UInt8.toNat ↔ as < bs := by
  induction as generalizing bs with
  | nil => cases bs <;> simp
  | cons a as ih =>
    cases bs with
    | nil => simp
    | cons b bs =>
      simp only [List.map_cons, List.cons_lt_cons_iff, ih, UInt8.toNat_inj,
        ← UInt8.lt_iff_toNat_lt]

/-- What decides where a part stands in the order of parts: its kind, then its bytes. -/
def Part.key (p : Part) : ℕ ×ₗ List ℕ :=
  toLex (p.rank, p.text.bytes.map UInt8.toNat)

lemma Part.key_injective : Function.Injective Part.key := by
  intro p q h
  obtain ⟨hrank, hbytes⟩ := Prod.ext_iff.1 (toLex_inj.1 h)
  have htext : p.text = q.text :=
    OsText.ext (List.map_injective_iff.2 (fun _ _ => UInt8.toNat_inj.1) hbytes)
  cases p <;> cases q <;> simp_all [Part.rank, Part.text]

/-- The order of lists is given by its strict part, so that is what is compared here. -/
lemma partsLe_iff {ps qs : List Part} : partsLe ps qs ↔ ps.map Part.key ≤ qs.map Part.key := by
  rw [← not_lt]
  induction ps generalizing qs with
  | nil => simp [partsLe]
  | cons p ps ih =>
    cases qs with
    | nil => simp [partsLe]
    | cons q qs =>
      rw [List.map_cons, List.map_cons, List.cons_lt_cons_iff, Part.key_injective.eq_iff, partsLe]
      by_cases hpq : p = q
      · simp [hpq, ih]
      · have hqp : q ≠ p := Ne.symm hpq
        simp only [hpq, hqp, if_false, false_and, or_false, Part.key, Prod.Lex.toLex_lt_toLex,
          map_toNat_lt_iff]
        by_cases hrank : p.rank = q.rank
        · simp only [hrank, if_true, lt_self_iff_false, false_or, true_and, decide_eq_true_eq]
          exact List.not_lt.symm
        · have hrank' : q.rank ≠ p.rank := Ne.symm hrank
          simp only [hrank, hrank', if_false, false_and, or_false, decide_eq_true_eq]
          omega

lemma transitive_le (a b c : OsText) (hab : le a b) (hbc : le b c) : le a c :=
  partsLe_iff.2 ((partsLe_iff.1 hab).trans (partsLe_iff.1 hbc))

lemma total_le (a b : OsText) : le a b || le b a :=
  Bool.or_eq_true_iff.2 ((le_total _ _).imp partsLe_iff.2 partsLe_iff.2)

/-- Paths that are at most each other have the same parts. -/
lemma parts_eq_of_le_of_le {a b : OsText} (hab : le a b) (hba : le b a) : parts a = parts b :=
  Part.key_injective.list_map (le_antisymm (partsLe_iff.1 hab) (partsLe_iff.1 hba))

/-- Paths with different parts, put in order, ascend: no two of them are at most each other. -/
lemma pairwise_mergeSort {paths : List OsText} (h : (paths.map parts).Nodup) :
    (paths.mergeSort le).Pairwise fun p q => le p q = true ∧ le q p = false := by
  have hsorted := List.pairwise_mergeSort transitive_le total_le paths
  have hparts : (paths.mergeSort le).Pairwise fun p q => parts p ≠ parts q := by
    rw [← List.pairwise_map, ← List.Nodup, ((List.mergeSort_perm paths le).map parts).nodup_iff]
    exact h
  refine (hsorted.and hparts).imp ?_
  rintro p q ⟨hle, hne⟩
  refine ⟨hle, ?_⟩
  by_contra hback
  exact hne (parts_eq_of_le_of_le hle (by simpa using hback))

/-- There is one way to put paths with different parts in order. -/
lemma mergeSort_eq_of_perm {paths paths' : List OsText} (h : (paths.map parts).Nodup)
    (hperm : paths.Perm paths') : paths.mergeSort le = paths'.mergeSort le := by
  have hsorted := ((List.mergeSort_perm paths le).trans hperm).trans
    (List.mergeSort_perm paths' le).symm
  refine hsorted.eq_of_pairwise (fun p q _ _ hpq hqp => ?_) (pairwise_mergeSort h)
    (pairwise_mergeSort ((hperm.map parts).nodup_iff.1 h))
  exact absurd (hqp.2.symm.trans hpq.1) Bool.false_ne_true

end Path

end Critique
