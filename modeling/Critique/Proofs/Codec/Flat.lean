import Critique.Analyzer.Basic
import Critique.Codec.Description
import Critique.Codec.Feature
import Critique.Proofs.Analyzer.Description
import Critique.Proofs.Codec.Report
import Critique.Proofs.Codec.SettingsYaml

/-!
# Flat records, written as JSON and read again

A feature set and a description are written as one object: the fields that each of them has, and
beside them the entries of a table.  Nothing but its name tells an entry of the table from a field,
so that a record comes back as it was only when its table leaves the names of the fields alone.

Such a record is *flat*, and a feature set has to have finite ratios as well.  This is all that is
needed, and it is needed: a record is read from its JSON value as it was exactly when it is flat
(`FeatureSet.ofJson?_toJson_iff`, `Description.ofJson?_toJson_iff`).  In one direction the object is
taken apart where it was put together (`FlatFields`).  In the other direction, whatever a reader
makes is flat.

As for reports, the lemmas are about a JSON value with its numbers changed by some function `g`,
which is the identity for the value and `Number.reread` for its text.  Here `g` must not take a
number for one of another kind, because the kind of a number decides between a count and a ratio.
-/

namespace Critique

open Json

/-! ## Tables as objects -/

namespace Table

variable {α β : Type}

lemma ascending_map (f : α → β) (t : Table α) :
    (t.entries.map fun e => (e.1, f e.2)).Pairwise fun a b => a.1 < b.1 :=
  List.pairwise_map.2 t.ascending

/-- A table with its values changed. -/
def mapValues (f : α → β) (t : Table α) : Table β :=
  ⟨t.entries.map fun e => (e.1, f e.2), ascending_map f t⟩

lemma mapValues_id (t : Table α) : t.mapValues id = t :=
  Table.ext (List.map_id _)

lemma names_nodup (t : Table α) : t.names.Nodup := by
  rw [names, List.Nodup, List.pairwise_map]
  refine t.ascending.imp fun {a b} hlt heq => ?_
  rw [heq] at hlt
  exact String.lt_irrefl _ hlt

lemma mem_insertAll {t : Table α} {es : List (String × α)} {e : String × α}
    (h : e ∈ (t.insertAll es).entries) : e ∈ t.entries ∨ e ∈ es := by
  induction es generalizing t with
  | nil => exact .inl h
  | cons first es ih =>
    rcases ih (t := t.insert first.1 first.2) h with hinsert | hrest
    · rcases mem_insertEntry hinsert with rfl | hold
      · exact .inr List.mem_cons_self
      · exact .inl hold
    · exact .inr (List.mem_cons_of_mem _ hrest)

lemma mem_of_mem_ofList {es : List (String × α)} {e : String × α}
    (h : e ∈ (ofList es).entries) : e ∈ es :=
  (mem_insertAll h).resolve_left List.not_mem_nil

lemma forall_mem_ofList {P : String × α → Prop} {es : List (String × α)} (h : ∀ e ∈ es, P e) :
    ∀ e ∈ (ofList es).entries, P e :=
  fun e he => h e (mem_of_mem_ofList he)

end Table

section TableReaders

variable {α β : Type} {g : Number → Number}

/-- A table is read entry by entry, when every value is read. -/
lemma asTable?_mapFields {read : Json → Option β} {write : α → Json} {f : α → β} {t : Table α}
    (h : ∀ e ∈ t.entries, read ((write e.2).mapNumbers g) = some (f e.2)) :
    asTable? read (.obj (mapFields g (t.entries.map fun e => (e.1, write e.2)))) =
      some (t.mapValues f) := by
  have hentries : (mapFields g (t.entries.map fun e => (e.1, write e.2))).mapM
      (fun field => (read field.2).map fun x => (field.1, x)) = some (t.mapValues f).entries := by
    rw [mapFields_eq_map, mapM_eq_some_iff, List.map_map, Table.mapValues,
      List.forall₂_map_left_iff, List.forall₂_map_right_iff, List.forall₂_same]
    intro e he
    exact Option.map_eq_some_iff.2 ⟨f e.2, h e he, rfl⟩
  rw [asTable?, hentries, Option.map_some, Table.ofList_entries]

/-- Every entry of a table was read from a field of its name. -/
lemma exists_of_mem_asTable? {read : Json → Option α} {fields : List (String × Json)} {t : Table α}
    (h : asTable? read (.obj fields) = some t) {e : String × α} (he : e ∈ t.entries) :
    ∃ field ∈ fields, field.1 = e.1 ∧ read field.2 = some e.2 := by
  obtain ⟨es, hes, rfl⟩ := Option.map_eq_some_iff.1 h
  obtain ⟨field, hfield, hread⟩ := exists_of_mem_mapM_eq_some hes (Table.mem_of_mem_ofList he)
  obtain ⟨value, hvalue, rfl⟩ := Option.map_eq_some_iff.1 hread
  exact ⟨field, hfield, rfl, hvalue⟩

end TableReaders

/-! ## Objects with fixed fields and others -/

/-- Fields with reserved names, each of them once, and other fields without such names. -/
structure FlatFields (reserved : List String) (fixed others : List (String × Json)) : Prop where
  names : fixed.map Prod.fst = reserved
  nodup : reserved.Nodup
  avoid : ∀ field ∈ others, field.1 ∉ reserved

namespace FlatFields

variable {reserved : List String} {fixed others : List (String × Json)}

lemma mem_reserved (h : FlatFields reserved fixed others) {field : String × Json}
    (hfield : field ∈ fixed) : field.1 ∈ reserved :=
  h.names ▸ List.mem_map_of_mem hfield

/-- A fixed field is found in front of the others. -/
lemma uniqueField?_append (h : FlatFields reserved fixed others) {field : String × Json}
    (hfield : field ∈ fixed) : uniqueField? (fixed ++ others) field.1 = some (some field.2) := by
  -- a field of this name among the others would make it ambiguous
  have hnone : others.filter (·.1 == field.1) = [] := by
    rw [List.filter_eq_nil_iff]
    intro other hother heq
    exact h.avoid other hother (beq_iff_eq.1 heq ▸ h.mem_reserved hfield)
  have halone := uniqueField?_of_mem (h.names ▸ h.nodup) hfield
  rw [uniqueField?] at halone ⊢
  rwa [List.filter_append, hnone, List.append_nil]

/-- The other fields are found behind the fixed ones. -/
lemma filter_append (h : FlatFields reserved fixed others) :
    (fixed ++ others).filter (fun field => !reserved.contains field.1) = others := by
  have hnone : fixed.filter (fun field => !reserved.contains field.1) = [] := by
    rw [List.filter_eq_nil_iff]
    intro field hfield
    simp [h.mem_reserved hfield]
  have hall : others.filter (fun field => !reserved.contains field.1) = others := by
    rw [List.filter_eq_self]
    intro field hfield
    simp [h.avoid field hfield]
  rw [List.filter_append, hnone, hall, List.nil_append]

end FlatFields

/-- No name of a table that is read from the other fields is a reserved one. -/
lemma notMem_reserved_of_asTable? {α : Type} {read : Json → Option α} {reserved : List String}
    {fields : List (String × Json)} {t : Table α}
    (h : asTable? read (.obj (fields.filter fun field => !reserved.contains field.1)) = some t) :
    ∀ name ∈ t.names, name ∉ reserved := by
  intro name hname
  obtain ⟨e, he, rfl⟩ := List.mem_map.1 hname
  obtain ⟨field, hfield, heq, -⟩ := exists_of_mem_asTable? h he
  have hfree := List.of_mem_filter hfield
  simpa [heq] using hfree

/-- The fields of a table have its names. -/
lemma map_fst_mapFields {α : Type} (g : Number → Number) (write : α → Json) (t : Table α) :
    (mapFields g (t.entries.map fun e => (e.1, write e.2))).map Prod.fst = t.names := by
  rw [mapFields_eq_map, List.map_map, List.map_map]
  rfl

lemma mapFields_append (g : Number → Number) (fs fs' : List (String × Json)) :
    mapFields g (fs ++ fs') = mapFields g fs ++ mapFields g fs' := by
  rw [mapFields_eq_map, mapFields_eq_map, mapFields_eq_map, List.map_append]

/-! ## Feature values -/

namespace FeatureValue

/-- Is the value no ratio, or a finite one? -/
def IsFinite : FeatureValue → Prop
  | ratio x => x.isFinite = true
  | _ => True

/-- A value with its number changed if it is a ratio.  The kind stays. -/
def mapRatio (f : Float → Float) : FeatureValue → FeatureValue
  | ratio x => ratio (f x)
  | v => v

@[simp] lemma mapRatio_id (v : FeatureValue) : v.mapRatio id = v := by
  cases v <;> rfl

/-- A value is read as one of its own kind, when the numbers keep their kinds. -/
lemma ofJson?_mapNumbers {g : Number → Number} {v : FeatureValue}
    (hcount : ∀ n, v.asCount? = some n → g (.natural n) = .natural n)
    (hreal : ∀ x : Float, x.isFinite = true → ∃ y, g (.real x) = .real y) (hfinite : v.IsFinite) :
    FeatureValue.ofJson? (v.toJson.mapNumbers g) =
      some (v.mapRatio fun x => (g (.real x)).toFloat) := by
  cases v with
  | flag on => rfl
  | count n =>
    rw [toJson, nat, mapNumbers, hcount n rfl]
    rfl
  | ratio x =>
    -- a number that became a whole one would be read as a count
    obtain ⟨y, hy⟩ := hreal x hfinite
    have hwritten : (ratio x).toJson = .num (.real x) := if_pos hfinite
    rw [hwritten, mapNumbers, hy, mapRatio, hy]
    rfl
  | text s => rfl

lemma isFinite_of_ofJson? {w : Json} {v : FeatureValue} (hw : HasFiniteNumbers w)
    (h : FeatureValue.ofJson? w = some v) : v.IsFinite := by
  cases hw with
  | @num n hn =>
    cases n with
    | natural n =>
      cases h
      trivial
    | negative n =>
      cases h
      exact hn
    | real x =>
      cases h
      exact hn
  | bool on =>
    cases h
    trivial
  | str s =>
    cases h
    trivial
  | null => cases h
  | arr hitems => cases h
  | obj hfields => cases h
  | unreadable => cases h

end FeatureValue

lemma hasFiniteNumbers_nat (n : ℕ) : HasFiniteNumbers (Json.nat n) := by
  have hword : n.toUInt64 = (n % 2 ^ 64).toUInt64 := UInt64.ofNat_mod_size.symm
  refine .num ?_
  rw [Number.toFloat, hword]
  exact (Decimal.inRange_toFloat (Nat.mod_lt _ (by norm_num))).isFinite

lemma hasFiniteNumbers_float (x : Float) : HasFiniteNumbers (Json.float x) := by
  unfold Json.float
  split_ifs with hx
  · exact .num hx
  · exact .null

lemma FeatureValue.hasFiniteNumbers_toJson (v : FeatureValue) : HasFiniteNumbers v.toJson := by
  cases v with
  | flag on => exact .bool on
  | count n => exact hasFiniteNumbers_nat n
  | ratio x => exact hasFiniteNumbers_float x
  | text s => exact .str s

lemma FeatureValue.writable_toJson {v : FeatureValue}
    (h : ∀ n, v.asCount? = some n → n ≤ maxWord) : Writable v.toJson := by
  cases v with
  | flag on => exact .bool on
  | count n => exact .num (h n rfl)
  | ratio x => exact writable_float x
  | text s => exact .str s

/-! ## Feature sets -/

namespace FeatureSet

/-- Do the added features leave the names of the others alone, and are the ratios finite? -/
structure IsFlat (f : FeatureSet) : Prop where
  names : ∀ name ∈ f.extra.names, name ∉ baseFeatures
  finite : ∀ e ∈ f.extra.entries, e.2.IsFinite

/-- The counts of a feature set, its length and number of lines among them. -/
def counts (f : FeatureSet) : List ℕ :=
  [f.length, f.numLines] ++ f.extra.entries.filterMap (·.2.asCount?)

/-- A feature set with its ratios changed. -/
def mapRatios (h : Float → Float) (f : FeatureSet) : FeatureSet :=
  { f with extra := f.extra.mapValues (FeatureValue.mapRatio h) }

variable {f : FeatureSet}

lemma mapRatios_id (f : FeatureSet) : f.mapRatios id = f := by
  have hvalues : FeatureValue.mapRatio id = id := funext FeatureValue.mapRatio_id
  rw [mapRatios, hvalues, Table.mapValues_id]

/-- The names of the features of a flat set are all different. -/
lemma IsFlat.keys_nodup (h : f.IsFlat) : f.keys.Nodup := by
  refine List.Nodup.append (by decide) f.extra.names_nodup ?_
  intro name hbase hextra
  exact h.names name hextra hbase

/-- The base features as fields. -/
def baseFields (g : Number → Number) (f : FeatureSet) : List (String × Json) :=
  [("length", (Json.nat f.length).mapNumbers g), ("num_lines", (Json.nat f.numLines).mapNumbers g),
    ("tokens", (Json.arr (f.tokens.map .str)).mapNumbers g),
    ("language", (Json.str f.language).mapNumbers g)]

/-- The added features as fields. -/
def extraFields (g : Number → Number) (f : FeatureSet) : List (String × Json) :=
  mapFields g (f.extra.entries.map fun e => (e.1, e.2.toJson))

lemma mapNumbers_toJson (g : Number → Number) (f : FeatureSet) :
    f.toJson.mapNumbers g = .obj (f.baseFields g ++ f.extraFields g) := by
  rw [toJson, mapNumbers, mapFields_append]
  rfl

lemma IsFlat.flatFields (h : f.IsFlat) (g : Number → Number) :
    FlatFields baseFeatures (f.baseFields g) (f.extraFields g) where
  names := rfl
  nodup := by decide
  avoid _ hfield := h.names _ (map_fst_mapFields g _ f.extra ▸ List.mem_map_of_mem hfield)

/-- A flat feature set is read, up to what its numbers are changed to. -/
lemma ofJson?_mapNumbers {g : Number → Number}
    (hcounts : ∀ n ∈ f.counts, g (.natural n) = .natural n)
    (hreal : ∀ x : Float, x.isFinite = true → ∃ y, g (.real x) = .real y) (h : f.IsFlat) :
    FeatureSet.ofJson? (f.toJson.mapNumbers g) =
      some (f.mapRatios fun x => (g (.real x)).toFloat) := by
  -- no added feature has the name of a base one, so each base field is found once
  have hbase : ∀ field ∈ f.baseFields g,
      uniqueField? (f.baseFields g ++ f.extraFields g) field.1 = some (some field.2) :=
    fun _ => (h.flatFields g).uniqueField?_append
  -- what is left besides the base fields is read as the table of the others
  have hextra : asTable? FeatureValue.ofJson? (.obj (f.extraFields g)) =
      some (f.extra.mapValues (FeatureValue.mapRatio fun x => (g (.real x)).toFloat)) := by
    refine asTable?_mapFields fun e he => ?_
    refine FeatureValue.ofJson?_mapNumbers (fun n hn => hcounts n ?_) hreal (h.finite e he)
    exact List.mem_append_right _ (List.mem_filterMap.2 ⟨e, he, hn⟩)
  have htokens : asList? asText? ((Json.arr (f.tokens.map .str)).mapNumbers g) =
      some (f.tokens.map id) :=
    asList?_mapNumbers fun s _ => asText?_mapNumbers_str s
  have hhead : ∀ n ∈ [f.length, f.numLines], asNat? ((Json.nat n).mapNumbers g) = some n :=
    fun n hn => asNat?_mapNumbers_nat (hcounts n (List.mem_append_left _ hn))
  rw [mapNumbers_toJson, FeatureSet.ofJson?]
  simp only [hbase ("length", (Json.nat f.length).mapNumbers g) (by simp [baseFields]),
    hbase ("num_lines", (Json.nat f.numLines).mapNumbers g) (by simp [baseFields]),
    hbase ("tokens", (Json.arr (f.tokens.map .str)).mapNumbers g) (by simp [baseFields]),
    hbase ("language", (Json.str f.language).mapNumbers g) (by simp [baseFields]),
    Option.bind_eq_bind, Option.bind_some, required?, hhead f.length (by simp),
    hhead f.numLines (by simp), htokens, asText?_mapNumbers_str, (h.flatFields g).filter_append,
    hextra, List.map_id]
  rfl

/-- Whatever is read from a document with finite numbers is flat. -/
lemma isFlat_of_ofJson? {v : Json} (hv : HasFiniteNumbers v) (h : FeatureSet.ofJson? v = some f) :
    f.IsFlat := by
  cases hv with
  | @obj fields hfields =>
    simp only [FeatureSet.ofJson?, Option.bind_eq_bind, Option.bind_eq_some_iff] at h
    obtain ⟨_, -, length, -, _, -, numLines, -, _, -, tokens, -, _, -, language, -, extra, hextra,
      hf⟩ := h
    cases hf
    -- the reader takes the base fields out before it reads the others
    refine ⟨notMem_reserved_of_asTable? hextra, fun e he => ?_⟩
    obtain ⟨field, hfield, -, hread⟩ := exists_of_mem_asTable? hextra he
    exact FeatureValue.isFinite_of_ofJson? (hfields field (List.mem_of_mem_filter hfield)) hread
  | null => cases h
  | bool on => cases h
  | num hn => cases h
  | str s => cases h
  | arr hitems => cases h
  | unreadable => cases h

lemma hasFiniteNumbers_toJson (f : FeatureSet) : HasFiniteNumbers f.toJson := by
  have htokens : HasFiniteNumbers (.arr (f.tokens.map .str)) := by
    refine .arr fun v hv => ?_
    obtain ⟨s, -, rfl⟩ := List.mem_map.1 hv
    exact .str s
  refine .obj (List.forall_mem_append.2 ⟨?_, ?_⟩)
  · simp only [List.forall_mem_cons]
    exact ⟨hasFiniteNumbers_nat _, hasFiniteNumbers_nat _, htokens, .str _, by simp⟩
  · intro field hfield
    obtain ⟨e, -, rfl⟩ := List.mem_map.1 hfield
    exact e.2.hasFiniteNumbers_toJson

/-- **A feature set is read from its JSON value as it was exactly when it is flat.** -/
theorem ofJson?_toJson_iff (f : FeatureSet) :
    FeatureSet.ofJson? f.toJson = some f ↔ f.IsFlat := by
  constructor
  · exact isFlat_of_ofJson? (hasFiniteNumbers_toJson f)
  · intro h
    have hread := ofJson?_mapNumbers (g := id) (fun _ _ => rfl) (fun x _ => ⟨x, rfl⟩) h
    rw [mapNumbers_id] at hread
    rw [hread]
    exact congrArg some (mapRatios_id f)

lemma writable_toJson (h : ∀ n ∈ f.counts, n ≤ maxWord) : Writable f.toJson := by
  have hhead : ∀ n ∈ [f.length, f.numLines], Writable (Json.nat n) :=
    fun n hn => .num (h n (List.mem_append_left _ hn))
  refine .obj (List.forall_mem_append.2 ⟨?_, ?_⟩)
  · simp only [List.forall_mem_cons]
    exact ⟨hhead _ (by simp), hhead _ (by simp), writable_map fun s _ => .str s, .str _, by simp⟩
  · intro field hfield
    obtain ⟨e, he, rfl⟩ := List.mem_map.1 hfield
    refine FeatureValue.writable_toJson fun n hn => h n ?_
    exact List.mem_append_right _ (List.mem_filterMap.2 ⟨e, he, hn⟩)

/-- The text of a flat feature set is read as the feature set, up to what its ratios are read as. -/
lemma bind_parse?_pretty (hcounts : ∀ n ∈ f.counts, n ≤ maxWord) (h : f.IsFlat) :
    (parse? f.toJson.pretty).bind FeatureSet.ofJson? = some (f.mapRatios rereadFloat) := by
  rw [parse?_pretty (writable_toJson hcounts), Option.bind_some]
  refine ofJson?_mapNumbers (fun n hn => Number.reread_natural (hcounts n hn)) ?_ h
  intro x hx
  obtain ⟨y, hy, -⟩ := Number.exists_reread_real hx
  exact ⟨y, hy⟩

end FeatureSet

/-! ## Descriptions -/

namespace Description

/-- Do the details leave the names of the fields alone? -/
def IsFlat (d : Description) : Prop :=
  ∀ name ∈ d.details.names, name ∉ descriptionFields

variable {d : Description}

/-- The fields that every description has. -/
def fields (d : Description) : List (String × Json) :=
  [("model_name", .str d.name), ("model_type", .str d.kind), ("version", .str d.version)]

/-- The details as fields. -/
def detailFields (d : Description) : List (String × Json) :=
  d.details.entries.map fun e => (e.1, .str e.2)

lemma toJson_eq (d : Description) : d.toJson = .obj (d.fields ++ d.detailFields) := rfl

lemma IsFlat.flatFields (h : d.IsFlat) :
    FlatFields descriptionFields d.fields d.detailFields where
  names := rfl
  nodup := by decide
  avoid field hfield := by
    obtain ⟨e, he, rfl⟩ := List.mem_map.1 hfield
    exact h e.1 (List.mem_map_of_mem he)

/-- A flat description is read as it was. -/
lemma ofJson?_toJson (h : d.IsFlat) : Description.ofJson? d.toJson = some d := by
  have hfields : ∀ field ∈ d.fields,
      uniqueField? (d.fields ++ d.detailFields) field.1 = some (some field.2) :=
    fun _ => h.flatFields.uniqueField?_append
  have hdetails : asTable? asText? (.obj d.detailFields) = some d.details := by
    have hread : asTable? asText? (.obj (mapFields id d.detailFields)) =
        some (d.details.mapValues id) := asTable?_mapFields fun _ _ => rfl
    rwa [mapFields_id, Table.mapValues_id] at hread
  rw [toJson_eq, Description.ofJson?]
  simp only [hfields ("model_name", .str d.name) (by simp [fields]),
    hfields ("model_type", .str d.kind) (by simp [fields]),
    hfields ("version", .str d.version) (by simp [fields]), Option.bind_eq_bind, Option.bind_some,
    required?, asText?, h.flatFields.filter_append, hdetails]
  rfl

/-- A description has no numbers, so that nothing changes with them. -/
lemma mapNumbers_toJson (g : Number → Number) (d : Description) :
    d.toJson.mapNumbers g = d.toJson := by
  have hdetails : ∀ field ∈ d.detailFields, (field.1, field.2.mapNumbers g) = field := by
    intro field hfield
    obtain ⟨e, -, rfl⟩ := List.mem_map.1 hfield
    rfl
  rw [toJson_eq, mapNumbers, mapFields_append, mapFields_eq_map g d.detailFields,
    List.map_congr_left hdetails, List.map_id']
  rfl

/-- Whatever is read is flat. -/
lemma isFlat_of_ofJson? {v : Json} (h : Description.ofJson? v = some d) : d.IsFlat := by
  cases v with
  | obj fields =>
    simp only [Description.ofJson?, Option.bind_eq_bind, Option.bind_eq_some_iff] at h
    obtain ⟨_, -, name, -, _, -, kind, -, _, -, version, -, details, hdetails, hd⟩ := h
    cases hd
    exact notMem_reserved_of_asTable? hdetails
  | null => cases h
  | bool on => cases h
  | num n => cases h
  | str s => cases h
  | arr items => cases h
  | unreadable => cases h

/-- **A description is read from its JSON value as it was exactly when it is flat.** -/
theorem ofJson?_toJson_iff (d : Description) :
    Description.ofJson? d.toJson = some d ↔ d.IsFlat :=
  ⟨isFlat_of_ofJson?, ofJson?_toJson⟩

lemma writable_toJson (d : Description) : Writable d.toJson := by
  refine .obj (List.forall_mem_append.2 ⟨?_, ?_⟩)
  · simp only [List.forall_mem_cons]
    exact ⟨.str _, .str _, .str _, by simp⟩
  · intro field hfield
    obtain ⟨e, -, rfl⟩ := List.mem_map.1 hfield
    exact .str _

/-- The text of a flat description is read as the description. -/
lemma bind_parse?_pretty (h : d.IsFlat) :
    (parse? d.toJson.pretty).bind Description.ofJson? = some d := by
  rw [parse?_pretty (writable_toJson d), Option.bind_some, reread, mapNumbers_toJson]
  exact ofJson?_toJson h

end Description

/-! ## The features of a snippet -/

section Snippet

variable {b : Bundle}

/-- No bundle adds a feature under the name of a base feature, and none adds a ratio that is not
finite. -/
lemma forall_mem_extract (hb : b ∈ bundles) (text : List Char) :
    ∀ e ∈ (b.extract text).entries, e.1 ∉ baseFeatures ∧ e.2.IsFinite := by
  simp only [bundles, List.mem_cons, List.not_mem_nil, or_false] at hb
  rcases hb with rfl | rfl
  · exact Table.forall_mem_ofList (by simp [baseFeatures, FeatureValue.IsFinite])
  · exact Table.forall_mem_ofList (by simp [baseFeatures, FeatureValue.IsFinite])

/-- Every bundle adds a feature to every text. -/
lemma isEmpty_extract (hb : b ∈ bundles) (text : List Char) :
    (b.extract text).isEmpty = false := by
  have hcount : "num_functions" ∈ (b.extract text).names := by
    rw [Table.mem_names_iff]
    simp only [bundles, List.mem_cons, List.not_mem_nil, or_false] at hb
    rcases hb with rfl | rfl
    · simp [Python.bundle, Python.extract, Table.ofList, Table.insertAll]
    · simp [JavaScript.bundle, JavaScript.extract, Table.ofList, Table.insertAll]
  obtain ⟨e, he, -⟩ := List.mem_map.1 hcount
  exact List.isEmpty_eq_false_iff.2 (List.ne_nil_of_mem he)

lemma isSome_bundleFor?_iff (tag : String) :
    (bundleFor? tag).isSome = true ↔ Text.lowerCase tag ∈ supportedLanguages := by
  rw [bundleFor?, List.find?_isSome, supportedLanguages, List.mem_flatMap]
  simp only [Bundle.handlesLanguage, List.contains_iff_mem]

lemma isFlat_extractFeatures (code language : String) : (extractFeatures code language).IsFlat := by
  have hextra : ∀ e ∈ (extractFeatures code language).extra.entries,
      e.1 ∉ baseFeatures ∧ e.2.IsFinite := by
    simp only [extractFeatures]
    split
    · rename_i b hb
      exact forall_mem_extract (List.mem_of_find?_eq_some hb) code.toList
    · exact fun e he => absurd he List.not_mem_nil
  refine ⟨fun name hname => ?_, fun e he => (hextra e he).2⟩
  obtain ⟨e, he, rfl⟩ := List.mem_map.1 hname
  exact (hextra e he).1

/-- A snippet has features of its language exactly when its language is a supported one. -/
lemma hasLanguageFeatures_extractFeatures_iff (code language : String) :
    (extractFeatures code language).hasLanguageFeatures = true ↔
      Text.lowerCase language ∈ supportedLanguages := by
  rw [← isSome_bundleFor?_iff, FeatureSet.hasLanguageFeatures, extractFeatures]
  cases hb : bundleFor? language with
  | none => simp [Table.isEmpty]
  | some b => simp [isEmpty_extract (List.mem_of_find?_eq_some hb) code.toList]

end Snippet

/-! ## The description of a composite -/

section Composite

variable {name : String}

lemma Description.isFlat_iff {d : Description} :
    d.IsFlat ↔ ∀ name ∈ descriptionFields, d.details.get? name = none := by
  constructor
  · intro h name hname
    by_contra hsome
    exact h name (Table.mem_names_iff.2 (Option.isSome_iff_ne_none.2 hsome)) hname
  · intro h name hname hfield
    rw [Table.mem_names_iff, h name hfield] at hname
    cases hname

/-- A composite adds no detail under the name of a field. -/
lemma get?_layer_of_mem_descriptionFields (hname : name ∈ descriptionFields)
    (primary : Description) (secondary : Option Description) :
    (primary.layer secondary).details.get? name = primary.details.get? name := by
  have hletter : ∀ name ∈ descriptionFields, name.toList.head? ≠ some 's' ∧ name ≠ "primary" := by
    decide
  obtain ⟨hhead, hprimary⟩ := hletter name hname
  have hsecondary : name ≠ "secondary" := by
    rintro rfl
    exact hhead rfl
  have hprefixed : ∀ key, "secondary." ++ key ≠ name := by
    rintro key rfl
    simp at hhead
  cases secondary with
  | none => rw [Description.layer, Table.get?_insert, if_neg hprimary]
  | some s =>
    rw [Description.layer, get?_foldl_insertNew_of_ne _ hprefixed, Table.get?_insert,
      if_neg hsecondary, Table.get?_insert, if_neg hprimary]

namespace Analyzer

/-- The description of a tree is flat exactly when that of its leader is. -/
lemma isFlat_describe_iff (a : Analyzer) : a.describe.IsFlat ↔ a.leader.describe.IsFlat := by
  have hlayer : ∀ (primary : Description) (secondary : Option Description),
      (primary.layer secondary).IsFlat ↔ primary.IsFlat := by
    intro primary secondary
    rw [Description.isFlat_iff, Description.isFlat_iff]
    exact forall₂_congr fun name hname => by
      rw [get?_layer_of_mem_descriptionFields hname]
  induction a with
  | heuristic settings => exact Iff.rfl
  | model classifier => exact Iff.rfl
  | alone primary ih => exact (hlayer _ none).trans ih
  | layered primary secondary ih _ => exact (hlayer _ _).trans ih

lemma isFlat_describe_heuristic (settings : Settings) : (heuristic settings).describe.IsFlat := by
  have hnames : ∀ e ∈ (heuristic settings).describe.details.entries, e.1 ∉ descriptionFields :=
    Table.forall_mem_ofList (by simp [descriptionFields])
  intro name hname
  obtain ⟨e, he, rfl⟩ := List.mem_map.1 hname
  exact hnames e he

end Analyzer

end Composite

/-- **Flat records survive.**  A feature set is read from its JSON value as it was, with every value
of its own kind, exactly when its added features leave the base names alone and its ratios are
finite; its text is read as the same feature set, up to what the texts of the ratios are read as.  A
description is read from its value, and from its text, as it was when its details leave the names of
the fields alone, and from its value only then.

The records of this program are of this kind.  The features of every snippet are flat, their names
are all different, and there are features of the language exactly when the tag is a supported one in
lower case.  The description of the analyzer that is built for any settings is flat. -/
theorem flat_records_survive :
    (∀ f : FeatureSet, FeatureSet.ofJson? f.toJson = some f ↔ f.IsFlat) ∧
    (∀ f : FeatureSet, f.IsFlat → (∀ n ∈ f.counts, n ≤ maxWord) →
      (parse? f.toJson.pretty).bind FeatureSet.ofJson? = some (f.mapRatios rereadFloat)) ∧
    (∀ d : Description, Description.ofJson? d.toJson = some d ↔ d.IsFlat) ∧
    (∀ d : Description, d.IsFlat → (parse? d.toJson.pretty).bind Description.ofJson? = some d) ∧
    (∀ code language, (extractFeatures code language).IsFlat ∧
      ((extractFeatures code language).hasLanguageFeatures = true ↔
        Text.lowerCase language ∈ supportedLanguages) ∧
      (extractFeatures code language).keys.Nodup) ∧
    ∀ transport settings, (Analyzer.build transport settings).describe.IsFlat := by
  refine ⟨FeatureSet.ofJson?_toJson_iff, fun f h hcounts => FeatureSet.bind_parse?_pretty hcounts h,
    Description.ofJson?_toJson_iff, fun d => Description.bind_parse?_pretty, ?_, ?_⟩
  · intro code language
    have hflat := isFlat_extractFeatures code language
    exact ⟨hflat, hasLanguageFeatures_extractFeatures_iff code language, hflat.keys_nodup⟩
  · intro transport settings
    rw [Analyzer.isFlat_describe_iff, Analyzer.leader_build]
    exact Analyzer.isFlat_describe_heuristic settings

/-- A feature set with a count and a ratio that are both one, and a description with the version of
another program in its details. -/
theorem flat_records_survive_one :
    let whole : FeatureSet :=
      { length := 3, numLines := 1, tokens := ["x", "=", "1"], language := "Python",
        extra := .ofList [("depth", .count 1), ("density", .ratio 1), ("typed", .flag true)] }
    let taken : Description :=
      { name := "m", kind := "model", details := .ofList [("version", "2")] }
    whole.IsFlat ∧ FeatureSet.ofJson? whole.toJson = some whole ∧
      (whole.get? "depth").bind FeatureValue.asCount? = some 1 ∧
      (parse? whole.toJson.pretty).bind FeatureSet.ofJson? = some (whole.mapRatios rereadFloat) ∧
      Description.ofJson? taken.toJson ≠ some taken := by
  intro whole taken
  obtain ⟨hvalue, htext, hdescription, -, -, -⟩ := flat_records_survive
  have hone : (1 : Float).isFinite = true := by decide +kernel
  have hflat : whole.IsFlat := by
    refine ⟨by decide +kernel, Table.forall_mem_ofList ?_⟩
    simp only [List.forall_mem_cons]
    exact ⟨trivial, hone, trivial, by simp⟩
  have htaken : ¬ taken.IsFlat := fun h => h "version" (by decide +kernel) (by decide)
  have hcounts : ∀ n ∈ whole.counts, n ≤ maxWord := by decide +kernel
  refine ⟨hflat, (hvalue whole).2 hflat, by decide +kernel, htext whole hflat hcounts, ?_⟩
  exact fun h => htaken ((hdescription taken).1 h)

end Critique
