import Critique.Codec.SettingsYaml
import Critique.Proofs.Yaml.Number

/-!
# Settings, written and read again

The tree of settings is read as the settings that it was made from (`Settings.ofNode?_toNode`).
What is written and what may be missing are not the same: a reader takes a default for every field
that is not there, and the writer leaves out nothing but a model that is not there.  So no default
is ever taken for something that was written, and in particular an empty weight table stays empty.

The text of settings starts with the name of a field.  It is never the blank text that stands for
the default settings (`Settings.isAllBlank_toYaml`).
-/

namespace Critique

/-! ## Tables -/

namespace Table

variable {α : Type}

lemma insertEntry_of_forall_lt {name : String} (value : α) {es : List (String × α)}
    (h : ∀ e ∈ es, e.1 < name) : insertEntry name value es = es ++ [(name, value)] := by
  induction es with
  | nil => rfl
  | cons e es ih =>
    obtain ⟨own, v⟩ := e
    have hown : own < name := h (own, v) List.mem_cons_self
    have hlt : ¬ name < own := fun hlt => String.lt_irrefl _ (String.lt_trans hlt hown)
    have hne : ¬ name = own := fun heq => String.lt_irrefl _ (heq ▸ hown)
    rw [insertEntry, if_neg hlt, if_neg hne, ih fun e he => h e (List.mem_cons_of_mem _ he)]
    rfl

lemma entries_insertAll {t : Table α} {es : List (String × α)}
    (h : (t.entries ++ es).Pairwise fun a b => a.1 < b.1) :
    (t.insertAll es).entries = t.entries ++ es := by
  induction es generalizing t with
  | nil => exact (List.append_nil _).symm
  | cons e es ih =>
    obtain ⟨name, value⟩ := e
    have hlast : ∀ e ∈ t.entries, e.1 < name := fun e he =>
      (List.pairwise_append.1 h).2.2 e he (name, value) List.mem_cons_self
    have hinsert : (t.insert name value).entries = t.entries ++ [(name, value)] :=
      insertEntry_of_forall_lt value hlast
    have hrest := ih (t := t.insert name value) (by rw [hinsert]; simpa using h)
    rw [hinsert] at hrest
    simpa [insertAll] using hrest

/-- The entries of a table make that table. -/
lemma ofList_entries (t : Table α) : ofList t.entries = t := by
  apply Table.ext
  exact entries_insertAll (t := empty) t.ascending

end Table

/-! ## Comparing trees -/

namespace Yaml

mutual

/-- Are two trees the same? -/
def Node.same : Node → Node → Bool
  | .scalar text style tag, .scalar text' style' tag' =>
    text = text' && style = style' && tag = tag'
  | .seq items, .seq items' => sameItems items items'
  | .map pairs, .map pairs' => samePairs pairs pairs'
  | .alias id, .alias id' => id = id'
  | _, _ => false

def sameItems : List Node → List Node → Bool
  | [], [] => true
  | n :: ns, n' :: ns' => n.same n' && sameItems ns ns'
  | _, _ => false

def samePairs : List (Node × Node) → List (Node × Node) → Bool
  | [], [] => true
  | (k, v) :: ps, (k', v') :: ps' => k.same k' && v.same v' && samePairs ps ps'
  | _, _ => false

end

mutual

lemma Node.eq_of_same : {m n : Node} → m.same n = true → m = n
  | .scalar .., .scalar .., h => by simpa [Node.same, and_assoc] using h
  | .seq _, .seq _, h => congrArg _ (eq_of_sameItems (by simpa only [Node.same] using h))
  | .map _, .map _, h => congrArg _ (eq_of_samePairs (by simpa only [Node.same] using h))
  | .alias _, .alias _, h => by simpa [Node.same] using h

lemma eq_of_sameItems : {ms ns : List Node} → sameItems ms ns = true → ms = ns
  | [], [], _ => rfl
  | m :: ms, n :: ns, h => by
    simp only [sameItems, Bool.and_eq_true] at h
    rw [Node.eq_of_same h.1, eq_of_sameItems h.2]

lemma eq_of_samePairs : {ps qs : List (Node × Node)} → samePairs ps qs = true → ps = qs
  | [], [], _ => rfl
  | (k, v) :: ps, (k', v') :: qs, h => by
    simp only [samePairs, Bool.and_eq_true] at h
    rw [Node.eq_of_same h.1.1, Node.eq_of_same h.1.2, eq_of_samePairs h.2]

end

mutual

lemma Node.same_self : (n : Node) → n.same n = true
  | .scalar .. => by simp [Node.same]
  | .seq items => by rw [Node.same, sameItems_self items]
  | .map pairs => by rw [Node.same, samePairs_self pairs]
  | .alias _ => by simp [Node.same]

lemma sameItems_self : (ns : List Node) → sameItems ns ns = true
  | [] => rfl
  | n :: ns => by rw [sameItems, n.same_self, sameItems_self ns, Bool.and_self]

lemma samePairs_self : (ps : List (Node × Node)) → samePairs ps ps = true
  | [] => rfl
  | (k, v) :: ps => by
    rw [samePairs, k.same_self, v.same_self, samePairs_self ps, Bool.and_self, Bool.and_self]

end

instance : DecidableEq Node := fun m n =>
  decidable_of_iff (m.same n = true) ⟨Node.eq_of_same, fun h => h ▸ m.same_self⟩

end Yaml

/-! ## Scalars and mappings -/

namespace Yaml.Document

variable (d : Document)

lemma text?_ofText (s : String) : d.text? (.ofText s) = some s := rfl

lemma word?_ofNat (n : UInt64) : d.word? (.ofNat n.toNat) = some n := by
  have hread : d.word? (.ofNat n.toNat) =
      (natural? (Nat.pow 2 64) (Nat.toDigits 10 n.toNat)).map UInt64.ofNat := by
    simp [word?, resolve?, Node.ofNat, Node.bare?]
  rw [hread, natural?_toDigits n.toNat_lt, Option.map_some, UInt64.ofNat_toNat]

lemma float?_ofFloat (x : Float) : d.float? (.ofFloat x) = some x := by
  have hread : d.float? (.ofFloat x) = Yaml.float? (layout.render x).toList := by
    simp [float?, resolve?, Node.ofFloat, Node.bare?]
  rw [hread, float?_render]

lemma fields?_map (fields : List (String × Node)) :
    d.fields? (.map (fields.map fun f => (.ofText f.1, f.2))) = some fields := by
  have hpairs : (fields.map fun f => (Node.ofText f.1, f.2)).mapM
      (fun p : Node × Node => (d.text? p.1).map fun key => (key, p.2)) = some fields := by
    induction fields with
    | nil => rfl
    | cons f fields ih =>
      rw [List.map_cons, List.mapM_cons, ih]
      rfl
  exact hpairs

end Yaml.Document

open Yaml

/-! ## Trees of settings -/

variable (d : Document)

lemma weightsOfYaml?_weightsToYaml (w : Table Float) :
    weightsOfYaml? d (weightsToYaml w) = some w := by
  have hfields : d.fields? (weightsToYaml w) =
      some (w.entries.map fun e => (e.1, Yaml.Node.ofFloat e.2)) := by
    rw [← d.fields?_map, List.map_map]
    rfl
  have hentries : ∀ es : List (String × Float),
      (es.map fun e => (e.1, Yaml.Node.ofFloat e.2)).mapM
        (fun f : String × Yaml.Node => (d.float? f.2).map fun x => (f.1, x)) = some es := by
    intro es
    induction es with
    | nil => rfl
    | cons e es ih =>
      rw [List.map_cons, List.mapM_cons, ih, d.float?_ofFloat]
      rfl
  simp only [weightsOfYaml?, hfields, Option.bind_eq_bind, Option.bind_some, hentries]
  rw [Table.ofList_entries]
  rfl

lemma ModelSettings.ofYaml?_toNode (m : ModelSettings) : ofYaml? d m.toNode = some m := by
  have hfields : d.fields? m.toNode = some [("endpoint", .ofText m.endpoint),
      ("model_name", .ofText m.modelName), ("timeout_ms", .ofNat m.timeoutMs.toNat)] := by
    rw [← d.fields?_map]
    rfl
  simp [ofYaml?, hfields, Document.field?, d.text?_ofText, d.word?_ofNat]

/-- The tree of settings is read as those settings. -/
lemma Settings.ofNode?_toNode (s : Settings) : ofNode? d s.toNode = some s := by
  have hweights := weightsOfYaml?_weightsToYaml d s.weights
  obtain ⟨⟨maxLineLength, complexityThreshold, weights⟩, model⟩ := s
  -- the model is a field only where there is one; the reader takes a missing one as none
  cases model with
  | none =>
    have hfields : d.fields? (toNode ⟨⟨maxLineLength, complexityThreshold, weights⟩, none⟩) =
        some [("max_line_length", .ofNat maxLineLength.toNat),
          ("complexity_threshold", .ofFloat complexityThreshold),
          ("complexity_weights", weightsToYaml weights)] := by
      rw [← d.fields?_map]
      rfl
    simp [ofNode?, hfields, Document.field?, d.word?_ofNat, d.float?_ofFloat, hweights]
    rfl
  | some m =>
    have hfields : d.fields? (toNode ⟨⟨maxLineLength, complexityThreshold, weights⟩, some m⟩) =
        some [("max_line_length", .ofNat maxLineLength.toNat),
          ("complexity_threshold", .ofFloat complexityThreshold),
          ("complexity_weights", weightsToYaml weights), ("model", m.toNode)] := by
      rw [← d.fields?_map]
      rfl
    have hmodel : d.option? (ModelSettings.ofYaml? d) m.toNode = some (some m) := by
      have hread : d.option? (ModelSettings.ofYaml? d) m.toNode =
        (ModelSettings.ofYaml? d m.toNode).map some := rfl
      rw [hread, m.ofYaml?_toNode d, Option.map_some]
    simp [ofNode?, hfields, Document.field?, d.word?_ofNat, d.float?_ofFloat, hweights,
      hmodel]

/-! ## Texts of settings -/

/-- The text of settings starts with the name of a field, so that something stands in it. -/
lemma Settings.isAllBlank_toYaml (s : Settings) : Text.isAllBlank s.toYaml = false := by
  have hkey : keyChars 0 (.ofText "max_line_length") = "max_line_length".toList := by decide +kernel
  obtain ⟨rest, hrest⟩ : ∃ rest, s.toYaml.toList = "max_line_length".toList ++ rest := by
    obtain ⟨limits, model⟩ := s
    cases model <;>
      exact ⟨_, by simp only [toYaml, toNode, List.cons_append, Yaml.Node.render, pairsChars, hkey,
        String.toList_ofList, List.append_assoc, pad, List.replicate_zero, List.nil_append]; rfl⟩
  have hblank : Text.isBlank 'm' = false := by decide
  have hlist : "max_line_length".toList = 'm' :: "ax_line_length".toList := by decide
  simp [Text.isAllBlank, hrest, hlist, hblank]

/-- The text of settings is read as the tree that it was written from. -/
def Settings.ReadBack (s : Settings) : Prop :=
  (Document.parse? s.toYaml).bind (·.root) = some s.toNode

instance (s : Settings) : Decidable s.ReadBack :=
  inferInstanceAs (Decidable ((Document.parse? s.toYaml).bind (·.root) = some s.toNode))

lemma Settings.ReadBack.ofYaml?_toYaml {s : Settings} (h : s.ReadBack) :
    ofYaml? s.toYaml = some s := by
  obtain ⟨d, hparse, hroot⟩ := Option.bind_eq_some_iff.1 h
  simp only [ofYaml?, s.isAllBlank_toYaml, Bool.false_eq_true, if_false, hparse, Option.bind_some,
    ofDocument?, hroot, Option.getD_some]
  exact s.ofNode?_toNode d

end Critique
