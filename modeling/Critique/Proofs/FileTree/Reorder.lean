import Critique.FileTree.Walk
import Mathlib.Data.List.Forall2
import Mathlib.Data.List.Nodup
import Mathlib.Data.List.Perm.Basic

/-!
# The order of directory entries

A directory lists its entries in some order, and nothing that is looked up by a path depends on it.
`Node.Reordered` relates two trees that differ only in these orders, at any depth.  The names in a
directory must be such as entries have, and different as bytes, as they are on any disk
(`Node.WellNamed`): a tree with two entries of one name would show the first of them, and that
depends on the order.

Look-ups follow links and start again from the root, so the relation is carried through one run
along names (`Step.Reordered.descend`), then through all links (`lookUp_reordered`).  What can be
asked about a path comes out the same: the bytes and the text of a file, and whether there is a
file or a directory.
-/

namespace Critique

namespace Node

/-! ## Names -/

/-- A name that can be written in a path: it is not empty, and no slash is in it. -/
def IsName (name : OsText) : Prop :=
  name ≠ .empty ∧ Path.slash ∉ name.bytes

/-- A name that an entry of a directory can have: the two idle names are not among them. -/
def IsProperName (name : OsText) : Prop :=
  IsName name ∧ name ≠ Path.hereName ∧ name ≠ Path.upName

mutual

/-- In every directory the names are different from each other, and are such as entries have. -/
def WellNamed : Node → Prop
  | dir es => (es.map (·.1)).Nodup ∧ WellNamedEntries es
  | _ => True

/-- The names of some entries are such as entries have, and so are all names below them. -/
def WellNamedEntries : List (OsText × Node) → Prop
  | [] => True
  | (name, child) :: rest => IsProperName name ∧ child.WellNamed ∧ WellNamedEntries rest

end

lemma wellNamedEntries_iff {es : List (OsText × Node)} :
    WellNamedEntries es ↔ ∀ e ∈ es, IsProperName e.1 ∧ e.2.WellNamed := by
  induction es with
  | nil => simp [WellNamedEntries]
  | cons e es ih => simp [WellNamedEntries, ih, and_assoc]

lemma WellNamed.of_mem {es : List (OsText × Node)} (h : (dir es).WellNamed) {e : OsText × Node}
    (he : e ∈ es) : IsProperName e.1 ∧ e.2.WellNamed :=
  wellNamedEntries_iff.1 (And.right (by simpa only [WellNamed] using h)) e he

lemma WellNamed.nodup {es : List (OsText × Node)} (h : (dir es).WellNamed) :
    (es.map (·.1)).Nodup :=
  And.left (by simpa only [WellNamed] using h)

section Lookup

variable {es fs : List (OsText × Node)} {name : OsText} {child : Node}

lemma mem_of_lookup (h : es.lookup name = some child) : (name, child) ∈ es := by
  obtain ⟨before, after, rfl, -⟩ := List.lookup_eq_some_iff.1 h
  simp

/-- With different names, an entry is found exactly when it is there. -/
lemma lookup_eq_some_iff_mem (h : (es.map (·.1)).Nodup) :
    es.lookup name = some child ↔ (name, child) ∈ es := by
  refine ⟨mem_of_lookup, fun hmem => ?_⟩
  obtain ⟨before, after, rfl⟩ := List.append_of_mem hmem
  refine List.lookup_eq_some_iff.2 ⟨before, after, rfl, fun p hp => ?_⟩
  rw [List.map_append, List.map_cons, List.nodup_append] at h
  have hne := h.2.2 p.1 (List.mem_map_of_mem hp) name List.mem_cons_self
  simpa using Ne.symm hne

lemma lookup_of_perm (h : es.Perm fs) (hnames : (es.map (·.1)).Nodup) :
    es.lookup name = fs.lookup name := by
  have hnames' : (fs.map (·.1)).Nodup := (h.map _).nodup_iff.1 hnames
  refine Option.ext fun child => ?_
  rw [lookup_eq_some_iff_mem hnames, lookup_eq_some_iff_mem hnames', h.mem_iff]

end Lookup

/-! ## Trees with their entries in another order -/

mutual

/-- The same tree, with the entries of its directories in any order. -/
inductive Reordered : Node → Node → Prop where
  | file (bytes : List UInt8) : Reordered (.file bytes) (.file bytes)
  | locked : Reordered .locked .locked
  | device : Reordered .device .device
  | link (target : OsText) : Reordered (.link target) (.link target)
  | dir {es gs fs : List (OsText × Node)} (hbelow : ReorderedEntries es gs) (hperm : gs.Perm fs) :
      Reordered (.dir es) (.dir fs)

/-- The same entries in the same order, with the trees below them reordered. -/
inductive ReorderedEntries : List (OsText × Node) → List (OsText × Node) → Prop where
  | nil : ReorderedEntries [] []
  | cons (name : OsText) {m n : Node} {es fs : List (OsText × Node)} (h : Reordered m n)
      (hrest : ReorderedEntries es fs) : ReorderedEntries ((name, m) :: es) ((name, n) :: fs)

end

mutual

theorem Reordered.refl : (n : Node) → Reordered n n
  | .file bytes => .file bytes
  | .locked => .locked
  | .device => .device
  | .link target => .link target
  | .dir es => .dir (ReorderedEntries.refl es) (.refl es)

theorem ReorderedEntries.refl : (es : List (OsText × Node)) → ReorderedEntries es es
  | [] => .nil
  | (name, child) :: rest => .cons name (Reordered.refl child) (ReorderedEntries.refl rest)

end

lemma sizeEntries_of_perm {es fs : List (OsText × Node)} (h : es.Perm fs) :
    sizeEntries es = sizeEntries fs := by
  induction h with
  | nil => rfl
  | cons e _ ih => simp only [sizeEntries, ih]
  | swap e f es => simp only [sizeEntries, Nat.add_left_comm]
  | trans _ _ ih ih' => exact ih.trans ih'

mutual

theorem Reordered.size_eq {m n : Node} : Reordered m n → m.size = n.size
  | .file _ => rfl
  | .locked => rfl
  | .device => rfl
  | .link _ => rfl
  | .dir hbelow hperm => by
    simp only [size, ReorderedEntries.size_eq hbelow, sizeEntries_of_perm hperm]

theorem ReorderedEntries.size_eq {es fs : List (OsText × Node)} :
    ReorderedEntries es fs → sizeEntries es = sizeEntries fs
  | .nil => rfl
  | .cons _ h hrest => by
    simp only [sizeEntries, Reordered.size_eq h, ReorderedEntries.size_eq hrest]

end

lemma ReorderedEntries.names_eq {es fs : List (OsText × Node)} (h : ReorderedEntries es fs) :
    es.map (·.1) = fs.map (·.1) := by
  induction es generalizing fs with
  | nil =>
    cases h
    rfl
  | cons e es ih =>
    cases h with
    | cons name _ hrest => simp only [List.map_cons, ih hrest]

lemma ReorderedEntries.lookup {es fs : List (OsText × Node)} (h : ReorderedEntries es fs)
    (name : OsText) : Option.Rel Reordered (es.lookup name) (fs.lookup name) := by
  induction es generalizing fs with
  | nil =>
    cases h
    exact .none
  | cons e es ih =>
    cases h with
    | cons own hchild hrest =>
      by_cases hname : name = own
      · simpa [List.lookup_cons, hname] using Option.Rel.some hchild
      · have hne : (name == own) = false := by simpa using hname
        simpa [List.lookup_cons, hne] using ih hrest

section Get

variable {m n : Node}

lemma Reordered.isDir_eq (h : Reordered m n) : m.isDir = n.isDir := by
  cases h <;> rfl

lemma Reordered.isFile_eq (h : Reordered m n) : m.isFile = n.isFile := by
  cases h <;> rfl

/-- An entry of a directory is found whatever the order, and the trees below it are reordered. -/
lemma Reordered.lookup_entries (h : Reordered m n) (hnames : m.WellNamed) (name : OsText) :
    Option.Rel Reordered (m.entries.lookup name) (n.entries.lookup name) := by
  cases h with
  | dir hbelow hperm =>
    have hnodup := hnames.nodup
    rw [hbelow.names_eq] at hnodup
    simp only [entries]
    rw [← lookup_of_perm hperm hnodup]
    exact hbelow.lookup name
  | _ => exact .none

lemma WellNamed.of_lookup_entries (h : m.WellNamed) {name : OsText} {child : Node}
    (hchild : m.entries.lookup name = some child) : child.WellNamed := by
  cases m with
  | dir es => exact (h.of_mem (mem_of_lookup hchild)).2
  | _ => cases hchild

lemma WellNamed.get? (h : m.WellNamed) {place : Location} {node : Node}
    (hnode : m.get? place = some node) : node.WellNamed := by
  induction place generalizing m with
  | nil =>
    cases hnode
    exact h
  | cons name rest ih =>
    rw [Node.get?] at hnode
    cases hchild : m.entries.lookup name with
    | none => simp [hchild] at hnode
    | some child =>
      simp only [hchild] at hnode
      exact ih (h.of_lookup_entries hchild) hnode

lemma Reordered.get? (h : Reordered m n) (hnames : m.WellNamed) (place : Location) :
    Option.Rel Reordered (m.get? place) (n.get? place) := by
  induction place generalizing m n with
  | nil => exact .some h
  | cons name rest ih =>
    have hlookup := h.lookup_entries hnames name
    rw [Node.get?, Node.get?]
    cases hchild : m.entries.lookup name with
    | none =>
      rw [hchild] at hlookup
      generalize n.entries.lookup name = other at hlookup
      cases hlookup
      exact .none
    | some child =>
      rw [hchild] at hlookup
      generalize n.entries.lookup name = other at hlookup
      cases hlookup with
      | some hbelow => exact ih hbelow (hnames.of_lookup_entries hchild)

end Get

end Node

/-! ## Look-ups -/

/-- Look-ups that end at the same place, at trees that are reordered. -/
inductive Place.Reordered : Place → Place → Prop where
  | found (place : Location) {m n : Node} (h : m.Reordered n) :
      Reordered (.found place m) (.found place n)
  | absent (place : Location) : Reordered (.absent place) (.absent place)

/-- Runs along names that end in the same way. -/
inductive Step.Reordered : Step → Step → Prop where
  | arrived {p q : Place} (h : p.Reordered q) : Reordered (.arrived p) (.arrived q)
  | failed (e : IoError) : Reordered (.failed e) (.failed e)
  | jump (base : Location) (target : OsText) (rest : List OsText) :
      Reordered (.jump base target rest) (.jump base target rest)

lemma Step.Reordered.ite {c : Prop} [Decidable c] {x y x' y' : Step} (h : x.Reordered x')
    (h' : y.Reordered y') : Step.Reordered (if c then x else y) (if c then x' else y') := by
  by_cases hc : c
  · rwa [if_pos hc, if_pos hc]
  · rwa [if_neg hc, if_neg hc]

/-- Computations that fail alike or succeed with related results. -/
inductive Agree {ε α β : Type} (R : α → β → Prop) : Except ε α → Except ε β → Prop where
  | ok {a : α} {b : β} (h : R a b) : Agree R (.ok a) (.ok b)
  | error (e : ε) : Agree R (.error e) (.error e)

section LookUp

variable {root root' : Node}

/-- One run along names, up to the first link that has to be followed. -/
lemma Step.Reordered.descend (h : root.Reordered root') (hnames : root.WellNamed) (aim : Aim)
    (place : Location) (names : List OsText) :
    Step.Reordered (Critique.descend root aim place names)
      (Critique.descend root' aim place names) := by
  induction names generalizing place with
  | nil =>
    have hget := h.get? hnames place
    rw [Critique.descend, Critique.descend]
    generalize root.get? place = x at hget
    generalize root'.get? place = y at hget
    cases hget with
    | none => exact .failed _
    | some hnode => exact .arrived (.found place hnode)
  | cons name rest ih =>
    have hget := h.get? hnames place
    have hbelow : ∀ {node}, root.get? place = some node → node.WellNamed := hnames.get?
    rw [Critique.descend, Critique.descend]
    generalize root.get? place = x at hget hbelow
    generalize root'.get? place = y at hget
    cases hget with
    | none => exact .failed _
    | some hnode =>
      -- only the entry of the next name is looked at, and names are unique
      have hlookup := hnode.lookup_entries (hbelow rfl) name
      cases hnode with
      | dir hentries hperm =>
        simp only [Node.entries] at hlookup
        dsimp only
        generalize List.lookup name _ = x at hlookup
        generalize List.lookup name _ = y at hlookup
        refine .ite (ih place) (.ite (ih _) (.ite (.failed _) (.ite (.failed _) ?_)))
        cases hlookup with
        | none => exact .ite (.arrived (.absent _)) (.failed _)
        | some hchild =>
          cases hchild with
          | link target => exact .ite (.arrived (.found _ (.link target))) (.jump _ _ _)
          | _ => exact ih _
      | _ => exact .failed _

/-- Links are followed in the same way, so whole look-ups end alike. -/
lemma lookUp_reordered (h : root.Reordered root') (hnames : root.WellNamed) (aim : Aim)
    (links : Nat) (place : Location) (names : List OsText) :
    Agree Place.Reordered (lookUp root aim links place names)
      (lookUp root' aim links place names) := by
  -- on the links that may still be followed: each jump starts a new run with one less
  induction links generalizing place names with
  | zero =>
    have hstep := Step.Reordered.descend h hnames aim place names
    rw [lookUp, lookUp]
    generalize descend root aim place names = x at hstep
    generalize descend root' aim place names = y at hstep
    cases hstep with
    | arrived hplace => exact .ok hplace
    | failed e => exact .error e
    | jump base target rest => exact .error _
  | succ links ih =>
    have hstep := Step.Reordered.descend h hnames aim place names
    rw [lookUp, lookUp]
    generalize descend root aim place names = x at hstep
    generalize descend root' aim place names = y at hstep
    cases hstep with
    | arrived hplace => exact .ok hplace
    | failed e => exact .error e
    | jump base target rest =>
      by_cases hempty : target.isEmpty = true
      · simp only [hempty, if_true]
        exact .error _
      · simp only [hempty, if_false, Bool.false_eq_true]
        exact ih _ _

end LookUp

namespace FileTree

/-- The same files, with the entries of all directories in any order. -/
structure Reordered (t t' : FileTree) : Prop where
  root : t.root.Reordered t'.root
  workDir : t.workDir = t'.workDir

variable {t t' : FileTree}

lemma Reordered.locateNames (h : t.Reordered t') (hnames : t.root.WellNamed) (aim : Aim)
    (path : OsText) (names : List OsText) :
    Agree Place.Reordered (t.locateNames aim path names) (t'.locateNames aim path names) := by
  unfold FileTree.locateNames
  rw [← h.workDir]
  split_ifs
  · exact .error _
  · exact .error _
  · exact .error _
  · exact lookUp_reordered h.root hnames aim 40 _ names
  · exact lookUp_reordered h.root hnames aim 40 _ names

/-- What is found at a path, with its place. -/
lemma Reordered.find (h : t.Reordered t') (hnames : t.root.WellNamed) (aim : Aim)
    (path : OsText) :
    Agree (fun x y => x.1 = y.1 ∧ Node.Reordered x.2 y.2) (t.find aim path) (t'.find aim path) := by
  have hlocate := h.locateNames hnames aim path (Path.steps path)
  unfold FileTree.find FileTree.locate
  generalize t.locateNames aim path (Path.steps path) = x at hlocate
  generalize t'.locateNames aim path (Path.steps path) = y at hlocate
  cases hlocate with
  | error e => exact .error e
  | ok hplace =>
    cases hplace with
    | found place hnode => exact .ok ⟨rfl, hnode⟩
    | absent place => exact .error _

lemma Reordered.stat (h : t.Reordered t') (hnames : t.root.WellNamed) (path : OsText) :
    Agree Node.Reordered (t.stat path) (t'.stat path) := by
  have hfind := h.find hnames .follow path
  unfold FileTree.stat
  generalize t.find .follow path = x at hfind
  generalize t'.find .follow path = y at hfind
  cases hfind with
  | error e => exact .error e
  | ok hxy => exact .ok hxy.2

lemma Reordered.read_eq (h : t.Reordered t') (hnames : t.root.WellNamed) (path : OsText) :
    t.read path = t'.read path := by
  have hstat := h.stat hnames path
  unfold FileTree.read
  generalize t.stat path = x at hstat
  generalize t'.stat path = y at hstat
  cases hstat with
  | error e => rfl
  | ok hnode => cases hnode <;> rfl

lemma Reordered.readText_eq (h : t.Reordered t') (hnames : t.root.WellNamed) (path : OsText) :
    t.readText path = t'.readText path := by
  unfold FileTree.readText
  rw [h.read_eq hnames]

lemma Reordered.hasFile_eq (h : t.Reordered t') (hnames : t.root.WellNamed) (path : OsText) :
    t.hasFile path = t'.hasFile path := by
  have hstat := h.stat hnames path
  unfold FileTree.hasFile
  generalize t.stat path = x at hstat
  generalize t'.stat path = y at hstat
  cases hstat with
  | error e => rfl
  | ok hnode => exact hnode.isFile_eq

lemma Reordered.currentDir_eq (h : t.Reordered t') (hnames : t.root.WellNamed) :
    t.currentDir = t'.currentDir := by
  have hget := h.root.get? hnames t.workDir
  unfold FileTree.currentDir FileTree.workPath
  rw [← h.workDir]
  generalize t.root.get? t.workDir = x at hget
  generalize t'.root.get? t.workDir = y at hget
  cases hget with
  | none => rfl
  | some hnode => cases hnode <;> rfl

lemma Reordered.walkDepth_eq (h : t.Reordered t') : t.walkDepth = t'.walkDepth := by
  simp only [walkDepth, h.root.size_eq]

end FileTree

end Critique
