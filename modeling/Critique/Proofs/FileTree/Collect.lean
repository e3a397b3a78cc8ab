import Critique.Proofs.FileTree.Path
import Critique.Proofs.FileTree.Walk

/-!
# Which files are collected

`collectFiles` leaves some directories out, and what it finds is a function of the rest.
`Node.seen` is a tree with the directories that are left out emptied; `Node.openFiles` lists the
places of the files in the rest, and does not change when a tree is replaced by what is seen of it.
Where that is a tree of files and directories only (`Node.IsPlain`), a walk succeeds and finds
exactly the open files (`FileTree.walk_of_isPlain`), however deep they are; what is inside a
directory that is left out may be anything, links that lead nowhere or back included.

The open files are then described one by one: `Node.IsSource` says of a file's place in the tree and
its name whether it is collected.
-/

namespace Critique

namespace Node

/-! ## Trees as a walk sees them -/

/-- Is an entry a directory that a walk leaves out? -/
def isSkippedEntry (entry : OsText × Node) : Bool :=
  entry.2.isDir && isSkippedDir entry.1.lossy

mutual

/-- What a walk sees of a tree: it does not look into the directories that it leaves out. -/
def seen : Node → Node
  | dir es => dir (seenEntries es)
  | n => n

/-- What a walk sees of some entries. -/
def seenEntries : List (OsText × Node) → List (OsText × Node)
  | [] => []
  | (name, child) :: rest =>
    (name, if isSkippedEntry (name, child) then dir [] else child.seen) :: seenEntries rest

end

mutual

/-- A tree of regular files and directories, with different names in each directory. -/
def IsPlain : Node → Prop
  | file _ => True
  | locked => True
  | device => False
  | link _ => False
  | dir es => (es.map (·.1)).Nodup ∧ PlainEntries es

/-- Entries that are files and directories, and have nothing else below them. -/
def PlainEntries : List (OsText × Node) → Prop
  | [] => True
  | (name, child) :: rest => IsProperName name ∧ child.IsPlain ∧ PlainEntries rest

end

mutual

/-- The places of the files in a tree that are in no directory left out. -/
def openFiles : Node → List Location
  | file _ => [[]]
  | locked => [[]]
  | device => []
  | link _ => []
  | dir es => openEntries es

/-- The places of the files at and below some entries. -/
def openEntries : List (OsText × Node) → List Location
  | [] => []
  | (name, child) :: rest =>
    (if isSkippedEntry (name, child) then [] else child.openFiles.map (name :: ·)) ++
      openEntries rest

end

section Entries

variable {es : List (OsText × Node)} {place : Location}

lemma seenEntries_eq_map (es : List (OsText × Node)) :
    seenEntries es =
      es.map fun e => (e.1, if isSkippedEntry e then dir [] else e.2.seen) := by
  induction es with
  | nil => rfl
  | cons e es ih => simp [seenEntries, ih]

lemma plainEntries_iff : PlainEntries es ↔ ∀ e ∈ es, IsProperName e.1 ∧ e.2.IsPlain := by
  induction es with
  | nil => simp [PlainEntries]
  | cons e es ih => simp [PlainEntries, ih, and_assoc]

lemma openEntries_eq_flatMap (es : List (OsText × Node)) :
    openEntries es =
      es.flatMap fun e => if isSkippedEntry e then [] else e.2.openFiles.map (e.1 :: ·) := by
  induction es with
  | nil => rfl
  | cons e es ih => simp [openEntries, ih]

lemma mem_openEntries_iff :
    place ∈ openEntries es ↔
      ∃ e ∈ es, isSkippedEntry e = false ∧ ∃ rest ∈ e.2.openFiles, place = e.1 :: rest := by
  rw [openEntries_eq_flatMap, List.mem_flatMap]
  refine exists_congr fun e => and_congr_right fun _ => ?_
  by_cases hskip : isSkippedEntry e = true
  · simp [hskip]
  · simp [hskip, eq_comm]

end Entries

lemma isDir_seen (n : Node) : n.seen.isDir = n.isDir := by
  cases n <;> simp [seen, isDir]

mutual

/-- The open files are those of what a walk sees. -/
theorem openFiles_seen : (n : Node) → n.seen.openFiles = n.openFiles
  | .file _ => by simp [seen]
  | .locked => by simp [seen]
  | .device => by simp [seen]
  | .link _ => by simp [seen]
  | .dir es => by simp only [seen, openFiles, openEntries_seenEntries es]

theorem openEntries_seenEntries :
    (es : List (OsText × Node)) → openEntries (seenEntries es) = openEntries es
  | [] => rfl
  | (name, child) :: rest => by
    have hskip : isSkippedEntry (name, child.seen) = isSkippedEntry (name, child) := by
      simp [isSkippedEntry, isDir_seen]
    simp only [seenEntries, openEntries, openEntries_seenEntries rest]
    by_cases h : isSkippedEntry (name, child) = true
    · simp [h, openFiles, openEntries]
    · simp [h, hskip, openFiles_seen child]

end

/-! ## Trees of files and directories -/

/-- What is seen of a directory is plain when it is so of the entries that are not left out. -/
lemma isPlain_seen_dir_iff {es : List (OsText × Node)} :
    (dir es).seen.IsPlain ↔ (es.map (·.1)).Nodup ∧
      ∀ e ∈ es, IsProperName e.1 ∧ (isSkippedEntry e = false → e.2.seen.IsPlain) := by
  simp only [seen, IsPlain, plainEntries_iff, seenEntries_eq_map, List.forall_mem_map,
    List.map_map, Function.comp_def]
  refine and_congr_right fun _ => forall₂_congr fun e _ => and_congr_right fun _ => ?_
  by_cases hskip : isSkippedEntry e = true
  · simp [hskip, IsPlain, PlainEntries]
  · simp [hskip]

/-- Below a plain tree all that is not left out is plain. -/
lemma IsPlain.of_mem_entries {n : Node} (h : n.seen.IsPlain) {e : OsText × Node}
    (he : e ∈ n.entries) : isSkippedEntry e = false → e.2.seen.IsPlain := by
  cases n with
  | dir es => exact ((isPlain_seen_dir_iff.1 h).2 e he).2
  | _ => cases he

mutual

/-- A tree of files and directories is one in a walk's eyes too. -/
theorem isPlain_seen : (n : Node) → n.IsPlain → n.seen.IsPlain
  | .file _, _ => trivial
  | .locked, _ => trivial
  | .dir es, ⟨hnames, hentries⟩ =>
    isPlain_seen_dir_iff.2 ⟨hnames, fun e he =>
      ⟨(plainEntries_iff.1 hentries e he).1, fun _ => isPlain_seen_of_mem es hentries e he⟩⟩

theorem isPlain_seen_of_mem :
    (es : List (OsText × Node)) → PlainEntries es → ∀ e ∈ es, e.2.seen.IsPlain
  | (_, child) :: rest, ⟨_, hchild, hrest⟩, e, he => by
    rcases List.mem_cons.1 he with rfl | he
    · exact isPlain_seen child hchild
    · exact isPlain_seen_of_mem rest hrest e he

end

mutual

/-- No file is listed twice: in one directory the places of the files begin with different names. -/
theorem nodup_openFiles : (n : Node) → n.seen.IsPlain → n.openFiles.Nodup
  | .file _, _ => List.nodup_singleton _
  | .locked, _ => List.nodup_singleton _
  | .dir es, h => by
    obtain ⟨hnames, hentries⟩ := isPlain_seen_dir_iff.1 h
    exact nodup_openEntries es hnames hentries

theorem nodup_openEntries : (es : List (OsText × Node)) → (es.map (·.1)).Nodup →
    (∀ e ∈ es, IsProperName e.1 ∧ (isSkippedEntry e = false → e.2.seen.IsPlain)) →
    (openEntries es).Nodup
  | [], _, _ => List.nodup_nil
  | (name, child) :: rest, hnames, hentries => by
    obtain ⟨hown, hrest⟩ := List.nodup_cons.1 hnames
    obtain ⟨hchild, hbelow⟩ := List.forall_mem_cons.1 hentries
    rw [openEntries]
    refine List.nodup_append.2 ⟨?_, nodup_openEntries rest hrest hbelow, ?_⟩
    · split_ifs with hskip
      · exact List.nodup_nil
      · have hplain := hchild.2 (by simpa using hskip)
        exact (nodup_openFiles child hplain).map fun _ _ heq => (List.cons.inj heq).2
    · intro p hp q hq heq
      obtain ⟨e, he, -, below, -, hplace⟩ := mem_openEntries_iff.1 hq
      have hhead : p.head? = some name := by
        split_ifs at hp
        · cases hp
        · obtain ⟨_, -, rfl⟩ := List.mem_map.1 hp
          rfl
      rw [heq, hplace, List.head?_cons, Option.some.injEq] at hhead
      exact hown (List.mem_map.2 ⟨e, he, hhead⟩)

end

section Plain

variable {n : Node} {place : Location}

lemma isProperName_of_mem_openFiles (h : n.seen.IsPlain) (hplace : place ∈ n.openFiles) :
    ∀ name ∈ place, IsProperName name := by
  induction place generalizing n with
  | nil => simp
  | cons name rest ih =>
    cases n with
    | dir es =>
      obtain ⟨e, he, hskip, below, hbelow, heq⟩ := mem_openEntries_iff.1 hplace
      cases heq
      obtain ⟨hname, hplain⟩ := (isPlain_seen_dir_iff.1 h).2 e he
      exact List.forall_mem_cons.2 ⟨hname, ih (hplain hskip) hbelow⟩
    | _ => simp [openFiles] at hplace

/-- On the way to a file an entry is left out when the way goes on through it and its name says
so. -/
lemma isSkippedEntry_eq_false_iff {name : OsText} {child leaf : Node}
    (hleaf : child.get? place = some leaf) (hfile : leaf.isFile = true) :
    (isSkippedEntry (name, child) = false ∧ ∀ d ∈ place.dropLast, isSkippedDir d.lossy = false) ↔
      ∀ d ∈ (name :: place).dropLast, isSkippedDir d.lossy = false := by
  cases place with
  | nil =>
    obtain rfl : child = leaf := Option.some.inj hleaf
    cases child <;> simp_all [isFile, isSkippedEntry, isDir]
  | cons next rest =>
    have hdir : child.isDir = true := by
      cases child <;> simp_all [get?, entries, isDir]
    rw [List.dropLast_cons_cons, List.forall_mem_cons]
    simp [isSkippedEntry, hdir]

/-- The open files are the files that are in no directory left out. -/
lemma mem_openFiles_iff (h : n.seen.IsPlain) :
    place ∈ n.openFiles ↔
      (∃ leaf, n.get? place = some leaf ∧ leaf.isFile = true) ∧
        ∀ d ∈ place.dropLast, isSkippedDir d.lossy = false := by
  induction place generalizing n with
  | nil =>
    cases n with
    | dir es => simp [openFiles, mem_openEntries_iff, get?, isFile]
    | _ => simp [openFiles, get?, isFile]
  | cons name rest ih =>
    cases n with
    | dir es =>
      obtain ⟨hnames, hentries⟩ := isPlain_seen_dir_iff.1 h
      have hlookup : ∀ {child}, es.lookup name = some child ↔ (name, child) ∈ es :=
        lookup_eq_some_iff_mem hnames
      -- a directory is left out by its own name, so the entry decides about all below it
      simp only [openFiles, mem_openEntries_iff, List.cons.injEq, get?, entries]
      constructor
      · rintro ⟨⟨_, child⟩, he, hskip, below, hbelow, rfl, rfl⟩
        obtain ⟨⟨leaf, hleaf, hfile⟩, hdirs⟩ := (ih ((hentries _ he).2 hskip)).1 hbelow
        rw [hlookup.2 he]
        exact ⟨⟨leaf, hleaf, hfile⟩, (isSkippedEntry_eq_false_iff hleaf hfile).1 ⟨hskip, hdirs⟩⟩
      · rintro ⟨⟨leaf, hleaf, hfile⟩, hdirs⟩
        cases hchild : es.lookup name with
        | none => simp [hchild] at hleaf
        | some child =>
          simp only [hchild] at hleaf
          have he := hlookup.1 hchild
          obtain ⟨hskip, hdirs⟩ := (isSkippedEntry_eq_false_iff hleaf hfile).2 hdirs
          exact ⟨_, he, hskip, rest,
            (ih ((hentries _ he).2 hskip)).2 ⟨⟨leaf, hleaf, hfile⟩, hdirs⟩, rfl, rfl⟩
    | _ => simp [openFiles, get?, isFile, entries]

end Plain

section Size

lemma size_pos (n : Node) : 0 < n.size := by
  cases n <;> simp [size]

lemma size_le_of_mem {es : List (OsText × Node)} {e : OsText × Node} (he : e ∈ es) :
    e.2.size ≤ sizeEntries es := by
  induction es with
  | nil => cases he
  | cons own rest ih =>
    simp only [sizeEntries]
    rcases List.mem_cons.1 he with rfl | he
    · omega
    · have := ih he
      omega

lemma size_lt_of_mem_entries {n : Node} {e : OsText × Node} (he : e ∈ n.entries) :
    e.2.size < n.size := by
  cases n with
  | dir es => exact Nat.lt_succ_of_le (size_le_of_mem he)
  | _ => cases he

lemma size_le_of_get? {root n : Node} {place : Location} (h : root.get? place = some n) :
    n.size ≤ root.size := by
  induction place generalizing root with
  | nil => simp_all [get?]
  | cons name rest ih =>
    cases root with
    | dir es =>
      simp only [get?, entries] at h
      cases hchild : es.lookup name with
      | none => simp [hchild] at h
      | some child =>
        have hsize : child.size ≤ sizeEntries es := size_le_of_mem (mem_of_lookup hchild)
        have hrest := ih (by simpa only [hchild] using h)
        simp only [size]
        omega
    | _ => simp [get?, entries] at h

end Size

end Node

/-! ## The walk -/

namespace FileTree

variable {t : FileTree} {path : OsText} {node : Node}

/-- The paths of the files at and below an entry of the directory at a path. -/
def entryFiles (path : OsText) (entry : OsText × Node) : List OsText :=
  if Node.isSkippedEntry entry then []
  else entry.2.openFiles.map (Path.joinAll (Path.join path entry.1))

lemma flatten_entryFiles (path : OsText) (es : List (OsText × Node)) :
    (es.map (entryFiles path)).flatten = (Node.openEntries es).map (Path.joinAll path) := by
  rw [Node.openEntries_eq_flatMap, List.map_flatMap, ← List.flatMap_def]
  refine List.flatMap_congr fun e _ => ?_
  by_cases hskip : Node.isSkippedEntry e = true
  · simp [entryFiles, hskip]
  · simp [entryFiles, hskip, Path.joinAll]

/-- A directory that is left out is entered and then left at once. -/
lemma walkEntry_of_isSkippedEntry {depth : Nat} (hdepth : 0 < depth) (ancestors : List Ancestor)
    (path : OsText) (place : Location) {entry : OsText × Node}
    (hskip : Node.isSkippedEntry entry = true) :
    t.walkEntry depth ancestors path place entry = .ok [] := by
  obtain ⟨depth, rfl⟩ := Nat.exists_eq_add_one.2 hdepth
  obtain ⟨name, child⟩ := entry
  obtain ⟨hdir, hname⟩ := Bool.and_eq_true_iff.1 hskip
  cases child with
  | dir inside => exact walk_succ_eq_ok_iff.2 ⟨_, _, rfl, .inl ⟨inside, rfl, hname, rfl⟩⟩
  | _ => cases hdir

lemma enter_of_isPlain (h : node.seen.IsPlain) (ancestors : List Ancestor) (path : OsText)
    (place : Location) : t.enter ancestors path place node = .ok (place, node) := by
  cases node with
  | link target => exact h.elim
  | _ => rfl

/-- One step of a walk: when the walks of all entries of a directory find their open files, so does
the walk of the directory. -/
lemma walk_of_walkEntry {depth : Nat} {ancestors : List Ancestor} {top : Bool} {name : OsText}
    {place place' : Location} {entry : Node} (hplain : node.seen.IsPlain)
    (hopen : (!top && isSkippedDir name.lossy) = false ∨ node.isDir = false)
    (henter : t.enter ancestors path place entry = .ok (place', node))
    (hbelow : ∀ e ∈ node.entries,
      t.walkEntry depth ancestors path place' e = .ok (entryFiles path e)) :
    t.walk (depth + 1) ancestors top path name place entry =
      .ok (node.openFiles.map (Path.joinAll path)) := by
  refine walk_succ_eq_ok_iff.2 ⟨place', node, henter, ?_⟩
  cases node with
  | dir es =>
    have hopen : (!top && isSkippedDir name.lossy) = false :=
      hopen.resolve_right (by simp [Node.isDir])
    refine .inr (.inl ⟨es, es.map (entryFiles path), rfl, hopen, ?_, ?_⟩)
    · exact mapM_eq_ok_iff.2 (List.forall₂_map_right_iff.2 (List.forall₂_same.2 hbelow))
    · exact (flatten_entryFiles path es).symm
  | file bytes => exact .inr (.inr ⟨rfl, rfl⟩)
  | locked => exact .inr (.inr ⟨rfl, rfl⟩)
  | device => exact hplain.elim
  | link target => exact hplain.elim

/-- The walk of an entry that is plain as it is seen, or left out, finds its open files.  The depth
allowed need only be that of the tree, for no link is met on the way. -/
lemma walkEntry_of_isPlain {depth : Nat} {entry : OsText × Node} (hsize : entry.2.size ≤ depth)
    (hplain : Node.isSkippedEntry entry = false → entry.2.seen.IsPlain)
    (ancestors : List Ancestor) (path : OsText) (place : Location) :
    t.walkEntry depth ancestors path place entry = .ok (entryFiles path entry) := by
  induction depth generalizing ancestors path place entry with
  | zero => exact absurd entry.2.size_pos (by omega)
  | succ depth ih =>
    cases hskip : Node.isSkippedEntry entry with
    | true =>
      rw [walkEntry_of_isSkippedEntry depth.succ_pos ancestors path place hskip]
      simp [entryFiles, hskip]
    | false =>
      -- the entries of a directory are smaller than it, so the depth goes down with them
      have hseen : entry.2.seen.IsPlain := hplain hskip
      have hopen : (!false && isSkippedDir entry.1.lossy) = false ∨ entry.2.isDir = false :=
        (Bool.and_eq_false_iff.1 hskip).symm
      rw [walkEntry, walk_of_walkEntry hseen hopen (enter_of_isPlain hseen _ _ _)]
      · simp [entryFiles, hskip]
      · intro e he
        have hlt := Node.size_lt_of_mem_entries he
        exact ih (by omega) (hseen.of_mem_entries he) _ _ _

lemma walk_of_isPlain {depth : Nat} {ancestors : List Ancestor} {top : Bool} {name : OsText}
    {place place' : Location} {entry : Node} (hsize : node.size ≤ depth)
    (hplain : node.seen.IsPlain)
    (hopen : (!top && isSkippedDir name.lossy) = false ∨ node.isDir = false)
    (henter : t.enter ancestors path place entry = .ok (place', node)) :
    t.walk depth ancestors top path name place entry =
      .ok (node.openFiles.map (Path.joinAll path)) := by
  obtain ⟨depth, rfl⟩ := Nat.exists_eq_add_one.2 (node.size_pos.trans_le hsize)
  refine walk_of_walkEntry hplain hopen henter fun e he => ?_
  have hlt := Node.size_lt_of_mem_entries he
  exact walkEntry_of_isPlain (by omega) (hplain.of_mem_entries he) _ _ _

lemma stat_eq_ok_iff :
    t.stat path = .ok node ↔ ∃ place, t.find .follow path = .ok (place, node) := by
  rw [stat]
  cases t.find .follow path with
  | error e => simp [Except.map]
  | ok found => simp [Except.map, Prod.ext_iff, eq_comm]

/-- The files at and below a path whose tree is plain as it is seen are the open files, also where
the path itself is a link. -/
lemma regularFiles_of_isPlain (hstat : t.stat path = .ok node) (hplain : node.seen.IsPlain) :
    t.regularFiles path = .ok (node.openFiles.map (Path.joinAll path)) := by
  obtain ⟨place, hfind⟩ := stat_eq_ok_iff.1 hstat
  -- the depth allowed is more than the number of nodes
  have hsize : node.size ≤ t.walkDepth :=
    calc node.size ≤ t.root.size := Node.size_le_of_get? (get?_of_find hfind)
      _ ≤ t.root.size + 1 := Nat.le_succ _
      _ ≤ t.walkDepth := Nat.le_mul_self _
  have hwalk : ∀ q entry, t.enter [] path q entry = .ok (place, node) →
      t.walk t.walkDepth [] true path .empty q entry =
        .ok (node.openFiles.map (Path.joinAll path)) :=
    fun _ _ => walk_of_isPlain hsize hplain (.inl rfl)
  unfold regularFiles
  -- the walk starts at the path itself, and enters a link there
  rcases find_entry hfind with ⟨q, target, hlink⟩ | hsame
  · rw [hlink]
    exact hwalk _ _ (by simp [enter, hfind])
  · rw [hsame]
    exact hwalk _ _ (enter_of_isPlain hplain _ _ _)

end FileTree

/-! ## The files that are collected -/

namespace Node

/-- A file below a directory that is collected from there: it is a regular file, no directory on the
way to it is hidden or has one of the names left out, and its name is that of a source file. -/
structure IsSource (root : Node) (dirs : List OsText) (name : OsText) : Prop where
  file : ∃ leaf, root.get? (dirs ++ [name]) = some leaf ∧ leaf.isFile = true
  visible : ∀ d ∈ dirs, d.bytes.head? ≠ some Path.dot ∧ ∀ s ∈ skippedNames, d ≠ s
  source : Path.IsSourceName name

/-- The source files at and below a path, in order. -/
def sources (path : OsText) (n : Node) : List OsText :=
  ((n.openFiles.map (Path.joinAll path)).filter fun f => (languageOfPath? f).isSome).mergeSort
    Path.le

variable {n : Node} {path : OsText}

/-- A directory is left out because of its name, though its name is read as a text first: for none
of the names left out would that make a difference. -/
lemma isSkippedDir_lossy_eq_false_iff {d : OsText} :
    isSkippedDir d.lossy = false ↔
      d.bytes.head? ≠ some Path.dot ∧ ∀ s ∈ skippedNames, d ≠ s := by
  have hhidden : d.lossy.toList.head? = some '.' ↔ d.bytes.head? = some Path.dot :=
    OsText.head?_lossy_eq_some_iff (c := '.') (by decide)
  have hplain : ∀ s ∈ skippedNames, '\uFFFD' ∉ s.toList := by decide
  have hskipped : d.lossy ∈ skippedNames ↔ ∃ s ∈ skippedNames, d = s := by
    constructor
    · intro h
      exact ⟨_, h, (OsText.lossy_eq_iff (hplain _ h)).1 rfl⟩
    · rintro ⟨s, hs, rfl⟩
      rwa [OsText.lossy_ofText]
  simp [isSkippedDir, hhidden, hskipped]

/-- An open file has its place's last name, and is collected when that is the name of a source
file. -/
lemma isSource_iff (hplain : n.seen.IsPlain) (path : OsText) {dirs : List OsText} {name : OsText} :
    n.IsSource dirs name ↔ dirs ++ [name] ∈ n.openFiles ∧
      (languageOfPath? (Path.joinAll path (dirs ++ [name]))).isSome = true := by
  have hvisible : (∀ d ∈ dirs, isSkippedDir d.lossy = false) ↔
      ∀ d ∈ dirs, d.bytes.head? ≠ some Path.dot ∧ ∀ s ∈ skippedNames, d ≠ s :=
    forall₂_congr fun d _ => isSkippedDir_lossy_eq_false_iff
  have hsource : dirs ++ [name] ∈ n.openFiles →
      ((languageOfPath? (Path.joinAll path (dirs ++ [name]))).isSome = true ↔
        Path.IsSourceName name) := by
    intro hopen
    have hname := isProperName_of_mem_openFiles hplain hopen name (by simp)
    rw [Path.joinAll_concat, Path.isSome_languageOfPath?_join_iff hname]
  rw [and_congr_right hsource, mem_openFiles_iff hplain, List.dropLast_concat, hvisible]
  exact ⟨fun h => ⟨⟨h.file, h.visible⟩, h.source⟩, fun h => ⟨h.1.1, h.1.2, h.2⟩⟩

lemma mem_sources_iff (hplain : n.seen.IsPlain) (hdir : n.isDir = true) {p : OsText} :
    p ∈ n.sources path ↔
      ∃ dirs name, n.IsSource dirs name ∧ p = Path.joinAll path (dirs ++ [name]) := by
  simp only [sources, List.mem_mergeSort, List.mem_filter, List.mem_map, isSource_iff hplain path]
  constructor
  · rintro ⟨⟨place, hopen, rfl⟩, hsource⟩
    obtain rfl | ⟨dirs, name, rfl⟩ := List.eq_nil_or_concat' place
    · -- a directory is not one of the files in it
      cases n with
      | dir es => simp [openFiles, mem_openEntries_iff] at hopen
      | _ => cases hdir
    · exact ⟨dirs, name, ⟨hopen, hsource⟩, rfl⟩
  · rintro ⟨dirs, name, ⟨hopen, hsource⟩, rfl⟩
    exact ⟨⟨_, hopen, rfl⟩, hsource⟩

lemma pairwise_sources (hplain : n.seen.IsPlain) (path : OsText) :
    (n.sources path).Pairwise fun p q => Path.le p q = true ∧ Path.le q p = false := by
  have hparts : (n.openFiles.map (Path.joinAll path)).map Path.parts =
      n.openFiles.map fun place => Path.parts path ++ place.map .name := by
    rw [List.map_map]
    refine List.map_congr_left fun place hplace => ?_
    exact Path.parts_joinAll (isProperName_of_mem_openFiles hplain hplace) path
  have hnodup : ((n.openFiles.map (Path.joinAll path)).map Path.parts).Nodup := by
    rw [hparts]
    refine (nodup_openFiles n hplain).map fun p q heq => ?_
    exact List.map_injective_iff.2 (fun _ _ => Path.Part.name.inj) (List.append_cancel_left heq)
  exact Path.pairwise_mergeSort (hnodup.sublist (List.filter_sublist.map _))

end Node

/-- Where the tree below a path is plain as it is seen, what is collected is a function of what is
seen. -/
lemma collectFiles_eq_sources {t : FileTree} {path : OsText} {node : Node}
    (hstat : t.stat path = .ok node) (hplain : node.seen.IsPlain) :
    collectFiles t path = .ok (node.sources path) :=
  collectFiles_eq_ok_iff.2 ⟨_, FileTree.regularFiles_of_isPlain hstat hplain, rfl⟩

lemma sources_eq_of_seen_eq {m n : Node} (h : m.seen = n.seen) (path : OsText) :
    m.sources path = n.sources path := by
  rw [Node.sources, Node.sources, ← Node.openFiles_seen m, ← Node.openFiles_seen n, h]

/-- Collecting from a directory always succeeds in a tree that is made of regular files and
directories wherever a walk looks, as one that has nothing else in it is (`Node.isPlain_seen`).  It
gives the source files below the directory, whose own name does not matter, in strictly ascending
order and each by its own path.  Each of them has a language, and is analyzed in it when none is
asked for.  Nothing that is inside the directories left out has a say in this: in a tree of which
the same is seen, the same files are collected. -/
theorem collectFiles_of_directory {t : FileTree} {path : OsText} {node : Node}
    (hstat : t.stat path = .ok node) (hdir : node.isDir = true) (hplain : node.seen.IsPlain) :
    ∃ files, collectFiles t path = .ok files ∧
      files.Pairwise (fun p q => Path.le p q = true ∧ Path.le q p = false) ∧
      (∀ p, p ∈ files ↔
        ∃ dirs name, node.IsSource dirs name ∧ p = Path.joinAll path (dirs ++ [name])) ∧
      (∀ p ∈ files, ∃ tag ∈ supportedLanguages, languageOfPath? p = some tag ∧
        ∀ a, analyzeFile a t none p = analyzeFile a t (some tag) p) ∧
      ∀ t' node', t'.stat path = .ok node' → node'.seen = node.seen →
        collectFiles t' path = .ok files := by
  refine ⟨node.sources path, collectFiles_eq_sources hstat hplain,
    Node.pairwise_sources hplain path, fun p => Node.mem_sources_iff hplain hdir, ?_, ?_⟩
  · intro p hp
    obtain ⟨tag, htag⟩ := Option.isSome_iff_exists.1
      (List.mem_filter.1 (List.mem_mergeSort.1 hp)).2
    refine ⟨tag, mem_supportedLanguages_of_extension htag, htag, fun a => ?_⟩
    simp [analyzeFile, htag]
  · intro t' node' hstat' hseen
    rw [← sources_eq_of_seen_eq hseen path]
    exact collectFiles_eq_sources hstat' (hseen ▸ hplain)

/-- A directory that is collected from though its name is one of those left out.  In it are a hidden
source file, a file whose name has no stem, a file that cannot be read, and a directory left out
that holds a link back, a link to nowhere and a source file; it could as well be empty. -/
theorem collectFiles_of_directory_named_build :
    let venv : Node := .dir [("back", .link ".."), ("gone", .link "nowhere"), ("z.py", .locked)]
    let build (venv : Node) : Node := .dir [(".hidden.PY", .file [120]), (".py", .file []),
      ("target", .file []), ("src", .dir [("x.pyi", .locked)]), ("venv", venv)]
    let tree (venv : Node) : FileTree := { root := .dir [("build", build venv)], workDir := [] }
    (tree venv).stat "build" = .ok (build venv) ∧ (build venv).isDir = true ∧
      (build venv).seen.IsPlain ∧
      collectFiles (tree venv) "build" = .ok ["build/.hidden.PY", "build/src/x.pyi"] ∧
      collectFiles (tree (.dir [])) "build" = .ok ["build/.hidden.PY", "build/src/x.pyi"] ∧
      (build venv).IsSource ["src"] "x.pyi" := by
  intro venv build tree
  have hstat : ∀ inside, (tree inside).stat "build" = .ok (build inside) := fun _ => rfl
  have hplain : (build venv).seen.IsPlain := by
    simp [build, venv, Node.seen, Node.seenEntries, Node.isSkippedEntry, isSkippedDir, skippedNames,
      Node.isDir, Node.IsPlain, Node.PlainEntries]
  have hseen : (build (.dir [])).seen = (build venv).seen := by
    simp [build, venv, Node.seen, Node.seenEntries, Node.isSkippedEntry, isSkippedDir, skippedNames,
      Node.isDir]
  have hcollect : collectFiles (tree venv) "build" =
      .ok ["build/.hidden.PY", "build/src/x.pyi"] := by
    have hregular : (tree venv).regularFiles "build" =
        .ok ["build/.hidden.PY", "build/.py", "build/target", "build/src/x.pyi"] := by
      decide +kernel
    let found : List OsText :=
      ["build/.hidden.PY", "build/.py", "build/target", "build/src/x.pyi"]
    have hsource : (found.filter fun f => (languageOfPath? f).isSome) =
        (["build/.hidden.PY", "build/src/x.pyi"] : List OsText) := by
      decide +kernel
    refine collectFiles_eq_ok_iff.2 ⟨_, hregular, ?_⟩
    rw [hsource, List.mergeSort_of_pairwise]
    decide +kernel
  obtain ⟨files, hfiles, -, -, -, hsame⟩ :=
    collectFiles_of_directory (hstat venv) (by rfl) hplain
  obtain rfl : files = ["build/.hidden.PY", "build/src/x.pyi"] :=
    Except.ok.inj (hfiles.symm.trans hcollect)
  refine ⟨hstat venv, rfl, hplain, hcollect, hsame _ _ (hstat _) hseen, ?_⟩
  exact ⟨⟨.locked, rfl, rfl⟩, by decide, ⟨"x", "pyi", by decide, rfl, by decide, by decide +kernel⟩⟩

end Critique
