import Critique.Proofs.Command.Analysis
import Critique.Proofs.FileTree.LookUp
import Critique.Proofs.FileTree.Path

/-!
# What a walk finds

A walk goes through the entries of each directory in the order in which they are listed, and that
order shows only in the order of what it finds: in the same tree with its entries in any other order
it finds the same paths (`FileTree.Reordered.walk`).  It also finds no two paths with the same parts
(`pairwise_walk`).  That is a fact about paths.  The path of an entry has the entry's name behind
the parts of its directory, so it tells the entry apart from all others of its directory, whatever
comes behind it (`Path.Below`); this holds however often the walk goes through links.
-/

namespace Critique

/-! ## Paths below a path -/

namespace Path

/-- A path with the parts of another one in front, and perhaps some more behind them. -/
def Below (dir path : OsText) : Prop :=
  parts dir <+: parts path

variable {dir name path : OsText}

lemma Below.of_join (hname : Node.IsProperName name) (h : Below (join dir name) path) :
    Below dir path := by
  rw [Below, parts_join hname] at h
  exact (List.prefix_append _ _).trans h

/-- No path is below two entries of one directory. -/
lemma eq_of_below {name' : OsText} (hname : Node.IsProperName name)
    (hname' : Node.IsProperName name') (h : Below (join dir name) path)
    (h' : Below (join dir name') path) : name = name' := by
  rw [Below, parts_join hname] at h
  rw [Below, parts_join hname'] at h'
  have hprefix := List.prefix_of_prefix_length_le h h' (by simp)
  have hparts := hprefix.eq_of_length (by simp)
  simpa using hparts

end Path

namespace FileTree

variable {t t' : FileTree} {path : OsText}

/-! ## Walks -/

/-- What the walk meets at a path is what the path shows, or what a link at it leads to. -/
lemma wellNamed_of_enter (hroot : t.root.WellNamed) {ancestors : List Ancestor}
    {place place' : Location} {node node' : Node} (hnode : node.WellNamed)
    (h : t.enter ancestors path place node = .ok (place', node')) : node'.WellNamed := by
  cases node with
  | link target =>
    simp only [enter] at h
    cases hfind : t.find .follow path with
    | error e => simp [hfind] at h
    | ok found =>
      have hfound : found.2 = node' := by
        simp only [hfind] at h
        split at h
        · cases h
        · cases h
          rfl
      exact hfound ▸ hroot.get? (get?_of_find hfind)
  | _ =>
    cases h
    exact hnode

lemma Reordered.enter (h : t.Reordered t') (hroot : t.root.WellNamed) (ancestors : List Ancestor)
    (path : OsText) (place : Location) {m n : Node} (hmn : m.Reordered n) :
    Agree (fun x y => x.1 = y.1 ∧ Node.Reordered x.2 y.2) (t.enter ancestors path place m)
      (t'.enter ancestors path place n) := by
  -- only a link asks the rest of the tree, and what it leads to is reordered as well
  cases hmn with
  | link target =>
    have hfind := h.find hroot .follow path
    simp only [FileTree.enter]
    generalize t.find .follow path = x at hfind
    generalize t'.find .follow path = y at hfind
    cases hfind with
    | error e => exact .error _
    | @ok a b hab =>
      obtain ⟨hplace, hnode⟩ := hab
      dsimp only
      rw [← hplace, ← hnode.isDir_eq]
      split
      · exact .error _
      · exact .ok ⟨rfl, hnode⟩
  | file bytes => exact .ok ⟨rfl, .file bytes⟩
  | locked => exact .ok ⟨rfl, .locked⟩
  | device => exact .ok ⟨rfl, .device⟩
  | dir hbelow hperm => exact .ok ⟨rfl, .dir hbelow hperm⟩

/-- The walk of one entry of a directory. -/
def walkEntry (t : FileTree) (depth : Nat) (ancestors : List Ancestor) (path : OsText)
    (place : Location) (entry : OsText × Node) : Except WalkError (List OsText) :=
  t.walk depth (⟨place, path⟩ :: ancestors) false (Path.join path entry.1) entry.1
    (place ++ [entry.1]) entry.2

/-- How a walk succeeds: it meets a directory that it leaves out, a directory all of whose entries
it walks, or something else than a directory. -/
lemma walk_succ_eq_ok_iff {depth : Nat} {ancestors : List Ancestor} {top : Bool} {name : OsText}
    {place : Location} {node : Node} {files : List OsText} :
    t.walk (depth + 1) ancestors top path name place node = .ok files ↔
      ∃ place' node', t.enter ancestors path place node = .ok (place', node') ∧
        ((∃ entries, node' = .dir entries ∧ (!top && isSkippedDir name.lossy) = true ∧ files = []) ∨
          (∃ entries below, node' = .dir entries ∧ (!top && isSkippedDir name.lossy) = false ∧
            entries.mapM (t.walkEntry depth ancestors path place') = .ok below ∧
            files = below.flatten) ∨
          (node'.isDir = false ∧ files = if node'.isFile then [path] else [])) := by
  rw [walk, bind_eq_ok_iff, Prod.exists]
  refine exists_congr fun place' => exists_congr fun node' => and_congr_right fun _ => ?_
  have hpure : ∀ x : List OsText, (pure x : Except WalkError _) = .ok files ↔ files = x :=
    fun x => ⟨fun h => (Except.ok.inj h).symm, fun h => congrArg _ h.symm⟩
  cases node' with
  | dir entries =>
    dsimp only
    by_cases hskip : (!top && isSkippedDir name.lossy) = true
    · rw [if_pos hskip, hpure]
      simp [hskip, Node.isDir]
    · rw [if_neg hskip, bind_eq_ok_iff]
      simp only [hpure]
      constructor
      · rintro ⟨below, hbelow, hfiles⟩
        exact .inr (.inl ⟨entries, below, rfl, by simpa using hskip, hbelow, hfiles⟩)
      · rintro (⟨_, -, hskip', -⟩ | ⟨_, below, heq, -, hbelow, hfiles⟩ | ⟨hdir, -⟩)
        · exact absurd hskip' hskip
        · cases heq
          exact ⟨below, hbelow, hfiles⟩
        · cases hdir
  | _ => simp [hpure, Node.isDir, Node.isFile]

/-- The same entries in another order, with reordered trees below them, give the same paths. -/
lemma exists_mapM_reordered {f g : OsText × Node → Except WalkError (List OsText)}
    {es gs fs : List (OsText × Node)} {below : List (List OsText)}
    (hentries : Node.ReorderedEntries es gs) (hperm : gs.Perm fs)
    (hstep : ∀ name m n, (name, m) ∈ es → m.Reordered n → ∀ l, f (name, m) = .ok l →
      ∃ l', g (name, n) = .ok l' ∧ l.Perm l')
    (h : es.mapM f = .ok below) :
    ∃ below', fs.mapM g = .ok below' ∧ below.flatten.Perm below'.flatten := by
  -- first the same entries in the same order, each with a reordered tree below it
  have hsame : ∃ found, List.Forall₂ (fun e l => g e = .ok l) gs found ∧
      List.Forall₂ List.Perm below found := by
    rw [mapM_eq_ok_iff] at h
    induction h generalizing gs fs with
    | nil =>
      cases hentries
      exact ⟨[], .nil, .nil⟩
    | cons hl _ ih =>
      cases hentries with
      | cons name hchild hrest =>
        obtain ⟨l', hl', hll'⟩ := hstep name _ _ List.mem_cons_self hchild _ hl
        obtain ⟨found, hfound, hperms⟩ := ih hrest (.refl _) fun name m n hmem =>
          hstep name m n (List.mem_cons_of_mem _ hmem)
        exact ⟨l' :: found, .cons hl' hfound, .cons hll' hperms⟩
  obtain ⟨found, hfound, hperms⟩ := hsame
  -- then the entries change places, and their results with them
  obtain ⟨below', hbelow', hpermuted⟩ := List.perm_comp_forall₂ hperm.symm hfound
  exact ⟨below', mapM_eq_ok_iff.2 hbelow',
    (List.Perm.flatten_congr hperms).trans hpermuted.symm.flatten⟩

/-- In a tree with its entries in another order a walk finds the same paths. -/
lemma Reordered.walk (h : t.Reordered t') (hroot : t.root.WellNamed) {depth : Nat}
    {ancestors : List Ancestor} {top : Bool} {path name : OsText} {place : Location} {m n : Node}
    (hmn : m.Reordered n) (hm : m.WellNamed) {files : List OsText}
    (hwalk : t.walk depth ancestors top path name place m = .ok files) :
    ∃ files', t'.walk depth ancestors top path name place n = .ok files' ∧ files.Perm files' := by
  induction depth generalizing ancestors top path name place m n files with
  | zero => cases hwalk
  | succ depth ih =>
    obtain ⟨place', m', henter, hcases⟩ := walk_succ_eq_ok_iff.1 hwalk
    have hm' := wellNamed_of_enter hroot hm henter
    have henter' := h.enter hroot ancestors path place hmn
    rw [henter] at henter'
    generalize hother : t'.enter ancestors path place n = other at henter'
    cases henter' with
    | @ok _ entered hentered =>
      obtain ⟨entry, n'⟩ := entered
      obtain ⟨rfl, hmn'⟩ := hentered
      simp only [walk_succ_eq_ok_iff, hother]
      -- the three ways a walk succeeds; only a directory that is walked needs the induction
      rcases hcases with ⟨es, rfl, hskip, rfl⟩ | ⟨es, below, rfl, hskip, hbelow, rfl⟩ | ⟨hdir, rfl⟩
      · cases hmn' with
        | dir hentries hperm => exact ⟨[], ⟨_, _, rfl, .inl ⟨_, rfl, hskip, rfl⟩⟩, .nil⟩
      · cases hmn' with
        | dir hentries hperm =>
          obtain ⟨below', hbelow', hfound⟩ := exists_mapM_reordered hentries hperm
            (g := t'.walkEntry depth ancestors path place')
            (fun name m n hmem hmn l hl => ih hmn (hm'.of_mem hmem).2 hl) hbelow
          exact ⟨_, ⟨_, _, rfl, .inr (.inl ⟨_, _, rfl, hskip, hbelow', rfl⟩)⟩, hfound⟩
      · refine ⟨_, ⟨_, _, rfl, .inr (.inr ⟨?_, ?_⟩)⟩, .refl _⟩
        · rw [← hmn'.isDir_eq, hdir]
        · rw [hmn'.isFile_eq]

lemma Reordered.regularFiles (h : t.Reordered t') (hroot : t.root.WellNamed) {path : OsText}
    {files : List OsText} (hfiles : t.regularFiles path = .ok files) :
    ∃ files', t'.regularFiles path = .ok files' ∧ files.Perm files' := by
  have hfind := h.find hroot .entry path
  unfold FileTree.regularFiles at hfiles ⊢
  rw [← h.walkDepth_eq]
  cases hown : t.find .entry path with
  | error e => simp [hown] at hfiles
  | ok found =>
    rw [hown] at hfind hfiles
    generalize t'.find .entry path = other at hfind
    cases hfind with
    | @ok _ found' hsame =>
      obtain ⟨hplace, hnode⟩ := hsame
      simp only [← hplace]
      exact h.walk hroot hnode (hroot.get? (get?_of_find hown)) hfiles

/-! ## No path twice -/

section Nodup

variable {depth : Nat} {ancestors : List Ancestor} {top : Bool} {name : OsText} {place : Location}
  {node : Node} {files : List OsText}

/-- All that a walk finds is below the path that it starts from. -/
lemma below_of_mem_walk (hroot : t.root.WellNamed) (hnode : node.WellNamed)
    (h : t.walk depth ancestors top path name place node = .ok files) {f : OsText}
    (hf : f ∈ files) : Path.Below path f := by
  induction depth generalizing ancestors top path name place node files with
  | zero => cases h
  | succ depth ih =>
    obtain ⟨place', node', henter, hcases⟩ := walk_succ_eq_ok_iff.1 h
    have hnode' := wellNamed_of_enter hroot hnode henter
    rcases hcases with ⟨es, -, -, rfl⟩ | ⟨es, below, rfl, -, hbelow, rfl⟩ | ⟨-, rfl⟩
    · cases hf
    · obtain ⟨l, hl, hf⟩ := List.mem_flatten.1 hf
      obtain ⟨e, he, hwalk⟩ := exists_of_mem_mapM_eq_ok hbelow hl
      have hchild := hnode'.of_mem he
      exact .of_join hchild.1 (ih hchild.2 hwalk hf)
    · split_ifs at hf
      · rw [List.mem_singleton.1 hf]
        exact List.prefix_rfl
      · cases hf

/-- A walk finds no two paths with the same parts. -/
lemma pairwise_walk (hroot : t.root.WellNamed) (hnode : node.WellNamed)
    (h : t.walk depth ancestors top path name place node = .ok files) :
    files.Pairwise fun p q => Path.parts p ≠ Path.parts q := by
  induction depth generalizing ancestors top path name place node files with
  | zero => cases h
  | succ depth ih =>
    obtain ⟨place', node', henter, hcases⟩ := walk_succ_eq_ok_iff.1 h
    have hnode' := wellNamed_of_enter hroot hnode henter
    rcases hcases with ⟨es, -, -, rfl⟩ | ⟨es, below, rfl, -, hbelow, rfl⟩ | ⟨-, rfl⟩
    · exact .nil
    · rw [List.pairwise_flatten]
      constructor
      · intro l hl
        obtain ⟨e, he, hwalk⟩ := exists_of_mem_mapM_eq_ok hbelow hl
        exact ih (hnode'.of_mem he).2 hwalk
      · -- a path with the parts of two entries' paths would be below both of them
        have hdistinct : es.Pairwise fun e e' => e.1 ≠ e'.1 :=
          List.pairwise_map.1 (List.nodup_iff_pairwise_ne.1 hnode'.nodup)
        have hentries := fun e he => hnode'.of_mem (e := e) he
        rw [mapM_eq_ok_iff] at hbelow
        clear hnode' henter h
        induction hbelow with
        | nil => exact .nil
        | @cons e l es below hl hrest ih' =>
          obtain ⟨hhead, htail⟩ := List.pairwise_cons.1 hdistinct
          refine .cons ?_ (ih' htail fun e he => hentries e (List.mem_cons_of_mem _ he))
          intro l' hl' f hf f' hf' hparts
          obtain ⟨e', he', hwalk'⟩ := exists_of_mem_mapM_eq_ok (mapM_eq_ok_iff.2 hrest) hl'
          have hname := hentries e List.mem_cons_self
          have hname' := hentries e' (List.mem_cons_of_mem _ he')
          have hbelow : Path.Below (Path.join path e.1) f :=
            below_of_mem_walk hroot hname.2 hl hf
          have hbelow' : Path.Below (Path.join path e'.1) f' :=
            below_of_mem_walk hroot hname'.2 hwalk' hf'
          rw [Path.Below, ← hparts] at hbelow'
          exact hhead e' he' (Path.eq_of_below hname.1 hname'.1 hbelow hbelow')
    · split_ifs
      · exact List.pairwise_singleton _ _
      · exact .nil

end Nodup

lemma pairwise_regularFiles (hroot : t.root.WellNamed) {files : List OsText}
    (h : t.regularFiles path = .ok files) :
    files.Pairwise fun p q => Path.parts p ≠ Path.parts q := by
  unfold regularFiles at h
  cases hfind : t.find .entry path with
  | error e => simp [hfind] at h
  | ok found =>
    simp only [hfind] at h
    exact pairwise_walk hroot (hroot.get? (get?_of_find hfind)) h

end FileTree

end Critique
