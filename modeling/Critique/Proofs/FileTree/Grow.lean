import Critique.Proofs.FileTree.Collect
import Critique.Proofs.FileTree.Write

/-!
# Making the directories above a file

Whatever happens while directories are made, the tree only grows: directories are added, the old
ones stay, and every file stays what and where it was (`FileTree.grown_makeParents`).

A file can still turn up at a path that led to nothing before.  A path goes up with `..` only from
a directory that is there, so it can lead to an old file as soon as such a directory has been made.
Without `..` this cannot happen in a tree of files and directories: all places on the way to an old
file are old directories (`FileTree.Grown.contains_of_locate`).
-/

namespace Critique

/-! ## Trees that have grown -/

namespace Node

variable {root root' root'' child n n' : Node} {place p q : Location}

lemma get?_put_append (h : root.HasParent place) (child : Node) (q : Location) :
    (root.put place child).get? (place ++ q) = child.get? q := by
  rw [get?_append, get?_put_self h, Option.bind_some]

/-- What stands at a place after something was put elsewhere stood there before, or is a directory
that was one before. -/
lemma exists_of_get?_put (hp : ¬ place <+: p) (h : (root.put place child).get? p = some n') :
    ∃ n, root.get? p = some n ∧ n.Kept n' := by
  induction place generalizing root p with
  | nil => exact absurd List.nil_prefix hp
  | cons name rest ih =>
    cases root with
    | dir es =>
      cases p with
      | nil =>
        cases h
        exact ⟨_, rfl, .inr ⟨rfl, isDir_put_cons es name rest⟩⟩
      | cons other p =>
        -- where the names part, the entry is an old one
        by_cases hother : other = name
        · subst hother
          have hrest : ¬ rest <+: p := fun hpre => hp (List.cons_prefix_cons.2 ⟨rfl, hpre⟩)
          cases hlookup : es.lookup other with
          | some c =>
            simp only [put, hlookup, get?, entries, lookup_putEntry, if_true] at h ⊢
            exact ih hrest h
          | none =>
            cases rest with
            | nil => exact absurd List.nil_prefix hrest
            | cons next rest =>
              simp only [put, hlookup, get?, entries] at h
              cases h
        · refine ⟨n', ?_, .inl rfl⟩
          simp only [put] at h
          split at h <;>
            simpa only [get?, entries, lookup_putEntry, if_neg hother] using h
    | _ => exact ⟨n', h, .inl rfl⟩

/-- A file or an empty directory is put somewhere: at other places, all that is no directory stays,
and nothing new appears. -/
lemma get?_put_iff (hparent : root.HasParent place)
    (hplace : ∀ es, root.get? place ≠ some (.dir es)) (hchild : child.entries = [])
    (hne : p ≠ place) (hdir : n.isDir = false) :
    (root.put place child).get? p = some n ↔ root.get? p = some n := by
  constructor
  · intro h
    by_cases hpre : place <+: p
    · obtain ⟨q, rfl⟩ := hpre
      rw [get?_put_append hparent] at h
      cases q with
      | nil => exact absurd (List.append_nil place) hne
      | cons name q => simp [get?, hchild] at h
    · obtain ⟨old, hold, rfl | ⟨-, hdir'⟩⟩ := exists_of_get?_put hpre h
      · exact hold
      · rw [hdir] at hdir'
        cases hdir'
  · intro h
    obtain ⟨n', hn', rfl | ⟨hdir', -⟩⟩ := get?_put_of_ne hplace hne h child
    · exact hn'
    · rw [hdir] at hdir'
      cases hdir'

/-- Directories may have been added to a tree, and nothing else has happened to it. -/
structure Grown (root root' : Node) : Prop where
  dirs : ∀ {p es}, root.get? p = some (.dir es) → ∃ es', root'.get? p = some (.dir es')
  others : ∀ {p n}, n.isDir = false → (root'.get? p = some n ↔ root.get? p = some n)

lemma Grown.refl (root : Node) : root.Grown root :=
  ⟨fun h => ⟨_, h⟩, fun _ => Iff.rfl⟩

lemma Grown.trans (h : root.Grown root') (h' : root'.Grown root'') : root.Grown root'' := by
  refine ⟨fun hget => ?_, fun hdir => (h'.others hdir).trans (h.others hdir)⟩
  obtain ⟨es', hes'⟩ := h.dirs hget
  exact h'.dirs hes'

/-- What is nowhere in a grown tree was not in the old one. -/
lemma Grown.get?_eq_none (h : root.Grown root') (hnone : root'.get? p = none) :
    root.get? p = none := by
  cases hget : root.get? p with
  | none => rfl
  | some n =>
    cases n with
    | dir es =>
      obtain ⟨es', hes'⟩ := h.dirs hget
      rw [hnone] at hes'
      cases hes'
    | _ =>
      rw [(h.others rfl).2 hget] at hnone
      cases hnone

/-- A tree grows by a directory that is put where nothing was. -/
lemma grown_put_dir (hparent : root.HasParent place) (hnone : root.get? place = none) :
    root.Grown (root.put place (.dir [])) := by
  have hplace : ∀ es, root.get? place ≠ some (.dir es) := by simp [hnone]
  refine ⟨fun h => exists_dir_put hplace h _, fun {p n} hdir => ?_⟩
  by_cases hne : p = place
  · subst hne
    rw [get?_put_self hparent, hnone]
    simp only [Option.some.injEq, reduceCtorEq, iff_false]
    rintro rfl
    cases hdir
  · exact get?_put_iff hparent hplace rfl hne hdir

/-- Above everything stands a directory. -/
lemma exists_dir_of_prefix (h : root.get? p = some n) (hpre : q <+: p) (hne : q ≠ p) :
    ∃ es, root.get? q = some (.dir es) := by
  obtain ⟨rest, rfl⟩ := hpre
  rw [get?_append] at h
  obtain ⟨above, habove, hbelow⟩ := Option.bind_eq_some_iff.1 h
  cases rest with
  | nil => exact absurd (List.append_nil q).symm hne
  | cons name rest =>
    obtain ⟨es, _, rfl, -, -⟩ := exists_of_get?_cons hbelow
    exact ⟨es, habove⟩

/-- Everything in a plain tree is plain. -/
lemma IsPlain.of_get? (hplain : root.IsPlain) (h : root.get? p = some n) : n.IsPlain := by
  induction p generalizing root with
  | nil =>
    cases h
    exact hplain
  | cons name p ih =>
    obtain ⟨es, c, rfl, hlookup, hget⟩ := exists_of_get?_cons h
    obtain ⟨-, hentries⟩ := hplain
    exact ih (plainEntries_iff.1 hentries _ (mem_of_lookup hlookup)).2 hget

end Node

namespace FileTree

variable {t t' made : FileTree} {path : OsText}

/-- Directories may have been added to the tree, and nothing else has happened to it. -/
structure Grown (t t' : FileTree) : Prop where
  workDir : t'.workDir = t.workDir
  root : t.root.Grown t'.root

lemma Grown.refl (t : FileTree) : t.Grown t :=
  ⟨rfl, .refl _⟩

lemma Grown.trans {t'' : FileTree} (h : t.Grown t') (h' : t'.Grown t'') : t.Grown t'' :=
  ⟨h'.workDir.trans h.workDir, h.root.trans h'.root⟩

lemma grown_makeDir (h : t.makeDir path = .ok t') : t.Grown t' := by
  unfold makeDir at h
  split at h
  · cases h
  · rename_i place hlocate
    cases h
    obtain ⟨hnone, hfree⟩ := free_of_absent hlocate
    exact ⟨rfl, Node.grown_put_dir hfree.hasParent hnone⟩
  · cases h

/-- The tree only grows while directories are made, however far that gets. -/
lemma grown_makeDirsWithin (t : FileTree) (fuel : ℕ) (path : OsText) :
    t.Grown (t.makeDirsWithin fuel path).tree := by
  fun_induction makeDirsWithin t fuel path with
  | case1 fuel path made hmade => exact grown_makeDir hmade
  | case2 path _ fuel above _ halfway e hfailed ih =>
    rw [hfailed] at ih
    exact ih
  | case3 path _ fuel above _ halfway hhalfway made hmade ih =>
    rw [hhalfway] at ih
    exact ih.trans (grown_makeDir hmade)
  | case4 path _ fuel above _ halfway hhalfway e _ ih =>
    rw [hhalfway] at ih
    exact ih
  | case5 => exact .refl t
  | case6 => exact .refl t

lemma grown_makeParents {failure : Option IoError} (h : t.makeParents path = ⟨made, failure⟩) :
    t.Grown made := by
  have hgrown : t.Grown (t.makeParents path).tree := by
    unfold makeParents makeDirs
    split
    · split_ifs
      · exact .refl t
      · exact grown_makeDirsWithin t _ _
    · exact .refl t
  rwa [h] at hgrown

end FileTree

/-! ## Paths that do not go up -/

section Down

variable {root made : Node} {q p : Location} {names : List OsText} {bytes : List UInt8}

/-- A look-up comes to a link only where there is one. -/
lemma exists_link_of_descend {aim : Aim} {base : Location} {target : OsText} {rest : List OsText}
    (h : descend root aim q names = .jump base target rest) :
    ∃ place, root.get? place = some (.link target) := by
  fun_induction descend root aim q names with
  | case3 _ _ _ _ _ _ ih => exact ih h
  | case4 _ _ _ _ _ ih => exact ih h
  | case10 q name rest es hget _ _ _ _ target hlookup _ =>
    cases h
    exact ⟨_, (Node.lookup_eq_get? hget name).symm.trans hlookup⟩
  | case11 _ _ _ _ _ _ _ _ _ _ _ _ ih => exact ih h
  | _ => cases h

/-- Names without `..` that lead to a file of a grown tree lead to it in the old tree: they go down
to it, and what stands above an old file is an old directory. -/
lemma descend_of_grown (hgrown : root.Grown made) (hup : Path.upName ∉ names)
    (h : descend made .create q names = .arrived (.found p (.file bytes))) :
    q <+: p ∧ descend root .follow q names = .arrived (.found p (.file bytes)) := by
  have hfile : root.get? p = some (.file bytes) := (hgrown.others rfl).1 (get?_of_descend h)
  -- a directory of the grown tree above the file
  have habove : ∀ {q es}, made.get? q = some (.dir es) → q <+: p →
      ∃ es', root.get? q = some (.dir es') := by
    intro q es hget hpre
    refine Node.exists_dir_of_prefix hfile hpre ?_
    rintro rfl
    rw [(hgrown.others rfl).2 hfile] at hget
    cases hget
  fun_induction descend made .create q names with
  | case1 q node hget =>
    cases h
    exact ⟨List.prefix_rfl, by rw [descend, hfile]⟩
  | case3 q name rest es hget hidle ih =>
    obtain ⟨hpre, hdescend⟩ := ih (fun hmem => hup (List.mem_cons_of_mem _ hmem)) h
    obtain ⟨es', hes'⟩ := habove hget hpre
    refine ⟨hpre, ?_⟩
    rw [descend, hes']
    simpa only [hidle, if_true] using hdescend
  | case4 => exact absurd List.mem_cons_self hup
  | case9 q name rest es _ _ _ _ _ target _ hentry => simp at hentry
  | case11 q name rest es hget hidle hdots _ hlimit child hlink hlookup ih =>
    obtain ⟨hpre, hdescend⟩ := ih (fun hmem => hup (List.mem_cons_of_mem _ hmem)) h
    obtain ⟨es', hes'⟩ := habove hget ((List.prefix_append q [name]).trans hpre)
    obtain ⟨n, hn, hnlink⟩ : ∃ n, root.get? (q ++ [name]) = some n ∧
        ∀ target, n ≠ .link target := by
      by_cases hlast : q ++ [name] = p
      · exact ⟨_, hlast ▸ hfile, by simp⟩
      · obtain ⟨below, hbelow⟩ := Node.exists_dir_of_prefix hfile hpre hlast
        exact ⟨_, hbelow, by simp⟩
    refine ⟨(List.prefix_append q [name]).trans hpre, ?_⟩
    rw [descend_child hes' hidle hdots hlimit hn hnlink]
    exact hdescend
  | _ => cases h

end Down

namespace FileTree

variable {t made : FileTree} {path : OsText} {place : Location} {bytes : List UInt8}

/-- **A file that a path without `..` leads to was there before.**  Making directories leads such a
path to no file of a tree of files and directories. -/
theorem Grown.contains_of_locate (hgrown : t.Grown made) (hplain : t.root.IsPlain)
    (hup : Path.upName ∉ Path.names path)
    (h : made.locate .create path = .ok (.found place (.file bytes))) : t.contains path = true := by
  have hsteps : Path.upName ∉ Path.steps path := by
    unfold Path.steps
    split_ifs
    · have hempty : Path.upName ≠ .empty := by decide
      simpa [hempty] using hup
    · exact hup
  -- without links a look-up is a single run of names
  have hlookUp : ∀ start, lookUp made.root .create 40 start (Path.steps path) =
      .ok (.found place (.file bytes)) →
      lookUp t.root .follow 40 start (Path.steps path) = .ok (.found place (.file bytes)) := by
    intro start hmade
    rw [lookUp] at hmade ⊢
    split at hmade
    · rename_i found hdescend
      cases hmade
      rw [(descend_of_grown hgrown.root hsteps hdescend).2]
    · cases hmade
    · -- there are no links in the grown tree either
      rename_i base target rest hjump
      obtain ⟨q, hq⟩ := exists_link_of_descend hjump
      exact (hplain.of_get? ((hgrown.root.others rfl).1 hq)).elim
  have hfound : t.locate .follow path = .ok (.found place (.file bytes)) := by
    unfold locate locateNames at h ⊢
    rw [hgrown.workDir] at h
    split_ifs at h ⊢
    · exact hlookUp _ h
    · exact hlookUp _ h
  exact contains_of_find (find_eq_ok_iff.2 hfound)

end FileTree

end Critique
