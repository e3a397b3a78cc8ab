import Critique.Proofs.Analyzer.Primary
import Critique.Proofs.Codec.Report
import Critique.Proofs.Command.ExitCode
import Critique.Proofs.FileTree.Walk
import Critique.Proofs.Text.OsText
import Mathlib

/-!
# A run over a directory does not depend on order

Two orders are left open when a directory is analyzed: that in which each directory lists its
entries, and that in which the analyses of the files finish.  The first is a reordering of the file
tree; the second is a `FinishingOrder`, and `runInOrder` is the command with its analyses finishing
in that order, each of which puts its report into the slot of its own file.

Neither shows.  The walk sorts the files that it selects by their paths, no two of which have the
same parts, so that a reordered tree gives the same list (`ReadableDirectory.reordered`).  After
that the command only sees this list, and finds the same analysis.

What the command shows is sorted once more, by the texts of the paths.  These are not the paths: the
names of two files can be different and have the same text, with U+FFFD for the bytes that differ.
The sorting is stable, so two such files stay in the order of their paths.  `Reports` says what is
shown without saying how it is found: one report for each file, about that file, in the order
`ShownBefore`, which is strict for any two files of a directory.  So there is one list of that kind
only (`Reports.unique`), and every run has it (`reports_of_mapM`).
-/

namespace Critique

open Text

/-! ## Analyses that finish in any order -/

/-- In which order the parts of a computation finish, for every number of parts. -/
structure FinishingOrder where
  parts : Nat → List Nat
  perm : ∀ n, (parts n).Perm (List.range n)

section Slots

variable {ε α β : Type}

/-- One part finishes: its result goes into its own slot. -/
def fillSlot (f : α → Except ε β) (xs : List α) (slots : List (Option β)) (i : Nat) :
    Except ε (List (Option β)) :=
  match xs[i]? with
  | none => .ok slots
  | some x => (f x).map fun y => slots.set i (some y)

/-- Apply a function to all elements of a list, with its calls finishing in a given order.  The
first failure ends the computation. -/
def mapInOrder (order : List Nat) (f : α → Except ε β) (xs : List α) : Except ε (List β) :=
  (order.foldlM (fillSlot f xs) (List.replicate xs.length none)).map List.reduceOption

variable {f : α → Except ε β} {xs : List α} {ys : List β}

lemma fillSlot_eq_ok (h : List.Forall₂ (fun x y => f x = .ok y) xs ys) {slots : List (Option β)}
    (hlength : slots.length = xs.length) (i : Nat) :
    ∃ filled, fillSlot f xs slots i = .ok filled ∧ filled.length = xs.length ∧
      ∀ j, filled[j]? = if j = i then ys[j]?.map some else slots[j]? := by
  have hys := h.length_eq
  unfold fillSlot
  -- a part fills its own slot; a number that belongs to no part does nothing
  by_cases hi : i < xs.length
  · have hi' : i < ys.length := hys ▸ hi
    have hf : f xs[i] = .ok ys[i] := h.get hi hi'
    rw [List.getElem?_eq_getElem hi]
    refine ⟨_, by simp only [hf]; rfl, by rw [List.length_set, hlength], fun j => ?_⟩
    rw [List.getElem?_set]
    by_cases hj : j = i
    · subst hj
      simp [hlength, hi, hi']
    · rw [if_neg (Ne.symm hj), if_neg hj]
  · rw [List.getElem?_eq_none (Nat.le_of_not_lt hi)]
    refine ⟨slots, rfl, hlength, fun j => ?_⟩
    by_cases hj : j = i
    · have hslots : slots.length ≤ j := by omega
      have hdone : ys.length ≤ j := by omega
      simp [hj.symm, List.getElem?_eq_none hslots, List.getElem?_eq_none hdone]
    · rw [if_neg hj]

/-- After some parts have finished, their slots hold their results and the others are unchanged. -/
lemma foldlM_fillSlot (h : List.Forall₂ (fun x y => f x = .ok y) xs ys) (order : List Nat)
    {slots : List (Option β)} (hlength : slots.length = xs.length) :
    ∃ filled, order.foldlM (fillSlot f xs) slots = .ok filled ∧
      ∀ j, filled[j]? = if j ∈ order then ys[j]?.map some else slots[j]? := by
  induction order generalizing slots with
  | nil => exact ⟨slots, rfl, fun j => by simp⟩
  | cons i order ih =>
    obtain ⟨next, hnext, hnextLength, hslot⟩ := fillSlot_eq_ok h hlength i
    obtain ⟨filled, hfilled, hslots⟩ := ih hnextLength
    refine ⟨filled, ?_, fun j => ?_⟩
    · rw [List.foldlM_cons, hnext]
      exact hfilled
    · -- a slot that is filled now holds the same result when it is filled again
      rw [hslots j, hslot j]
      by_cases hj : j = i
      · simp [hj]
      · simp [hj]

/-- When all calls succeed, the results are those of the calls one after another. -/
lemma mapInOrder_eq_ok {order : List Nat} (horder : order.Perm (List.range xs.length))
    (h : xs.mapM f = .ok ys) : mapInOrder order f xs = .ok ys := by
  rw [mapM_eq_ok_iff] at h
  obtain ⟨filled, hfilled, hslots⟩ := foldlM_fillSlot h order (List.length_replicate (a := none))
  have hys := h.length_eq
  -- every part has finished at some time, so no slot is left as it was
  have hall : filled = ys.map some := by
    apply List.ext_getElem?
    intro j
    have hmem : j ∈ order ↔ j < xs.length := by rw [horder.mem_iff, List.mem_range]
    rw [hslots j, List.getElem?_map]
    by_cases hj : j < xs.length
    · rw [if_pos (hmem.2 hj)]
    · have hdone : ys.length ≤ j := by omega
      rw [if_neg (mt hmem.1 hj), List.getElem?_eq_none hdone]
      simp [Nat.le_of_not_lt hj]
  rw [mapInOrder, hfilled, hall]
  simp [Except.map, List.reduceOption]

end Slots

/-- Analyze what a path stands for, with the analyses finishing in a given order. -/
def pathAnalysisInOrder (order : FinishingOrder) (a : Analyzer) (files : FileTree)
    (language : Option String) (path : OsText) : Except RunError (Option Analysis) := do
  let paths ← inputFiles files path
  if paths.isEmpty then return none
  let reports ← mapInOrder (order.parts paths.length) (analyzeFile a files language) paths
  return some (.ofFiles (reports.mergeSort fun f g => f.path ≤ g.path))

/-- The command `analyze`, with the analyses of its files finishing in a given order. -/
def runInOrder (order : FinishingOrder) (w : World) (o : AnalyzeOptions) : Outcome :=
  analysisOutcome w o <| do
    if !o.knownFormat then .error (.badFormat o.format)
    let a ← loadAnalyzer w o.config o.modelEndpoint
    if o.path == "-" then some <$> stdinAnalysis a w.stdin o.language
    else pathAnalysisInOrder order a w.files o.language o.path

/-! ## Stable sorting -/

section Sorting

variable {α β : Type} {le : α → α → Bool} {l : List α}

/-- Sorting does not move elements past each other that may stand either way round. -/
lemma filter_mergeSort (htrans : ∀ a b c, le a b → le b c → le a c)
    (htotal : ∀ a b, le a b || le b a) {p : α → Bool}
    (htie : ∀ a b, p a = true → p b = true → le a b = true) :
    (l.mergeSort le).filter p = l.filter p := by
  have hsorted : (l.filter p).Pairwise fun a b => le a b = true :=
    List.pairwise_of_forall_mem_list fun a ha b hb =>
      htie a b (List.mem_filter.1 ha).2 (List.mem_filter.1 hb).2
  have hsub := (List.sublist_mergeSort htrans htotal hsorted List.filter_sublist).filter p
  simp only [List.filter_filter, Bool.and_self] at hsub
  exact (hsub.eq_of_length ((List.mergeSort_perm l le).filter p).length_eq.symm).symm

/-- A list that is in some order, sorted by another one: where the second order leaves two elements
open, they stand as in the first. -/
lemma pairwise_mergeSort_of_pairwise {R : α → α → Prop}
    (htrans : ∀ a b c, le a b → le b c → le a c) (htotal : ∀ a b, le a b || le b a)
    (h : l.Pairwise R) :
    (l.mergeSort le).Pairwise fun a b => le a b = true ∧ (le b a = true → R a b) := by
  rw [List.pairwise_iff_forall_sublist]
  intro a b hab
  have hle : le a b = true :=
    List.pairwise_iff_forall_sublist.1 (List.pairwise_mergeSort htrans htotal l) hab
  refine ⟨hle, fun hba => ?_⟩
  -- both are in the class of `a`, and a class is left as it was
  let tied := fun c => le a c && le c a
  have hrefl : le a a = true := by simpa using htotal a a
  have htied : (l.mergeSort le).filter tied = l.filter tied := by
    refine filter_mergeSort htrans htotal fun c d hc hd => ?_
    simp only [tied, Bool.and_eq_true] at hc hd
    exact htrans c a d hc.2 hd.1
  have hpair : [a, b].filter tied = [a, b] := by simp [tied, hrefl, hle, hba]
  have hsub : [a, b].Sublist (l.filter tied) := hpair ▸ htied ▸ hab.filter tied
  exact List.pairwise_iff_forall_sublist.1 h (hsub.trans List.filter_sublist)

/-- Two lists whose elements belong together, sorted by a key that they share, still belong
together. -/
lemma forall₂_mergeSort {R : α → β → Prop} {le' : β → β → Bool} {ys : List β}
    (hkey : ∀ a b, R a b → ∀ a' b', R a' b' → le a a' = le' b b')
    (h : List.Forall₂ R l ys) : List.Forall₂ R (l.mergeSort le) (ys.mergeSort le') := by
  have hpairs : ∀ p ∈ l.zip ys, R p.1 p.2 := fun p hp => List.forall₂_zip h hp
  have hleft : (l.zip ys).map Prod.fst = l := List.map_fst_zip h.length_eq.le
  have hright : (l.zip ys).map Prod.snd = ys := List.map_snd_zip h.length_eq.ge
  have hsorted := List.map_mergeSort (r := fun p q : α × β => le p.1 q.1) (s := le) (f := Prod.fst)
    (l := l.zip ys) fun _ _ _ _ => rfl
  have hsorted' := List.map_mergeSort (r := fun p q : α × β => le p.1 q.1) (s := le')
    (f := Prod.snd) (l := l.zip ys) fun p hp q hq => hkey _ _ (hpairs p hp) _ _ (hpairs q hq)
  rw [hleft] at hsorted
  rw [hright] at hsorted'
  rw [← hsorted, ← hsorted', List.forall₂_map_left_iff, List.forall₂_map_right_iff,
    List.forall₂_same]
  exact fun p hp => hpairs p (List.mem_mergeSort.1 hp)

end Sorting

/-! ## The reports of some files -/

/-- Is a report that of the file at a path?  It shows the path as text, and what the analyzer says
about the contents of the file. -/
structure IsReportOf (a : Analyzer) (files : FileTree) (language : Option String) (path : OsText)
    (f : FileReport) : Prop where
  path_eq : f.path = path.lossy
  language_eq : language.or (languageOfPath? path) = some f.language
  own : ∃ bytes, files.read path = .ok bytes ∧
    a.analyze (Utf8.decodeLossy bytes) f.language = .ok f.report

/-- The order in which files are shown: by the bytes of the texts of their paths, and where the
texts are the same by the paths. -/
def ShownBefore (p q : OsText) : Prop :=
  Utf8.encode p.lossy < Utf8.encode q.lossy ∨
    p.lossy = q.lossy ∧ Path.le p q = true ∧ Path.le q p = false

/-- What the reports of some files are: there is one for each file, they are in the order in which
the files are shown, and each is that of its own file. -/
structure Reports (a : Analyzer) (files : FileTree) (language : Option String)
    (paths shown : List OsText) (reports : List FileReport) : Prop where
  perm : shown.Perm paths
  order : shown.Pairwise ShownBefore
  each : List.Forall₂ (IsReportOf a files language) shown reports

lemma ShownBefore.asymm {p q : OsText} (h : ShownBefore p q) (h' : ShownBefore q p) : False := by
  rcases h with h | ⟨heq, -, hback⟩
  · rcases h' with h' | ⟨heq, -⟩
    · exact List.lt_irrefl _ (List.lt_trans h h')
    · exact List.lt_irrefl _ (heq ▸ h)
  · rcases h' with h' | ⟨-, hle, -⟩
    · exact List.lt_irrefl _ (heq ▸ h')
    · exact Bool.false_ne_true (hback.symm.trans hle)

section Reports

variable {a : Analyzer} {files : FileTree} {language : Option String}
  {paths shown shown' : List OsText} {reports reports' : List FileReport}

lemma analyzeFile_eq_ok_iff_isReportOf {path : OsText} {f : FileReport} :
    analyzeFile a files language path = .ok f ↔ IsReportOf a files language path f := by
  rw [analyzeFile_eq_ok_iff]
  constructor
  · rintro ⟨tag, bytes, report, htag, hbytes, hreport, rfl⟩
    exact ⟨rfl, htag, bytes, hbytes, hreport⟩
  · rintro ⟨hpath, htag, bytes, hbytes, hreport⟩
    exact ⟨_, bytes, _, htag, hbytes, hreport, by rw [← hpath]⟩

namespace Reports

/-- Some files have one list of reports only. -/
lemma unique (h : Reports a files language paths shown reports)
    (h' : Reports a files language paths shown' reports') : reports = reports' := by
  obtain rfl : shown = shown' :=
    (h.perm.trans h'.perm.symm).eq_of_pairwise
      (fun _ _ _ _ hpq hqp => (hpq.asymm hqp).elim) h.order h'.order
  refine List.right_unique_forall₂' (fun path f g hf hg => ?_) h.each h'.each
  rw [← analyzeFile_eq_ok_iff_isReportOf] at hf hg
  exact Except.ok.inj (hf.symm.trans hg)

lemma length_eq (h : Reports a files language paths shown reports) :
    reports.length = paths.length :=
  h.each.length_eq.symm.trans h.perm.length_eq

/-- The reports show the texts of the paths. -/
lemma map_path (h : Reports a files language paths shown reports) :
    reports.map (·.path) = shown.map OsText.lossy := by
  have heach := h.each
  clear h
  induction heach with
  | nil => rfl
  | cons hf _ ih => rw [List.map_cons, List.map_cons, hf.path_eq, ih]

lemma map_encode_path (h : Reports a files language paths shown reports) :
    (reports.map fun f => Utf8.encode f.path) = shown.map fun p => Utf8.encode p.lossy := by
  simpa [Function.comp_def] using congrArg (List.map Utf8.encode) h.map_path

lemma ascending (h : Reports a files language paths shown reports) :
    (reports.map fun f => Utf8.encode f.path).Pairwise (· ≤ ·) := by
  rw [h.map_encode_path, List.pairwise_map]
  refine h.order.imp fun {p q} hpq => ?_
  rcases hpq with hlt | ⟨heq, -⟩
  · exact List.le_of_lt hlt
  · rw [heq]
    exact List.le_refl _

/-- Two reports have the same path exactly when two of the files have paths with the same text. -/
lemma strictly_ascending_iff (h : Reports a files language paths shown reports) :
    (reports.map fun f => Utf8.encode f.path).Pairwise (· < ·) ↔
      (paths.map OsText.lossy).Nodup := by
  rw [h.map_encode_path, List.pairwise_map, ← (h.perm.map OsText.lossy).nodup_iff, List.Nodup,
    List.pairwise_map]
  constructor
  · intro hlt
    refine hlt.imp fun {p q} hpq heq => ?_
    rw [heq] at hpq
    exact List.lt_irrefl _ hpq
  · intro hne
    refine (h.order.and hne).imp fun {p q} hpq => ?_
    exact hpq.1.resolve_right fun htie => hpq.2 htie.1

end Reports

/-- An analysis of files that ascend gives their reports. -/
lemma reports_of_mapM (hpaths : paths.Pairwise fun p q => Path.le p q = true ∧ Path.le q p = false)
    (h : paths.mapM (analyzeFile a files language) = .ok reports) :
    Reports a files language paths (paths.mergeSort fun p q => p.lossy ≤ q.lossy)
      (reports.mergeSort fun f g => f.path ≤ g.path) := by
  refine ⟨List.mergeSort_perm _ _, ?_, ?_⟩
  · have htrans : ∀ p q r : OsText, decide (p.lossy ≤ q.lossy) → decide (q.lossy ≤ r.lossy) →
        decide (p.lossy ≤ r.lossy) := by
      simpa only [decide_eq_true_eq] using fun p q r => String.le_trans
    have htotal : ∀ p q : OsText, decide (p.lossy ≤ q.lossy) || decide (q.lossy ≤ p.lossy) := by
      simpa using fun p q : OsText => String.le_total p.lossy q.lossy
    refine (pairwise_mergeSort_of_pairwise htrans htotal hpaths).imp fun {p q} hpq => ?_
    simp only [decide_eq_true_eq] at hpq
    by_cases hback : q.lossy ≤ p.lossy
    · exact .inr ⟨String.le_antisymm hpq.1 hback, hpq.2 hback⟩
    · exact .inl (Utf8.encode_lt_encode_iff.2 (String.not_le.1 hback))
  · refine forall₂_mergeSort (fun p f hf q g hg => by rw [hf.path_eq, hg.path_eq]) ?_
    exact (mapM_eq_ok_iff.1 h).imp fun _ _ => analyzeFile_eq_ok_iff_isReportOf.1

end Reports

/-! ## Loading does not depend on order -/

section Loading

variable {w : World} {files : FileTree}

lemma readSettings_reordered (hnames : w.files.root.WellNamed) (h : w.files.Reordered files)
    (path : OsText) : readSettings files path = readSettings w.files path := by
  unfold readSettings
  rw [h.readText_eq hnames]

lemma settingsPath_reordered (hnames : w.files.root.WellNamed) (h : w.files.Reordered files)
    (named : Option OsText) : settingsPath files named = settingsPath w.files named := by
  have hfile : files.hasFile = w.files.hasFile := funext fun path => (h.hasFile_eq hnames path).symm
  cases named with
  | some path => rfl
  | none => simp only [settingsPath, discover, h.currentDir_eq hnames, hfile]

lemma loadAnalyzer_reordered (hnames : w.files.root.WellNamed) (h : w.files.Reordered files)
    (named : Option OsText) (endpoint : Option String) :
    loadAnalyzer { w with files } named endpoint = loadAnalyzer w named endpoint := by
  have hat : settingsAt files = settingsAt w.files := by
    funext path
    cases path with
    | none => rfl
    | some path => simp only [settingsAt, readSettings_reordered hnames h]
  have hsettings : loadSettings files named = loadSettings w.files named := by
    unfold loadSettings
    rw [settingsPath_reordered hnames h, hat]
  unfold loadAnalyzer
  rw [hsettings]
  rfl

end Loading

/-- The analyzer of a run reviews every snippet itself, so it always has an answer. -/
lemma exists_analyze_eq_ok {w : World} {named : Option OsText} {endpoint : Option String}
    {a : Analyzer} (h : loadAnalyzer w named endpoint = .ok a) (code language : String) :
    ∃ report, a.analyze code language = .ok report := by
  obtain ⟨s, -, hbuild⟩ := loadAnalyzer_eq_ok_iff.1 h
  obtain rfl := eq_of_buildAnalyzer_eq_ok hbuild
  have hown : (Analyzer.build w.transport s).leader.analyze code language =
      .ok (review s code language) := by
    rw [Analyzer.leader_build]
    rfl
  obtain ⟨report, hreport, -⟩ := Analyzer.exists_report_of_leader hown
  exact ⟨report, hreport⟩

/-! ## Runs over a directory -/

/-- A directory that can be analyzed: the walk meets no error and selects the given files, and all
of them can be read. -/
structure ReadableDirectory (files : FileTree) (path : OsText) (paths : List OsText) : Prop where
  isDir : ∃ node, files.stat path = .ok node ∧ node.isDir = true
  walk : collectFiles files path = .ok paths
  read : ∀ p ∈ paths, ∃ bytes, files.read p = .ok bytes

section Directory

variable {w : World} {o : AnalyzeOptions} {a : Analyzer} {files files' : FileTree} {path : OsText}
  {paths : List OsText}

lemma ReadableDirectory.inputFiles_eq (h : ReadableDirectory files path paths) :
    inputFiles files path = .ok paths := by
  obtain ⟨node, hstat, hdir⟩ := h.isDir
  exact inputFiles_eq_ok_iff.2 ⟨node, hstat, by rw [if_pos hdir]; exact h.walk⟩

/-- The files that a walk selects have paths with different parts. -/
lemma nodup_map_parts_filter {regular : List OsText} (hnames : files.root.WellNamed)
    (h : files.regularFiles path = .ok regular) (p : OsText → Bool) :
    ((regular.filter p).map Path.parts).Nodup := by
  have hdistinct : (regular.map Path.parts).Nodup :=
    List.pairwise_map.2 (FileTree.pairwise_regularFiles hnames h)
  exact hdistinct.sublist (List.filter_sublist.map _)

lemma pairwise_collectFiles (hnames : files.root.WellNamed)
    (h : collectFiles files path = .ok paths) :
    paths.Pairwise fun p q => Path.le p q = true ∧ Path.le q p = false := by
  obtain ⟨regular, hregular, rfl⟩ := collectFiles_eq_ok_iff.1 h
  exact Path.pairwise_mergeSort (nodup_map_parts_filter hnames hregular _)

lemma collectFiles_of_pairwise {regular : List OsText} (h : files.regularFiles path = .ok regular)
    (hsource : (regular.filter fun f => (languageOfPath? f).isSome) = paths)
    (hsorted : paths.Pairwise fun p q => Path.le p q = true) :
    collectFiles files path = .ok paths :=
  collectFiles_eq_ok_iff.2 ⟨regular, h, by rw [hsource, List.mergeSort_of_pairwise hsorted]⟩

lemma collectFiles_reordered (hnames : files.root.WellNamed) (hfiles : files.Reordered files')
    (h : collectFiles files path = .ok paths) : collectFiles files' path = .ok paths := by
  obtain ⟨regular, hregular, rfl⟩ := collectFiles_eq_ok_iff.1 h
  obtain ⟨regular', hregular', hperm⟩ := hfiles.regularFiles hnames hregular
  exact collectFiles_eq_ok_iff.2 ⟨regular', hregular',
    Path.mergeSort_eq_of_perm (nodup_map_parts_filter hnames hregular _) (hperm.filter _)⟩

lemma ReadableDirectory.nodup (h : ReadableDirectory files path paths)
    (hnames : files.root.WellNamed) : paths.Nodup := by
  refine (pairwise_collectFiles hnames h.walk).imp ?_
  rintro p _ ⟨hle, hback⟩ rfl
  exact Bool.false_ne_true (hback.symm.trans hle)

lemma ReadableDirectory.source (h : ReadableDirectory files path paths) {p : OsText}
    (hp : p ∈ paths) : ∃ tag, languageOfPath? p = some tag := by
  obtain ⟨regular, -, rfl⟩ := collectFiles_eq_ok_iff.1 h.walk
  rw [List.mem_mergeSort, List.mem_filter] at hp
  exact Option.isSome_iff_exists.1 hp.2

/-- The same files are selected, in the same order, when the entries are in another order, and can
be read. -/
lemma ReadableDirectory.reordered (h : ReadableDirectory files path paths)
    (hnames : files.root.WellNamed) (hfiles : files.Reordered files') :
    ReadableDirectory files' path paths := by
  refine ⟨?_, collectFiles_reordered hnames hfiles h.walk, fun p hp => ?_⟩
  · obtain ⟨node, hstat, hdir⟩ := h.isDir
    have hother := hfiles.stat hnames path
    rw [hstat] at hother
    generalize files'.stat path = found at hother
    cases hother with
    | ok hnode => exact ⟨_, rfl, hnode.isDir_eq ▸ hdir⟩
  · rw [← hfiles.read_eq hnames]
    exact h.read p hp

/-- With the analyzer of a run, the analysis of each file succeeds. -/
lemma ReadableDirectory.exists_mapM (h : ReadableDirectory files path paths)
    {named : Option OsText} {endpoint : Option String}
    (ha : loadAnalyzer w named endpoint = .ok a) (language : Option String) :
    ∃ reports, paths.mapM (analyzeFile a files language) = .ok reports := by
  cases hall : paths.mapM (analyzeFile a files language) with
  | ok reports => exact ⟨reports, rfl⟩
  | error e =>
    obtain ⟨p, hp, hfile⟩ := exists_mem_of_mapM_eq_error hall
    cases fileFails_of_analyzeFile hfile with
    | unknownLanguage hnone =>
      obtain ⟨tag, htag⟩ := h.source hp
      cases language <;> simp [htag] at hnone
    | unreadable _ hread =>
      obtain ⟨bytes, hbytes⟩ := h.read p hp
      simp [hbytes] at hread
    | failed _ _ hfail =>
      obtain ⟨report, hreport⟩ := exists_analyze_eq_ok ha _ _
      rw [hreport] at hfail
      cases hfail

/-- The order in which the analyses finish makes no difference to a run. -/
lemma runInOrder_eq (order : FinishingOrder) (hpath : o.path ≠ "-")
    (h : ReadableDirectory w.files o.path paths) : runInOrder order w o = runAnalyze w o := by
  rw [runAnalyze_eq, runInOrder]
  congr 1
  by_cases hformat : o.knownFormat = true
  · rw [analysis_of_knownFormat hformat]
    simp only [hformat]
    cases ha : loadAnalyzer w o.config o.modelEndpoint with
    | error e => rfl
    | ok a =>
      obtain ⟨reports, hreports⟩ := h.exists_mapM ha o.language
      have horder := mapInOrder_eq_ok (order.perm paths.length) hreports
      have hstdin : (o.path == "-") = false := by simpa using hpath
      -- the analyses are put in the same list, whichever finished first, and then sorted
      have hboth : pathAnalysisInOrder order a w.files o.language o.path =
          pathAnalysis a w.files o.language o.path := by
        rw [pathAnalysisInOrder, pathAnalysis, h.inputFiles_eq]
        simp only [analyzeFiles, bind, Except.bind, horder, hreports]
        rfl
      simp only [hstdin]
      exact hboth.trans (analysisBy_of_path a hpath).symm
  · have hunknown : o.knownFormat = false := by simpa using hformat
    rw [analysis_of_unknownFormat hunknown]
    simp only [hunknown]
    rfl

/-- Neither does the order of the entries, for the command finds the same. -/
lemma ReadableDirectory.analysis_reordered (h : ReadableDirectory w.files o.path paths)
    (hnames : w.files.root.WellNamed) (hpath : o.path ≠ "-") (hfiles : w.files.Reordered files) :
    analysis { w with files } o = analysis w o := by
  by_cases hformat : o.knownFormat = true
  · -- a path leads to the same bytes in both trees, so only the selection could differ
    have hfile : ∀ a, analyzeFile a files o.language = analyzeFile a w.files o.language := by
      intro a
      funext p
      rw [analyzeFile, analyzeFile, hfiles.read_eq hnames]
    have hpathAnalysis : ∀ a, pathAnalysis a files o.language o.path =
        pathAnalysis a w.files o.language o.path := by
      intro a
      rw [pathAnalysis, pathAnalysis, h.inputFiles_eq, (h.reordered hnames hfiles).inputFiles_eq]
      simp only [analyzeFiles, hfile]
    rw [analysis_of_knownFormat hformat, analysis_of_knownFormat hformat,
      loadAnalyzer_reordered hnames hfiles]
    simp only [analysisBy_of_path _ hpath, hpathAnalysis]
  · have hunknown : o.knownFormat = false := by simpa using hformat
    rw [analysis_of_unknownFormat hunknown, analysis_of_unknownFormat hunknown]

/-- What an analysis of a directory finds: the reports of its files, or nothing when there are
none. -/
lemma ReadableDirectory.analysis_eq (h : ReadableDirectory w.files o.path paths)
    (hnames : w.files.root.WellNamed) (hpath : o.path ≠ "-") (ready : Ready w o a) :
    ∃ shown reports, Reports a w.files o.language paths shown reports ∧
      analysis w o = .ok (if paths = [] then none else some (.ofFiles reports)) := by
  obtain ⟨reports, hreports⟩ := h.exists_mapM ready.2 o.language
  refine ⟨_, _, reports_of_mapM (pairwise_collectFiles hnames h.walk) hreports, ?_⟩
  rw [analysis_of_knownFormat ready.1, ready.2]
  change analysisBy a w o = _
  rw [analysisBy_of_path a hpath, pathAnalysis, h.inputFiles_eq]
  by_cases hempty : paths = []
  · simp [hempty, bind, Except.bind, pure, Except.pure]
  · simp [hempty, bind, Except.bind, pure, Except.pure, analyzeFiles, hreports]

end Directory

/-- **A run over a directory does not depend on order.**  Take a directory that the walk can go
through and whose source files can all be read, the same files with the entries of all directories
in any other order, and any order in which the analyses finish.

* The run writes the same text to the standard output, and ends with the same code.
* No file is selected twice.  When the format is known and the settings are in order, what is shown
  are the reports of the selected files: each file once, with what the analyzer says about its own
  contents.  There is only one way to list them.  Without any files nothing is shown.
* The reports ascend in the order of the bytes of the texts of the paths, and they ascend strictly
  exactly when the paths of the selected files have different texts.
* The totals are the number of the selected files, and the sums over their reports. -/
theorem directory_run_independent_of_order {w : World} {o : AnalyzeOptions} {paths : List OsText}
    (hnames : w.files.root.WellNamed) (hpath : o.path ≠ "-")
    (h : ReadableDirectory w.files o.path paths) {files : FileTree}
    (hfiles : w.files.Reordered files) (order : FinishingOrder) :
    let out := runInOrder order { w with files } o
    out.stdout = (runAnalyze w o).stdout ∧ out.code = (runAnalyze w o).code ∧ paths.Nodup ∧
    ∀ a, Ready w o a →
      ∃ shown reports, Reports a w.files o.language paths shown reports ∧
        (∀ shown' reports', Reports a w.files o.language paths shown' reports' →
          reports' = reports) ∧
        (reports.map fun f => Utf8.encode f.path).Pairwise (· ≤ ·) ∧
        ((reports.map fun f => Utf8.encode f.path).Pairwise (· < ·) ↔
          (paths.map OsText.lossy).Nodup) ∧
        out.stdout =
          (if paths = [] then "" else (Analysis.ofFiles reports).text w.coloured o.format) ∧
        out.code = exitCode (reports.map (·.report)) o.failOn ∧
        (RunReport.ofFiles reports).filesAnalyzed = paths.length ∧
        (RunReport.ofFiles reports).totalIssues =
          (reports.map (·.report.issues.length)).sum ∧
        (RunReport.ofFiles reports).totalSuggestions =
          (reports.map (·.report.suggestions.length)).sum := by
  intro out
  -- first the order in which the analyses finish, then that of the entries
  have hout : out = { runAnalyze w o with files } := by
    have horder : out = runAnalyze { w with files } o :=
      runInOrder_eq order hpath (h.reordered hnames hfiles)
    rw [horder, runAnalyze_eq, runAnalyze_eq, h.analysis_reordered hnames hpath hfiles]
    match analysis w o with
    | .error e => rfl
    | .ok none => rfl
    | .ok (some found) => rfl
  rw [hout]
  refine ⟨rfl, rfl, h.nodup hnames, fun a ready => ?_⟩
  obtain ⟨shown, reports, hreports, hanalysis⟩ := h.analysis_eq hnames hpath ready
  refine ⟨shown, reports, hreports, fun _ _ hother => hother.unique hreports, hreports.ascending,
    hreports.strictly_ascending_iff, ?_, ?_, hreports.length_eq, totalIssues_eq_sum reports,
    totalSuggestions_eq_sum reports⟩
  · rw [runAnalyze_eq, hanalysis]
    split_ifs
    · rfl
    · rfl
  · rw [runAnalyze_eq, hanalysis]
    split_ifs with hempty
    · obtain rfl : reports = [] := by
        rw [← List.length_eq_zero_iff, hreports.length_eq, hempty]
        rfl
      cases o.failOn <;> rfl
    · rfl

/-- Files for which the order of texts is not that of paths, listed in two orders: `a/b.py` comes
first for the walk, `a-b.py` comes first in what is shown, though its analysis is the last to
finish. -/
theorem directory_run_independent_of_order_hyphen :
    let inside : Node := .dir [("b.py", .file [120])]
    let listing : List (OsText × Node) := [("a", inside), ("a-b.py", .file [121]), ("c", .locked)]
    let w : World := { files := { root := .dir listing, workDir := [] } }
    let files : FileTree := { root := .dir listing.reverse, workDir := [] }
    let order : FinishingOrder := ⟨fun n => (List.range n).reverse, fun _ => List.reverse_perm _⟩
    let o : AnalyzeOptions := { path := ".", format := "json" }
    let selected : List OsText := ["./a/b.py", "./a-b.py"]
    collectFiles w.files "." = .ok selected ∧
      (runInOrder order { w with files } o).stdout = (runAnalyze w o).stdout ∧
      ∃ reports : List FileReport, reports.map (·.path) = ["./a-b.py", "./a/b.py"] ∧
        (reports.map fun f => Utf8.encode f.path).Pairwise (· < ·) ∧
        (runInOrder order { w with files } o).stdout =
          (RunReport.ofFiles reports).toJson.pretty ++ "\n" := by
  intro inside listing w files order o selected
  have hregular : w.files.regularFiles "." =
      .ok (["./a/b.py", "./a-b.py", "./c"] : List OsText) := by
    decide +kernel
  have hwalk : collectFiles w.files "." = .ok selected :=
    collectFiles_of_pairwise hregular (by decide +kernel) (by decide +kernel)
  have hdirectory : ReadableDirectory w.files o.path selected := by
    have hstat : w.files.stat "." = .ok w.files.root := rfl
    refine ⟨⟨_, hstat, rfl⟩, hwalk, ?_⟩
    simp only [selected, List.forall_mem_cons]
    exact ⟨⟨[120], rfl⟩, ⟨[121], rfl⟩, fun _ h => absurd h List.not_mem_nil⟩
  have hnames : w.files.root.WellNamed := by
    simp [w, listing, inside, Node.WellNamed, Node.WellNamedEntries]
  have hfiles : w.files.Reordered files :=
    ⟨.dir (.refl listing) (List.reverse_perm listing).symm, rfl⟩
  obtain ⟨hstdout, -, -, hshown⟩ :=
    directory_run_independent_of_order hnames (by decide +kernel) hdirectory hfiles order
  obtain ⟨shown, reports, hreports, -, -, hstrict, htext, -⟩ :=
    hshown _ (ready_default (by decide +kernel) (by decide +kernel) rfl rfl rfl)
  have hascending := hstrict.2 (by decide +kernel)
  refine ⟨hwalk, hstdout, reports, ?_, hascending, htext⟩
  have hbelow : (reports.map (·.path)).Pairwise (· < ·) := by
    rw [List.pairwise_map] at hascending ⊢
    exact hascending.imp Utf8.encode_lt_encode_iff.1
  have hperm : (reports.map (·.path)).Perm ["./a-b.py", "./a/b.py"] := by
    have htexts := hreports.perm.map OsText.lossy
    have hlossy : selected.map OsText.lossy = ["./a/b.py", "./a-b.py"] := by decide +kernel
    rw [← hreports.map_path, hlossy] at htexts
    exact htexts.trans (.swap _ _ _)
  refine hperm.eq_of_pairwise ?_ hbelow (by decide +kernel)
  intro p q _ _ hpq hqp
  exact absurd (String.lt_trans hpq hqp) (String.lt_irrefl p)

/-- **Files can be shown with the same path.**  Two names that differ in a byte that is not part of
any character are shown with U+FFFD for it.  Both files are selected and read, and both reports have
the path `./\uFFFD.py`, so they do not ascend strictly; no list of reports with the texts of these
paths does.  And in a directory without a source file nothing is shown, not even that there are no
files. -/
theorem directory_run_same_path_text :
    let source (b : UInt8) : OsText := ⟨[b, 0x2E, 0x70, 0x79]⟩
    let w : World :=
      { files := {
          root := .dir [(source 0xE8, .file []), (source 0xE9, .file [])]
          workDir := [] } }
    let o : AnalyzeOptions := { path := ".", format := "json" }
    let selected : List OsText := [("./" : OsText) ++ source 0xE8, ("./" : OsText) ++ source 0xE9]
    let bare : World := { files := { root := .dir [("notes.txt", .file [120])], workDir := [] } }
    (w.files.root.WellNamed ∧ ReadableDirectory w.files o.path selected ∧
      ∃ reports, analysis w o = .ok (some (.ofFiles reports)) ∧
        reports.map (·.path) = ["./\uFFFD.py", "./\uFFFD.py"] ∧
        ¬ (reports.map fun f => Utf8.encode f.path).Pairwise (· < ·)) ∧
    (¬ ∃ reports : List FileReport, (reports.map (·.path)).Perm (selected.map OsText.lossy) ∧
      (reports.map fun f => Utf8.encode f.path).Pairwise (· < ·)) ∧
    (ReadableDirectory bare.files o.path [] ∧ (runAnalyze bare o).stdout = "" ∧
      (Analysis.ofFiles []).text bare.coloured o.format ≠ "") := by
  intro source w o selected bare
  have hlossy : selected.map OsText.lossy = List.replicate 2 "./\uFFFD.py" := by decide +kernel
  have hsame : ∀ reports : List FileReport,
      (reports.map (·.path)).Perm (selected.map OsText.lossy) →
        ¬ (reports.map fun f => Utf8.encode f.path).Pairwise (· < ·) := by
    intro reports hperm hlt
    rw [hlossy, List.perm_replicate] at hperm
    have hbytes := congrArg (List.map Utf8.encode) hperm
    rw [List.map_map] at hbytes
    rw [show (reports.map fun f => Utf8.encode f.path) = _ from hbytes] at hlt
    revert hlt
    decide +kernel
  have hregular : w.files.regularFiles "." = .ok selected := by decide +kernel
  have hwalk : collectFiles w.files "." = .ok selected :=
    collectFiles_of_pairwise hregular (by decide +kernel) (by decide +kernel)
  have hdirectory : ReadableDirectory w.files o.path selected := by
    have hstat : w.files.stat "." = .ok w.files.root := rfl
    refine ⟨⟨_, hstat, rfl⟩, hwalk, ?_⟩
    simp only [selected, List.forall_mem_cons]
    exact ⟨⟨[], rfl⟩, ⟨[], rfl⟩, fun _ h => absurd h List.not_mem_nil⟩
  have hnames : w.files.root.WellNamed := by
    simp only [w, Node.WellNamed, Node.WellNamedEntries, Node.IsProperName, Node.IsName]
    decide +kernel
  obtain ⟨shown, reports, hreports, hanalysis⟩ := hdirectory.analysis_eq hnames (by decide +kernel)
    (ready_default (w := w) (o := o) (by decide +kernel) (by decide +kernel) rfl rfl rfl)
  have hperm : (reports.map (·.path)).Perm (selected.map OsText.lossy) :=
    hreports.map_path ▸ hreports.perm.map OsText.lossy
  have hbare : bare.files.stat "." = .ok bare.files.root := rfl
  refine ⟨⟨hnames, hdirectory, reports, hanalysis, ?_, hsame reports hperm⟩, ?_,
    ⟨⟨_, hbare, rfl⟩, ?_, ?_⟩, ?_, ?_⟩
  · rw [hlossy, List.perm_replicate] at hperm
    exact hperm
  · rintro ⟨reports, hperm, hlt⟩
    exact hsame reports hperm hlt
  · have hregular : bare.files.regularFiles "." = .ok (["./notes.txt"] : List OsText) := by
      decide +kernel
    exact collectFiles_of_pairwise hregular (by decide +kernel) .nil
  · exact fun _ h => absurd h List.not_mem_nil
  · decide +kernel
  · decide +kernel

end Critique
