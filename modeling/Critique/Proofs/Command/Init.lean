import Critique.Proofs.Command.ExitCode
import Critique.Proofs.FileTree.Grow

/-!
# Writing a first settings file

The command `init` looks at its path and stops when something is there.  Otherwise it makes the
directories above the path and writes the text of the default settings.  `FileTree.Creates` says
that it comes so far, and `runInit_of_creates` and `runInit_cases` are all that it does.

In a tree of files and directories the command adds one file and changes no other, with one
exception.  The look comes before the directories are made, so a path that goes up again from a
missing directory leads to nothing at first and may lead to a file afterwards, which is then
overwritten (`FileTree.Overwrites`, `runInit_overwrites`).
-/

namespace Critique

open Text

/-! ## What the command does to files -/

namespace FileTree

variable {t made : FileTree} {path : OsText} {p : Place} {place q : Location} {node : Node}

/-- A file or anything else but a directory stands at a place. -/
def Holds (t : FileTree) (place : Location) (node : Node) : Prop :=
  t.root.get? place = some node ∧ node.isDir = false

/-- Nothing is at the path, the directories above it can be made, and a file can be written
there. -/
structure Creates (t : FileTree) (path : OsText) (made : FileTree) (p : Place) : Prop where
  missing : t.contains path = false
  makes : t.makeParents path = ⟨made, none⟩
  locates : made.locate .create path = .ok p
  writable : ∀ place node, p = .found place node → ∃ old, node = .file old

/-- Nothing is at the path, but it leads to the file at a place once the directories above it are
made. -/
def Overwrites (t : FileTree) (path : OsText) (place : Location) : Prop :=
  ∃ made old, t.Creates path made (.found place (.file old))

namespace Creates

lemma grown (h : t.Creates path made p) : t.Grown made :=
  grown_makeParents h.makes

lemma free (h : t.Creates path made p) : made.root.Free p.location :=
  free_of_locate h.locates h.writable

/-- What is written at is a new place, or a file that is overwritten. -/
lemma get?_eq_none_or_overwrites (h : t.Creates path made p) :
    t.root.get? p.location = none ∨ t.Overwrites path p.location := by
  cases p with
  | absent place => exact .inl (h.grown.root.get?_eq_none (free_of_absent h.locates).1)
  | found place node =>
    obtain ⟨old, rfl⟩ := h.writable place node rfl
    exact .inr ⟨made, old, h⟩

/-- At all other places the files stay what and where they are. -/
lemma holds_put_iff (h : t.Creates path made p) (bytes : List UInt8) (hne : q ≠ p.location) :
    (made.put p.location (.file bytes)).Holds q node ↔ t.Holds q node := by
  refine and_congr_left fun hdir => ?_
  have hfree := h.free
  exact (Node.get?_put_iff hfree.hasParent hfree.not_dir rfl hne hdir).trans
    (h.grown.root.others hdir)

end Creates

lemma exists_creates_iff :
    (∃ made p, t.Creates path made p) ↔ t.contains path = false ∧ t.Writable path := by
  constructor
  · rintro ⟨made, p, h⟩
    refine ⟨h.missing, made, h.makes, p.location, ?_⟩
    have hlocates := h.locates
    cases p with
    | absent place => exact .inl hlocates
    | found place node =>
      obtain ⟨old, rfl⟩ := h.writable place node rfl
      exact .inr ⟨old, hlocates⟩
  · rintro ⟨hmissing, made, hmakes, place, hplace | ⟨old, hplace⟩⟩
    · exact ⟨made, _, hmissing, hmakes, hplace, by simp⟩
    · exact ⟨made, _, hmissing, hmakes, hplace, by simp⟩

/-- A file that is overwritten was there before, and the path goes up to it. -/
lemma Overwrites.up_mem_names (h : t.Overwrites path place) (hplain : t.root.IsPlain) :
    Path.upName ∈ Path.names path := by
  obtain ⟨made, old, hcreates⟩ := h
  by_contra hup
  have hthere := hcreates.grown.contains_of_locate hplain hup hcreates.locates
  rw [hcreates.missing] at hthere
  cases hthere

lemma Grown.holds_iff (h : t.Grown made) : made.Holds q node ↔ t.Holds q node :=
  and_congr_left fun hdir => h.root.others hdir

/-- After the directories are made, a file can be written, or nothing can. -/
lemma creates_or_write_fails (hplain : t.root.IsPlain) (hmissing : t.contains path = false)
    (hmakes : t.makeParents path = ⟨made, none⟩) :
    (∃ p, t.Creates path made p) ∨ ∃ e, ∀ bytes, made.write path bytes = .error e := by
  have hgrown : t.Grown made := grown_makeParents hmakes
  cases hlocate : made.locate .create path with
  | error e => exact .inr ⟨e, fun bytes => by simp [write, hlocate]⟩
  | ok p =>
    cases p with
    | absent place => exact .inl ⟨_, hmissing, hmakes, hlocate, by simp⟩
    | found place node =>
      cases node with
      | file old => exact .inl ⟨_, hmissing, hmakes, hlocate, by simp⟩
      | device =>
        -- a device would have to be in the old tree
        have hdevice := get?_of_find (find_eq_ok_iff.2 hlocate)
        exact (hplain.of_get? ((hgrown.root.others rfl).1 hdevice)).elim
      | dir es => exact .inr ⟨.isDirectory, fun bytes => by simp [write, hlocate]⟩
      | locked => exact .inr ⟨.denied, fun bytes => by simp [write, hlocate]⟩
      | link target => exact .inr ⟨.tooManyLinks, fun bytes => by simp [write, hlocate]⟩

lemma Creates.write_eq (h : t.Creates path made p) (bytes : List UInt8) :
    made.write path bytes = .ok (made.put p.location (.file bytes)) := by
  cases p with
  | absent place => simp [write, h.locates, Place.location]
  | found place node =>
    obtain ⟨old, rfl⟩ := h.writable place node rfl
    simp [write, h.locates, Place.location]

end FileTree

section Run

variable {w : World} {o : InitOptions} {made : FileTree} {p : Place}

/-- The text that the command writes. -/
def initBytes : List UInt8 := Utf8.encode Settings.default.toYaml

lemma runInit_of_creates (h : w.files.Creates o.output made p) :
    runInit w o =
      { code := 0
        stdout := initText o.output
        files := made.put p.location (.file initBytes) } := by
  simp only [runInit, h.missing, h.makes, h.write_eq, Bool.false_eq_true, if_false]
  rfl

/-- The command writes a file, or it fails and has made nothing but directories. -/
lemma runInit_cases (w : World) (o : InitOptions) (hplain : w.files.root.IsPlain) :
    (∃ made p, w.files.Creates o.output made p) ∨
      ∃ e files, runInit w o = RunError.outcome files e ∧ w.files.Grown files := by
  by_cases hthere : w.files.contains o.output = true
  · exact .inr ⟨_, w.files, if_pos hthere, .refl _⟩
  have hmissing : w.files.contains o.output = false := by simpa using hthere
  -- the command looks, makes directories, and writes; it can stop at each of these
  cases hmakes : w.files.makeParents o.output with
  | mk made failure =>
    have hgrown := FileTree.grown_makeParents hmakes
    cases failure with
    | some e => exact .inr ⟨.failedDirectory e, made, by simp [runInit, hmissing, hmakes], hgrown⟩
    | none =>
      rcases FileTree.creates_or_write_fails hplain hmissing hmakes with ⟨p, hp⟩ | ⟨e, he⟩
      · exact .inl ⟨made, p, hp⟩
      · exact .inr ⟨.failedWrite e, made, by simp [runInit, hmissing, hmakes, he], hgrown⟩

/-- The settings that have been written are read and loaded as the default ones, and the path is
taken. -/
lemma settings_of_creates (h : w.files.Creates o.output made p) :
    let files := made.put p.location (.file initBytes)
    readSettings files o.output = .ok Settings.default ∧
      loadAnalyzer { w with files } (some o.output) none =
        .ok (.build w.transport Settings.default) ∧
      runInit { w with files } o = (RunError.outputExists o.output).outcome files := by
  intro files
  have hread : files.read o.output = .ok initBytes := FileTree.read_put h.locates h.free initBytes
  have hyaml : Settings.default.ReadBack := by decide +kernel
  have hthere : files.contains o.output = true :=
    FileTree.contains_of_find (FileTree.find_put h.locates h.free initBytes)
  refine ⟨readSettings_of_read hread hyaml, ?_, if_pos hthere⟩
  have hload := loadSettings_of_read hread hyaml Settings.violation?_default
  exact loadAnalyzer_of_model_none hload rfl

/-- The path leads to what was written, and at other places the files are what they were. -/
lemma exists_place_of_creates (h : w.files.Creates o.output made p) :
    ∃ place, (runInit w o).files.find .follow o.output = .ok (place, .file initBytes) ∧
      (w.files.root.get? place = none ∨ w.files.Overwrites o.output place) ∧
      ∀ q node, q ≠ place → ((runInit w o).files.Holds q node ↔ w.files.Holds q node) := by
  rw [runInit_of_creates h]
  exact ⟨p.location, FileTree.find_put h.locates h.free initBytes, h.get?_eq_none_or_overwrites,
    fun _ _ => h.holds_put_iff initBytes⟩

lemma runInit_of_overwrites {place : Location} (h : w.files.Overwrites o.output place) :
    (runInit w o).code = 0 ∧ (runInit w o).files.Holds place (.file initBytes) := by
  obtain ⟨made, old, hcreates⟩ := h
  rw [runInit_of_creates hcreates]
  exact ⟨rfl, Node.get?_put_self hcreates.free.hasParent _, rfl⟩

section Plain

variable (hplain : w.files.root.IsPlain)

include hplain

lemma holds_runInit_or_overwrites {place : Location} {node : Node}
    (h : w.files.Holds place node) :
    (runInit w o).files.Holds place node ∨ w.files.Overwrites o.output place := by
  rcases runInit_cases w o hplain with ⟨made, p, hcreates⟩ | ⟨e, files, hout, hgrown⟩
  · obtain ⟨new, -, hnew, hkept⟩ := exists_place_of_creates hcreates
    by_cases hplace : place = new
    · subst hplace
      exact .inr (hnew.resolve_left (by simp [h.1]))
    · exact .inl ((hkept place node hplace).2 h)
  · rw [hout]
    exact .inl (hgrown.holds_iff.2 h)

lemma exists_dir_runInit {place : Location} {es : List (OsText × Node)}
    (h : w.files.root.get? place = some (.dir es)) :
    ∃ es', (runInit w o).files.root.get? place = some (.dir es') := by
  rcases runInit_cases w o hplain with ⟨made, p, hcreates⟩ | ⟨e, files, hout, hgrown⟩
  · obtain ⟨es', hes'⟩ := hcreates.grown.root.dirs h
    rw [runInit_of_creates hcreates]
    exact Node.exists_dir_put hcreates.free.not_dir hes' _
  · rw [hout]
    exact hgrown.root.dirs h

lemma code_eq_zero_iff :
    (runInit w o).code = 0 ↔ ∃ made p, w.files.Creates o.output made p := by
  constructor
  · intro h
    refine (runInit_cases w o hplain).resolve_right ?_
    rintro ⟨e, files, hout, -⟩
    rw [hout] at h
    cases h
  · rintro ⟨made, p, hcreates⟩
    rw [runInit_of_creates hcreates]

lemma holds_iff_of_code (h : (runInit w o).code ≠ 0) (place : Location) (node : Node) :
    (runInit w o).files.Holds place node ↔ w.files.Holds place node := by
  rcases runInit_cases w o hplain with ⟨made, p, hcreates⟩ | ⟨e, files, hout, hgrown⟩
  · rw [runInit_of_creates hcreates] at h
    exact absurd rfl h
  · rw [hout]
    exact hgrown.holds_iff

end Plain

end Run

/-- **What `init` does to a tree of files and directories**, for every path.

* Every file stays what it is, unless the path leads to nothing at first and to that file once
  directories are made.  Every directory stays.
* A file of this kind is overwritten with the default settings, and the command ends with 0.  Only a
  path with `..` in it can do that.
* The command ends with 0 exactly when nothing was at its path and a file can be written there.  Then
  the path leads to the one file that is new (or overwritten), it is read as the default settings,
  which satisfy all rules, an analyzer that is loaded from it reviews as by default, and the command
  does not write there again.
* Otherwise it ends with 2, and all files are what and where they were. -/
theorem runInit_of_isPlain (w : World) (o : InitOptions) (hplain : w.files.root.IsPlain) :
    let out := runInit w o
    (∀ place node, w.files.Holds place node →
      out.files.Holds place node ∨ w.files.Overwrites o.output place) ∧
    (∀ place es, w.files.root.get? place = some (.dir es) →
      ∃ es', out.files.root.get? place = some (.dir es')) ∧
    (∀ place, w.files.Overwrites o.output place →
      Path.upName ∈ Path.names o.output ∧ out.code = 0 ∧ out.files.Holds place (.file initBytes)) ∧
    (out.code = 0 ↔ w.files.contains o.output = false ∧ w.files.Writable o.output) ∧
    (out.code = 0 →
      (∃ place, out.files.find .follow o.output = .ok (place, .file initBytes) ∧
        (w.files.root.get? place = none ∨ w.files.Overwrites o.output place) ∧
        ∀ q node, q ≠ place → (out.files.Holds q node ↔ w.files.Holds q node)) ∧
      readSettings out.files o.output = .ok Settings.default ∧
      Settings.default.violation? = none ∧
      (∃ a, loadAnalyzer { w with files := out.files } (some o.output) none = .ok a ∧
        ∀ code language, a.analyze code language = .ok (review Settings.default code language)) ∧
      runInit { w with files := out.files } o =
        (RunError.outputExists o.output).outcome out.files) ∧
    (out.code ≠ 0 →
      out.code = 2 ∧ ∀ place node, out.files.Holds place node ↔ w.files.Holds place node) := by
  intro out
  refine ⟨fun _ _ => holds_runInit_or_overwrites hplain, fun _ _ => exists_dir_runInit hplain,
    fun place h => ⟨h.up_mem_names hplain, runInit_of_overwrites h⟩,
    (code_eq_zero_iff hplain).trans FileTree.exists_creates_iff, ?_, ?_⟩
  · intro hcode
    obtain ⟨made, p, hcreates⟩ := (code_eq_zero_iff hplain).1 hcode
    obtain ⟨hread, hload, hagain⟩ := settings_of_creates hcreates
    have hplace := exists_place_of_creates hcreates
    have hfiles : out.files = made.put p.location (.file initBytes) :=
      congrArg Outcome.files (runInit_of_creates hcreates)
    rw [← hfiles] at hread hload hagain
    exact ⟨hplace, hread, Settings.violation?_default,
      ⟨_, hload, fun _ _ => rfl⟩, hagain⟩
  · intro hcode
    have htwo : out.code = 2 := ((runInit_code w o).resolve_left hcode).1
    exact ⟨htwo, holds_iff_of_code hplain hcode⟩

/-- A settings file in a new directory, beside a directory with a source file. -/
theorem runInit_of_isPlain_new_directory :
    let w : World :=
      { files := { root := .dir [("src", .dir [("a.py", .file [120])])], workDir := [] } }
    let o : InitOptions := { output := "conf/codecritic.yaml" }
    let out := runInit w o
    w.files.root.IsPlain ∧ out.code = 0 ∧ out.files.Holds ["src", "a.py"] (.file [120]) ∧
      readSettings out.files "conf/codecritic.yaml" = .ok Settings.default ∧
      (runInit { w with files := out.files } o).code = 2 := by
  intro w o out
  have hplain : w.files.root.IsPlain := by
    simp only [w, Node.IsPlain, Node.PlainEntries, Node.isProperName_ofText_iff]
    decide
  obtain ⟨hkept, -, hover, hwritable, hcreated, -⟩ := runInit_of_isPlain w o hplain
  have hpath : w.files.Writable "conf/codecritic.yaml" := ⟨_, rfl, _, .inl rfl⟩
  have hcode : out.code = 0 := hwritable.2 ⟨by decide +kernel, hpath⟩
  obtain ⟨-, hread, -, -, hagain⟩ := hcreated hcode
  have hup : Path.upName ∉ Path.names o.output := by decide +kernel
  have hholds : w.files.Holds ["src", "a.py"] (.file [120]) := ⟨rfl, rfl⟩
  refine ⟨hplain, hcode, ?_, hread, by rw [hagain]; rfl⟩
  exact (hkept _ _ hholds).resolve_right fun h => hup (hover _ h).1

/-- A path that goes up from a missing directory to a file beside it. -/
lemma creates_up (old : List UInt8) :
    let t : FileTree := { root := .dir [("codecritic.yaml", .file old)], workDir := [] }
    t.Creates "new/../codecritic.yaml"
      { t with root := .dir [("codecritic.yaml", .file old), ("new", .dir [])] }
      (.found ["codecritic.yaml"] (.file old)) where
  missing := by rfl
  makes := by rfl
  locates := by rfl
  writable := by simp

/-- **A settings file can be overwritten.**  The path goes up from a directory that is missing, so
that nothing is there when the command looks.  Then the directory is made, and the path leads to the
file. -/
theorem runInit_overwrites :
    let own := Utf8.encode "max_line_length: 5\n"
    let w : World :=
      { files := { root := .dir [("codecritic.yaml", .file own)], workDir := [] } }
    let o : InitOptions := { output := "new/../codecritic.yaml" }
    w.files.root.IsPlain ∧ w.files.Holds ["codecritic.yaml"] (.file own) ∧ (runInit w o).code = 0 ∧
      ¬ ∀ (w : World) (o : InitOptions), w.files.root.IsPlain →
        ∀ place node, w.files.Holds place node → (runInit w o).files.Holds place node := by
  intro own w o
  have hplain : w.files.root.IsPlain := by
    simp only [w, Node.IsPlain, Node.PlainEntries, Node.isProperName_ofText_iff]
    decide
  have hholds : w.files.Holds ["codecritic.yaml"] (.file own) := ⟨rfl, rfl⟩
  have hcreates := creates_up own
  have hout : runInit w o = _ := runInit_of_creates hcreates
  refine ⟨hplain, hholds, by rw [hout], fun hkept => ?_⟩
  have hown := (hkept w o hplain ["codecritic.yaml"] (.file own) hholds).1
  have hwritten : (runInit w o).files.root.get? ["codecritic.yaml"] = some (.file initBytes) := by
    rw [hout]
    exact Node.get?_put_self hcreates.free.hasParent _
  have hsame : own = initBytes := by simpa [hwritten] using hown.symm
  have hdiffers : Utf8.encode "max_line_length: 5\n" ≠ initBytes := by decide +kernel
  exact hdiffers hsame

end Critique
