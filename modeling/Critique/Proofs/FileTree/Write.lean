import Critique.Proofs.FileTree.LookUp

/-!
# Reading what was written

A file is written to the place that its path leads to, and the same path leads to it afterwards: on
the way there are only directories and links, and those are what they were (`get?_put_of_ne`).  So a
read after a write gives the bytes that were written (`FileTree.read_put`).

Only what is no regular file is different.  A device takes what is written and forgets it, and is
left out by `FileTree.Writable`.
-/

namespace Critique

namespace Node

/-! ## Putting something at a place -/

section Put

variable {root child n : Node} {place p : Location}

lemma lookup_putEntry (name other : OsText) (es : List (OsText × Node)) :
    (putEntry name child es).lookup other =
      if other = name then some child else es.lookup other := by
  induction es with
  | nil =>
    by_cases h : other = name
    · simp [putEntry, h]
    · simp [putEntry, List.lookup_cons, h, beq_eq_false_iff_ne.2 h]
  | cons e es ih =>
    obtain ⟨own, c⟩ := e
    rw [putEntry]
    by_cases hown : own = name
    · subst hown
      by_cases h : other = own
      · simp [h]
      · simp [List.lookup_cons, h, beq_eq_false_iff_ne.2 h]
    · rw [if_neg hown]
      by_cases h : other = own
      · subst h
        simp [hown]
      · simp [List.lookup_cons, beq_eq_false_iff_ne.2 h, ih]

/-- What stands below a name stands below the entry of that name. -/
lemma exists_of_get?_cons {name : OsText} (h : root.get? (name :: p) = some n) :
    ∃ es c, root = .dir es ∧ es.lookup name = some c ∧ c.get? p = some n := by
  simp only [get?] at h
  cases hlookup : root.entries.lookup name with
  | none => simp [hlookup] at h
  | some c =>
    rw [hlookup] at h
    cases root with
    | dir es => exact ⟨es, c, rfl, hlookup, h⟩
    | _ => simp [entries] at hlookup

/-- A place that something can be put at: its directory is there. -/
def HasParent (root : Node) (place : Location) : Prop :=
  ∀ above name, place = above ++ [name] → ∃ es, root.get? above = some (.dir es)

lemma get?_put_self (h : root.HasParent place) (child : Node) :
    (root.put place child).get? place = some child := by
  induction place generalizing root with
  | nil => rfl
  | cons name rest ih =>
    cases rest with
    | nil =>
      obtain ⟨es, hes⟩ := h [] name rfl
      cases hes
      cases hlookup : es.lookup name <;>
        simp [put, hlookup, get?, entries, lookup_putEntry]
    | cons next rest =>
      -- the directory above the place is also above the rest of it, seen from the entry
      have hsplit := List.dropLast_concat_getLast (List.cons_ne_nil next rest)
      obtain ⟨_, habove⟩ := h (name :: (next :: rest).dropLast) _ (by rw [List.cons_append, hsplit])
      obtain ⟨es, c, rfl, hlookup, -⟩ := exists_of_get?_cons habove
      have hrest : c.HasParent (next :: rest) := by
        intro above own heq
        obtain ⟨es', hes'⟩ := h (name :: above) own (by rw [heq, List.cons_append])
        obtain ⟨_, c', hes, hlookup', hget⟩ := exists_of_get?_cons hes'
        cases hes
        rw [hlookup] at hlookup'
        cases hlookup'
        exact ⟨es', hget⟩
      have hput := ih hrest
      simp only [put, hlookup, get?, entries, lookup_putEntry, if_true] at hput ⊢
      exact hput

/-- What becomes of a node when something is put below it: a directory stays one, and nothing else
changes. -/
def Kept (n n' : Node) : Prop :=
  n' = n ∨ n.isDir = true ∧ n'.isDir = true

lemma isDir_put_cons (es : List (OsText × Node)) (name : OsText) (rest : Location) :
    ((dir es).put (name :: rest) child).isDir = true := by
  simp only [put]
  split <;> rfl

lemma get?_put_of_ne (hplace : ∀ es, root.get? place ≠ some (.dir es)) (hne : p ≠ place)
    (h : root.get? p = some n) (child : Node) :
    ∃ n', (root.put place child).get? p = some n' ∧ n.Kept n' := by
  induction place generalizing root p with
  | nil =>
    -- the root itself is replaced, and was no directory
    cases p with
    | nil => exact absurd rfl hne
    | cons name rest =>
      obtain ⟨es, c, rfl, -, -⟩ := exists_of_get?_cons h
      exact absurd rfl (hplace es)
  | cons name rest ih =>
    cases p with
    | nil =>
      cases h
      cases n with
      | dir es => exact ⟨_, rfl, .inr ⟨rfl, isDir_put_cons es name rest⟩⟩
      | _ => exact ⟨_, rfl, .inl rfl⟩
    | cons other p =>
      obtain ⟨es, c, rfl, hlookup, hget⟩ := exists_of_get?_cons h
      -- both places go down together as long as their names agree
      by_cases hother : other = name
      · subst hother
        have hbelow : ∀ es', c.get? rest ≠ some (.dir es') := by
          intro es' hes'
          refine hplace es' ?_
          simp only [get?, entries, hlookup]
          exact hes'
        obtain ⟨n', hn', hkept⟩ := ih hbelow (fun heq => hne (heq ▸ rfl)) hget
        refine ⟨n', ?_, hkept⟩
        simp only [put, hlookup, get?, entries, lookup_putEntry, if_true]
        exact hn'
      · -- the entry of another name is not touched
        refine ⟨n, ?_, .inl rfl⟩
        simp only [put]
        split <;> simp only [get?, entries, lookup_putEntry, if_neg hother, hlookup, hget]

/-- A directory stays a directory when something is put where none is. -/
lemma exists_dir_put (hplace : ∀ es, root.get? place ≠ some (.dir es))
    {es : List (OsText × Node)} (h : root.get? p = some (.dir es)) (child : Node) :
    ∃ es', (root.put place child).get? p = some (.dir es') := by
  have hne : p ≠ place := fun heq => hplace es (heq ▸ h)
  obtain ⟨n', hn', rfl | ⟨-, hdir⟩⟩ := get?_put_of_ne hplace hne h child
  · exact ⟨es, hn'⟩
  · cases n' with
    | dir es' => exact ⟨es', hn'⟩
    | _ => cases hdir

lemma lookup_eq_get? {es : List (OsText × Node)} (h : root.get? p = some (.dir es))
    (name : OsText) : es.lookup name = root.get? (p ++ [name]) := by
  rw [get?_append, h]
  simp only [Option.bind_some, get?, entries]
  cases es.lookup name with
  | none => rfl
  | some c => rfl

/-- A place at which a regular file can be written: there is one, or there is nothing, in a
directory that is there. -/
inductive Free (root : Node) : Location → Prop where
  | file {place : Location} {bytes : List UInt8} (h : root.get? place = some (.file bytes)) :
      Free root place
  | absent {above : Location} {name : OsText} {es : List (OsText × Node)}
      (hdir : root.get? above = some (.dir es)) (h : es.lookup name = none) :
      Free root (above ++ [name])

lemma Free.get?_eq (h : root.Free place) :
    root.get? place = none ∨ ∃ bytes, root.get? place = some (.file bytes) := by
  cases h with
  | file h => exact .inr ⟨_, h⟩
  | absent hdir h => exact .inl ((lookup_eq_get? hdir _).symm.trans h)

lemma Free.not_dir (h : root.Free place) (es : List (OsText × Node)) :
    root.get? place ≠ some (.dir es) := by
  rcases h.get?_eq with h | ⟨_, h⟩
  · simp [h]
  · simp [h]

lemma Free.hasParent (h : root.Free place) : root.HasParent place := by
  intro dir name heq
  cases h with
  | file hfile =>
    rw [heq, get?_append] at hfile
    obtain ⟨n, hn, hchild⟩ := Option.bind_eq_some_iff.1 hfile
    obtain ⟨es, _, rfl, -, -⟩ := exists_of_get?_cons hchild
    exact ⟨es, hn⟩
  | absent hdir _ =>
    obtain ⟨rfl, -⟩ := List.append_inj' heq rfl
    exact ⟨_, hdir⟩

end Put

end Node

/-! ## The way to a file -/

/-- The place that a look-up ends at. -/
def Place.location : Place → Location
  | .found place _ => place
  | .absent place => place

section Way

variable {root : Node} {place q base : Location} {names rest : List OsText} {p : Place}
  {target : OsText}

lemma get?_put_dir (hfree : root.Free place) {es : List (OsText × Node)}
    (h : root.get? q = some (.dir es)) (bytes : List UInt8) :
    ∃ es', (root.put place (.file bytes)).get? q = some (.dir es') :=
  Node.exists_dir_put hfree.not_dir h (.file bytes)

lemma get?_put_link (hfree : root.Free place) (h : root.get? q = some (.link target))
    (bytes : List UInt8) :
    (root.put place (.file bytes)).get? q = some (.link target) := by
  have hne : q ≠ place := by
    rintro rfl
    rcases hfree.get?_eq with hfree | ⟨_, hfree⟩
    · simp [hfree] at h
    · simp [hfree] at h
  obtain ⟨n', hn', hkept⟩ := Node.get?_put_of_ne hfree.not_dir hne h (.file bytes)
  rcases hkept with rfl | ⟨hdir, -⟩
  · exact hn'
  · cases hdir

lemma get?_put_child (hfree : root.Free place) {n : Node} (h : root.get? q = some n)
    (hlink : ∀ target, n ≠ .link target) (bytes : List UInt8) :
    ∃ n', (root.put place (.file bytes)).get? q = some n' ∧ ∀ target, n' ≠ .link target := by
  by_cases hq : q = place
  · subst hq
    exact ⟨_, Node.get?_put_self hfree.hasParent _, by simp⟩
  · obtain ⟨n', hn', hkept⟩ := Node.get?_put_of_ne hfree.not_dir hq h (.file bytes)
    refine ⟨n', hn', ?_⟩
    rcases hkept with rfl | ⟨-, hdir⟩
    · exact hlink
    · rintro target rfl
      cases hdir

section Follow

variable {name : OsText} {es : List (OsText × Node)} (hget : root.get? q = some (.dir es))
  (hdot : ¬ (name = .empty || name = Path.hereName) = true) (hup : ¬ name = Path.upName)
  (hlimit : ¬ nameLimit < name.length)

include hget hdot hup hlimit

lemma descend_link (h : root.get? (q ++ [name]) = some (.link target)) :
    descend root .follow q (name :: rest) = .jump q target rest := by
  rw [← Node.lookup_eq_get? hget] at h
  rw [descend, hget]
  simp [hdot, hup, hlimit, h]

lemma descend_child {n : Node} (h : root.get? (q ++ [name]) = some n)
    (hlink : ∀ target, n ≠ .link target) :
    descend root .follow q (name :: rest) = descend root .follow (q ++ [name]) rest := by
  rw [← Node.lookup_eq_get? hget] at h
  rw [descend, hget]
  cases n with
  | link target => exact absurd rfl (hlink target)
  | _ => simp [hdot, hup, hlimit, h]

end Follow

/-- What a step becomes when a file is written at a place: one that ended there ends at the file,
and one that came to a link comes to it again. -/
def Step.Follows (place : Location) (bytes : List UInt8) (s s' : Step) : Prop :=
  match s with
  | .arrived p => p.location = place → s' = .arrived (.found place (.file bytes))
  | .jump base target rest => s' = .jump base target rest
  | .failed _ => True

lemma follows_descend (hfree : root.Free place) (bytes : List UInt8) (q : Location)
    (names : List OsText) :
    (descend root .create q names).Follows place bytes
      (descend (root.put place (.file bytes)) .follow q names) := by
  have hself := Node.get?_put_self hfree.hasParent (.file bytes)
  -- the two runs stay at the same place until one ends; only entries on the way matter
  fun_induction descend root .create q names with
  | case1 q node hget =>
    rintro rfl
    simp only [Place.location] at hself ⊢
    simp only [descend, hself]
  | case3 q name rest es hget hdot ih =>
    obtain ⟨es', hes'⟩ := get?_put_dir hfree hget bytes
    simp only [descend, hes', hdot, if_true]
    exact ih
  | case4 q rest es hget hdot ih =>
    obtain ⟨es', hes'⟩ := get?_put_dir hfree hget bytes
    simp only [descend, hes', hdot, if_true]
    exact ih
  | case7 q name rest es hget hdot hup _ hlimit _ hrest =>
    rintro rfl
    obtain ⟨es', hes'⟩ := get?_put_dir hfree hget bytes
    obtain rfl : rest = [] := by simpa using hrest
    rw [descend_child hes' hdot hup hlimit hself (by simp)]
    simp only [Place.location] at hself ⊢
    simp only [descend, hself]
  | case9 q name rest es _ _ _ _ _ target _ hentry => simp at hentry
  | case10 q name rest es hget hdot hup _ hlimit target hlookup _ =>
    obtain ⟨es', hes'⟩ := get?_put_dir hfree hget bytes
    have hlink := get?_put_link hfree ((Node.lookup_eq_get? hget name).symm.trans hlookup) bytes
    exact descend_link hes' hdot hup hlimit hlink
  | case11 q name rest es hget hdot hup _ hlimit child hlink hlookup ih =>
    obtain ⟨es', hes'⟩ := get?_put_dir hfree hget bytes
    obtain ⟨n', hn', hlink'⟩ := get?_put_child hfree
      ((Node.lookup_eq_get? hget name).symm.trans hlookup) hlink bytes
    rw [descend_child hes' hdot hup hlimit hn' hlink']
    exact ih
  | _ => trivial

/-- A look-up that led to a place before a file is written there leads to that file afterwards. -/
lemma lookUp_put (hfree : root.Free place) (hp : p.location = place) {links : Nat}
    (h : lookUp root .create links q names = .ok p) (bytes : List UInt8) :
    lookUp (root.put place (.file bytes)) .follow links q names =
      .ok (.found place (.file bytes)) := by
  fun_induction lookUp root .create links q names with
  | case1 links q names found hdescend =>
    cases h
    have hstep := follows_descend hfree bytes q names
    rw [hdescend] at hstep
    rw [lookUp, hstep hp]
  | case5 q names base target rest hdescend links hempty start ih =>
    have hstep := follows_descend hfree bytes q names
    rw [hdescend] at hstep
    rw [lookUp, hstep]
    simp only [hempty]
    exact ih h
  | _ => cases h

end Way

namespace FileTree

variable {t made : FileTree} {path : OsText}

/-- A regular file can be written at the path: the directories above it can be made, and what is
there then is such a file that may be written, or nothing. -/
def Writable (t : FileTree) (path : OsText) : Prop :=
  ∃ made, t.makeParents path = ⟨made, none⟩ ∧
    ∃ place, made.locate .create path = .ok (.absent place) ∨
      ∃ old, made.locate .create path = .ok (.found place (.file old))

/-- Where a path leads to nothing, something can be put. -/
lemma free_of_absent {aim : Aim} {names : List OsText} {place : Location}
    (h : t.locateNames aim path names = .ok (.absent place)) :
    t.root.get? place = none ∧ t.root.Free place := by
  obtain ⟨start, hlookUp⟩ := exists_lookUp_of_locateNames h
  obtain ⟨dir, name, es, rfl, hdir, hnone⟩ := get?_of_lookUp_absent hlookUp
  exact ⟨(Node.lookup_eq_get? hdir name).symm.trans hnone, .absent hdir hnone⟩

lemma free_of_locate {p : Place} (h : t.locate .create path = .ok p)
    (hp : ∀ place node, p = .found place node → ∃ old, node = .file old) :
    t.root.Free p.location := by
  cases p with
  | found place node =>
    obtain ⟨old, rfl⟩ := hp place node rfl
    exact .file (get?_of_find (find_eq_ok_iff.2 h))
  | absent place => exact (free_of_absent h).2

/-- After a write its path leads to what was written. -/
lemma find_put {p : Place} (h : t.locate .create path = .ok p) (hfree : t.root.Free p.location)
    (bytes : List UInt8) :
    (t.put p.location (.file bytes)).find .follow path = .ok (p.location, .file bytes) := by
  rw [find_eq_ok_iff]
  unfold locate locateNames at h ⊢
  split_ifs at h ⊢ with hnul hempty hlimit habsolute
  · exact lookUp_put hfree rfl h bytes
  · exact lookUp_put hfree rfl h bytes

/-- What is read after a write is what was written. -/
lemma read_put {p : Place} (h : t.locate .create path = .ok p) (hfree : t.root.Free p.location)
    (bytes : List UInt8) : (t.put p.location (.file bytes)).read path = .ok bytes := by
  simp [read, stat, find_put h hfree, Except.map]

lemma Writable.exists_write (h : t.Writable path) (bytes : List UInt8) :
    ∃ made files, t.makeParents path = ⟨made, none⟩ ∧ made.write path bytes = .ok files ∧
      files.read path = .ok bytes := by
  obtain ⟨made, hmade, place, hplace | ⟨old, hplace⟩⟩ := h
  · refine ⟨made, made.put place (.file bytes), hmade, by simp [write, hplace], ?_⟩
    exact read_put hplace (free_of_locate hplace (by simp)) bytes
  · refine ⟨made, made.put place (.file bytes), hmade, by simp [write, hplace], ?_⟩
    exact read_put hplace (free_of_locate hplace (by simp)) bytes

end FileTree

end Critique
