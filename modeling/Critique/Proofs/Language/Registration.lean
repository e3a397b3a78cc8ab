import Critique.Language.Registration
import Mathlib.Data.List.Basic

/-!
# What a call finds while the slots are being filled

A call of the registry sets the mark, fills the slots if the mark was not set before, and then
reads the slots.  The mark is set first, so that a second thread can pass it and read slots that
the first thread has not filled yet (`done_without_bundles`): such a call ends without a bundle,
and a look-up in what it found fails.

What does hold is collected in `found_eq_bundles_iff`.  A call finds nothing but bundles of the
registry, in their order, and it finds all of them exactly when the slot for Python is filled at
its first read and the slot for JavaScript at its second.  Slots stay filled, so a call that reads
after both have been filled finds everything.

Two facts about one step carry the argument, and `run_induction` takes both along a schedule: what
stands in slots and calls is sound (`sound_step`), and a filled slot stays filled
(`isSome_python_step`, `isSome_javaScript_step`).
-/

namespace Critique.Registration

/-! ## One step, and a run of steps -/

namespace System

variable {sys : System} {i j : ℕ} {phase : Phase}

lemma step_of_phase (h : sys.threads[i]? = some phase) :
    sys.step i =
      { shared := (phase.step sys.shared).1
        threads := sys.threads.set i (phase.step sys.shared).2 } := by
  simp only [step, h]

lemma step_of_none (h : sys.threads[i]? = none) : sys.step i = sys := by
  simp only [step, h]

@[simp] lemma run_nil (sys : System) : sys.run [] = sys := rfl

@[simp] lemma run_cons (sys : System) (i : ℕ) (schedule : List ℕ) :
    sys.run (i :: schedule) = (sys.step i).run schedule := rfl

lemma run_append (sys : System) (first second : List ℕ) :
    sys.run (first ++ second) = (sys.run first).run second :=
  List.foldl_append

/-- What every step keeps, every run keeps. -/
lemma run_induction {P : System → Prop} (hstep : ∀ sys i, P sys → P (sys.step i))
    (h : P sys) (schedule : List ℕ) : P (sys.run schedule) := by
  induction schedule generalizing sys with
  | nil => exact h
  | cons i schedule ih => exact ih (hstep sys i h)

/-- A property of what is shared is kept by a run when no phase can break it. -/
lemma shared_run_induction {P : Shared → Prop}
    (hphase : ∀ (s : Shared) (phase : Phase), P s → P (phase.step s).1)
    (h : P sys.shared) (schedule : List ℕ) : P (sys.run schedule).shared := by
  refine run_induction (P := fun sys => P sys.shared) ?_ h schedule
  intro sys i hsys
  cases hi : sys.threads[i]? with
  | none => rwa [step_of_none hi]
  | some phase =>
    rw [step_of_phase hi]
    exact hphase sys.shared phase hsys

/-- The thread whose turn it is goes on to its next phase. -/
lemma threads_step_self (h : sys.threads[i]? = some phase) :
    (sys.step i).threads[i]? = some (phase.step sys.shared).2 := by
  have hi : i < sys.threads.length := (List.getElem?_eq_some_iff.1 h).1
  rw [step_of_phase h]
  exact List.getElem?_set_self hi

lemma threads_step_of_ne (h : i ≠ j) : (sys.step i).threads[j]? = sys.threads[j]? := by
  cases hi : sys.threads[i]? with
  | none => rw [step_of_none hi]
  | some phase =>
    rw [step_of_phase hi]
    exact List.getElem?_set_ne h

/-- A thread stands still while only others have their turn. -/
lemma threads_run_of_notMem {schedule : List ℕ} (h : i ∉ schedule) :
    (sys.run schedule).threads[i]? = sys.threads[i]? := by
  induction schedule generalizing sys with
  | nil => rfl
  | cons j schedule ih =>
    rw [List.mem_cons, not_or] at h
    rw [run_cons, ih h.2, threads_step_of_ne (Ne.symm h.1)]

end System

/-! ## What slots and calls can hold -/

/-- Each slot is empty or holds the bundle it is for. -/
structure Shared.Sound (s : Shared) : Prop where
  python : s.python.toList.Sublist [Python.bundle]
  javaScript : s.javaScript.toList.Sublist [JavaScript.bundle]

/-- What a call has found so far are bundles of the registry, in their order. -/
def Phase.Sound : Phase → Prop
  | readJavaScript found => found.Sublist [Python.bundle]
  | done found => found.Sublist bundles
  | _ => True

/-- Slots and calls hold what they are for. -/
structure System.Sound (sys : System) : Prop where
  shared : sys.shared.Sound
  threads : ∀ phase ∈ sys.threads, phase.Sound

lemma sublist_toList_or {α : Type} {slot : Option α} {a : α} (h : slot.toList.Sublist [a]) :
    (slot.or (some a)).toList.Sublist [a] := by
  cases slot with
  | none => exact List.Sublist.refl _
  | some b => exact h

lemma Shared.Sound.phase_step {s : Shared} (h : s.Sound) (phase : Phase) :
    (phase.step s).1.Sound := by
  cases phase with
  | mark => exact ⟨h.python, h.javaScript⟩
  | fillPython => exact ⟨sublist_toList_or h.python, h.javaScript⟩
  | fillJavaScript => exact ⟨h.python, sublist_toList_or h.javaScript⟩
  | readPython => exact h
  | readJavaScript found => exact h
  | done found => exact h

/-- A call goes on soundly: its two reads add what the slots hold, Python first. -/
lemma Phase.Sound.step {s : Shared} (hs : s.Sound) {phase : Phase} (h : phase.Sound) :
    (phase.step s).2.Sound := by
  cases phase with
  | mark =>
    simp only [Phase.step]
    split <;> trivial
  | fillPython => trivial
  | fillJavaScript => trivial
  | readPython => exact hs.python
  | readJavaScript found => exact List.Sublist.append h hs.javaScript
  | done found => trivial

lemma System.sound_step (sys : System) (i : ℕ) (h : sys.Sound) : (sys.step i).Sound := by
  cases hi : sys.threads[i]? with
  | none => rwa [step_of_none hi]
  | some phase =>
    rw [step_of_phase hi]
    refine ⟨h.shared.phase_step phase, ?_⟩
    intro other hother
    rcases List.mem_or_eq_of_mem_set hother with hmem | rfl
    · exact h.threads other hmem
    · exact (h.threads phase (List.mem_of_getElem? hi)).step h.shared

lemma System.sound_start (n : ℕ) : (start n).Sound := by
  refine ⟨⟨List.nil_sublist _, List.nil_sublist _⟩, ?_⟩
  intro phase hphase
  rw [List.eq_of_mem_replicate hphase]
  trivial

/-- Slots and calls are sound at every moment of every run. -/
lemma System.sound_run (n : ℕ) (schedule : List ℕ) : ((start n).run schedule).Sound :=
  run_induction sound_step (sound_start n) schedule

/-! ## Slots stay filled -/

lemma isSome_python_step (s : Shared) (phase : Phase) (h : s.python.isSome) :
    (phase.step s).1.python.isSome := by
  cases phase with
  | fillPython => simp [Phase.step]
  | _ => exact h

lemma isSome_javaScript_step (s : Shared) (phase : Phase) (h : s.javaScript.isSome) :
    (phase.step s).1.javaScript.isSome := by
  cases phase with
  | fillJavaScript => simp [Phase.step]
  | _ => exact h

/-! ## What a call finds -/

namespace System

/-- The two reads of a call, with any steps of other threads between them: the call ends with what
the slot for Python held at the first read and the slot for JavaScript at the second. -/
lemma threads_run_of_reads {sys : System} {i : ℕ} {between : List ℕ}
    (hread : sys.threads[i]? = some .readPython) (hother : i ∉ between) :
    (sys.run (i :: between ++ [i])).threads[i]? =
      some (.done (sys.shared.python.toList ++
        (sys.run (i :: between)).shared.javaScript.toList)) := by
  -- between the reads it keeps what it has found, for it stands still
  have hfirst : (sys.run (i :: between)).threads[i]? =
      some (.readJavaScript sys.shared.python.toList) := by
    rw [run_cons, threads_run_of_notMem hother, threads_step_self hread]
    rfl
  rw [run_append, run_cons, run_nil, threads_step_self hfirst]
  rfl

lemma length_toList_eq_one_iff {α : Type} (slot : Option α) :
    slot.toList.length = 1 ↔ slot.isSome := by
  cases slot with
  | none => simp
  | some a => simp

/-- What sound slots give is everything exactly when both are filled. -/
lemma append_toList_eq_bundles_iff {python javaScript : Option Bundle}
    (hsub : (python.toList ++ javaScript.toList).Sublist bundles) :
    python.toList ++ javaScript.toList = bundles ↔ python.isSome ∧ javaScript.isSome := by
  -- a part of the two bundles is both of them when it has two elements
  have hlength : python.toList ++ javaScript.toList = bundles ↔
      python.toList.length + javaScript.toList.length = 2 := by
    rw [← List.length_append]
    exact ⟨fun h => by rw [h]; rfl, fun h => hsub.eq_of_length h⟩
  have hpython : python.toList.length ≤ 1 := by cases python <;> simp
  have hjavaScript : javaScript.toList.length ≤ 1 := by cases javaScript <;> simp
  rw [hlength, ← length_toList_eq_one_iff, ← length_toList_eq_one_iff]
  omega

/-- **What a call finds.**  In every run of any number of threads, take a call about to read, and any
steps of other threads between its two reads.  The call ends with bundles of the registry in their
order, and with all of them exactly when the slot for Python is filled at its first read and the
slot for JavaScript at its second.  Filled slots stay filled, so a call finds everything whenever
both were filled at some moment before it begins to read. -/
theorem found_eq_bundles_iff (n : ℕ) (before between : List ℕ) (i : ℕ)
    (hread : ((start n).run before).threads[i]? = some .readPython) (hother : i ∉ between) :
    ∃ found, ((start n).run (before ++ (i :: between ++ [i]))).threads[i]? = some (.done found) ∧
      found.Sublist bundles ∧
      (found = bundles ↔ ((start n).run before).shared.python.isSome ∧
        ((start n).run (before ++ i :: between)).shared.javaScript.isSome) ∧
      ∀ early, early <+: before → ((start n).run early).shared.python.isSome →
        ((start n).run early).shared.javaScript.isSome → found = bundles := by
  have hend := threads_run_of_reads hread hother
  rw [← run_append, ← run_append] at hend
  have hsub := (sound_run n _).threads _ (List.mem_of_getElem? hend)
  have hiff := append_toList_eq_bundles_iff hsub
  refine ⟨_, hend, hsub, hiff, ?_⟩
  rintro early ⟨rest, rfl⟩ hpython hjavaScript
  -- no step empties a slot, so what was filled then is filled at the reads
  refine hiff.2 ⟨?_, ?_⟩
  · rw [run_append]
    exact shared_run_induction isSome_python_step hpython rest
  · rw [List.append_assoc, run_append]
    exact shared_run_induction isSome_javaScript_step hjavaScript _

/-- Two threads: the first has filled both slots and reads, and the second passes the mark
meanwhile. -/
theorem found_eq_bundles_after_filling :
    ((start 2).run [0, 0, 0]).threads[0]? = some .readPython ∧ 0 ∉ [1] ∧
      ((start 2).run ([0, 0, 0] ++ (0 :: [1] ++ [0]))).threads[0]? = some (.done bundles) := by
  obtain ⟨found, hend, -, -, hall⟩ := found_eq_bundles_iff 2 [0, 0, 0] [1] 0 rfl (by decide)
  obtain rfl : found = bundles := hall [0, 0, 0] List.prefix_rfl rfl rfl
  exact ⟨rfl, by decide, hend⟩

/-- **A call can end without bundles.**  Two threads: the first has set the mark and filled nothing,
the second goes through a whole call.  It finds no bundle, and Python is not among what it found. -/
theorem done_without_bundles :
    ¬ ∀ (n : ℕ) (schedule : List ℕ) (i : ℕ) (found : List Bundle),
      ((start n).run schedule).threads[i]? = some (.done found) →
        found = bundles ∧ (found.find? (·.handlesLanguage "python")).isSome := by
  intro h
  have hlost := (h 2 [0, 1, 1, 1] 1 [] rfl).2
  exact absurd hlost (by decide)

end System

end Critique.Registration
