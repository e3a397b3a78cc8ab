import Critique.Language.Registry

/-!
# Registration by several threads

The bundles are registered when they are first asked for, and several threads may ask at the same
time.  The threads share a mark that some thread has begun and one slot for each bundle.  A call by
a thread goes through atomic steps: it sets the mark, fills the slots if the mark was not set
before, and then reads the slots one after the other.

`System.run` is a run of all threads under a schedule, which says for every step whose turn it is.
A call that has gone through all its steps has found the bundles that it saw in the slots.
-/

namespace Critique.Registration

/-- What the threads share. -/
structure Shared where
  /-- Has some thread begun to fill the slots? -/
  begun : Bool := false
  python : Option Bundle := none
  javaScript : Option Bundle := none

/-- Where a thread stands in a call. -/
inductive Phase where
  | mark
  | fillPython
  | fillJavaScript
  | readPython
  | readJavaScript (found : List Bundle)
  /-- The call has ended with these bundles. -/
  | done (found : List Bundle)

/-- The next atomic step of a thread.  After a call the thread begins another one. -/
def Phase.step (s : Shared) : Phase → Shared × Phase
  | mark => ({ s with begun := true }, if s.begun then readPython else fillPython)
  | fillPython => ({ s with python := s.python.or (some Python.bundle) }, fillJavaScript)
  | fillJavaScript =>
    ({ s with javaScript := s.javaScript.or (some JavaScript.bundle) }, readPython)
  | readPython => (s, readJavaScript s.python.toList)
  | readJavaScript found => (s, done (found ++ s.javaScript.toList))
  | done _ => (s, mark)

/-- The threads with what they share. -/
structure System where
  shared : Shared := {}
  threads : List Phase

namespace System

/-- A number of threads that have not begun. -/
def start (n : Nat) : System :=
  { threads := List.replicate n .mark }

/-- One step of a thread; nothing happens if there is no such thread. -/
def step (sys : System) (thread : Nat) : System :=
  match sys.threads[thread]? with
  | none => sys
  | some phase =>
    let (shared, phase) := phase.step sys.shared
    { shared, threads := sys.threads.set thread phase }

/-- The steps of a schedule, one after another. -/
def run (sys : System) (schedule : List Nat) : System :=
  schedule.foldl step sys

end System

end Critique.Registration
