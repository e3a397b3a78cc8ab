import Critique.Analyzer.Storage

/-!
# Sessions with an analyzer

A session is an analyzer in use, together with the files that it can save to and load from.  Calls
of the analyzer come one after another, and between them other programs may leave the files in any
state.

`Session.call` is one call with its answer, `Session.run` is the session after some events, and
`Session.answers` are the answers to the calls among them.
-/

namespace Critique

/-- What an analyzer can be asked for. -/
inductive Call where
  | analyze (code language : String)
  | describe
  | train (samples : List TrainingSample) (options : TrainingOptions)
  | evaluate (samples : List TrainingSample)
  | save (path : OsText)
  | load (path : OsText)

/-- What an analyzer answers. -/
inductive Answer where
  | report (r : Report)
  | description (d : Description)
  | measurements (m : Table Float)
  | done
  | failed (f : Failure)

/-- The answer of a call that can fail. -/
def Answer.ofExcept {α : Type} (answer : α → Answer) : Except Failure α → Answer
  | .ok a => answer a
  | .error f => failed f

/-- What happens in a session. -/
inductive Event where
  | call (c : Call)
  /-- Other programs leave the files like this. -/
  | files (t : FileTree)

/-- An analyzer in use. -/
structure Session where
  analyzer : Analyzer
  files : FileTree

namespace Session

/-- The session with the analyzer that a call gives, if it gives one. -/
def replace (s : Session) : Except Failure Analyzer → Session × Answer
  | .ok a => ({ s with analyzer := a }, .done)
  | .error f => (s, .failed f)

/-- One call: the session afterwards, and the answer. -/
def call (s : Session) : Call → Session × Answer
  | .analyze code language => (s, .ofExcept .report (s.analyzer.analyze code language))
  | .describe => (s, .description s.analyzer.describe)
  | .train samples options => s.replace (s.analyzer.train samples options)
  | .evaluate samples => (s, .ofExcept .measurements (s.analyzer.evaluate samples))
  | .save path =>
    match s.analyzer.save s.files path with
    | (files, none) => ({ s with files }, .done)
    | (files, some f) => ({ s with files }, .failed f)
  | .load path => s.replace (s.analyzer.load s.files path)

/-- The session after an event. -/
def after (s : Session) : Event → Session
  | .call c => (s.call c).1
  | .files t => { s with files := t }

/-- The session after some events. -/
def run (s : Session) (events : List Event) : Session :=
  events.foldl after s

/-- The answers to the calls among some events. -/
def answers (s : Session) : List Event → List Answer
  | [] => []
  | .call c :: events => (s.call c).2 :: answers (s.call c).1 events
  | .files t :: events => answers { s with files := t } events

end Session

end Critique
