import Critique.Analyzer.Description
import Critique.Command.Basic

/-!
# The command line

`Invocation.ofArgs` reads the words of a command line.  In front of the command stand flags only;
behind it stand flags, options with a value, and for one command a path.

A value is joined to its option (`--format=json`, `-fjson`, `-f=json`) or is the next word, which
then must not look like an option.  A value that is the next word is checked late: when another
known option or a path comes, or at the end.  So an unknown word that follows is complained about
first.  Behind the word `--` every word is a path.

The words are taken to be texts.  The paths among them stand for their bytes from here on, since a
command can be given any path.
-/

namespace Critique

namespace Args

/-- The commands, without their options. -/
inductive Verb where
  | analyze
  | info
  | init
  | languages
  deriving Repr, DecidableEq, Inhabited

/-- The command of a name. -/
def Verb.ofName? : String → Option Verb
  | "analyze" => some analyze
  | "check" => some analyze
  | "info" => some info
  | "init" => some init
  | "languages" => some languages
  | _ => none

/-- What takes a value on the command line. -/
inductive Slot where
  | path
  | language
  | format
  | config
  | modelEndpoint
  | failOn
  | output
  deriving Repr, DecidableEq, Inhabited

/-- The slots of a command by the long names of their options. -/
def Verb.longNames : Verb → List (String × Slot)
  | analyze => [("language", .language), ("format", .format), ("config", .config),
      ("model-endpoint", .modelEndpoint), ("fail-on", .failOn)]
  | info => [("config", .config), ("model-endpoint", .modelEndpoint)]
  | init => [("output", .output)]
  | languages => []

/-- The slots of a command by the short names of their options. -/
def Verb.shortNames : Verb → List (Char × Slot)
  | analyze => [('l', .language), ('f', .format), ('c', .config)]
  | info => [('c', .config)]
  | init => [('o', .output)]
  | languages => []

/-- Does the command take a path? -/
def Verb.takesPath : Verb → Bool
  | analyze => true
  | _ => false

/-! ## Words -/

/-- What a word looks like. -/
inductive Shape where
  /-- The word `--`. -/
  | divider
  /-- A long option, with the value that is joined to it. -/
  | long (name : String) (value : Option String)
  /-- A cluster of short options. -/
  | short (cluster : List Char)
  /-- Anything else, `-` included. -/
  | word

/-- What a word looks like. -/
def Shape.ofWord (s : String) : Shape :=
  match s.toList with
  | ['-', '-'] => .divider
  | '-' :: '-' :: cs =>
    let name := String.ofList (cs.takeWhile (· != '='))
    match cs.dropWhile (· != '=') with
    | [] => .long name none
    | _ :: value => .long name (some (String.ofList value))
  | '-' :: c :: cs => .short (c :: cs)
  | _ => .word

/-- One more wish for logging; they are counted up to 255. -/
def more (verbosity : Nat) : Nat :=
  min (verbosity + 1) 255

/-! ## Values -/

/-- May the slot have this value? -/
def Slot.check (slot : Slot) (value : String) : Except UsageError Unit :=
  match slot with
  | .path | .config | .output => if value.isEmpty then .error .missingValue else .ok ()
  | .failOn => if (Severity.ofUserText? value).isSome then .ok () else .error .refusedValue
  | .language | .format | .modelEndpoint => .ok ()

/-- What has been read behind a command. -/
structure State where
  verbosity : Nat := 0
  /-- The values that have been checked. -/
  values : List (Slot × String) := []
  /-- A slot whose value has not been checked yet, or not even been read. -/
  pending : Option (Slot × Option String) := none
  hasPath : Bool := false
  deriving Repr, Inhabited

namespace State

/-- Check a value and put it into its slot. -/
def store (st : State) (slot : Slot) (value : String) : Except UsageError State :=
  if (st.values.lookup slot).isSome then .error .repeatedOption
  else do
    slot.check value
    return { st with values := st.values ++ [(slot, value)] }

/-- Settle the slot whose value has not been checked. -/
def settle (st : State) : Except UsageError State :=
  match st.pending with
  | none => .ok st
  | some (_, none) => .error .missingValue
  | some (slot, some value) => { st with pending := none }.store slot value

/-- An option whose value is the next word. -/
def await (st : State) (slot : Slot) : Except UsageError State := do
  return { ← st.settle with pending := some (slot, none) }

/-- An option with its value joined to it. -/
def attach (st : State) (slot : Slot) (value : String) : Except UsageError State := do
  (← st.settle).store slot value

/-- A wish for more logging. -/
def countVerbose (st : State) : Except UsageError State := do
  let st ← st.settle
  return { st with verbosity := more st.verbosity }

/-- A wish for help. -/
def askHelp (st : State) : Except UsageError State := do
  let _ ← st.settle
  throw .help

/-- A long option. -/
def long (verb : Verb) (st : State) (name : String) (value : Option String) :
    Except UsageError State :=
  match verb.longNames.lookup name, value with
  | some slot, some value => st.attach slot value
  | some slot, none => st.await slot
  | none, some _ =>
    if name == "verbose" || name == "help" then .error .surplusValue else .error .unknownArgument
  | none, none =>
    if name == "verbose" then st.countVerbose
    else if name == "help" then st.askHelp
    else .error .unknownArgument

/-- A cluster of short options.  The first that takes a value takes the rest of the cluster. -/
def short (verb : Verb) (st : State) : List Char → Except UsageError State
  | [] => .ok st
  | c :: cs =>
    match verb.shortNames.lookup c, cs with
    | some slot, [] => st.await slot
    | some slot, '=' :: value => st.attach slot (String.ofList value)
    | some slot, value => st.attach slot (String.ofList value)
    | none, cs =>
      if c == 'v' then do short verb (← st.countVerbose) cs
      else if c == 'h' then st.askHelp
      else .error .unknownArgument

/-- A word that is no option: the value of the option before it, or a path. -/
def word (verb : Verb) (st : State) (onlyPaths : Bool) (w : String) : Except UsageError State :=
  match onlyPaths, st.pending with
  | false, some (slot, none) => .ok { st with pending := some (slot, some w) }
  | _, _ =>
    if verb.takesPath && !st.hasPath then do
      return { ← st.settle with pending := some (.path, some w), hasPath := true }
    else .error .unknownArgument

/-- The words behind a command.  `onlyPaths` says that the divider has been read. -/
def read (verb : Verb) : State → (onlyPaths : Bool) → List String → Except UsageError State
  | st, _, [] => st.settle
  | st, true, w :: ws => do read verb (← st.word verb true w) true ws
  | st, false, w :: ws =>
    match Shape.ofWord w with
    | .divider => read verb st true ws
    | .long name value => do read verb (← st.long verb name value) false ws
    | .short cluster => do read verb (← st.short verb cluster) false ws
    | .word => do read verb (← st.word verb false w) false ws

/-- The value of a slot. -/
def get? (st : State) (slot : Slot) : Option String :=
  st.values.lookup slot

/-- The command that has been read. -/
def command (st : State) : Verb → Except UsageError Command
  | .analyze =>
    match st.get? .path with
    | none => .error .missingArgument
    | some path => .ok (.analyze {
        path := path
        language := st.get? .language
        format := (st.get? .format).getD "pretty"
        config := (st.get? .config).map .ofText
        modelEndpoint := st.get? .modelEndpoint
        failOn := (st.get? .failOn).bind Severity.ofUserText? })
  | .info => .ok (.info {
      config := (st.get? .config).map .ofText
      modelEndpoint := st.get? .modelEndpoint })
  | .init => .ok (.init { output := (st.get? .output).getD "codecritic.yaml" })
  | .languages => .ok .languages

end State

/-! ## In front of the command -/

/-- A long flag in front of the command: the new verbosity. -/
def longFlag (verbosity : Nat) (name : String) (value : Option String) : Except UsageError Nat :=
  if name != "verbose" && name != "help" && name != "version" then .error .unknownArgument
  else if value.isSome then .error .surplusValue
  else if name == "verbose" then .ok (more verbosity)
  else if name == "help" then .error .help
  else .error .version

/-- A cluster of short flags in front of the command: the new verbosity. -/
def shortFlags (verbosity : Nat) : List Char → Except UsageError Nat
  | [] => .ok verbosity
  | c :: cs =>
    if c == 'v' then shortFlags (more verbosity) cs
    else if c == 'h' then .error .help
    else if c == 'V' then .error .version
    else .error .unknownArgument

/-- The words behind the command `help`: at most one command. -/
def readHelp : List String → UsageError
  | [] => .help
  | [w] => if w == "help" || (Verb.ofName? w).isSome then .help else .unknownCommand
  | _ => .unknownCommand

/-- The words from the start of a command line. -/
def read : (verbosity : Nat) → (onlyPaths : Bool) → List String → Except UsageError Invocation
  | 0, _, [] => .error .nothing
  | _, _, [] => .error .missingCommand
  | _, true, w :: _ =>
    .error (if w == "help" || (Verb.ofName? w).isSome then .unknownArgument else .unknownCommand)
  | verbosity, false, w :: ws =>
    match Verb.ofName? w with
    | some verb => do
      let st ← State.read verb {} false ws
      let command ← st.command verb
      return ⟨if st.verbosity = 0 then verbosity else st.verbosity, command⟩
    | none =>
      if w == "help" then .error (readHelp ws)
      else match Shape.ofWord w with
        | .divider => read verbosity true ws
        | .long name value => do read (← longFlag verbosity name value) false ws
        | .short cluster => do read (← shortFlags verbosity cluster) false ws
        | .word => .error .unknownCommand

end Args

/-- Read a command line, without the name of the program. -/
def Invocation.ofArgs (args : List String) : Except UsageError Invocation :=
  Args.read 0 false args

/-- What is written for those who ask for the version. -/
def versionText : String :=
  "codecritic " ++ version ++ "\n"

end Critique
