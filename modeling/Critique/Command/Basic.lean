import Critique.Finding
import Critique.Text.OsText

/-!
# Commands

What a user can ask for on the command line, and the ways in which the words on a command line fail
to ask for anything.
-/

namespace Critique

/-- What to analyze, and how. -/
structure AnalyzeOptions where
  /-- A file, a directory, or `-` for the standard input. -/
  path : OsText
  language : Option String := none
  format : String := "pretty"
  /-- The settings file; without one it is looked for. -/
  config : Option OsText := none
  modelEndpoint : Option String := none
  /-- Issues of at least this severity make the run fail. -/
  failOn : Option Severity := none
  deriving Repr, DecidableEq, Inhabited

/-- Which analyzer to describe. -/
structure InfoOptions where
  config : Option OsText := none
  modelEndpoint : Option String := none
  deriving Repr, DecidableEq, Inhabited

/-- Where to write default settings. -/
structure InitOptions where
  output : OsText := "codecritic.yaml"
  deriving Repr, DecidableEq, Inhabited

/-- A command with its options. -/
inductive Command where
  | analyze (options : AnalyzeOptions)
  | info (options : InfoOptions)
  | init (options : InitOptions)
  | languages
  deriving Repr, DecidableEq, Inhabited

/-- A command, and how often the user asked for more to be logged. -/
structure Invocation where
  verbosity : Nat
  command : Command
  deriving Repr, DecidableEq, Inhabited

/-- Why the words on a command line give no command. -/
inductive UsageError where
  /-- Help is asked for. -/
  | help
  /-- The version is asked for. -/
  | version
  /-- There is nothing on the command line. -/
  | nothing
  /-- There are flags but no command. -/
  | missingCommand
  | unknownCommand
  | unknownArgument
  | missingArgument
  /-- An option has no value, or an empty one that must not be empty. -/
  | missingValue
  /-- The value of an option is not one of those allowed. -/
  | refusedValue
  | repeatedOption
  /-- A flag has a value. -/
  | surplusValue
  deriving Repr, DecidableEq, Inhabited

/-- The exit code for words that give no command: only those who ask for help or the version have
done nothing wrong. -/
def UsageError.exitCode : UsageError → Nat
  | help => 0
  | version => 0
  | _ => 2

/-- What is said about words that give no command. -/
def UsageError.message : UsageError → String
  | help => "help is asked for"
  | version => "the version is asked for"
  | nothing => "a command is needed"
  | missingCommand => "a command is needed"
  | unknownCommand => "there is no such command"
  | unknownArgument => "there is a word that no command knows"
  | missingArgument => "the path to analyze is missing"
  | missingValue => "an option needs a value"
  | refusedValue => "a severity is low, medium or high"
  | repeatedOption => "an option stands twice"
  | surplusValue => "a flag takes no value"

/-- How the command line is used. -/
def usageText : String :=
  "Usage: codecritic [-v] <command>\n\n" ++
  "Commands:\n" ++
  "  analyze <path>  Analyze a file, a directory, or standard input (also: check)\n" ++
  "    -l, --language <language>    Language of the input\n" ++
  "    -f, --format <format>        pretty or json\n" ++
  "    -c, --config <file>          Settings file\n" ++
  "        --model-endpoint <url>   Classifier to ask as well\n" ++
  "        --fail-on <severity>     Fail on an issue of at least this severity\n" ++
  "  info            Describe the analyzer as JSON\n" ++
  "    -c, --config <file>          Settings file\n" ++
  "        --model-endpoint <url>   Classifier to ask as well\n" ++
  "  init            Write a file with the default settings\n" ++
  "    -o, --output <file>          Where to write it\n" ++
  "  languages       List languages and file extensions\n"

end Critique
