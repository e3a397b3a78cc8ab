import Critique.Command.Args
import Critique.Command.Log
import Critique.Display.Terminal

/-!
# The program

The outer layer: it reads the part of the world that a command looks at into a `World`, runs the
command, and writes what comes of it.  There is no network in it, so every request to a classifier
stays unanswered.  What it can reach on the disk are the files whose paths are texts.
-/

namespace Critique

/-! ## Reading the disk -/

/-- The path of a place. -/
def placePath (place : Location) : String :=
  "/" ++ "/".intercalate (place.map OsText.lossy)

/-- A tree with something put at a place; the directories on the way are added. -/
def graft (node : Node) : Location → Node → Node
  | [], _ => node
  | name :: rest, root =>
    let child := (root.entries.lookup name).getD (.dir [])
    .dir (Node.putEntry name (graft node rest child) root.entries)

/-- A file as it is on the disk. -/
def readFile (path : String) : IO Node := do
  try return .file (← IO.FS.readBinFile path).toList
  catch _ => return .locked

/-- What stands at a path on the disk, links followed.  Below a directory only source files are
read, and directories that a walk leaves out are not entered.  A directory that the reading is
inside of becomes a link to it. -/
partial def readTree (inside : List String) (name path : String) : IO Node := do
  let real ← try IO.FS.realPath path catch _ => return .link path
  let place := toString real
  if ← real.isDir then
    if inside.contains place then return .link place
    if !inside.isEmpty && isSkippedDir name then return .dir []
    let children ← (← real.readDir).toList.mapM fun e => do
      return ((e.fileName : OsText),
        ← readTree (place :: inside) e.fileName (Path.join path e.fileName).lossy)
    return .dir children
  else if !(← real.pathExists) then return .link path
  else if inside.isEmpty || (languageOfPath? path).isSome then readFile path
  else return .locked

/-- Something to read: a path, and whether all that is below it is wanted. -/
structure Wanted where
  path : OsText
  deep : Bool := false

/-- Add to a tree what the disk has on the way to a path and at its end. -/
def readWay (deep : Bool) (root : Node) (place : Location) : List OsText → IO Node
  | [] => do
    if deep then return graft (← readTree [] "" (placePath place)) place root else return root
  | name :: rest => do
    let place :=
      if name = Path.upName then place.dropLast
      else if name = Path.hereName then place
      else place ++ [name]
    let real ← try IO.FS.realPath (placePath place) catch _ => return root
    if ← real.isDir then
      let root := if (root.get? place).isSome then root else graft (.dir []) place root
      readWay deep root place rest
    else if ← real.pathExists then return graft (← readFile (placePath place)) place root
    else return root

/-- The tree with what the disk has at some paths. -/
def readFiles (wanted : List Wanted) : IO FileTree := do
  let workDir := Path.names (toString (← IO.currentDir))
  let root ← wanted.foldlM (fun root w =>
    readWay w.deep root (if Path.isAbsolute w.path then [] else workDir) (Path.names w.path))
    (graft (.dir []) workDir (.dir []))
  return { root, workDir }

/-! ## Commands -/

/-- The settings files that a command may read. -/
def wantedSettings (named : Option OsText) : List Wanted :=
  (settingsNames.map OsText.ofText ++ named.toList).map fun path => { path }

/-- What a command looks at on the disk. -/
def Command.wanted : Command → List Wanted
  | .analyze o => { path := o.path, deep := true } :: wantedSettings o.config
  | .info o => wantedSettings o.config
  | .init o => [{ path := o.output }]
  | .languages => []

/-- Does a command read the standard input? -/
def Command.readsStdin : Command → Bool
  | .analyze o => o.path == "-"
  | _ => false

/-- What a command may write to. -/
def Command.output? : Command → Option OsText
  | .init o => some o.output
  | _ => none

/-- Everything that is left in a stream. -/
partial def readAll (stream : IO.FS.Stream) (read : ByteArray) : IO ByteArray := do
  let chunk ← stream.read 65536
  if chunk.isEmpty then return read else readAll stream (read ++ chunk)

/-- The world that a command runs in. -/
def Command.world (c : Command) : IO World := do
  let stdin ← if c.readsStdin then readAll (← IO.getStdin) .empty else pure .empty
  let wish : Display.ColourWish := {
    allow := ← IO.getEnv "CLICOLOR"
    force := ← IO.getEnv "CLICOLOR_FORCE"
    forbid := ← IO.getEnv "NO_COLOR" }
  return {
    files := ← readFiles c.wanted
    stdin := stdin.toList
    coloured := wish.decide (← (← IO.getStdout).isTty) }

/-- Write the file that a command has made. -/
def storeOutput (before after : FileTree) (path : OsText) : IO Unit := do
  match before.read path, after.read path with
  | .error _, .ok bytes =>
    if let some above := Path.parent? path then
      if !above.isEmpty then IO.FS.createDirAll above.lossy
    IO.FS.writeBinFile path.lossy ⟨bytes.toArray⟩
  | _, _ => return

/-- Run what the words of a command line ask for. -/
def runArgs (args : List String) : IO UInt32 := do
  match Invocation.ofArgs args with
  | .error .version =>
    IO.print versionText
    return 0
  | .error .help =>
    IO.print usageText
    return 0
  | .error e =>
    IO.eprint ("error: " ++ e.message ++ "\n\n" ++ usageText)
    return e.exitCode.toUInt32
  | .ok i =>
    let world ← i.command.world
    for line in shownLines i.verbosity (i.command.log world) do
      IO.eprintln line
    let outcome := i.command.run world
    if let some path := i.command.output? then
      storeOutput world.files outcome.files path
    IO.print outcome.stdout
    IO.eprint outcome.stderr
    return outcome.code.toUInt32

end Critique

/-- The entry point of the program. -/
def main (args : List String) : IO UInt32 :=
  Critique.runArgs args
