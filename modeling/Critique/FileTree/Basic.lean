import Critique.FileTree.Path
import Critique.Text.Utf8

/-!
# File trees

A `FileTree` is a tree of files, directories and symbolic links, with a working directory in it.
Names, paths and the targets of links are sequences of bytes (`OsText`), whether or not they are
texts.  Paths are looked up as an operating system does it: part by part from the root or the
working directory, with links followed on the way, at most forty of them.  Names and paths have a
greatest length in bytes, and a file is never made by a path that ends in a slash.

The operations that fail say why with an `IoError`.  Those that change the tree give back the
changed tree; one that can fail halfway gives back a `Change`, which has the tree in any case.
-/

namespace Critique

/-- Why an operation on files failed. -/
inductive IoError where
  | notFound
  | notDirectory
  | isDirectory
  | alreadyExists
  | tooManyLinks
  | denied
  | nameTooLong
  /-- The path holds a NUL, which no path can. -/
  | nulInPath
  | notUtf8
  deriving Repr, DecidableEq, Inhabited

/-- The message of a failure. -/
def IoError.message : IoError → String
  | notFound => "No such file or directory (os error 2)"
  | notDirectory => "Not a directory (os error 20)"
  | isDirectory => "Is a directory (os error 21)"
  | alreadyExists => "File exists (os error 17)"
  | tooManyLinks => "Too many levels of symbolic links (os error 40)"
  | denied => "Permission denied (os error 13)"
  | nameTooLong => "File name too long (os error 36)"
  | nulInPath => "file name contained an unexpected NUL byte"
  | notUtf8 => "stream did not contain valid UTF-8"

/-- What can stand in a directory. -/
inductive Node where
  /-- A regular file. -/
  | file (bytes : List UInt8)
  /-- A regular file that may be neither read nor written. -/
  | locked
  /-- Something that reads as empty and forgets what is written to it. -/
  | device
  /-- A symbolic link. -/
  | link (target : OsText)
  /-- A directory. -/
  | dir (entries : List (OsText × Node))
  deriving Inhabited

/-- A place in a tree: the names on the way from the root. -/
abbrev Location := List OsText

namespace Node

/-- The entries of a directory; anything else has none. -/
def entries : Node → List (OsText × Node)
  | dir es => es
  | _ => []

/-- Is it a directory? -/
def isDir : Node → Bool
  | dir _ => true
  | _ => false

/-- Is it a regular file? -/
def isFile : Node → Bool
  | file _ => true
  | locked => true
  | _ => false

/-- What stands at a place, with no links followed. -/
def get? (root : Node) : Location → Option Node
  | [] => some root
  | name :: rest =>
    match root.entries.lookup name with
    | some child => child.get? rest
    | none => none

/-- Replace the entry of a name, or add it after the others. -/
def putEntry (name : OsText) (child : Node) : List (OsText × Node) → List (OsText × Node)
  | [] => [(name, child)]
  | (n, c) :: rest =>
    if n = name then (name, child) :: rest else (n, c) :: putEntry name child rest

/-- Put something at a place.  The directories on the way must be there, or nothing changes. -/
def put (root : Node) (place : Location) (child : Node) : Node :=
  match place with
  | [] => child
  | name :: rest =>
    match root with
    | dir es =>
      match es.lookup name, rest with
      | some c, _ => dir (putEntry name (c.put rest child) es)
      | none, [] => dir (putEntry name child es)
      | none, _ => dir es
    | other => other

mutual

/-- The number of nodes in a tree. -/
def size : Node → Nat
  | dir es => sizeEntries es + 1
  | _ => 1

/-- The number of nodes in a list of entries. -/
def sizeEntries : List (OsText × Node) → Nat
  | [] => 0
  | (_, child) :: rest => child.size + sizeEntries rest

end

end Node

/-- Where a look-up ends: at something, or at a directory that has no entry of the last name. -/
inductive Place where
  | found (place : Location) (node : Node)
  | absent (place : Location)

/-- How far a look-up gets without following a link. -/
inductive Step where
  | arrived (place : Place)
  | failed (e : IoError)
  | jump (base : Location) (target : OsText) (rest : List OsText)

/-- What a look-up is for, which decides what becomes of the last name. -/
inductive Aim where
  /-- To see what is there: a link is followed. -/
  | follow
  /-- To see the entry itself: a link is not followed. -/
  | entry
  /-- To open a file that is made if it is missing: a link is followed, and no slash may come after
  the name. -/
  | create
  deriving Repr, DecidableEq

/-- The greatest number of bytes in a name. -/
def nameLimit : Nat := 255

/-- The greatest number of bytes in a path. -/
def pathLimit : Nat := 4095

/-- Go through names from a place. -/
def descend (root : Node) (aim : Aim) (place : Location) : List OsText → Step
  | [] =>
    match root.get? place with
    | some node => .arrived (.found place node)
    | none => .failed .notFound
  | name :: rest =>
    match root.get? place with
    | some (.dir entries) =>
      if name = .empty || name = Path.hereName then descend root aim place rest
      else if name = Path.upName then descend root aim place.dropLast rest
      else if aim = .create && rest = [.empty] then .failed .isDirectory
      else if nameLimit < name.length then .failed .nameTooLong
      else match entries.lookup name with
        | none =>
          if rest.isEmpty then .arrived (.absent (place ++ [name])) else .failed .notFound
        | some (.link target) =>
          if rest.isEmpty && aim = .entry then .arrived (.found (place ++ [name]) (.link target))
          else .jump place target rest
        | some _ => descend root aim (place ++ [name]) rest
    | some _ => .failed .notDirectory
    | none => .failed .notFound

/-- Go through names from a place and follow at most `links` links. -/
def lookUp (root : Node) (aim : Aim) :
    (links : Nat) → Location → List OsText → Except IoError Place
  | links, place, names =>
    match descend root aim place names with
    | .arrived p => .ok p
    | .failed e => .error e
    | .jump base target rest =>
      match links with
      | 0 => .error .tooManyLinks
      | links + 1 =>
        if target.isEmpty then .error .notFound
        else
          let start := if Path.isAbsolute target then [] else base
          lookUp root aim links start (Path.steps target ++ rest)

/-- A tree of files with a working directory. -/
structure FileTree where
  root : Node
  workDir : Location
  deriving Inhabited

/-- A tree after an operation that can fail halfway, and why it failed if it did. -/
structure Change where
  tree : FileTree
  failure : Option IoError

namespace FileTree

/-- The absolute path of the working directory. -/
def workPath (t : FileTree) : OsText :=
  ⟨[Path.slash]⟩ ++ OsText.intercalate ⟨[Path.slash]⟩ t.workDir

/-- The absolute path of the working directory, as long as that is there. -/
def currentDir (t : FileTree) : Except IoError OsText :=
  match t.root.get? t.workDir with
  | some (.dir _) => .ok t.workPath
  | _ => .error .notFound

/-- Look up the names of a path. -/
def locateNames (t : FileTree) (aim : Aim) (path : OsText) (names : List OsText) :
    Except IoError Place :=
  if path.bytes.contains 0 then .error .nulInPath
  else if path.isEmpty then .error .notFound
  else if pathLimit < path.length then .error .nameTooLong
  else lookUp t.root aim 40 (if Path.isAbsolute path then [] else t.workDir) names

/-- Look up a path. -/
def locate (t : FileTree) (aim : Aim) (path : OsText) : Except IoError Place :=
  t.locateNames aim path (Path.steps path)

/-- What stands at a path, with its place. -/
def find (t : FileTree) (aim : Aim) (path : OsText) : Except IoError (Location × Node) :=
  match t.locate aim path with
  | .ok (.found place node) => .ok (place, node)
  | .ok (.absent _) => .error .notFound
  | .error e => .error e

/-- What stands at a path, all links followed. -/
def stat (t : FileTree) (path : OsText) : Except IoError Node :=
  (t.find .follow path).map (·.2)

/-- Is there something at the path? -/
def contains (t : FileTree) (path : OsText) : Bool :=
  (t.stat path).isOk

/-- Is there a directory at the path? -/
def hasDir (t : FileTree) (path : OsText) : Bool :=
  match t.stat path with
  | .ok node => node.isDir
  | .error _ => false

/-- Is there a regular file at the path? -/
def hasFile (t : FileTree) (path : OsText) : Bool :=
  match t.stat path with
  | .ok node => node.isFile
  | .error _ => false

/-- The bytes of a file. -/
def read (t : FileTree) (path : OsText) : Except IoError (List UInt8) :=
  match t.stat path with
  | .ok (.file bytes) => .ok bytes
  | .ok .device => .ok []
  | .ok (.dir _) => .error .isDirectory
  | .ok .locked => .error .denied
  | .ok (.link _) => .error .tooManyLinks
  | .error e => .error e

/-- The text of a file, all of which must be well formed. -/
def readText (t : FileTree) (path : OsText) : Except IoError String :=
  match t.read path with
  | .ok bytes =>
    match Text.Utf8.decode? bytes with
    | some s => .ok s
    | none => .error .notUtf8
  | .error e => .error e

/-- Put something at a place. -/
def put (t : FileTree) (place : Location) (node : Node) : FileTree :=
  { t with root := t.root.put place node }

/-- Write a file, which replaces one that is there. -/
def write (t : FileTree) (path : OsText) (bytes : List UInt8) : Except IoError FileTree :=
  match t.locate .create path with
  | .ok (.found place (.file _)) => .ok (t.put place (.file bytes))
  | .ok (.found _ .device) => .ok t
  | .ok (.found _ (.dir _)) => .error .isDirectory
  | .ok (.found _ .locked) => .error .denied
  | .ok (.found _ (.link _)) => .error .tooManyLinks
  | .ok (.absent place) => .ok (t.put place (.file bytes))
  | .error e => .error e

/-- Make a directory in a directory that is there.  A slash may come after its name. -/
def makeDir (t : FileTree) (path : OsText) : Except IoError FileTree :=
  match t.locateNames .entry path (Path.names path) with
  | .ok (.found _ _) => .error .alreadyExists
  | .ok (.absent place) => .ok (t.put place (.dir []))
  | .error e => .error e

/-- Make a directory and those above it that are missing, `fuel` levels at most.  Directories that
were made before a failure stay. -/
def makeDirsWithin (t : FileTree) : (fuel : Nat) → OsText → Change
  | fuel, path =>
    match t.makeDir path with
    | .ok t => ⟨t, none⟩
    | .error .notFound =>
      match fuel, Path.parent? path with
      | fuel + 1, some above =>
        match t.makeDirsWithin fuel above with
        | ⟨t, some e⟩ => ⟨t, some e⟩
        | ⟨t, none⟩ =>
          match t.makeDir path with
          | .ok t => ⟨t, none⟩
          | .error e => ⟨t, if t.hasDir path then none else some e⟩
      | _, _ => ⟨t, some .notFound⟩
    | .error e => ⟨t, if t.hasDir path then none else some e⟩

/-- Make a directory and those above it that are missing; nothing is wrong with one that is
there. -/
def makeDirs (t : FileTree) (path : OsText) : Change :=
  if path.isEmpty then ⟨t, none⟩ else t.makeDirsWithin (Path.parts path).length path

/-- Make the directories above a path that are missing. -/
def makeParents (t : FileTree) (path : OsText) : Change :=
  match Path.parent? path with
  | some above => t.makeDirs above
  | none => ⟨t, none⟩

/-- Put a symbolic link into a directory that is there. -/
def makeLink (t : FileTree) (path target : OsText) : Except IoError FileTree :=
  match t.locate .entry path with
  | .ok (.found _ _) => .error .alreadyExists
  | .ok (.absent place) => .ok (t.put place (.link target))
  | .error e => .error e

end FileTree

end Critique
