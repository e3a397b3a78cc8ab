import Critique.FileTree.Basic
import Critique.Language.Registry

/-!
# Walking a file tree

`collectFiles` finds the source files below a path.  It goes through all directories, follows
links, and leaves out directories with certain names, though never the one it starts from.  It
takes the regular files whose extension belongs to a known language, in the order of their paths.

A link to a directory that the walk is inside of would never end; it is an error, as a link that
leads nowhere is.
-/

namespace Critique

/-- Why a walk failed. -/
inductive WalkError where
  | io (path : OsText) (e : IoError)
  | loop (child ancestor : OsText)
  deriving Repr, DecidableEq

/-- The message of a failed walk. -/
def WalkError.message : WalkError → String
  | io path e => "IO error for operation on " ++ path.lossy ++ ": " ++ e.message
  | loop child ancestor =>
    "File system loop found: " ++ child.lossy ++ " points to an ancestor " ++ ancestor.lossy

/-- The names of directories that hold nothing of one's own. -/
def skippedNames : List String :=
  ["vendor", "node_modules", "target", "dist", "build", "__pycache__", "venv"]

/-- Is a directory of this name left out? -/
def isSkippedDir (name : String) : Bool :=
  name.toList.head? == some '.' || skippedNames.contains name

/-- A directory that the walk is inside of: where it is, and the path by which it was reached. -/
structure Ancestor where
  place : Location
  path : OsText

namespace FileTree

/-- What the walk meets at a path: a link is followed, and a directory reached by a link must not be
one that the walk is inside of. -/
def enter (t : FileTree) (ancestors : List Ancestor) (path : OsText) (place : Location)
    (node : Node) : Except WalkError (Location × Node) :=
  match node with
  | .link _ =>
    match t.find .follow path with
    | .error e => .error (.io path e)
    | .ok (place, node) =>
      match node.isDir, ancestors.find? (·.place == place) with
      | true, some a => .error (.loop path a.path)
      | _, _ => .ok (place, node)
  | node => .ok (place, node)

/-- All regular files at and below a path, going down at most `depth` levels.  `top` marks the path
that the walk starts from. -/
def walk (t : FileTree) : (depth : Nat) → (ancestors : List Ancestor) → (top : Bool) →
    (path name : OsText) → Location → Node → Except WalkError (List OsText)
  | 0, _, _, path, _, _, _ => .error (.io path .tooManyLinks)
  | depth + 1, ancestors, top, path, name, place, node => do
    let (place, node) ← t.enter ancestors path place node
    match node with
    | .dir entries =>
      if !top && isSkippedDir name.lossy then return []
      let below ← entries.mapM fun (childName, child) =>
        t.walk depth (⟨place, path⟩ :: ancestors) false (Path.join path childName) childName
          (place ++ [childName]) child
      return below.flatten
    | node => return if node.isFile then [path] else []

/-- A depth that no walk exceeds: between two links a walk goes down the tree, and it is inside no
directory twice by a link. -/
def walkDepth (t : FileTree) : Nat :=
  (t.root.size + 1) * (t.root.size + 1)

/-- All regular files at and below a path. -/
def regularFiles (t : FileTree) (path : OsText) : Except WalkError (List OsText) :=
  match t.find .entry path with
  | .ok (place, node) => t.walk t.walkDepth [] true path .empty place node
  | .error e => .error (.io path e)

end FileTree

/-- The language of a file, by its extension, which has to be a text. -/
def languageOfPath? (path : OsText) : Option String :=
  languageOfExtension? (((Path.extension? path).bind OsText.text?).getD "")

/-- The source files at and below a path, in the order of their paths. -/
def collectFiles (t : FileTree) (path : OsText) : Except WalkError (List OsText) :=
  (t.regularFiles path).map fun files =>
    (files.filter fun f => (languageOfPath? f).isSome).mergeSort Path.le

end Critique
