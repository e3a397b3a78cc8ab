import Critique.Text.OsText

/-!
# Paths

A path is a sequence of bytes in which slashes divide the parts.  This module takes paths apart
without looking at any file: `steps` is what a look-up goes through, `parts` is the path as a
sequence of names with empty and idle parts left out, and from the parts come the file name, the
extension, the parent and the order of paths.
-/

namespace Critique.Path

/-- The byte of a slash. -/
def slash : UInt8 := 0x2F

/-- The byte of a dot. -/
def dot : UInt8 := 0x2E

/-- The pieces of a byte sequence between slashes, empty ones included. -/
def splitSlash : List UInt8 → List (List UInt8)
  | [] => [[]]
  | b :: bs =>
    if b == slash then [] :: splitSlash bs
    else match splitSlash bs with
      | [] => [[b]]
      | p :: ps => (b :: p) :: ps

/-- The names in a path, the idle `.` included and empty ones left out. -/
def names (path : OsText) : List OsText :=
  ((splitSlash path.bytes).filter (!·.isEmpty)).map OsText.mk

/-- Does the path start at the root? -/
def isAbsolute (path : OsText) : Bool :=
  path.bytes.head? == some slash

/-- Does the path end in a slash? -/
def endsInSlash (path : OsText) : Bool :=
  path.bytes.getLast? == some slash

/-- The names that a look-up goes through.  A slash at the end, which asks for a directory, is an
empty name. -/
def steps (path : OsText) : List OsText :=
  if endsInSlash path then names path ++ [.empty] else names path

/-- The name of the place itself. -/
def hereName : OsText := ⟨[dot]⟩

/-- The name of the place above. -/
def upName : OsText := ⟨[dot, dot]⟩

/-- A part of a path, in the order of parts: the root, the place itself, the place above, a name. -/
inductive Part where
  | root
  | here
  | up
  | name (s : OsText)
  deriving Repr, DecidableEq

/-- A name as a part. -/
def Part.ofName (s : OsText) : Part :=
  if s = hereName then .here else if s = upName then .up else .name s

/-- The parts of a path: a `.` counts only at the start of a path that does not start at the
root. -/
def parts (path : OsText) : List Part :=
  let ps := (names path).map Part.ofName
  if isAbsolute path then .root :: ps.filter (· ≠ .here)
  else match ps with
    | .here :: ps => .here :: ps.filter (· ≠ .here)
    | ps => ps.filter (· ≠ .here)

/-- How a part is written. -/
def Part.text : Part → OsText
  | .root => .empty
  | .here => hereName
  | .up => upName
  | .name s => s

/-- A path with the given parts. -/
def ofParts : List Part → OsText
  | [.root] => ⟨[slash]⟩
  | ps => OsText.intercalate ⟨[slash]⟩ (ps.map Part.text)

/-- The last name in a path, if the path ends in a name. -/
def fileName? (path : OsText) : Option OsText :=
  match (parts path).getLast? with
  | some (.name s) => some s
  | _ => none

/-- The path without its last part; the root and the empty path have none. -/
def parent? (path : OsText) : Option OsText :=
  match parts path with
  | [] => none
  | [.root] => none
  | ps => some (ofParts ps.dropLast)

/-- What follows the last dot of a file name that has something before it. -/
def nameExtension? (name : OsText) : Option OsText :=
  let tail := name.bytes.reverse.takeWhile (· != dot)
  let head := name.bytes.length - tail.length
  if head ≤ 1 then none else some ⟨tail.reverse⟩

/-- The extension of a path's file name. -/
def extension? (path : OsText) : Option OsText :=
  (fileName? path).bind nameExtension?

/-- A name inside the directory at a path. -/
def join (dir name : OsText) : OsText :=
  if dir.isEmpty || endsInSlash dir then dir ++ name else dir ++ ⟨[slash]⟩ ++ name

/-- The place of a part in the order of parts. -/
def Part.rank : Part → Nat
  | .root => 0
  | .here => 1
  | .up => 2
  | .name _ => 3

/-- Is the first sequence of parts at most the second?  Parts are compared one by one, names by
their bytes. -/
def partsLe : List Part → List Part → Bool
  | [], _ => true
  | _ :: _, [] => false
  | p :: ps, q :: qs =>
    if p = q then partsLe ps qs
    else if p.rank = q.rank then p.text.bytes ≤ q.text.bytes
    else p.rank < q.rank

/-- The order of paths, part by part. -/
def le (a b : OsText) : Bool :=
  partsLe (parts a) (parts b)

end Critique.Path
