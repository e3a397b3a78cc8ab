import Critique.Text.Quoted
import Critique.Text.Utf8

/-!
# Names as the operating system has them

The name of a file is a sequence of bytes.  Most names are texts in UTF-8, but nothing keeps a file
from having another one.  An `OsText` is such a sequence; names, paths and the targets of links are
of this type.  A text stands for its bytes wherever an `OsText` is wanted.

Where a name is shown it has to become a text.  `lossy` puts U+FFFD for what is malformed, so two
different names can be shown alike.  `quoted` escapes the malformed bytes one by one.  `text?` is
the text of a name that is one.
-/

namespace Critique

/-- A name or a path: bytes that need not be those of a text. -/
@[ext]
structure OsText where
  bytes : List UInt8
  deriving Repr, DecidableEq, Inhabited

namespace OsText

/-- The bytes of a text. -/
def ofText (s : String) : OsText :=
  ⟨Text.Utf8.encode s⟩

instance : Coe String OsText :=
  ⟨ofText⟩

/-- Without any bytes. -/
def empty : OsText :=
  ⟨[]⟩

/-- Are there no bytes? -/
def isEmpty (t : OsText) : Bool :=
  t.bytes.isEmpty

/-- The number of bytes. -/
def length (t : OsText) : Nat :=
  t.bytes.length

instance : Append OsText :=
  ⟨fun s t => ⟨s.bytes ++ t.bytes⟩⟩

/-- Several of them, with another one in between. -/
def intercalate (separator : OsText) (parts : List OsText) : OsText :=
  ⟨separator.bytes.intercalate (parts.map bytes)⟩

/-- The text of a name that is one. -/
def text? (t : OsText) : Option String :=
  Text.Utf8.decode? t.bytes

/-- A name as text, with U+FFFD for each malformed stretch. -/
def lossy (t : OsText) : String :=
  Text.Utf8.decodeLossy t.bytes

/-- The escape `\xNN` of a byte. -/
def byteEscape (b : UInt8) : List Char :=
  ['\\', 'x', (Nat.digitChar (b.toNat / 16)).toUpper, (Nat.digitChar (b.toNat % 16)).toUpper]

/-- How a piece with the given bytes is written between double quotes. -/
def quotedPiece : Text.Utf8.Piece × List UInt8 → List Char
  | (some c, _) => Text.quotedChar c
  | (none, bytes) => bytes.flatMap byteEscape

/-- A name between double quotes, with escapes. -/
def quoted (t : OsText) : String :=
  String.ofList ('"' :: (Text.Utf8.spans .start [] t.bytes).flatMap quotedPiece ++ ['"'])

end OsText

end Critique
