/-!
# Bytes and text

Files and streams hold bytes.  The automaton `Utf8.State` reads them as UTF-8 and hands out one
piece for every character and one for every malformed stretch.  A malformed stretch is as long as
it could still have become a character: the byte that breaks it starts the next piece.

* `decode?` is the strict reading, which fails on any malformed stretch.
* `decodeLossy` is the lenient reading, which writes U+FFFD for each of them.
* `spans` are the pieces with the bytes of each.
* `encode` writes a text as bytes.

Both readings run the same automaton, so they agree on well-formed bytes.
-/

namespace Critique.Text.Utf8

/-- Where the reader stands: between characters, or inside one of which `more` bytes are missing,
the next of them between `lo` and `hi`, with the bits read so far in `acc`. -/
inductive State where
  | start
  | inside (acc : Nat) (more : Nat) (lo hi : Nat)
  deriving Repr, DecidableEq

/-- A character, or a malformed stretch. -/
abbrev Piece := Option Char

/-- Read the first byte of a piece: the finished pieces and the new state. -/
def begin (b : UInt8) : List Piece × State :=
  let n := b.toNat
  if n < 0x80 then ([some (Char.ofNat n)], .start)
  else if 0xC2 ≤ n && n ≤ 0xDF then ([], .inside (n - 0xC0) 0 0x80 0xBF)
  else if n == 0xE0 then ([], .inside 0 1 0xA0 0xBF)
  else if n == 0xED then ([], .inside 0xD 1 0x80 0x9F)
  else if 0xE1 ≤ n && n ≤ 0xEF then ([], .inside (n - 0xE0) 1 0x80 0xBF)
  else if n == 0xF0 then ([], .inside 0 2 0x90 0xBF)
  else if 0xF1 ≤ n && n ≤ 0xF3 then ([], .inside (n - 0xF0) 2 0x80 0xBF)
  else if n == 0xF4 then ([], .inside 4 2 0x80 0x8F)
  else ([none], .start)

/-- Read one byte: the pieces that it finishes and the new state. -/
def feed (s : State) (b : UInt8) : List Piece × State :=
  match s with
  | .start => begin b
  | .inside acc more lo hi =>
    if lo ≤ b.toNat && b.toNat ≤ hi then
      let acc := acc * 64 + (b.toNat - 0x80)
      match more with
      | 0 => ([some (Char.ofNat acc)], .start)
      | more + 1 => ([], .inside acc more 0x80 0xBF)
    else
      let (ps, s) := begin b
      (none :: ps, s)

/-- The pieces of a byte sequence, read from a state.  A character cut off by the end is a
malformed stretch. -/
def pieces : State → List UInt8 → List Piece
  | .start, [] => []
  | .inside .., [] => [none]
  | s, b :: bs =>
    let (ps, s) := feed s b
    ps ++ pieces s bs

/-- The pieces of a byte sequence, each with its bytes.  `begun` are those of a piece that has begun
before. -/
def spans : State → (begun : List UInt8) → List UInt8 → List (Piece × List UInt8)
  | .start, _, [] => []
  | .inside .., begun, [] => [(none, begun)]
  | s, begun, b :: bs =>
    match feed s b with
    | ([], s) => spans s (begun ++ [b]) bs
    | ([p], .start) => (p, begun ++ [b]) :: spans .start [] bs
    -- the byte breaks the piece that has begun and is none of its bytes
    | (p :: ps, s) => (p, begun) :: ps.map (·, [b]) ++ spans s (if ps.isEmpty then [b] else []) bs

/-- The text of a byte sequence, if all of it is well formed. -/
def decode? (bytes : List UInt8) : Option String :=
  ((pieces .start bytes).mapM id).map String.ofList

/-- The text of a byte sequence, with U+FFFD for each malformed stretch. -/
def decodeLossy (bytes : List UInt8) : String :=
  String.ofList ((pieces .start bytes).map (·.getD '\uFFFD'))

/-- The bytes of a text. -/
def encode (s : String) : List UInt8 :=
  s.toList.flatMap String.utf8EncodeChar

end Critique.Text.Utf8
