import SubsetC.Source.Position
import SubsetC.Text.Bytes

/-!
# Lines of a source

A source is cut into lines in two ways.  Scanning needs the line and column of
an offset, read off the table of line starts that `Source` carries; a report
needs the text of the line that holds an offset, found by walking the lines
themselves.  The walk treats the end of input as a place on the last line, while
the table starts a new line after a final newline.
-/

namespace SubsetC

open Text

/-- Positions are kept in 32 bits: a count that does not fit wraps around. -/
def word32 (n : Nat) : Nat := n % 0x100000000

/-- The byte offsets just after the newlines of a text that begins at `offset`. -/
def lineStarts (offset : Nat) : List Char → List Nat
  | [] => []
  | c :: rest =>
      let next := offset + c.utf8Size
      if c = '\n' then next :: lineStarts next rest else lineStarts next rest

/-- A named source text together with the offsets at which its second and later
lines begin. -/
structure Source where
  text : String
  file : String
  starts : List Nat := lineStarts 0 text.toList
  starts_eq : starts = lineStarts 0 text.toList := by rfl

namespace Source

/-- The name of a source that came without one. -/
def defaultFile : String := "shell"

def ofText (text : String) (file : String) : Source :=
  { text := text, file := file }

/-- The number of bytes in the source. -/
def size (source : Source) : Nat := byteLength source.text.toList

/-- The line that an offset lies on, and where that line begins. -/
def locate (offset : Nat) (number start : Nat) : List Nat → Nat × Nat
  | [] => (number, start)
  | next :: rest =>
      if offset < next then (number, start) else locate offset (number + 1) next rest

/-- The position at a byte offset, which may lie past the end of the text. -/
def positionAt (source : Source) (offset : Nat) : Position :=
  let (number, start) := locate offset 1 0 source.starts
  { offset := word32 offset
    line := word32 number
    column := word32 (offset - start + 1)
    file := source.file }

def spanAt (source : Source) (offset length : Nat) : Span :=
  { start := source.positionAt offset, stop := source.positionAt (offset + length) }

end Source

/-- The lines of a text, each with the newline that ends it. -/
def lines : List Char → List (List Char)
  | [] => []
  | c :: rest =>
      if c = '\n' then [c] :: lines rest
      else
        match lines rest with
        | [] => [[c]]
        | line :: others => (c :: line) :: others

/-- A line of a source, and the offset within it of the place asked for. -/
structure Line where
  number : Nat
  text : List Char
  offset : Nat
deriving DecidableEq, Repr

/-- The last line takes every offset that the earlier ones leave over, so the
end of input lies just past it. -/
def lineAmong (number offset : Nat) : List (List Char) → Line
  | [] => { number := number, text := [], offset := offset }
  | [last] => { number := number, text := last, offset := offset }
  | line :: next :: others =>
      if offset < byteLength line then { number := number, text := line, offset := offset }
      else lineAmong (number + 1) (offset - byteLength line) (next :: others)

/-- The line that holds a byte offset; none if the offset lies past the end. -/
def lineAt? (text : String) (offset : Nat) : Option Line :=
  if byteLength text.toList < offset then none
  else some (lineAmong 1 offset (lines text.toList))

end SubsetC
