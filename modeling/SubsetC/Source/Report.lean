import SubsetC.Source.Line
import SubsetC.Text.Blank

/-!
# Reports

A report names a position and shows the source line it lies on, with a caret
under the place itself:

```text
Error: message
-> file.c:20:13
   |
20 | x = a + ;
   | --------^
```

The line is shown without its indentation and without trailing white space.  A
place inside the indentation is marked at the first character shown.

The bar and the caret are padded to widths that are known only when the report is
written, and the formatter gives up on a width that does not fit in 16 bits: there
is no report then.
-/

namespace SubsetC

open Text

def isIndent (c : Char) : Bool := c = ' ' || c = '\t'

/-- The greatest width that the formatter takes from an argument. -/
def maxWidth : Nat := 65535

/-- Fills a text up on the left to a width that is an argument; none if the width is
too great. -/
def padLeft? (fill : Char) (width : Nat) (text : String) : Option String :=
  if width ≤ maxWidth then
    some (String.ofList (List.replicate (width - text.length) fill) ++ text)
  else none

/-- How far the place of a line lies behind its indentation. -/
def Line.dashes (line : Line) : Nat := line.offset - (line.text.takeWhile isIndent).length

/-- The two lines that quote a source line and point into it. -/
def Line.excerpt? (line : Line) : Option String := do
  let number := Nat.repr line.number
  let bar ← padLeft? ' ' (number.length + 2) "|"
  let shown := String.ofList (trimEnd (line.text.dropWhile isIndent))
  let caret ← padLeft? '-' (line.dashes + 1) "^"
  return bar ++ "\n" ++ number ++ " | " ++ shown ++ "\n" ++ bar ++ " " ++ caret

/-- A headline, its position and the excerpt of the source at that position; a
position past the end has no excerpt. -/
def report? (headline : String) (position : Position) (source : String) : Option String :=
  let head := headline ++ "\n-> " ++ position.describe ++ "\n"
  match lineAt? source position.offset with
  | none => some head
  | some line => line.excerpt?.map (head ++ ·)

end SubsetC
