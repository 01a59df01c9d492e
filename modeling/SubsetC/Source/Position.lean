/-!
# Positions and spans

A position is a place in a named source file.  Offsets and columns count
bytes of the UTF-8 text; lines and columns start at one, offsets at zero.
A span is the stretch between two positions, the end excluded.
-/

namespace SubsetC

structure Position where
  offset : Nat
  line : Nat
  column : Nat
  file : String
deriving DecidableEq, Inhabited, Repr

/-- The first position of a file. -/
def Position.first (file : String) : Position :=
  { offset := 0, line := 1, column := 1, file := file }

/-- The form `file:line:column` that opens every report. -/
def Position.describe (position : Position) : String :=
  position.file ++ ":" ++ Nat.repr position.line ++ ":" ++ Nat.repr position.column

structure Span where
  start : Position
  stop : Position
deriving DecidableEq, Inhabited, Repr

/-- The empty span at a position. -/
def Span.empty (position : Position) : Span :=
  { start := position, stop := position }

/-- The span from the start of one span to the end of another. -/
def Span.through (first last : Span) : Span :=
  { start := first.start, stop := last.stop }

@[simp] theorem Span.through_start (first last : Span) :
    (first.through last).start = first.start := rfl

@[simp] theorem Span.through_stop (first last : Span) :
    (first.through last).stop = last.stop := rfl

end SubsetC
