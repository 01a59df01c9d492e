import Mathlib.Algebra.Group.Nat.Defs
import Mathlib.Data.List.DropRight
import SubsetC.Source.Line

/-!
# Positions counted from the text

Scanning finds the line of an offset by a search in the table of line starts.
Here a position is counted from the text before it instead: its bytes, its
newlines, and the bytes that follow the last newline.  The search finds the same
position (`Source.positionAt_behind`).
-/

namespace SubsetC

open Text

theorem word32_of_lt {n : Nat} (hn : n < 2 ^ 32) : word32 n = n :=
  Nat.mod_eq_of_lt hn

/-- What a text has after its last newline. -/
def lastLine (text : List Char) : List Char := text.rtakeWhile (· ≠ '\n')

/-- The position just behind a beginning of a file, its counts kept in 32 bits. -/
def Position.behind (file : String) (before : List Char) : Position :=
  { offset := word32 (byteLength before)
    line := word32 (1 + before.count '\n')
    column := word32 (1 + byteLength (lastLine before))
    file := file }

/-- The span of a slice of a file, behind the text before it. -/
def Span.around (file : String) (before slice : List Char) : Span :=
  { start := .behind file before, stop := .behind file (before ++ slice) }

section LineStarts

variable (offset : Nat) (text : List Char)

theorem lineStarts_append (first second : List Char) :
    lineStarts offset (first ++ second) =
      lineStarts offset first ++ lineStarts (offset + byteLength first) second := by
  induction first generalizing offset with
  | nil => simp [lineStarts]
  | cons c rest ih =>
      simp only [List.cons_append, lineStarts, ih, byteLength_cons, Nat.add_assoc]
      split <;> rfl

theorem length_lineStarts : (lineStarts offset text).length = text.count '\n' := by
  induction text generalizing offset with
  | nil => rfl
  | cons c rest ih =>
      simp only [lineStarts]
      split
      · rename_i hc
        rw [List.length_cons, ih, hc, List.count_cons_self]
      · rename_i hc
        rw [ih, List.count_cons_of_ne hc]

theorem lineStarts_eq_nil {text : List Char} (htext : '\n' ∉ text) : lineStarts offset text = [] := by
  rw [← List.length_eq_zero_iff, length_lineStarts]
  exact List.count_eq_zero.2 htext

/-- Every line but the first begins behind its first newline. -/
theorem mem_lineStarts {start : Nat} (hmem : start ∈ lineStarts offset text) :
    offset < start ∧ start ≤ offset + byteLength text := by
  induction text generalizing offset with
  | nil => simp [lineStarts] at hmem
  | cons c rest ih =>
      have hsize : 0 < c.utf8Size := c.utf8Size_pos
      have hlater : start ∈ lineStarts (offset + c.utf8Size) rest →
          offset < start ∧ start ≤ offset + byteLength (c :: rest) := by
        intro hrest
        obtain ⟨habove, hbelow⟩ := ih _ hrest
        rw [byteLength_cons]
        omega
      simp only [lineStarts] at hmem
      split at hmem
      · obtain rfl | hrest := List.mem_cons.1 hmem
        · rw [byteLength_cons]
          omega
        · exact hlater hrest
      · exact hlater hmem

/-- From the last line start to the end there is just the last line. -/
theorem getLastD_lineStarts :
    (lineStarts offset text).getLastD offset + byteLength (lastLine text) =
      offset + byteLength text := by
  induction text using List.reverseRecOn with
  | nil => rfl
  | append_singleton before c ih =>
      rw [lineStarts_append, lastLine]
      by_cases hc : c = '\n'
      · subst hc
        rw [List.rtakeWhile_concat_neg _ _ _ (by decide)]
        simp [lineStarts, Nat.add_assoc]
      · rw [List.rtakeWhile_concat_pos _ _ _ (by simpa using hc)]
        simp only [lineStarts, if_neg hc, List.append_nil, byteLength_append]
        rw [lastLine] at ih
        omega

end LineStarts

namespace Source

variable {offset number start : Nat} {starts later : List Nat}

theorem locate_of_le (hstarts : ∀ next ∈ starts, next ≤ offset) :
    locate offset number start (starts ++ later) =
      locate offset (number + starts.length) (starts.getLastD start) later := by
  induction starts generalizing number start with
  | nil => rfl
  | cons next rest ih =>
      have hnext : ¬ offset < next := Nat.not_lt.2 (hstarts next List.mem_cons_self)
      rw [List.cons_append, locate, if_neg hnext,
        ih fun other hother => hstarts other (List.mem_cons_of_mem _ hother),
        List.length_cons, List.getLastD_cons, Nat.add_assoc, Nat.add_comm 1]

theorem locate_of_lt (hlater : ∀ next ∈ later, offset < next) :
    locate offset number start later = (number, start) := by
  cases later with
  | nil => rfl
  | cons next rest => rw [locate, if_pos (hlater next List.mem_cons_self)]

/-- The search in the table of line starts finds what counting a beginning of the text gives, for
any offset that no line start parts from this beginning. -/
theorem positionAt_of_lt {source : Source} {before rest : List Char} {offset : Nat}
    (htext : source.text.toList = before ++ rest) (hbefore : byteLength before ≤ offset)
    (hlater : ∀ next ∈ lineStarts (byteLength before) rest, offset < next) :
    source.positionAt offset =
      { offset := word32 offset
        line := word32 (1 + before.count '\n')
        column := word32 (1 + byteLength (lastLine before) + (offset - byteLength before))
        file := source.file } := by
  have hstarts : source.starts = lineStarts 0 before ++ lineStarts (byteLength before) rest := by
    rw [source.starts_eq, htext, lineStarts_append, Nat.zero_add]
  have hearlier : ∀ next ∈ lineStarts 0 before, next ≤ offset := by
    intro next hnext
    have hbounds := mem_lineStarts 0 before hnext
    omega
  have hline := getLastD_lineStarts 0 before
  have hcolumn : offset - (lineStarts 0 before).getLastD 0 + 1 =
      1 + byteLength (lastLine before) + (offset - byteLength before) := by omega
  rw [positionAt, hstarts, locate_of_le hearlier, locate_of_lt hlater, length_lineStarts]
  simp only [hcolumn]

/-- The search in the table of line starts finds what counting the text before
an offset gives. -/
theorem positionAt_behind {source : Source} {before rest : List Char}
    (htext : source.text.toList = before ++ rest) :
    source.positionAt (byteLength before) = .behind source.file before := by
  have hlater : ∀ next ∈ lineStarts (byteLength before) rest, byteLength before < next :=
    fun next hnext => (mem_lineStarts _ _ hnext).1
  rw [positionAt_of_lt htext (Nat.le_refl _) hlater, Position.behind, Nat.sub_self, Nat.add_zero]

/-- On the only line of a source an offset is all that counts. -/
theorem positionAt_of_notMem {source : Source} (hline : '\n' ∉ source.text.toList) (offset : Nat) :
    source.positionAt offset =
      { offset := word32 offset, line := 1, column := word32 (offset + 1),
        file := source.file } := by
  rw [positionAt, source.starts_eq, lineStarts_eq_nil 0 hline]
  rfl

theorem spanAt_around {source : Source} {before slice rest : List Char}
    (htext : source.text.toList = before ++ slice ++ rest) :
    source.spanAt (byteLength before) (byteLength slice) = .around source.file before slice := by
  have hstop := positionAt_behind htext
  rw [List.append_assoc] at htext
  rw [byteLength_append] at hstop
  rw [spanAt, positionAt_behind htext, hstop, Span.around]

end Source

/-- A text that is not too long has its counts kept as they are. -/
theorem Position.behind_of_lt (file : String) {before : List Char}
    (hsize : byteLength before + 1 < 2 ^ 32) :
    Position.behind file before =
      { offset := byteLength before, line := 1 + before.count '\n',
        column := 1 + byteLength (lastLine before), file := file } := by
  have hnewlines : before.count '\n' ≤ byteLength before :=
    Nat.le_trans List.count_le_length (length_le_byteLength before)
  have hline := getLastD_lineStarts 0 before
  rw [behind, word32_of_lt (by omega), word32_of_lt (by omega), word32_of_lt (by omega)]

theorem Position.offset_behind {file : String} {whole before rest : List Char}
    (hsize : byteLength whole < 2 ^ 32) (hwhole : whole = before ++ rest) :
    (Position.behind file before).offset = byteLength before := by
  subst hwhole
  rw [byteLength_append] at hsize
  exact word32_of_lt (by omega)

/-- A position counted from the text before it. -/
structure Position.Counts (file : String) (before : List Char) (position : Position) : Prop where
  offset : position.offset = byteLength before
  line : position.line = 1 + before.count '\n'
  column : position.column = 1 + byteLength (lastLine before)
  file : position.file = file

theorem Position.behind_counts {file : String} {whole before rest : List Char}
    (hsize : byteLength whole < 2 ^ 32 - 1) (hwhole : whole = before ++ rest) :
    (Position.behind file before).Counts file before := by
  subst hwhole
  rw [byteLength_append] at hsize
  rw [Position.behind_of_lt file (by omega)]
  exact ⟨rfl, rfl, rfl, rfl⟩

/-! ## A character over and over -/

/-- A text of one character that is repeated. -/
def repeated (c : Char) (count : Nat) : String := String.ofList (List.replicate count c)

theorem eq_of_mem_repeated {c d : Char} {count : Nat} (hd : d ∈ (repeated c count).toList) :
    d = c := by
  rw [repeated, String.toList_ofList] at hd
  exact List.eq_of_mem_replicate hd

theorem byteLength_repeated {c : Char} (hc : c.utf8Size = 1) (count : Nat) :
    byteLength (repeated c count).toList = count := by
  rw [repeated, String.toList_ofList]
  induction count with
  | zero => rfl
  | succ count ih => rw [List.replicate_succ, byteLength_cons, ih, hc, Nat.add_comm]

end SubsetC
