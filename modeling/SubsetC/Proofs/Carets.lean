import Mathlib.Data.Nat.Digits.Defs
import SubsetC.Proofs.LineLookup
import SubsetC.Source.Report

/-!
# Carets

A report ends in two lines: a line of the source behind its number, with the white space around
it taken off, and below it a caret.  As long as the line is ASCII up to the place that is
reported, the caret stands under the character at that place (`report_points`).

A caret too far to the right is more than the formatter takes, and then there is no report at
all (`longLine_unreported`).
-/

namespace SubsetC

open Text

/-! ## What is shown of a line -/

/-- A line taken apart: its indentation, what is shown of it, and the white space behind that. -/
structure Trimmed (indent shown trailing : List Char) : Prop where
  indent : ∀ c ∈ indent, c = ' ' ∨ c = '\t'
  starts : ∀ c, (shown ++ trailing).head? = some c → c ≠ ' ' ∧ c ≠ '\t'
  trailing : ∀ c ∈ trailing, isBlank c = true
  stops : ∀ c, shown.getLast? = some c → isBlank c = false

theorem trimEnd_append (text : List Char) : trimEnd text ++ text.rtakeWhile isBlank = text := by
  rw [trimEnd, List.rtakeWhile, ← List.reverse_append, List.takeWhile_append_dropWhile,
    List.reverse_reverse]

theorem trimmed_parts (line : List Char) :
    Trimmed (line.takeWhile isIndent) (trimEnd (line.dropWhile isIndent))
      ((line.dropWhile isIndent).rtakeWhile isBlank) := by
  constructor
  · intro c hc
    simpa [isIndent] using List.mem_takeWhile_imp hc
  · intro c hc
    rw [trimEnd_append] at hc
    have hindent := List.head?_dropWhile_not isIndent line
    rw [hc] at hindent
    simpa [isIndent] using hindent
  · intro c hc
    exact List.mem_rtakeWhile_imp hc
  · intro c hc
    rw [trimEnd, List.getLast?_reverse] at hc
    have hblank := List.head?_dropWhile_not isBlank (line.dropWhile isIndent).reverse
    rw [hc] at hblank
    exact hblank

/-- Nothing is shown of the newline that ends a line. -/
theorem Trimmed.newline_notMem {indent shown trailing : List Char}
    (htrimmed : Trimmed indent shown trailing)
    (hinside : '\n' ∉ (indent ++ (shown ++ trailing)).dropLast) : '\n' ∉ shown := by
  intro hmem
  obtain rfl | ⟨init, c, rfl⟩ := List.eq_nil_or_concat' shown
  · simp at hmem
  · obtain hinit | hlast := List.mem_append.1 hmem
    · rw [List.append_assoc, ← List.append_assoc indent, List.dropLast_append_of_ne_nil (by simp)]
        at hinside
      exact hinside (List.mem_append_left _ (List.mem_append_right _ hinit))
    · obtain rfl := List.mem_singleton.1 hlast
      exact absurd (htrimmed.stops '\n' (by simp)) (by decide)

/-! ## Places in ASCII text -/

theorem byteLength_of_ascii {text : List Char} (hascii : ∀ c ∈ text, c.toNat < 128) :
    byteLength text = text.length := by
  induction text with
  | nil => rfl
  | cons c rest ih =>
      obtain ⟨hc, hrest⟩ := List.forall_mem_cons.1 hascii
      have hsize : c.utf8Size = 1 := Char.utf8Size_eq_one_iff.2 (Nat.lt_succ_iff.1 hc)
      rw [byteLength_cons, ih hrest, hsize, List.length_cons, Nat.add_comm]

/-- A place that only ASCII stands before is so many bytes as characters behind the beginning. -/
theorem length_take_of_ascii {text : List Char} {place : Nat}
    (hascii : ∀ c ∈ text.take place, c.toNat < 128) (hplace : place ≤ byteLength text) :
    (text.take place).length = place := by
  rw [List.length_take, Nat.min_eq_left]
  by_contra hshort
  have hwhole : text.take place = text := List.take_of_length_le (by omega)
  rw [hwhole] at hascii
  have hlength := byteLength_of_ascii hascii
  omega

/-! ## The end of a report -/

/-- What stands before the text of a line that is shown: its number and a bar. -/
def Line.label (line : Line) : List Char := (Nat.repr line.number).toList ++ [' ', '|', ' ']

/-- A bar behind a margin, and a caret behind some dashes. -/
def pointer (margin dashes : Nat) : List Char :=
  List.replicate margin ' ' ++ '|' :: ' ' :: (List.replicate dashes '-' ++ ['^'])

/-- Two lines of a report that show a line and point to a place on it.  The bars stand below each
other, and the caret below the character at the place, whether that one is shown or not.  A place
in the indentation has the caret below the first character that is shown. -/
structure Line.Points (line : Line) (indent shown trailing upper lower : List Char) : Prop where
  parts : line.text = indent ++ (shown ++ trailing)
  trimmed : Trimmed indent shown trailing
  shows : upper = line.label ++ shown
  points : ∃ margin dashes, lower = pointer margin dashes
  bars : lower.idxOf '|' = upper.idxOf '|'
  inside : line.offset < byteLength indent → lower.idxOf '^' = line.label.length
  behind : byteLength indent ≤ line.offset →
    ∃ middle rest, shown ++ trailing = middle ++ rest ∧
      byteLength (indent ++ middle) = line.offset ∧
      lower.idxOf '^' = (line.label ++ middle).length

/-- Whether a text ends in two lines that show a line and point to its place. -/
def Line.PointedAt (line : Line) (text : String) : Prop :=
  ∃ above upper lower indent shown trailing,
    text.toList = above ++ '\n' :: (upper ++ '\n' :: lower) ∧ '\n' ∉ upper ∧ '\n' ∉ lower ∧
      line.Points indent shown trailing upper lower

theorem isDigit_of_mem_repr {n : Nat} {c : Char} (hc : c ∈ (Nat.repr n).toList) :
    c.isDigit = true := by
  rw [Nat.toList_repr] at hc
  exact Nat.isDigit_of_mem_toDigits (by decide) (by decide) hc

theorem notMem_repr {n : Nat} {c : Char} (hc : c.isDigit = false) :
    c ∉ (Nat.repr n).toList := by
  intro hmem
  rw [isDigit_of_mem_repr hmem] at hc
  contradiction

theorem idxOf_bar_label (line : Line) (shown : List Char) :
    (line.label ++ shown).idxOf '|' = (Nat.repr line.number).length + 1 := by
  rw [Line.label, List.append_assoc, List.idxOf_append_of_notMem (notMem_repr rfl),
    String.length_toList]
  rfl

theorem idxOf_bar_pointer (margin dashes : Nat) : (pointer margin dashes).idxOf '|' = margin := by
  rw [pointer, List.idxOf_append_of_notMem (by simp [List.mem_replicate]), List.length_replicate,
    List.idxOf_cons_self, Nat.add_zero]

theorem idxOf_caret_pointer (margin dashes : Nat) :
    (pointer margin dashes).idxOf '^' = margin + 2 + dashes := by
  have hdashes : '^' ∉ List.replicate dashes '-' := by simp [List.mem_replicate]
  rw [pointer, List.idxOf_append_of_notMem (by simp [List.mem_replicate]), List.length_replicate,
    List.idxOf_cons_ne _ (by decide), List.idxOf_cons_ne _ (by decide),
    List.idxOf_append_of_notMem hdashes, List.length_replicate, List.idxOf_cons_self]
  omega

theorem padLeft?_of_le (fill : Char) {width : Nat} (text : String) (hwidth : width ≤ maxWidth) :
    padLeft? fill width text =
      some (String.ofList (List.replicate (width - text.length) fill) ++ text) :=
  if_pos hwidth

theorem padLeft?_of_lt (fill : Char) {width : Nat} (text : String) (hwidth : maxWidth < width) :
    padLeft? fill width text = none :=
  if_neg (Nat.not_le.2 hwidth)

/-- Numbers of lines stay far below the widths that the formatter refuses. -/
theorem bar_fits {line : Line} (hnumber : line.number ≤ 2 ^ 32) :
    (Nat.repr line.number).length + 2 ≤ maxWidth := by
  have hlength : (Nat.repr line.number).length ≤ 10 :=
    Nat.repr_length _ _ (by decide) (by omega)
  unfold maxWidth
  omega

/-- An excerpt ends in the line that is shown and the one that points. -/
theorem exists_excerpt {line : Line} (hnumber : line.number ≤ 2 ^ 32)
    (hdashes : line.dashes < maxWidth) :
    ∃ text, line.excerpt? = some text ∧ ∃ gutter, text.toList =
      gutter ++ '\n' :: (line.label ++ trimEnd (line.text.dropWhile isIndent) ++ '\n' ::
        pointer ((Nat.repr line.number).length + 1) line.dashes) := by
  have hbar : padLeft? ' ' ((Nat.repr line.number).length + 2) "|" =
      some (String.ofList (List.replicate ((Nat.repr line.number).length + 1) ' ') ++ "|") :=
    padLeft?_of_le ' ' "|" (bar_fits hnumber)
  have hcaret : padLeft? '-' (line.dashes + 1) "^" =
      some (String.ofList (List.replicate line.dashes '-') ++ "^") :=
    padLeft?_of_le '-' "^" hdashes
  simp only [Line.excerpt?, hbar, hcaret]
  refine ⟨_, rfl, List.replicate ((Nat.repr line.number).length + 1) ' ' ++ ['|'], ?_⟩
  simp [Line.label, pointer]

theorem excerpt?_eq_none {line : Line} (hdashes : maxWidth ≤ line.dashes) :
    line.excerpt? = none := by
  have hcaret := padLeft?_of_lt '-' "^" (Nat.lt_succ_of_le hdashes)
  simp only [Line.excerpt?, hcaret]
  cases padLeft? ' ' ((Nat.repr line.number).length + 2) "|" <;> rfl

/-- Without an excerpt there is no report. -/
theorem report?_eq_none {headline source : String} {position : Position} {line : Line}
    (hfound : lineAt? source position.offset = some line) (hdashes : maxWidth ≤ line.dashes) :
    report? headline position source = none := by
  simp only [report?, hfound, excerpt?_eq_none hdashes, Option.map_none]

theorem length_label (line : Line) : line.label.length = (Nat.repr line.number).length + 3 := by
  rw [Line.label, List.length_append, String.length_toList]
  rfl

/-- The excerpt of a line that is ASCII up to its place points to that place. -/
theorem Trimmed.points {line : Line} {indent shown trailing : List Char}
    (htrimmed : Trimmed indent shown trailing) (hparts : line.text = indent ++ (shown ++ trailing))
    (hplace : line.offset ≤ byteLength line.text)
    (hascii : ∀ c ∈ line.text.take line.offset, c.toNat < 128) :
    line.Points indent shown trailing (line.label ++ shown)
      (pointer ((Nat.repr line.number).length + 1) (line.offset - indent.length)) := by
  have hindent : byteLength indent = indent.length := by
    refine byteLength_of_ascii fun c hc => ?_
    obtain rfl | rfl := htrimmed.indent c hc
    · decide
    · decide
  refine ⟨hparts, htrimmed, rfl, ⟨_, _, rfl⟩, ?_, fun hinside => ?_, fun hbehind => ?_⟩
  · rw [idxOf_bar_pointer, idxOf_bar_label]
  · rw [idxOf_caret_pointer, length_label]
    omega
  · rw [hindent] at hbehind
    have hlength := length_take_of_ascii hascii hplace
    rw [hparts, List.take_append, List.take_of_length_le hbehind] at hascii hlength
    refine ⟨(shown ++ trailing).take (line.offset - indent.length), _,
      (List.take_append_drop _ _).symm, ?_, ?_⟩
    · rw [byteLength_of_ascii hascii, hlength]
    · rw [List.length_append] at hlength
      rw [idxOf_caret_pointer, List.length_append, length_label]
      omega

/-- A text that ends in the excerpt of a line points to the place in it. -/
theorem Line.Holds.pointedAt {line : Line} {text above : List Char} {offset : Nat} {shown : String}
    (hholds : line.Holds text offset) (hascii : ∀ c ∈ line.text.take line.offset, c.toNat < 128)
    (hends : shown.toList =
      above ++ '\n' :: (line.label ++ trimEnd (line.text.dropWhile isIndent) ++ '\n' ::
        pointer ((Nat.repr line.number).length + 1) line.dashes)) : line.PointedAt shown := by
  have hparts : line.text = line.text.takeWhile isIndent ++
      (trimEnd (line.text.dropWhile isIndent) ++
        (line.text.dropWhile isIndent).rtakeWhile isBlank) := by
    rw [trimEnd_append, List.takeWhile_append_dropWhile]
  have htrimmed := trimmed_parts line.text
  have hnewline := htrimmed.newline_notMem (hparts ▸ hholds.inside)
  refine ⟨above, _, _, _, _, _, hends, ?_, ?_,
    htrimmed.points hparts hholds.offset_le hascii⟩
  · rw [Line.label, List.mem_append, List.mem_append, not_or, not_or]
    exact ⟨⟨notMem_repr rfl, by decide⟩, hnewline⟩
  · simp [pointer, List.mem_replicate]

/-- A report on a place of a source finds the line of it.  If the caret is not too far to the
right and the line is ASCII up to the place, the report ends in the line behind its number, and a
caret below the place.  If the caret is too far to the right, there is no report. -/
theorem report_points {headline source : String} {position : Position}
    (hoffset : position.offset ≤ byteLength source.toList) (hword : position.offset < 2 ^ 32) :
    ∃ line, lineAt? source position.offset = some line ∧
      line.Holds source.toList position.offset ∧
      (line.dashes < maxWidth →
        ∃ text, report? headline position source = some text ∧
          ((∀ c ∈ line.text.take line.offset, c.toNat < 128) → line.PointedAt text)) ∧
      (maxWidth ≤ line.dashes → report? headline position source = none) := by
  obtain ⟨line, hfound, hholds⟩ := lineAt?_of_le hoffset
  refine ⟨line, hfound, hholds, fun hdashes => ?_, report?_eq_none hfound⟩
  obtain ⟨-, hbound⟩ := hholds.bounds
  obtain ⟨excerpt, hexcerpt, gutter, htext⟩ := exists_excerpt (by omega) hdashes
  let head := headline ++ "\n-> " ++ position.describe ++ "\n"
  have hreport : report? headline position source = some (head ++ excerpt) := by
    simp only [report?, hfound, hexcerpt, Option.map_some]
    rfl
  have hends : (head ++ excerpt).toList = head.toList ++ gutter ++ '\n' ::
      (line.label ++ trimEnd (line.text.dropWhile isIndent) ++ '\n' ::
        pointer ((Nat.repr line.number).length + 1) line.dashes) := by
    rw [String.toList_append, htext]
    exact (List.append_assoc _ _ _).symm
  exact ⟨_, hreport, fun hascii => hholds.pointedAt hascii hends⟩

/-- A line of two digits, that is indented and has blanks behind it. -/
def deepSource : String := "int x;" ++ String.ofList (List.replicate 9 '\n') ++ " \tx = 'é' ; \r\ny"

theorem deepSource_points :
    ∃ position : Position, position.offset = 17 ∧ position.offset ≤ byteLength deepSource.toList ∧
      ∃ line text, lineAt? deepSource position.offset = some line ∧
        line.Holds deepSource.toList position.offset ∧ line.dashes < maxWidth ∧
        (∀ c ∈ line.text.take line.offset, c.toNat < 128) ∧
        report? "Error" position deepSource = some text ∧ line.PointedAt text := by
  let position : Position := { offset := 17, line := 10, column := 3, file := "f.c" }
  have hoffset : position.offset ≤ byteLength deepSource.toList := by decide +kernel
  have hword : position.offset < 2 ^ 32 := by decide
  obtain ⟨line, hfound, hholds, hpoints, -⟩ :=
    @report_points "Error" deepSource position hoffset hword
  have hline : ((lineAt? deepSource position.offset).all fun line =>
      decide (line.dashes < maxWidth) && (line.text.take line.offset).all fun c => c.toNat < 128) =
        true := by
    decide +kernel
  rw [hfound] at hline
  obtain ⟨hdashes, hascii⟩ : line.dashes < maxWidth ∧
      ∀ c ∈ line.text.take line.offset, c.toNat < 128 := by simpa using hline
  obtain ⟨text, hreport, htext⟩ := hpoints hdashes
  exact ⟨position, rfl, hoffset, line, text, hfound, hholds, hdashes, hascii, hreport,
    htext hascii⟩

/-- A text of a letter over and over is one line without indentation. -/
theorem dashes_repeated {line : Line} {count offset : Nat}
    (hholds : line.Holds (repeated 'x' count).toList offset) : line.dashes = offset := by
  obtain ⟨before, after, htext, hline, -, hoffset⟩ := hholds.slice
  have hletter : ∀ c ∈ before ++ (line.text ++ after), c = 'x' := by
    rw [← htext]
    exact fun c => eq_of_mem_repeated
  have hbefore : before = [] := by
    refine hline.opens.resolve_right fun hlast => ?_
    have hnewline := hletter '\n' (List.mem_append_left _ (List.mem_of_getLast? hlast))
    contradiction
  have hindent : line.text.takeWhile isIndent = [] := by
    cases hcharacters : line.text with
    | nil => rfl
    | cons c rest =>
        obtain rfl : c = 'x' := hletter c (by simp [hcharacters])
        rfl
  rw [Line.dashes, hindent, hoffset, hbefore]
  simp

/-- There is no report on a place far behind the beginning of a line that is ASCII all through. -/
theorem longLine_unreported :
    ∃ position : Position, position.offset = 66000 ∧
      position.offset ≤ byteLength (repeated 'x' 70000).toList ∧
      (∀ c ∈ (repeated 'x' 70000).toList, c.toNat < 128) ∧
      report? "Error: x" position (repeated 'x' 70000) = none := by
  let position : Position := { offset := 66000, line := 1, column := 66001, file := "test.c" }
  have hoffset : position.offset ≤ byteLength (repeated 'x' 70000).toList := by
    rw [byteLength_repeated (by decide)]
    decide
  refine ⟨position, rfl, hoffset, fun c hc => ?_, ?_⟩
  · rw [eq_of_mem_repeated hc]
    decide
  · obtain ⟨line, hfound, hholds⟩ := lineAt?_of_le hoffset
    refine report?_eq_none hfound ?_
    rw [dashes_repeated hholds]
    decide

end SubsetC
