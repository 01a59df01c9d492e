import SubsetC.Proofs.Positions

/-!
# The line of an offset

A report finds the line that holds an offset by a walk over the lines of the text, scanning finds
it by a search in the table of line starts.  Both name the same line and the same place in it
(`Source.lookups_agree`), but for the end of a text that ends in a newline: there the walk stays
on the last line, and the search is one line further.
-/

namespace SubsetC

open Text

/-! ## Lines of a text -/

/-- A slice of a text is a line if it begins with the text or behind a newline, has no newline
before its end, and ends in one unless the text ends there. -/
structure IsLine (before line after : List Char) : Prop where
  opens : before = [] ∨ before.getLast? = some '\n'
  inside : '\n' ∉ line.dropLast
  closes : after ≠ [] → line.getLast? = some '\n'

/-- A line that is found for an offset: the line of its number in the text, with the place of the
offset in it.  The end of the text lies on a line that is not empty, if there is one. -/
structure Line.Holds (line : Line) (text : List Char) (offset : Nat) : Prop where
  slice : ∃ before after, text = before ++ (line.text ++ after) ∧
    IsLine before line.text after ∧ line.number = 1 + before.count '\n' ∧
      offset = byteLength before + line.offset
  place : line.offset < byteLength line.text ∨
    offset = byteLength text ∧ line.offset = byteLength line.text ∧ (line.text = [] → text = [])

theorem lastLine_eq_nil {before : List Char}
    (hopens : before = [] ∨ before.getLast? = some '\n') : lastLine before = [] := by
  obtain rfl | hlast := hopens
  · rfl
  · obtain ⟨init, rfl⟩ := List.getLast?_eq_some_iff.1 hlast
    exact List.rtakeWhile_concat_neg _ _ _ (by decide)

/-- A line that ends in a newline has just this one. -/
theorem count_of_getLast? {line : List Char} (hinside : '\n' ∉ line.dropLast)
    (hlast : line.getLast? = some '\n') : line.count '\n' = 1 := by
  obtain ⟨init, rfl⟩ := List.getLast?_eq_some_iff.1 hlast
  rw [List.dropLast_concat] at hinside
  rw [List.count_append, List.count_eq_zero.2 hinside]
  rfl

/-- The next line begins behind the newline that ends the one before it. -/
theorem opens_append (before : List Char) {line : List Char} (hlast : line.getLast? = some '\n') :
    before ++ line = [] ∨ (before ++ line).getLast? = some '\n' := by
  obtain ⟨init, rfl⟩ := List.getLast?_eq_some_iff.1 hlast
  refine .inr ?_
  rw [← List.append_assoc, List.getLast?_concat]

/-! ## The walk over the lines -/

/-- The first of the lines of a text, and the text behind it. -/
theorem exists_first_line {text : List Char} (htext : text ≠ []) :
    ∃ line rest, lines text = line :: lines rest ∧ text = line ++ rest ∧ line ≠ [] ∧
      '\n' ∉ line.dropLast ∧ (rest ≠ [] → line.getLast? = some '\n') := by
  induction text with
  | nil => exact absurd rfl htext
  | cons c rest ih =>
      by_cases hc : c = '\n'
      · subst hc
        exact ⟨['\n'], rest, by simp [lines], rfl, by simp, by simp, fun _ => rfl⟩
      · cases hrest : rest with
        | nil =>
            exact ⟨[c], [], by simp [lines, hc], rfl, by simp, by simp, fun hne => absurd rfl hne⟩
        | cons d others =>
            obtain ⟨line, later, hlines, happend, hline, hinside, hcloses⟩ := ih (by simp [hrest])
            refine ⟨c :: line, later, ?_, ?_, by simp, ?_, fun hlater => ?_⟩
            · rw [← hrest, lines, if_neg hc, hlines]
            · rw [← hrest, happend, List.cons_append]
            · rw [List.dropLast_cons_of_ne_nil hline, List.mem_cons, not_or]
              exact ⟨fun heq => hc heq.symm, hinside⟩
            · rw [List.getLast?_cons_of_ne_nil hline]
              exact hcloses hlater

theorem lines_eq_nil {text : List Char} : lines text = [] ↔ text = [] := by
  constructor
  · intro hlines
    by_contra htext
    obtain ⟨line, rest, hcons, -⟩ := exists_first_line htext
    rw [hlines] at hcons
    contradiction
  · rintro rfl
    rfl

/-- The walk from the beginning of a line on finds the line of the offset. -/
theorem lineAmong_holds {before text : List Char} {offset : Nat}
    (hopens : before = [] ∨ before.getLast? = some '\n') (htext : text ≠ [])
    (hoffset : offset ≤ byteLength text) :
    (lineAmong (1 + before.count '\n') offset (lines text)).Holds (before ++ text)
      (byteLength before + offset) := by
  induction hlength : text.length using Nat.strong_induction_on
    generalizing before text offset with
  | _ length ih =>
    obtain ⟨line, rest, hlines, rfl, hline, hinside, hcloses⟩ := exists_first_line htext
    have hslice : IsLine before line rest := ⟨hopens, hinside, hcloses⟩
    rw [byteLength_append] at hoffset
    rw [hlines]
    by_cases hrest : rest = []
    · subst hrest
      refine ⟨⟨before, [], rfl, hslice, rfl, rfl⟩, ?_⟩
      simp only [lineAmong, lines, List.append_nil, byteLength_append, byteLength_nil] at hoffset ⊢
      by_cases hwithin : offset < byteLength line
      · exact .inl hwithin
      · obtain rfl : offset = byteLength line := by omega
        exact .inr ⟨rfl, rfl, fun hnil => absurd hnil hline⟩
    · obtain ⟨next, others, hlater⟩ := List.exists_cons_of_ne_nil (mt lines_eq_nil.1 hrest)
      rw [hlater, lineAmong]
      split
      · rename_i hwithin
        exact ⟨⟨before, rest, rfl, hslice, rfl, rfl⟩, .inl hwithin⟩
      · -- The walk goes on with the next line, behind this one.
        rename_i hwithin
        have hshorter : rest.length < length := by
          rw [← hlength, List.length_append]
          exact Nat.lt_add_of_pos_left (List.length_pos_iff.2 hline)
        have hleft : offset - byteLength line ≤ byteLength rest := by omega
        have hnext := ih rest.length hshorter (opens_append before (hcloses hrest)) hrest hleft rfl
        rw [List.count_append, count_of_getLast? hinside (hcloses hrest), List.append_assoc,
          byteLength_append, Nat.add_assoc, Nat.add_sub_cancel' (Nat.not_lt.1 hwithin),
          ← Nat.add_assoc, hlater] at hnext
        exact hnext

theorem lineAt?_of_lt {text : String} {offset : Nat} (hoffset : byteLength text.toList < offset) :
    lineAt? text offset = none := if_pos hoffset

theorem lineAt?_of_le {text : String} {offset : Nat} (hoffset : offset ≤ byteLength text.toList) :
    ∃ line, lineAt? text offset = some line ∧ line.Holds text.toList offset := by
  refine ⟨_, if_neg (Nat.not_lt.2 hoffset), ?_⟩
  by_cases htext : text.toList = []
  · rw [htext] at hoffset ⊢
    obtain rfl : offset = 0 := Nat.le_zero.1 hoffset
    exact ⟨⟨[], [], rfl, ⟨.inl rfl, List.not_mem_nil, fun hne => absurd rfl hne⟩, rfl, rfl⟩,
      .inr ⟨rfl, rfl, fun _ => rfl⟩⟩
  · simpa using lineAmong_holds (.inl rfl) htext hoffset

/-! ## The search in the table of line starts -/

/-- No line begins inside another. -/
theorem le_of_mem_lineStarts {offset next : Nat} {line after : List Char}
    (hinside : '\n' ∉ line.dropLast) (hnext : next ∈ lineStarts offset (line ++ after)) :
    offset + byteLength line ≤ next := by
  rw [lineStarts_append, List.mem_append] at hnext
  obtain hline | hafter := hnext
  · obtain rfl | ⟨init, c, rfl⟩ := List.eq_nil_or_concat' line
    · simp [lineStarts] at hline
    · rw [List.dropLast_concat] at hinside
      rw [lineStarts_append, lineStarts_eq_nil offset hinside, List.nil_append] at hline
      have hbehind := mem_lineStarts _ _ hline
      simp only [lineStarts] at hline
      split at hline
      · rw [List.mem_singleton.1 hline, byteLength_append, byteLength_cons, byteLength_nil]
        omega
      · simp at hline
  · exact (mem_lineStarts _ _ hafter).1.le

namespace Source

variable {source : Source} {before rest : List Char} {place : Nat}

theorem positionAt_of_opens (htext : source.text.toList = before ++ rest)
    (hopens : before = [] ∨ before.getLast? = some '\n')
    (hlater : ∀ next ∈ lineStarts (byteLength before) rest, byteLength before + place < next) :
    source.positionAt (byteLength before + place) =
      { offset := word32 (byteLength before + place)
        line := word32 (1 + before.count '\n')
        column := word32 (1 + place)
        file := source.file } := by
  rw [positionAt_of_lt htext (Nat.le_add_right _ _) hlater, lastLine_eq_nil hopens, byteLength_nil,
    Nat.add_zero, Nat.add_sub_cancel_left]

end Source

/-! ## Both lookups -/

theorem count_le_byteLength (text : List Char) : text.count '\n' ≤ byteLength text :=
  Nat.le_trans List.count_le_length (length_le_byteLength text)

namespace Line.Holds

variable {source : Source} {line : Line} {offset : Nat}

/-- Inside a text the search finds the line that is found by the walk. -/
theorem positionAt_of_lt (hholds : line.Holds source.text.toList offset)
    (hoffset : offset < source.size) :
    (source.positionAt offset).line = word32 line.number ∧
      (source.positionAt offset).column = word32 (line.offset + 1) := by
  obtain ⟨before, after, htext, hline, hnumber, rfl⟩ := hholds.slice
  have hplace : line.offset < byteLength line.text := by
    obtain hplace | ⟨hend, -⟩ := hholds.place
    · exact hplace
    · exact absurd hend (Nat.ne_of_lt hoffset)
  have hlater : ∀ next ∈ lineStarts (byteLength before) (line.text ++ after),
      byteLength before + line.offset < next := by
    intro next hnext
    have hle := le_of_mem_lineStarts hline.inside hnext
    omega
  rw [Source.positionAt_of_opens htext hline.opens hlater, hnumber, Nat.add_comm line.offset]
  exact ⟨rfl, rfl⟩

/-- Each line before the one that is found takes at least a byte. -/
theorem bounds {text : List Char} (hholds : line.Holds text offset) :
    0 < line.number ∧ line.number + line.offset ≤ offset + 1 := by
  obtain ⟨before, after, -, -, hnumber, hoffset⟩ := hholds.slice
  have hcount := count_le_byteLength before
  omega

theorem inside {text : List Char} (hholds : line.Holds text offset) :
    '\n' ∉ line.text.dropLast := by
  obtain ⟨before, after, -, hline, -⟩ := hholds.slice
  exact hline.inside

theorem offset_le {text : List Char} (hholds : line.Holds text offset) :
    line.offset ≤ byteLength line.text := by
  obtain hplace | ⟨-, hplace, -⟩ := hholds.place
  · exact hplace.le
  · exact hplace.le

/-- The end of a text lies on its last line. -/
theorem at_size {text : List Char} (hholds : line.Holds text (byteLength text)) :
    ∃ before, text = before ++ line.text ∧ IsLine before line.text [] ∧
      line.number = 1 + before.count '\n' ∧ line.offset = byteLength line.text ∧
        (line.text = [] → text = []) := by
  obtain ⟨before, after, htext, hline, hnumber, hoffset⟩ := hholds.slice
  have hsize := congrArg byteLength htext
  simp only [byteLength_append] at hsize
  obtain hplace | ⟨-, hplace, hempty⟩ := hholds.place
  · omega
  · obtain rfl : after = [] := by
      by_contra hafter
      have hpositive := byteLength_pos hafter
      omega
    exact ⟨before, by simpa using htext, hline, hnumber, hplace, hempty⟩

/-- The last line is the first one or has a byte of its own. -/
theorem number_le {text : List Char} (hholds : line.Holds text (byteLength text)) :
    line.number ≤ max 1 (byteLength text) := by
  obtain ⟨before, -, -, -, hplace, hempty⟩ := hholds.at_size
  obtain ⟨-, hbound⟩ := hholds.bounds
  by_cases hnil : line.text = []
  · rw [hempty hnil, byteLength_nil] at hbound
    omega
  · have hpositive := byteLength_pos hnil
    omega

/-- At the end of a text without a newline there the search stays on the last line. -/
theorem positionAt_size (hholds : line.Holds source.text.toList source.size)
    (hlast : source.text.toList.getLast? ≠ some '\n') :
    (source.positionAt source.size).line = word32 line.number ∧
      (source.positionAt source.size).column = word32 (line.offset + 1) := by
  obtain ⟨before, htext, hline, hnumber, hplace, hempty⟩ := hholds.at_size
  have hnewline : '\n' ∉ line.text := by
    obtain hnil | ⟨init, c, htail⟩ := List.eq_nil_or_concat' line.text
    · simp [hnil]
    · have hinside := hline.inside
      rw [htail, List.dropLast_concat] at hinside
      rw [htext, htail, ← List.append_assoc, List.getLast?_concat] at hlast
      rw [htail, List.mem_append, List.mem_singleton]
      exact not_or.2 ⟨hinside, fun heq => hlast (congrArg some heq.symm)⟩
  have hlater : ∀ next ∈ lineStarts (byteLength before) line.text,
      byteLength before + line.offset < next := by
    simp [lineStarts_eq_nil _ hnewline]
  have hsize : source.size = byteLength before + line.offset := by
    rw [Source.size, htext, byteLength_append, hplace]
  rw [hsize, Source.positionAt_of_opens htext hline.opens hlater, hnumber,
    Nat.add_comm line.offset]
  exact ⟨rfl, rfl⟩

/-- At the end of a text that ends in a newline the search is one line further. -/
theorem positionAt_size_of_getLast? (hholds : line.Holds source.text.toList source.size)
    (hlast : source.text.toList.getLast? = some '\n') :
    line.text.getLast? = some '\n' ∧ line.offset = byteLength line.text ∧
      (source.positionAt source.size).line = word32 (line.number + 1) := by
  obtain ⟨before, htext, hline, hnumber, hplace, hempty⟩ := hholds.at_size
  have hnewline : line.text.getLast? = some '\n' := by
    have hne : line.text ≠ [] := fun hnil => by simp [hempty hnil] at hlast
    rw [← hlast, htext, List.getLast?_append_of_ne_nil _ hne]
  refine ⟨hnewline, hplace, ?_⟩
  rw [Source.size, Source.positionAt_behind (List.append_nil _).symm, Position.behind, htext,
    List.count_append, count_of_getLast? hline.inside hnewline, hnumber, Nat.add_assoc]

end Line.Holds

/-- What the walk over the lines of a source and the search in its table find for the same
offset. -/
structure Source.LookupsAgree (source : Source) : Prop where
  past : ∀ offset, source.size < offset → lineAt? source.text offset = none
  inside : ∀ offset, offset < source.size →
    ∃ line, lineAt? source.text offset = some line ∧ line.Holds source.text.toList offset ∧
      (source.positionAt offset).line = line.number ∧
      (source.positionAt offset).column = line.offset + 1
  stop : source.text.toList.getLast? ≠ some '\n' →
    ∃ line, lineAt? source.text source.size = some line ∧
      line.Holds source.text.toList source.size ∧
      (source.positionAt source.size).line = line.number ∧
      (source.positionAt source.size).column = line.offset + 1
  stopBehindNewline : source.text.toList.getLast? = some '\n' →
    ∃ line, lineAt? source.text source.size = some line ∧
      line.Holds source.text.toList source.size ∧
      line.text.getLast? = some '\n' ∧ line.offset = byteLength line.text ∧
      (source.positionAt source.size).line = line.number + 1

/-- The walk over the lines and the search in the table of line starts agree on every source of
fewer than `2 ^ 32 - 1` bytes. -/
theorem Source.lookups_agree {source : Source} (hsize : source.size < 2 ^ 32 - 1) :
    source.LookupsAgree := by
  constructor
  · intro offset hoffset
    exact lineAt?_of_lt hoffset
  · intro offset hoffset
    obtain ⟨line, hfound, hholds⟩ := lineAt?_of_le hoffset.le
    obtain ⟨hline, hcolumn⟩ := hholds.positionAt_of_lt hoffset
    obtain ⟨hpositive, hbound⟩ := hholds.bounds
    rw [word32_of_lt (by omega)] at hline hcolumn
    exact ⟨line, hfound, hholds, hline, hcolumn⟩
  · intro hlast
    obtain ⟨line, hfound, hholds⟩ := lineAt?_of_le (Nat.le_refl (byteLength source.text.toList))
    obtain ⟨hline, hcolumn⟩ := hholds.positionAt_size hlast
    obtain ⟨hpositive, hbound⟩ : 0 < line.number ∧ line.number + line.offset ≤ source.size + 1 :=
      hholds.bounds
    rw [word32_of_lt (by omega)] at hline hcolumn
    exact ⟨line, hfound, hholds, hline, hcolumn⟩
  · intro hlast
    obtain ⟨line, hfound, hholds⟩ := lineAt?_of_le (Nat.le_refl (byteLength source.text.toList))
    obtain ⟨hnewline, hplace, hline⟩ := hholds.positionAt_size_of_getLast? hlast
    have hnumber : line.number ≤ max 1 source.size := hholds.number_le
    rw [word32_of_lt (by omega)] at hline
    exact ⟨line, hfound, hholds, hnewline, hplace, hline⟩

/-- Empty lines, a character of two bytes and a newline at the end. -/
def unevenSource : Source := .ofText "\n/* é\n\n*/x;\n" "f.c"

theorem unevenSource_agrees :
    unevenSource.size < 2 ^ 32 - 1 ∧ unevenSource.LookupsAgree := by
  have hsize : unevenSource.size < 2 ^ 32 - 1 := by decide
  exact ⟨hsize, Source.lookups_agree hsize⟩

/-- A source of the greatest size that 32 bits hold. -/
def widestSource : Source := .ofText (repeated ' ' (2 ^ 32 - 1)) "f.c"

/-- At the end of a line as long as that the column of the search is too great for 32 bits. -/
theorem widestSource_disagrees : widestSource.size < 2 ^ 32 ∧ ¬ widestSource.LookupsAgree := by
  have hsize : widestSource.size = 2 ^ 32 - 1 := byteLength_repeated (by decide) _
  have hline : '\n' ∉ widestSource.text.toList := by
    intro hnewline
    exact absurd (eq_of_mem_repeated hnewline) (by decide)
  refine ⟨by omega, fun hagree => ?_⟩
  obtain ⟨line, -, -, -, hcolumn⟩ := hagree.stop fun hlast => hline (List.mem_of_getLast? hlast)
  rw [Source.positionAt_of_notMem hline, hsize] at hcolumn
  have hzero : word32 (2 ^ 32 - 1 + 1) = 0 := rfl
  simp only [hzero] at hcolumn
  omega

end SubsetC
