import SubsetC.Proofs.Positions
import SubsetC.Proofs.Scanned

/-!
# Tokens as a partition of their text

A text that is scanned falls apart into gaps and the slices of its tokens
(`Tiles`), and the span of each token is counted from the text before it.  That
the spans are in order and disjoint follows from the tiling, as long as the
offsets fit in 32 bits.
-/

namespace SubsetC

open Text

/-- What a token stands for in the source: its own text, or for a string a quoted body that
decodes to it. -/
def Token.Spells (token : Token) (slice : List Char) : Prop :=
  if token.kind = .string then
    ∃ body, StringBody body ∧ slice = '"' :: (body ++ ['"']) ∧ unescape body = token.text.toList
  else slice = token.text.toList

/-- The text behind a beginning of a file, cut into gaps and the slices of its tokens. -/
inductive Tiles (file : String) :
    List Char → List Char → List (List Char) → List Token → Prop
  | last {before gap} : IsGap gap [] →
      Tiles file before gap [] [.endOfInput (.behind file (before ++ gap))]
  | token {before gap slice rest slices token tokens} : IsGap gap (slice ++ rest) →
      slice ≠ [] → token.kind ≠ .eof → token.Spells slice →
      token.span = .around file (before ++ gap) slice →
      Tiles file (before ++ gap ++ slice) rest slices tokens →
      Tiles file before (gap ++ slice ++ rest) (slice :: slices) (token :: tokens)

theorem IsGap.append {first second following : List Char}
    (hfirst : IsGap first (second ++ following)) (hsecond : IsGap second following) :
    IsGap (first ++ second) following := by
  generalize hrest : second ++ following = rest at hfirst
  induction hfirst with
  | nil => exact hsecond
  | @cons piece gap _ hpiece _ ih =>
      subst hrest
      rw [← List.append_assoc] at hpiece
      rw [List.append_assoc]
      exact .cons hpiece (ih rfl)

/-- A gap before a tiling belongs to its first gap. -/
theorem Tiles.widen {file : String} {before gap text : List Char} {slices : List (List Char)}
    {tokens : List Token} (hgap : IsGap gap text)
    (htiles : Tiles file (before ++ gap) text slices tokens) :
    Tiles file before (gap ++ text) slices tokens := by
  cases htiles with
  | last hlast =>
      have hwhole : IsGap (gap ++ text) [] := by
        apply IsGap.append _ hlast
        rwa [List.append_nil]
      rw [List.append_assoc]
      exact .last hwhole
  | @token _ inner slice rest slices token tokens hinner hslice hkind hspells hspan hrest =>
      have hwhole : IsGap (gap ++ inner) (slice ++ rest) := by
        apply IsGap.append _ hinner
        rwa [← List.append_assoc]
      rw [List.append_assoc before] at hspan hrest
      rw [← List.append_assoc, ← List.append_assoc]
      exact .token hwhole hslice hkind hspells hspan hrest

namespace Lexeme

/-- The text of a lexeme that is a token. -/
def slice? (lexeme : Lexeme) : Option (List Char) := lexeme.kind?.map fun _ => lexeme.text

theorem Form.spells {lexeme : Lexeme} {kind : TokenKind} {span : Span}
    (hform : Form kind lexeme.text) (hkind : lexeme.kind? = some kind) :
    Token.Spells { kind := kind, text := lexeme.value, span := span } lexeme.text := by
  unfold Token.Spells value
  rw [hkind]
  by_cases hstring : kind = .string
  · obtain ⟨body, hbody, htext⟩ := hform.spec.2.2 hstring
    rw [if_pos hstring, if_pos (congrArg some hstring), String.toList_ofList, htext]
    refine ⟨body, hbody, rfl, ?_⟩
    rw [List.drop_one, List.tail_cons, List.dropLast_concat]
  · rw [if_neg hstring, if_neg (by simpa using hstring), String.toList_ofList]

/-- The lexemes of a text tile it, whatever scanning has emitted before. -/
theorem Sequence.tiles {text : List Char} {lexemes : List Lexeme}
    (hsequence : Sequence text lexemes) {scanner : Scanner} {before : List Char}
    (hoffset : scanner.offset = byteLength before)
    (htext : scanner.source.text.toList = before ++ text) :
    ∃ tokens, Tiles scanner.source.file before text (lexemes.filterMap slice?) tokens ∧
      (lexemes.foldl Scanner.take scanner).close = scanner.tokens.toList ++ tokens := by
  induction hsequence generalizing scanner before with
  | nil =>
      have hposition : scanner.source.positionAt scanner.offset =
          .behind scanner.source.file before := by
        rw [hoffset, Source.positionAt_behind htext]
      refine ⟨[.endOfInput (.behind scanner.source.file (before ++ []))], .last .nil, ?_⟩
      rw [List.foldl_nil, Scanner.close, Array.toList_push, hposition, List.append_nil]
  | @cons text rest lexeme lexemes hnext _ ih =>
      obtain ⟨hne, hsplit⟩ := next?_splits hnext
      have hform := next?_form hnext
      subst hsplit
      rw [← List.append_assoc] at htext
      have hbehind : scanner.offset + byteLength lexeme.text =
          byteLength (before ++ lexeme.text) := by
        rw [hoffset, byteLength_append]
      rw [List.foldl_cons]
      cases hkind : lexeme.kind? with
      | none =>
          have hgap : IsGap lexeme.text rest := by simpa [HasForm, hkind] using hform
          have hslices : (lexeme :: lexemes).filterMap slice? = lexemes.filterMap slice? :=
            List.filterMap_cons_none (by rw [slice?, hkind]; rfl)
          rw [Scanner.take_gap hkind, hslices]
          have hoffset : (scanner.advance (byteLength lexeme.text)).offset =
              byteLength (before ++ lexeme.text) := hbehind
          obtain ⟨tokens, htiles, hclose⟩ := ih hoffset htext
          exact ⟨tokens, .widen hgap htiles, hclose⟩
      | some kind =>
          have hkindForm : Form kind lexeme.text := by simpa [HasForm, hkind] using hform
          have hslices : (lexeme :: lexemes).filterMap slice? =
              lexeme.text :: lexemes.filterMap slice? :=
            List.filterMap_cons_some (by rw [slice?, hkind]; rfl)
          rw [Scanner.take_token hkind, hslices]
          have hoffset : (scanner.emit kind lexeme.value (byteLength lexeme.text)).offset =
              byteLength (before ++ lexeme.text) := hbehind
          obtain ⟨tokens, htiles, hclose⟩ := ih hoffset htext
          have hspan : scanner.source.spanAt scanner.offset (byteLength lexeme.text) =
              .around scanner.source.file (before ++ []) lexeme.text := by
            rw [‹scanner.offset = byteLength before›, Source.spanAt_around htext, List.append_nil]
          have htoken := Tiles.token .nil hne hkindForm.spec.1 (hkindForm.spells hkind) hspan
            (by rwa [List.append_nil])
          refine ⟨_, htoken, ?_⟩
          rw [hclose, Scanner.emit, Scanner.advance, Array.toList_push, List.append_assoc]
          rfl

end Lexeme

/-- A text that is scanned is a sequence of lexemes, and the tokens of these tile it. -/
theorem tokenize_tiles {text file : String} {tokens : List Token}
    (htokens : tokenize text file = .ok tokens) :
    ∃ lexemes, Lexeme.Sequence text.toList lexemes ∧
      (lexemes.foldl Scanner.take { source := .ofText text file }).close = tokens ∧
      Tiles file [] text.toList (lexemes.filterMap Lexeme.slice?) tokens := by
  obtain ⟨lexemes, hsequence, hclose⟩ := tokenize_eq_ok_iff.1 htokens
  have hstart : ({ source := .ofText text file } : Scanner).source.text.toList = [] ++ text.toList :=
    rfl
  obtain ⟨found, htiles, hfound⟩ := hsequence.tiles rfl hstart
  obtain rfl : found = tokens := hfound.symm.trans hclose
  exact ⟨lexemes, hsequence, hclose, htiles⟩

namespace Tiles

variable {file : String} {before text : List Char} {slices : List (List Char)}
  {tokens : List Token}

/-- Each token spans a slice of the text, and only the end of input an empty one. -/
theorem spans (htiles : Tiles file before text slices tokens) :
    ∀ token ∈ tokens, ∃ earlier slice rest, before ++ text = earlier ++ slice ++ rest ∧
      before <+: earlier ∧ token.span = .around file earlier slice ∧
        (token.kind ≠ .eof → slice ≠ []) := by
  induction htiles with
  | @last before gap hgap =>
      intro token hmem
      obtain rfl := List.mem_singleton.1 hmem
      have hspan : (Token.endOfInput (.behind file (before ++ gap))).span =
          .around file (before ++ gap) [] := by
        rw [Span.around, List.append_nil]
        rfl
      refine ⟨before ++ gap, [], [], by simp, List.prefix_append _ _, hspan, ?_⟩
      intro hkind
      exact absurd rfl hkind
  | @token before gap slice rest slices token tokens _ hslice _ _ hspan _ ih =>
      intro other hmem
      rcases List.mem_cons.1 hmem with rfl | hlater
      · exact ⟨before ++ gap, slice, rest, by simp, List.prefix_append _ _, hspan, fun _ => hslice⟩
      · obtain ⟨earlier, found, left, htext, hbefore, hfound⟩ := ih other hlater
        refine ⟨earlier, found, left, ?_, ?_, hfound⟩
        · rw [← htext]
          simp
        · rw [List.append_assoc] at hbefore
          exact (List.prefix_append _ _).trans hbefore

/-- The last token is the end of input, behind the whole text. -/
theorem ends (htiles : Tiles file before text slices tokens) :
    ∃ body, tokens = body ++ [.endOfInput (.behind file (before ++ text))] ∧
      ∀ token ∈ body, token.kind ≠ .eof := by
  induction htiles with
  | last => exact ⟨[], rfl, by simp⟩
  | @token before gap slice rest slices token tokens _ _ hkind _ _ _ ih =>
      obtain ⟨body, rfl, hbody⟩ := ih
      refine ⟨token :: body, by simp, ?_⟩
      exact List.forall_mem_cons.2 ⟨hkind, hbody⟩

/-- As long as the offsets fit, a later token begins where an earlier one has ended. -/
theorem ordered (htiles : Tiles file before text slices tokens)
    (hsize : byteLength (before ++ text) < 2 ^ 32) :
    tokens.Pairwise fun first second => first.span.stop.offset ≤ second.span.start.offset := by
  induction htiles with
  | last => exact List.pairwise_singleton _ _
  | @token before gap slice rest slices token tokens _ _ _ _ hspan hrest ih =>
      have hwhole : before ++ (gap ++ slice ++ rest) = before ++ gap ++ slice ++ rest := by simp
      rw [hwhole] at hsize
      refine List.pairwise_cons.2 ⟨fun later hlater => ?_, ih hsize⟩
      obtain ⟨earlier, found, left, htext, hbefore, hfound, -⟩ := hrest.spans later hlater
      have hstop : token.span.stop.offset = byteLength (before ++ gap ++ slice) := by
        rw [hspan]
        exact Position.offset_behind hsize rfl
      have hstart : later.span.start.offset = byteLength earlier := by
        rw [hfound]
        exact Position.offset_behind hsize (htext.trans (List.append_assoc _ _ _))
      obtain ⟨between, rfl⟩ := hbefore
      rw [hstop, hstart, byteLength_append (before ++ gap ++ slice)]
      exact Nat.le_add_right _ _

/-- As long as the offsets fit, only the end of input spans nothing. -/
theorem nonempty (htiles : Tiles file before text slices tokens)
    (hsize : byteLength (before ++ text) < 2 ^ 32) :
    ∀ token ∈ tokens, token.kind ≠ .eof → token.span.start.offset < token.span.stop.offset := by
  intro token hmem hkind
  obtain ⟨earlier, slice, rest, htext, -, hspan, hslice⟩ := htiles.spans token hmem
  have hstart : token.span.start.offset = byteLength earlier := by
    rw [hspan]
    exact Position.offset_behind hsize (htext.trans (List.append_assoc _ _ _))
  have hstop : token.span.stop.offset = byteLength (earlier ++ slice) := by
    rw [hspan]
    exact Position.offset_behind hsize htext
  have hpositive := byteLength_pos (hslice hkind)
  rw [hstart, hstop, byteLength_append]
  omega

end Tiles

/-! ## Tokens behind blanks -/

/-- The tokens of some lexemes depend on a source only by its positions. -/
theorem Scanner.close_congr {scanner other : Scanner}
    (hplaces : ∀ offset, scanner.source.positionAt offset = other.source.positionAt offset)
    (hoffset : scanner.offset = other.offset) (htokens : scanner.tokens = other.tokens)
    (lexemes : List Lexeme) :
    (lexemes.foldl take scanner).close = (lexemes.foldl take other).close := by
  induction lexemes generalizing scanner other with
  | nil => rw [List.foldl_nil, List.foldl_nil, close, close, htokens, hoffset, hplaces]
  | cons lexeme lexemes ih =>
      rw [List.foldl_cons, List.foldl_cons]
      cases hkind : lexeme.kind? with
      | none =>
          rw [take_gap hkind, take_gap hkind]
          exact ih hplaces (congrArg (· + _) hoffset) htokens
      | some kind =>
          rw [take_token hkind, take_token hkind]
          refine ih hplaces (congrArg (· + _) hoffset) ?_
          simp only [emit, advance, Source.spanAt, hplaces, hoffset, htokens]

/-- A text without newlines behind blanks has the tokens that scanning emits if it begins behind
them, wherever that is. -/
theorem tokenize_repeated_append {count : Nat} (hcount : count ≠ 0) {text file : String}
    {lexemes : List Lexeme} (hsequence : Lexeme.Sequence text.toList lexemes)
    (hstop : ∀ c, text.toList.head? = some c → isBlank c = false) (hline : '\n' ∉ text.toList) :
    tokenize (repeated ' ' count ++ text) file =
      .ok (lexemes.foldl Scanner.take { source := .ofText "" file, offset := count }).close := by
  have hblank : ∀ c ∈ (repeated ' ' count).toList, isBlank c = true := by
    intro c hc
    rw [eq_of_mem_repeated hc]
    decide
  have hne : (repeated ' ' count).toList ≠ [] := by
    rwa [repeated, String.toList_ofList, Ne, List.replicate_eq_nil_iff]
  have hnext := Lexeme.next?_of_blank hne hblank hstop
  rw [← String.toList_append] at hnext
  have hplaces : ∀ offset, (Source.ofText (repeated ' ' count ++ text) file).positionAt offset =
      (Source.ofText "" file).positionAt offset := by
    intro offset
    rw [Source.positionAt_of_notMem, Source.positionAt_of_notMem]
    · rfl
    · exact List.not_mem_nil
    · rw [Source.ofText, String.toList_append, List.mem_append, not_or]
      exact ⟨fun hnewline => absurd (eq_of_mem_repeated hnewline) (by decide), hline⟩
  refine tokenize_eq_ok_iff.2 ⟨_, .cons hnext hsequence, ?_⟩
  rw [List.foldl_cons, Scanner.take_gap rfl, byteLength_repeated (by decide)]
  apply Scanner.close_congr hplaces
  · exact Nat.zero_add count
  · rfl

/-! ## Tokens as a partition -/

/-- How the tokens of a text lie in it. -/
structure Partitions (file : String) (text : List Char) (tokens : List Token) : Prop where
  /-- Gaps and the slices of the tokens make up the text. -/
  tiles : ∃ slices, Tiles file [] text slices tokens
  /-- Every token but the last spans something, and the last is the end of input. -/
  ends : ∃ body last, tokens = body ++ [last] ∧
    (∀ token ∈ body, token.kind ≠ .eof ∧ token.span.start.offset < token.span.stop.offset) ∧
    last.kind = .eof ∧ last.span.start.offset = byteLength text ∧
      last.span.stop.offset = byteLength text
  /-- The spans are in order and disjoint. -/
  ordered : tokens.Pairwise fun first second =>
    first.span.stop.offset ≤ second.span.start.offset
  /-- Where a token starts and stops is counted from the text before that place. -/
  counted : ∀ token ∈ tokens, ∀ position ∈ [token.span.start, token.span.stop],
    ∃ before rest, text = before ++ rest ∧ position.Counts file before

/-- The tokens of a text of fewer than `2 ^ 32 - 1` bytes partition it. -/
theorem tokens_partition {text file : String} {tokens : List Token}
    (htokens : tokenize text file = .ok tokens) (hsize : byteLength text.toList < 2 ^ 32 - 1) :
    Partitions file text.toList tokens := by
  obtain ⟨lexemes, -, -, htiles⟩ := tokenize_tiles htokens
  obtain ⟨body, hends, hbody⟩ := htiles.ends
  have hfits : byteLength text.toList < 2 ^ 32 := by omega
  have hlast : (Position.behind file text.toList).offset = byteLength text.toList :=
    Position.offset_behind hfits (List.append_nil _).symm
  constructor
  · exact ⟨_, htiles⟩
  · refine ⟨body, _, hends, fun token hmem => ⟨hbody token hmem, ?_⟩, rfl, hlast, hlast⟩
    have htoken : token ∈ tokens := by
      rw [hends]
      exact List.mem_append_left _ hmem
    exact htiles.nonempty hfits token htoken (hbody token hmem)
  · exact htiles.ordered hfits
  · intro token hmem position hposition
    obtain ⟨earlier, slice, rest, htext, -, hspan, -⟩ := htiles.spans token hmem
    have hstart : text.toList = earlier ++ (slice ++ rest) :=
      htext.trans (List.append_assoc _ _ _)
    rw [hspan] at hposition
    simp only [Span.around, List.mem_cons, List.not_mem_nil, or_false] at hposition
    rcases hposition with rfl | rfl
    · exact ⟨earlier, slice ++ rest, hstart, Position.behind_counts hsize hstart⟩
    · exact ⟨earlier ++ slice, rest, htext, Position.behind_counts hsize htext⟩

/-- A text with comments, a constant over two lines, a decoded string and characters of several
bytes. -/
def scatteredText : String := "/* é\n*/char c='\n'; // end\n\u00A0s = \"\\x41é\\n\";/"

theorem scatteredText_partition :
    ∃ tokens, tokenize scatteredText "f.c" = .ok tokens ∧ tokens.length = 11 ∧
      byteLength scatteredText.toList < 2 ^ 32 - 1 ∧
      Partitions "f.c" scatteredText.toList tokens := by
  have hreads : ((tokenize scatteredText "f.c").toOption.any fun tokens =>
      decide (tokens.length = 11)) = true := by
    decide +kernel
  obtain ⟨tokens, htokens, hlength⟩ := exists_tokens hreads
  have hsize : byteLength scatteredText.toList < 2 ^ 32 - 1 := by
    decide +kernel
  exact ⟨tokens, htokens, hlength, hsize, tokens_partition htokens hsize⟩

/-- A line of blanks that has as many bytes as 32 bits can count is scanned into the end of input,
and the column of this is too great for 32 bits. -/
theorem widestText_not_partitioned :
    ∃ tokens, tokenize (repeated ' ' (2 ^ 32 - 1)) "f.c" = .ok tokens ∧
      byteLength (repeated ' ' (2 ^ 32 - 1)).toList < 2 ^ 32 ∧
      ¬ Partitions "f.c" (repeated ' ' (2 ^ 32 - 1)).toList tokens := by
  have hempty : "".toList = [] := by simp
  have htokens := @tokenize_repeated_append (2 ^ 32 - 1) (by decide) "" "f.c" []
    (by rw [hempty]; exact .nil) (by simp) (by simp)
  rw [String.append_empty] at htokens
  refine ⟨_, htokens, ?_, fun hpartitions => ?_⟩
  · rw [byteLength_repeated (by decide)]
    decide
  · obtain ⟨before, rest, -, hcounts⟩ :=
      hpartitions.counted _ List.mem_cons_self _ List.mem_cons_self
    have hcolumn := hcounts.column
    have hzero : ((Source.ofText "" "f.c").positionAt (2 ^ 32 - 1)).column = 0 := by decide
    exact absurd (hzero.symm.trans hcolumn) (by omega)

end SubsetC
