import SubsetC.Proofs.Partition

/-!
# Where scanning fails

A character begins no lexeme just if it is stray (`Lexeme.next?_eq_none_iff`).  Cutting a text
behind some lexemes leaves these as they are, although each was chosen with the text ahead in
view (`Lexeme.isLocal_next?`).  So scanning fails at the first stray character that it reaches,
and the text before that is scanned (`tokenize_fails_exactly`).
-/

namespace SubsetC

open Text

/-! ## Stray characters -/

/-- The first characters of punctuation, each of which is punctuation by itself. -/
def marks : List Char := "[]\x7b\x7d()=!<>&;,+-/*%".toList

/-- A character and the text behind it, with which no lexeme begins. -/
inductive Stray : Char → List Char → Prop
  | bar {rest} : rest.head? ≠ some '|' → Stray '|' rest
  | quote {rest} : (¬ ∃ body following, CharacterBody body ∧ rest = body ++ '\'' :: following) →
      Stray '\'' rest
  | quotes {rest} : (¬ ∃ body following, StringBody body ∧ rest = body ++ '"' :: following) →
      Stray '"' rest
  | other {c rest} : isBlank c = false → isWordPart c = false → c ∉ marks →
      c ∉ ['|', '\'', '"'] → Stray c rest

namespace Lexeme

/-! ## Closing marks -/

/-- A way to take the rest of a lexeme: a body of some form and a mark that closes it. -/
structure IsClosing (close? : Split (List Char)) (Body : List Char → Prop) (mark : List Char) :
    Prop where
  append : ∀ {text closed rest}, close? text = some (closed, rest) → closed ++ rest = text
  body : ∀ {text closed rest}, close? text = some (closed, rest) →
    ∃ body, Body body ∧ closed = body ++ mark
  close : ∀ {body rest}, Body body → close? (body ++ (mark ++ rest)) = some (body ++ mark, rest)

theorem IsClosing.eq_none_iff {close? : Split (List Char)} {Body : List Char → Prop}
    {mark rest : List Char} (hclosing : IsClosing close? Body mark) :
    close? rest = none ↔
      ¬ ∃ body following, Body body ∧ rest = body ++ (mark ++ following) := by
  constructor
  · rintro hnone ⟨body, following, hbody, rfl⟩
    rw [hclosing.close hbody] at hnone
    contradiction
  · intro hbody
    rw [Option.eq_none_iff_forall_ne_some]
    rintro ⟨closed, following⟩ hclose
    obtain ⟨body, hform, rfl⟩ := hclosing.body hclose
    have htext := hclosing.append hclose
    rw [List.append_assoc] at htext
    exact hbody ⟨body, following, hform, htext.symm⟩

theorem closeComment?_of_body {body rest : List Char} (hbody : ¬ ['*', '/'] <:+: body ++ ['*']) :
    closeComment? (body ++ '*' :: '/' :: rest) = some (body ++ ['*', '/'], rest) := by
  induction body with
  | nil => rfl
  | cons c others ih =>
      have hothers : ¬ ['*', '/'] <:+: others ++ ['*'] := fun hmark =>
        hbody (List.infix_cons hmark)
      rw [List.cons_append, closeComment?, ih hothers]
      · rfl
      -- A mark that began with `c` would have closed the comment there.
      · rintro tail rfl htail
        cases others with
        | nil => simp at htail
        | cons d others =>
            obtain ⟨rfl, -⟩ := List.cons.inj htail
            exact hbody (List.IsPrefix.isInfix (by simp))

theorem closeComment?_isClosing :
    IsClosing closeComment? (fun body => ¬ ['*', '/'] <:+: body ++ ['*']) ['*', '/'] :=
  ⟨closeComment?_append, closeComment?_body, closeComment?_of_body⟩

theorem closeConstant?_isClosing : IsClosing closeConstant? CharacterBody ['\''] :=
  ⟨closeConstant?_append, closeConstant?_body, closeConstant?_of_body⟩

theorem closeString?_isClosing : IsClosing closeString? StringBody ['"'] :=
  ⟨closeString?_append, closeString?_body, closeString?_of_body⟩

/-! ## Beginnings of lexemes -/

section Beginnings

variable {c : Char} {rest : List Char}

theorem isWordPart_eq (c : Char) : isWordPart c = (isWordStart c || c.isDigit) := by
  simp only [isWordPart, isWordStart, Char.isAlphanum, Bool.or_right_comm]

theorem run?_eq_none_iff {kind? : List Char → Option TokenKind} {opens continues : Char → Bool} :
    run? kind? opens continues (c :: rest) = none ↔ opens c = false := by
  by_cases hc : opens c = true <;> simp [run?, hc]

theorem opened?_cons {kind? : Option TokenKind} {close? : Split (List Char)} :
    opened? kind? [c] close? (c :: rest) = none ↔ close? rest = none := by
  cases hclose : close? rest <;> simp [opened?, afterBeginning?, hclose]

theorem punctuation?_eq_none_iff {kind : TokenKind} {text : List Char} :
    punctuation? kind text = none ↔ afterBeginning? kind.lexeme.toList text = none := by
  unfold punctuation? opened?
  cases afterBeginning? kind.lexeme.toList text <;> simp

/-- All punctuation but `||` begins with a mark, and each mark is punctuation by itself. -/
theorem punctuation?_all_eq_none_iff :
    (∀ kind ∈ punctuation, punctuation? kind (c :: rest) = none) ↔
      c ∉ marks ∧ (c = '|' → rest.head? ≠ some '|') := by
  have hsingle : (marks.all fun mark =>
      punctuation.any fun kind => kind.lexeme.toList = [mark]) = true := by decide
  have hfirst : ∀ kind ∈ punctuation, kind.lexeme.toList = ['|', '|'] ∨
      (kind.lexeme.toList.head?.any fun mark => mark ∈ marks) = true := by decide
  simp only [punctuation?_eq_none_iff]
  constructor
  · intro hnone
    constructor
    · intro hmark
      obtain ⟨kind, hkind, hlexeme⟩ :=
        List.any_eq_true.1 (List.all_eq_true.1 hsingle c hmark)
      have hlexeme := of_decide_eq_true hlexeme
      exact absurd (hnone kind hkind) (by simp [hlexeme, afterBeginning?])
    · rintro rfl hbar
      obtain ⟨following, rfl⟩ := List.head?_eq_some_iff.1 hbar
      exact absurd (hnone .or (by decide)) (by simp [TokenKind.lexeme, afterBeginning?])
  · rintro ⟨hmark, hbar⟩ kind hkind
    obtain hlexeme | hfound := hfirst kind hkind
    · rw [hlexeme]
      by_cases hc : c = '|'
      · have hrest := hbar hc
        cases rest with
        | nil => simp [afterBeginning?]
        | cons d following => simp_all [afterBeginning?]
      · simp [afterBeginning?, hc]
    · obtain ⟨mark, hhead, hmem⟩ := (Option.any_eq_true _ _).1 hfound
      obtain ⟨others, hlexeme⟩ := List.head?_eq_some_iff.1 hhead
      have hc : c ≠ mark := by
        rintro rfl
        exact hmark (of_decide_eq_true hmem)
      rw [hlexeme, afterBeginning?, if_neg hc]

theorem next?_cons_eq_none_iff : next? (c :: rest) = none ↔
    (isBlank c = false ∧ opened? none ['/', '/'] closeLine? (c :: rest) = none ∧
      opened? none ['/', '*'] closeComment? (c :: rest) = none ∧ isWordStart c = false ∧
      c.isDigit = false ∧ opened? (some .constant) ['\''] closeConstant? (c :: rest) = none ∧
      opened? (some .string) ['"'] closeString? (c :: rest) = none) ∧
    c ∉ marks ∧ (c = '|' → rest.head? ≠ some '|') := by
  rw [next?, List.findSome?_eq_none_iff, recognisers, List.forall_mem_append, List.forall_mem_map,
    punctuation?_all_eq_none_iff]
  simp only [List.forall_mem_cons, run?_eq_none_iff, List.not_mem_nil, false_imp_iff,
    implies_true, and_true]

/-- No lexeme begins just with a stray character. -/
theorem next?_eq_none_iff : next? (c :: rest) = none ↔ Stray c rest := by
  rw [next?_cons_eq_none_iff]
  constructor
  · rintro ⟨⟨hblank, -, -, hstart, hdigit, hquote, hquotes⟩, hmark, hbar⟩
    by_cases hc : c ∈ ['|', '\'', '"']
    · simp only [List.mem_cons, List.not_mem_nil, or_false] at hc
      rcases hc with rfl | rfl | rfl
      · exact .bar (hbar rfl)
      · exact .quote (closeConstant?_isClosing.eq_none_iff.1 (opened?_cons.1 hquote))
      · exact .quotes (closeString?_isClosing.eq_none_iff.1 (opened?_cons.1 hquotes))
    · exact .other hblank (by rw [isWordPart_eq, hstart, hdigit]; rfl) hmark hc
  · intro hstray
    cases hstray with
    | bar hbar =>
        exact ⟨⟨by decide, opened?_of_ne (by decide), opened?_of_ne (by decide), by decide,
          by decide, opened?_of_ne (by decide), opened?_of_ne (by decide)⟩, by decide,
          fun _ => hbar⟩
    | quote hbody =>
        exact ⟨⟨by decide, opened?_of_ne (by decide), opened?_of_ne (by decide), by decide,
          by decide, opened?_cons.2 (closeConstant?_isClosing.eq_none_iff.2 hbody),
          opened?_of_ne (by decide)⟩, by decide, fun hbar => absurd hbar (by decide)⟩
    | quotes hbody =>
        exact ⟨⟨by decide, opened?_of_ne (by decide), opened?_of_ne (by decide), by decide,
          by decide, opened?_of_ne (by decide),
          opened?_cons.2 (closeString?_isClosing.eq_none_iff.2 hbody)⟩, by decide,
          fun hbar => absurd hbar (by decide)⟩
    | other hblank hpart hmark hc =>
        rw [isWordPart_eq, Bool.or_eq_false_iff] at hpart
        have hslash : c ≠ '/' := by
          rintro rfl
          exact hmark (by decide)
        simp only [List.mem_cons, List.not_mem_nil, or_false, not_or] at hc
        exact ⟨⟨hblank, opened?_of_ne hslash, opened?_of_ne hslash, hpart.1, hpart.2,
          opened?_of_ne hc.2.1, opened?_of_ne hc.2.2⟩, hmark, fun hbar => absurd hbar hc.1⟩

end Beginnings

/-! ## Cutting a text behind a lexeme -/

/-- A way to split that does not depend on the end of the text: what it takes is taken as well
where the text is cut behind that, and what it does not take whole it does not take cut. -/
structure IsLocal {α : Type} (split : Split α) : Prop where
  stops : ∀ {text kept dropped value}, split text = some (value, kept ++ dropped) →
    ∃ front, text = front ++ (kept ++ dropped) ∧ split (front ++ kept) = some (value, kept)
  fails : ∀ {text dropped}, split (text ++ dropped) = none → split text = none

section Locality

variable {α : Type} {split : Split α}

/-- A way to split that looks at nothing but what it takes. -/
theorem isLocal_of_exact
    (hexact : ∀ {text rest value}, split text = some (value, rest) →
      ∃ front, text = front ++ rest ∧ ∀ later, split (front ++ later) = some (value, later)) :
    IsLocal split where
  stops hsplit := by
    obtain ⟨front, htext, hlater⟩ := hexact hsplit
    exact ⟨front, htext, hlater _⟩
  fails := by
    intro text dropped hnone
    rw [Option.eq_none_iff_forall_ne_some]
    rintro ⟨value, rest⟩ hsplit
    obtain ⟨front, rfl, hlater⟩ := hexact hsplit
    rw [List.append_assoc, hlater] at hnone
    contradiction

theorem IsClosing.isLocal {close? : Split (List Char)} {Body : List Char → Prop}
    {mark : List Char} (hclosing : IsClosing close? Body mark) : IsLocal close? := by
  apply isLocal_of_exact
  intro text rest closed hclose
  refine ⟨closed, (hclosing.append hclose).symm, fun later => ?_⟩
  obtain ⟨body, hbody, rfl⟩ := hclosing.body hclose
  rw [List.append_assoc]
  exact hclosing.close hbody

/-- What a longest run leaves begins with no character that would continue it. -/
theorem dropWhile_stops {continues : Char → Bool} {text kept dropped : List Char}
    (hdrop : text.dropWhile continues = kept ++ dropped) :
    (text.takeWhile continues ++ kept).takeWhile continues = text.takeWhile continues ∧
      (text.takeWhile continues ++ kept).dropWhile continues = kept := by
  apply run_ends (fun c hc => List.mem_takeWhile_imp hc)
  intro c hc
  have hhead : (text.dropWhile continues).head? = some c := by
    rw [hdrop, List.head?_append, hc, Option.some_or]
  have hstop := List.head?_dropWhile_not continues text
  rw [hhead] at hstop
  simpa using hstop

theorem isLocal_closeLine? : IsLocal closeLine? where
  stops := by
    intro text kept dropped closed hclose
    simp only [closeLine?, Option.some.injEq, Prod.mk.injEq] at hclose
    obtain ⟨rfl, hdrop⟩ := hclose
    refine ⟨text.takeWhile (· ≠ '\n'), ?_, ?_⟩
    · rw [← hdrop, List.takeWhile_append_dropWhile]
    · obtain ⟨htake, hleft⟩ := dropWhile_stops hdrop
      simp only [closeLine?, htake, hleft]
  fails := by simp [closeLine?]

theorem isLocal_run? (kind? : List Char → Option TokenKind) (opens continues : Char → Bool) :
    IsLocal (run? kind? opens continues) where
  stops := by
    intro text kept dropped lexeme hsplit
    cases text with
    | nil => simp [run?] at hsplit
    | cons c rest =>
        cases hc : opens c with
        | false => simp [run?, hc] at hsplit
        | true =>
            simp only [run?, hc, if_true, Option.some.injEq, Prod.mk.injEq] at hsplit
            obtain ⟨rfl, hdrop⟩ := hsplit
            refine ⟨c :: rest.takeWhile continues, ?_, ?_⟩
            · rw [← hdrop, List.cons_append, List.takeWhile_append_dropWhile]
            · exact run?_of_opens kind? hc (dropWhile_stops hdrop)
  fails := by
    intro text dropped hnone
    cases text with
    | nil => rfl
    | cons c rest => exact run?_eq_none_iff.2 (run?_eq_none_iff.1 hnone)

theorem afterBeginning?_self (beginning rest : List Char) :
    afterBeginning? beginning (beginning ++ rest) = some rest := by
  induction beginning with
  | nil => rfl
  | cons expected others ih => simp [afterBeginning?, ih]

theorem opened?_of_close {kind? : Option TokenKind} {opening behind closed rest : List Char}
    {close? : Split (List Char)} (hclose : close? behind = some (closed, rest)) :
    opened? kind? opening close? (opening ++ behind) =
      some ({ kind? := kind?, text := opening ++ closed }, rest) := by
  simp only [opened?, afterBeginning?_self, hclose]

theorem isLocal_opened? {close? : Split (List Char)} (hlocal : IsLocal close?)
    (kind? : Option TokenKind) (opening : List Char) :
    IsLocal (opened? kind? opening close?) where
  stops := by
    intro text kept dropped lexeme hsplit
    obtain ⟨behind, closed, rfl, hclose, rfl⟩ := opened?_eq_some hsplit
    obtain ⟨front, rfl, hfront⟩ := hlocal.stops hclose
    refine ⟨opening ++ front, (List.append_assoc _ _ _).symm, ?_⟩
    rw [List.append_assoc]
    exact opened?_of_close hfront
  fails := by
    intro text dropped hnone
    rw [Option.eq_none_iff_forall_ne_some]
    rintro ⟨lexeme, rest⟩ hsplit
    obtain ⟨behind, closed, rfl, hclose, rfl⟩ := opened?_eq_some hsplit
    rw [List.append_assoc] at hnone
    cases hlater : close? (behind ++ dropped) with
    | none =>
        rw [hlocal.fails hlater] at hclose
        contradiction
    | some split =>
        rw [opened?_of_close hlater] at hnone
        contradiction

/-- The first of several ways that applies is local if all of them are. -/
theorem IsLocal.findSome? {splits : List (Split α)} (hsplits : ∀ split ∈ splits, IsLocal split) :
    IsLocal fun text => splits.findSome? fun split => split text where
  stops := by
    intro text kept dropped value hfound
    obtain ⟨earlier, split, later, rfl, hsplit, hearlier⟩ := List.findSome?_eq_some_iff.1 hfound
    obtain ⟨front, rfl, hfront⟩ := (hsplits split (by simp)).stops hsplit
    refine ⟨front, rfl, List.findSome?_eq_some_iff.2 ⟨earlier, split, later, rfl, hfront, ?_⟩⟩
    -- An earlier way that fails on the whole text fails on the cut one, or it would go first.
    intro tried htried
    have hnone := hearlier tried htried
    rw [← List.append_assoc] at hnone
    exact (hsplits tried (by simp [htried])).fails hnone
  fails := by
    intro text dropped hnone
    rw [List.findSome?_eq_none_iff] at hnone ⊢
    exact fun split hmem => (hsplits split hmem).fails (hnone split hmem)

theorem isLocal_next? : IsLocal next? := by
  apply IsLocal.findSome?
  have hnothing : IsLocal fun rest : List Char => some (([] : List Char), rest) :=
    isLocal_of_exact fun hsplit => by
      cases hsplit
      exact ⟨[], rfl, fun _ => rfl⟩
  simp only [recognisers, List.forall_mem_append, List.forall_mem_cons, List.forall_mem_map,
    List.not_mem_nil, false_imp_iff, implies_true, and_true]
  exact ⟨⟨isLocal_run? _ _ _, isLocal_opened? isLocal_closeLine? _ _,
    isLocal_opened? closeComment?_isClosing.isLocal _ _, isLocal_run? _ _ _, isLocal_run? _ _ _,
    isLocal_opened? closeConstant?_isClosing.isLocal _ _,
    isLocal_opened? closeString?_isClosing.isLocal _ _⟩,
    fun kind _ => isLocal_opened? hnothing _ _⟩

end Locality

/-! ## Lexemes up to a place -/

/-- Lexemes that are taken from a text one after the other, and the text that is left then. -/
inductive Takes : List Char → List Lexeme → List Char → Prop
  | nil {text} : Takes text [] text
  | cons {text left rest lexeme lexemes} : next? text = some (lexeme, left) →
      Takes left lexemes rest → Takes text (lexeme :: lexemes) rest

/-- The lexemes that are taken up to a place are those of the text before it. -/
theorem Takes.cut {text rest : List Char} {lexemes : List Lexeme}
    (htakes : Takes text lexemes rest) :
    ∃ before, text = before ++ rest ∧ Sequence before lexemes := by
  induction htakes with
  | nil => exact ⟨[], rfl, .nil⟩
  | cons hnext _ ih =>
      obtain ⟨kept, rfl, hkept⟩ := ih
      obtain ⟨front, rfl, hfront⟩ := isLocal_next?.stops hnext
      exact ⟨front ++ kept, (List.append_assoc _ _ _).symm, .cons hfront hkept⟩

theorem not_takes_nil {lexemes : List Lexeme} {c : Char} {rest : List Char} :
    ¬ Takes [] lexemes (c :: rest) := by
  intro htakes
  obtain ⟨before, hsplits, -⟩ := htakes.cut
  simp at hsplits

end Lexeme

namespace Scanner

variable (scanner : Scanner) {text : List Char} {lexemes : List Lexeme}

/-- The failure of a scanner at a character that begins no lexeme. -/
def refusal (c : Char) : Failure :=
  { fault := .unrecognised (String.singleton c)
    position := scanner.source.positionAt scanner.offset }

theorem take_place (lexeme : Lexeme) :
    (scanner.take lexeme).source = scanner.source ∧
      (scanner.take lexeme).offset = scanner.offset + byteLength lexeme.text := by
  cases hkind : lexeme.kind? with
  | none =>
      rw [take_gap hkind]
      exact ⟨rfl, rfl⟩
  | some kind =>
      rw [take_token hkind]
      exact ⟨rfl, rfl⟩

/-- Taking the lexemes of a text moves past that text. -/
theorem foldl_take_place (hsequence : Lexeme.Sequence text lexemes) :
    (lexemes.foldl take scanner).source = scanner.source ∧
      (lexemes.foldl take scanner).offset = scanner.offset + byteLength text := by
  induction hsequence generalizing scanner with
  | nil => exact ⟨rfl, rfl⟩
  | @cons text rest lexeme lexemes hnext _ ih =>
      obtain ⟨-, rfl⟩ := Lexeme.next?_splits hnext
      obtain ⟨hsource, hoffset⟩ := take_place scanner lexeme
      obtain ⟨hsources, hoffsets⟩ := ih (scanner.take lexeme)
      rw [hsource] at hsources
      rw [hoffset, Nat.add_assoc, ← byteLength_append] at hoffsets
      exact ⟨hsources, hoffsets⟩

/-- A run with budget enough fails just if it reaches a character that begins no lexeme. -/
theorem run_eq_error_iff {budget : Nat} {failure : Failure} (hbudget : text.length ≤ budget) :
    scanner.run budget text = .error failure ↔
      ∃ lexemes c rest, Lexeme.Takes text lexemes (c :: rest) ∧
        Lexeme.next? (c :: rest) = none ∧ failure = (lexemes.foldl take scanner).refusal c := by
  induction budget generalizing scanner text with
  | zero =>
      obtain rfl : text = [] := List.length_eq_zero_iff.1 (Nat.le_zero.1 hbudget)
      simp [run_nil, Lexeme.not_takes_nil]
  | succ budget ih =>
      cases text with
      | nil => simp [run_nil, Lexeme.not_takes_nil]
      | cons c rest =>
          rw [run_cons]
          cases hnext : Lexeme.next? (c :: rest) with
          | none =>
              simp only [Except.error.injEq]
              constructor
              · rintro rfl
                exact ⟨[], c, rest, .nil, hnext, rfl⟩
              · rintro ⟨lexemes, d, following, htakes, -, rfl⟩
                cases htakes with
                | nil => rfl
                | cons hlexeme => simp [hnext] at hlexeme
          | some split =>
              obtain ⟨lexeme, left⟩ := split
              have hshorter := Lexeme.length_lt_of_next? hnext
              simp only
              rw [ih _ (by simp at hbudget hshorter; omega)]
              constructor
              · rintro ⟨lexemes, d, following, htakes, hnone, hfailure⟩
                exact ⟨lexeme :: lexemes, d, following, .cons hnext htakes, hnone, hfailure⟩
              · rintro ⟨lexemes, d, following, htakes, hnone, hfailure⟩
                cases htakes with
                | nil =>
                    rw [hnone] at hnext
                    contradiction
                | cons hlexeme hlater =>
                    rw [hnext] at hlexeme
                    cases hlexeme
                    exact ⟨_, d, following, hlater, hnone, hfailure⟩

end Scanner

theorem tokenize_eq_error_iff {text file : String} {failure : Failure} :
    tokenize text file = .error failure ↔
      ∃ lexemes c rest, Lexeme.Takes text.toList lexemes (c :: rest) ∧ Stray c rest ∧
        failure =
          (lexemes.foldl Scanner.take { source := .ofText text file }).refusal c := by
  have hrun : Scanner.run text.toList.length { source := .ofText text file } text.toList =
      .error failure ↔ _ := Scanner.run_eq_error_iff _ (Nat.le_refl _)
  simp only [Lexeme.next?_eq_none_iff] at hrun
  rw [← hrun, tokenize]
  cases Scanner.run text.toList.length { source := .ofText text file } text.toList <;> simp

/-- How scanning a text fails: it takes lexemes up to a stray character, and the failure is about
this character and at its offset.  The text before it is scanned. -/
structure StopsAt (text file : String) (before : List Char) (c : Char) (rest : List Char)
    (failure : Failure) : Prop where
  splits : text.toList = before ++ c :: rest
  reached : ∃ lexemes, Lexeme.Takes text.toList lexemes (c :: rest)
  stray : Stray c rest
  about : failure =
    { fault := .unrecognised (String.singleton c), position := .behind file before }
  offset : failure.position.offset = byteLength before
  before : ∃ tokens, tokenize (String.ofList before) file = .ok tokens

theorem stopsAt_of_takes {text : String} (file : String)
    (hsize : byteLength text.toList < 2 ^ 32) {lexemes : List Lexeme} {c : Char} {rest : List Char}
    (htakes : Lexeme.Takes text.toList lexemes (c :: rest)) (hstray : Stray c rest) :
    ∃ before, StopsAt text file before c rest
      ((lexemes.foldl Scanner.take { source := .ofText text file }).refusal c) := by
  obtain ⟨before, hsplits, hbefore⟩ := htakes.cut
  obtain ⟨hsource, hoffset⟩ :=
    Scanner.foldl_take_place { source := .ofText text file } hbefore
  have hposition : (Source.ofText text file).positionAt (byteLength before) =
      .behind file before := Source.positionAt_behind hsplits
  have hrefusal : (lexemes.foldl Scanner.take { source := .ofText text file }).refusal c =
      { fault := .unrecognised (String.singleton c), position := .behind file before } := by
    rw [Scanner.refusal, hsource, hoffset, Nat.zero_add, hposition]
  refine ⟨before, hsplits, ⟨lexemes, htakes⟩, hstray, hrefusal, ?_, ?_⟩
  · rw [hrefusal]
    exact Position.offset_behind hsize hsplits
  · rw [← String.toList_ofList (l := before)] at hbefore
    exact ⟨_, tokenize_eq_ok_iff.2 ⟨lexemes, hbefore, rfl⟩⟩

/-- Scanning fails just if it reaches a stray character, and then about that one. -/
theorem tokenize_fails_exactly {text file : String} (hsize : byteLength text.toList < 2 ^ 32) :
    (∀ failure, tokenize text file = .error failure →
      ∃ before c rest, StopsAt text file before c rest failure) ∧
    ∀ lexemes c rest, Lexeme.Takes text.toList lexemes (c :: rest) → Stray c rest →
      ∃ before failure, tokenize text file = .error failure ∧
        StopsAt text file before c rest failure := by
  constructor
  · intro failure hfailure
    obtain ⟨lexemes, c, rest, htakes, hstray, rfl⟩ := tokenize_eq_error_iff.1 hfailure
    obtain ⟨before, hstops⟩ := stopsAt_of_takes file hsize htakes hstray
    exact ⟨before, c, rest, hstops⟩
  · intro lexemes c rest htakes hstray
    obtain ⟨before, hstops⟩ := stopsAt_of_takes file hsize htakes hstray
    exact ⟨before, _, tokenize_eq_error_iff.2 ⟨lexemes, c, rest, htakes, hstray, rfl⟩, hstops⟩

/-- A text with stray characters in a comment and a string, one quote that is closed and one that
is closed too late. -/
def strayQuoteText : String := "a /* | */ || \"é $\" '\\'' 'ab' $"

theorem strayQuoteText_fails :
    byteLength strayQuoteText.toList < 2 ^ 32 ∧
      ∃ failure before c rest, tokenize strayQuoteText "f.c" = .error failure ∧
        failure.fault = .unrecognised "'" ∧ failure.position.offset = 25 ∧
        StopsAt strayQuoteText "f.c" before c rest failure := by
  have hsize : byteLength strayQuoteText.toList < 2 ^ 32 := by
    decide +kernel
  have hfails : (match tokenize strayQuoteText "f.c" with
      | .ok _ => false
      | .error failure =>
          decide (failure.fault = .unrecognised "'" ∧ failure.position.offset = 25)) = true := by
    decide +kernel
  cases htokens : tokenize strayQuoteText "f.c" with
  | ok tokens => simp [htokens] at hfails
  | error failure =>
      simp only [htokens, decide_eq_true_eq] at hfails
      obtain ⟨before, c, rest, hstops⟩ := (tokenize_fails_exactly hsize).1 failure htokens
      exact ⟨hsize, failure, before, c, rest, rfl, hfails.1, hfails.2, hstops⟩


end SubsetC
