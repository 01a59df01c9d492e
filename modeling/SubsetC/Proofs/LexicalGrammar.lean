import Mathlib.Data.List.TakeWhile
import SubsetC.Token.Lexeme

/-!
# The lexical grammar

Scanning tries the kinds of lexemes in an order.  Here each kind is described by
its text alone: what may stand between the quotes of a constant or a string,
the forms of tokens, and the pieces of the gaps between them.  A lexeme that
scanning takes has its form (`Lexeme.next?_form`, `Lexeme.next?_isGap`), and a
text of that form is taken whole where a gap or the end follows it
(`Lexeme.next?_of_form`), although the order and the text ahead may decide
otherwise elsewhere.
-/

namespace SubsetC

open Text

/-- What stands between the quotes of a character constant. -/
inductive CharacterBody : List Char → Prop
  | plain {c} : c ≠ '\'' → c ≠ '\\' → CharacterBody [c]
  | escape {c} : c ≠ '\n' → CharacterBody ['\\', c]
  | oneDigit {digit} : isHexDigit digit = true → CharacterBody ['\\', 'x', digit]
  | twoDigits {high low} : isHexDigit high = true → isHexDigit low = true →
      CharacterBody ['\\', 'x', high, low]

/-- What stands between the quotes of a string. -/
inductive StringBody : List Char → Prop
  | nil : StringBody []
  | plain {c body} : c ≠ '"' → c ≠ '\\' → c ≠ '\n' → StringBody body → StringBody (c :: body)
  | escape {c body} : c ≠ '\n' → StringBody body → StringBody ('\\' :: c :: body)

/-- A piece of a gap and the text that follows it: white space, a line comment that goes on to
the end of its line, or a block comment that goes on to its first closing mark. -/
inductive Trivia : List Char → List Char → Prop
  | blank {c following} : isBlank c = true → Trivia [c] following
  | line {body following} : '\n' ∉ body → (following = [] ∨ ∃ rest, following = '\n' :: rest) →
      Trivia ('/' :: '/' :: body) following
  | block {body following} : ¬ ['*', '/'] <:+: body ++ ['*'] →
      Trivia ('/' :: '*' :: (body ++ ['*', '/'])) following

/-- A gap and the text that follows it. -/
inductive IsGap : List Char → List Char → Prop
  | nil {following} : IsGap [] following
  | cons {piece gap following} : Trivia piece (gap ++ following) → IsGap gap following →
      IsGap (piece ++ gap) following

theorem IsGap.single {piece following : List Char} (hpiece : Trivia piece following) :
    IsGap piece following := by
  have hgap : IsGap (piece ++ []) following := .cons hpiece .nil
  rwa [List.append_nil] at hgap

theorem isGap_of_blank {gap : List Char} (following : List Char)
    (hblank : ∀ c ∈ gap, isBlank c = true) : IsGap gap following := by
  induction gap with
  | nil => exact .nil
  | cons c rest ih =>
      obtain ⟨hc, hrest⟩ := List.forall_mem_cons.1 hblank
      exact .cons (.blank hc) (ih hrest)

namespace Lexeme

/-- The kind of a token and the text that it is written as. -/
inductive Form : TokenKind → List Char → Prop
  | word {c others} : isWordStart c = true → (∀ d ∈ others, isWordPart d = true) →
      Form (wordKind (c :: others)) (c :: others)
  | number {c others} : c.isDigit = true → (∀ d ∈ others, d.isDigit = true) →
      Form .constant (c :: others)
  | character {body} : CharacterBody body → Form .constant ('\'' :: (body ++ ['\'']))
  | string {body} : StringBody body → Form .string ('"' :: (body ++ ['"']))
  | mark {kind} : kind ∈ punctuation → Form kind kind.lexeme.toList

/-! ## Closing marks -/

section Closing

variable {text closed rest : List Char}

theorem closeConstant?_body (hclose : closeConstant? text = some (closed, rest)) :
    ∃ body, CharacterBody body ∧ closed = body ++ ['\''] := by
  revert hclose
  fun_cases closeConstant? text with
  | case1 => simp
  | case2 c tail hline =>
      intro hclose
      cases hclose
      exact ⟨['\\', c], .escape hline, rfl⟩
  | case3 digit tail hquote hdigit =>
      intro hclose
      cases hclose
      exact ⟨['\\', 'x', digit], .oneDigit hdigit, rfl⟩
  | case4 => simp
  | case5 high low tail hhigh hlow hdigits =>
      intro hclose
      cases hclose
      obtain ⟨hhigh, hlow⟩ := (Bool.and_eq_true _ _).mp hdigits
      exact ⟨['\\', 'x', high, low], .twoDigits hhigh hlow, rfl⟩
  | case6 => simp
  | case7 => simp
  | case8 c tail _ hplain =>
      intro hclose
      cases hclose
      simp only [Bool.or_eq_true, decide_eq_true_eq, not_or] at hplain
      exact ⟨[c], .plain hplain.1 hplain.2, rfl⟩
  | case9 => simp

theorem isHexDigit_ne_quote {digit : Char} (hdigit : isHexDigit digit = true) :
    digit ≠ '\'' := by
  rintro rfl
  contradiction

theorem closeConstant?_of_body {body : List Char} (hbody : CharacterBody body) :
    closeConstant? (body ++ '\'' :: rest) = some (body ++ ['\''], rest) := by
  cases hbody with
  | plain hquote hslash => simp [closeConstant?, hquote, hslash]
  | escape hline => simp [closeConstant?, hline]
  | oneDigit hdigit => simp [closeConstant?, hdigit, isHexDigit_ne_quote hdigit]
  | twoDigits hhigh hlow =>
      -- A digit is no quote, so neither of the shorter escapes applies.
      simp [closeConstant?, hhigh, hlow, isHexDigit_ne_quote hhigh, isHexDigit_ne_quote hlow]

theorem closeString?_body (hclose : closeString? text = some (closed, rest)) :
    ∃ body, StringBody body ∧ closed = body ++ ['"'] := by
  fun_induction closeString? text generalizing closed rest with
  | case1 => contradiction
  | case2 tail =>
      cases hclose
      exact ⟨[], .nil, rfl⟩
  | case3 => contradiction
  | case4 c tail hline ih =>
      obtain ⟨⟨inner, left⟩, hinner, hsplit⟩ := Option.map_eq_some_iff.1 hclose
      cases hsplit
      obtain ⟨body, hbody, rfl⟩ := ih hinner
      exact ⟨'\\' :: c :: body, .escape hline hbody, rfl⟩
  | case5 => contradiction
  | case6 c tail hquote _ hplain ih =>
      obtain ⟨⟨inner, left⟩, hinner, hsplit⟩ := Option.map_eq_some_iff.1 hclose
      cases hsplit
      obtain ⟨body, hbody, rfl⟩ := ih hinner
      simp only [Bool.or_eq_true, decide_eq_true_eq, not_or] at hplain
      exact ⟨c :: body, .plain hquote hplain.1 hplain.2 hbody, rfl⟩

theorem closeString?_of_body {body : List Char} (hbody : StringBody body) :
    closeString? (body ++ '"' :: rest) = some (body ++ ['"'], rest) := by
  induction hbody with
  | nil => rfl
  | plain hquote hslash hline _ ih => simp [closeString?, hslash, hline, ih]
  | escape hline _ ih => simp [closeString?, hline, ih]

theorem closeComment?_body (hclose : closeComment? text = some (closed, rest)) :
    ∃ body, ¬ ['*', '/'] <:+: body ++ ['*'] ∧ closed = body ++ ['*', '/'] := by
  fun_induction closeComment? text generalizing closed rest with
  | case1 => contradiction
  | case2 tail =>
      cases hclose
      exact ⟨[], by decide, rfl⟩
  | case3 c tail hopen ih =>
      obtain ⟨⟨inner, left⟩, hinner, hsplit⟩ := Option.map_eq_some_iff.1 hclose
      cases hsplit
      obtain ⟨body, hbody, rfl⟩ := ih hinner
      have htail := closeComment?_append hinner
      refine ⟨c :: body, ?_, rfl⟩
      -- A mark that began with `c` would have closed the comment there.
      intro hmark
      rcases List.infix_cons_iff.1 hmark with hhere | hlater
      · obtain ⟨rfl, hslash⟩ := List.cons_prefix_cons.1 hhere
        cases body with
        | nil => simp at hslash
        | cons d others =>
            obtain ⟨rfl, -⟩ := List.cons_prefix_cons.1 hslash
            exact hopen _ rfl htail.symm
      · exact hbody hlater

end Closing

/-! ## From lexemes to their forms -/

section Forms

variable {text rest : List Char} {lexeme : Lexeme} {kind : TokenKind}

theorem opened?_eq_some {kind? : Option TokenKind} {opening : List Char}
    {close? : Split (List Char)}
    (hsplit : opened? kind? opening close? text = some (lexeme, rest)) :
    ∃ behind closed, text = opening ++ behind ∧ close? behind = some (closed, rest) ∧
      lexeme = { kind? := kind?, text := opening ++ closed } := by
  unfold opened? at hsplit
  split at hsplit
  · contradiction
  · rename_i behind hopens
    split at hsplit
    · contradiction
    · rename_i closed left hclose
      cases hsplit
      exact ⟨behind, closed, (afterBeginning?_append hopens).symm, hclose, rfl⟩

theorem run?_eq_some {kind? : List Char → Option TokenKind} {opens continues : Char → Bool}
    (hsplit : run? kind? opens continues text = some (lexeme, rest)) :
    ∃ c others, opens c = true ∧ (∀ d ∈ others, continues d = true) ∧
      lexeme = { kind? := kind? (c :: others), text := c :: others } := by
  unfold run? at hsplit
  split at hsplit
  · contradiction
  · split at hsplit
    · rename_i c tail hopens
      cases hsplit
      exact ⟨c, tail.takeWhile continues, hopens, fun d => List.mem_takeWhile_imp, rfl⟩
    · contradiction

/-- A lexeme has the form of its kind; one of no kind is a gap. -/
def HasForm (lexeme : Lexeme) (following : List Char) : Prop :=
  match lexeme.kind? with
  | some kind => Form kind lexeme.text
  | none => IsGap lexeme.text following

theorem closeLine?_trivia {behind closed : List Char}
    (hclose : closeLine? behind = some (closed, rest)) : Trivia ('/' :: '/' :: closed) rest := by
  simp only [closeLine?, Option.some.injEq, Prod.mk.injEq] at hclose
  obtain ⟨rfl, rfl⟩ := hclose
  apply Trivia.line
  · intro hmem
    simpa using List.mem_takeWhile_imp hmem
  · cases hrest : behind.dropWhile (· ≠ '\n') with
    | nil => exact .inl rfl
    | cons c others =>
        have hc := List.head?_dropWhile_not (· ≠ '\n') behind
        rw [hrest] at hc
        simp at hc
        exact .inr ⟨others, by rw [hc]⟩

theorem recognisers_form {recognise : Split Lexeme} (hmem : recognise ∈ recognisers)
    (hsplit : recognise text = some (lexeme, rest)) : lexeme.HasForm rest := by
  simp only [recognisers, List.mem_append, List.mem_cons, List.mem_map, List.not_mem_nil,
    or_false] at hmem
  rcases hmem with (rfl | rfl | rfl | rfl | rfl | rfl | rfl) | ⟨kind, hkind, rfl⟩
  · obtain ⟨c, others, hc, hothers, rfl⟩ := run?_eq_some hsplit
    exact isGap_of_blank rest (List.forall_mem_cons.2 ⟨hc, hothers⟩)
  · obtain ⟨behind, closed, -, hclose, rfl⟩ := opened?_eq_some hsplit
    exact .single (closeLine?_trivia hclose)
  · obtain ⟨behind, closed, -, hclose, rfl⟩ := opened?_eq_some hsplit
    obtain ⟨body, hbody, rfl⟩ := closeComment?_body hclose
    exact .single (.block hbody)
  · obtain ⟨c, others, hc, hothers, rfl⟩ := run?_eq_some hsplit
    exact Form.word hc hothers
  · obtain ⟨c, others, hc, hothers, rfl⟩ := run?_eq_some hsplit
    exact Form.number hc hothers
  · obtain ⟨behind, closed, -, hclose, rfl⟩ := opened?_eq_some hsplit
    obtain ⟨body, hbody, rfl⟩ := closeConstant?_body hclose
    exact Form.character hbody
  · obtain ⟨behind, closed, -, hclose, rfl⟩ := opened?_eq_some hsplit
    obtain ⟨body, hbody, rfl⟩ := closeString?_body hclose
    exact Form.string hbody
  · obtain ⟨behind, closed, -, hclose, rfl⟩ := opened?_eq_some hsplit
    cases hclose
    rw [List.append_nil]
    exact Form.mark hkind

theorem next?_form (hnext : next? text = some (lexeme, rest)) : lexeme.HasForm rest := by
  obtain ⟨recognise, hmem, hsplit⟩ := List.exists_of_findSome?_eq_some hnext
  exact recognisers_form hmem hsplit

end Forms

theorem wordKind_mem (word : List Char) : wordKind word ∈ .identifier :: TokenKind.reserved := by
  unfold wordKind
  cases hreserved : TokenKind.ofReserved? (String.ofList word) with
  | none => exact List.mem_cons_self
  | some kind => exact List.mem_cons_of_mem _ (List.mem_of_find?_eq_some hreserved)

/-- Of the kinds of tokens only words may be identifiers, and only quoted texts are strings. -/
theorem Form.spec {slice : List Char} {kind : TokenKind} (hform : Form kind slice) :
    kind ≠ .eof ∧
      (kind = .identifier → ∃ c others, slice = c :: others ∧ isWordStart c = true) ∧
      (kind = .string → ∃ body, StringBody body ∧ slice = '"' :: (body ++ ['"'])) := by
  have hreserved : ∀ kind ∈ .identifier :: TokenKind.reserved, kind ≠ .eof ∧ kind ≠ .string := by
    decide
  have hpunctuation : ∀ kind ∈ punctuation,
      kind ≠ .eof ∧ kind ≠ .identifier ∧ kind ≠ .string := by decide
  cases hform with
  | word hc hothers =>
      obtain ⟨heof, hstring⟩ := hreserved _ (wordKind_mem _)
      exact ⟨heof, fun _ => ⟨_, _, rfl, hc⟩, fun hkind => absurd hkind hstring⟩
  | number => simp
  | character => simp
  | string hbody => exact ⟨by decide, by simp, fun _ => ⟨_, hbody, rfl⟩⟩
  | mark hmem =>
      obtain ⟨heof, hname, hstring⟩ := hpunctuation _ hmem
      exact ⟨heof, fun hkind => absurd hkind hname, fun hkind => absurd hkind hstring⟩

/-! ## From forms to lexemes -/

/-- What ends a lexeme before it: nothing at all, or white space. -/
def Breaks (following : List Char) : Prop :=
  ∀ c, following.head? = some c → isBlank c = true

section Breaks

variable {following slice : List Char}

/-- A run ends where the text goes on with another character, or not at all. -/
theorem run_ends {continues : Char → Bool} (hslice : ∀ c ∈ slice, continues c = true)
    (hstop : ∀ c, following.head? = some c → continues c = false) :
    (slice ++ following).takeWhile continues = slice ∧
      (slice ++ following).dropWhile continues = following := by
  rw [List.takeWhile_append_of_pos hslice, List.dropWhile_append_of_pos hslice]
  cases following with
  | nil => simp
  | cons c rest =>
      have hc : ¬ continues c = true := by
        rw [hstop c rfl]
        decide
      rw [List.takeWhile_cons_of_neg hc, List.dropWhile_cons_of_neg hc, List.append_nil]
      exact ⟨rfl, rfl⟩

/-- Whether a text begins with an opening that holds no white space is decided before a break. -/
theorem afterBeginning?_of_breaks {opening : List Char} (hbreaks : Breaks following)
    (hopening : ∀ c ∈ opening, isBlank c = false) :
    afterBeginning? opening (slice ++ following) =
      (afterBeginning? opening slice).map (· ++ following) := by
  induction opening generalizing slice with
  | nil => rfl
  | cons expected others ih =>
      obtain ⟨hexpected, hothers⟩ := List.forall_mem_cons.1 hopening
      cases slice with
      | nil =>
          cases following with
          | nil => rfl
          | cons c rest =>
              have hc : c ≠ expected := by
                rintro rfl
                rw [hbreaks c rfl] at hexpected
                contradiction
              simp [afterBeginning?, hc]
      | cons c rest =>
          by_cases hc : c = expected
          · simp [afterBeginning?, hc, ih hothers]
          · simp [afterBeginning?, hc]

end Breaks

theorem run?_of_opens (kind? : List Char → Option TokenKind) {opens continues : Char → Bool}
    {c : Char} {others following : List Char} (hc : opens c = true)
    (hothers : (others ++ following).takeWhile continues = others ∧
      (others ++ following).dropWhile continues = following) :
    run? kind? opens continues (c :: others ++ following) =
      some ({ kind? := kind? (c :: others), text := c :: others }, following) := by
  rw [List.cons_append, run?, if_pos hc, hothers.1, hothers.2]

theorem run?_of_not_opens {kind? : List Char → Option TokenKind} {opens continues : Char → Bool}
    {c : Char} {rest : List Char} (hc : opens c = false) :
    run? kind? opens continues (c :: rest) = none := by
  rw [run?, if_neg (by simp [hc])]

theorem opened?_of_none {kind? : Option TokenKind} {opening text : List Char}
    {close? : Split (List Char)} (htext : afterBeginning? opening text = none) :
    opened? kind? opening close? text = none := by
  rw [opened?, htext]

theorem opened?_of_ne {kind? : Option TokenKind} {expected c : Char} {others rest : List Char}
    {close? : Split (List Char)} (hc : c ≠ expected) :
    opened? kind? (expected :: others) close? (c :: rest) = none := by
  exact opened?_of_none (by rw [afterBeginning?, if_neg hc])

/-! ### Classes of characters -/

section Classes

variable {c : Char}

theorem toNat_of_isBlank (hc : isBlank c = true) : c.toNat ≤ 32 ∨ 133 ≤ c.toNat := by
  simp only [isBlank, Bool.or_eq_true, Bool.and_eq_true, decide_eq_true_eq, beq_iff_eq] at hc
  omega

theorem toNat_of_range {low high : UInt32}
    (hc : (decide (c.val ≥ low) && decide (c.val ≤ high)) = true) :
    low.toNat ≤ c.toNat ∧ c.toNat ≤ high.toNat := by
  simp only [Bool.and_eq_true, decide_eq_true_eq, ge_iff_le, UInt32.le_iff_toNat_le] at hc
  exact hc

theorem toNat_of_isDigit (hc : c.isDigit = true) : 48 ≤ c.toNat ∧ c.toNat ≤ 57 :=
  toNat_of_range hc

theorem toNat_of_isWordStart (hc : isWordStart c = true) : 65 ≤ c.toNat ∧ c.toNat ≤ 122 := by
  simp only [isWordStart, Bool.or_eq_true] at hc
  rcases hc with halpha | hunderscore
  · rcases Bool.or_eq_true_iff.1 halpha with hupper | hlower
    · have hrange := (Bool.decide_and _ _).symm.trans hupper
      have hbounds : 65 ≤ c.toNat ∧ c.toNat ≤ 90 := toNat_of_range hrange
      omega
    · have hbounds : 97 ≤ c.toNat ∧ c.toNat ≤ 122 := toNat_of_range hlower
      omega
  · obtain rfl : c = '_' := by simpa using hunderscore
    decide

theorem toNat_of_isWordPart (hc : isWordPart c = true) : 48 ≤ c.toNat ∧ c.toNat ≤ 122 := by
  have hstart : isWordStart c = true ∨ c.isDigit = true := by
    simp only [isWordPart, isWordStart, Char.isAlphanum, Bool.or_eq_true] at hc ⊢
    rwa [or_right_comm]
  rcases hstart with hstart | hdigit
  · have hbounds := toNat_of_isWordStart hstart
    omega
  · have hbounds := toNat_of_isDigit hdigit
    omega

theorem isWordPart_of_isBlank (hc : isBlank c = true) : isWordPart c = false := by
  rw [Bool.eq_false_iff]
  intro hpart
  have hblank := toNat_of_isBlank hc
  have hbounds := toNat_of_isWordPart hpart
  omega

theorem isDigit_of_isBlank (hc : isBlank c = true) : c.isDigit = false := by
  rw [Bool.eq_false_iff]
  intro hdigit
  have hblank := toNat_of_isBlank hc
  have hbounds := toNat_of_isDigit hdigit
  omega

theorem isBlank_of_isWordStart (hc : isWordStart c = true) : isBlank c = false := by
  rw [Bool.eq_false_iff]
  intro hblank
  have hblank := toNat_of_isBlank hblank
  have hbounds := toNat_of_isWordStart hc
  omega

theorem isBlank_of_isDigit (hc : c.isDigit = true) : isBlank c = false := by
  rw [Bool.eq_false_iff]
  intro hblank
  rw [isDigit_of_isBlank hblank] at hc
  contradiction

theorem isWordStart_of_isDigit (hc : c.isDigit = true) : isWordStart c = false := by
  rw [Bool.eq_false_iff]
  intro hstart
  have hdigit := toNat_of_isDigit hc
  have hbounds := toNat_of_isWordStart hstart
  omega

theorem ne_slash_of_isWordStart (hc : isWordStart c = true) : c ≠ '/' := by
  rintro rfl
  contradiction

theorem ne_slash_of_isDigit (hc : c.isDigit = true) : c ≠ '/' := by
  rintro rfl
  contradiction

end Classes

/-! ### Punctuation -/

theorem solid_of_all {text : List Char} (hall : text.all (!isBlank ·) = true) :
    ∀ c ∈ text, isBlank c = false := by
  simpa using hall

theorem punctuation?_of_breaks {kind : TokenKind} {slice following : List Char}
    (hbreaks : Breaks following) (hmem : kind ∈ punctuation) :
    punctuation? kind (slice ++ following) =
      (afterBeginning? kind.lexeme.toList slice).map fun rest =>
        ({ kind? := some kind, text := kind.lexeme.toList }, rest ++ following) := by
  have hsolid : ∀ kind ∈ punctuation, kind.lexeme.toList.all (!isBlank ·) = true := by decide
  unfold punctuation? opened?
  rw [afterBeginning?_of_breaks hbreaks (solid_of_all (hsolid kind hmem))]
  cases afterBeginning? kind.lexeme.toList slice with
  | none => rfl
  | some rest => simp

/-- No punctuation begins like a lexeme that is tried before all of it. -/
theorem lexeme_of_mem_punctuation {kind : TokenKind} (hmem : kind ∈ punctuation) :
    ∃ c rest, kind.lexeme.toList = c :: rest ∧ isBlank c = false ∧ isWordStart c = false ∧
      c.isDigit = false ∧ c ≠ '\'' ∧ c ≠ '"' := by
  have hfirst : ∀ kind ∈ punctuation, (kind.lexeme.toList.head?.any fun c =>
      !isBlank c && !isWordStart c && !c.isDigit && c != '\'' && c != '"') = true := by decide
  obtain ⟨c, hc, hclass⟩ := (Option.any_eq_true _ _).1 (hfirst kind hmem)
  obtain ⟨rest, hlexeme⟩ := List.head?_eq_some_iff.1 hc
  simp only [Bool.and_eq_true, Bool.not_eq_true', bne_iff_ne, and_assoc] at hclass
  exact ⟨c, rest, hlexeme, hclass⟩

/-- Punctuation before a break opens no comment. -/
theorem afterBeginning?_of_mem_punctuation {kind : TokenKind} {opening following : List Char}
    (hbreaks : Breaks following) (hmem : kind ∈ punctuation)
    (hopening : opening ∈ [['/', '/'], ['/', '*']]) :
    afterBeginning? opening (kind.lexeme.toList ++ following) = none := by
  have hsolid : ∀ opening ∈ [['/', '/'], ['/', '*']], opening.all (!isBlank ·) = true := by
    decide
  have hcomment : ∀ kind ∈ punctuation, ∀ opening ∈ [['/', '/'], ['/', '*']],
      afterBeginning? opening kind.lexeme.toList = none := by decide
  rw [afterBeginning?_of_breaks hbreaks (solid_of_all (hsolid opening hopening)),
    hcomment kind hmem _ hopening, Option.map_none]

/-- Before a break, no earlier punctuation begins the text of another. -/
theorem findSome?_punctuation {kind : TokenKind} {following : List Char}
    (hbreaks : Breaks following) (hmem : kind ∈ punctuation) :
    (punctuation.map punctuation?).findSome?
        (fun recognise => recognise (kind.lexeme.toList ++ following)) =
      some ({ kind? := some kind, text := kind.lexeme.toList }, following) := by
  have hfirst : ∀ kind ∈ punctuation, (punctuation.findSome? fun other =>
      (afterBeginning? other.lexeme.toList kind.lexeme.toList).map fun rest => (other, rest)) =
        some (kind, []) := by decide
  obtain ⟨earlier, other, later, hsplit, hother, hearlier⟩ :=
    List.findSome?_eq_some_iff.1 (hfirst kind hmem)
  obtain ⟨rest, hrest, hpair⟩ := Option.map_eq_some_iff.1 hother
  cases hpair
  rw [List.findSome?_map, List.findSome?_eq_some_iff]
  refine ⟨earlier, kind, later, hsplit, ?_, ?_⟩
  · rw [Function.comp_apply, punctuation?_of_breaks hbreaks hmem, hrest]
    rfl
  · intro tried htried
    have htriedMem : tried ∈ punctuation := by
      rw [hsplit]
      exact List.mem_append_left _ htried
    rw [Function.comp_apply, punctuation?_of_breaks hbreaks htriedMem,
      Option.map_eq_none_iff.1 (hearlier tried htried)]
    rfl

/-- A text in the form of a token is taken whole where white space or the end follows it. -/
theorem next?_of_form {kind : TokenKind} {slice following : List Char} (hform : Form kind slice)
    (hbreaks : Breaks following) :
    next? (slice ++ following) =
      some ({ kind? := some kind, text := slice }, following) := by
  unfold next? recognisers
  cases hform with
  | word hc hothers =>
      have hsplit := run_ends hothers fun c hc => isWordPart_of_isBlank (hbreaks c hc)
      have hword := run?_of_opens (fun word => some (wordKind word)) hc hsplit
      rw [List.cons_append] at hword ⊢
      simp only [List.cons_append, List.findSome?_cons, hword,
        run?_of_not_opens (isBlank_of_isWordStart hc), opened?_of_ne (ne_slash_of_isWordStart hc)]
  | number hc hothers =>
      have hsplit := run_ends hothers fun c hc => isDigit_of_isBlank (hbreaks c hc)
      have hnumber := run?_of_opens (fun _ => some .constant) hc hsplit
      rw [List.cons_append] at hnumber ⊢
      simp only [List.cons_append, List.findSome?_cons, hnumber,
        run?_of_not_opens (isBlank_of_isDigit hc), run?_of_not_opens (isWordStart_of_isDigit hc),
        opened?_of_ne (ne_slash_of_isDigit hc)]
  | character hbody =>
      simp [run?, opened?, afterBeginning?, closeConstant?_of_body hbody,
        show isBlank '\'' = false by decide, show isWordStart '\'' = false by decide]
  | string hbody =>
      simp [run?, opened?, afterBeginning?, closeString?_of_body hbody,
        show isBlank '"' = false by decide, show isWordStart '"' = false by decide]
  | mark hmem =>
      have hline : afterBeginning? ['/', '/'] (kind.lexeme.toList ++ following) = none :=
        afterBeginning?_of_mem_punctuation hbreaks hmem (by decide)
      have hblock : afterBeginning? ['/', '*'] (kind.lexeme.toList ++ following) = none :=
        afterBeginning?_of_mem_punctuation hbreaks hmem (by decide)
      have hfound := findSome?_punctuation hbreaks hmem
      obtain ⟨c, rest, hlexeme, hblank, hstart, hdigit, hquote, hquotes⟩ :=
        lexeme_of_mem_punctuation hmem
      rw [List.findSome?_append, hfound, Option.or_eq_some_iff]
      refine .inr ⟨?_, rfl⟩
      rw [hlexeme, List.cons_append] at hline hblock ⊢
      simp only [List.findSome?_cons, List.findSome?_nil, run?_of_not_opens hblank,
        opened?_of_none hline, opened?_of_none hblock, run?_of_not_opens hstart,
        run?_of_not_opens hdigit, opened?_of_ne hquote, opened?_of_ne hquotes]

/-- White space is one lexeme, up to a character that is none. -/
theorem next?_of_blank {gap following : List Char} (hne : gap ≠ [])
    (hblank : ∀ c ∈ gap, isBlank c = true)
    (hstop : ∀ c, following.head? = some c → isBlank c = false) :
    next? (gap ++ following) = some ({ kind? := none, text := gap }, following) := by
  obtain ⟨first, others, rfl⟩ := List.exists_cons_of_ne_nil hne
  obtain ⟨hfirst, hothers⟩ := List.forall_mem_cons.1 hblank
  have hrun := run?_of_opens (fun _ => none) hfirst (run_ends hothers hstop)
  unfold next? recognisers
  simp only [List.cons_append, List.findSome?_cons] at hrun ⊢
  rw [hrun]

end Lexeme

end SubsetC
