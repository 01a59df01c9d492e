import SubsetC.Text.Blank
import SubsetC.Text.Escape
import SubsetC.Token.Kind

/-!
# Lexemes

A lexeme is the stretch of text that scanning takes next: a token, or a gap of
white space or a comment.  The kinds of lexemes are tried in a fixed order, and
the first that begins the text is split off.  The stretch is never empty, and
with the rest it makes up the text again (`Lexeme.next?_splits`).
-/

namespace SubsetC

open Text

def isWordStart (c : Char) : Bool := c.isAlpha || c = '_'

def isWordPart (c : Char) : Bool := c.isAlphanum || c = '_'

/-- A lexeme's text, and the kind of token it is unless it is a gap. -/
structure Lexeme where
  kind? : Option TokenKind
  text : List Char
deriving DecidableEq, Repr

namespace Lexeme

/-- A way to split a text in two that may not apply. -/
abbrev Split (α : Type) := List Char → Option (α × List Char)

/-- The rest of a block comment up to its first closing mark. -/
def closeComment? : Split (List Char)
  | [] => none
  | '*' :: '/' :: rest => some (['*', '/'], rest)
  | c :: rest => (closeComment? rest).map fun (text, rest) => (c :: text, rest)

/-- The rest of a character constant after its opening quote: one character, or
a backslash with one character or with one or two hexadecimal digits. -/
def closeConstant? : Split (List Char)
  | '\\' :: c :: '\'' :: rest =>
      if c = '\n' then none else some (['\\', c, '\''], rest)
  | '\\' :: 'x' :: digit :: '\'' :: rest =>
      if isHexDigit digit then some (['\\', 'x', digit, '\''], rest) else none
  | '\\' :: 'x' :: high :: low :: '\'' :: rest =>
      if isHexDigit high && isHexDigit low then some (['\\', 'x', high, low, '\''], rest)
      else none
  | c :: '\'' :: rest =>
      if c = '\'' || c = '\\' then none else some ([c, '\''], rest)
  | _ => none

/-- The rest of a string literal after its opening quote.  A backslash pairs
with the character after it, and no line ends inside. -/
def closeString? : Split (List Char)
  | [] => none
  | '"' :: rest => some (['"'], rest)
  | '\\' :: c :: rest =>
      if c = '\n' then none
      else (closeString? rest).map fun (text, rest) => ('\\' :: c :: text, rest)
  | c :: rest =>
      if c = '\\' || c = '\n' then none
      else (closeString? rest).map fun (text, rest) => (c :: text, rest)

/-- The rest of a line comment: all before the end of the line. -/
def closeLine? : Split (List Char) := fun text =>
  some (text.takeWhile (· ≠ '\n'), text.dropWhile (· ≠ '\n'))

/-- What is left of a text after a given beginning. -/
def afterBeginning? : List Char → List Char → Option (List Char)
  | [], text => some text
  | _ :: _, [] => none
  | expected :: others, c :: rest => if c = expected then afterBeginning? others rest else none

/-- A lexeme that opens with a fixed text and goes on as `close?` says. -/
def opened? (kind? : Option TokenKind) (opening : List Char) (close? : Split (List Char)) :
    Split Lexeme := fun text =>
  match afterBeginning? opening text with
  | none => none
  | some rest =>
      match close? rest with
      | none => none
      | some (body, rest) => some ({ kind? := kind?, text := opening ++ body }, rest)

/-- A lexeme that opens with one kind of character and takes the longest run of
another after it. -/
def run? (kind? : List Char → Option TokenKind) (opens continues : Char → Bool) :
    Split Lexeme
  | [] => none
  | c :: rest =>
      if opens c then
        let text := c :: rest.takeWhile continues
        some ({ kind? := kind? text, text := text }, rest.dropWhile continues)
      else none

/-- The kind of a word: reserved, or an identifier. -/
def wordKind (word : List Char) : TokenKind :=
  (TokenKind.ofReserved? (String.ofList word)).getD .identifier

/-- The kinds of punctuation, a longer one before any that begins it. -/
def punctuation : List TokenKind :=
  [.openBracket, .closeBracket, .openCurly, .closeCurly, .openParen, .closeParen,
    .equals, .notEquals, .not, .assignment, .less, .greater, .or, .and, .ampersand,
    .semicolon, .comma, .plusPlus, .minusMinus, .plus, .dash, .slash, .star, .percent]

def punctuation? (kind : TokenKind) : Split Lexeme :=
  opened? (some kind) kind.lexeme.toList fun rest => some ([], rest)

/-- The lexemes of the language, in the order in which they are tried. -/
def recognisers : List (Split Lexeme) :=
  [run? (fun _ => none) isBlank isBlank,
    opened? none ['/', '/'] closeLine?,
    opened? none ['/', '*'] closeComment?,
    run? (fun word => some (wordKind word)) isWordStart isWordPart,
    run? (fun _ => some .constant) Char.isDigit Char.isDigit,
    opened? (some .constant) ['\''] closeConstant?,
    opened? (some .string) ['"'] closeString?] ++
  punctuation.map punctuation?

/-- Splits the next lexeme off a text; none if no lexeme begins there. -/
def next? : Split Lexeme := fun text =>
  recognisers.findSome? fun recognise => recognise text

/-- The text that a token of this lexeme carries: a string is decoded. -/
def value (lexeme : Lexeme) : String :=
  if lexeme.kind? = some .string then
    String.ofList (unescape (lexeme.text.drop 1).dropLast)
  else String.ofList lexeme.text

theorem closeComment?_append {text body rest : List Char}
    (h : closeComment? text = some (body, rest)) : body ++ rest = text := by
  fun_induction closeComment? text generalizing body rest with
  | case1 => simp at h
  | case2 => simp at h; obtain ⟨rfl, rfl⟩ := h; rfl
  | case3 c tail _ ih =>
    obtain ⟨⟨inner, left⟩, hinner, hsplit⟩ := Option.map_eq_some_iff.1 h
    simp at hsplit
    obtain ⟨rfl, rfl⟩ := hsplit
    simp [ih hinner]

theorem closeConstant?_append {text body rest : List Char}
    (h : closeConstant? text = some (body, rest)) : body ++ rest = text := by
  fun_cases closeConstant? text <;> simp_all [closeConstant?] <;>
    (obtain ⟨rfl, rfl⟩ := h; rfl)

theorem closeString?_append {text body rest : List Char}
    (h : closeString? text = some (body, rest)) : body ++ rest = text := by
  fun_induction closeString? text generalizing body rest with
  | case1 => simp at h
  | case2 => simp at h; obtain ⟨rfl, rfl⟩ := h; rfl
  | case3 => simp at h
  | case4 c tail _ ih =>
    obtain ⟨⟨inner, left⟩, hinner, hsplit⟩ := Option.map_eq_some_iff.1 h
    simp at hsplit
    obtain ⟨rfl, rfl⟩ := hsplit
    simp [ih hinner]
  | case5 => simp at h
  | case6 c tail _ _ _ ih =>
    obtain ⟨⟨inner, left⟩, hinner, hsplit⟩ := Option.map_eq_some_iff.1 h
    simp at hsplit
    obtain ⟨rfl, rfl⟩ := hsplit
    simp [ih hinner]

theorem afterBeginning?_append {beginning text rest : List Char}
    (h : afterBeginning? beginning text = some rest) : beginning ++ rest = text := by
  fun_induction afterBeginning? beginning text with
  | case1 => simp_all
  | case2 => simp at h
  | case3 _ _ _ ih => simp [ih h]
  | case4 => simp at h

theorem closeLine?_append {text body rest : List Char}
    (h : closeLine? text = some (body, rest)) : body ++ rest = text := by
  simp only [closeLine?, Option.some.injEq, Prod.mk.injEq] at h
  obtain ⟨rfl, rfl⟩ := h
  exact List.takeWhile_append_dropWhile

/-- What a way to split takes is not empty, and with the rest it makes up the
text. -/
def Splits (recognise : Split Lexeme) : Prop :=
  ∀ {text rest lexeme}, recognise text = some (lexeme, rest) →
    lexeme.text ≠ [] ∧ lexeme.text ++ rest = text

theorem opened?_splits {kind? : Option TokenKind} {opening : List Char}
    {close? : Split (List Char)} (hopening : opening ≠ [])
    (hclose : ∀ {text body rest}, close? text = some (body, rest) → body ++ rest = text) :
    Splits (opened? kind? opening close?) := by
  intro text rest lexeme h
  unfold opened? at h
  split at h
  · simp at h
  · rename_i hopens
    split at h
    · simp at h
    · rename_i hbody
      simp only [Option.some.injEq, Prod.mk.injEq] at h
      obtain ⟨rfl, rfl⟩ := h
      simp [hopening, hclose hbody, afterBeginning?_append hopens]

theorem run?_splits (kind? : List Char → Option TokenKind) (opens continues : Char → Bool) :
    Splits (run? kind? opens continues) := by
  intro text rest lexeme h
  unfold run? at h
  split at h
  · simp at h
  · split at h
    · simp only [Option.some.injEq, Prod.mk.injEq] at h
      obtain ⟨rfl, rfl⟩ := h
      simp
    · simp at h

theorem recognisers_splits : ∀ recognise ∈ recognisers, Splits recognise := by
  have hpunctuation : ∀ kind ∈ punctuation, kind.lexeme.toList ≠ [] := by decide
  intro recognise hmem
  simp only [recognisers, List.mem_append, List.mem_cons, List.mem_map, List.not_mem_nil,
    or_false] at hmem
  rcases hmem with (rfl | rfl | rfl | rfl | rfl | rfl | rfl) | ⟨kind, hkind, rfl⟩
  · exact run?_splits _ _ _
  · exact opened?_splits (by simp) closeLine?_append
  · exact opened?_splits (by simp) closeComment?_append
  · exact run?_splits _ _ _
  · exact run?_splits _ _ _
  · exact opened?_splits (by simp) closeConstant?_append
  · exact opened?_splits (by simp) closeString?_append
  · exact opened?_splits (hpunctuation kind hkind) (by simp)

/-- The next lexeme is not empty, and with the rest it makes up the text. -/
theorem next?_splits : Splits next? := by
  intro text rest lexeme h
  obtain ⟨recognise, hmem, hsplit⟩ := List.exists_of_findSome?_eq_some h
  exact recognisers_splits recognise hmem hsplit

/-- What is left after a lexeme is shorter than the text. -/
theorem length_lt_of_next? {text rest : List Char} {lexeme : Lexeme}
    (h : next? text = some (lexeme, rest)) : rest.length < text.length := by
  obtain ⟨hne, happend⟩ := next?_splits h
  have hlength := congrArg List.length happend
  have hpositive := List.length_pos_iff.2 hne
  simp at hlength
  omega

end Lexeme

end SubsetC
