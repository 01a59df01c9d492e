import Mathlib.Data.Nat.Digits.Defs
import SubsetC.Expr.Constant
import SubsetC.Expr.Render
import SubsetC.Proofs.Respacing

/-!
# Literals

What the text of a literal denotes.  A string that is quoted with none of its characters written
by code point is read back as itself (`tokenize_quoted`).  A constant that scanning gives is a
number or a quoted character (`constants_read_exactly`): a number has its decimal value, unless
that does not fit, and a character has the code point of one.  What stands between the quotes of
a character is decoded to this one alone, unless it is an escape that is not known
(`quoted_constant_decodes`).
-/

namespace SubsetC

namespace Text

variable {c : Char} {rest : List Char}

/-! ## Unescaping -/

theorem unescape_cons (hc : c ≠ '\\') : unescape (c :: rest) = c :: unescape rest := by
  rw [unescape.eq_def]
  split <;> simp_all

theorem unescape_letter {letter : Char} (hletter : letterEscape? letter = some c) :
    unescape ('\\' :: letter :: rest) = c :: unescape rest := by
  have hx : letter ≠ 'x' := by
    rintro rfl
    contradiction
  simp [unescape, hx, hletter]

/-- A character that quoting leaves as it is, or writes by a backslash and one more character. -/
def IsShown (c : Char) : Prop :=
  escapeInString c = [c] ∨
    escapeInString c ∈
      [['\\', '0'], ['\\', 't'], ['\\', 'r'], ['\\', 'n'], ['\\', '\\'], ['\\', '"']]

instance (c : Char) : Decidable (IsShown c) := inferInstanceAs (Decidable (_ ∨ _))

theorem isShown_cases (hshown : IsShown c) :
    (c ≠ '"' ∧ c ≠ '\\' ∧ c ≠ '\n' ∧ escapeInString c = [c]) ∨
      ∃ letter, letter ≠ '\n' ∧ letterEscape? letter = some c ∧
        escapeInString c = ['\\', letter] := by
  unfold IsShown at hshown
  unfold escapeInString at hshown ⊢
  split_ifs at hshown ⊢ with hnul htab hreturn hline hslash hquote hunprintable
  · exact .inr ⟨'0', by decide, by rw [hnul]; rfl, rfl⟩
  · exact .inr ⟨'t', by decide, by rw [htab]; rfl, rfl⟩
  · exact .inr ⟨'r', by decide, by rw [hreturn]; rfl, rfl⟩
  · exact .inr ⟨'n', by decide, by rw [hline]; rfl, rfl⟩
  · exact .inr ⟨'\\', by decide, by rw [hslash]; rfl, rfl⟩
  · exact .inr ⟨'"', by decide, by rw [hquote]; rfl, rfl⟩
  · simp [codePointEscape] at hshown
  · exact .inl ⟨hquote, hslash, hline, rfl⟩

theorem unescape_escapeInString (hshown : IsShown c) (rest : List Char) :
    unescape (escapeInString c ++ rest) = c :: unescape rest := by
  obtain ⟨-, hslash, -, hescape⟩ | ⟨letter, -, hletter, hescape⟩ := isShown_cases hshown
  · rw [hescape]
    exact unescape_cons hslash
  · rw [hescape]
    exact unescape_letter hletter

theorem unescape_flatMap {text : List Char} (hshown : ∀ c ∈ text, IsShown c) :
    unescape (text.flatMap escapeInString) = text := by
  induction text with
  | nil => rfl
  | cons c rest ih =>
      obtain ⟨hc, hrest⟩ := List.forall_mem_cons.1 hshown
      rw [List.flatMap_cons, unescape_escapeInString hc, ih hrest]

theorem stringBody_flatMap {text : List Char} (hshown : ∀ c ∈ text, IsShown c) :
    StringBody (text.flatMap escapeInString) := by
  induction text with
  | nil => exact .nil
  | cons c rest ih =>
      obtain ⟨hc, hrest⟩ := List.forall_mem_cons.1 hshown
      rw [List.flatMap_cons]
      obtain ⟨hquote, hslash, hline, hescape⟩ | ⟨letter, hline, -, hescape⟩ := isShown_cases hc
      · rw [hescape]
        exact .plain hquote hslash hline (ih hrest)
      · rw [hescape]
        exact .escape hline (ih hrest)

end Text

open Text

/-! ## Quoted strings -/

/-- A string of which no character is written by its code point is read back from its quoted
text, which is how the tree and its token both show it. -/
theorem tokenize_quoted {text : String} (hshown : ∀ c ∈ text.toList, IsShown c) (id : Nat)
    (span : Span) (file : String) :
    ∃ token last, tokenize (Expr.string text id span).render file = .ok [token, last] ∧
      token.kind = .string ∧ token.text = text ∧
      token.describe = (Expr.string text id span).render ∧ last.kind = .eof := by
  have hsequence := (Lexeme.Form.string (stringBody_flatMap hshown)).sequence
  have hquoted : (Expr.string text id span).render.toList =
      '"' :: (text.toList.flatMap escapeInString ++ ['"']) := by
    rw [Expr.render, quoteString, String.toList_ofList]
    rfl
  rw [← hquoted] at hsequence
  have hvalue : Lexeme.value
      { kind? := some .string, text := (Expr.string text id span).render.toList } = text := by
    rw [hquoted, Lexeme.value, if_pos rfl, List.drop_one, List.tail_cons, List.dropLast_concat,
      unescape_flatMap hshown, String.ofList_toList]
  refine ⟨_, _, tokenize_eq_ok_iff.2 ⟨_, hsequence, rfl⟩, rfl, hvalue, ?_, rfl⟩
  rw [Expr.render]
  exact congrArg quoteString hvalue

/-- A text with a digit behind a NUL, what looks like an escape, quotes and backslashes. -/
def awkwardText : String := "\x0012\\x41\\\"\\\\n\n\t'é'\r"

theorem awkwardText_reads_back :
    (∀ c ∈ awkwardText.toList, IsShown c) ∧
    ∃ token last,
      tokenize (Expr.string awkwardText 3 default).render "f.c" = .ok [token, last] ∧
      token.kind = .string ∧ token.text = awkwardText ∧
      token.describe = (Expr.string awkwardText 3 default).render ∧ last.kind = .eof := by
  have hall : (awkwardText.toList.all fun c => decide (IsShown c)) = true := by
    decide +kernel
  have hshown : ∀ c ∈ awkwardText.toList, IsShown c := by
    simpa only [List.all_eq_true, decide_eq_true_eq] using hall
  exact ⟨hshown, tokenize_quoted hshown 3 default "f.c"⟩

/-! ## Constants -/

/-- A text of one or more digits. -/
def IsDigits (text : List Char) : Prop := text ≠ [] ∧ ∀ c ∈ text, c.isDigit = true

/-- The value of digits in decimal, the last one counting ones. -/
def decimalValue (digits : List Char) : Nat :=
  Nat.ofDigits 10 (digits.reverse.map fun c => c.toNat - '0'.toNat)

/-- The text of a character constant. -/
def IsQuotedCharacter (text : List Char) : Prop :=
  ∃ body, CharacterBody body ∧ text = '\'' :: (body ++ ['\''])

theorem IsQuotedCharacter.not_isDigits {text : List Char} (hquoted : IsQuotedCharacter text) :
    ¬ IsDigits text := by
  obtain ⟨body, -, rfl⟩ := hquoted
  rintro ⟨-, hall⟩
  exact absurd (hall '\'' List.mem_cons_self) (by decide)

namespace Text

theorem foldl_digits (digits : List Char) :
    digits.foldl (fun value c => 10 * value + (c.toNat - 48)) 0 = decimalValue digits := by
  rw [decimalValue, Nat.ofDigits_eq_foldr, List.foldr_map, List.foldr_reverse]
  congr 1
  funext value c
  exact Nat.add_comm _ _

theorem natural?_of_isDigits {digits : List Char} (hdigits : IsDigits digits) :
    natural? digits = some (decimalValue digits) := by
  obtain ⟨hne, hall⟩ := hdigits
  have hempty : digits.isEmpty = false := by simpa using hne
  rw [natural?, if_pos (by simp [hempty]; exact hall), foldl_digits]

theorem signed?_of_isDigits {digits : List Char} (hdigits : IsDigits digits) :
    signed? digits = some (decimalValue digits : Int) := by
  have hnatural := natural?_of_isDigits hdigits
  obtain ⟨c, rest, rfl⟩ := List.exists_cons_of_ne_nil hdigits.1
  have hc := hdigits.2 c List.mem_cons_self
  have hminus : c ≠ '-' := by
    rintro rfl
    contradiction
  have hplus : c ≠ '+' := by
    rintro rfl
    contradiction
  simp [signed?, unsigned?, hminus, hplus, hnatural]

/-- A backslash and a character that makes no escape with it, among them an `x` that no digits
follow. -/
def IsUnknownEscape (body : List Char) : Prop :=
  ∃ letter, letterEscape? letter = none ∧ body = ['\\', letter]

theorem IsUnknownEscape.unescape_eq {body : List Char} (hunknown : IsUnknownEscape body) :
    unescape body = body := by
  obtain ⟨letter, hletter, rfl⟩ := hunknown
  simp [unescape, hletter]

/-- The body of a character constant denotes one character, unless it is an escape that is not
known. -/
theorem unescape_characterBody {body : List Char} (hbody : CharacterBody body) :
    (∃ c, unescape body = [c]) ∨ IsUnknownEscape body := by
  cases hbody with
  | @plain c _ hslash => exact .inl ⟨c, unescape_cons hslash⟩
  | @escape letter _ =>
      cases hletter : letterEscape? letter with
      | some c => exact .inl ⟨c, unescape_letter hletter⟩
      | none => exact .inr ⟨letter, hletter, rfl⟩
  | oneDigit hdigit =>
      obtain ⟨value, hvalue⟩ := Option.isSome_iff_exists.1 hdigit
      exact .inl ⟨Char.ofNat value, by simp [unescape, hvalue]⟩
  | twoDigits hhigh hlow =>
      obtain ⟨high, hhigh⟩ := Option.isSome_iff_exists.1 hhigh
      obtain ⟨low, hlow⟩ := Option.isSome_iff_exists.1 hlow
      exact .inl ⟨Char.ofNat (16 * high + low), by simp [unescape, hhigh, hlow]⟩

/-- The body of a character constant denotes some character. -/
theorem exists_head_unescape {body : List Char} (hbody : CharacterBody body) :
    ∃ c, (unescape body).head? = some c := by
  obtain ⟨c, hc⟩ | hunknown := unescape_characterBody hbody
  · exact ⟨c, by rw [hc]; rfl⟩
  · rw [hunknown.unescape_eq]
    obtain ⟨letter, -, rfl⟩ := hunknown
    exact ⟨'\\', rfl⟩

end Text

namespace Constant

variable {text : String}

theorem integer?_of_isDigits {digits : List Char} (hdigits : IsDigits digits) :
    integer? digits =
      if decimalValue digits ≤ 2147483647 then some { value := decimalValue digits, ty := .int }
      else none := by
  have hrange : (-0x80000000 ≤ (decimalValue digits : Int) ∧
      (decimalValue digits : Int) < 0x80000000) ↔ decimalValue digits ≤ 2147483647 := by
    omega
  simp only [integer?, signed?_of_isDigits hdigits, hrange]

theorem body?_of_isDigits {digits : List Char} (hdigits : IsDigits digits) :
    body? digits = none := by
  obtain ⟨c, rest, rfl⟩ := List.exists_cons_of_ne_nil hdigits.1
  have hc := hdigits.2 c List.mem_cons_self
  have hquote : c ≠ '\'' := by
    rintro rfl
    contradiction
  simp [body?, hquote]

theorem ofText_of_isDigits (hdigits : IsDigits text.toList) :
    ofText text =
      if decimalValue text.toList ≤ 2147483647 then
        .ok { value := decimalValue text.toList, ty := .int }
      else .error (.badConstant text) := by
  simp only [ofText, read?, body?_of_isDigits hdigits, integer?_of_isDigits hdigits]
  by_cases hfits : decimalValue text.toList ≤ 2147483647
  · simp only [if_pos hfits]
  · simp only [if_neg hfits]

/-- A quoted body denotes the first character that it is decoded to. -/
theorem ofText_quoted {body : List Char} {c : Char}
    (htext : text.toList = '\'' :: (body ++ ['\'']))
    (hc : (unescape body).head? = some c) :
    ofText text = .ok { value := c.toNat, ty := .char } := by
  have hinner : body? text.toList = some body := by
    rw [htext]
    simp [body?]
  simp only [ofText, read?, hinner, character?, hc, Option.map_some]

theorem ofText_of_isQuotedCharacter (hquoted : IsQuotedCharacter text.toList) :
    ∃ c : Char, ofText text = .ok { value := c.toNat, ty := .char } := by
  obtain ⟨body, hbody, htext⟩ := hquoted
  obtain ⟨c, hc⟩ := exists_head_unescape hbody
  exact ⟨c, ofText_quoted htext hc⟩

end Constant

/-- What reading the text of a constant gives: the value of a number unless it is too large, and
for a character the code point of one, which is shown as this character. -/
structure Constant.ReadsExactly (text : String) : Prop where
  form : IsDigits text.toList ∨ IsQuotedCharacter text.toList
  refused : ∀ fault, Constant.ofText text = .error fault ↔
    fault = .badConstant text ∧ IsDigits text.toList ∧ 2147483647 < decimalValue text.toList
  number : IsDigits text.toList → decimalValue text.toList ≤ 2147483647 →
    Constant.ofText text = .ok { value := decimalValue text.toList, ty := .int }
  character : IsQuotedCharacter text.toList →
    ∃ c : Char, Constant.ofText text = .ok { value := c.toNat, ty := .char } ∧
      ∀ span, (Expr.constant c.toNat .char span).render = String.ofList (quotedConstant c)

theorem render_character (c : Char) (span : Span) :
    (Expr.constant c.toNat .char span).render = String.ofList (quotedConstant c) := by
  have hvalid : isCodePoint c.toNat = true := by
    simp only [isCodePoint, Int.toNat_natCast, Bool.and_eq_true, decide_eq_true_eq]
    exact ⟨Int.natCast_nonneg _, c.valid⟩
  rw [Expr.render, renderConstant, if_pos rfl, if_pos hvalid, Int.toNat_natCast, Char.ofNat_toNat]

theorem Constant.readsExactly_of_isDigits {text : String} (hdigits : IsDigits text.toList) :
    Constant.ReadsExactly text := by
  have hread := Constant.ofText_of_isDigits hdigits
  by_cases hfits : decimalValue text.toList ≤ 2147483647
  · rw [if_pos hfits] at hread
    exact ⟨.inl hdigits, by simp [hread, hfits], fun _ _ => hread,
      fun hquoted => absurd hdigits hquoted.not_isDigits⟩
  · rw [if_neg hfits] at hread
    exact ⟨.inl hdigits, fun fault => by simp [hread, hdigits, Nat.not_le.1 hfits, eq_comm],
      fun _ hle => absurd hle hfits, fun hquoted => absurd hdigits hquoted.not_isDigits⟩

theorem Constant.readsExactly_of_isQuotedCharacter {text : String}
    (hquoted : IsQuotedCharacter text.toList) : Constant.ReadsExactly text := by
  obtain ⟨c, hc⟩ := Constant.ofText_of_isQuotedCharacter hquoted
  exact ⟨.inr hquoted, by simp [hc, hquoted.not_isDigits],
    fun hdigits => absurd hdigits hquoted.not_isDigits, fun _ => ⟨c, hc, render_character c⟩⟩

namespace Lexeme

/-- A constant is written as a number or as a quoted character. -/
theorem Form.constant_cases {slice : List Char} (hform : Form .constant slice) :
    IsDigits slice ∨ IsQuotedCharacter slice := by
  generalize hkind : TokenKind.constant = kind at hform
  cases hform with
  | @word c others =>
      have hword := wordKind_mem (c :: others)
      rw [← hkind] at hword
      exact absurd hword (by decide)
  | number hc hothers => exact .inl ⟨List.cons_ne_nil _ _, List.forall_mem_cons.2 ⟨hc, hothers⟩⟩
  | character hbody => exact .inr ⟨_, hbody, rfl⟩
  | string => contradiction
  | mark hmem =>
      rw [← hkind] at hmem
      exact absurd hmem (by decide)

theorem Sequence.hasForm {text : List Char} {lexemes : List Lexeme}
    (hsequence : Sequence text lexemes) :
    ∀ lexeme ∈ lexemes, ∃ following, lexeme.HasForm following := by
  induction hsequence with
  | nil => simp
  | cons hnext _ ih => exact List.forall_mem_cons.2 ⟨⟨_, next?_form hnext⟩, ih⟩

end Lexeme

/-- A token of a text, other than the end of input, shows a slice of the form of its kind. -/
theorem exists_shows_of_tokenize {text file : String} {tokens : List Token}
    (htokens : tokenize text file = .ok tokens) {token : Token} (hmem : token ∈ tokens)
    (hkind : token.kind ≠ .eof) : ∃ slice, Lexeme.Shows slice token.look := by
  obtain ⟨lexemes, hsequence, rfl⟩ := tokenize_eq_ok_iff.1 htokens
  have hlook := List.mem_map_of_mem (f := Token.look) hmem
  rw [Scanner.close_look, List.mem_append] at hlook
  obtain hlook | hlast := hlook
  · obtain ⟨⟨kind?, slice⟩, hlexeme, hsome⟩ := List.mem_filterMap.1 (by simpa using hlook)
    obtain ⟨following, hform⟩ := hsequence.hasForm _ hlexeme
    obtain ⟨kind, rfl, hshown⟩ := Option.map_eq_some_iff.1 hsome
    rw [← hshown]
    exact ⟨slice, hform, rfl⟩
  · exact absurd (congrArg Prod.fst (List.mem_singleton.1 hlast)) hkind

/-- A constant that is scanned is written as a number or as a quoted character. -/
theorem constant_form_of_tokenize {text file : String} {tokens : List Token}
    (htokens : tokenize text file = .ok tokens) {token : Token} (hmem : token ∈ tokens)
    (hkind : token.kind = .constant) :
    IsDigits token.text.toList ∨ IsQuotedCharacter token.text.toList := by
  obtain ⟨slice, hform, hvalue⟩ : ∃ slice, Lexeme.Form token.kind slice ∧
      Lexeme.value { kind? := some token.kind, text := slice } = token.text :=
    exists_shows_of_tokenize htokens hmem (by rw [hkind]; decide)
  rw [hkind] at hform hvalue
  have htext : token.text.toList = slice := by
    rw [← hvalue, Lexeme.value, if_neg (by simp), String.toList_ofList]
  rw [htext]
  exact hform.constant_cases

/-- Every constant in a text that is scanned is a number or a quoted character.  It is refused
just if it is a number above the greatest one of 32 bits; any other number has its decimal
value, and a quoted character has the code point of a character. -/
theorem constants_read_exactly {text file : String} {tokens : List Token}
    (htokens : tokenize text file = .ok tokens) :
    ∀ token ∈ tokens, token.kind = .constant → Constant.ReadsExactly token.text := by
  intro token hmem hkind
  obtain hdigits | hquoted := constant_form_of_tokenize htokens hmem hkind
  · exact Constant.readsExactly_of_isDigits hdigits
  · exact Constant.readsExactly_of_isQuotedCharacter hquoted

/-- Numbers around the greatest one, with zeros before them, and quoted characters with escapes
of every kind. -/
def constantsText : String :=
  "0002147483647 2147483648 99999999999999999999 'a' 'é' '\n' '\\n' '\\q' '\\x' '\\x7' '\\xfF'"

theorem constantsText_read_exactly :
    ∃ tokens, tokenize constantsText "f.c" = .ok tokens ∧
      ∀ text ∈ ["0002147483647", "2147483648", "99999999999999999999", "'a'", "'é'", "'\n'",
          "'\\n'", "'\\q'", "'\\x'", "'\\x7'", "'\\xfF'"],
        ∃ token ∈ tokens, token.kind = .constant ∧ token.text = text ∧
          Constant.ReadsExactly text := by
  have hreads : ((tokenize constantsText "f.c").toOption.any fun tokens => decide
      (∀ text ∈ ["0002147483647", "2147483648", "99999999999999999999", "'a'", "'é'", "'\n'",
          "'\\n'", "'\\q'", "'\\x'", "'\\x7'", "'\\xfF'"],
        ∃ token ∈ tokens, token.kind = .constant ∧ token.text = text)) = true := by
    decide +kernel
  obtain ⟨tokens, htokens, hmembers⟩ := exists_tokens hreads
  refine ⟨tokens, htokens, fun text htext => ?_⟩
  obtain ⟨token, hmem, hkind, rfl⟩ := hmembers text htext
  exact ⟨token, hmem, hkind, rfl, constants_read_exactly htokens token hmem hkind⟩

/-! ## Characters -/

/-- What a quoted constant denotes, by the text between its quotes: the one character that this
is decoded to, and a backslash if it is an escape that is not known. -/
structure Constant.Decodes (text : String) (body : List Char) : Prop where
  one : ¬ IsUnknownEscape body →
    ∃ c, unescape body = [c] ∧ Constant.ofText text = .ok { value := c.toNat, ty := .char }
  unknown : IsUnknownEscape body →
    unescape body = body ∧ Constant.ofText text = .ok { value := '\\'.toNat, ty := .char }

/-- The text between the quotes of a constant that is scanned is decoded to exactly one
character, which is the value of the constant, unless it is an escape that is not known.  Such
an escape stays as it is written, and of its two characters the value is the first. -/
theorem quoted_constant_decodes {text file : String} {tokens : List Token}
    (htokens : tokenize text file = .ok tokens) :
    ∀ token ∈ tokens, token.kind = .constant → ∀ body,
      token.text.toList = '\'' :: (body ++ ['\'']) → Constant.Decodes token.text body := by
  intro token hmem hkind body htext
  have hbody : CharacterBody body := by
    obtain hdigits | ⟨other, hother, hshown⟩ := constant_form_of_tokenize htokens hmem hkind
    · rw [htext] at hdigits
      exact absurd (hdigits.2 '\'' List.mem_cons_self) (by decide)
    · rw [htext, List.cons.injEq, List.append_cancel_right_eq] at hshown
      exact hshown.2 ▸ hother
  constructor
  · intro hknown
    obtain ⟨c, hc⟩ := (unescape_characterBody hbody).resolve_right hknown
    exact ⟨c, hc, Constant.ofText_quoted htext (by rw [hc]; rfl)⟩
  · intro hunknown
    refine ⟨hunknown.unescape_eq, Constant.ofText_quoted htext ?_⟩
    rw [hunknown.unescape_eq]
    obtain ⟨letter, -, rfl⟩ := hunknown
    rfl

theorem constantsText_decodes :
    ∃ tokens, tokenize constantsText "f.c" = .ok tokens ∧
      ∀ body ∈ ["a", "é", "\n", "\\n", "\\q", "\\x", "\\x7", "\\xfF"],
        ∃ token ∈ tokens, token.kind = .constant ∧
          token.text.toList = '\'' :: (body.toList ++ ['\'']) ∧
          Constant.Decodes token.text body.toList := by
  have hreads : ((tokenize constantsText "f.c").toOption.any fun tokens => decide
      (∀ body ∈ ["a", "é", "\n", "\\n", "\\q", "\\x", "\\x7", "\\xfF"],
        ∃ token ∈ tokens, token.kind = .constant ∧
          token.text.toList = '\'' :: (body.toList ++ ['\'']))) = true := by
    decide +kernel
  obtain ⟨tokens, htokens, hmembers⟩ := exists_tokens hreads
  refine ⟨tokens, htokens, fun body hbody => ?_⟩
  obtain ⟨token, hmem, hkind, htext⟩ := hmembers body hbody
  exact ⟨token, hmem, hkind, htext,
    quoted_constant_decodes htokens token hmem hkind body.toList htext⟩

/-- A quoted escape that is not known: it is scanned and decoded to two characters, and of these
the constant keeps the backslash only. -/
theorem unknownEscape_cut :
    ∃ tokens, tokenize "'\\q'" "f.c" = .ok tokens ∧
      ∃ token ∈ tokens, token.kind = .constant ∧
        token.text.toList = '\'' :: (['\\', 'q'] ++ ['\'']) ∧
        unescape ['\\', 'q'] = ['\\', 'q'] ∧
        Constant.ofText token.text = .ok { value := 92, ty := .char } := by
  have hreads : ((tokenize "'\\q'" "f.c").toOption.any fun tokens => decide
      (∃ token ∈ tokens, token.kind = .constant ∧ token.text = "'\\q'")) = true := by
    decide +kernel
  obtain ⟨tokens, htokens, token, hmem, hkind, htext⟩ := exists_tokens hreads
  refine ⟨tokens, htokens, token, hmem, hkind, ?_, by decide, ?_⟩
  · rw [htext]
    rfl
  · rw [htext]
    rfl

end SubsetC
