import SubsetC.Proofs.Partition
import SubsetC.Proofs.Printing

/-!
# Tokens written apart

Where a token ends may depend on the text far ahead: `/*` opens a comment only
if the comment is closed somewhere, and an operator may begin another.  White
space settles it.  Slices of tokens that are written with white space between
them are scanned as the tokens that they were taken from (`tokenize_respaced`).
-/

namespace SubsetC

open Text

/-- Slices written in order, with some white space between any two of them. -/
inductive Respaced : List (List Char) → List Char → Prop
  | nil : Respaced [] []
  | single {slice} : Respaced [slice] slice
  | cons {slice gap next slices text} : gap ≠ [] → (∀ c ∈ gap, isBlank c = true) →
      Respaced (next :: slices) text → Respaced (slice :: next :: slices) (slice ++ gap ++ text)

namespace Lexeme

/-- What is seen of the token that a lexeme is. -/
def look? (lexeme : Lexeme) : Option Look := lexeme.kind?.map fun kind => (kind, lexeme.value)

theorem look?_eq_some {slice : List Char} {look : Look}
    (hvalue : value { kind? := some look.1, text := slice } = look.2) :
    look? { kind? := some look.1, text := slice } = some look := by
  rw [look?, hvalue]
  rfl

/-- A slice that is scanned as a token of this look wherever it stands apart. -/
def Shows (slice : List Char) (look : Look) : Prop :=
  Form look.1 slice ∧ value { kind? := some look.1, text := slice } = look.2

theorem Sequence.shows {text : List Char} {lexemes : List Lexeme}
    (hsequence : Sequence text lexemes) :
    List.Forall₂ Shows (lexemes.filterMap slice?) (lexemes.filterMap look?) := by
  induction hsequence with
  | nil => exact .nil
  | @cons text rest lexeme lexemes hnext _ ih =>
      have hform := next?_form hnext
      obtain ⟨kind?, slice⟩ := lexeme
      cases kind? with
      | none => exact ih
      | some kind => exact .cons ⟨hform, rfl⟩ ih

theorem Form.solid {kind : TokenKind} {slice : List Char} (hform : Form kind slice) :
    ∃ c others, slice = c :: others ∧ isBlank c = false := by
  cases hform with
  | word hc _ => exact ⟨_, _, rfl, isBlank_of_isWordStart hc⟩
  | number hc _ => exact ⟨_, _, rfl, isBlank_of_isDigit hc⟩
  | character => exact ⟨_, _, rfl, by decide⟩
  | string => exact ⟨_, _, rfl, by decide⟩
  | mark hmem =>
      obtain ⟨c, others, hlexeme, hblank, -⟩ := lexeme_of_mem_punctuation hmem
      exact ⟨c, others, hlexeme, hblank⟩

/-- A text that has the form of a token is this one token. -/
theorem Form.sequence {kind : TokenKind} {slice : List Char} (hform : Form kind slice) :
    Sequence slice [{ kind? := some kind, text := slice }] := by
  have hend : Breaks [] := by simp [Breaks]
  have hnext := next?_of_form hform hend
  rw [List.append_nil] at hnext
  exact .cons hnext .nil

end Lexeme

theorem Respaced.begins {slice : List Char} {slices : List (List Char)} {text : List Char}
    (hrespaced : Respaced (slice :: slices) text) : slice <+: text := by
  cases hrespaced with
  | single => exact List.prefix_rfl
  | cons =>
      rw [List.append_assoc]
      exact List.prefix_append _ _

/-- Slices that are written apart are scanned one by one. -/
theorem Respaced.sequence {slices : List (List Char)} {text : List Char} {looks : List Look}
    (hrespaced : Respaced slices text) (hshows : List.Forall₂ Lexeme.Shows slices looks) :
    ∃ lexemes, Lexeme.Sequence text lexemes ∧ lexemes.filterMap Lexeme.look? = looks := by
  induction hrespaced generalizing looks with
  | nil =>
      cases hshows
      exact ⟨[], .nil, rfl⟩
  | @single slice =>
      obtain - | ⟨⟨hform, hvalue⟩, hnone⟩ := hshows
      cases hnone
      refine ⟨_, hform.sequence, ?_⟩
      rw [List.filterMap_cons_some (Lexeme.look?_eq_some hvalue), List.filterMap_nil]
  | @cons slice gap next slices text hne hblank hrest ih =>
      obtain - | ⟨⟨hform, hvalue⟩, hothers⟩ := hshows
      obtain ⟨lexemes, hsequence, hlooks⟩ := ih hothers
      have hbreaks : Lexeme.Breaks (gap ++ text) := by
        intro c hc
        obtain ⟨first, others, rfl⟩ := List.exists_cons_of_ne_nil hne
        obtain rfl : first = c := Option.some.inj hc
        exact hblank first List.mem_cons_self
      have hstop : ∀ c, text.head? = some c → isBlank c = false := by
        obtain ⟨later, rfl⟩ := hrest.begins
        obtain - | ⟨⟨hnext, -⟩, -⟩ := hothers
        obtain ⟨first, others, rfl, hsolid⟩ := hnext.solid
        intro c hc
        obtain rfl : first = c := Option.some.inj hc
        exact hsolid
      have hslice := Lexeme.next?_of_form hform hbreaks
      rw [← List.append_assoc] at hslice
      refine ⟨_, .cons hslice (.cons (Lexeme.next?_of_blank hne hblank hstop) hsequence), ?_⟩
      rw [List.filterMap_cons_some (Lexeme.look?_eq_some hvalue), List.filterMap_cons_none rfl,
        hlooks]

theorem Scanner.close_look (scanner : Scanner) (lexemes : List Lexeme) :
    (lexemes.foldl take scanner).close.map Token.look =
      scanner.tokens.toList.map Token.look ++ lexemes.filterMap Lexeme.look? ++
        [(.eof, "EOF")] := by
  induction lexemes generalizing scanner with
  | nil => simp [close, Token.look, Token.endOfInput]
  | cons lexeme lexemes ih =>
      rw [List.foldl_cons, ih]
      cases hkind : lexeme.kind? with
      | none =>
          rw [take_gap hkind, List.filterMap_cons_none (by rw [Lexeme.look?, hkind]; rfl)]
          rfl
      | some kind =>
          rw [take_token hkind, List.filterMap_cons_some (by rw [Lexeme.look?, hkind]; rfl)]
          simp [emit, advance, Token.look]

/-- The slices of the tokens of a text, written in order with any white space between them, have
tokens of the same kinds and texts again. -/
theorem tokenize_respaced {text file : String} {tokens : List Token}
    (htokens : tokenize text file = .ok tokens) :
    ∃ slices, Tiles file [] text.toList slices tokens ∧
      ∀ respaced place, Respaced slices respaced.toList →
        ∃ again, tokenize respaced place = .ok again ∧
          again.map Token.look = tokens.map Token.look := by
  obtain ⟨lexemes, hsequence, hclose, htiles⟩ := tokenize_tiles htokens
  refine ⟨_, htiles, fun respaced place hrespaced => ?_⟩
  obtain ⟨others, hothers, hlooks⟩ := hrespaced.sequence hsequence.shows
  refine ⟨_, tokenize_eq_ok_iff.2 ⟨others, hothers, rfl⟩, ?_⟩
  rw [← hclose, Scanner.close_look, Scanner.close_look, hlooks]

/-- A text with comments, one that is not closed, operators that begin others, and marks of
comments within quotes. -/
def crampedText : String := "a===!=b// x\n+++&&&\"/*\"/**/'\\x4''/'/*b"

theorem crampedText_respaced :
    ∃ tokens, tokenize crampedText "f.c" = .ok tokens ∧ tokens.length = 16 ∧
      ∃ slices, Tiles "f.c" [] crampedText.toList slices tokens ∧
        ∀ respaced place, Respaced slices respaced.toList →
          ∃ again, tokenize respaced place = .ok again ∧
            again.map Token.look = tokens.map Token.look := by
  have hreads : ((tokenize crampedText "f.c").toOption.any fun tokens =>
      decide (tokens.length = 16)) = true := by
    decide +kernel
  obtain ⟨tokens, htokens, hlength⟩ := exists_tokens hreads
  exact ⟨tokens, htokens, hlength, tokenize_respaced htokens⟩

end SubsetC
