import SubsetC.Proofs.LexicalGrammar
import SubsetC.Symbol.Basic
import SubsetC.Token.Scanner

/-!
# Scanned tokens

What every token of a source text has in common: only the last one is the end of
input, and no identifier has the name of the placeholder.
-/

namespace SubsetC

namespace Lexeme

variable {text rest : List Char} {lexeme : Lexeme}

/-- A lexeme that is not the end of input, and begins like a word if it is an
identifier. -/
def IsPlain (lexeme : Lexeme) : Prop :=
  lexeme.kind? ≠ some .eof ∧
    (lexeme.kind? = some .identifier →
      ∃ c others, lexeme.text = c :: others ∧ isWordStart c = true)

theorem next?_plain (hsplit : next? text = some (lexeme, rest)) : lexeme.IsPlain := by
  have hform := next?_form hsplit
  unfold HasForm at hform
  cases hkind : lexeme.kind? with
  | none => simp [IsPlain, hkind]
  | some kind =>
      rw [hkind] at hform
      obtain ⟨heof, hname, -⟩ := hform.spec
      rw [IsPlain, hkind]
      exact ⟨fun hsome => heof (Option.some.inj hsome), fun hsome => hname (Option.some.inj hsome)⟩

/-- The placeholder's name does not begin like a word. -/
theorem IsPlain.value_ne (hplain : lexeme.IsPlain) (hkind : lexeme.kind? = some .identifier) :
    lexeme.value ≠ Symbol.placeholder.name := by
  obtain ⟨c, others, htext, hc⟩ := hplain.2 hkind
  unfold value
  rw [if_neg (by rw [hkind]; decide), htext]
  intro hname
  have hcharacters : c :: others = Symbol.placeholder.name.toList := by
    rw [← hname, String.toList_ofList]
  cases hcharacters
  contradiction

/-- Lexemes that are taken from a text one after the other until it is used up. -/
inductive Sequence : List Char → List Lexeme → Prop
  | nil : Sequence [] []
  | cons {text rest lexeme lexemes} : next? text = some (lexeme, rest) →
      Sequence rest lexemes → Sequence text (lexeme :: lexemes)

theorem exists_sequence_nil {p : List Lexeme → Prop} :
    (∃ lexemes, Sequence [] lexemes ∧ p lexemes) ↔ p [] := by
  constructor
  · rintro ⟨lexemes, hsequence, hp⟩
    cases hsequence with
    | nil => exact hp
    | cons hnext => exact absurd (length_lt_of_next? hnext) (Nat.not_lt_zero _)
  · intro hp
    exact ⟨[], .nil, hp⟩

theorem Sequence.plain {lexemes : List Lexeme} (hsequence : Sequence text lexemes) :
    ∀ lexeme ∈ lexemes, lexeme.IsPlain := by
  induction hsequence with
  | nil => simp
  | cons hnext _ ih => exact List.forall_mem_cons.2 ⟨next?_plain hnext, ih⟩

end Lexeme

/-- A token before the end of input that is no identifier of the placeholder's name. -/
structure Token.IsScanned (token : Token) : Prop where
  kind : token.kind ≠ .eof
  text : token.kind = .identifier → token.text ≠ Symbol.placeholder.name

namespace Scanner

variable {scanner next : Scanner}

theorem take_gap {lexeme : Lexeme} (hkind : lexeme.kind? = none) :
    scanner.take lexeme = scanner.advance (Text.byteLength lexeme.text) := by
  rw [take, hkind]

theorem take_token {lexeme : Lexeme} {kind : TokenKind} (hkind : lexeme.kind? = some kind) :
    scanner.take lexeme = scanner.emit kind lexeme.value (Text.byteLength lexeme.text) := by
  rw [take, hkind]

theorem take_scanned {lexeme : Lexeme} (hplain : lexeme.IsPlain)
    (hscanned : ∀ token ∈ scanner.tokens, token.IsScanned) :
    ∀ token ∈ (scanner.take lexeme).tokens, token.IsScanned := by
  cases hkind : lexeme.kind? with
  | none =>
      rw [take_gap hkind]
      exact hscanned
  | some kind =>
      rw [take_token hkind]
      intro token hmem
      rcases Array.mem_push.1 hmem with hold | rfl
      · exact hscanned token hold
      · refine ⟨fun heof => hplain.1 (hkind.trans (congrArg some heof)), fun hname htext => ?_⟩
        exact hplain.value_ne (hkind.trans (congrArg some hname)) htext

theorem run_cons (scanner : Scanner) (budget : Nat) (c : Char) (rest : List Char) :
    scanner.run (budget + 1) (c :: rest) =
      match Lexeme.next? (c :: rest) with
      | some (lexeme, rest) => (scanner.take lexeme).run budget rest
      | none =>
          .error
            { fault := .unrecognised (String.singleton c)
              position := scanner.source.positionAt scanner.offset } := by
  delta run
  rfl

theorem foldl_take_scanned {lexemes : List Lexeme} (hplain : ∀ lexeme ∈ lexemes, lexeme.IsPlain)
    (hscanned : ∀ token ∈ scanner.tokens, token.IsScanned) :
    ∀ token ∈ (lexemes.foldl take scanner).tokens, token.IsScanned := by
  induction lexemes generalizing scanner with
  | nil => exact hscanned
  | cons lexeme lexemes ih =>
      obtain ⟨hfirst, hothers⟩ := List.forall_mem_cons.1 hplain
      exact ih hothers (take_scanned hfirst hscanned)

theorem run_nil (scanner : Scanner) (budget : Nat) : scanner.run budget [] = .ok scanner := by
  cases budget <;> rfl

/-- A run with budget enough succeeds just if the text is a sequence of lexemes, all of which it
takes. -/
theorem run_eq_ok_iff {budget : Nat} {text : List Char} (hbudget : text.length ≤ budget) :
    scanner.run budget text = .ok next ↔
      ∃ lexemes, Lexeme.Sequence text lexemes ∧ lexemes.foldl take scanner = next := by
  induction budget generalizing scanner text with
  | zero =>
      obtain rfl : text = [] := List.length_eq_zero_iff.1 (Nat.le_zero.1 hbudget)
      rw [run_nil, Except.ok.injEq, Lexeme.exists_sequence_nil]
      rfl
  | succ budget ih =>
      cases text with
      | nil =>
          rw [run_nil, Except.ok.injEq, Lexeme.exists_sequence_nil]
          rfl
      | cons c rest =>
          rw [run_cons]
          cases hnext : Lexeme.next? (c :: rest) with
          | none =>
              constructor
              · intro hrun
                contradiction
              · rintro ⟨lexemes, hsequence, -⟩
                cases hsequence with
                | cons hlexeme => simp [hnext] at hlexeme
          | some split =>
              obtain ⟨lexeme, left⟩ := split
              have hshorter := Lexeme.length_lt_of_next? hnext
              simp only
              rw [ih (by omega)]
              constructor
              · rintro ⟨lexemes, hsequence, hfold⟩
                exact ⟨lexeme :: lexemes, .cons hnext hsequence, hfold⟩
              · rintro ⟨lexemes, hsequence, hfold⟩
                cases hsequence with
                | cons hlexeme hlater =>
                    rw [hnext] at hlexeme
                    cases hlexeme
                    exact ⟨_, hlater, hfold⟩

end Scanner

/-- A text has tokens just if it is a sequence of lexemes, and then they are the tokens of these. -/
theorem tokenize_eq_ok_iff {text file : String} {tokens : List Token} :
    tokenize text file = .ok tokens ↔
      ∃ lexemes, Lexeme.Sequence text.toList lexemes ∧
        (lexemes.foldl Scanner.take { source := .ofText text file }).close = tokens := by
  have hrun : ∀ next, Scanner.run text.toList.length { source := .ofText text file } text.toList =
      .ok next ↔ _ := fun next => Scanner.run_eq_ok_iff (Nat.le_refl _)
  unfold tokenize
  constructor
  · intro htokens
    cases hscanner : Scanner.run text.toList.length { source := .ofText text file }
      text.toList with
    | error failure => simp [hscanner] at htokens
    | ok scanner =>
        simp only [hscanner, Except.ok.injEq] at htokens
        obtain ⟨lexemes, hsequence, rfl⟩ := (hrun _).1 hscanner
        exact ⟨lexemes, hsequence, htokens⟩
  · rintro ⟨lexemes, hsequence, rfl⟩
    simp only [(hrun _).2 ⟨lexemes, hsequence, rfl⟩]

/-- The tokens of a text are scanned ones and the end of input. -/
theorem tokenize_scanned {text file : String} {tokens : List Token}
    (htokens : tokenize text file = .ok tokens) :
    ∃ body last, tokens = body ++ [last] ∧ last.kind = .eof ∧
      ∀ token ∈ body, token.IsScanned := by
  obtain ⟨lexemes, hsequence, rfl⟩ := tokenize_eq_ok_iff.1 htokens
  refine ⟨_, _, Array.toList_push, rfl, fun token hmem => ?_⟩
  exact Scanner.foldl_take_scanned hsequence.plain (by simp) token (Array.mem_toList_iff.1 hmem)

theorem eq_ok_of_toOption {ε α : Type} {result : Except ε α} {value : α}
    (hvalue : result.toOption = some value) : result = .ok value := by
  cases result with
  | error failure => simp [Except.toOption] at hvalue
  | ok found => simpa [Except.toOption] using hvalue

/-- What is decided of the tokens of a text holds of some tokens that it is scanned into. -/
theorem exists_tokens {text file : String} {p : List Token → Prop} [DecidablePred p]
    (hdecided : ((tokenize text file).toOption.any fun tokens => decide (p tokens)) = true) :
    ∃ tokens, tokenize text file = .ok tokens ∧ p tokens := by
  obtain ⟨tokens, htokens, hp⟩ := (Option.any_eq_true _ _).1 hdecided
  exact ⟨tokens, eq_ok_of_toOption htokens, of_decide_eq_true hp⟩

end SubsetC
