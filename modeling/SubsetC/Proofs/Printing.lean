import SubsetC.Proofs.CompleteExpr

/-!
# Printed expressions are read back

An expression is printed to tokens with parentheses only where the grammar needs
them: around a left operand of a looser level, a right operand of the same or a
looser level, and an operand of `!` that is no factor.  What is printed is derived
by the grammar, so it is read back as the expression it was printed from.
-/

namespace SubsetC

/-! ## Constants -/

namespace Constant

/-- Whether a constant has a text: a number that fits 32 bits with a sign and has none,
or a character. -/
inductive IsPrintable : Constant → Prop
  | integer {value : Nat} : value ≤ 2147483647 → IsPrintable { value := value, ty := .int }
  | character {c : Char} : IsPrintable { value := c.toNat, ty := .char }

/-- A character inside single quotes.  A quote or a backslash needs an escape. -/
def escaped (c : Char) : List Char := if c = '\'' ∨ c = '\\' then ['\\', c] else [c]

def text (constant : Constant) : String :=
  if constant.ty = .char then
    String.ofList ('\'' :: (escaped (Char.ofNat constant.value.toNat) ++ ['\'']))
  else Nat.repr constant.value.toNat

theorem natural?_toDigits (value : Nat) :
    Text.natural? (Nat.toDigits 10 value) = some value := by
  unfold Text.natural?
  have hne : (Nat.toDigits 10 value).isEmpty = false := by
    rw [List.isEmpty_eq_false_iff]
    exact Nat.toDigits_ne_nil
  have hdigits : (Nat.toDigits 10 value).all Char.isDigit = true := by
    rw [List.all_eq_true]
    intro c hc
    exact Nat.isDigit_of_mem_toDigits (by decide) (by decide) hc
  rw [hne, hdigits]
  have hvalue := Nat.ofDigitChars_ten_toDigits (n := value)
  rw [Nat.ofDigitChars_eq_foldl] at hvalue
  exact congrArg some hvalue

/-- A number is not taken for a character or a signed number. -/
theorem toDigits_eq_cons (value : Nat) :
    ∃ c others, Nat.toDigits 10 value = c :: others ∧ c.isDigit = true := by
  cases hdigits : Nat.toDigits 10 value with
  | nil => exact (Nat.toDigits_ne_nil hdigits).elim
  | cons c others =>
      refine ⟨c, others, rfl, ?_⟩
      refine Nat.isDigit_of_mem_toDigits (b := 10) (n := value) (by decide) (by decide) ?_
      rw [hdigits]
      exact List.mem_cons_self

theorem signed?_toDigits (value : Nat) :
    Text.signed? (Nat.toDigits 10 value) = some (value : Int) := by
  have hnatural := natural?_toDigits value
  obtain ⟨c, others, hdigits, hc⟩ := toDigits_eq_cons value
  rw [hdigits] at hnatural ⊢
  unfold Text.signed?
  split
  · rename_i hsign
    cases hsign
    contradiction
  · unfold Text.unsigned?
    split
    · rename_i hsign
      cases hsign
      contradiction
    · rw [hnatural]
      rfl

theorem integer?_toDigits {value : Nat} (hvalue : value ≤ 2147483647) :
    integer? (Nat.toDigits 10 value) = some { value := value, ty := .int } := by
  unfold integer?
  rw [signed?_toDigits]
  simp only
  rw [if_pos (by omega)]

theorem body?_toDigits (value : Nat) : body? (Nat.toDigits 10 value) = none := by
  obtain ⟨c, others, hdigits, hc⟩ := toDigits_eq_cons value
  rw [hdigits]
  unfold body?
  split
  · rename_i hquote
    cases hquote
    contradiction
  · rfl

theorem read?_escaped (c : Char) :
    read? ('\'' :: (escaped c ++ ['\''])) = some { value := c.toNat, ty := .char } := by
  unfold escaped
  split
  · rename_i hescape
    rcases hescape with rfl | rfl <;> rfl
  · rename_i hplain
    have hunescape : Text.unescape [c] = [c] := by
      unfold Text.unescape
      split <;> simp_all [Text.unescape]
    simp [read?, body?, character?, hunescape]

theorem ofText_text {constant : Constant} (hconstant : constant.IsPrintable) :
    ofText constant.text = .ok constant := by
  cases hconstant with
  | @integer value hvalue =>
      have hread : read? (Nat.toDigits 10 value) = some { value := value, ty := .int } := by
        unfold read?
        rw [body?_toDigits]
        exact integer?_toDigits hvalue
      unfold ofText text
      rw [if_neg (by simp), Nat.toList_repr]
      simp only [Int.toNat_natCast, hread]
  | @character c =>
      unfold ofText text
      rw [if_pos rfl, String.toList_ofList]
      simp only [Int.toNat_natCast, Char.ofNat_toNat, read?_escaped]

end Constant

/-! ## Printing -/

def BinaryOp.token : BinaryOp → TokenKind
  | or => .or
  | and => .and
  | equal => .equals
  | notEqual => .notEquals
  | less => .less
  | greater => .greater
  | add => .plus
  | subtract => .dash
  | multiply => .star
  | divide => .slash
  | modulo => .percent

theorem BinaryOp.operator?_token (operator : BinaryOp) :
    operator.precedence.operator? operator.token = some operator := by
  cases operator <;> rfl

/-- What is seen of a token: its kind and its text. -/
abbrev Look := TokenKind × String

def Token.look (token : Token) : Look := (token.kind, token.text)

def TokenKind.look (kind : TokenKind) : Look := (kind, kind.lexeme)

namespace Surface

/-- The tightest nonterminal that derives an expression without parentheses. -/
def tier : Surface → Tier
  | binary operator _ _ => .chain operator.precedence
  | not _ => .value
  | _ => .factor

/-- A printed expression in a place that takes a tier: in parentheses if it is looser. -/
def fitted (place : Tier) (e : Surface) (printed : List Look) : List Look :=
  if e.tier.rank < place.rank then
    TokenKind.openParen.look :: (printed ++ [TokenKind.closeParen.look])
  else printed

mutual

def print : Surface → List Look
  | constant value => [(.constant, value.text)]
  | string text => [(.string, text)]
  | name text => [(.identifier, text)]
  | element array index =>
      (.identifier, array) :: TokenKind.openBracket.look ::
        (index.print ++ [TokenKind.closeBracket.look])
  | address array index =>
      TokenKind.ampersand.look :: (.identifier, array) :: TokenKind.openBracket.look ::
        (index.print ++ [TokenKind.closeBracket.look])
  | call callee arguments =>
      (.identifier, callee) :: TokenKind.openParen.look ::
        (printAll arguments ++ [TokenKind.closeParen.look])
  | step operator operand => [operator.token.look, (.identifier, operand)]
  | not operand => TokenKind.not.look :: fitted .factor operand operand.print
  | binary operator lhs rhs =>
      fitted (.chain operator.precedence) lhs lhs.print ++
        operator.token.look :: fitted operator.precedence.operand rhs rhs.print

def printAll : List Surface → List Look
  | [] => []
  | [last] => last.print
  | first :: second :: others =>
      first.print ++ TokenKind.comma.look :: printAll (second :: others)

end

/-- Whether every constant in an expression has a text. -/
inductive IsPrintable : Surface → Prop
  | constant {value : Constant} : value.IsPrintable → IsPrintable (.constant value)
  | string {text : String} : IsPrintable (.string text)
  | name {name : String} : IsPrintable (.name name)
  | element {array : String} {index : Surface} : IsPrintable index →
      IsPrintable (.element array index)
  | address {array : String} {index : Surface} : IsPrintable index →
      IsPrintable (.address array index)
  | call {callee : String} {arguments : List Surface} :
      (∀ argument ∈ arguments, IsPrintable argument) → IsPrintable (.call callee arguments)
  | step {operator : Step} {operand : String} : IsPrintable (.step operator operand)
  | not {operand : Surface} : IsPrintable operand → IsPrintable (.not operand)
  | binary {operator : BinaryOp} {lhs rhs : Surface} : IsPrintable lhs → IsPrintable rhs →
      IsPrintable (.binary operator lhs rhs)

end Surface

/-! ## What is printed is derived -/

/-- The tokens of a list with the looks of two parts are in two parts. -/
theorem looks_append {ts : List Token} {first second : List Look}
    (hlooks : ts.map Token.look = first ++ second) :
    ∃ us vs, ts = us ++ vs ∧ us.map Token.look = first ∧ vs.map Token.look = second :=
  List.map_eq_append_iff.1 hlooks

theorem looks_cons {ts : List Token} {first : Look} {others : List Look}
    (hlooks : ts.map Token.look = first :: others) :
    ∃ token us, ts = token :: us ∧ token.kind = first.1 ∧ token.text = first.2 ∧
      us.map Token.look = others := by
  obtain ⟨token, us, rfl, rfl, hothers⟩ := List.map_eq_cons_iff.1 hlooks
  exact ⟨token, us, rfl, rfl, rfl, hothers⟩

theorem looks_nil {ts : List Token} (hlooks : ts.map Token.look = []) : ts = [] :=
  List.map_eq_nil_iff.1 hlooks

/-- Tokens that are read as an expression wherever it may stand. -/
theorem Written.of_fitted {place : Tier} {e : Surface} {ts : List Token}
    (hprinted : ∀ ⦃us : List Token⦄, us.map Token.look = e.print → Written e.tier us e)
    (hlooks : ts.map Token.look = e.fitted place e.print) : Written place ts e := by
  unfold Surface.fitted at hlooks
  split at hlooks
  · obtain ⟨opening, us, rfl, hopen, -, hrest⟩ := looks_cons hlooks
    obtain ⟨us, last, rfl, hus, hlast⟩ := looks_append hrest
    obtain ⟨closing, others, rfl, hclose, -, hothers⟩ := looks_cons hlast
    rw [looks_nil hothers]
    have hinner : Written (.chain .logicalOr) us e := (hprinted hus).loosen (Nat.zero_le _)
    exact (Written.parenthesized hopen hclose hinner).loosen place.rank_le_factor
  · rename_i hfits
    exact (hprinted hlooks).loosen (Nat.le_of_not_lt hfits)

theorem printAll_separated {arguments : List Surface} {ts : List Token}
    (hwritten : ∀ argument ∈ arguments, ∀ ⦃us : List Token⦄,
      us.map Token.look = argument.print → Written (.chain .logicalOr) us argument)
    (hlooks : ts.map Token.look = Surface.printAll arguments) :
    ∃ parts : List (List Token × Surface),
      (∀ part ∈ parts, Written (.chain .logicalOr) part.1 part.2) ∧
      parts.map Prod.snd = arguments ∧ Separated (parts.map Prod.fst) ts := by
  induction arguments generalizing ts with
  | nil =>
      rw [Surface.printAll] at hlooks
      rw [looks_nil hlooks]
      exact ⟨[], by simp, rfl, .none⟩
  | cons first others ih =>
      have hfirst := hwritten first List.mem_cons_self
      cases others with
      | nil =>
          rw [Surface.printAll] at hlooks
          refine ⟨[(ts, first)], ?_, rfl, .one⟩
          intro part hpart
          rw [List.mem_singleton.1 hpart]
          exact hfirst hlooks
      | cons second others =>
          rw [Surface.printAll] at hlooks
          obtain ⟨us, vs, rfl, hus, hvs⟩ := looks_append hlooks
          obtain ⟨comma, vs, rfl, hcomma, -, hothers⟩ := looks_cons hvs
          obtain ⟨parts, hparts, htrees, hseparated⟩ :=
            ih (fun argument hmem => hwritten argument (List.mem_cons_of_mem _ hmem)) hothers
          cases parts with
          | nil => contradiction
          | cons part parts =>
              refine ⟨(us, first) :: part :: parts, ?_, ?_, .more hcomma hseparated⟩
              · intro other hother
                rcases List.mem_cons.1 hother with rfl | hother
                · exact hfirst hus
                · exact hparts other hother
              · rw [List.map_cons, htrees]

/-- Tokens that look as an expression is printed are derived for it. -/
theorem Surface.IsPrintable.written {e : Surface} (he : e.IsPrintable) {ts : List Token}
    (hlooks : ts.map Token.look = e.print) : Written e.tier ts e := by
  induction he generalizing ts with
  | constant hvalue =>
      rw [Surface.print] at hlooks
      obtain ⟨token, us, rfl, hkind, htext, hrest⟩ := looks_cons hlooks
      rw [looks_nil hrest]
      refine .constant hkind ?_
      rw [htext]
      exact Constant.ofText_text hvalue
  | string =>
      rw [Surface.print] at hlooks
      obtain ⟨token, us, rfl, hkind, rfl, hrest⟩ := looks_cons hlooks
      rw [looks_nil hrest]
      exact .string hkind
  | name =>
      rw [Surface.print] at hlooks
      obtain ⟨token, us, rfl, hkind, rfl, hrest⟩ := looks_cons hlooks
      rw [looks_nil hrest]
      exact .name hkind
  | element _ ih =>
      rw [Surface.print] at hlooks
      obtain ⟨name, us, rfl, hname, rfl, hrest⟩ := looks_cons hlooks
      obtain ⟨opening, us, rfl, hopen, -, hrest⟩ := looks_cons hrest
      obtain ⟨us, last, rfl, hus, hlast⟩ := looks_append hrest
      obtain ⟨closing, others, rfl, hclose, -, hothers⟩ := looks_cons hlast
      rw [looks_nil hothers]
      exact .element hname hopen hclose ((ih hus).loosen (Nat.zero_le _))
  | address _ ih =>
      rw [Surface.print] at hlooks
      obtain ⟨sign, us, rfl, hsign, -, hafter⟩ := looks_cons hlooks
      obtain ⟨name, us, rfl, hname, rfl, hrest⟩ := looks_cons hafter
      obtain ⟨opening, us, rfl, hopen, -, hrest⟩ := looks_cons hrest
      obtain ⟨us, last, rfl, hus, hlast⟩ := looks_append hrest
      obtain ⟨closing, others, rfl, hclose, -, hothers⟩ := looks_cons hlast
      rw [looks_nil hothers]
      exact .address hsign hname hopen hclose ((ih hus).loosen (Nat.zero_le _))
  | call _ ih =>
      rw [Surface.print] at hlooks
      obtain ⟨name, us, rfl, hname, rfl, hrest⟩ := looks_cons hlooks
      obtain ⟨opening, us, rfl, hopen, -, hrest⟩ := looks_cons hrest
      obtain ⟨us, last, rfl, hus, hlast⟩ := looks_append hrest
      obtain ⟨closing, others, rfl, hclose, -, hothers⟩ := looks_cons hlast
      rw [looks_nil hothers]
      obtain ⟨parts, hparts, rfl, hseparated⟩ := printAll_separated
        (fun argument hmem us hlooks => (ih argument hmem hlooks).loosen (Nat.zero_le _)) hus
      exact .call hname hopen hclose hparts hseparated
  | step =>
      rw [Surface.print] at hlooks
      obtain ⟨sign, us, rfl, hsign, -, hafter⟩ := looks_cons hlooks
      obtain ⟨name, us, rfl, hname, rfl, hrest⟩ := looks_cons hafter
      rw [looks_nil hrest]
      exact .step hsign hname
  | not _ ih =>
      rw [Surface.print] at hlooks
      obtain ⟨sign, us, rfl, hsign, -, hrest⟩ := looks_cons hlooks
      exact .not hsign (.of_fitted (fun _ => ih) hrest)
  | @binary operator _ _ _ _ ihleft ihright =>
      rw [Surface.print] at hlooks
      obtain ⟨us, vs, rfl, hus, hvs⟩ := looks_append hlooks
      obtain ⟨sign, vs, rfl, hsign, -, hrest⟩ := looks_cons hvs
      have hoperator := operator.operator?_token
      rw [← show sign.kind = operator.token from hsign] at hoperator
      exact .binary hoperator (.of_fitted (fun _ => ihleft) hus)
        (.of_fitted (fun _ => ihright) hrest)

/-! ## Reading back -/

open Parse in
/-- Without checks, a printed expression is read up to its end, if no operator, bracket
or parenthesis goes on after it: nothing is reported, and the tree that is built is the
printed expression with conversions in between. -/
theorem expr_of_print {settings : Settings} {state : ParseState} {e : Surface}
    {ts rest : List Token} (hchecks : settings.checks = false) (he : e.IsPrintable)
    (hlooks : ts.map Token.look = e.print) (hahead : state.cursor.ahead = ts ++ rest)
    (hoperator : BinaryOp.ofToken? (state.cursor.facing rest).kind = none)
    (hbracket : (state.cursor.facing rest).kind ≠ .openBracket)
    (hparen : (state.cursor.facing rest).kind ≠ .openParen) :
    ∃ tree next, expr settings state = .ok (some tree) next ∧
      next.cursor = state.cursor.facing rest ∧
      next.journal.diagnostics = state.journal.diagnostics ∧ Elaborates e tree := by
  have hwritten : Written (.chain .logicalOr) ts e := (he.written hlooks).loosen (Nat.zero_le _)
  obtain ⟨tree, next, hquiet, hnext, htree⟩ := expr_yields hchecks hwritten
    (stops_of_no_operator hbracket hparen hoperator) (Cursor.eq_facing hahead)
  exact ⟨tree, next, hquiet.1, hnext, hquiet.diagnostics_eq, htree⟩

/-- `a - (b - 1) * f(!'c')` -/
def nestedExpr : Surface :=
  .binary .subtract (.name "a")
    (.binary .multiply (.binary .subtract (.name "b") (.constant { value := 1, ty := .int }))
      (.call "f" [.not (.constant { value := 99, ty := .char })]))

def nestedTokens : List Token :=
  [.unplaced .identifier "a", .unplaced .dash "-", .unplaced .openParen "(",
    .unplaced .identifier "b", .unplaced .dash "-", .unplaced .constant "1",
    .unplaced .closeParen ")", .unplaced .star "*", .unplaced .identifier "f",
    .unplaced .openParen "(", .unplaced .not "!", .unplaced .constant "'c'",
    .unplaced .closeParen ")"]

theorem nestedExpr_isPrintable : nestedExpr.IsPrintable := by
  have hone : Constant.IsPrintable { value := (1 : Nat), ty := .int } := .integer (by decide)
  have hc : Constant.IsPrintable { value := 99, ty := .char } := .character (c := 'c')
  refine .binary .name (.binary (.binary .name (.constant hone)) (.call ?_))
  intro argument hargument
  rw [List.mem_singleton.1 hargument]
  exact .not (.constant hc)

theorem expr_of_print_nested :
    ∃ tree next,
      Parse.expr { file := "f.c", checks := false }
          (.ofTokens (nestedTokens ++ [.unplaced .eof "EOF"]) "f.c") =
        .ok (some tree) next ∧
      next.cursor.ahead = [] ∧ next.journal.diagnostics = #[] ∧ Elaborates nestedExpr tree := by
  have hchecks : ({ file := "f.c", checks := false } : Settings).checks = false := rfl
  have hlooks : nestedTokens.map Token.look = nestedExpr.print := by decide
  have hahead : (ParseState.ofTokens (nestedTokens ++ [.unplaced .eof "EOF"]) "f.c").cursor.ahead =
      nestedTokens ++ [] := rfl
  obtain ⟨tree, next, hrun, hcursor, hclean, htree⟩ :=
    expr_of_print hchecks nestedExpr_isPrintable hlooks hahead rfl (by decide) (by decide)
  exact ⟨tree, next, hrun, congrArg Cursor.ahead hcursor, hclean, htree⟩

end SubsetC
