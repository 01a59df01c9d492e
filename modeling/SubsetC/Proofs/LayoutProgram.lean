import SubsetC.Parse.Program
import SubsetC.Proofs.LayoutExpr
import SubsetC.Proofs.Scanned

/-!
# Layout of programs

Statements, declarations and functions are blind to layout as well, and so are the
recoveries among them: where they go on is a matter of kinds of tokens.  White space and
comments between the tokens therefore never change what a program means or what is reported,
but only the places that are reported with it.
-/

namespace SubsetC

namespace Parse

/-! ## Declarations -/

theorem expectFor_blind (expected : TokenKind) (expectation : Expectation) :
    Blind Token.placeless (expectFor expected expectation) (expectFor expected expectation) := by
  unfold expectFor
  apply current_blind.bind
  intro found
  exact expectOr_blind expected
    { fault := .unexpectedFor found.describe expectation, position := found.span.start }

theorem typeSpecifier_blind : Blind (fun ty => ty) typeSpecifier typeSpecifier := by
  unfold typeSpecifier
  apply current_blind.bind
  intro token
  rw [Token.placeless_kind]
  cases Ty.ofSpecifier? token.kind with
  | some ty =>
      apply advance_blind.bind
      intro _
      exact .pure ty
  | none => exact .failAt _ _

theorem arrayType_blind (element : Ty) (position : Position) :
    Blind (fun ty => ty) (arrayType element position) (arrayType element .nowhere) := by
  unfold arrayType
  cases element.arrayOf? with
  | some ty => exact .pure ty
  | none => exact .failAt _ position

theorem adopt_blind (name : Token) (result : Except Symbol SymbolTable) :
    Blind (fun value => value) (adopt name result) (adopt name.placeless result) := by
  cases result with
  | ok symbols =>
      apply Blind.modify
      intro state
      rfl
  | error existing => exact reportMisuse_blind (.redeclaration name.text) name.span.start

theorem declareVariable_blind (name : Token) (ty : Ty) :
    Blind (fun symbol => symbol) (declareVariable name ty) (declareVariable name.placeless ty) := by
  unfold declareVariable
  apply get_blind.bind
  intro state
  apply (adopt_blind name _).bind
  intro _
  exact .pure (Symbol.variable name.text ty)

theorem declareFunction_blind (name : Token) (signature : Signature) :
    Blind (fun symbol => symbol) (declareFunction name signature)
      (declareFunction name.placeless signature) := by
  unfold declareFunction
  apply get_blind.bind
  intro state
  apply (adopt_blind name _).bind
  intro _
  exact .pure (Symbol.function name.text signature)

theorem coerce_blind (target : Ty) (value : Expr) (misuse : Ty → Ty → Misuse)
    (position : Position) :
    Blind Expr.placeless (coerce target value misuse position)
      (coerce target value.placeless misuse .nowhere) := by
  unfold coerce
  rw [Expr.placeless_ty]
  apply Blind.ite
  · exact .pure value
  · split
    · exact .pure_of value.placeless_narrow
    · exact .pure_of value.placeless_widen
    · apply (reportMisuse_blind _ position).bind
      intro _
      exact .pure value

theorem declaredType_blind (base : Ty) (name : Token) :
    Blind (fun declared => declared) (declaredType base name)
      (declaredType base name.placeless) := by
  unfold declaredType
  apply (accept_blind _).bind
  intro bracketed
  apply Blind.ite
  · apply (arrayType_blind base name.span.start).bind
    intro ty
    apply kind_blind.bind
    intro found
    apply Blind.ite
    · apply advance_blind.bind
      intro token
      rw [Token.placeless_text]
      cases arraySize? token.text with
      | some size =>
          apply (expect_blind _).bind
          intro _
          exact .pure (ty, some size)
      | none => exact .failAt _ _
    · apply (expect_blind _).bind
      intro _
      exact .pure (ty, none)
  · exact .pure (base, none)

theorem initialValue_blind (ty : Ty) :
    Blind (Option.map Expr.placeless) (initialValue ty) (initialValue ty) := by
  unfold initialValue
  apply kind_blind.bind
  intro found
  apply Blind.ite
  · apply advance_blind.bind
    intro sign
    apply (requireExpr_blind _).bind
    intro value
    exact (coerce_blind ty value .assignmentType sign.span.start).map fun _ => rfl
  · exact .pure none

theorem declarator_blind (base : Ty) (name : Token) (start : Position) :
    Blind Declaration.placeless (declarator base name start)
      (declarator base name.placeless .nowhere) := by
  unfold declarator
  apply (declaredType_blind base name).bind
  rintro ⟨ty, size?⟩
  apply Blind.ite
  · exact .failAt _ _
  · apply (declareVariable_blind name ty).bind
    intro symbol
    apply (initialValue_blind ty).bind
    intro initial?
    apply (expect_blind _).bind
    intro semicolon
    exact .pure (Declaration.mk symbol size? initial?
      { start := start, stop := semicolon.span.stop })

theorem declaration_blind : Blind Declaration.placeless declaration declaration := by
  unfold declaration
  apply position_blind.bind
  intro start
  apply typeSpecifier_blind.bind
  intro base
  apply (expectFor_blind _ _).bind
  intro name
  exact declarator_blind base name start

theorem parameter_blind (base : Ty) :
    Blind (fun symbol => symbol) (parameter base) (parameter base) := by
  unfold parameter
  apply (expectFor_blind _ _).bind
  intro name
  apply (accept_blind _).bind
  intro bracketed
  apply Blind.ite
  · apply (expect_blind _).bind
    intro _
    apply (arrayType_blind base name.span.start).bind
    intro ty
    exact declareVariable_blind name ty
  · apply Blind.ite
    · exact .failAt _ _
    · exact declareVariable_blind name base

theorem parametersFrom_blind (isFirst : Bool) (budget : Nat) :
    Blind (fun params => params) (parametersFrom isFirst budget)
      (parametersFrom isFirst budget) := by
  induction budget generalizing isFirst with
  | zero => exact .pure []
  | succ budget ih =>
      unfold parametersFrom
      apply typeSpecifier_blind.bind
      intro base
      apply kind_blind.bind
      intro found
      apply Blind.ite
      · exact .pure []
      · apply (parameter_blind base).bind
        intro symbol
        apply (accept_blind _).bind
        intro more
        apply Blind.ite
        · apply (ih false).bind
          intro others
          exact .pure (symbol :: others)
        · exact .pure [symbol]

theorem parameters_blind : Blind (fun params => params) parameters parameters := by
  unfold parameters
  apply kind_blind.bind
  intro found
  apply Blind.ite
  · exact .pure []
  · apply remaining_blind.bind
    intro count
    exact parametersFrom_blind true _

/-! ## Statements -/

/-- Without places a parse of statements gives the placeless tree. -/
abbrev BlindStmt (parse : Parse Stmt) : Prop := Blind Stmt.placeless parse parse

theorem condition_blind : Blind Expr.placeless condition condition := by
  unfold condition
  apply (expect_blind _).bind
  intro opening
  apply (requireExpr_blind _).bind
  intro test
  apply (expect_blind _).bind
  intro close
  rw [Expr.placeless_ty, Expr.placeless_start]
  apply (reportUnless_blind _ _ test.start).bind
  intro _
  exact .pure test

theorem returned_blind : BlindStmt returned := by
  unfold returned
  apply advance_blind.bind
  intro word
  apply get_blind.bind
  intro state
  apply expr_blind.bind
  intro value?
  cases value? with
  | some value =>
      apply (coerce_blind _ value .returnType word.span.start).bind
      intro coerced
      apply (expect_blind _).bind
      intro semicolon
      exact .pure (Stmt.ret (some coerced) (word.span.through semicolon.span))
  | none =>
      apply (reportUnless_blind _ _ word.span.start).bind
      intro _
      apply (expect_blind _).bind
      intro semicolon
      exact .pure (Stmt.ret none (word.span.through semicolon.span))

theorem beginning_blind (name : Token) :
    Blind Handoff.placeless (beginning name) (beginning name.placeless) := by
  have hplaceholder : Blind Handoff.placeless
      (do return Handoff.ident (← get).symbols.placeholder name.span)
      (do return Handoff.ident (← get).symbols.placeholder .nowhere) := by
    apply get_blind.bind
    intro state
    exact .pure (Handoff.ident state.symbols.placeholder name.span)
  unfold beginning
  apply (resolve_blind name.text name.span.start).bind
  intro symbol
  apply kind_blind.bind
  intro found
  apply Blind.ite
  · apply (acceptsSubscript_blind symbol).bind
    intro accepted
    apply Blind.ite
    · have hsubscript : Blind Subscript.placeless
          (withExpr fun whole => subscript whole symbol name.span)
          (withExpr fun whole => subscript whole symbol .nowhere) := by
        apply remaining_blind.bind
        intro count
        exact subscript_blind (exprWithin_blind _) symbol name.span
      apply hsubscript.attempt.bind
      intro result
      cases result with
      | ok target => exact .pure (Handoff.element target)
      | error failure =>
          apply (recoverPast_blind _ failure).bind
          intro _
          exact hplaceholder
    · apply (rejectSubscript_blind symbol name.span).bind
      intro _
      exact hplaceholder
  · exact .pure (Handoff.ident symbol name.span)

theorem assignment_blind (target : Handoff) (value : Expr) (position : Position) (span : Span) :
    Blind Stmt.placeless (assignment target value position span)
      (assignment target.placeless value.placeless .nowhere .nowhere) := by
  cases target with
  | ident symbol _ =>
      apply (coerce_blind symbol.ty value .assignmentType position).bind
      intro coerced
      exact .pure (Stmt.assign symbol coerced span)
  | element target =>
      apply (coerce_blind target.ty value .assignmentType position).bind
      intro coerced
      exact .pure (Stmt.assignElement target coerced span)

theorem namedStmt_blind : BlindStmt namedStmt := by
  unfold namedStmt
  apply advance_blind.bind
  intro name
  apply (beginning_blind name).bind
  intro handoff
  apply kind_blind.bind
  intro found
  apply Blind.ite
  · apply advance_blind.bind
    intro sign
    apply (requireExpr_blind _).bind
    intro value
    apply (expect_blind _).bind
    intro semicolon
    exact assignment_blind handoff value sign.span.start _
  · apply ((exprAfter_blind (some handoff)).orFail _).bind
    intro whole
    apply (expect_blind _).bind
    intro semicolon
    exact .pure (Stmt.evaluate whole (name.span.through semicolon.span))

theorem evaluated_blind : BlindStmt evaluated := by
  unfold evaluated
  apply current_blind.bind
  intro token
  apply (expr_blind.orFail { fault := .unexpectedFor token.describe .statement
                             position := token.span.start }).bind
  intro whole
  apply (expect_blind _).bind
  intro semicolon
  exact .pure (Stmt.evaluate whole (token.span.through semicolon.span))

theorem recoverStmt_blind (failure : Failure) :
    Blind Stmt.placeless (recoverStmt failure) (recoverStmt failure.placeless) := by
  unfold recoverStmt
  apply (recoverPast_blind _ failure).bind
  intro _
  apply position_blind.bind
  intro stop
  exact .pure (Stmt.null { start := failure.position, stop := stop })

section Nested

variable {stmt : Parse Stmt}

theorem stmtsUntilClose_blind (hstmt : BlindStmt stmt) (budget : Nat) :
    Blind Stmt.allPlaceless (stmtsUntilClose stmt budget) (stmtsUntilClose stmt budget) := by
  induction budget with
  | zero =>
      unfold stmtsUntilClose
      apply position_blind.bind
      intro start
      exact .failAt _ _
  | succ budget ih =>
      unfold stmtsUntilClose
      apply kind_blind.bind
      intro found
      split
      · exact .pure []
      · apply position_blind.bind
        intro start
        exact .failAt _ _
      · apply hstmt.attempt.bind
        intro result
        cases result with
        | ok first =>
            apply ih.bind
            intro others
            exact .pure (first :: others)
        | error failure =>
            apply (recoverStmt_blind failure).bind
            intro first
            apply ih.bind
            intro others
            exact .pure (first :: others)

theorem block_blind (hstmt : BlindStmt stmt) :
    Blind Block.placeless (block stmt) (block stmt) := by
  unfold block
  apply (expect_blind _).bind
  intro opening
  apply remaining_blind.bind
  intro count
  apply (stmtsUntilClose_blind hstmt _).bind
  intro body
  apply (expect_blind _).bind
  intro closing
  exact .pure (Block.mk body (opening.span.through closing.span))

theorem conditional_blind (hstmt : BlindStmt stmt) : BlindStmt (conditional stmt) := by
  unfold conditional
  apply advance_blind.bind
  intro word
  apply condition_blind.bind
  intro test
  apply hstmt.bind
  intro accepted
  apply (accept_blind _).bind
  intro otherwise
  apply Blind.ite
  · apply hstmt.bind
    intro rejected
    rw [Stmt.placeless_span]
    exact .pure (Stmt.conditional test accepted (some rejected) (word.span.through rejected.span))
  · rw [Stmt.placeless_span]
    exact .pure (Stmt.conditional test accepted none (word.span.through accepted.span))

theorem whileLoop_blind (hstmt : BlindStmt stmt) : BlindStmt (whileLoop stmt) := by
  unfold whileLoop
  apply advance_blind.bind
  intro word
  apply condition_blind.bind
  intro test
  apply hstmt.bind
  intro body
  rw [Stmt.placeless_span]
  exact .pure (Stmt.whileLoop test body (word.span.through body.span))

theorem stmtWith_blind (hstmt : BlindStmt stmt) : BlindStmt (stmtWith stmt) := by
  have hscope : Blind Block.placeless (inScope (block stmt)) (inScope (block stmt)) :=
    (block_blind hstmt).bracket (fun _ => rfl) fun _ => rfl
  have hdeclaration : BlindStmt (Stmt.declare <$> declaration) :=
    declaration_blind.map fun _ => rfl
  unfold stmtWith
  apply kind_blind.bind
  intro found
  split
  · exact hscope.map fun _ => rfl
  · exact conditional_blind hstmt
  · exact whileLoop_blind hstmt
  · exact returned_blind
  · apply advance_blind.bind
    intro token
    exact .pure (Stmt.null token.span)
  · exact namedStmt_blind
  · exact hdeclaration
  · exact hdeclaration
  · exact hdeclaration
  · exact evaluated_blind

end Nested

theorem stmtWithin_blind (budget : Nat) : BlindStmt (stmtWithin budget) := by
  induction budget with
  | zero =>
      apply position_blind.bind
      intro start
      exact .failAt _ _
  | succ budget ih => exact stmtWith_blind ih

/-! ## Functions -/

theorem functionBody_blind (returns : Ty) :
    Blind Block.placeless (functionBody returns) (functionBody returns) := by
  have hset : Blind (fun value => value) (setReturnType (some returns))
      (setReturnType (some returns)) := by
    apply Blind.modify
    intro state
    rfl
  unfold functionBody
  apply hset.bind
  intro _
  apply remaining_blind.bind
  intro count
  exact block_blind (stmtWithin_blind _)

theorem functionRest_blind (returns : Ty) (name : Token) (start : Position) :
    Blind FunctionDef.placeless (functionRest returns name start)
      (functionRest returns name.placeless .nowhere) := by
  unfold functionRest
  apply parameters_blind.bind
  intro params
  apply (expect_blind _).bind
  intro close
  apply (declareFunction_blind name _).bind
  intro symbol
  apply (note_blind (.enteredBody name.text)).bind
  intro _
  apply (functionBody_blind returns).bind
  intro body
  exact .pure (FunctionDef.mk symbol params body { start := start, stop := body.span.stop })

theorem function_blind (returns : Ty) (name : Token) (start : Position) :
    Blind FunctionDef.placeless (function returns name start)
      (function returns name.placeless .nowhere) := by
  unfold function
  apply (expect_blind _).bind
  intro opening
  exact (functionRest_blind returns name start).bracket (fun _ => rfl) fun _ => rfl

theorem external_blind : Blind External.placeless external external := by
  unfold external
  apply position_blind.bind
  intro start
  apply typeSpecifier_blind.bind
  intro base
  apply (expectFor_blind _ _).bind
  intro name
  apply kind_blind.bind
  intro found
  apply Blind.ite
  · exact (function_blind base name start).map fun _ => rfl
  · exact (declarator_blind base name start).map fun _ => rfl

/-! ## Programs -/

theorem externals_blind (budget : Nat) :
    Blind (List.map External.placeless) (externals budget) (externals budget) := by
  induction budget with
  | zero => exact .pure []
  | succ budget ih =>
      unfold externals
      apply hasTokens_blind.bind
      intro more
      apply Blind.ite
      · apply external_blind.attempt.bind
        intro result
        cases result with
        | ok first =>
            apply ih.bind
            intro others
            exact .pure (first :: others)
        | error failure =>
            apply (recoverPast_blind _ failure).bind
            intro _
            exact ih
      · exact .pure []

theorem takeStrings_blind : Blind (fun strings => strings) takeStrings takeStrings := by
  intro settings state
  rfl

theorem program_blind : Blind Program.placeless program program := by
  unfold program
  apply position_blind.bind
  intro start
  apply remaining_blind.bind
  intro count
  apply (externals_blind count).bind
  intro found
  apply position_blind.bind
  intro stop
  apply takeStrings_blind.bind
  intro strings
  apply get_blind.bind
  intro state
  exact .pure (Program.mk found strings state.needsPrintf { start := start, stop := stop })

theorem journaled_blind : Blind Program.placeless journaled journaled := by
  unfold journaled
  apply read_blind.bind
  intro given
  apply remaining_blind.bind
  intro count
  apply (note_blind (.started given.file (count + 1))).bind
  intro _
  apply program_blind.attempt.bind
  intro result
  apply get_blind.bind
  intro state
  have hsize : state.placeless.journal.size = state.journal.size :=
    state.journal.placeless_size
  rw [hsize]
  apply (note_blind (.finished given.file state.journal.size)).bind
  intro _
  exact .ofAttempt result

end Parse

open Parse

/-- The run on the tokens without places is the run on the tokens, without places. -/
theorem parse_placeless (settings : Settings) (tokens : List Token) :
    parse settings.placeless (tokens.map Token.placeless) =
      (placelessOutcome Program.placeless (parse settings tokens).1,
        (parse settings tokens).2.placeless) := by
  have hstart : (ParseState.ofTokens tokens settings.file).placeless =
      .ofTokens (tokens.map Token.placeless) settings.placeless.file := by
    simp only [ParseState.placeless, ParseState.ofTokens, Cursor.placeless_ofTokens,
      Journal.placeless_empty]
    rfl
  unfold parse
  rw [← hstart]
  exact journaled_blind settings _

theorem Token.map_placeless_eq_of_same {tokens others : List Token}
    (hsame : List.Forall₂ (fun token other => token.kind = other.kind ∧ token.text = other.text)
      tokens others) : tokens.map Token.placeless = others.map Token.placeless := by
  induction hsame with
  | nil => rfl
  | cons htoken _ ih =>
      rw [List.map_cons, List.map_cons, ih, Token.placeless_eq_of_same htoken.1 htoken.2]

/-- Two lists of tokens that differ in nothing but places, in whatever files they are, are
parsed alike: to the same program but for places or to the same fault, with the same causes
reported in the same order, and with the same strings, symbols and support for `printf`. -/
theorem parse_ignores_layout (settings : Settings) (file : String) {tokens others : List Token}
    (hsame : List.Forall₂ (fun token other => token.kind = other.kind ∧ token.text = other.text)
      tokens others) :
    let run := parse settings tokens
    let other := parse { settings with file := file } others
    placelessOutcome Program.placeless run.1 = placelessOutcome Program.placeless other.1 ∧
      run.2.journal.diagnostics.map Diagnostic.cause =
        other.2.journal.diagnostics.map Diagnostic.cause ∧
      run.2.strings = other.2.strings ∧ run.2.needsPrintf = other.2.needsPrintf ∧
      run.2.symbols = other.2.symbols := by
  intro run other
  have hbare := parse_placeless settings tokens
  rw [Token.map_placeless_eq_of_same hsame] at hbare
  have hruns := hbare.symm.trans (parse_placeless { settings with file := file } others)
  obtain ⟨houtcome, hstate⟩ := Prod.mk.inj hruns
  refine ⟨houtcome, ?_, ?_, ?_, ?_⟩
  · rw [← ParseState.placeless_causes, hstate, ParseState.placeless_causes]
  · rw [← ParseState.placeless_strings, hstate, ParseState.placeless_strings]
  · rw [← ParseState.placeless_needsPrintf, hstate, ParseState.placeless_needsPrintf]
  · rw [← ParseState.placeless_symbols, hstate, ParseState.placeless_symbols]

/-- A function that names what is not declared. -/
def crowdedText : String := "int f(int x)\x7bprintf(\"a\");return x+y;\x7d"

/-- The same function with white space and comments between its tokens. -/
def spacedText : String :=
  "int f ( int x )\n\x7b\n  printf ( \"a\" ) ; // a\n  return x /* y */ + y ;\n\x7d\n"

theorem crowdedText_ignores_layout :
    ∃ tokens others, tokenize crowdedText "f.c" = .ok tokens ∧
      tokenize spacedText "g.c" = .ok others ∧ tokens ≠ others ∧
      (parse { file := "f.c" } tokens).2.journal.diagnostics.size = 1 ∧
      List.Forall₂ (fun token other => token.kind = other.kind ∧ token.text = other.text)
        tokens others ∧
      placelessOutcome Program.placeless (parse { file := "f.c" } tokens).1 =
        placelessOutcome Program.placeless (parse { file := "g.c" } others).1 ∧
      (parse { file := "f.c" } tokens).2.journal.diagnostics.map Diagnostic.cause =
        (parse { file := "g.c" } others).2.journal.diagnostics.map Diagnostic.cause ∧
      (parse { file := "f.c" } tokens).2.strings = (parse { file := "g.c" } others).2.strings ∧
      (parse { file := "f.c" } tokens).2.needsPrintf =
        (parse { file := "g.c" } others).2.needsPrintf ∧
      (parse { file := "f.c" } tokens).2.symbols = (parse { file := "g.c" } others).2.symbols := by
  have hreads : ((tokenize crowdedText "f.c").toOption.any fun tokens => decide
      (((tokenize spacedText "g.c").toOption.any fun others => decide
        (tokens ≠ others ∧ (parse { file := "f.c" } tokens).2.journal.diagnostics.size = 1 ∧
          List.Forall₂ (fun token other => token.kind = other.kind ∧ token.text = other.text)
            tokens others)) = true)) = true := by
    decide +kernel
  obtain ⟨tokens, htokens, hrest⟩ := exists_tokens hreads
  obtain ⟨others, hothers, hdiffer, hreported, hsame⟩ := exists_tokens hrest
  have hconclusion := parse_ignores_layout { file := "f.c" } "g.c" hsame
  exact ⟨tokens, others, htokens, hothers, hdiffer, hreported, hsame, hconclusion⟩

end SubsetC
