import SubsetC.Proofs.Scanned
import SubsetC.Proofs.ShadowsExpr

/-!
# Programs without checks

A program in which no construct is passed over for a misuse of its name is read alike
with checks and without: the same tokens are passed, the same names are declared, the
faults are reported in the same order, and the tree is the relaxed one.
-/

namespace SubsetC

namespace Parse

variable {settings : Settings}

/-! ## Declarations -/

theorem coerce_shadows (target : Ty) (value : Expr) (misuse : Ty → Ty → Misuse)
    (position : Position) :
    Shadows settings Expr.relaxed (coerce target value misuse position)
      (coerce target value.relaxed misuse position) := by
  unfold coerce
  rw [Expr.relaxed_ty]
  refine .ite (.pure value) ?_
  split
  · rw [← Expr.relaxed_narrow]
    exact .pure value.narrow
  · exact pure_widen_shadows value
  · exact (reportMisuse_shadows _ _ _ _).bind fun _ => .pure value

theorem expectFor_shadows (expected : TokenKind) (expectation : Expectation) :
    ShadowsItself settings (expectFor expected expectation) := by
  unfold expectFor
  exact current_shadows.bind fun token => expectOr_shadows _ _

theorem typeSpecifier_shadows : ShadowsItself settings typeSpecifier := by
  unfold typeSpecifier
  refine current_shadows.bind fun token => ?_
  dsimp only [id]
  split
  · exact advance_shadows.bind fun _ => .pure _
  · exact .failAt _ _

theorem arrayType_shadows (element : Ty) (position : Position) :
    ShadowsItself settings (arrayType element position) := by
  unfold arrayType
  split
  · exact .pure _
  · exact .failAt _ _

theorem declaredType_shadows (base : Ty) (name : Token) :
    ShadowsItself settings (declaredType base name) := by
  unfold declaredType
  refine (accept_shadows _).bind fun bracketed => .ite ?_ (.pure _)
  refine (arrayType_shadows _ _).bind fun ty => kind_shadows.bind fun found => .ite ?_ ?_
  · refine advance_shadows.bind fun token => ?_
    dsimp only [id]
    split
    · exact (expect_shadows _).bind fun _ => .pure _
    · exact .failAt _ _
  · exact (expect_shadows _).bind fun _ => .pure _

theorem initialValue_shadows (hchecks : settings.checks = true) (ty : Ty) :
    Relaxes settings (initialValue ty) := by
  unfold initialValue
  refine kind_shadows.bind fun found => .ite ?_ (.pure none)
  refine advance_shadows.bind fun sign => (requireExpr_shadows hchecks _).bind fun value => ?_
  exact relaxes_map (coerce_shadows ty value _ _)

theorem declarator_shadows (hchecks : settings.checks = true) (base : Ty) (name : Token)
    (start : Position) :
    Shadows settings Declaration.relaxed (declarator base name start)
      (declarator base name start) := by
  unfold declarator
  refine (declaredType_shadows base name).bind ?_
  rintro ⟨ty, size?⟩
  refine .ite (.failAt _ _) ?_
  refine (declareVariable_shadows name ty).bind fun symbol =>
    (initialValue_shadows hchecks ty).bind fun initial? => ?_
  exact (expect_shadows _).bind fun semicolon =>
    .pure (Declaration.mk symbol size? initial? { start := start, stop := semicolon.span.stop })

theorem declaration_shadows (hchecks : settings.checks = true) :
    Shadows settings Declaration.relaxed declaration declaration := by
  unfold declaration
  exact position_shadows.bind fun start => typeSpecifier_shadows.bind fun base =>
    (expectFor_shadows _ _).bind fun name => declarator_shadows hchecks base name start

theorem parameter_shadows (base : Ty) : ShadowsItself settings (parameter base) := by
  unfold parameter
  refine (expectFor_shadows _ _).bind fun name => (accept_shadows _).bind fun bracketed =>
    .ite ?_ (.ite (.failAt _ _) (declareVariable_shadows _ _))
  exact (expect_shadows _).bind fun _ => (arrayType_shadows _ _).bind fun ty =>
    declareVariable_shadows _ _

theorem parametersFrom_shadows (isFirst : Bool) (budget : Nat) :
    ShadowsItself settings (parametersFrom isFirst budget) := by
  induction budget generalizing isFirst with
  | zero => exact .pure _
  | succ budget ih =>
      unfold parametersFrom
      refine typeSpecifier_shadows.bind fun base => kind_shadows.bind fun found =>
        .ite (.pure _) ?_
      refine (parameter_shadows base).bind fun symbol => (accept_shadows _).bind fun more =>
        .ite ?_ (.pure _)
      exact (ih false).bind fun others => .pure _

theorem parameters_shadows : ShadowsItself settings parameters := by
  unfold parameters
  refine kind_shadows.bind fun found => .ite (.pure _) ?_
  exact remaining_shadows.bind fun count => parametersFrom_shadows true _

/-! ## Statements -/

/-- Without checks a parse of statements gives the relaxed statement. -/
abbrev RelaxesStmt (settings : Settings) (parse : Parse Stmt) : Prop :=
  Shadows settings Stmt.relaxed parse parse

theorem condition_shadows (hchecks : settings.checks = true) :
    Shadows settings Expr.relaxed condition condition := by
  unfold condition
  refine (expect_shadows _).bind fun _ => (requireExpr_shadows hchecks _).bind fun test =>
    (expect_shadows _).bind fun _ => ?_
  exact (reportUnless_shadows _ _ _ _ _ _).bind fun _ => .pure test

theorem returned_shadows (hchecks : settings.checks = true) : RelaxesStmt settings returned := by
  unfold returned
  refine advance_shadows.bind fun word => .get_bind fun state other hstate => ?_
  rw [hstate.returnType?]
  refine (expr_shadows hchecks).bind fun value? => ?_
  cases value? with
  | some value =>
      refine (coerce_shadows _ value _ _).bind fun fitted => ?_
      exact (expect_shadows _).bind fun semicolon =>
        .pure (Stmt.ret (some fitted) (word.span.through semicolon.span))
  | none =>
      refine (reportUnless_shadows _ _ _ _ _ _).bind fun _ => ?_
      exact (expect_shadows _).bind fun semicolon =>
        .pure (Stmt.ret none (word.span.through semicolon.span))

theorem beginning_shadows (hchecks : settings.checks = true) (name : Token) :
    Shadows settings Handoff.relaxed (beginning name) (beginning name) := by
  have hreplaced : Shadows settings Handoff.relaxed
      (do return .ident (← get).symbols.placeholder name.span)
      (do return .ident (← get).symbols.placeholder name.span) :=
    .get_bind fun _ _ hstate => by
      rw [hstate.symbols]
      exact .pure (Handoff.ident _ name.span)
  unfold beginning
  refine (resolve_shadows _ _).bind fun symbol => kind_shadows.bind fun found =>
    .ite ?_ (.pure (Handoff.ident symbol name.span))
  refine (acceptsSubscript_shadows symbol).bind fun accepted => ?_
  cases accepted with
  | true =>
      have hsubscript : Shadows settings Subscript.relaxed
          (withExpr fun whole => subscript whole symbol name.span)
          (withExpr fun whole => subscript whole symbol name.span) :=
        remaining_shadows.bind fun _ =>
          subscript_shadows (exprWithin_shadows hchecks _) symbol name.span
      refine hsubscript.attempt.bind fun result => ?_
      cases result with
      | ok target => exact .pure (Handoff.element target)
      | error failure => exact (recoverPast_shadows _ failure).bind fun _ => hreplaced
  | false => exact rejectSubscript_shadows hchecks symbol name.span _ _

theorem assignment_shadows (target : Handoff) (value : Expr) (position : Position) (span : Span) :
    Shadows settings Stmt.relaxed (assignment target value position span)
      (assignment target.relaxed value.relaxed position span) := by
  unfold assignment
  cases target with
  | ident symbol _ =>
      exact (coerce_shadows _ value _ _).bind fun fitted => .pure (Stmt.assign symbol fitted span)
  | element target =>
      exact (coerce_shadows _ value _ _).bind fun fitted =>
        .pure (Stmt.assignElement target fitted span)

theorem namedStmt_shadows (hchecks : settings.checks = true) :
    RelaxesStmt settings namedStmt := by
  unfold namedStmt
  refine advance_shadows.bind fun name => (beginning_shadows hchecks name).bind fun handoff =>
    kind_shadows.bind fun found => .ite ?_ ?_
  · refine advance_shadows.bind fun sign => (requireExpr_shadows hchecks _).bind fun value =>
      (expect_shadows _).bind fun semicolon => ?_
    exact assignment_shadows handoff value _ _
  · have hexpr := exprAfter_shadows hchecks (some handoff)
    refine (hexpr.orFail _).bind fun whole => (expect_shadows _).bind fun semicolon => ?_
    exact .pure (Stmt.evaluate whole (name.span.through semicolon.span))

theorem evaluated_shadows (hchecks : settings.checks = true) :
    RelaxesStmt settings evaluated := by
  unfold evaluated
  refine current_shadows.bind fun token => ((expr_shadows hchecks).orFail _).bind fun whole => ?_
  exact (expect_shadows _).bind fun semicolon =>
    .pure (Stmt.evaluate whole (token.span.through semicolon.span))

section Nested

variable {stmt : Parse Stmt}

theorem recoverStmt_shadows (failure : Failure) : RelaxesStmt settings (recoverStmt failure) := by
  unfold recoverStmt
  exact (recoverPast_shadows _ failure).bind fun _ => position_shadows.bind fun stop =>
    .pure (Stmt.null { start := failure.position, stop := stop })

theorem stmtsUntilClose_shadows (hstmt : RelaxesStmt settings stmt) (budget : Nat) :
    Shadows settings Stmt.allRelaxed (stmtsUntilClose stmt budget)
      (stmtsUntilClose stmt budget) := by
  induction budget with
  | zero =>
      unfold stmtsUntilClose
      exact position_shadows.bind fun start => .failAt _ _
  | succ budget ih =>
      unfold stmtsUntilClose
      refine kind_shadows.bind fun found => ?_
      dsimp only [id]
      split
      · exact .pure []
      · exact position_shadows.bind fun start => .failAt _ _
      · refine hstmt.attempt.bind fun result => ?_
        cases result with
        | ok first => exact ih.bind fun others => .pure (first :: others)
        | error failure =>
            exact (recoverStmt_shadows failure).bind fun first => ih.bind fun others =>
              .pure (first :: others)

theorem block_shadows (hstmt : RelaxesStmt settings stmt) :
    Shadows settings Block.relaxed (block stmt) (block stmt) := by
  unfold block
  refine (expect_shadows _).bind fun opening => remaining_shadows.bind fun count =>
    (stmtsUntilClose_shadows hstmt _).bind fun body => ?_
  exact (expect_shadows _).bind fun closing =>
    .pure (Block.mk body (opening.span.through closing.span))

theorem conditional_shadows (hchecks : settings.checks = true) (hstmt : RelaxesStmt settings stmt) :
    RelaxesStmt settings (conditional stmt) := by
  unfold conditional
  refine advance_shadows.bind fun word => (condition_shadows hchecks).bind fun test =>
    hstmt.bind fun accepted => (accept_shadows _).bind fun otherwise => .ite ?_ ?_
  · refine hstmt.bind fun rejected => ?_
    rw [Stmt.relaxed_span]
    exact .pure (Stmt.conditional test accepted (some rejected) _)
  · rw [Stmt.relaxed_span]
    exact .pure (Stmt.conditional test accepted none _)

theorem whileLoop_shadows (hchecks : settings.checks = true) (hstmt : RelaxesStmt settings stmt) :
    RelaxesStmt settings (whileLoop stmt) := by
  unfold whileLoop
  refine advance_shadows.bind fun word => (condition_shadows hchecks).bind fun test =>
    hstmt.bind fun body => ?_
  rw [Stmt.relaxed_span]
  exact .pure (Stmt.whileLoop test body _)

theorem stmtWith_shadows (hchecks : settings.checks = true) (hstmt : RelaxesStmt settings stmt) :
    RelaxesStmt settings (stmtWith stmt) := by
  unfold stmtWith
  refine kind_shadows.bind fun found => ?_
  have hdeclaration : RelaxesStmt settings (Stmt.declare <$> declaration) :=
    (declaration_shadows hchecks).map fun _ => rfl
  dsimp only [id]
  split
  · exact (block_shadows hstmt).inScope.map fun _ => rfl
  · exact conditional_shadows hchecks hstmt
  · exact whileLoop_shadows hchecks hstmt
  · exact returned_shadows hchecks
  · exact advance_shadows.bind fun token => .pure (Stmt.null token.span)
  · exact namedStmt_shadows hchecks
  · exact hdeclaration
  · exact hdeclaration
  · exact hdeclaration
  · exact evaluated_shadows hchecks

end Nested

theorem stmtWithin_shadows (hchecks : settings.checks = true) (budget : Nat) :
    RelaxesStmt settings (stmtWithin budget) := by
  induction budget with
  | zero => exact position_shadows.bind fun start => .failAt _ _
  | succ budget ih => exact stmtWith_shadows hchecks ih

/-! ## Programs -/

theorem setReturnType_shadows (ty? : Option Ty) : ShadowsItself settings (setReturnType ty?) :=
  .of_run _ _ fun _ _ hstate => ⟨rfl, { hstate with returnType? := rfl }⟩

theorem functionRest_shadows (hchecks : settings.checks = true) (returns : Ty) (name : Token)
    (start : Position) :
    Shadows settings FunctionDef.relaxed (functionRest returns name start)
      (functionRest returns name start) := by
  have hbody : Shadows settings Block.relaxed (functionBody returns) (functionBody returns) :=
    (setReturnType_shadows _).bind fun _ => remaining_shadows.bind fun _ =>
      block_shadows (stmtWithin_shadows hchecks _)
  unfold functionRest
  refine parameters_shadows.bind fun params => (expect_shadows _).bind fun _ =>
    (declareFunction_shadows _ _).bind fun symbol => (note_shadows _ _).bind fun _ =>
      hbody.bind fun body => ?_
  exact .pure (FunctionDef.mk symbol params body { start := start, stop := body.span.stop })

theorem function_shadows (hchecks : settings.checks = true) (returns : Ty) (name : Token)
    (start : Position) :
    Shadows settings FunctionDef.relaxed (function returns name start)
      (function returns name start) := by
  unfold function
  refine (expect_shadows _).bind fun _ =>
    (functionRest_shadows hchecks returns name start).bracket (fun hstate => ?_) (fun hstate => ?_)
      fun _ => ⟨rfl, rfl⟩
  · exact { hstate with symbols := by simp only [hstate.symbols] }
  · exact { hstate with symbols := by simp only [hstate.symbols], returnType? := rfl }

theorem external_shadows (hchecks : settings.checks = true) :
    Shadows settings External.relaxed external external := by
  unfold external
  refine position_shadows.bind fun start => typeSpecifier_shadows.bind fun base =>
    (expectFor_shadows _ _).bind fun name => kind_shadows.bind fun found => .ite ?_ ?_
  · exact (function_shadows hchecks base name start).map fun _ => rfl
  · exact (declarator_shadows hchecks base name start).map fun _ => rfl

theorem externals_shadows (hchecks : settings.checks = true) (budget : Nat) :
    Shadows settings (List.map External.relaxed) (externals budget) (externals budget) := by
  induction budget with
  | zero => exact .pure []
  | succ budget ih =>
      unfold externals
      refine hasTokens_shadows.bind fun more => .ite ?_ (.pure [])
      refine (external_shadows hchecks).attempt.bind fun result => ?_
      cases result with
      | ok first => exact ih.bind fun others => .pure (first :: others)
      | error failure => exact (recoverPast_shadows _ failure).bind fun _ => ih

theorem takeStrings_shadows : ShadowsItself settings takeStrings where
  keeps hrejected := hrejected
  follows hstate :=
    .inr ⟨congrArg Except.ok hstate.strings, { hstate with strings := rfl }⟩

theorem program_shadows (hchecks : settings.checks = true) :
    Shadows settings Program.relaxed program program := by
  unfold program
  refine position_shadows.bind fun start => remaining_shadows.bind fun count =>
    (externals_shadows hchecks count).bind fun found => position_shadows.bind fun stop =>
      takeStrings_shadows.bind fun strings => .get_bind fun state other hstate => ?_
  rw [hstate.needsPrintf]
  exact .pure (Program.mk found strings state.needsPrintf { start := start, stop := stop })

theorem journaled_shadows (hchecks : settings.checks = true) :
    Shadows settings Program.relaxed journaled journaled := by
  unfold journaled
  refine read_shadows.bind fun found => remaining_shadows.bind fun count =>
    (note_shadows _ _).bind fun _ => (program_shadows hchecks).attempt.bind fun result =>
      .get_bind fun state other _ => (note_shadows _ _).bind fun _ => ?_
  exact .ofAttempt result

end Parse

open Parse

/-- If with checks no name is reported as no array or no function, then a run without
checks has the same result up to the narrowed arguments, reports the faults of the
checked run in their order and nothing else, and leaves the same cursor, symbols and
strings. -/
theorem parse_unchecked {settings : Settings} {tokens : List Token}
    (hchecks : settings.checks = true)
    (haccepted : ∀ diagnostic ∈ (parse settings tokens).2.journal.diagnostics.toList,
      diagnostic.rejects = false) :
    (parse settings.unchecked tokens).1 = (parse settings tokens).1.map Program.relaxed ∧
      Unchecks (parse settings tokens).2 (parse settings.unchecked tokens).2 := by
  have hinitial : Unchecks (.ofTokens tokens settings.file)
      (.ofTokens tokens settings.unchecked.file) :=
    ⟨rfl, rfl, rfl, rfl, rfl, rfl⟩
  obtain ⟨diagnostic, hmem, hrejected⟩ | hparallel := (journaled_shadows hchecks).follows hinitial
  · have haccepted := haccepted diagnostic hmem
    rw [hrejected] at haccepted
    contradiction
  · exact ⟨hparallel.value, hparallel.state⟩

/-- A function with a narrowed argument, an unknown name and a statement that is passed
over. -/
def relaxedText : String :=
  "int f(char d) \x7b f(2); d = g; d = ; return 0; \x7d"

theorem relaxedText_unchecked :
    ∃ tokens, tokenize relaxedText "f.c" = .ok tokens ∧
      (parse { file := "f.c" } tokens).2.journal.diagnostics.toList.map Diagnostic.rejects =
        [false, false] ∧
      (parse { file := "f.c", checks := false } tokens).1 =
        (parse { file := "f.c" } tokens).1.map Program.relaxed ∧
      Unchecks (parse { file := "f.c" } tokens).2
        (parse { file := "f.c", checks := false } tokens).2 := by
  have hreads : ((tokenize relaxedText "f.c").toOption.any fun tokens => decide
      ((parse { file := "f.c" } tokens).2.journal.diagnostics.toList.map Diagnostic.rejects =
        [false, false])) = true := by
    decide +kernel
  obtain ⟨tokens, htokens, haccepted⟩ := exists_tokens hreads
  have hchecks : ({ file := "f.c" } : Settings).checks = true := rfl
  have haccepts : ∀ diagnostic ∈ (parse { file := "f.c" } tokens).2.journal.diagnostics.toList,
      diagnostic.rejects = false := by
    intro diagnostic hmem
    have hmem := List.mem_map_of_mem (f := Diagnostic.rejects) hmem
    rw [haccepted] at hmem
    simpa using hmem
  have hunchecked := parse_unchecked hchecks haccepts
  exact ⟨tokens, htokens, haccepted, hunchecked⟩

end SubsetC
