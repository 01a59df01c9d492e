import SubsetC.Proofs.EndOfInputProgram
import SubsetC.Proofs.TreeInvariantExpr

/-!
# Programs maintain invariants of trees

The expressions of every statement, declaration and function are trees of an invariant,
also where a recovery has dropped what stood before them.
-/

namespace SubsetC

/-! ## The expressions of a program -/

def Declaration.exprs (declaration : Declaration) : List Expr := declaration.initial?.toList

namespace Stmt

mutual

/-- The whole expressions of a statement.  The index of an assigned element is one. -/
@[simp] def exprs : Stmt → List Expr
  | declare declaration => declaration.exprs
  | assign _ value _ => [value]
  | assignElement target value _ => [target.index, value]
  | evaluate expr _ => [expr]
  | ret value? _ => value?.toList
  | conditional condition accepted none _ => condition :: accepted.exprs
  | conditional condition accepted (some rejected) _ =>
      condition :: (accepted.exprs ++ rejected.exprs)
  | whileLoop condition body _ => condition :: body.exprs
  | block body _ => allExprs body
  | null _ => []

@[simp] def allExprs : List Stmt → List Expr
  | [] => []
  | stmt :: others => stmt.exprs ++ allExprs others

end

end Stmt

def External.exprs : External → List Expr
  | .global declaration => declaration.exprs
  | .function defined => Stmt.allExprs defined.body.body

def Program.exprs (program : Program) : List Expr := program.externals.flatMap External.exprs

namespace Parse

variable {I : TreeInvariant} {settings : Settings}

def TreeInvariant.trees (I : TreeInvariant) (es : List Expr) : Prop := ∀ e ∈ es, I.tree e

def TreeInvariant.stmt (I : TreeInvariant) (stmt : Stmt) : Prop := I.trees stmt.exprs

def TreeInvariant.declaration (I : TreeInvariant) (declaration : Declaration) : Prop :=
  I.trees declaration.exprs

def TreeInvariant.external (I : TreeInvariant) (external : External) : Prop :=
  I.trees external.exprs

@[simp] theorem TreeInvariant.trees_nil : I.trees [] := by simp [trees]

@[simp] theorem TreeInvariant.trees_cons {e : Expr} {others : List Expr} :
    I.trees (e :: others) ↔ I.tree e ∧ I.trees others := by simp [trees]

@[simp] theorem TreeInvariant.trees_append {es others : List Expr} :
    I.trees (es ++ others) ↔ I.trees es ∧ I.trees others := by
  simp [trees, or_imp, forall_and]

@[simp] theorem TreeInvariant.trees_toList {e? : Option Expr} :
    I.trees e?.toList ↔ I.tree? e? := by simp [trees, tree?]

/-! ## Declarations -/

theorem expectFor_maintains (expected : TokenKind) (expectation : Expectation) :
    Maintains I settings I.token (expectFor expected expectation) := by
  unfold expectFor
  exact current_maintains.bind fun found hfound => expectOr_maintains expected hfound

theorem typeSpecifier_maintains : Maintains I settings (fun _ => True) typeSpecifier := by
  unfold typeSpecifier
  refine current_maintains.bind_of (fun token => ?_) fun token htoken => ?_
  · split <;> infer_instance
  split
  · exact advance_maintains.after fun _ => .pure trivial
  · exact .failAt htoken

theorem arrayType_maintains (element : Ty) {position : Position} (hposition : I.place position) :
    Maintains I settings (fun _ => True) (arrayType element position) := by
  unfold arrayType
  cases element.arrayOf? with
  | some ty => exact .pure trivial
  | none => exact .failAt hposition

theorem coerce_maintains (target : Ty) {value : Expr} (misuse : Ty → Ty → Misuse)
    {position : Position} (hvalue : I.tree value) (hposition : I.place position) :
    Maintains I settings I.tree (coerce target value misuse position) := by
  unfold coerce
  refine .ite (.pure hvalue) ?_
  split
  · exact .pure (TreeInvariant.narrow hvalue)
  · exact .pure (TreeInvariant.widen hvalue)
  · exact (reportMisuse_maintains _ hposition).after fun _ => .pure hvalue

/-- A name that is refused is reported at its token. -/
theorem declareVariable_maintains (ty : Ty) {name : Token} (hname : I.token name) :
    Maintains I settings (fun _ => True) (declareVariable name ty) where
  leads := inferInstance
  fine state hsound hbefore := by
    cases hdeclare : state.symbols.declare (.variable name.text ty) with
    | ok symbols =>
        rw [run_of_ok (declareVariable_declared hdeclare)] at hbefore ⊢
        exact ⟨I.sound_of (StmtRelation.declare state _ symbols hdeclare) rfl hsound, trivial⟩
    | error existing =>
        rw [run_congr (declareVariable_refused hdeclare)] at hbefore ⊢
        have hreport : Maintains I settings (fun _ => True)
            (do
              reportMisuse (.redeclaration name.text) name.span.start
              return Symbol.variable name.text ty) :=
          (reportMisuse_maintains _ hname).after fun _ => .pure trivial
        exact hreport.fine state hsound hbefore

theorem declareFunction_maintains (signature : Signature) {name : Token} (hname : I.token name) :
    Maintains I settings (fun _ => True) (declareFunction name signature) where
  leads := inferInstance
  fine state hsound hbefore := by
    cases hdeclare : state.symbols.declareGlobal (.function name.text signature) with
    | ok symbols =>
        rw [run_of_ok (declareFunction_declared hdeclare)] at hbefore ⊢
        have hleads : Grows state { state with symbols := symbols } := .of_eq rfl rfl
        exact ⟨I.sound_of hleads rfl hsound, trivial⟩
    | error existing =>
        rw [run_congr (declareFunction_refused hdeclare)] at hbefore ⊢
        have hreport : Maintains I settings (fun _ => True)
            (do
              reportMisuse (.redeclaration name.text) name.span.start
              return Symbol.function name.text signature) :=
          (reportMisuse_maintains _ hname).after fun _ => .pure trivial
        exact hreport.fine state hsound hbefore

theorem declaredType_maintains (base : Ty) {name : Token} (hname : I.token name) :
    Maintains I settings (fun _ => True) (declaredType base name) := by
  unfold declaredType
  refine (accept_maintains _).after fun bracketed => .ite ?_ (.pure trivial)
  refine (arrayType_maintains base hname).after fun ty => kind_maintains.after fun kind => ?_
  refine .ite ?_ ((expect_maintains _).after fun _ => .pure trivial)
  refine advance_maintains.bind_of (fun token => ?_) fun token htoken => ?_
  · split <;> infer_instance
  split
  · exact (expect_maintains _).after fun _ => .pure trivial
  · exact .failAt htoken

theorem initialValue_maintains (ty : Ty) : Maintains I settings I.tree? (initialValue ty) := by
  unfold initialValue
  refine kind_maintains.after fun kind => .ite ?_ (.pure TreeInvariant.tree?_none)
  refine advance_maintains.bind fun sign hsign => ?_
  refine (requireExpr_maintains _).bind fun value hvalue => ?_
  exact tree?_of_tree (coerce_maintains ty _ hvalue hsign)

theorem declarator_maintains (base : Ty) {name : Token} (start : Position)
    (hname : I.token name) :
    Maintains I settings I.declaration (declarator base name start) := by
  unfold declarator
  refine (declaredType_maintains base hname).after fun (ty, size?) => .ite (.failAt hname) ?_
  refine (declareVariable_maintains ty hname).after fun symbol => ?_
  refine (initialValue_maintains ty).bind fun initial? hinitial => ?_
  refine (expect_maintains _).after fun semicolon => .pure ?_
  simpa [TreeInvariant.declaration, Declaration.exprs] using hinitial

theorem declaration_maintains : Maintains I settings I.declaration declaration := by
  unfold declaration
  refine position_maintains.after fun start => typeSpecifier_maintains.after fun base => ?_
  exact (expectFor_maintains _ _).bind fun name hname => declarator_maintains base start hname

theorem parameter_maintains (base : Ty) :
    Maintains I settings (fun _ => True) (parameter base) := by
  unfold parameter
  refine (expectFor_maintains _ _).bind fun name hname => (accept_maintains _).after fun _ => ?_
  refine .ite ?_ (.ite (.failAt hname) (declareVariable_maintains base hname))
  refine (expect_maintains _).after fun _ => (arrayType_maintains base hname).after fun ty => ?_
  exact declareVariable_maintains ty hname

theorem parametersFrom_maintains (isFirst : Bool) (budget : Nat) :
    Maintains I settings (fun _ => True) (parametersFrom isFirst budget) := by
  induction budget generalizing isFirst with
  | zero => exact .pure trivial
  | succ budget ih =>
      unfold parametersFrom
      refine typeSpecifier_maintains.after fun base => kind_maintains.after fun kind => ?_
      refine .ite (.pure trivial) ((parameter_maintains base).after fun symbol => ?_)
      refine (accept_maintains _).after fun more => .ite ?_ (.pure trivial)
      exact (ih false).after fun others => .pure trivial

theorem parameters_maintains : Maintains I settings (fun _ => True) parameters := by
  unfold parameters
  refine kind_maintains.after fun kind => .ite (.pure trivial) ?_
  exact remaining_maintains.after fun _ => parametersFrom_maintains _ _

/-! ## Statements -/

theorem condition_maintains : Maintains I settings I.tree condition := by
  unfold condition
  refine (expect_maintains _).after fun _ => (requireExpr_maintains _).bind fun test htest => ?_
  refine (expect_maintains _).after fun _ => ?_
  exact (reportUnless_maintains _ _ (I.start htest)).after fun _ => .pure htest

theorem returned_maintains : Maintains I settings I.stmt returned := by
  unfold returned
  refine advance_maintains.bind_of (fun word => ?_) fun word hword => ?_
  · exact .bind inferInstance fun _ => .bind inferInstance fun value? => by
      cases value? <;> infer_instance
  refine Maintains.get.after fun _ => expr_maintains.option_bind (fun value hvalue => ?_) ?_
  · refine (coerce_maintains _ _ hvalue hword).bind fun fitted hfitted => ?_
    refine (expect_maintains _).after fun semicolon => .pure ?_
    simpa [TreeInvariant.stmt]
  · refine (reportUnless_maintains _ _ hword).after fun _ => ?_
    refine (expect_maintains _).after fun semicolon => .pure ?_
    simp [TreeInvariant.stmt]

theorem beginning_maintains {name : Token} (hname : I.token name) :
    Maintains I settings I.handoff (beginning name) := by
  unfold beginning
  have hreplaced : Maintains I settings I.handoff
      (do return .ident (← get).symbols.placeholder name.span) :=
    Maintains.get.after fun _ => .pure hname
  refine (resolve_maintains _ hname).after fun symbol => kind_maintains.after fun kind => ?_
  refine .ite ?_ (.pure hname)
  refine (acceptsSubscript_maintains symbol).after fun accepted => .ite ?_ ?_
  · have hsubscript : Maintains I settings I.subscript
        (withExpr fun whole => subscript whole symbol name.span) :=
      remaining_maintains.after fun _ => subscript_maintains (exprWithin_maintains _) symbol hname
    refine hsubscript.attempt_bind (fun target htarget => .pure htarget)
      fun failure hfailure => ?_
    exact (recoverPast_maintains _ hfailure).after fun _ => hreplaced
  · exact (rejectSubscript_maintains symbol hname).after fun _ => hreplaced

theorem assignment_maintains {target : Handoff} {value : Expr} {position : Position}
    (span : Span) (htarget : I.handoff target) (hvalue : I.tree value)
    (hposition : I.place position) :
    Maintains I settings I.stmt (assignment target value position span) := by
  unfold assignment
  cases target with
  | ident symbol _ =>
      refine (coerce_maintains _ _ hvalue hposition).bind fun fitted hfitted => .pure ?_
      simpa [TreeInvariant.stmt]
  | element target =>
      refine (coerce_maintains _ _ hvalue hposition).bind fun fitted hfitted => .pure ?_
      simpa [TreeInvariant.stmt] using ⟨htarget.2, hfitted⟩

theorem namedStmt_maintains : Maintains I settings I.stmt namedStmt := by
  unfold namedStmt
  refine advance_maintains.bind fun name hname => ?_
  refine (beginning_maintains hname).bind fun handoff hhandoff => ?_
  refine kind_maintains.after fun kind => .ite ?_ ?_
  · refine advance_maintains.bind fun sign hsign => ?_
    refine (requireExpr_maintains _).bind fun value hvalue => ?_
    exact (expect_maintains _).after fun semicolon =>
      assignment_maintains _ hhandoff hvalue hsign
  · have hexpr : Maintains I settings I.tree? (exprAfter (some handoff)) :=
      exprAfter_carries _ fun _ hsome => by
        cases hsome
        exact hhandoff
    have hname : I.place name.span.start := hname
    refine (hexpr.orFail hname).bind fun found hfound => ?_
    refine (expect_maintains _).after fun semicolon => .pure ?_
    simpa [TreeInvariant.stmt]

theorem evaluated_maintains : Maintains I settings I.stmt evaluated := by
  unfold evaluated
  refine current_maintains.bind fun token htoken => ?_
  have htoken : I.place token.span.start := htoken
  refine (expr_maintains.orFail htoken).bind fun found hfound => ?_
  refine (expect_maintains _).after fun semicolon => .pure ?_
  simpa [TreeInvariant.stmt]

theorem recoverStmt_maintains {failure : Failure} (hfailure : I.place failure.position) :
    Maintains I settings I.stmt (recoverStmt failure) := by
  unfold recoverStmt
  refine (recoverPast_maintains _ hfailure).after fun _ => position_maintains.after fun stop => ?_
  exact .pure (by simp [TreeInvariant.stmt])

section Nested

variable {stmt : Parse Stmt} [Respects Grows stmt]

theorem stmtsUntilClose_maintains (hstmt : Maintains I settings I.stmt stmt) (budget : Nat) :
    Maintains I settings (fun body => I.trees (Stmt.allExprs body))
      (stmtsUntilClose stmt budget) := by
  induction budget with
  | zero => exact position_maintains.bind fun _ hposition => .failAt hposition
  | succ budget ih =>
      have hjoined (first : Stmt) (hfirst : I.stmt first) :
          Maintains I settings (fun body => I.trees (Stmt.allExprs body))
            (do return first :: (← stmtsUntilClose stmt budget)) :=
        ih.bind fun others hothers => .pure (by simpa using ⟨hfirst, hothers⟩)
      unfold stmtsUntilClose
      refine kind_maintains.after fun kind => ?_
      split
      · exact .pure (by simp)
      · exact position_maintains.bind fun _ hposition => .failAt hposition
      · refine hstmt.attempt_bind hjoined fun failure hfailure => ?_
        exact (recoverStmt_maintains hfailure).bind hjoined

theorem block_maintains (hstmt : Maintains I settings I.stmt stmt) :
    Maintains I settings (fun block => I.trees (Stmt.allExprs block.body)) (block stmt) := by
  unfold block
  refine (expect_maintains _).after fun opening => remaining_maintains.after fun _ => ?_
  refine (stmtsUntilClose_maintains hstmt _).bind fun body hbody => ?_
  exact (expect_maintains _).after fun closing => .pure hbody

theorem conditional_maintains (hstmt : Maintains I settings I.stmt stmt) :
    Maintains I settings I.stmt (conditional stmt) := by
  unfold conditional
  refine advance_maintains.after fun word => condition_maintains.bind fun test htest => ?_
  refine hstmt.bind fun accepted haccepted => (accept_maintains _).after fun otherwise => ?_
  refine .ite (hstmt.bind fun rejected hrejected => .pure ?_) (.pure ?_)
  · simpa [TreeInvariant.stmt] using ⟨htest, haccepted, hrejected⟩
  · simpa [TreeInvariant.stmt] using ⟨htest, haccepted⟩

theorem whileLoop_maintains (hstmt : Maintains I settings I.stmt stmt) :
    Maintains I settings I.stmt (whileLoop stmt) := by
  unfold whileLoop
  refine advance_maintains.after fun word => condition_maintains.bind fun test htest => ?_
  refine hstmt.bind fun body hbody => .pure ?_
  simpa [TreeInvariant.stmt] using ⟨htest, hbody⟩

theorem inScope_maintains {α : Type} {P : α → Prop} {parse : Parse α}
    (hparse : Maintains I settings P parse) : Maintains I settings P (inScope parse) :=
  hparse.bracket (fun _ => .of_eq rfl rfl) (fun _ => rfl) (fun _ => .of_eq rfl rfl) fun _ => rfl

theorem stmtWith_maintains (hstmt : Maintains I settings I.stmt stmt) :
    Maintains I settings I.stmt (stmtWith stmt) := by
  have hdeclaration : Maintains I settings I.stmt (Stmt.declare <$> declaration) :=
    declaration_maintains.map fun _ hdeclared => by simpa [TreeInvariant.stmt]
  unfold stmtWith
  refine kind_maintains.after fun kind => ?_
  split
  · refine (inScope_maintains (block_maintains hstmt)).map fun block hblock => ?_
    simpa [TreeInvariant.stmt, Block.toStmt] using hblock
  · exact conditional_maintains hstmt
  · exact whileLoop_maintains hstmt
  · exact returned_maintains
  · exact advance_maintains.after fun token =>
      .pure (by simp [TreeInvariant.stmt])
  · exact namedStmt_maintains
  · exact hdeclaration
  · exact hdeclaration
  · exact hdeclaration
  · exact evaluated_maintains

end Nested

theorem stmtWithin_maintains (budget : Nat) :
    Maintains I settings I.stmt (stmtWithin budget) := by
  induction budget with
  | zero => exact position_maintains.bind fun _ hposition => .failAt hposition
  | succ budget ih => exact stmtWith_maintains ih

/-! ## Programs -/

theorem functionBody_maintains (returns : Ty) :
    Maintains I settings (fun block => I.trees (Stmt.allExprs block.body))
      (functionBody returns) := by
  have hreturns : Maintains I settings (fun _ => True) (setReturnType (some returns)) :=
    .of_still (fun _ => rfl) fun _ => rfl
  unfold functionBody
  refine hreturns.after fun _ => remaining_maintains.after fun _ => ?_
  exact block_maintains (stmtWithin_maintains _)

theorem function_maintains (returns : Ty) {name : Token} (start : Position)
    (hname : I.token name) :
    Maintains I settings (fun defined => I.trees (Stmt.allExprs defined.body.body))
      (function returns name start) := by
  unfold function
  refine (expect_maintains _).after fun _ => .bracket ?_ (fun _ => .of_eq rfl rfl) (fun _ => rfl)
    (fun _ => .of_eq rfl rfl) fun _ => rfl
  unfold functionRest
  refine parameters_maintains.after fun params => (expect_maintains _).after fun _ => ?_
  refine (declareFunction_maintains _ hname).after fun symbol => ?_
  refine (note_maintains _).after fun _ => ?_
  refine (functionBody_maintains returns).bind fun body hbody => ?_
  exact .pure hbody

theorem external_maintains : Maintains I settings I.external external := by
  unfold external
  refine position_maintains.after fun start => typeSpecifier_maintains.after fun base => ?_
  refine (expectFor_maintains _ _).bind fun name hname => kind_maintains.after fun kind => ?_
  refine .ite ?_ ?_
  · exact (function_maintains base start hname).map fun _ hdefined => hdefined
  · exact (declarator_maintains base start hname).map fun _ hdeclared => hdeclared

theorem externals_maintains (budget : Nat) :
    Maintains I settings (fun found => ∀ external ∈ found, I.external external)
      (externals budget) := by
  induction budget with
  | zero => exact .pure (by simp)
  | succ budget ih =>
      unfold externals
      refine hasTokens_maintains.after fun more => .ite ?_ (.pure (by simp))
      refine external_maintains.attempt_bind (fun first hfirst => ?_) fun failure hfailure => ?_
      · exact ih.bind fun others hothers => .pure (by simpa using ⟨hfirst, hothers⟩)
      · exact (recoverPast_maintains _ hfailure).after fun _ => ih

/-! ## Files -/

/-- The state in which the declarations and functions of a file are read. -/
def started (settings : Settings) (tokens : List Token) : ParseState :=
  (ParseState.ofTokens tokens settings.file).noted
    (.started settings.file ((ParseState.ofTokens tokens settings.file).cursor.remaining + 1))

/-- The declarations and functions of a file, and the state behind them. -/
def externalsOf (settings : Settings) (tokens : List Token) :
    Except Failure (List External) × ParseState :=
  (externals (started settings tokens).cursor.remaining).run settings (started settings tokens)

/-- The string table is taken out of the state behind the last declaration or function. -/
theorem program_run (state : ParseState) :
    program.run settings state =
      match (externals state.cursor.remaining).run settings state with
      | (.ok found, last) =>
          (.ok {
              externals := found
              strings := last.strings
              needsPrintf := last.needsPrintf
              span :=
                { start := state.cursor.current.span.start
                  stop := last.cursor.current.span.start } },
            { last with strings := {} })
      | (.error failure, last) => (.error failure, last) := by
  unfold program
  rw [run_congr (bind_of_ok position_run), run_congr (bind_of_ok remaining_run), run_bind]
  cases (externals state.cursor.remaining).run settings state with
  | mk result last => cases result <;> rfl

theorem parse_run (settings : Settings) (tokens : List Token) :
    parse settings tokens =
      ((program.run settings (started settings tokens)).1,
        (program.run settings (started settings tokens)).2.noted
          (.finished settings.file
            (program.run settings (started settings tokens)).2.journal.size)) := by
  unfold parse Parse.run started
  rw [journaled_eq]
  cases program settings ((ParseState.ofTokens tokens settings.file).noted _) <;> rfl

theorem parse_eq_ok {tokens : List Token} {found : Program} {last : ParseState}
    (hparse : parse settings tokens = (.ok found, last)) :
    (externalsOf settings tokens).1 = .ok found.externals ∧
      found.strings = (externalsOf settings tokens).2.strings := by
  rw [parse_run, program_run] at hparse
  unfold externalsOf
  cases hrun : (externals (started settings tokens).cursor.remaining).run settings
      (started settings tokens) with
  | mk result behind =>
      rw [hrun] at hparse
      cases result with
      | ok externals =>
          cases hparse
          exact ⟨rfl, rfl⟩
      | error failure => cases hparse

/-- Behind the last declaration or function nothing is reported and the cursor stays. -/
theorem parse_last (settings : Settings) (tokens : List Token) :
    (parse settings tokens).2.cursor = (externalsOf settings tokens).2.cursor ∧
      (parse settings tokens).2.journal.diagnostics =
        (externalsOf settings tokens).2.journal.diagnostics ∧
      ∀ failure, (parse settings tokens).1 = .error failure →
        (externalsOf settings tokens).1 = .error failure := by
  rw [parse_run, program_run]
  unfold externalsOf
  cases (externals (started settings tokens).cursor.remaining).run settings
      (started settings tokens) with
  | mk result behind => cases result <;> simp [ParseState.noted, Journal.note]

end Parse

end SubsetC
