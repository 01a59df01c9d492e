import SubsetC.Proofs.ArrivesExpr
import SubsetC.Proofs.SoundProgram

/-!
# Where a checked statement arrives

A statement that some run reads with no report is read by a checked run up to the same
cursor.  A subscript that begins a statement and is passed over is replaced by a name; what
follows it was not read on from by the other run, and is not by the checked one.
-/

namespace SubsetC.Parse

variable {tokens : List Token} {settings other : Settings} {state next : ParseState}
  {start stop : Cursor}

/-! ## Declarations -/

theorem Arrives.expectFor_bind {α : Type} {P : α → Prop} {expected : TokenKind}
    {expectation : Expectation} {continued : Token → Parse α} (hkind : start.kind = expected)
    (hcontinued : Arrives tokens settings start.advance stop P (continued start.current)) :
    Arrives tokens settings start stop P (expectFor expected expectation >>= continued) := by
  unfold expectFor
  rw [bind_assoc]
  exact .current_bind (.expectOr_bind hkind hcontinued)

theorem typeSpecifier_arrives {ty : Ty} (hty : Ty.ofSpecifier? start.kind = some ty) :
    Arrives tokens settings start start.advance (· = ty) typeSpecifier := by
  unfold typeSpecifier
  refine .current_bind ?_
  have hcurrent : Ty.ofSpecifier? start.current.kind = some ty := hty
  rw [hcurrent]
  exact .advance_bind (.pure rfl)

theorem arrayType_eq_pure {element ty : Ty} (hty : element.arrayOf? = some ty)
    (position : Position) : arrayType element position = pure ty := by
  unfold arrayType
  rw [hty]

theorem reportMisuse_pure_moves {α : Type} (misuse : Misuse) (position : Position) (value : α) :
    Moves tokens settings start start (do reportMisuse misuse position; return value) :=
  (reportMisuse_moves _ _).after fun _ => .pure trivial

theorem adopt_moves (name : Token) (declared : Except Symbol SymbolTable) :
    Moves tokens settings start start (adopt name declared) := by
  cases declared with
  | ok symbols => exact .of_run (fun _ => rfl) (fun _ hstate => ⟨hstate, trivial⟩) fun _ => rfl
  | error existing => exact reportMisuse_moves _ _

theorem declareVariable_moves (name : Token) (ty : Ty) :
    Moves tokens settings start start (declareVariable name ty) :=
  .get_bind fun _ _ => (adopt_moves _ _).after fun _ => .pure trivial

theorem coerce_moves (target : Ty) (value : Expr) (misuse : Ty → Ty → Misuse)
    (position : Position) :
    Moves tokens settings start start (coerce target value misuse position) := by
  unfold coerce
  split
  · exact .pure trivial
  · split
    · exact .pure trivial
    · exact .pure trivial
    · exact reportMisuse_pure_moves _ _ _

theorem declaredType_arrives {base ty : Ty} {name : Token} {size? : Option Nat}
    (hquiet : Quiet (declaredType base name) other state (ty, size?) next) :
    Arrives tokens settings state.cursor next.cursor (fun declared => declared.1 = ty)
      (declaredType base name) := by
  unfold declaredType
  rcases quiet_declaredType.1 hquiet with ⟨hopen, harray, hrest⟩ | ⟨hopen, rfl, -, rfl⟩
  · refine .accept_bind hopen ?_
    rw [if_pos rfl, arrayType_eq_pure harray, pure_bind]
    refine .kind_bind ?_
    rcases hrest with ⟨hconstant, size, hsize, -, hclose, rfl⟩ | ⟨hclose, -, rfl⟩
    · have hkind : state.cursor.advance.kind = .constant := hconstant
      have htext : arraySize? state.cursor.advance.current.text = some size := hsize
      rw [if_pos hkind]
      refine .advance_bind ?_
      rw [htext]
      exact .expect_bind hclose (.pure rfl)
    · have hkind : state.cursor.advance.kind = .closeBracket := hclose
      rw [hkind, if_neg (by decide)]
      exact .expect_bind hclose (.pure rfl)
  · exact .accept_bind_of_ne hopen (.pure rfl)

theorem initialValue_moves (hchecks : settings.checks = true)
    (hwithin : state.cursor.Within tokens) {ty : Ty} {initial? : Option Expr}
    (hquiet : Quiet (initialValue ty) other state initial? next) :
    Moves tokens settings state.cursor next.cursor (initialValue ty) := by
  unfold initialValue
  refine .kind_bind ?_
  rcases quiet_initialValue.1 hquiet with ⟨hassignment, found, hvalue, -⟩ |
    ⟨hassignment, -, rfl⟩
  · rw [if_pos hassignment]
    have hrequire : Moves tokens settings _ _ _ :=
      requireExpr_moves hchecks (within_advanced hwithin) hvalue .missingValue
    exact .advance_bind <| hrequire.after fun value =>
      (coerce_moves ty value _ _).map fun _ _ => trivial
  · rw [if_neg hassignment]
    exact .pure trivial

theorem declarator_moves (hchecks : settings.checks = true) (hwithin : state.cursor.Within tokens)
    {base : Ty} {name : Token} {readPosition : Position} {found : Declaration}
    (hquiet : Quiet (declarator base name readPosition) other state found next)
    (position : Position) :
    Moves tokens settings state.cursor next.cursor (declarator base name position) := by
  obtain ⟨ty, size?, initial?, typed, declared, last, htyped, hvoid, hdeclares, hinitial, hend,
    -, rfl⟩ := quiet_declarator.1 hquiet
  have hsame := hdeclares.cursor_eq
  have hvalue := initialValue_moves hchecks (hsame ▸ htyped.within hwithin) hinitial
  rw [hsame] at hvalue
  unfold declarator
  refine (declaredType_arrives htyped).bind ?_
  rintro ⟨declaredTy, size?⟩ rfl
  simp only [if_neg hvoid]
  exact (declareVariable_moves name declaredTy).after fun symbol => hvalue.after fun initial? =>
    .expect_bind hend (.pure trivial)

theorem declaration_moves (hchecks : settings.checks = true) (hwithin : state.cursor.Within tokens)
    {found : Declaration} (hquiet : Quiet declaration other state found next) :
    Moves tokens settings state.cursor next.cursor declaration := by
  obtain ⟨base, hbase, hname, hrest⟩ := quiet_declaration.1 hquiet
  have hdeclarator := declarator_moves hchecks (within_advanced (within_advanced hwithin)) hrest
  unfold declaration
  refine .position_bind fun start => (typeSpecifier_arrives hbase).bind fun found hfound => ?_
  rw [hfound]
  exact .expectFor_bind hname (hdeclarator start)

theorem parameter_moves {base : Ty} {symbol : Symbol}
    (hquiet : Quiet (parameter base) other state symbol next) :
    Moves tokens settings state.cursor next.cursor (parameter base) := by
  obtain ⟨hname, ty, typed, rfl, htyped, hdeclares⟩ := quiet_parameter.1 hquiet
  rw [hdeclares.cursor_eq]
  unfold parameter
  refine .expectFor_bind hname ?_
  rcases htyped with ⟨hopen, hclose, harray, rfl⟩ | ⟨hopen, hvoid, rfl, rfl⟩
  · refine .accept_bind hopen ?_
    rw [if_pos rfl]
    refine .expect_bind hclose ?_
    rw [arrayType_eq_pure harray, pure_bind]
    exact declareVariable_moves _ _
  · refine .accept_bind_of_ne hopen ?_
    rw [if_neg (by decide), if_neg hvoid]
    exact declareVariable_moves _ _

theorem parametersFrom_moves {isFirst : Bool} {budget : Nat} {symbols : List Symbol}
    (hquiet : Quiet (parametersFrom isFirst budget) other state symbols next) :
    Moves tokens settings state.cursor next.cursor (parametersFrom isFirst budget) := by
  induction budget generalizing state isFirst symbols with
  | zero =>
      rw [parametersFrom, quiet_pure] at hquiet
      obtain ⟨-, rfl⟩ := hquiet
      exact .pure trivial
  | succ budget ih =>
      obtain ⟨base, hbase, hrest⟩ := quiet_parametersFrom_succ.1 hquiet
      unfold parametersFrom
      refine (typeSpecifier_arrives hbase).bind_of
        (fun base => .bind inferInstance fun kind => inferInstance) fun found hfound => ?_
      rw [hfound]
      refine .kind_bind ?_
      rcases hrest with ⟨rfl, rfl, hclose, -, rfl⟩ | ⟨symbol, middle, hsymbol, hmore⟩
      · rw [if_pos ⟨rfl, rfl, hclose⟩]
        exact .pure trivial
      · have hname : state.cursor.advance.kind = .identifier := (quiet_parameter.1 hsymbol).1
        rw [hname, if_neg (by rintro ⟨-, -, ⟨⟩⟩)]
        refine (parameter_moves hsymbol).after fun symbol => ?_
        rcases hmore with ⟨hcomma, others, hothers, -⟩ | ⟨hcomma, -, rfl⟩
        · refine .accept_bind hcomma ?_
          exact (ih hothers).after fun others => .pure trivial
        · exact .accept_bind_of_ne hcomma (.pure trivial)

theorem parameters_moves {symbols : List Symbol}
    (hquiet : Quiet parameters other state symbols next) :
    Moves tokens settings state.cursor next.cursor parameters := by
  unfold parameters
  refine .kind_bind ?_
  rcases quiet_parameters.1 hquiet with ⟨hclose, -, rfl⟩ | ⟨hclose, hfrom⟩
  · rw [if_pos hclose]
    exact .pure trivial
  · rw [if_neg hclose]
    exact .remaining_bind (parametersFrom_moves hfrom)

/-! ## Statements -/

/-- Where another run reads a statement with no report, a checked run reads one up to the
same cursor. -/
def StmtsArrive (tokens : List Token) (settings other : Settings) (stmt : Parse Stmt) : Prop :=
  ∀ ⦃state found next⦄, state.cursor.Within tokens → Quiet stmt other state found next →
    Moves tokens settings state.cursor next.cursor stmt

theorem condition_moves (hchecks : settings.checks = true) (hwithin : state.cursor.Within tokens)
    {found : Expr} (hquiet : Quiet condition other state found next) :
    Moves tokens settings state.cursor next.cursor condition := by
  obtain ⟨hopen, middle, htest, hclose, -, rfl⟩ := quiet_condition.1 hquiet
  unfold condition
  refine .expect_bind hopen ?_
  have hrequire : Moves tokens settings _ _ _ :=
    requireExpr_moves hchecks (within_advanced hwithin) htest .missingCondition
  refine hrequire.after fun test => .expect_bind hclose ?_
  exact (reportUnless_moves _ _ _).after fun _ => .pure trivial

theorem returned_moves (hchecks : settings.checks = true) :
    StmtsArrive tokens settings other returned := by
  intro state found next hwithin hquiet
  unfold returned
  refine .advance_bind (.get_bind fun start hstart => ?_)
  rcases quiet_returned.1 hquiet with ⟨value, middle, hvalue, -, hend, -, rfl⟩ |
    ⟨habsent, -, hend, -, rfl⟩
  · have hexpr : Arrives tokens settings _ middle.cursor _ _ :=
      expr_arrives hchecks (within_advanced hwithin) hvalue
    refine hexpr.bind_of (fun value? => by cases value? <;> infer_instance)
      fun value? hsome => ?_
    obtain ⟨value, rfl⟩ := Option.isSome_iff_exists.1 hsome
    exact (coerce_moves _ value _ _).after fun fitted => .expect_bind hend (.pure trivial)
  · obtain ⟨hnot, hbegins, -⟩ := quiet_expr_none.1 habsent
    have hexpr : Arrives tokens settings _ _ _ _ := expr_absent hnot hbegins
    refine hexpr.bind_of (fun value? => by cases value? <;> infer_instance)
      fun value? hnone => ?_
    obtain rfl := hnone
    exact (reportUnless_moves _ _ _).after fun _ => .expect_bind hend (.pure trivial)

/-- What a checked run and another one have read at the beginning of a statement, if nothing
that would read on from a name follows an element. -/
def BeginsAlike (tokens : List Token) (cursor : Cursor) (read handoff : Handoff) : Prop :=
  (∀ target, read = .element target →
      cursor.kind ≠ .openBracket ∧ cursor.kind ≠ .openParen) →
    HandedAlike tokens cursor (some handoff) (some read)

theorem beginning_arrives (hchecks : settings.checks = true) {name : Token}
    (hname : name :: state.cursor.toList <:+ tokens) {read : Handoff}
    (hquiet : Quiet (beginning name) other state read next) :
    Arrives tokens settings state.cursor next.cursor (BeginsAlike tokens next.cursor read)
      (beginning name) := by
  obtain ⟨symbol, middle, hresolve, hrest⟩ := quiet_beginning.1 hquiet
  have hmiddle : middle.cursor = state.cursor := hresolve.resolve_cursor
  rw [← hmiddle] at hname ⊢
  have hwithin : middle.cursor.Within tokens := (List.suffix_cons _ _).trans hname
  have hexpr : ExprsArrive tokens settings other (exprWithin (middle.cursor.remaining + 1) none) :=
    exprWithin_arrives hchecks _
  have hreplaced {P : Handoff → Prop} (halike : ∀ symbol, P (.ident symbol name.span)) :
      Arrives tokens settings next.cursor next.cursor P
        (do return Handoff.ident (← get).symbols.placeholder name.span) :=
    .get_bind fun _ _ => .pure (halike _)
  unfold beginning
  refine .resolve_bind fun symbol => .kind_bind ?_
  rcases hrest with ⟨hopen, -, target, htarget, rfl⟩ | ⟨hopen, rfl, rfl⟩
  · rw [if_pos hopen]
    refine .acceptsSubscript_bind fun accepted => ?_
    cases accepted with
    | true =>
        have hsubscript : Moves tokens settings middle.cursor next.cursor
            (withExpr fun whole => subscript whole symbol name.span) :=
          .remaining_bind (subscript_moves hexpr hwithin htarget symbol name.span)
        refine hsubscript.attempt.bind_of (fun result => by cases result <;> infer_instance) ?_
        rintro result ⟨found, rfl, -⟩
        exact .pure fun _ => .element
    | false =>
        -- The placeholder is a name now, so what follows must not be read as its subscript.
        refine rejectSubscript_moves hchecks (exprWithin_reads _) hname htarget symbol <|
          hreplaced fun symbol hends => ?_
        obtain ⟨hbracket, hparen⟩ := hends target rfl
        exact .replaced hbracket hparen
  · rw [if_neg hopen]
    exact .pure fun _ => .ident hname

/-- Where no operator is next, a rule takes an element for the whole expression. -/
def ElementStays (other : Settings) (rule : Rule) : Prop :=
  ∀ ⦃target state found next⦄, BinaryOp.ofToken? state.cursor.kind = none →
    Quiet (rule (some (.element target))) other state (some found) next → next = state

theorem chain_stays {level : Precedence} {operand : Rule}
    [∀ handoff?, Respects ReportsMore (operand handoff?)] (hoperand : ElementStays other operand) :
    ElementStays other (chain level operand) := by
  intro target state found next hoperator hquiet
  obtain ⟨lhs, middle, hlhs, hrest⟩ := quiet_chain_some.1 hquiet
  obtain rfl := hoperand hoperator hlhs
  have hnone : level.operator? middle.cursor.kind = none := by
    unfold Precedence.operator?
    rw [hoperator]
    rfl
  exact ((quiet_operatorsAfter_of_none hnone).1 hrest).2

theorem orExpr_stays {expr : Parse (Option Expr)} [Respects ReportsMore expr] :
    ElementStays other (orExpr expr) := by
  have hfactor : ElementStays other (factor expr) :=
    fun _ _ _ _ _ hquiet => (quiet_factor_element.1 hquiet).2
  have hvalue : ElementStays other (value expr) :=
    fun _ _ _ _ hoperator hquiet => hfactor hoperator hquiet
  have hterm : ElementStays other (term expr) := chain_stays hvalue
  have hnum : ElementStays other (numExpr expr) := chain_stays hterm
  have hrel : ElementStays other (relExpr expr) := chain_stays hnum
  have hand : ElementStays other (andTerm expr) := chain_stays hrel
  exact chain_stays hand

theorem exprAfter_stays : ElementStays other exprAfter :=
  fun _ _ _ _ hoperator hquiet => orExpr_stays hoperator (quiet_exprAfter.1 hquiet)

theorem assignment_moves (target : Handoff) (value : Expr) (position : Position) (span : Span) :
    Moves tokens settings start start (assignment target value position span) := by
  unfold assignment
  cases target with
  | ident symbol _ => exact (coerce_moves _ value _ _).after fun fitted => .pure trivial
  | element target => exact (coerce_moves _ value _ _).after fun fitted => .pure trivial

theorem namedStmt_moves (hchecks : settings.checks = true) (hwithin : state.cursor.Within tokens)
    (hkind : state.cursor.kind = .identifier) {found : Stmt}
    (hquiet : Quiet namedStmt other state found next) :
    Moves tokens settings state.cursor next.cursor namedStmt := by
  obtain ⟨read, middle, hbeginning, hrest⟩ := quiet_namedStmt.1 hquiet
  have hname := current_before (by rw [hkind]; decide) hwithin
  have hmiddle := hbeginning.within (within_advanced hwithin)
  unfold namedStmt
  refine .advance_bind ?_
  refine (beginning_arrives hchecks hname hbeginning).bind_of
    (fun handoff => .bind inferInstance fun kind => inferInstance) fun handoff halike => ?_
  refine .kind_bind ?_
  rcases hrest with ⟨hassignment, value, last, hvalue, hend, -, -, rfl⟩ |
    ⟨hassignment, value, last, hvalue, hend, -, rfl⟩
  · rw [if_pos hassignment]
    have hrequire : Moves tokens settings _ _ _ :=
      requireExpr_moves hchecks (within_advanced hmiddle) hvalue .missingValue
    exact .advance_bind <| hrequire.after fun value =>
      .expect_bind hend (assignment_moves handoff value _ _)
  · rw [if_neg hassignment]
    -- At a bracket the other run would have stopped behind the element, before any semicolon.
    have hnever {kind : TokenKind} (hoperator : BinaryOp.ofToken? kind = none)
        (hsemicolon : kind ≠ .semicolon) (target : Subscript) (hread : read = .element target) :
        middle.cursor.kind ≠ kind := by
      rintro rfl
      rw [hread] at hvalue
      rw [exprAfter_stays hoperator hvalue] at hend
      contradiction
    have hhanded := halike fun target hread =>
      ⟨hnever rfl (by decide) target hread, hnever rfl (by decide) target hread⟩
    have hexpr := exprAfter_completes hchecks hmiddle hhanded hvalue
    exact (Arrives.orFail hexpr _).after fun whole => .expect_bind hend (.pure trivial)

theorem evaluated_moves (hchecks : settings.checks = true) :
    StmtsArrive tokens settings other evaluated := by
  intro state found next hwithin hquiet
  obtain ⟨value, last, hvalue, hend, -, rfl⟩ := quiet_evaluated.1 hquiet
  have hexpr : Arrives tokens settings _ last.cursor _ _ := expr_arrives hchecks hwithin hvalue
  unfold evaluated
  refine .current_bind ?_
  exact (Arrives.orFail hexpr _).after fun whole => .expect_bind hend (.pure trivial)

section Nested

variable {stmt : Parse Stmt} [Respects ReportsMore stmt] [Respects KeepsEvents stmt]
  [Respects MovesOn stmt]

theorem stmtsUntilClose_moves (hstmt : StmtsArrive tokens settings other stmt)
    (hwithin : state.cursor.Within tokens) {budget : Nat} {body : List Stmt}
    (hquiet : Quiet (stmtsUntilClose stmt budget) other state body next) :
    Moves tokens settings state.cursor next.cursor (stmtsUntilClose stmt budget) := by
  induction budget generalizing state body with
  | zero => exact (not_quiet_stmtsUntilClose_zero hquiet).elim
  | succ budget ih =>
      unfold stmtsUntilClose
      refine .kind_bind ?_
      rcases quiet_stmtsUntilClose_succ.1 hquiet with ⟨hclose, -, rfl⟩ |
        ⟨hclose, heof, first, middle, others, hfirst, hothers, -⟩
      · rw [hclose]
        exact .pure trivial
      · split
        · contradiction
        · contradiction
        · have hattempt := (hstmt hwithin hfirst).attempt
          refine hattempt.bind_of (fun result => by cases result <;> infer_instance) ?_
          rintro result ⟨found, rfl, -⟩
          exact (ih (hfirst.within hwithin) hothers).after fun others => .pure trivial

theorem block_moves (hstmt : StmtsArrive tokens settings other stmt)
    (hwithin : state.cursor.Within tokens) {found : Block}
    (hquiet : Quiet (block stmt) other state found next) :
    Moves tokens settings state.cursor next.cursor (block stmt) := by
  obtain ⟨hopen, body, last, hbody, hclose, -, rfl⟩ := quiet_block.1 hquiet
  have hstmts := stmtsUntilClose_moves hstmt (within_advanced hwithin) hbody
  unfold block
  exact .expect_bind hopen <| .remaining_bind <| hstmts.after fun body =>
    .expect_bind hclose (.pure trivial)

theorem conditional_moves (hchecks : settings.checks = true)
    (hstmt : StmtsArrive tokens settings other stmt) :
    StmtsArrive tokens settings other (conditional stmt) := by
  intro state found next hwithin hquiet
  obtain ⟨condition, tested, accepted, middle, hcondition, haccepted, hrest⟩ :=
    quiet_conditional.1 hquiet
  have htested := hcondition.within (within_advanced hwithin)
  have hmiddle := haccepted.within htested
  unfold conditional
  refine .advance_bind <| (condition_moves hchecks (within_advanced hwithin) hcondition).after
    fun condition => (hstmt htested haccepted).after fun accepted => ?_
  rcases hrest with ⟨helse, rejected, hrejected, -⟩ | ⟨helse, -, rfl⟩
  · refine .accept_bind helse ?_
    exact (hstmt (within_advanced hmiddle) hrejected).after fun rejected => .pure trivial
  · exact .accept_bind_of_ne helse (.pure trivial)

omit [Respects MovesOn stmt] in
theorem whileLoop_moves (hchecks : settings.checks = true)
    (hstmt : StmtsArrive tokens settings other stmt) :
    StmtsArrive tokens settings other (whileLoop stmt) := by
  intro state found next hwithin hquiet
  obtain ⟨condition, tested, body, hcondition, hbody, -⟩ := quiet_whileLoop.1 hquiet
  have htested := hcondition.within (within_advanced hwithin)
  unfold whileLoop
  exact .advance_bind <| (condition_moves hchecks (within_advanced hwithin) hcondition).after
    fun condition => (hstmt htested hbody).after fun body => .pure trivial

theorem inScope_block_moves (hstmt : StmtsArrive tokens settings other stmt)
    (hwithin : state.cursor.Within tokens) {found : Block}
    (hquiet : Quiet (inScope (block stmt)) other state found next) :
    Moves tokens settings state.cursor next.cursor (inScope (block stmt)) := by
  obtain ⟨last, hblock, rfl⟩ := quiet_inScope.1 hquiet
  have hinside := block_moves hstmt (by exact hwithin) hblock
  exact hinside.bracket (fun _ => ⟨rfl, rfl⟩) fun _ => ⟨rfl, rfl⟩

theorem stmtWith_moves (hchecks : settings.checks = true)
    (hstmt : StmtsArrive tokens settings other stmt) :
    StmtsArrive tokens settings other (stmtWith stmt) := by
  intro state found next hwithin hquiet
  unfold stmtWith
  refine .kind_bind ?_
  rcases quiet_stmtWith.1 hquiet with ⟨hkind, block, hblock, -⟩ | ⟨hkind, hstep⟩ |
    ⟨hkind, hstep⟩ | ⟨hkind, hstep⟩ | ⟨hkind, -, rfl⟩ | ⟨hkind, hstep⟩ |
    ⟨hkind, declared, hdeclared, -⟩ | ⟨hkind, hstep⟩
  · rw [hkind]
    exact (inScope_block_moves hstmt hwithin hblock).map fun _ _ => trivial
  · rw [hkind]
    exact conditional_moves hchecks hstmt hwithin hstep
  · rw [hkind]
    exact whileLoop_moves hchecks hstmt hwithin hstep
  · rw [hkind]
    exact returned_moves hchecks hwithin hstep
  · rw [hkind]
    exact .advance_bind (.pure trivial)
  · rw [hkind]
    exact namedStmt_moves hchecks hwithin hkind hstep
  · have hdeclaration : Moves tokens settings state.cursor next.cursor
        (Stmt.declare <$> declaration) :=
      (declaration_moves hchecks hwithin hdeclared).map fun _ _ => trivial
    have hword : state.cursor.kind = .intWord ∨ state.cursor.kind = .charWord ∨
        state.cursor.kind = .voidWord := by
      revert hkind
      cases state.cursor.kind <;> simp [Ty.ofSpecifier?]
    rcases hword with hword | hword | hword <;>
    · rw [hword]
      exact hdeclaration
  · have hevaluated := evaluated_moves hchecks hwithin hstep
    split <;> first
      | exact hevaluated
      | rename_i hword
        rw [hword] at hkind
        contradiction

end Nested

theorem stmtWithin_moves (hchecks : settings.checks = true) (budget : Nat) :
    StmtsArrive tokens settings other (stmtWithin budget) := by
  induction budget with
  | zero =>
      intro state found next hwithin hquiet
      obtain ⟨smaller, hsmaller, -⟩ := quiet_stmtWithin.1 hquiet
      contradiction
  | succ budget ih =>
      intro state found next hwithin hquiet
      obtain ⟨smaller, hsmaller, hstmt⟩ := quiet_stmtWithin.1 hquiet
      cases hsmaller
      exact stmtWith_moves hchecks ih hwithin hstmt

end SubsetC.Parse
