import SubsetC.Proofs.Budgets
import SubsetC.Proofs.Gives
import SubsetC.Proofs.QuietExpr
import SubsetC.Proofs.Scanned

/-!
# Handoffs

A statement that begins with a name reads the name and its subscript before it is known
whether they are assigned to.  If they are not, they are handed over as the first operand of
an expression.  The statement then has the outcome of an expression and a semicolon that are
read from the name on, and it leaves the same state.

There is one exception.  A subscript that is passed over is handed over as a name, so a
bracket right behind it is read as a part of the expression, although the rules for factors
take the placeholder as complete.
-/

namespace SubsetC.Parse

variable {settings : Settings} {state next : ParseState} {whole : Parse (Option Expr)}

/-! ## First operands -/

section FirstOperands

variable {handed : Parse Handoff}

/-- A level reads its first operand and goes on from there, however it came by it. -/
theorem chain_handed (level : Precedence) {operand : Rule}
    (hoperand : operand none settings state =
      (handed >>= fun handoff => operand (some handoff)) settings next) :
    chain level operand none settings state =
      (handed >>= fun handoff => chain level operand (some handoff)) settings next := by
  unfold chain
  rw [← bind_assoc]
  exact bind_of_eq hoperand

theorem orExpr_handed
    (hvalue : value whole none settings state =
      (handed >>= fun handoff => value whole (some handoff)) settings next) :
    orExpr whole none settings state =
      (handed >>= fun handoff => orExpr whole (some handoff)) settings next := by
  have hterm := chain_handed .multiplicative hvalue
  have hnumExpr := chain_handed .additive hterm
  have hrelExpr := chain_handed .relational hnumExpr
  have handTerm := chain_handed .logicalAnd hrelExpr
  exact chain_handed .logicalOr handTerm

end FirstOperands

theorem Gives.chain {level : Precedence} {operand : Rule} {handoff? : Option Handoff}
    (hoperand : Gives settings (fun value? => value?.isSome = true) (operand handoff?)) :
    Gives settings (fun value? => value?.isSome = true) (chain level operand handoff?) := by
  unfold Parse.chain
  refine hoperand.bind ?_
  intro lhs? hsome
  cases lhs? with
  | none => contradiction
  | some lhs =>
      refine .after ?_
      intro count
      have hoperators : Gives settings (fun _ => True)
          (operatorsAfter level (operand none) count lhs) := by
        intro state value next _
        trivial
      exact hoperators.map fun _ _ => rfl

/-- What was begun is an expression. -/
theorem exprAfter_gives (handoff : Handoff) :
    Gives settings (fun value? => value?.isSome = true) (exprAfter (some handoff)) := by
  have hfactor : Gives settings (fun value? => value?.isSome = true)
      (factor expr (some handoff)) := by
    unfold factor
    cases handoff with
    | element target => exact .pure rfl
    | ident symbol span =>
        exact .after fun found => .pure rfl
  have hvalue : Gives settings (fun value? => value?.isSome = true)
      (value expr (some handoff)) := hfactor
  rw [exprAfter_eq]
  exact hvalue.chain.chain.chain.chain.chain

/-! ## Names and what follows them -/

/-- A name and what follows it, from the token after the name on. -/
def nameWith (whole : Parse (Option Expr)) (symbol : Symbol) (span : Span) :
    Parse (Option Expr) := do
  let factor ← afterName whole symbol span
  return some factor.widen

theorem value_run_of_name (hkind : state.cursor.kind = .identifier) :
    value whole none settings state =
      (do
        let symbol ← resolve state.cursor.current.text state.cursor.current.span.start
        nameWith whole symbol state.cursor.current.span) settings state.advanced := by
  have hfactor : factor whole none = freshFactor whole := rfl
  simp only [value, hfactor, freshFactor, bind_of_ok kind_run, hkind, reduceCtorEq, if_false,
    map_eq_pure_bind, named, bind_assoc, bind_of_ok advance_run, nameWith, pure_bind]

theorem resolve_eq_ok (name : String) (position : Position) (settings : Settings)
    (state : ParseState) :
    ∃ symbol next, resolve name position settings state = .ok symbol next ∧
      next.cursor = state.cursor := by
  cases hlookup : state.symbols.lookup? name with
  | some symbol => exact ⟨symbol, state, resolve_found hlookup, rfl⟩
  | none =>
      rw [resolve_planted hlookup]
      cases hchecks : settings.checks with
      | true => exact ⟨_, _, bind_of_ok (reportMisuse_checked hchecks _ _ _), rfl⟩
      | false => exact ⟨_, _, bind_of_ok (reportMisuse_unchecked hchecks _ _ _), rfl⟩

theorem value_ident (symbol : Symbol) (span : Span) :
    value whole (some (.ident symbol span)) = nameWith whole symbol span := rfl

theorem value_element (target : Subscript) :
    value whole (some (.element target)) = pure (some target.read.widen) := rfl

/-- A placeholder with no bracket behind it stands for itself. -/
theorem nameWith_run {symbol : Symbol} {span : Span}
    (hbracket : state.cursor.kind ≠ .openBracket) (hparen : state.cursor.kind ≠ .openParen) :
    nameWith whole symbol span settings state =
      .ok (some (Expr.ident symbol span).widen) state := by
  have hname : afterName whole symbol span settings state = .ok (.ident symbol span) state := by
    unfold afterName
    rw [bind_of_ok kind_run]
    generalize state.cursor.kind = found at hbracket hparen
    split
    · contradiction
    · contradiction
    · rfl
  unfold nameWith
  rw [bind_of_ok hname, pure_run]

theorem afterName_of_bracket {symbol : Symbol} {span : Span}
    (hbracket : state.cursor.kind = .openBracket) :
    afterName whole symbol span settings state = element whole symbol span settings state := by
  unfold afterName
  rw [bind_of_ok kind_run, hbracket]

theorem nameWith_of_bracket {symbol : Symbol} {span : Span}
    (hbracket : state.cursor.kind = .openBracket) :
    nameWith whole symbol span settings state =
      (do
        let found ← element whole symbol span
        return some found.widen) settings state := by
  exact bind_of_eq (afterName_of_bracket hbracket)

/-! ## Subscripts that are passed over -/

/-- The bracket or parenthesis behind a name is taken for a part of it, and the name stands
for a subscript that was passed over. -/
def Reopens (state : ParseState) (handoff : Handoff) (next : ParseState) : Prop :=
  state.cursor.kind = .openBracket ∧ (∃ symbol span, handoff = .ident symbol span) ∧
    (next.cursor.kind = .openBracket ∨ next.cursor.kind = .openParen)

/-- A subscript that both rules pass over in the same way leaves the same placeholder. -/
theorem value_passed {name : Token} {array : Symbol} {span : Span} {start : ParseState}
    (passing : Parse Unit) (reached : ParseState)
    (hbeginning : beginning name settings state =
      (do
        passing
        return Handoff.ident (← get).symbols.placeholder span) settings reached)
    (helement : element whole array span settings start =
      (do
        passing
        placeholder span) settings reached)
    (hclosed : ∀ handoff next, beginning name settings state = .ok handoff next →
      (∃ symbol span, handoff = .ident symbol span) →
        next.cursor.kind ≠ .openBracket ∧ next.cursor.kind ≠ .openParen) :
    (beginning name >>= fun handoff => value whole (some handoff)) settings state =
      (do
        let found ← element whole array span
        return some found.widen) settings start := by
  cases hrun : passing settings reached with
  | error failure next =>
      rw [bind_of_error hrun] at hbeginning helement
      rw [bind_of_error hbeginning, bind_of_error helement]
  | ok _ next =>
      rw [bind_of_ok hrun] at hbeginning helement
      obtain ⟨hbracket, hparen⟩ := hclosed _ next hbeginning ⟨_, _, rfl⟩
      rw [bind_of_ok hbeginning, bind_of_ok helement, value_ident]
      exact nameWith_run hbracket hparen

section Bracketed

variable {name : Token} {symbol : Symbol} {resolved : ParseState}

/-- A subscript of what has none is passed over by both rules. -/
theorem value_rejected
    (hresolve : resolve name.text name.span.start settings state = .ok symbol resolved)
    (hbracket : resolved.cursor.kind = .openBracket)
    (hrejects : acceptsSubscript symbol settings resolved = .ok false resolved)
    (hclosed : ∀ handoff next, beginning name settings state = .ok handoff next →
      (∃ symbol span, handoff = .ident symbol span) →
        next.cursor.kind ≠ .openBracket ∧ next.cursor.kind ≠ .openParen) :
    (beginning name >>= fun handoff => value whole (some handoff)) settings state =
      nameWith whole symbol name.span settings resolved := by
  rw [nameWith_of_bracket hbracket]
  apply value_passed (rejectSubscript symbol name.span) resolved
  · unfold beginning
    rw [bind_of_ok hresolve, bind_of_ok kind_run, if_pos hbracket, bind_of_ok hrejects,
      if_neg (by decide)]
  · unfold element
    rw [bind_of_ok hrejects, if_neg (by decide)]
  · exact hclosed

/-- The outcomes of a subscript that is accepted, when it is read and when it fails. -/
theorem element_of_subscript {array : Symbol} {span : Span} {target : Subscript}
    (haccepts : acceptsSubscript array settings state = .ok true state)
    (hrun : subscript whole array span settings state = .ok target next) :
    element whole array span settings state = .ok target.read next := by
  unfold element
  rw [bind_of_ok haccepts, if_pos rfl, bind_of_ok (attempt_of_ok hrun)]
  rfl

theorem element_of_failure {array : Symbol} {span : Span} {failure : Failure}
    (haccepts : acceptsSubscript array settings state = .ok true state)
    (hrun : subscript whole array span settings state = .error failure next) :
    element whole array span settings state =
      (do
        recoverPast .closeBracket failure
        placeholder span) settings next := by
  unfold element
  rw [bind_of_ok haccepts, if_pos rfl, bind_of_ok (attempt_of_error hrun)]

theorem beginning_of_subscript {target : Subscript}
    (hresolve : resolve name.text name.span.start settings state = .ok symbol resolved)
    (hbracket : resolved.cursor.kind = .openBracket)
    (haccepts : acceptsSubscript symbol settings resolved = .ok true resolved)
    (hrun : subscript expr symbol name.span settings resolved = .ok target next) :
    beginning name settings state = .ok (.element target) next := by
  unfold beginning
  rw [bind_of_ok hresolve, bind_of_ok kind_run, if_pos hbracket, bind_of_ok haccepts,
    if_pos rfl, withExpr_subscript, bind_of_ok (attempt_of_ok hrun)]
  rfl

theorem beginning_of_failure {failure : Failure}
    (hresolve : resolve name.text name.span.start settings state = .ok symbol resolved)
    (hbracket : resolved.cursor.kind = .openBracket)
    (haccepts : acceptsSubscript symbol settings resolved = .ok true resolved)
    (hrun : subscript expr symbol name.span settings resolved = .error failure next) :
    beginning name settings state =
      (do
        recoverPast .closeBracket failure
        return Handoff.ident (← get).symbols.placeholder name.span) settings next := by
  unfold beginning
  rw [bind_of_ok hresolve, bind_of_ok kind_run, if_pos hbracket, bind_of_ok haccepts,
    if_pos rfl, withExpr_subscript, bind_of_ok (attempt_of_error hrun)]

/-- A subscript is read by both rules alike, and passed over alike if it cannot be read. -/
theorem value_subscripted
    (hresolve : resolve name.text name.span.start settings state = .ok symbol resolved)
    (hbracket : resolved.cursor.kind = .openBracket)
    (haccepts : acceptsSubscript symbol settings resolved = .ok true resolved)
    (hclosed : ∀ handoff next, beginning name settings state = .ok handoff next →
      (∃ symbol span, handoff = .ident symbol span) →
        next.cursor.kind ≠ .openBracket ∧ next.cursor.kind ≠ .openParen) :
    (beginning name >>= fun handoff => value expr (some handoff)) settings state =
      nameWith expr symbol name.span settings resolved := by
  rw [nameWith_of_bracket hbracket]
  cases hrun : subscript expr symbol name.span settings resolved with
  | ok target next =>
      rw [bind_of_ok (beginning_of_subscript hresolve hbracket haccepts hrun),
        bind_of_ok (element_of_subscript haccepts hrun), value_element]
  | error failure failed =>
      apply value_passed (recoverPast .closeBracket failure) failed
      · exact beginning_of_failure hresolve hbracket haccepts hrun
      · exact element_of_failure haccepts hrun
      · exact hclosed

end Bracketed

/-- What begins a statement, handed over, is what the rule for values reads. -/
theorem value_handed {name : Token}
    (hclosed : ∀ handoff next, beginning name settings state = .ok handoff next →
      ¬ Reopens state handoff next) :
    (beginning name >>= fun handoff => value expr (some handoff)) settings state =
      (do
        let symbol ← resolve name.text name.span.start
        nameWith expr symbol name.span) settings state := by
  obtain ⟨symbol, resolved, hresolve, hcursor⟩ :=
    resolve_eq_ok name.text name.span.start settings state
  rw [bind_of_ok hresolve]
  by_cases hbracket : state.cursor.kind = .openBracket
  · have hkind : resolved.cursor.kind = .openBracket := by rw [hcursor, hbracket]
    have hpassed (handoff : Handoff) (next : ParseState)
        (hbeginning : beginning name settings state = .ok handoff next)
        (hident : ∃ symbol span, handoff = .ident symbol span) :
        next.cursor.kind ≠ .openBracket ∧ next.cursor.kind ≠ .openParen := by
      rw [← not_or]
      intro hreopened
      exact hclosed handoff next hbeginning ⟨hbracket, hident, hreopened⟩
    have haccepts : acceptsSubscript symbol settings resolved =
        .ok (!settings.checks || symbol.isDummy || symbol.ty.isArray) resolved :=
      acceptsSubscript_run symbol
    cases hallowed : (!settings.checks || symbol.isDummy || symbol.ty.isArray) with
    | false =>
        rw [hallowed] at haccepts
        exact value_rejected hresolve hkind haccepts hpassed
    | true =>
        rw [hallowed] at haccepts
        exact value_subscripted hresolve hkind haccepts hpassed
  · have hkind : resolved.cursor.kind ≠ .openBracket := by rwa [hcursor]
    have hbeginning : beginning name settings state = .ok (.ident symbol name.span) resolved := by
      unfold beginning
      rw [bind_of_ok hresolve, bind_of_ok kind_run, if_neg hkind, pure_run]
    rw [bind_of_ok hbeginning, value_ident]

/-! ## Statements -/

/-- An expression and a semicolon, as a statement from a span on. -/
def expressionStmt (start : Span) : Parse (Option Stmt) := do
  let whole? ← expr
  let semicolon ← expect .semicolon
  return whole?.map fun whole => .evaluate whole (start.through semicolon.span)

/-- An expression that begins with a name, read by the two rules of a statement. -/
theorem expr_handed (hkind : state.cursor.kind = .identifier)
    (hclosed : ∀ handoff next,
      beginning state.cursor.current settings state.advanced = .ok handoff next →
      ¬ Reopens state.advanced handoff next) :
    expr settings state =
      (beginning state.cursor.current >>= fun handoff => exprAfter (some handoff)) settings
        state.advanced := by
  have hexpr : expr settings state = orExpr expr none settings state :=
    congrFun (congrFun (exprAfter_eq none) settings) state
  have hvalue := (value_run_of_name hkind).trans (value_handed hclosed).symm
  rw [hexpr, orExpr_handed hvalue]
  simp only [exprAfter_eq]

theorem namedStmt_of_error {failure : Failure}
    (hrun : beginning state.cursor.current settings state.advanced = .error failure next) :
    namedStmt settings state = .error failure next := by
  unfold namedStmt
  rw [bind_of_ok advance_run, bind_of_error hrun]

theorem namedStmt_of_handoff {handoff : Handoff}
    (hrun : beginning state.cursor.current settings state.advanced = .ok handoff next)
    (hkind : next.cursor.kind ≠ .assignment) :
    namedStmt settings state =
      (do
        let whole ← orFail (exprAfter (some handoff))
          { fault := .malformed .missingExpression, position := state.cursor.current.span.start }
        let semicolon ← expect .semicolon
        return Stmt.evaluate whole (state.cursor.current.span.through semicolon.span)) settings
        next := by
  unfold namedStmt
  rw [bind_of_ok advance_run, bind_of_ok hrun, bind_of_ok kind_run, if_neg hkind]

/-- A statement that begins with a name and does not assign has the outcome of an expression
and a semicolon, unless a bracket reopens a subscript that was passed over. -/
theorem namedStmt_eq_expression {settings : Settings} {state : ParseState}
    (hkind : state.cursor.kind = .identifier)
    (hbeginning : ∀ handoff next,
      beginning state.cursor.current settings state.advanced = .ok handoff next →
      next.cursor.kind ≠ .assignment ∧ ¬ Reopens state.advanced handoff next) :
    (some <$> namedStmt) settings state =
      expressionStmt state.cursor.current.span settings state := by
  have hexpr := expr_handed hkind fun handoff next hrun => (hbeginning handoff next hrun).2
  unfold expressionStmt
  rw [map_eq_pure_bind]
  cases hrun : beginning state.cursor.current settings state.advanced with
  | error failure next =>
      rw [bind_of_error hrun] at hexpr
      rw [bind_of_error (namedStmt_of_error hrun), bind_of_error hexpr]
  | ok handoff next =>
      rw [bind_of_ok hrun] at hexpr
      rw [bind_of_eq (namedStmt_of_handoff hrun (hbeginning handoff next hrun).1),
        bind_of_eq hexpr]
      unfold orFail
      rw [bind_assoc, bind_assoc]
      cases hwhole : exprAfter (some handoff) settings next with
      | error failure last => rw [bind_of_error hwhole, bind_of_error hwhole]
      | ok whole? last =>
          obtain ⟨whole, rfl⟩ := Option.isSome_iff_exists.1 (exprAfter_gives handoff hwhole)
          rw [bind_of_ok hwhole, bind_of_ok hwhole]
          simp only [pure_bind, bind_assoc, Option.map_some]

/-- The state before a text in which `x` is a number. -/
def numberState (tokens : List Token) : ParseState :=
  { ParseState.ofTokens tokens "f.c" with symbols := ({} : SymbolTable).bind (.variable "x" .int) }

/-- A number with a subscript, in a sum. -/
def sumText : String := "x[0] + 1;"

theorem sumText_eq_expression :
    ∃ tokens, tokenize sumText "f.c" = .ok tokens ∧
      (numberState tokens).cursor.kind = .identifier ∧
      (∀ handoff next,
        beginning (numberState tokens).cursor.current { file := "f.c" }
          (numberState tokens).advanced = .ok handoff next →
        next.cursor.kind ≠ .assignment ∧ ¬ Reopens (numberState tokens).advanced handoff next) ∧
      (some <$> namedStmt) { file := "f.c" } (numberState tokens) =
        expressionStmt (numberState tokens).cursor.current.span { file := "f.c" }
          (numberState tokens) := by
  have hreads : ((tokenize sumText "f.c").toOption.any fun tokens => decide
      ((numberState tokens).cursor.kind = .identifier ∧
        ((beginning (numberState tokens).cursor.current).run { file := "f.c" }
          (numberState tokens).advanced).2.cursor.kind = .plus)) = true := by
    decide +kernel
  obtain ⟨tokens, htokens, hkind, hplus⟩ := exists_tokens hreads
  have hbeginning (handoff : Handoff) (next : ParseState)
      (hrun : beginning (numberState tokens).cursor.current { file := "f.c" }
        (numberState tokens).advanced = .ok handoff next) :
      next.cursor.kind ≠ .assignment ∧ ¬ Reopens (numberState tokens).advanced handoff next := by
    rw [run_of_ok hrun] at hplus
    simp [Reopens, hplus]
  exact ⟨tokens, htokens, hkind, hbeginning, namedStmt_eq_expression hkind hbeginning⟩

/-- A subscript that is no subscript, and another one behind it. -/
def doubleText : String := "x[0][1];"

/-- The statement takes the second subscript for one of the placeholder, where the expression
stops in front of it. -/
theorem doubleText_reopens :
    ∃ tokens, tokenize doubleText "f.c" = .ok tokens ∧
      (numberState tokens).cursor.kind = .identifier ∧
      (∀ handoff next,
        beginning (numberState tokens).cursor.current { file := "f.c" }
          (numberState tokens).advanced = .ok handoff next → next.cursor.kind ≠ .assignment) ∧
      (some <$> namedStmt) { file := "f.c" } (numberState tokens) ≠
        expressionStmt (numberState tokens).cursor.current.span { file := "f.c" }
          (numberState tokens) := by
  have hreads : ((tokenize doubleText "f.c").toOption.any fun tokens => decide
      ((numberState tokens).cursor.kind = .identifier ∧
        ((beginning (numberState tokens).cursor.current).run { file := "f.c" }
          (numberState tokens).advanced).2.cursor.kind = .openBracket ∧
        ((some <$> namedStmt).run { file := "f.c" } (numberState tokens)).1.toOption.isSome = true ∧
        ((expressionStmt (numberState tokens).cursor.current.span).run { file := "f.c" }
          (numberState tokens)).1.toOption.isNone = true)) = true := by
    decide +kernel
  obtain ⟨tokens, htokens, hkind, hnext, hsome, hnone⟩ := exists_tokens hreads
  refine ⟨tokens, htokens, hkind, ?_, ?_⟩
  · intro handoff next hrun
    rw [run_of_ok hrun] at hnext
    rw [hnext]
    decide
  · intro hsame
    rw [run_congr hsame] at hsome
    rw [Option.isNone_iff_eq_none.1 hnone] at hsome
    simp at hsome

end SubsetC.Parse
