import SubsetC.Proofs.Handoffs

/-!
# A fault that is never met

A statement that begins with a name hands over what it has read, and an expression that was
begun is never missing.  So the fault that stands for a missing one is not met: no rule fails
with it, and no recovery reports it.
-/

namespace SubsetC

/-- Any fault but that of a statement whose expression is missing. -/
class Fault.IsOther (fault : Fault) : Prop where
  ne : fault ≠ .malformed .missingExpression

namespace Fault

instance : IsOther .endOfInput := ⟨nofun⟩

instance (token : String) : IsOther (.unexpected token) := ⟨nofun⟩

instance (token : String) (expectation : Expectation) :
    IsOther (.unexpectedFor token expectation) := ⟨nofun⟩

instance (token : String) : IsOther (.badConstant token) := ⟨nofun⟩

instance (operator : TokenKind) : IsOther (.operandMissing operator) := ⟨nofun⟩

instance : IsOther (.malformed .operandOfNot) := ⟨nofun⟩

instance (step : Step) : IsOther (.malformed (.operandOfStep step)) := ⟨nofun⟩

instance : IsOther (.malformed .operandOfAddress) := ⟨nofun⟩

instance : IsOther (.malformed .addressOfNonElement) := ⟨nofun⟩

instance : IsOther (.malformed .emptySubscript) := ⟨nofun⟩

instance : IsOther (.malformed .emptyParentheses) := ⟨nofun⟩

instance : IsOther (.malformed .missingArgument) := ⟨nofun⟩

instance : IsOther (.malformed .missingValue) := ⟨nofun⟩

instance : IsOther (.malformed .missingCondition) := ⟨nofun⟩

instance (element : Ty) : IsOther (.malformed (.arrayOf element)) := ⟨nofun⟩

instance (name : String) : IsOther (.malformed (.voidParameter name)) := ⟨nofun⟩

instance (name : String) : IsOther (.malformed (.voidVariable name)) := ⟨nofun⟩

end Fault

/-- No missing expression was reported so far. -/
def ParseState.Spared (state : ParseState) : Prop :=
  ∀ diagnostic ∈ state.journal.diagnostics.toList,
    diagnostic.cause ≠ .fault (.malformed .missingExpression)

theorem ParseState.spared_ofTokens (tokens : List Token) (file : String) :
    (ParseState.ofTokens tokens file).Spared := by
  simp [Spared, ofTokens]

theorem ParseState.Spared.reported {state : ParseState} {diagnostic : Diagnostic}
    (hspared : state.Spared) (hcause : diagnostic.cause ≠ .fault (.malformed .missingExpression)) :
    (state.reported diagnostic).Spared := by
  intro other hother
  have hcases : other ∈ state.journal.diagnostics.toList ∨ other = diagnostic := by
    simpa [ParseState.reported, Journal.report, Journal.note] using hother
  rcases hcases with hbefore | rfl
  · exact hspared other hbefore
  · exact hcause

namespace Parse

variable {α β : Type}

/-- The parse neither fails with a missing expression nor reports one. -/
class Spares (parse : Parse α) : Prop where
  fault : ∀ {settings state failure next}, parse settings state = .error failure next →
    failure.fault.IsOther
  reports : ∀ settings {state : ParseState}, state.Spared →
    (parse.run settings state).2.Spared

namespace Spares

variable {P : α → Prop} {parse : Parse α} {continued : α → Parse β}

/-- A change of the state that reports nothing. -/
theorem of_run {value : Settings → ParseState → α} {change : Settings → ParseState → ParseState}
    (hrun : ∀ settings state,
      parse settings state = .ok (value settings state) (change settings state))
    (hdiagnostics : ∀ settings state,
      (change settings state).journal.diagnostics = state.journal.diagnostics) : Spares parse where
  fault hfailed := by
    rw [hrun] at hfailed
    contradiction
  reports settings state hspared := by
    rw [run_of_ok (hrun settings state)]
    simpa [ParseState.Spared, hdiagnostics] using hspared

theorem bind_of (hparse : Spares parse) (hgives : ∀ settings, Gives settings P parse)
    (hcontinued : ∀ value, P value → Spares (continued value)) : Spares (parse >>= continued) where
  fault hfailed := by
    rcases bind_eq_error.1 hfailed with hfirst | ⟨value, middle, hfirst, hsecond⟩
    · exact hparse.fault hfirst
    · exact (hcontinued value (hgives _ hfirst)).fault hsecond
  reports settings state hspared := by
    have hmiddle := hparse.reports settings hspared
    rw [run_bind]
    cases hrun : parse settings state with
    | error failure middle => simpa [run, hrun] using hmiddle
    | ok value middle =>
        have hvalue := hgives settings hrun
        rw [run_of_ok hrun] at hmiddle ⊢
        exact (hcontinued value hvalue).reports settings hmiddle

/-- A parse that changes its state, but not the journal, and then runs another one. -/
theorem of_step (hstep : ∀ settings state, ∃ (rest : Parse α) (changed : ParseState),
      parse settings state = rest settings changed ∧ changed.journal = state.journal ∧
        Spares rest) : Spares parse where
  fault {settings state _ _} hfailed := by
    obtain ⟨rest, changed, hrun, -, hrest⟩ := hstep settings state
    rw [hrun] at hfailed
    exact hrest.fault hfailed
  reports settings state hspared := by
    obtain ⟨rest, changed, hrun, hjournal, hrest⟩ := hstep settings state
    have hchanged : changed.Spared := by simpa [ParseState.Spared, hjournal] using hspared
    rw [run_congr hrun]
    exact hrest.reports settings hchanged

theorem bind (hparse : Spares parse) (hcontinued : ∀ value, Spares (continued value)) :
    Spares (parse >>= continued) :=
  hparse.bind_of (P := fun _ => True) (fun _ _ _ _ _ => trivial) fun value _ => hcontinued value

theorem failed {settings : Settings} {state : ParseState} {failure : Failure}
    (hparse : Spares parse) (hrun : (parse.run settings state).1 = .error failure) :
    failure.fault.IsOther := by
  unfold run at hrun
  cases hparsed : parse settings state with
  | ok value next =>
      rw [hparsed] at hrun
      contradiction
  | error found next =>
      rw [hparsed] at hrun
      cases hrun
      exact hparse.fault hparsed

end Spares

/-- A failure that an attempt has caught is no missing expression. -/
def SparesCaught : Except Failure α → Prop
  | .ok _ => True
  | .error failure => failure.fault.IsOther

theorem attempt_gives (parse : Parse α) [hparse : Spares parse] (settings : Settings) :
    Gives settings SparesCaught (attempt parse) := by
  intro state result next hrun
  cases hparsed : parse settings state with
  | ok value middle =>
      rw [attempt_of_ok hparsed] at hrun
      cases hrun
      trivial
  | error failure middle =>
      rw [attempt_of_error hparsed] at hrun
      cases hrun
      exact hparse.fault hparsed

instance (value : α) : Spares (pure value : Parse α) := .of_run (fun _ _ => rfl) fun _ _ => rfl

instance : Spares (get : Parse ParseState) := .of_run (fun _ _ => rfl) fun _ _ => rfl

instance : Spares (read : Parse Settings) := .of_run (fun _ _ => rfl) fun _ _ => rfl

instance (failure : Failure) [hfault : failure.fault.IsOther] :
    Spares (throw failure : Parse α) where
  fault hfailed := by
    cases hfailed
    exact hfault
  reports _ _ hspared := hspared

instance (parse : Parse α) (continued : α → Parse β) [hparse : Spares parse]
    [hcontinued : ∀ value, Spares (continued value)] : Spares (parse >>= continued) :=
  hparse.bind hcontinued

instance (f : α → β) (parse : Parse α) [Spares parse] : Spares (f <$> parse) := by
  rw [map_eq_pure_bind]
  infer_instance

instance (condition : Prop) [Decidable condition] (accepted rejected : Parse α)
    [Spares accepted] [Spares rejected] : Spares (if condition then accepted else rejected) := by
  split <;> infer_instance

instance (fault : Fault) (position : Position) [fault.IsOther] :
    Spares (failAt fault position : Parse α) := by
  unfold failAt
  infer_instance

instance (parse : Parse α) [hparse : Spares parse] : Spares (attempt parse) where
  fault {settings state failure next} hfailed := by
    unfold attempt at hfailed
    cases hparsed : parse settings state <;> simp [hparsed] at hfailed
  reports settings state hspared := by
    rw [run_attempt]
    exact hparse.reports settings hspared

instance (parse : Parse (Option α)) (failure : Failure) [Spares parse]
    [failure.fault.IsOther] : Spares (orFail parse failure) := by
  unfold orFail
  refine .bind inferInstance fun value? => ?_
  cases value? <;> infer_instance

/-- What follows an attempt is told that a failure is no missing expression. -/
theorem Spares.attempt_bind {parse : Parse α} {continued : Except Failure α → Parse β}
    [Spares parse] (hok : ∀ value, Spares (continued (.ok value)))
    (herror : ∀ failure : Failure, failure.fault.IsOther → Spares (continued (.error failure))) :
    Spares (attempt parse >>= continued) := by
  refine .bind_of inferInstance (attempt_gives parse) fun result hresult => ?_
  cases result with
  | ok value => exact hok value
  | error failure => exact herror failure hresult

theorem Spares.bracket {before after : ParseState → ParseState} {parse : Parse α}
    (hparse : Spares parse) (hbefore : ∀ state, (before state).journal = state.journal)
    (hafter : ∀ state, (after state).journal = state.journal) :
    Spares (bracket before after parse) where
  fault {settings state failure next} hfailed := by
    unfold Parse.bracket at hfailed
    cases hparsed : parse settings (before state) with
    | ok value middle => simp [hparsed] at hfailed
    | error found middle =>
        rw [hparsed] at hfailed
        cases hfailed
        exact hparse.fault hparsed
  reports settings state hspared := by
    have hentered : (before state).Spared := by simpa [ParseState.Spared, hbefore] using hspared
    rw [run_bracket]
    simpa [ParseState.Spared, hafter] using hparse.reports settings hentered

/-! ## Elementary parses -/

instance : Spares current := .of_run (fun _ _ => rfl) fun _ _ => rfl

instance : Spares kind := .of_run (fun _ _ => rfl) fun _ _ => rfl

instance : Spares position := .of_run (fun _ _ => rfl) fun _ _ => rfl

instance : Spares remaining := .of_run (fun _ _ => rfl) fun _ _ => rfl

instance : Spares hasTokens := .of_run (fun _ _ => rfl) fun _ _ => rfl

instance : Spares advance := .of_run (fun _ _ => rfl) fun _ _ => rfl

instance (target : TokenKind) : Spares (skipTo target) := .of_run (fun _ _ => rfl) fun _ _ => rfl

instance (event : Event) : Spares (note event) := .of_run (fun _ _ => rfl) fun _ _ => rfl

instance : Spares markPrintf := .of_run (fun _ _ => rfl) fun _ _ => rfl

instance (text : String) : Spares (intern text) := .of_run (fun _ _ => rfl) fun _ _ => rfl

instance (span : Span) : Spares (placeholder span) := .of_run (fun _ _ => rfl) fun _ _ => rfl

instance (ty? : Option Ty) : Spares (setReturnType ty?) := .of_run (fun _ _ => rfl) fun _ _ => rfl

instance : Spares takeStrings := .of_run (fun _ _ => rfl) fun _ _ => rfl

instance (expected : TokenKind) : Spares (accept expected) := by
  unfold accept
  infer_instance

instance (expected : TokenKind) (failure : Failure) [failure.fault.IsOther] :
    Spares (expectOr expected failure) := by
  unfold expectOr
  infer_instance

instance (expected : TokenKind) (found : Token) : (mismatch expected found).fault.IsOther := by
  unfold mismatch
  split <;> infer_instance

instance (expected : TokenKind) : Spares (expect expected) := by
  unfold expect
  infer_instance

instance (target : TokenKind) : Spares (resynchronize target) := by
  unfold resynchronize
  infer_instance

instance (target : TokenKind) : Spares (skipPast target) := by
  unfold skipPast
  infer_instance

theorem record_spares {diagnostic : Diagnostic}
    (hcause : diagnostic.cause ≠ .fault (.malformed .missingExpression)) :
    Spares (record diagnostic) where
  fault hfailed := by simp at hfailed
  reports _ _ hspared := hspared.reported hcause

instance (misuse : Misuse) (position : Position) : Spares (reportMisuse misuse position) := by
  have hrecord : Spares (record { cause := .misuse misuse, position := position }) :=
    record_spares nofun
  unfold reportMisuse
  infer_instance

instance (condition : Bool) (misuse : Misuse) (position : Position) :
    Spares (reportUnless condition misuse position) := by
  unfold reportUnless
  infer_instance

instance (delimiter : TokenKind) (failure : Failure) [hfault : failure.fault.IsOther] :
    Spares (recoverPast delimiter failure) := by
  have hreport : Spares (reportFailure failure) :=
    record_spares fun hcause => hfault.ne (Cause.fault.inj hcause)
  unfold recoverPast
  infer_instance

instance (name : String) (position : Position) : Spares (resolve name position) := by
  refine .of_step fun settings state => ?_
  cases hlookup : state.symbols.lookup? name with
  | some symbol => exact ⟨pure symbol, state, resolve_found hlookup, rfl, inferInstance⟩
  | none => exact ⟨_, _, resolve_planted hlookup, rfl, inferInstance⟩

instance (name : Token) (ty : Ty) : Spares (declareVariable name ty) := by
  refine .of_step fun settings state => ?_
  cases hdeclare : state.symbols.declare (.variable name.text ty) with
  | ok symbols => exact ⟨pure _, _, declareVariable_declared hdeclare, rfl, inferInstance⟩
  | error existing => exact ⟨_, _, declareVariable_refused hdeclare, rfl, inferInstance⟩

instance (name : Token) (signature : Signature) : Spares (declareFunction name signature) := by
  refine .of_step fun settings state => ?_
  cases hdeclare : state.symbols.declareGlobal (.function name.text signature) with
  | ok symbols => exact ⟨pure _, _, declareFunction_declared hdeclare, rfl, inferInstance⟩
  | error existing => exact ⟨_, _, declareFunction_refused hdeclare, rfl, inferInstance⟩

/-! ## Expressions -/

section Expressions

variable (whole : Parse (Option Expr)) [Spares whole]

instance (symbol : Symbol) : Spares (acceptsSubscript symbol) := by
  unfold acceptsSubscript
  infer_instance

instance (array : Symbol) (span : Span) : Spares (subscript whole array span) := by
  unfold subscript
  infer_instance

instance (symbol : Symbol) (span : Span) : Spares (rejectSubscript symbol span) := by
  unfold rejectSubscript
  infer_instance

instance (array : Symbol) (span : Span) : Spares (element whole array span) := by
  unfold element
  refine .bind inferInstance fun accepted => ?_
  split
  · exact .attempt_bind (fun target => inferInstance) fun failure _ => inferInstance
  · infer_instance

instance (check : CallCheck) (callee : Symbol) (index : Nat) (argument : Expr) :
    Spares (checkArgument check callee index argument) := by
  unfold checkArgument
  split
  · infer_instance
  · infer_instance
  · split <;> infer_instance

instance (check : CallCheck) (callee : Symbol) (count : Nat) (opening stop : Position) :
    Spares (checkCount check callee count opening stop) := by
  unfold checkCount
  split <;> infer_instance

instance (check : CallCheck) (callee : Symbol) (budget index : Nat) :
    Spares (argumentsFrom whole check callee budget index) := by
  induction budget generalizing index with
  | zero =>
      unfold argumentsFrom
      infer_instance
  | succ budget ih =>
      unfold argumentsFrom
      refine .bind inferInstance fun start => .bind inferInstance fun result => ?_
      cases result <;> infer_instance

instance (check : CallCheck) (callee : Symbol) : Spares (arguments whole check callee) := by
  unfold arguments
  infer_instance

theorem closing_gives (settings : Settings) (values : List Expr) :
    Gives settings (fun read => SparesCaught read.2)
      (do return (values, ← attempt (expect .closeParen))) :=
  (attempt_gives (expect .closeParen) settings).bind fun _ hclosing => .pure hclosing

/-- What ends the arguments is no missing expression either. -/
theorem argumentsFrom_gives (settings : Settings) (check : CallCheck) (callee : Symbol)
    (budget index : Nat) :
    Gives settings (fun read => SparesCaught read.2)
      (argumentsFrom whole check callee budget index) := by
  induction budget generalizing index with
  | zero =>
      unfold argumentsFrom
      have hmismatch (found : Token) : (mismatch .closeParen found).fault.IsOther := inferInstance
      exact .after fun found => .pure (hmismatch found)
  | succ budget ih =>
      unfold argumentsFrom
      refine .after fun start => .bind (attempt_gives _ settings) fun result hresult => ?_
      cases result with
      | error failure => exact .pure hresult
      | ok argument =>
          refine .after fun kept => .after fun more => .ite ?_ (closing_gives settings [kept])
          exact .bind (ih (index + 1)) fun others hothers => .pure hothers

theorem arguments_gives (settings : Settings) (check : CallCheck) (callee : Symbol) :
    Gives settings (fun read => SparesCaught read.2) (arguments whole check callee) := by
  unfold arguments
  refine .after fun kind => .ite (closing_gives settings []) (.after fun count => ?_)
  exact argumentsFrom_gives whole settings check callee _ _

instance (callee : Symbol) : Spares (noteCallee callee) := by
  unfold noteCallee
  infer_instance

instance (callee : Symbol) (span : Span) : Spares (checkedCall whole callee span) := by
  unfold checkedCall
  refine .bind inferInstance fun settings => .bind inferInstance fun _ =>
    .bind inferInstance fun opening => ?_
  refine .bind_of inferInstance (fun settings => arguments_gives whole settings _ callee) ?_
  rintro ⟨values, closing⟩ hclosing
  cases closing with
  | ok close => infer_instance
  | error failure =>
      have hfault : failure.fault.IsOther := hclosing
      infer_instance

instance (callee : Symbol) (span : Span) : Spares (call whole callee span) := by
  unfold call
  infer_instance

instance (symbol : Symbol) (span : Span) : Spares (afterName whole symbol span) := by
  unfold afterName
  refine .bind inferInstance fun kind => ?_
  split <;> infer_instance

instance : Spares (named whole) := by
  unfold named
  infer_instance

instance : Spares stringLiteral := by
  unfold stringLiteral
  infer_instance

instance : Spares constant := by
  unfold constant Constant.ofText
  refine .bind inferInstance fun token => ?_
  cases Constant.read? token.text.toList <;> infer_instance

instance : Spares (parenthesized whole) := by
  unfold parenthesized
  infer_instance

instance (operator : Step) : Spares (stepped operator) := by
  unfold stepped
  infer_instance

instance : Spares (addressed whole) := by
  unfold addressed
  refine .bind inferInstance fun token => .bind inferInstance fun start =>
    .bind inferInstance fun name => .bind inferInstance fun symbol => ?_
  infer_instance

instance : Spares (freshFactor whole) := by
  unfold freshFactor
  refine .bind inferInstance fun kind => ?_
  split <;> infer_instance

instance (handoff? : Option Handoff) : Spares (factor whole handoff?) := by
  unfold factor
  split <;> infer_instance

instance : Spares (negated whole) := by
  unfold negated
  infer_instance

instance (handoff? : Option Handoff) : Spares (value whole handoff?) := by
  unfold value
  split <;> infer_instance

instance (operator : BinaryOp) (lhs rhs : Expr) (position : Position) :
    Spares (joined operator lhs rhs position) := by
  unfold joined
  infer_instance

instance (level : Precedence) (operand : Parse (Option Expr)) [Spares operand] (budget : Nat)
    (lhs : Expr) : Spares (operatorsAfter level operand budget lhs) := by
  induction budget generalizing lhs with
  | zero =>
      unfold operatorsAfter
      infer_instance
  | succ budget ih =>
      unfold operatorsAfter
      refine .bind inferInstance fun kind => ?_
      split <;> infer_instance

instance (level : Precedence) (operand : Rule) [∀ handoff?, Spares (operand handoff?)]
    (handoff? : Option Handoff) : Spares (chain level operand handoff?) := by
  unfold chain
  refine .bind inferInstance fun lhs? => ?_
  cases lhs? <;> infer_instance

instance (handoff? : Option Handoff) : Spares (orExpr whole handoff?) := by
  unfold orExpr andTerm relExpr numExpr term
  infer_instance

instance (budget : Nat) (handoff? : Option Handoff) : Spares (exprWithin budget handoff?) := by
  induction budget generalizing handoff? with
  | zero =>
      unfold exprWithin
      infer_instance
  | succ budget ih =>
      unfold exprWithin
      infer_instance

theorem Spares.withExpr {rule : Parse (Option Expr) → Parse α}
    (hrule : ∀ whole, Spares whole → Spares (rule whole)) : Spares (withExpr rule) := by
  unfold Parse.withExpr
  exact .bind inferInstance fun _ => hrule _ inferInstance

instance (handoff? : Option Handoff) : Spares (exprAfter handoff?) :=
  .withExpr fun _ _ => inferInstance

instance : Spares expr := by
  unfold expr
  infer_instance

instance (malformation : Malformation) [(Fault.malformed malformation).IsOther] :
    Spares (requireExpr malformation) := by
  unfold requireExpr
  infer_instance

end Expressions

/-! ## Declarations and statements -/

instance (expected : TokenKind) (expectation : Expectation) :
    Spares (expectFor expected expectation) := by
  unfold expectFor
  infer_instance

instance : Spares typeSpecifier := by
  unfold typeSpecifier
  refine .bind inferInstance fun token => ?_
  split <;> infer_instance

instance (element : Ty) (position : Position) : Spares (arrayType element position) := by
  unfold arrayType
  split <;> infer_instance

instance (target : Ty) (value : Expr) (misuse : Ty → Ty → Misuse) (position : Position) :
    Spares (coerce target value misuse position) := by
  unfold coerce
  split
  · infer_instance
  · split <;> infer_instance

instance (base : Ty) (name : Token) : Spares (declaredType base name) := by
  unfold declaredType
  refine .bind inferInstance fun bracketed => ?_
  split
  · refine .bind inferInstance fun ty => .bind inferInstance fun kind => ?_
    split
    · refine .bind inferInstance fun token => ?_
      split <;> infer_instance
    · infer_instance
  · infer_instance

instance (ty : Ty) : Spares (initialValue ty) := by
  unfold initialValue
  infer_instance

instance (base : Ty) (name : Token) (start : Position) : Spares (declarator base name start) := by
  unfold declarator
  infer_instance

instance : Spares declaration := by
  unfold declaration
  infer_instance

instance (base : Ty) : Spares (parameter base) := by
  unfold parameter
  infer_instance

instance (isFirst : Bool) (budget : Nat) : Spares (parametersFrom isFirst budget) := by
  induction budget generalizing isFirst with
  | zero =>
      unfold parametersFrom
      infer_instance
  | succ budget ih =>
      unfold parametersFrom
      refine .bind inferInstance fun base => .bind inferInstance fun kind => ?_
      infer_instance

instance : Spares parameters := by
  unfold parameters
  infer_instance

instance : Spares condition := by
  unfold condition
  infer_instance

instance : Spares returned := by
  unfold returned
  refine .bind inferInstance fun word => .bind inferInstance fun state =>
    .bind inferInstance fun value? => ?_
  cases value? <;> infer_instance

instance (name : Token) : Spares (beginning name) := by
  unfold beginning
  refine .bind inferInstance fun symbol => .bind inferInstance fun kind => ?_
  split
  · refine .bind inferInstance fun accepted => ?_
    split
    · have hsubscript : Spares (withExpr fun whole => subscript whole symbol name.span) :=
        .withExpr fun _ _ => inferInstance
      exact .attempt_bind (fun target => inferInstance) fun failure _ => inferInstance
    · infer_instance
  · infer_instance

instance (target : Handoff) (value : Expr) (position : Position) (span : Span) :
    Spares (assignment target value position span) := by
  unfold assignment
  cases target <;> infer_instance

/-- An expression that was begun is never missing, so it does not matter which failure is to
say so. -/
instance (handoff : Handoff) (failure : Failure) :
    Spares (orFail (exprAfter (some handoff)) failure) := by
  unfold orFail
  refine .bind_of inferInstance (fun _ => exprAfter_gives handoff) fun value? hsome => ?_
  cases value? with
  | none => contradiction
  | some value => infer_instance

instance : Spares namedStmt := by
  unfold namedStmt
  refine .bind inferInstance fun name => .bind inferInstance fun handoff =>
    .bind inferInstance fun kind => ?_
  infer_instance

instance : Spares evaluated := by
  unfold evaluated
  infer_instance

instance (failure : Failure) [failure.fault.IsOther] : Spares (recoverStmt failure) := by
  unfold recoverStmt
  infer_instance

section Nested

variable (stmt : Parse Stmt) [Spares stmt]

instance (budget : Nat) : Spares (stmtsUntilClose stmt budget) := by
  induction budget with
  | zero =>
      unfold stmtsUntilClose
      infer_instance
  | succ budget ih =>
      unfold stmtsUntilClose
      refine .bind inferInstance fun kind => ?_
      split
      · infer_instance
      · infer_instance
      · exact .attempt_bind (fun first => inferInstance) fun failure _ => inferInstance

instance : Spares (block stmt) := by
  unfold block
  infer_instance

instance : Spares (conditional stmt) := by
  unfold conditional
  infer_instance

instance : Spares (whileLoop stmt) := by
  unfold whileLoop
  infer_instance

instance : Spares (stmtWith stmt) := by
  have hscope : Spares (inScope (block stmt)) :=
    .bracket inferInstance (fun _ => rfl) fun _ => rfl
  unfold stmtWith
  refine .bind inferInstance fun kind => ?_
  split <;> infer_instance

end Nested

instance (budget : Nat) : Spares (stmtWithin budget) := by
  induction budget with
  | zero =>
      unfold stmtWithin
      infer_instance
  | succ budget ih =>
      unfold stmtWithin
      infer_instance

/-! ## Programs -/

instance (returns : Ty) : Spares (functionBody returns) := by
  unfold functionBody
  infer_instance

instance (returns : Ty) (name : Token) (start : Position) :
    Spares (functionRest returns name start) := by
  unfold functionRest
  infer_instance

instance (returns : Ty) (name : Token) (start : Position) :
    Spares (function returns name start) := by
  unfold function
  refine .bind inferInstance fun opening => ?_
  exact .bracket inferInstance (fun _ => rfl) fun _ => rfl

instance : Spares external := by
  unfold external
  infer_instance

instance (budget : Nat) : Spares (externals budget) := by
  induction budget with
  | zero =>
      unfold externals
      infer_instance
  | succ budget ih =>
      unfold externals
      refine .bind inferInstance fun more => ?_
      split
      · exact .attempt_bind (fun first => inferInstance) fun failure _ => inferInstance
      · infer_instance

instance : Spares program := by
  unfold program
  infer_instance

instance : Spares journaled := by
  unfold journaled
  refine .bind inferInstance fun settings => .bind inferInstance fun count =>
    .bind inferInstance fun _ => ?_
  refine .attempt_bind (fun found => ?_) fun failure _ => ?_
  · unfold ofAttempt
    infer_instance
  · unfold ofAttempt
    infer_instance

end Parse

end SubsetC
