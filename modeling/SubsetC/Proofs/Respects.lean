import SubsetC.Proofs.Run

/-!
# Relations that parses respect

A parse respects a relation between states if the state it starts from is
related to the state it leaves, whether it succeeds or fails.  For a preorder
that every elementary change of the state keeps, all rules of the grammar
respect it: this is shown once here, rule by rule, and found by instance
resolution afterwards.

Such relations carry the rest of the theory: the journal only grows, and the cursor
only moves forward in its stream.
-/

namespace SubsetC.Parse

variable {α β : Type} {R : ParseState → ParseState → Prop}

class Respects (R : ParseState → ParseState → Prop) (parse : Parse α) : Prop where
  ok : ∀ {settings state value next},
    parse settings state = .ok value next → R state next
  error : ∀ {settings state failure next},
    parse settings state = .error failure next → R state next

/-- A preorder that the elementary changes keep which an expression can make: the
cursor moves on, the journal is added to, a dummy stands in for an unknown name, a
string is interned, and the use of `printf` is noted. -/
class StepRelation (R : ParseState → ParseState → Prop) : Prop where
  refl : ∀ state, R state state
  trans : ∀ {first second third}, R first second → R second third → R first third
  move : ∀ state (cursor : Cursor), cursor.ahead <:+ state.cursor.ahead →
    cursor.last = state.cursor.last → R state { state with cursor := cursor }
  note : ∀ state event, R state (state.noted event)
  report : ∀ state diagnostic, R state (state.reported diagnostic)
  plant : ∀ state name, state.symbols.lookup? name = none →
    R state { state with symbols := state.symbols.bind (.dummy name) }
  intern : ∀ state text, R state { state with strings := (state.strings.intern text).2 }
  markPrintf : ∀ state, R state { state with needsPrintf := true }

/-- A preorder that is also kept by the declarations and scopes of a statement. -/
class StmtRelation (R : ParseState → ParseState → Prop) : Prop extends StepRelation R where
  declare : ∀ state symbol symbols, state.symbols.declare symbol = .ok symbols →
    R state { state with symbols := symbols }
  inScope : ∀ {state next : ParseState},
    R { state with symbols := state.symbols.enterScope } next →
      R state { next with symbols := next.symbols.exitScope }

/-- A preorder that is also kept by the definition of functions. -/
class ProgramRelation (R : ParseState → ParseState → Prop) : Prop
    extends StmtRelation R where
  declareGlobal : ∀ state symbol symbols, state.symbols.declareGlobal symbol = .ok symbols →
    R state { state with symbols := symbols }
  setReturnType : ∀ (state : ParseState) ty?, R state { state with returnType? := ty? }

/-! ## Combinators -/

/-- A run is related to the state that it leaves, also when it fails. -/
theorem Respects.run {parse : Parse α} (hparse : Respects R parse) (settings : Settings)
    (state : ParseState) : R state (parse.run settings state).2 := by
  unfold Parse.run
  cases hresult : parse settings state with
  | ok value next => exact hparse.ok hresult
  | error failure next => exact hparse.error hresult

theorem Respects.of_forall_run {parse : Parse α}
    (hrun : ∀ settings state, R state (parse.run settings state).2) : Respects R parse where
  ok {settings state _ _} h := by
    have hrelated := hrun settings state
    simpa only [Parse.run, h] using hrelated
  error {settings state _ _} h := by
    have hrelated := hrun settings state
    simpa only [Parse.run, h] using hrelated

theorem Respects.of_run {parse : Parse α} {value : Settings → ParseState → α}
    {change : Settings → ParseState → ParseState}
    (hrun : ∀ settings state,
      parse settings state = .ok (value settings state) (change settings state))
    (hchange : ∀ settings state, R state (change settings state)) : Respects R parse where
  ok {settings state _ _} h := by
    rw [hrun] at h
    cases h
    exact hchange settings state
  error {settings state _ _} h := by
    rw [hrun] at h
    contradiction

theorem Respects.bracket {parse : Parse α} {before after : ParseState → ParseState}
    [Respects R parse]
    (hbracket : ∀ state next, R (before state) next → R state (after next)) :
    Respects R (bracket before after parse) where
  ok {settings state _ _} h := by
    unfold Parse.bracket at h
    cases hparse : parse settings (before state) <;> rw [hparse] at h <;> cases h
    exact hbracket _ _ (Respects.ok hparse)
  error {settings state _ _} h := by
    unfold Parse.bracket at h
    cases hparse : parse settings (before state) <;> rw [hparse] at h <;> cases h
    exact hbracket _ _ (Respects.error hparse)

section Combinators

variable [StepRelation R]

/-- A parse that changes its state and then runs another one. -/
theorem Respects.of_step {parse : Parse α}
    (hstep : ∀ settings state, ∃ (rest : Parse α) (changed : ParseState),
      parse settings state = rest settings changed ∧ R state changed ∧ Respects R rest) :
    Respects R parse where
  ok {settings state _ _} h := by
    obtain ⟨rest, changed, hrun, hchanged, hrest⟩ := hstep settings state
    rw [hrun] at h
    exact StepRelation.trans hchanged (hrest.ok h)
  error {settings state _ _} h := by
    obtain ⟨rest, changed, hrun, hchanged, hrest⟩ := hstep settings state
    rw [hrun] at h
    exact StepRelation.trans hchanged (hrest.error h)

instance (value : α) : Respects R (pure value : Parse α) :=
  .of_run (fun _ _ => rfl) fun _ state => StepRelation.refl state

instance : Respects R (get : Parse ParseState) :=
  .of_run (fun _ _ => rfl) fun _ state => StepRelation.refl state

instance : Respects R (read : Parse Settings) :=
  .of_run (fun _ _ => rfl) fun _ state => StepRelation.refl state

instance (failure : Failure) : Respects R (throw failure : Parse α) where
  ok h := by simp at h
  error h := by
    cases h
    exact StepRelation.refl _

theorem Respects.bind {parse : Parse α} {continued : α → Parse β}
    (hparse : Respects R parse) (hcontinued : ∀ value, Respects R (continued value)) :
    Respects R (parse >>= continued) where
  ok h := by
    obtain ⟨value, middle, hfirst, hsecond⟩ := bind_eq_ok.1 h
    exact StepRelation.trans (hparse.ok hfirst) ((hcontinued value).ok hsecond)
  error h := by
    obtain hfirst | ⟨value, middle, hfirst, hsecond⟩ := bind_eq_error.1 h
    · exact hparse.error hfirst
    · exact StepRelation.trans (hparse.ok hfirst) ((hcontinued value).error hsecond)

/-- A sequence goes on from where its first part has led, unless this fails. -/
theorem Respects.run_bind {parse : Parse α} {continued : α → Parse β}
    (hcontinued : ∀ value, Respects R (continued value)) (settings : Settings)
    (state : ParseState) :
    R (parse.run settings state).2 ((parse >>= continued).run settings state).2 := by
  rw [Parse.run_bind]
  rcases parse.run settings state with ⟨failure | value, middle⟩
  · exact StepRelation.refl middle
  · exact (hcontinued value).run settings middle

instance (parse : Parse α) (continued : α → Parse β) [Respects R parse]
    [∀ value, Respects R (continued value)] : Respects R (parse >>= continued) :=
  .bind inferInstance inferInstance

instance (f : α → β) (parse : Parse α) [Respects R parse] : Respects R (f <$> parse) := by
  rw [map_eq_pure_bind]
  infer_instance

instance (condition : Prop) [Decidable condition] (accepted rejected : Parse α)
    [Respects R accepted] [Respects R rejected] :
    Respects R (if condition then accepted else rejected) := by
  split <;> infer_instance

instance (fault : Fault) (position : Position) :
    Respects R (failAt fault position : Parse α) := by
  unfold failAt
  infer_instance

instance (parse : Parse α) [Respects R parse] : Respects R (attempt parse) where
  ok {settings state _ _} h := by
    unfold attempt at h
    cases hparse : parse settings state with
    | ok value next =>
        rw [hparse] at h
        cases h
        exact Respects.ok hparse
    | error failure next =>
        rw [hparse] at h
        cases h
        exact Respects.error hparse
  error {settings state _ _} h := by
    unfold attempt at h
    cases hparse : parse settings state <;> simp [hparse] at h

instance (result : Except Failure α) : Respects R (ofAttempt result) := by
  cases result <;> (unfold ofAttempt; infer_instance)

end Combinators

/-! ## Elementary parses -/

section Elementary

variable [StepRelation R]

instance : Respects R current := by
  unfold current
  infer_instance

instance : Respects R kind := by
  unfold kind
  infer_instance

instance : Respects R position := by
  unfold position
  infer_instance

instance : Respects R remaining := by
  unfold remaining
  infer_instance

instance : Respects R hasTokens := by
  unfold hasTokens
  infer_instance

instance : Respects R advance :=
  .of_run (fun _ _ => rfl) fun _ state =>
    StepRelation.move state _ (List.tail_suffix _) rfl

instance (target : TokenKind) : Respects R (skipTo target) :=
  .of_run (fun _ _ => rfl) fun _ state =>
    StepRelation.move state _ (List.dropWhile_suffix _) rfl

instance (event : Event) : Respects R (note event) :=
  .of_run (fun _ _ => rfl) fun _ state => StepRelation.note state event

instance (diagnostic : Diagnostic) : Respects R (record diagnostic) :=
  .of_run (fun _ _ => rfl) fun _ state => StepRelation.report state diagnostic

instance : Respects R markPrintf :=
  .of_run (fun _ _ => rfl) fun _ state => StepRelation.markPrintf state

instance (text : String) : Respects R (intern text) :=
  .of_run (fun _ _ => rfl) fun _ state => StepRelation.intern state text

instance (expected : TokenKind) : Respects R (accept expected) := by
  unfold accept
  infer_instance

instance (expected : TokenKind) (failure : Failure) :
    Respects R (expectOr expected failure) := by
  unfold expectOr
  infer_instance

instance (expected : TokenKind) : Respects R (expect expected) := by
  unfold expect
  infer_instance

instance (target : TokenKind) : Respects R (resynchronize target) := by
  unfold resynchronize
  infer_instance

instance (target : TokenKind) : Respects R (skipPast target) := by
  unfold skipPast
  infer_instance

instance (misuse : Misuse) (position : Position) :
    Respects R (reportMisuse misuse position) := by
  unfold reportMisuse
  infer_instance

instance (condition : Bool) (misuse : Misuse) (position : Position) :
    Respects R (reportUnless condition misuse position) := by
  unfold reportUnless
  infer_instance

instance (failure : Failure) : Respects R (reportFailure failure) := by
  unfold reportFailure
  infer_instance

instance (delimiter : TokenKind) (failure : Failure) :
    Respects R (recoverPast delimiter failure) := by
  unfold recoverPast
  infer_instance

instance (span : Span) : Respects R (placeholder span) := by
  unfold placeholder
  infer_instance

instance (name : String) (position : Position) : Respects R (resolve name position) := by
  refine .of_step fun settings state => ?_
  cases hlookup : state.symbols.lookup? name with
  | some symbol =>
      exact ⟨pure symbol, state, resolve_found hlookup, StepRelation.refl state,
        inferInstance⟩
  | none =>
      exact ⟨_, _, resolve_planted hlookup, StepRelation.plant state name hlookup,
        inferInstance⟩

instance (parse : Parse (Option α)) (failure : Failure) [Respects R parse] :
    Respects R (orFail parse failure) := by
  unfold orFail
  refine .bind inferInstance fun value? => ?_
  cases value? <;> infer_instance

end Elementary

/-! ## Factors and expressions -/

section Expressions

variable [StepRelation R] (expr : Parse (Option Expr)) [Respects R expr]

instance (symbol : Symbol) : Respects R (acceptsSubscript symbol) := by
  unfold acceptsSubscript
  infer_instance

instance (array : Symbol) (span : Span) : Respects R (subscript expr array span) := by
  unfold subscript
  infer_instance

instance (symbol : Symbol) (span : Span) : Respects R (rejectSubscript symbol span) := by
  unfold rejectSubscript
  infer_instance

instance (array : Symbol) (span : Span) : Respects R (element expr array span) := by
  unfold element
  refine .bind inferInstance fun accepted => ?_
  split
  · refine .bind inferInstance fun result => ?_
    cases result <;> infer_instance
  · infer_instance

instance (check : CallCheck) (callee : Symbol) (index : Nat) (argument : Expr) :
    Respects R (checkArgument check callee index argument) := by
  unfold checkArgument
  split
  · infer_instance
  · infer_instance
  · split <;> infer_instance

instance (check : CallCheck) (callee : Symbol) (count : Nat) (opening stop : Position) :
    Respects R (checkCount check callee count opening stop) := by
  unfold checkCount
  split <;> infer_instance

instance (check : CallCheck) (callee : Symbol) (budget index : Nat) :
    Respects R (argumentsFrom expr check callee budget index) := by
  induction budget generalizing index with
  | zero =>
      unfold argumentsFrom
      infer_instance
  | succ budget ih =>
      unfold argumentsFrom
      refine .bind inferInstance fun start => .bind inferInstance fun result => ?_
      cases result <;> infer_instance

instance (check : CallCheck) (callee : Symbol) :
    Respects R (arguments expr check callee) := by
  unfold arguments
  infer_instance

instance (callee : Symbol) : Respects R (noteCallee callee) := by
  unfold noteCallee
  infer_instance

instance (callee : Symbol) (span : Span) : Respects R (checkedCall expr callee span) := by
  unfold checkedCall
  refine .bind inferInstance fun settings => .bind inferInstance fun _ =>
    .bind inferInstance fun opening => .bind inferInstance fun (arguments, closing) => ?_
  cases closing <;> infer_instance

instance (callee : Symbol) (span : Span) : Respects R (call expr callee span) := by
  unfold call
  infer_instance

instance (symbol : Symbol) (span : Span) : Respects R (afterName expr symbol span) := by
  unfold afterName
  refine .bind inferInstance fun kind => ?_
  split <;> infer_instance

instance : Respects R (named expr) := by
  unfold named
  infer_instance

instance : Respects R stringLiteral := by
  unfold stringLiteral
  infer_instance

instance : Respects R constant := by
  unfold constant
  refine .bind inferInstance fun token => ?_
  split <;> infer_instance

instance : Respects R (parenthesized expr) := by
  unfold parenthesized
  infer_instance

instance (operator : Step) : Respects R (stepped operator) := by
  unfold stepped
  infer_instance

instance : Respects R (addressed expr) := by
  unfold addressed
  refine .bind inferInstance fun token => .bind inferInstance fun start =>
    .bind inferInstance fun name => .bind inferInstance fun symbol => ?_
  infer_instance

instance : Respects R (freshFactor expr) := by
  unfold freshFactor
  refine .bind inferInstance fun kind => ?_
  split <;> infer_instance

instance (handoff? : Option Handoff) : Respects R (factor expr handoff?) := by
  unfold factor
  split <;> infer_instance

instance : Respects R (negated expr) := by
  unfold negated
  infer_instance

instance (handoff? : Option Handoff) : Respects R (value expr handoff?) := by
  unfold value
  split <;> infer_instance

instance (operator : BinaryOp) (lhs rhs : Expr) (position : Position) :
    Respects R (joined operator lhs rhs position) := by
  unfold joined
  infer_instance

instance (level : Precedence) (operand : Parse (Option Expr)) [Respects R operand]
    (budget : Nat) (lhs : Expr) : Respects R (operatorsAfter level operand budget lhs) := by
  induction budget generalizing lhs with
  | zero =>
      unfold operatorsAfter
      infer_instance
  | succ budget ih =>
      unfold operatorsAfter
      refine .bind inferInstance fun kind => ?_
      split <;> infer_instance

instance (level : Precedence) (operand : Rule) [∀ handoff?, Respects R (operand handoff?)]
    (handoff? : Option Handoff) : Respects R (chain level operand handoff?) := by
  unfold chain
  refine .bind inferInstance fun lhs? => ?_
  cases lhs? <;> infer_instance

instance (handoff? : Option Handoff) : Respects R (term expr handoff?) := by
  unfold term
  infer_instance

instance (handoff? : Option Handoff) : Respects R (numExpr expr handoff?) := by
  unfold numExpr
  infer_instance

instance (handoff? : Option Handoff) : Respects R (relExpr expr handoff?) := by
  unfold relExpr
  infer_instance

instance (handoff? : Option Handoff) : Respects R (andTerm expr handoff?) := by
  unfold andTerm
  infer_instance

instance (handoff? : Option Handoff) : Respects R (orExpr expr handoff?) := by
  unfold orExpr
  infer_instance

instance (budget : Nat) (handoff? : Option Handoff) :
    Respects R (exprWithin budget handoff?) := by
  induction budget generalizing handoff? with
  | zero =>
      unfold exprWithin
      infer_instance
  | succ budget ih =>
      unfold exprWithin
      infer_instance

theorem Respects.withExpr {rule : Parse (Option Expr) → Parse α}
    (hrule : ∀ whole, Respects R whole → Respects R (rule whole)) :
    Respects R (withExpr rule) := by
  unfold Parse.withExpr
  exact .bind inferInstance fun _ => hrule _ inferInstance

instance (handoff? : Option Handoff) : Respects R (exprAfter handoff?) :=
  .withExpr fun _ _ => inferInstance

instance : Respects R Parse.expr := by
  unfold Parse.expr
  infer_instance

instance (malformation : Malformation) : Respects R (requireExpr malformation) := by
  unfold requireExpr
  infer_instance

end Expressions

/-! ## Declarations -/

section Declarations

variable [StepRelation R]

instance (expected : TokenKind) (expectation : Expectation) :
    Respects R (expectFor expected expectation) := by
  unfold expectFor
  infer_instance

instance : Respects R typeSpecifier := by
  unfold typeSpecifier
  refine .bind inferInstance fun token => ?_
  split <;> infer_instance

instance (element : Ty) (position : Position) : Respects R (arrayType element position) := by
  unfold arrayType
  split <;> infer_instance

instance (target : Ty) (value : Expr) (misuse : Ty → Ty → Misuse) (position : Position) :
    Respects R (coerce target value misuse position) := by
  unfold coerce
  split
  · infer_instance
  · split <;> infer_instance

instance (base : Ty) (name : Token) : Respects R (declaredType base name) := by
  unfold declaredType
  refine .bind inferInstance fun bracketed => ?_
  split
  · refine .bind inferInstance fun ty => .bind inferInstance fun kind => ?_
    split
    · refine .bind inferInstance fun token => ?_
      split <;> infer_instance
    · infer_instance
  · infer_instance

instance (ty : Ty) : Respects R (initialValue ty) := by
  unfold initialValue
  infer_instance

end Declarations

section Statements

variable [StmtRelation R]

instance (name : Token) (ty : Ty) : Respects R (declareVariable name ty) := by
  refine .of_step fun settings state => ?_
  cases hdeclare : state.symbols.declare (.variable name.text ty) with
  | ok symbols =>
      exact ⟨pure _, _, declareVariable_declared hdeclare,
        StmtRelation.declare state _ symbols hdeclare, inferInstance⟩
  | error existing =>
      exact ⟨_, _, declareVariable_refused hdeclare, StepRelation.refl state, inferInstance⟩

instance (ty : Ty) (name : Token) (start : Position) :
    Respects R (declarator ty name start) := by
  unfold declarator
  infer_instance

instance : Respects R declaration := by
  unfold declaration
  infer_instance

instance (base : Ty) : Respects R (parameter base) := by
  unfold parameter
  infer_instance

instance (isFirst : Bool) (budget : Nat) : Respects R (parametersFrom isFirst budget) := by
  induction budget generalizing isFirst with
  | zero =>
      unfold parametersFrom
      infer_instance
  | succ budget ih =>
      unfold parametersFrom
      refine .bind inferInstance fun base => .bind inferInstance fun kind => ?_
      infer_instance

instance : Respects R parameters := by
  unfold parameters
  infer_instance

instance (parse : Parse α) [Respects R parse] : Respects R (inScope parse) :=
  .bracket fun _ _ h => StmtRelation.inScope h

instance : Respects R condition := by
  unfold condition
  infer_instance

instance : Respects R returned := by
  unfold returned
  refine .bind inferInstance fun word => .bind inferInstance fun state =>
    .bind inferInstance fun value? => ?_
  cases value? <;> infer_instance

instance (name : Token) : Respects R (beginning name) := by
  unfold beginning
  refine .bind inferInstance fun symbol => .bind inferInstance fun kind => ?_
  split
  · refine .bind inferInstance fun accepted => ?_
    split
    · have hsubscript : Respects R (withExpr fun whole => subscript whole symbol name.span) :=
        .withExpr fun _ _ => inferInstance
      refine .bind inferInstance fun result => ?_
      cases result <;> infer_instance
    · infer_instance
  · infer_instance

instance (target : Handoff) (value : Expr) (position : Position) (span : Span) :
    Respects R (assignment target value position span) := by
  unfold assignment
  cases target <;> infer_instance

instance : Respects R namedStmt := by
  unfold namedStmt
  refine .bind inferInstance fun name => .bind inferInstance fun handoff =>
    .bind inferInstance fun kind => ?_
  infer_instance

instance : Respects R evaluated := by
  unfold evaluated
  infer_instance

instance (failure : Failure) : Respects R (recoverStmt failure) := by
  unfold recoverStmt
  infer_instance

variable (stmt : Parse Stmt) [Respects R stmt]

instance (budget : Nat) : Respects R (stmtsUntilClose stmt budget) := by
  induction budget with
  | zero =>
      unfold stmtsUntilClose
      infer_instance
  | succ budget ih =>
      unfold stmtsUntilClose
      refine .bind inferInstance fun kind => ?_
      split
      · infer_instance
      · infer_instance
      · refine .bind inferInstance fun result => ?_
        cases result <;> infer_instance

instance : Respects R (block stmt) := by
  unfold block
  infer_instance

instance : Respects R (conditional stmt) := by
  unfold conditional
  infer_instance

instance : Respects R (whileLoop stmt) := by
  unfold whileLoop
  infer_instance

instance : Respects R (stmtWith stmt) := by
  unfold stmtWith
  refine .bind inferInstance fun kind => ?_
  split <;> infer_instance

instance (budget : Nat) : Respects R (stmtWithin budget) := by
  induction budget with
  | zero =>
      unfold stmtWithin
      infer_instance
  | succ budget ih =>
      unfold stmtWithin
      infer_instance

instance : Respects R Parse.stmt := by
  unfold Parse.stmt
  infer_instance

end Statements

/-! ## Programs -/

section Programs

variable [ProgramRelation R]

instance (ty? : Option Ty) : Respects R (setReturnType ty?) :=
  .of_run (fun _ _ => rfl) fun _ state => ProgramRelation.setReturnType state ty?

instance (name : Token) (signature : Signature) :
    Respects R (declareFunction name signature) := by
  refine .of_step fun settings state => ?_
  cases hdeclare : state.symbols.declareGlobal (.function name.text signature) with
  | ok symbols =>
      exact ⟨pure _, _, declareFunction_declared hdeclare,
        ProgramRelation.declareGlobal state _ symbols hdeclare, inferInstance⟩
  | error existing =>
      exact ⟨_, _, declareFunction_refused hdeclare, StepRelation.refl state, inferInstance⟩

instance (returns : Ty) : Respects R (functionBody returns) := by
  unfold functionBody
  infer_instance

instance (returns : Ty) (name : Token) (start : Position) :
    Respects R (functionRest returns name start) := by
  unfold functionRest
  infer_instance

instance (returns : Ty) (name : Token) (start : Position) :
    Respects R (function returns name start) := by
  unfold function
  have hbody : Respects R (Parse.bracket
      (fun state => { state with symbols := state.symbols.enterScope })
      (fun state => { state with symbols := state.symbols.exitScope, returnType? := none })
      (functionRest returns name start)) :=
    .bracket fun _ next h =>
      StepRelation.trans (StmtRelation.inScope h)
        (ProgramRelation.setReturnType { next with symbols := next.symbols.exitScope } none)
  infer_instance

instance : Respects R external := by
  unfold external
  infer_instance

instance (budget : Nat) : Respects R (externals budget) := by
  induction budget with
  | zero =>
      unfold externals
      infer_instance
  | succ budget ih =>
      unfold externals
      refine .bind inferInstance fun more => ?_
      split
      · refine .bind inferInstance fun result => ?_
        cases result <;> infer_instance
      · infer_instance

end Programs

/-! ## The journal grows, the cursor moves forward and the return type stays -/

/-- The journal of a later state holds at least as many diagnostics. -/
def ReportsMore (state next : ParseState) : Prop := state.journal.size ≤ next.journal.size

instance : ProgramRelation ReportsMore where
  refl _ := Nat.le_refl _
  trans := Nat.le_trans
  move _ _ _ _ := Nat.le_refl _
  note _ _ := Nat.le_refl _
  report state diagnostic := by
    simp [ReportsMore]
  plant _ _ _ := Nat.le_refl _
  intern _ _ := Nat.le_refl _
  markPrintf _ := Nat.le_refl _
  declare _ _ _ _ := Nat.le_refl _
  inScope h := h
  declareGlobal _ _ _ _ := Nat.le_refl _
  setReturnType _ _ := Nat.le_refl _

/-- The diagnostics of a later state begin with those from before. -/
def KeepsReports (state next : ParseState) : Prop :=
  state.journal.diagnostics.toList <+: next.journal.diagnostics.toList

instance : ProgramRelation KeepsReports where
  refl _ := List.prefix_rfl
  trans := List.IsPrefix.trans
  move _ _ _ _ := List.prefix_rfl
  note _ _ := List.prefix_rfl
  report state diagnostic := by
    simp [KeepsReports, ParseState.reported, Journal.report, Journal.note]
  plant _ _ _ := List.prefix_rfl
  intern _ _ := List.prefix_rfl
  markPrintf _ := List.prefix_rfl
  declare _ _ _ _ := List.prefix_rfl
  inScope h := h
  declareGlobal _ _ _ _ := List.prefix_rfl
  setReturnType _ _ := List.prefix_rfl

/-- The events of a later state begin with those from before. -/
def KeepsEvents (state next : ParseState) : Prop :=
  state.journal.events.toList <+: next.journal.events.toList

instance : ProgramRelation KeepsEvents where
  refl _ := List.prefix_rfl
  trans := List.IsPrefix.trans
  move _ _ _ _ := List.prefix_rfl
  note state event := by
    simp [KeepsEvents, ParseState.noted, Journal.note]
  report state diagnostic := by
    simp [KeepsEvents, ParseState.reported, Journal.report, Journal.note]
  plant _ _ _ := List.prefix_rfl
  intern _ _ := List.prefix_rfl
  markPrintf _ := List.prefix_rfl
  declare _ _ _ _ := List.prefix_rfl
  inScope h := h
  declareGlobal _ _ _ _ := List.prefix_rfl
  setReturnType _ _ := List.prefix_rfl

/-- The tokens ahead of a later state are the last of those ahead before. -/
def ReadsOn (state next : ParseState) : Prop :=
  next.cursor.ahead <:+ state.cursor.ahead

instance : ProgramRelation ReadsOn where
  refl _ := List.suffix_rfl
  trans hfirst hsecond := hsecond.trans hfirst
  move _ _ hahead _ := hahead
  note _ _ := List.suffix_rfl
  report _ _ := List.suffix_rfl
  plant _ _ _ := List.suffix_rfl
  intern _ _ := List.suffix_rfl
  markPrintf _ := List.suffix_rfl
  declare _ _ _ _ := List.suffix_rfl
  inScope h := h
  declareGlobal _ _ _ _ := List.suffix_rfl
  setReturnType _ _ := List.suffix_rfl

/-- The cursor has moved forward in the same stream. -/
def MovesOn (state next : ParseState) : Prop :=
  next.cursor.ahead <:+ state.cursor.ahead ∧ next.cursor.last = state.cursor.last

instance : ProgramRelation MovesOn where
  refl _ := ⟨List.suffix_rfl, rfl⟩
  trans hfirst hsecond := ⟨hsecond.1.trans hfirst.1, hsecond.2.trans hfirst.2⟩
  move _ _ hahead hlast := ⟨hahead, hlast⟩
  note _ _ := ⟨List.suffix_rfl, rfl⟩
  report _ _ := ⟨List.suffix_rfl, rfl⟩
  plant _ _ _ := ⟨List.suffix_rfl, rfl⟩
  intern _ _ := ⟨List.suffix_rfl, rfl⟩
  markPrintf _ := ⟨List.suffix_rfl, rfl⟩
  declare _ _ _ _ := ⟨List.suffix_rfl, rfl⟩
  inScope h := h
  declareGlobal _ _ _ _ := ⟨List.suffix_rfl, rfl⟩
  setReturnType _ _ := ⟨List.suffix_rfl, rfl⟩

/-- Statements are read under one return type. -/
def KeepsReturnType (state next : ParseState) : Prop := next.returnType? = state.returnType?

instance : StmtRelation KeepsReturnType where
  refl _ := rfl
  trans hfirst hsecond := Eq.trans hsecond hfirst
  move _ _ _ _ := rfl
  note _ _ := rfl
  report _ _ := rfl
  plant _ _ _ := rfl
  intern _ _ := rfl
  markPrintf _ := rfl
  declare _ _ _ _ := rfl
  inScope h := h

end SubsetC.Parse
