import SubsetC.Proofs.Respects

/-!
# How parses are put together

Every rule of the grammar is put together from a few elementary parses: some that only look or
move on, the reports and recoveries, and the operations on the symbol table.  What the
elementary parses have in common is shared by all rules, and this is an induction.

A failure that was caught must not be lost on the way.  So it is said along with a parse which
failure it has to deal with, and which one each of its values carries on.
-/

namespace SubsetC

/-- The tokens that a recovery from a failure passes last. -/
def TokenKind.isDelimiter : TokenKind → Bool
  | closeBracket | closeParen | semicolon => true
  | _ => false

/-- Misuses that say how a name was declared. -/
def Misuse.isOfName : Misuse → Bool
  | undeclared _ | redeclaration _ => true
  | _ => false

/-- The events of failures and recoveries.  A misuse by itself is none. -/
def Event.isOfRecovery : Event → Bool
  | reported diagnostic => !diagnostic.isMisuse
  | resynchronizing _ _ => true
  | _ => false

/-- Whether an event says no more than how far a parse has come. -/
def Event.isProgress : Event → Bool
  | reported _ | resynchronizing _ _ => false
  | _ => true

namespace Parse

variable {α β : Type}

/-- The failure that the result of an attempt carries. -/
def caught? : Except Failure α → Option Failure
  | .ok _ => none
  | .error failure => some failure

/-- The parse succeeds and may move on, but it leaves the symbols and the journal alone.  A
failure that was caught before is carried on by its value. -/
def Acts (caught : Option Failure) (carries : α → Option Failure) (parse : Parse α) : Prop :=
  ∀ settings state, ∃ value next, parse settings state = .ok value next ∧
    (∀ failure ∈ caught, carries value = some failure) ∧ next.symbols = state.symbols ∧
    next.journal = state.journal ∧ MovesOn state next

/-- How a parse is put together, given a failure that was caught before it, and the failures
that its values carry. -/
inductive Composes : Option Failure → {α : Type} → (α → Option Failure) → Parse α → Prop
  | act {α : Type} {caught : Option Failure} {carries : α → Option Failure} {parse : Parse α} :
      Acts caught carries parse → Composes caught carries parse
  | note {caught : Option Failure} {carries : Unit → Option Failure} {event : Event} :
      event.isProgress = true → (∀ failure ∈ caught, carries () = some failure) →
      Composes caught carries (note event)
  | throw {α : Type} {caught : Option Failure} {carries : α → Option Failure}
      {failure : Failure} : (∀ earlier ∈ caught, earlier = failure) →
      Composes caught carries (throw failure : Parse α)
  | bind {α β : Type} {caught : Option Failure} {between : α → Option Failure}
      {carries : β → Option Failure} {parse : Parse α} {continued : α → Parse β} :
      Composes caught between parse →
      (∀ value, Composes (between value) carries (continued value)) →
      Composes caught carries (parse >>= continued)
  | attempt {α : Type} {parse : Parse α} : Composes none (fun _ => none) parse →
      Composes none caught? (attempt parse)
  | recoverPast {delimiter : TokenKind} {failure : Failure} : delimiter.isDelimiter = true →
      Composes (some failure) (fun _ => none) (recoverPast delimiter failure)
  | skipPast {target : TokenKind} : target ≠ .eof →
      Composes none (fun _ => none) (skipPast target)
  | reportMisuse {misuse : Misuse} {position : Position} : misuse.isOfName = false →
      Composes none (fun _ => none) (reportMisuse misuse position)
  | resolve {name : String} {position : Position} :
      Composes none (fun _ => none) (resolve name position)
  | declareVariable {name : Token} {ty : Ty} :
      Composes none (fun _ => none) (declareVariable name ty)
  | declareFunction {name : Token} {signature : Signature} :
      Composes none (fun _ => none) (declareFunction name signature)
  | bracket {α : Type} {before after : ParseState → ParseState} {parse : Parse α} :
      (∀ state, (before state).symbols = state.symbols.enterScope ∧
        (before state).journal = state.journal ∧ (before state).cursor = state.cursor) →
      (∀ state, (after state).symbols = state.symbols.exitScope ∧
        (after state).journal = state.journal ∧ (after state).cursor = state.cursor) →
      Composes none (fun _ => none) parse →
      Composes none (fun _ => none) (bracket before after parse)

/-- A parse that deals with every failure itself. -/
class Composed (parse : Parse α) : Prop where
  composes : Composes none (fun _ => none) parse

/-! ## Combinators -/

namespace Composed

variable {parse : Parse α} {continued : α → Parse β}

theorem of_run {value : Settings → ParseState → α} {change : Settings → ParseState → ParseState}
    (hrun : ∀ settings state,
      parse settings state = .ok (value settings state) (change settings state))
    (hsymbols : ∀ settings state, (change settings state).symbols = state.symbols)
    (hjournal : ∀ settings state, (change settings state).journal = state.journal)
    (hmoves : ∀ settings state, MovesOn state (change settings state)) : Composed parse where
  composes := .act fun settings state => ⟨_, _, hrun settings state, by simp,
    hsymbols settings state, hjournal settings state, hmoves settings state⟩

/-- A parse that only looks at the state. -/
theorem of_look {value : Settings → ParseState → α}
    (hrun : ∀ settings state, parse settings state = .ok (value settings state) state) :
    Composed parse :=
  .of_run hrun (fun _ _ => rfl) (fun _ _ => rfl) fun _ _ => ⟨List.suffix_rfl, rfl⟩

theorem bind (hparse : Composed parse) (hcontinued : ∀ value, Composed (continued value)) :
    Composed (parse >>= continued) where
  composes := .bind hparse.composes fun value => (hcontinued value).composes

/-- What follows an attempt is given the failure that was caught. -/
theorem attempt_bind {continued : Except Failure α → Parse β} (hparse : Composed parse)
    (hok : ∀ value, Composed (continued (.ok value)))
    (herror : ∀ failure, Composes (some failure) (fun _ => none) (continued (.error failure))) :
    Composed (attempt parse >>= continued) where
  composes := by
    refine .bind (.attempt hparse.composes) fun result => ?_
    cases result with
    | ok value => exact (hok value).composes
    | error failure => exact herror failure

end Composed

/-- A composed parse comes first, which leaves no failure to what follows. -/
theorem Composes.after {carries : β → Option Failure} {parse : Parse α}
    {continued : α → Parse β} [Composed parse]
    (hcontinued : ∀ value, Composes none carries (continued value)) :
    Composes none carries (parse >>= continued) :=
  .bind Composed.composes hcontinued

theorem Composes.recoverPast_bind {delimiter : TokenKind} {failure : Failure}
    {continued : Unit → Parse β} (hdelimiter : delimiter.isDelimiter = true)
    (hcontinued : Composed (continued ())) :
    Composes (some failure) (fun _ => none) (Parse.recoverPast delimiter failure >>= continued) :=
  .bind (.recoverPast hdelimiter) fun _ => hcontinued.composes

instance (value : α) : Composed (pure value : Parse α) := .of_look fun _ _ => rfl

instance : Composed (get : Parse ParseState) := .of_look fun _ _ => rfl

instance : Composed (read : Parse Settings) := .of_look fun _ _ => rfl

instance (failure : Failure) : Composed (throw failure : Parse α) := ⟨.throw (by simp)⟩

instance (fault : Fault) (position : Position) :
    Composed (failAt fault position : Parse α) := by
  unfold failAt
  infer_instance

instance (parse : Parse α) (continued : α → Parse β) [Composed parse]
    [∀ value, Composed (continued value)] : Composed (parse >>= continued) :=
  .bind inferInstance inferInstance

instance (f : α → β) (parse : Parse α) [Composed parse] : Composed (f <$> parse) := by
  rw [map_eq_pure_bind]
  infer_instance

instance (condition : Prop) [Decidable condition] (accepted rejected : Parse α)
    [Composed accepted] [Composed rejected] :
    Composed (if condition then accepted else rejected) := by
  split <;> infer_instance

instance (parse : Parse (Option α)) (failure : Failure) [Composed parse] :
    Composed (orFail parse failure) := by
  unfold orFail
  refine .bind inferInstance fun value? => ?_
  cases value? <;> infer_instance

instance (parse : Parse α) [hparse : Composed parse] : Composed (inScope parse) :=
  ⟨.bracket (fun _ => ⟨rfl, rfl, rfl⟩) (fun _ => ⟨rfl, rfl, rfl⟩) hparse.composes⟩

/-! ## Elementary parses -/

instance : Composed current := .of_look fun _ _ => rfl

instance : Composed kind := .of_look fun _ _ => rfl

instance : Composed position := .of_look fun _ _ => rfl

instance : Composed remaining := .of_look fun _ _ => rfl

instance : Composed hasTokens := .of_look fun _ _ => rfl

instance (span : Span) : Composed (placeholder span) := .of_look fun _ _ => rfl

instance : Composed advance :=
  .of_run (fun _ _ => rfl) (fun _ _ => rfl) (fun _ _ => rfl) fun _ _ =>
    ⟨List.tail_suffix _, rfl⟩

instance (text : String) : Composed (intern text) :=
  .of_run (fun _ _ => rfl) (fun _ _ => rfl) (fun _ _ => rfl) fun _ _ => ⟨List.suffix_rfl, rfl⟩

instance : Composed markPrintf :=
  .of_run (fun _ _ => rfl) (fun _ _ => rfl) (fun _ _ => rfl) fun _ _ => ⟨List.suffix_rfl, rfl⟩

instance (ty? : Option Ty) : Composed (setReturnType ty?) :=
  .of_run (fun _ _ => rfl) (fun _ _ => rfl) (fun _ _ => rfl) fun _ _ => ⟨List.suffix_rfl, rfl⟩

instance : Composed takeStrings :=
  .of_run (fun _ _ => rfl) (fun _ _ => rfl) (fun _ _ => rfl) fun _ _ => ⟨List.suffix_rfl, rfl⟩

instance (name : String) (position : Position) : Composed (resolve name position) := ⟨.resolve⟩

instance (name : Token) (ty : Ty) : Composed (declareVariable name ty) := ⟨.declareVariable⟩

instance (name : Token) (signature : Signature) : Composed (declareFunction name signature) :=
  ⟨.declareFunction⟩

instance (expected : TokenKind) : Composed (accept expected) := by
  unfold accept
  infer_instance

instance (expected : TokenKind) (failure : Failure) : Composed (expectOr expected failure) := by
  unfold expectOr
  infer_instance

instance (expected : TokenKind) : Composed (expect expected) := by
  unfold expect
  infer_instance

theorem composed_note {event : Event} (hprogress : event.isProgress = true) :
    Composed (note event) :=
  ⟨.note hprogress (by simp)⟩

theorem composed_skipPast {target : TokenKind} (htarget : target ≠ .eof) :
    Composed (skipPast target) :=
  ⟨.skipPast htarget⟩

theorem composed_reportMisuse {misuse : Misuse} (hname : misuse.isOfName = false)
    (position : Position) : Composed (reportMisuse misuse position) :=
  ⟨.reportMisuse hname⟩

theorem composed_reportUnless (condition : Bool) {misuse : Misuse}
    (hname : misuse.isOfName = false) (position : Position) :
    Composed (reportUnless condition misuse position) := by
  have hreport := composed_reportMisuse hname position
  unfold reportUnless
  infer_instance

/-! ## Factors -/

section Expressions

variable (whole : Parse (Option Expr)) [Composed whole]

instance (symbol : Symbol) : Composed (acceptsSubscript symbol) := by
  unfold acceptsSubscript
  infer_instance

instance (array : Symbol) (span : Span) : Composed (subscript whole array span) := by
  unfold subscript
  refine .bind inferInstance fun _ => .bind inferInstance fun start =>
    .bind inferInstance fun index => .bind inferInstance fun close => ?_
  exact (composed_reportUnless _ rfl start).bind inferInstance

instance (symbol : Symbol) (span : Span) : Composed (rejectSubscript symbol span) := by
  unfold rejectSubscript
  exact (composed_reportMisuse rfl _).bind fun _ => composed_skipPast (by decide)

instance (array : Symbol) (span : Span) : Composed (element whole array span) := by
  unfold element
  refine .bind inferInstance fun accepted => ?_
  split
  · refine .attempt_bind inferInstance (fun target => inferInstance) fun failure => ?_
    exact .recoverPast_bind rfl inferInstance
  · infer_instance

instance (check : CallCheck) (callee : Symbol) (index : Nat) (argument : Expr) :
    Composed (checkArgument check callee index argument) := by
  unfold checkArgument
  split
  · infer_instance
  · exact (composed_reportUnless _ rfl _).bind inferInstance
  · split
    · exact (composed_reportUnless _ rfl _).bind inferInstance
    · split
      · infer_instance
      · exact (composed_reportUnless _ rfl _).bind inferInstance

instance (check : CallCheck) (callee : Symbol) (count : Nat) (opening stop : Position) :
    Composed (checkCount check callee count opening stop) := by
  unfold checkCount
  split
  · infer_instance
  · exact composed_reportUnless _ rfl _
  · exact composed_reportUnless _ rfl _

instance (callee : Symbol) : Composed (noteCallee callee) := by
  unfold noteCallee
  infer_instance

/-- The arguments carry the failure that ended them. -/
def closingFailure? (result : List Expr × Except Failure Token) : Option Failure :=
  caught? result.2

theorem composes_closing (values : List Expr) (closing : Except Failure Token) :
    Composes (caught? closing) closingFailure? (pure (values, closing) : Parse _) := by
  refine .act fun settings state => ⟨_, _, rfl, ?_, rfl, rfl, List.suffix_rfl, rfl⟩
  exact fun failure hfailure => hfailure

theorem composes_expectClosing (values : List Expr) :
    Composes none closingFailure? (do
      let closing ← attempt (expect .closeParen)
      return (values, closing)) :=
  .bind (.attempt Composed.composes) fun closing => composes_closing values closing

theorem argumentsFrom_composes (check : CallCheck) (callee : Symbol) (budget index : Nat) :
    Composes none closingFailure? (argumentsFrom whole check callee budget index) := by
  induction budget generalizing index with
  | zero =>
      unfold argumentsFrom
      refine .after fun found => ?_
      exact .act fun settings state => ⟨_, _, rfl, by simp, rfl, rfl, List.suffix_rfl, rfl⟩
  | succ budget ih =>
      unfold argumentsFrom
      refine .after fun start => .bind (.attempt Composed.composes) fun result => ?_
      cases result with
      | error failure => exact composes_closing [] (.error failure)
      | ok argument =>
          refine .after fun kept => .after fun more => ?_
          split
          · refine .bind (ih (index + 1)) ?_
            rintro ⟨others, closing⟩
            exact composes_closing _ closing
          · exact composes_expectClosing [kept]

theorem arguments_composes (check : CallCheck) (callee : Symbol) :
    Composes none closingFailure? (arguments whole check callee) := by
  unfold arguments
  refine .after fun found => ?_
  split
  · exact composes_expectClosing []
  · exact .after fun count => argumentsFrom_composes whole check callee _ _

instance (callee : Symbol) (span : Span) : Composed (checkedCall whole callee span) := by
  unfold checkedCall
  refine .bind inferInstance fun settings => .bind inferInstance fun _ =>
    .bind inferInstance fun opening => ⟨?_⟩
  refine .bind (arguments_composes whole _ callee) ?_
  rintro ⟨values, closing⟩
  cases closing with
  | ok close => exact Composed.composes
  | error failure => exact .recoverPast_bind rfl inferInstance

instance (callee : Symbol) (span : Span) : Composed (call whole callee span) := by
  have hopen : Composed (skipPast .openParen) := composed_skipPast (by decide)
  have hclose : Composed (skipPast .closeParen) := composed_skipPast (by decide)
  have hreport : Composed (reportMisuse (.notAFunction callee.name) span.start) :=
    composed_reportMisuse rfl _
  unfold call
  infer_instance

instance (symbol : Symbol) (span : Span) : Composed (afterName whole symbol span) := by
  unfold afterName
  refine .bind inferInstance fun found => ?_
  split <;> infer_instance

instance : Composed (named whole) := by
  unfold named
  infer_instance

instance : Composed stringLiteral := by
  unfold stringLiteral
  infer_instance

instance : Composed constant := by
  unfold constant
  refine .bind inferInstance fun token => ?_
  split <;> infer_instance

instance : Composed (parenthesized whole) := by
  unfold parenthesized
  infer_instance

instance (operator : Step) : Composed (stepped operator) := by
  unfold stepped
  refine .bind inferInstance fun token => .bind inferInstance fun start =>
    .bind inferInstance fun name => .bind inferInstance fun symbol =>
      .bind inferInstance fun settings => ?_
  exact (composed_reportUnless _ rfl _).bind inferInstance

instance : Composed (addressed whole) := by
  unfold addressed
  refine .bind inferInstance fun token => .bind inferInstance fun start =>
    .bind inferInstance fun name => .bind inferInstance fun symbol =>
      .bind inferInstance fun found => ?_
  split
  · refine .bind inferInstance fun accepted => (composed_reportUnless _ rfl _).bind fun _ =>
      .bind inferInstance fun target => ?_
    exact (composed_note rfl).bind inferInstance
  · infer_instance

instance : Composed (freshFactor whole) := by
  unfold freshFactor
  refine .bind inferInstance fun found => ?_
  split <;> infer_instance

instance (handoff? : Option Handoff) : Composed (factor whole handoff?) := by
  unfold factor
  split <;> infer_instance

/-! ## Expressions -/

instance : Composed (negated whole) := by
  unfold negated
  refine .bind inferInstance fun token => .bind inferInstance fun start =>
    .bind inferInstance fun operand => .bind inferInstance fun settings => ?_
  exact (composed_reportUnless _ rfl _).bind inferInstance

instance (handoff? : Option Handoff) : Composed (value whole handoff?) := by
  unfold value
  split <;> infer_instance

instance (operator : BinaryOp) (lhs rhs : Expr) (position : Position) :
    Composed (joined operator lhs rhs position) := by
  unfold joined
  refine .bind inferInstance fun settings => (composed_reportUnless _ rfl _).bind fun _ => ?_
  exact (composed_note rfl).bind inferInstance

instance (level : Precedence) (operand : Parse (Option Expr)) [Composed operand]
    (budget : Nat) (lhs : Expr) : Composed (operatorsAfter level operand budget lhs) := by
  induction budget generalizing lhs with
  | zero =>
      unfold operatorsAfter
      infer_instance
  | succ budget ih =>
      unfold operatorsAfter
      refine .bind inferInstance fun found => ?_
      split <;> infer_instance

instance (level : Precedence) (operand : Rule) [∀ handoff?, Composed (operand handoff?)]
    (handoff? : Option Handoff) : Composed (chain level operand handoff?) := by
  unfold chain
  refine .bind inferInstance fun lhs? => ?_
  cases lhs? <;> infer_instance

instance (handoff? : Option Handoff) : Composed (orExpr whole handoff?) := by
  unfold orExpr andTerm relExpr numExpr term
  infer_instance

end Expressions

instance (budget : Nat) (handoff? : Option Handoff) :
    Composed (exprWithin budget handoff?) := by
  induction budget generalizing handoff? with
  | zero =>
      unfold exprWithin
      infer_instance
  | succ budget ih =>
      unfold exprWithin
      infer_instance

instance (handoff? : Option Handoff) : Composed (exprAfter handoff?) := by
  unfold exprAfter withExpr
  infer_instance

instance : Composed expr := by
  unfold expr
  infer_instance

instance (malformation : Malformation) : Composed (requireExpr malformation) := by
  unfold requireExpr
  infer_instance

/-! ## Declarations -/

instance (expected : TokenKind) (expectation : Expectation) :
    Composed (expectFor expected expectation) := by
  unfold expectFor
  infer_instance

instance : Composed typeSpecifier := by
  unfold typeSpecifier
  refine .bind inferInstance fun token => ?_
  split <;> infer_instance

instance (element : Ty) (position : Position) : Composed (arrayType element position) := by
  unfold arrayType
  split <;> infer_instance

theorem coerce_composed (target : Ty) (value : Expr) {misuse : Ty → Ty → Misuse}
    (hname : ∀ target value, (misuse target value).isOfName = false) (position : Position) :
    Composed (coerce target value misuse position) := by
  unfold coerce
  split
  · infer_instance
  · split
    · infer_instance
    · infer_instance
    · exact (composed_reportMisuse (hname _ _) _).bind inferInstance

instance (base : Ty) (name : Token) : Composed (declaredType base name) := by
  unfold declaredType
  refine .bind inferInstance fun bracketed => ?_
  split
  · refine .bind inferInstance fun ty => .bind inferInstance fun found => ?_
    split
    · refine .bind inferInstance fun token => ?_
      split <;> infer_instance
    · infer_instance
  · infer_instance

instance (ty : Ty) : Composed (initialValue ty) := by
  have hcoerce (value : Expr) (position : Position) :
      Composed (coerce ty value .assignmentType position) :=
    coerce_composed ty value (fun _ _ => rfl) position
  unfold initialValue
  infer_instance

instance (base : Ty) (name : Token) (start : Position) :
    Composed (declarator base name start) := by
  unfold declarator
  infer_instance

instance : Composed declaration := by
  unfold declaration
  infer_instance

instance (base : Ty) : Composed (parameter base) := by
  unfold parameter
  infer_instance

instance (isFirst : Bool) (budget : Nat) : Composed (parametersFrom isFirst budget) := by
  induction budget generalizing isFirst with
  | zero =>
      unfold parametersFrom
      infer_instance
  | succ budget ih =>
      unfold parametersFrom
      refine .bind inferInstance fun base => .bind inferInstance fun found => ?_
      infer_instance

instance : Composed parameters := by
  unfold parameters
  infer_instance

/-! ## Statements -/

instance : Composed condition := by
  unfold condition
  refine .bind inferInstance fun _ => .bind inferInstance fun test =>
    .bind inferInstance fun _ => ?_
  exact (composed_reportUnless _ rfl _).bind inferInstance

instance : Composed returned := by
  have hcoerce (target : Ty) (value : Expr) (position : Position) :
      Composed (coerce target value .returnType position) :=
    coerce_composed target value (fun _ _ => rfl) position
  unfold returned
  refine .bind inferInstance fun word => .bind inferInstance fun state =>
    .bind inferInstance fun value? => ?_
  cases value? with
  | none => exact (composed_reportUnless _ rfl _).bind inferInstance
  | some value => infer_instance

instance (name : Token) : Composed (beginning name) := by
  unfold beginning withExpr
  refine .bind inferInstance fun symbol => .bind inferInstance fun found => ?_
  split
  · refine .bind inferInstance fun accepted => ?_
    split
    · refine .attempt_bind inferInstance (fun target => inferInstance) fun failure => ?_
      exact .recoverPast_bind rfl inferInstance
    · infer_instance
  · infer_instance

instance (target : Handoff) (value : Expr) (position : Position) (span : Span) :
    Composed (assignment target value position span) := by
  have hcoerce (ty : Ty) : Composed (coerce ty value .assignmentType position) :=
    coerce_composed ty value (fun _ _ => rfl) position
  unfold assignment
  cases target <;> infer_instance

instance : Composed namedStmt := by
  unfold namedStmt
  infer_instance

instance : Composed evaluated := by
  unfold evaluated
  infer_instance

theorem recoverStmt_composes (failure : Failure) :
    Composes (some failure) (fun _ => none) (recoverStmt failure) := by
  unfold recoverStmt
  exact .recoverPast_bind rfl inferInstance

section Nested

variable (stmt : Parse Stmt) [Composed stmt]

instance (budget : Nat) : Composed (stmtsUntilClose stmt budget) := by
  induction budget with
  | zero =>
      unfold stmtsUntilClose
      infer_instance
  | succ budget ih =>
      unfold stmtsUntilClose
      refine .bind inferInstance fun found => ?_
      split
      · infer_instance
      · infer_instance
      · refine .attempt_bind inferInstance (fun first => inferInstance) fun failure => ?_
        exact .bind (recoverStmt_composes failure) fun first => Composed.composes

instance : Composed (block stmt) := by
  unfold block
  infer_instance

instance : Composed (conditional stmt) := by
  unfold conditional
  infer_instance

instance : Composed (whileLoop stmt) := by
  unfold whileLoop
  infer_instance

instance : Composed (stmtWith stmt) := by
  unfold stmtWith
  refine .bind inferInstance fun found => ?_
  split <;> infer_instance

end Nested

instance (budget : Nat) : Composed (stmtWithin budget) := by
  induction budget with
  | zero =>
      unfold stmtWithin
      infer_instance
  | succ budget ih =>
      unfold stmtWithin
      infer_instance

/-! ## Programs -/

instance (returns : Ty) : Composed (functionBody returns) := by
  unfold functionBody
  infer_instance

instance (returns : Ty) (name : Token) (start : Position) :
    Composed (functionRest returns name start) := by
  unfold functionRest
  refine .bind inferInstance fun params => .bind inferInstance fun _ =>
    .bind inferInstance fun symbol => ?_
  exact (composed_note rfl).bind inferInstance

instance (returns : Ty) (name : Token) (start : Position) :
    Composed (function returns name start) := by
  unfold function
  refine .bind inferInstance fun opening => ⟨?_⟩
  exact .bracket (fun _ => ⟨rfl, rfl, rfl⟩) (fun _ => ⟨rfl, rfl, rfl⟩) Composed.composes

instance : Composed external := by
  unfold external
  infer_instance

instance (budget : Nat) : Composed (externals budget) := by
  induction budget with
  | zero =>
      unfold externals
      infer_instance
  | succ budget ih =>
      unfold externals
      refine .bind inferInstance fun more => ?_
      split
      · refine .attempt_bind inferInstance (fun first => inferInstance) fun failure => ?_
        exact .recoverPast_bind rfl inferInstance
      · infer_instance

instance : Composed program := by
  unfold program
  infer_instance

/-- A failure of the program passes its last note. -/
instance : Composed journaled := by
  unfold journaled
  refine .bind inferInstance fun settings => .bind inferInstance fun count =>
    (composed_note rfl).bind fun _ => ⟨?_⟩
  refine .bind (.attempt Composed.composes) fun result => ?_
  cases result with
  | ok found =>
      have hfound : Composed (ofAttempt (.ok found)) := inferInstanceAs (Composed (pure found))
      have hfinished (size : Nat) : Composed (note (.finished settings.file size)) :=
        composed_note rfl
      exact Composed.composes
  | error failure =>
      have hget : Composes (some failure) (fun _ => some failure) (get : Parse ParseState) :=
        .act fun settings state =>
          ⟨_, _, rfl, fun _ hfailure => hfailure, rfl, rfl, List.suffix_rfl, rfl⟩
      have hfinished (size : Nat) :
          Composes (some failure) (fun _ => some failure) (note (.finished settings.file size)) :=
        .note rfl fun _ hfailure => hfailure
      exact .bind hget fun state => .bind (hfinished _) fun _ => .throw (by simp)

end Parse

end SubsetC
