import SubsetC.Proofs.Run

/-!
# The journal is only written

No rule looks into the journal.  From a state with earlier reports a statement is read as
from the state without them: it has the same outcome, and the earlier reports stand
before its own.
-/

namespace SubsetC

/-- A journal with another one continued behind it. -/
def Journal.append (earlier later : Journal) : Journal where
  diagnostics := earlier.diagnostics ++ later.diagnostics
  events := earlier.events ++ later.events

namespace Journal

@[simp] theorem append_note (earlier later : Journal) (event : Event) :
    earlier.append (later.note event) = (earlier.append later).note event := by
  simp [append, note]

@[simp] theorem append_report (earlier later : Journal) (diagnostic : Diagnostic) :
    earlier.append (later.report diagnostic) = (earlier.append later).report diagnostic := by
  simp [append, report, note]

@[simp] theorem append_empty (journal : Journal) : journal.append {} = journal := by
  simp [append]

end Journal

namespace ParseState

/-- The state with earlier reports before its own. -/
def behind (state : ParseState) (earlier : Journal) : ParseState :=
  { state with journal := earlier.append state.journal }

/-- The state with nothing reported. -/
def bare (state : ParseState) : ParseState := { state with journal := {} }

@[simp] theorem bare_behind (state : ParseState) : state.bare.behind state.journal = state := by
  simp [bare, behind]

@[simp] theorem behind_cursor (state : ParseState) (earlier : Journal) :
    (state.behind earlier).cursor = state.cursor := rfl

@[simp] theorem behind_symbols (state : ParseState) (earlier : Journal) :
    (state.behind earlier).symbols = state.symbols := rfl

@[simp] theorem behind_noted (state : ParseState) (earlier : Journal) (event : Event) :
    (state.behind earlier).noted event = (state.noted event).behind earlier := by
  simp [behind, noted]

@[simp] theorem behind_reported (state : ParseState) (earlier : Journal)
    (diagnostic : Diagnostic) :
    (state.behind earlier).reported diagnostic = (state.reported diagnostic).behind earlier := by
  simp [behind, reported]

end ParseState

namespace Parse

variable {α β : Type}

class Oblivious (parse : Parse α) : Prop where
  run : ∀ settings (state : ParseState) earlier,
    parse.run settings (state.behind earlier) =
      ((parse.run settings state).1, (parse.run settings state).2.behind earlier)

/-! ## Combinators -/

theorem Oblivious.bind {parse : Parse α} {continued : α → Parse β} (hparse : Oblivious parse)
    (hcontinued : ∀ value, Oblivious (continued value)) : Oblivious (parse >>= continued) where
  run settings state earlier := by
    rw [run_bind, run_bind, hparse.run]
    cases parse.run settings state with
    | mk result middle =>
        cases result with
        | ok value => exact (hcontinued value).run settings middle earlier
        | error failure => rfl

/-- What follows the state must not depend on its journal. -/
theorem Oblivious.get_bind {continued : ParseState → Parse β}
    (hjournal : ∀ (state : ParseState) earlier,
      continued (state.behind earlier) = continued state)
    (hcontinued : ∀ state, Oblivious (continued state)) : Oblivious (get >>= continued) where
  run settings state earlier := by
    rw [run_congr (bind_of_ok get_run), run_congr (bind_of_ok get_run), hjournal]
    exact (hcontinued state).run settings state earlier

theorem Oblivious.bracket {before after : ParseState → ParseState} {parse : Parse α}
    [hparse : Oblivious parse]
    (hbefore : ∀ state earlier, before (state.behind earlier) = (before state).behind earlier)
    (hafter : ∀ state earlier, after (state.behind earlier) = (after state).behind earlier) :
    Oblivious (bracket before after parse) where
  run settings state earlier := by
    rw [run_bracket, run_bracket, hbefore, hparse.run, hafter]

instance (value : α) : Oblivious (pure value : Parse α) := ⟨fun _ _ _ => rfl⟩

instance : Oblivious (read : Parse Settings) := ⟨fun _ _ _ => rfl⟩

instance (failure : Failure) : Oblivious (throw failure : Parse α) := ⟨fun _ _ _ => rfl⟩

instance (fault : Fault) (position : Position) :
    Oblivious (failAt fault position : Parse α) := ⟨fun _ _ _ => rfl⟩

instance (parse : Parse α) (continued : α → Parse β) [Oblivious parse]
    [∀ value, Oblivious (continued value)] : Oblivious (parse >>= continued) :=
  .bind inferInstance inferInstance

instance (f : α → β) (parse : Parse α) [Oblivious parse] : Oblivious (f <$> parse) := by
  rw [map_eq_pure_bind]
  infer_instance

instance (condition : Prop) [Decidable condition] (accepted rejected : Parse α)
    [Oblivious accepted] [Oblivious rejected] :
    Oblivious (if condition then accepted else rejected) := by
  split <;> infer_instance

instance (parse : Parse α) [hparse : Oblivious parse] : Oblivious (attempt parse) where
  run settings state earlier := by
    rw [run_attempt, run_attempt, hparse.run]

/-! ## Elementary parses -/

instance : Oblivious current := ⟨fun _ _ _ => rfl⟩

instance : Oblivious kind := ⟨fun _ _ _ => rfl⟩

instance : Oblivious position := ⟨fun _ _ _ => rfl⟩

instance : Oblivious remaining := ⟨fun _ _ _ => rfl⟩

instance : Oblivious advance := ⟨fun _ _ _ => rfl⟩

instance (target : TokenKind) : Oblivious (skipTo target) := ⟨fun _ _ _ => rfl⟩

instance : Oblivious markPrintf := ⟨fun _ _ _ => rfl⟩

instance (text : String) : Oblivious (intern text) := ⟨fun _ _ _ => rfl⟩

instance (span : Span) : Oblivious (placeholder span) := ⟨fun _ _ _ => rfl⟩

instance (event : Event) : Oblivious (note event) where
  run settings state earlier := by
    rw [run_of_ok (note_run event), run_of_ok (note_run event), ParseState.behind_noted]

instance (diagnostic : Diagnostic) : Oblivious (record diagnostic) where
  run settings state earlier := by
    rw [run_of_ok (record_run diagnostic), run_of_ok (record_run diagnostic),
      ParseState.behind_reported]

instance (expected : TokenKind) : Oblivious (accept expected) := by
  unfold accept
  infer_instance

instance (expected : TokenKind) (failure : Failure) : Oblivious (expectOr expected failure) := by
  unfold expectOr
  infer_instance

instance (expected : TokenKind) : Oblivious (expect expected) := by
  unfold expect
  infer_instance

instance (target : TokenKind) : Oblivious (resynchronize target) := by
  unfold resynchronize
  infer_instance

instance (target : TokenKind) : Oblivious (skipPast target) := by
  unfold skipPast
  infer_instance

instance (misuse : Misuse) (position : Position) : Oblivious (reportMisuse misuse position) := by
  unfold reportMisuse
  infer_instance

instance (condition : Bool) (misuse : Misuse) (position : Position) :
    Oblivious (reportUnless condition misuse position) := by
  unfold reportUnless
  infer_instance

instance (delimiter : TokenKind) (failure : Failure) :
    Oblivious (recoverPast delimiter failure) := by
  unfold recoverPast reportFailure
  infer_instance

instance (name : String) (position : Position) : Oblivious (resolve name position) where
  run settings state earlier := by
    cases hlookup : state.symbols.lookup? name with
    | some symbol =>
        rw [run_of_ok (resolve_found hlookup), run_of_ok (resolve_found (by exact hlookup))]
    | none =>
        have hreport : Oblivious
            (do reportMisuse (.undeclared name) position; return Symbol.dummy name) :=
          inferInstance
        rw [run_congr (resolve_planted hlookup), run_congr (resolve_planted (by exact hlookup))]
        exact hreport.run settings { state with symbols := state.symbols.bind (.dummy name) }
          earlier

instance (parse : Parse (Option α)) (failure : Failure) [Oblivious parse] :
    Oblivious (orFail parse failure) := by
  unfold orFail
  refine .bind inferInstance fun value? => ?_
  cases value? <;> infer_instance

/-! ## Expressions -/

section Expressions

variable (expr : Parse (Option Expr)) [Oblivious expr]

instance (symbol : Symbol) : Oblivious (acceptsSubscript symbol) := by
  unfold acceptsSubscript
  infer_instance

instance (array : Symbol) (span : Span) : Oblivious (subscript expr array span) := by
  unfold subscript
  infer_instance

instance (symbol : Symbol) (span : Span) : Oblivious (rejectSubscript symbol span) := by
  unfold rejectSubscript
  infer_instance

instance (array : Symbol) (span : Span) : Oblivious (element expr array span) := by
  unfold element
  refine .bind inferInstance fun accepted => ?_
  split
  · refine .bind inferInstance fun result => ?_
    cases result <;> infer_instance
  · infer_instance

instance (check : CallCheck) (callee : Symbol) (index : Nat) (argument : Expr) :
    Oblivious (checkArgument check callee index argument) := by
  unfold checkArgument
  split
  · infer_instance
  · infer_instance
  · split <;> infer_instance

instance (check : CallCheck) (callee : Symbol) (count : Nat) (opening stop : Position) :
    Oblivious (checkCount check callee count opening stop) := by
  unfold checkCount
  split <;> infer_instance

instance (check : CallCheck) (callee : Symbol) (budget index : Nat) :
    Oblivious (argumentsFrom expr check callee budget index) := by
  induction budget generalizing index with
  | zero =>
      unfold argumentsFrom
      infer_instance
  | succ budget ih =>
      unfold argumentsFrom
      refine .bind inferInstance fun start => .bind inferInstance fun result => ?_
      cases result <;> infer_instance

instance (check : CallCheck) (callee : Symbol) :
    Oblivious (arguments expr check callee) := by
  unfold arguments
  infer_instance

instance (callee : Symbol) : Oblivious (noteCallee callee) := by
  unfold noteCallee
  infer_instance

instance (callee : Symbol) (span : Span) : Oblivious (checkedCall expr callee span) := by
  unfold checkedCall
  refine .bind inferInstance fun settings => .bind inferInstance fun _ =>
    .bind inferInstance fun opening => .bind inferInstance fun (arguments, closing) => ?_
  cases closing <;> infer_instance

instance (callee : Symbol) (span : Span) : Oblivious (call expr callee span) := by
  unfold call
  infer_instance

instance (symbol : Symbol) (span : Span) : Oblivious (afterName expr symbol span) := by
  unfold afterName
  refine .bind inferInstance fun kind => ?_
  split <;> infer_instance

instance : Oblivious (named expr) := by
  unfold named
  infer_instance

instance : Oblivious stringLiteral := by
  unfold stringLiteral
  infer_instance

instance : Oblivious constant := by
  unfold constant
  refine .bind inferInstance fun token => ?_
  split <;> infer_instance

instance : Oblivious (parenthesized expr) := by
  unfold parenthesized
  infer_instance

instance (operator : Step) : Oblivious (stepped operator) := by
  unfold stepped
  infer_instance

instance : Oblivious (addressed expr) := by
  unfold addressed
  refine .bind inferInstance fun token => .bind inferInstance fun start =>
    .bind inferInstance fun name => .bind inferInstance fun symbol => ?_
  infer_instance

instance : Oblivious (freshFactor expr) := by
  unfold freshFactor
  refine .bind inferInstance fun kind => ?_
  split <;> infer_instance

instance (handoff? : Option Handoff) : Oblivious (factor expr handoff?) := by
  unfold factor
  split <;> infer_instance

instance (handoff? : Option Handoff) : Oblivious (value expr handoff?) := by
  unfold value negated
  split <;> infer_instance

instance (operator : BinaryOp) (lhs rhs : Expr) (position : Position) :
    Oblivious (joined operator lhs rhs position) := by
  unfold joined
  infer_instance

instance (level : Precedence) (operand : Parse (Option Expr)) [Oblivious operand]
    (budget : Nat) (lhs : Expr) : Oblivious (operatorsAfter level operand budget lhs) := by
  induction budget generalizing lhs with
  | zero =>
      unfold operatorsAfter
      infer_instance
  | succ budget ih =>
      unfold operatorsAfter
      refine .bind inferInstance fun kind => ?_
      split <;> infer_instance

instance (level : Precedence) (operand : Rule) [∀ handoff?, Oblivious (operand handoff?)]
    (handoff? : Option Handoff) : Oblivious (chain level operand handoff?) := by
  unfold chain
  refine .bind inferInstance fun lhs? => ?_
  cases lhs? <;> infer_instance

instance (handoff? : Option Handoff) : Oblivious (orExpr expr handoff?) := by
  unfold orExpr andTerm relExpr numExpr term
  infer_instance

instance (budget : Nat) (handoff? : Option Handoff) :
    Oblivious (exprWithin budget handoff?) := by
  induction budget generalizing handoff? with
  | zero =>
      unfold exprWithin
      infer_instance
  | succ budget ih =>
      unfold exprWithin
      infer_instance

instance (handoff? : Option Handoff) : Oblivious (exprAfter handoff?) := by
  unfold exprAfter withExpr
  infer_instance

instance : Oblivious Parse.expr := by
  unfold Parse.expr
  infer_instance

instance (malformation : Malformation) : Oblivious (requireExpr malformation) := by
  unfold requireExpr
  infer_instance

end Expressions

/-! ## Statements -/

instance (expected : TokenKind) (expectation : Expectation) :
    Oblivious (expectFor expected expectation) := by
  unfold expectFor
  infer_instance

instance : Oblivious typeSpecifier := by
  unfold typeSpecifier
  refine .bind inferInstance fun token => ?_
  split <;> infer_instance

instance (element : Ty) (position : Position) : Oblivious (arrayType element position) := by
  unfold arrayType
  split <;> infer_instance

instance (target : Ty) (value : Expr) (misuse : Ty → Ty → Misuse) (position : Position) :
    Oblivious (coerce target value misuse position) := by
  unfold coerce
  split
  · infer_instance
  · split <;> infer_instance

instance (name : Token) (ty : Ty) : Oblivious (declareVariable name ty) where
  run settings state earlier := by
    cases hdeclare : state.symbols.declare (.variable name.text ty) with
    | ok symbols =>
        rw [run_of_ok (declareVariable_declared hdeclare),
          run_of_ok (declareVariable_declared (by exact hdeclare))]
        rfl
    | error existing =>
        have hreport : Oblivious (do
            reportMisuse (.redeclaration name.text) name.span.start
            return Symbol.variable name.text ty) :=
          inferInstance
        rw [run_congr (declareVariable_refused hdeclare),
          run_congr (declareVariable_refused (by exact hdeclare))]
        exact hreport.run settings state earlier

instance (base : Ty) (name : Token) : Oblivious (declaredType base name) := by
  unfold declaredType
  refine .bind inferInstance fun bracketed => ?_
  split
  · refine .bind inferInstance fun ty => .bind inferInstance fun kind => ?_
    split
    · refine .bind inferInstance fun token => ?_
      split <;> infer_instance
    · infer_instance
  · infer_instance

instance (ty : Ty) : Oblivious (initialValue ty) := by
  unfold initialValue
  infer_instance

instance : Oblivious declaration := by
  unfold declaration declarator
  infer_instance

instance : Oblivious condition := by
  unfold condition
  infer_instance

instance : Oblivious returned := by
  unfold returned
  refine .bind inferInstance fun word => .get_bind (fun _ _ => rfl) fun state =>
    .bind inferInstance fun value? => ?_
  cases value? <;> infer_instance

instance (name : Token) : Oblivious (beginning name) := by
  have hreplaced : Oblivious
      (do return .ident (← get).symbols.placeholder name.span : Parse Handoff) :=
    ⟨fun _ _ _ => rfl⟩
  unfold beginning withExpr
  refine .bind inferInstance fun symbol => .bind inferInstance fun kind => ?_
  split
  · refine .bind inferInstance fun accepted => ?_
    split
    · refine .bind inferInstance fun result => ?_
      cases result <;> infer_instance
    · infer_instance
  · infer_instance

instance (target : Handoff) (value : Expr) (position : Position) (span : Span) :
    Oblivious (assignment target value position span) := by
  unfold assignment
  cases target <;> infer_instance

instance : Oblivious namedStmt := by
  unfold namedStmt
  infer_instance

instance : Oblivious evaluated := by
  unfold evaluated
  infer_instance

instance (failure : Failure) : Oblivious (recoverStmt failure) := by
  unfold recoverStmt
  infer_instance

section Nested

variable (stmt : Parse Stmt) [Oblivious stmt]

instance (budget : Nat) : Oblivious (stmtsUntilClose stmt budget) := by
  induction budget with
  | zero =>
      unfold stmtsUntilClose
      infer_instance
  | succ budget ih =>
      unfold stmtsUntilClose
      refine .bind inferInstance fun kind => ?_
      split
      · infer_instance
      · infer_instance
      · refine .bind inferInstance fun result => ?_
        cases result <;> infer_instance

instance : Oblivious (block stmt) := by
  unfold block
  infer_instance

instance : Oblivious (inScope (block stmt)) :=
  .bracket (fun _ _ => rfl) fun _ _ => rfl

instance : Oblivious (conditional stmt) := by
  unfold conditional
  infer_instance

instance : Oblivious (whileLoop stmt) := by
  unfold whileLoop
  infer_instance

instance : Oblivious (stmtWith stmt) := by
  unfold stmtWith
  refine .bind inferInstance fun kind => ?_
  split <;> infer_instance

end Nested

instance (budget : Nat) : Oblivious (stmtWithin budget) := by
  induction budget with
  | zero =>
      unfold stmtWithin
      infer_instance
  | succ budget ih =>
      unfold stmtWithin
      infer_instance

instance : Oblivious stmt := by
  unfold stmt
  infer_instance

/-! ## Runs -/

/-- A run with reports before it is the run without them, behind those reports. -/
theorem run_eq_bare (parse : Parse α) [hparse : Oblivious parse] (settings : Settings)
    (state : ParseState) :
    parse.run settings state =
      ((parse.run settings state.bare).1,
        (parse.run settings state.bare).2.behind state.journal) := by
  rw [← hparse.run, ParseState.bare_behind]

/-- Whatever was reported before, the parse gives the value, leaves the state and adds the
reports. -/
def Emits (settings : Settings) (parse : Parse α) (state : ParseState) (value : α)
    (next : ParseState) (reports : List Diagnostic) : Prop :=
  ∀ journal, ∃ later,
    parse settings { state with journal := journal } =
      .ok value { next with journal := later } ∧
    later.diagnostics.toList = journal.diagnostics.toList ++ reports

namespace Emits

variable {settings : Settings} {state middle next : ParseState} {reports others : List Diagnostic}

theorem pure (value : α) : Emits settings (pure value) state value state [] :=
  fun journal => ⟨journal, rfl, by simp⟩

/-- A change of the state that reports nothing. -/
theorem of_run {parse : Parse α} {value : α}
    (hrun : ∀ journal, parse settings { state with journal := journal } =
      .ok value { next with journal := journal }) :
    Emits settings parse state value next [] :=
  fun journal => ⟨journal, hrun journal, by simp⟩

theorem bind {parse : Parse α} {continued : α → Parse β} {value : α} {result : β}
    (hparse : Emits settings parse state value middle reports)
    (hcontinued : Emits settings (continued value) middle result next others) :
    Emits settings (parse >>= continued) state result next (reports ++ others) := by
  intro journal
  obtain ⟨between, hfirst, hreports⟩ := hparse journal
  obtain ⟨later, hsecond, hothers⟩ := hcontinued between
  refine ⟨later, (bind_of_ok hfirst).trans hsecond, ?_⟩
  rw [hothers, hreports, List.append_assoc]

/-- A last part that reports nothing. -/
theorem bind_of_still {parse : Parse α} {continued : α → Parse β} {value : α} {result : β}
    (hparse : Emits settings parse state value middle reports)
    (hcontinued : Emits settings (continued value) middle result next []) :
    Emits settings (parse >>= continued) state result next reports := by
  have hbind := hparse.bind hcontinued
  rwa [List.append_nil] at hbind

/-- A first part that reports nothing. -/
theorem bind_of_run {parse : Parse α} {continued : α → Parse β} {value : α} {result : β}
    (hrun : ∀ journal, parse settings { state with journal := journal } =
      .ok value { middle with journal := journal })
    (hcontinued : Emits settings (continued value) middle result next reports) :
    Emits settings (parse >>= continued) state result next reports := by
  simpa using (of_run hrun).bind hcontinued

/-- A first part that only looks at the state. -/
theorem bind_of_look {parse : Parse α} {continued : α → Parse β} {value : α} {result : β}
    (hrun : ∀ journal, parse settings { state with journal := journal } =
      .ok value { state with journal := journal })
    (hcontinued : Emits settings (continued value) state result next reports) :
    Emits settings (parse >>= continued) state result next reports :=
  bind_of_run hrun hcontinued

theorem position_bind {continued : Position → Parse β} {result : β}
    (hcontinued : Emits settings (continued state.cursor.current.span.start) state result next
      reports) :
    Emits settings (position >>= continued) state result next reports :=
  bind_of_look (fun _ => rfl) hcontinued

theorem kind_bind {continued : TokenKind → Parse β} {result : β}
    (hcontinued : Emits settings (continued state.cursor.kind) state result next reports) :
    Emits settings (kind >>= continued) state result next reports :=
  bind_of_look (fun _ => rfl) hcontinued

theorem remaining_bind {continued : Nat → Parse β} {result : β}
    (hcontinued : Emits settings (continued state.cursor.remaining) state result next reports) :
    Emits settings (remaining >>= continued) state result next reports :=
  bind_of_look (fun _ => rfl) hcontinued

theorem read_bind {continued : Settings → Parse β} {result : β}
    (hcontinued : Emits settings (continued settings) state result next reports) :
    Emits settings (read >>= continued) state result next reports :=
  bind_of_look (fun _ => rfl) hcontinued

theorem attempt {parse : Parse α} {value : α}
    (hparse : Emits settings parse state value next reports) :
    Emits settings (attempt parse) state (.ok value) next reports := by
  intro journal
  obtain ⟨later, hrun, hreports⟩ := hparse journal
  exact ⟨later, attempt_of_ok hrun, hreports⟩

theorem orFail {parse : Parse (Option α)} {value : α} {failure : Failure}
    (hparse : Emits settings parse state (some value) next reports) :
    Emits settings (orFail parse failure) state value next reports := by
  intro journal
  obtain ⟨later, hrun, hreports⟩ := hparse journal
  exact ⟨later, (bind_of_ok hrun).trans rfl, hreports⟩

/-- A single run shows what a parse reports from every journal. -/
theorem of_oblivious {parse : Parse α} [hparse : Oblivious parse] {value : α}
    (hrun : parse settings state = .ok value next)
    (hreports : next.journal.diagnostics.toList = state.journal.diagnostics.toList ++ reports) :
    Emits settings parse state value next reports := by
  intro journal
  have hstate := run_of_ok hrun
  rw [run_eq_bare] at hstate
  obtain ⟨hvalue, hnext⟩ := Prod.mk.inj hstate
  have hbare : (parse.run settings state.bare).2.journal.diagnostics.toList = reports := by
    rw [← hnext] at hreports
    simpa [ParseState.behind, Journal.append] using hreports
  refine ⟨journal.append (parse.run settings state.bare).2.journal, ?_, ?_⟩
  · apply run_eq_ok
    have hbehind : { state with journal := journal } = state.bare.behind journal := by
      simp [ParseState.bare, ParseState.behind]
    rw [hbehind, hparse.run, hvalue, ← hnext]
    rfl
  · simp [Journal.append, hbare]

end Emits

end Parse

end SubsetC
