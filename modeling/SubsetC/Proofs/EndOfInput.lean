import SubsetC.Proofs.Budgets
import SubsetC.Proofs.Reports

/-!
# The end of input in expressions

The end of input is the one failure that no construct recovers from, so it has to be
handled apart from all others: it is only met where the input ends, from where the cursor
cannot go any further, and it is never reported.

A parse is fair if it deals with it in this way.  The rules of the grammar are fair, which
is shown rule by rule and found by instance resolution afterwards.  What a construct caught
is recovered from with the knowledge of where it was met, so there the rules for
post-conditions are applied by hand.
-/

namespace SubsetC

/-- No token before the closing one ends the input, and no report says that it ended. -/
structure ParseState.Unended (state : ParseState) : Prop where
  ahead : ∀ token ∈ state.cursor.ahead, token.kind ≠ .eof
  reports : ∀ diagnostic ∈ state.journal.diagnostics.toList,
    diagnostic.cause ≠ .fault .endOfInput

/-- A failure that says that the input ended was met where it ends. -/
def Failure.Justified (failure : Failure) (state : ParseState) : Prop :=
  failure.fault = .endOfInput →
    state.cursor.ahead = [] ∧ failure.position = state.cursor.last.span.start

/-- A failure that does not say that the input ended. -/
class Failure.Ordinary (failure : Failure) : Prop where
  fault_ne : failure.fault ≠ .endOfInput

namespace ParseState.Unended

variable {state next : ParseState}

/-- Moving on with the same reports. -/
theorem of_movesOn (hstate : state.Unended) (hmoves : Parse.MovesOn state next)
    (hreports : next.journal.diagnostics = state.journal.diagnostics) : next.Unended where
  ahead token htoken := hstate.ahead token (hmoves.1.subset htoken)
  reports diagnostic hdiagnostic := by
    rw [hreports] at hdiagnostic
    exact hstate.reports diagnostic hdiagnostic

theorem reported (hstate : state.Unended) {diagnostic : Diagnostic}
    (hcause : diagnostic.cause ≠ .fault .endOfInput) : (state.reported diagnostic).Unended where
  ahead := hstate.ahead
  reports found hfound := by
    rw [reported_diagnostics, List.mem_append, List.mem_singleton] at hfound
    cases hfound with
    | inl hbefore => exact hstate.reports found hbefore
    | inr hnew => rwa [hnew]

/-- The end of input is only seen behind all other tokens. -/
theorem ahead_eq_nil (hstate : state.Unended) (hkind : state.cursor.kind = .eof) :
    state.cursor.ahead = [] := by
  cases hahead : state.cursor.ahead with
  | nil => rfl
  | cons token others =>
      have hcurrent : state.cursor.kind = token.kind := by
        simp [Cursor.kind, Cursor.current, hahead]
      have htoken := hstate.ahead token (by simp [hahead])
      rw [← hcurrent] at htoken
      contradiction

/-- To fail because of the end of input is justified where it is seen. -/
theorem justified (hstate : state.Unended) (hkind : state.cursor.kind = .eof) :
    Failure.Justified { fault := .endOfInput, position := state.cursor.current.span.start }
      state := by
  intro _
  have hahead := hstate.ahead_eq_nil hkind
  refine ⟨hahead, ?_⟩
  simp [Cursor.current, hahead]

end ParseState.Unended

namespace Failure

theorem Ordinary.justified {failure : Failure} (hordinary : failure.Ordinary)
    (state : ParseState) : failure.Justified state := by
  intro hfault
  exact absurd hfault hordinary.fault_ne

instance (malformation : Malformation) (position : Position) :
    Ordinary { fault := .malformed malformation, position := position } :=
  ⟨by simp⟩

instance (token : String) (expectation : Expectation) (position : Position) :
    Ordinary { fault := .unexpectedFor token expectation, position := position } :=
  ⟨by simp⟩

instance (text : String) (position : Position) :
    Ordinary { fault := .badConstant text, position := position } :=
  ⟨by simp⟩

instance (operator : TokenKind) (position : Position) :
    Ordinary { fault := .operandMissing operator, position := position } :=
  ⟨by simp⟩

instance (expected : TokenKind) (found : Token) : Ordinary (Parse.mismatch expected found) := by
  constructor
  unfold Parse.mismatch
  split <;> simp

end Failure

namespace Parse

variable {α β : Type} {settings : Settings} {state next : ParseState}

/-! ## Runs with conditions before and after -/

/-- Run where a condition holds, a parse that succeeds makes another one hold of its value and
the state that it leaves; a failure is justified.  The state is unended all the time. -/
def Meets (before : ParseState → Prop) (parse : Parse α) (after : α → ParseState → Prop) : Prop :=
  ∀ ⦃settings state⦄, state.Unended → before state →
    match parse settings state with
    | .ok value next => next.Unended ∧ after value next
    | .error failure next => next.Unended ∧ failure.Justified next

class Fair (parse : Parse α) : Prop where
  meets : Meets (fun _ => True) parse fun _ _ => True

namespace Meets

variable {before : ParseState → Prop} {between : α → ParseState → Prop}
  {after : β → ParseState → Prop} {parse : Parse α} {continued : α → Parse β}

theorem run (hparse : Meets before parse between) (settings : Settings) {state : ParseState}
    (hstate : state.Unended) (hbefore : before state) :
    match parse settings state with
    | .ok value next => next.Unended ∧ between value next
    | .error failure next => next.Unended ∧ failure.Justified next :=
  hparse hstate hbefore

theorem of_ok {value : Settings → ParseState → β} {change : Settings → ParseState → ParseState}
    {parse : Parse β}
    (hrun : ∀ settings state,
      parse settings state = .ok (value settings state) (change settings state))
    (hchange : ∀ settings state, state.Unended → before state →
      (change settings state).Unended ∧ after (value settings state) (change settings state)) :
    Meets before parse after := by
  intro settings state hstate hbefore
  rw [hrun]
  exact hchange settings state hstate hbefore

theorem pure {value : β} (hvalue : ∀ state, before state → after value state) :
    Meets before (pure value : Parse β) after := by
  apply of_ok (fun _ _ => rfl)
  intro settings state hstate hbefore
  exact ⟨hstate, hvalue state hbefore⟩

theorem throw {failure : Failure} (hfailure : ∀ state, before state → failure.Justified state) :
    Meets before (throw failure : Parse β) after := by
  intro settings state hstate hbefore
  exact ⟨hstate, hfailure state hbefore⟩

theorem bind (hparse : Meets before parse between)
    (hcontinued : ∀ value, Meets (between value) (continued value) after) :
    Meets before (parse >>= continued) after := by
  intro settings state hstate hbefore
  have hfirst := hparse.run settings hstate hbefore
  cases hrun : parse settings state with
  | ok value middle =>
      rw [hrun] at hfirst
      rw [bind_of_ok hrun]
      exact hcontinued value hfirst.1 hfirst.2
  | error failure middle =>
      rw [hrun] at hfirst
      rw [bind_of_error hrun]
      exact hfirst

theorem of_before {stronger : ParseState → Prop} {parse : Parse β}
    (hparse : Meets before parse after) (hbefore : ∀ state, stronger state → before state) :
    Meets stronger parse after := by
  intro settings state hstate hstronger
  exact hparse hstate (hbefore state hstronger)

theorem kind :
    Meets before kind fun found state => state.cursor.kind = found ∧ before state :=
  .of_ok (fun _ _ => rfl) fun _ _ hstate hbefore => ⟨hstate, rfl, hbefore⟩

theorem endOfInput (hbefore : ∀ state, before state → state.cursor.kind = .eof) :
    Meets before (do failAt .endOfInput (← position)) after := by
  intro settings state hstate hstart
  rw [bind_of_ok position_run, failAt_run]
  exact ⟨hstate, hstate.justified (hbefore state hstart)⟩

theorem ite {condition : Prop} [Decidable condition] {accepted rejected : Parse β}
    (haccepted : Meets before accepted after) (hrejected : Meets before rejected after) :
    Meets before (if condition then accepted else rejected) after := by
  split
  · exact haccepted
  · exact hrejected

/-- What is fair may be run under any condition. -/
theorem of_fair [hparse : Fair parse] : Meets before parse fun _ _ => True := by
  intro settings state hstate _
  exact hparse.meets hstate trivial

/-- A caught failure is justified where the parse left off. -/
theorem attempt [hparse : Fair parse] :
    Meets before (attempt parse) fun result state =>
      ∀ failure, result = .error failure → failure.Justified state := by
  intro settings state hstate _
  have hrun := hparse.meets.run settings hstate trivial
  cases hresult : parse settings state with
  | ok value next =>
      rw [hresult] at hrun
      rw [attempt_of_ok hresult]
      refine ⟨hrun.1, ?_⟩
      intro failure hfailure
      contradiction
  | error failure next =>
      rw [hresult] at hrun
      rw [attempt_of_error hresult]
      refine ⟨hrun.1, ?_⟩
      rintro _ ⟨⟩
      exact hrun.2

end Meets

namespace Fair

variable {parse : Parse α} {continued : α → Parse β}

theorem of_run {value : Settings → ParseState → α} {change : Settings → ParseState → ParseState}
    (hrun : ∀ settings state,
      parse settings state = .ok (value settings state) (change settings state))
    (hchange : ∀ settings state, state.Unended → (change settings state).Unended) :
    Fair parse where
  meets := by
    apply Meets.of_ok hrun
    intro settings state hstate _
    exact ⟨hchange settings state hstate, trivial⟩

/-- A parse that always succeeds, moves on and reports nothing. -/
theorem of_moves [Respects MovesOn parse] {value : Settings → ParseState → α}
    {change : Settings → ParseState → ParseState}
    (hrun : ∀ settings state,
      parse settings state = .ok (value settings state) (change settings state))
    (hreports : ∀ settings state,
      (change settings state).journal.diagnostics = state.journal.diagnostics) : Fair parse := by
  apply of_run hrun
  intro settings state hstate
  exact hstate.of_movesOn (Respects.ok (hrun settings state)) (hreports settings state)

theorem bind (hparse : Fair parse) (hcontinued : ∀ value, Fair (continued value)) :
    Fair (parse >>= continued) where
  meets := hparse.meets.bind fun value => (hcontinued value).meets

/-- A construct that recovers knows that what it caught is justified. -/
theorem recovering {continued : Except Failure α → Parse β} [Fair parse]
    (hok : ∀ value, Fair (continued (.ok value)))
    (herror : ∀ failure : Failure,
      Meets failure.Justified (continued (.error failure)) fun _ _ => True) :
    Fair (attempt parse >>= continued) where
  meets := by
    apply Meets.attempt.bind
    intro result settings state hstate hresult
    cases result with
    | ok value => exact (hok value).meets hstate trivial
    | error failure => exact herror failure hstate (hresult failure rfl)

theorem of_agree (other : Settings → ParseState → Parse α)
    (hagree : ∀ settings state, parse settings state = other settings state settings state)
    (hother : ∀ settings state, Fair (other settings state)) : Fair parse where
  meets := by
    intro settings state hstate _
    rw [hagree]
    exact (hother settings state).meets hstate trivial

end Fair

/-! ## Combinators -/

instance (value : α) : Fair (pure value : Parse α) :=
  ⟨.pure fun _ _ => trivial⟩

instance (failure : Failure) [hordinary : failure.Ordinary] : Fair (throw failure : Parse α) :=
  ⟨.throw fun state _ => hordinary.justified state⟩

instance (fault : Fault) (position : Position)
    [Failure.Ordinary { fault := fault, position := position }] :
    Fair (failAt fault position : Parse α) := by
  unfold failAt
  infer_instance

instance : Fair (get : Parse ParseState) :=
  .of_run (fun _ _ => rfl) fun _ _ hstate => hstate

instance : Fair (read : Parse Settings) :=
  .of_run (fun _ _ => rfl) fun _ _ hstate => hstate

instance (parse : Parse α) (continued : α → Parse β) [Fair parse]
    [∀ value, Fair (continued value)] : Fair (parse >>= continued) :=
  .bind inferInstance inferInstance

instance (f : α → β) (parse : Parse α) [Fair parse] : Fair (f <$> parse) := by
  rw [map_eq_pure_bind]
  infer_instance

instance (condition : Prop) [Decidable condition] (accepted rejected : Parse α) [Fair accepted]
    [Fair rejected] : Fair (if condition then accepted else rejected) := by
  split <;> infer_instance

/-! ## Elementary parses -/

instance : Fair current := .of_moves (fun _ _ => rfl) fun _ _ => rfl

instance : Fair kind := .of_moves (fun _ _ => rfl) fun _ _ => rfl

instance : Fair position := .of_moves (fun _ _ => rfl) fun _ _ => rfl

instance : Fair remaining := .of_moves (fun _ _ => rfl) fun _ _ => rfl

instance : Fair advance := .of_moves (fun _ _ => rfl) fun _ _ => rfl

instance (target : TokenKind) : Fair (skipTo target) := .of_moves (fun _ _ => rfl) fun _ _ => rfl

instance (event : Event) : Fair (note event) := .of_moves (fun _ _ => rfl) fun _ _ => rfl

instance (text : String) : Fair (intern text) := .of_moves (fun _ _ => rfl) fun _ _ => rfl

instance : Fair markPrintf := .of_moves (fun _ _ => rfl) fun _ _ => rfl

instance (span : Span) : Fair (placeholder span) := .of_moves (fun _ _ => rfl) fun _ _ => rfl

instance (expected : TokenKind) : Fair (accept expected) := by
  unfold accept
  infer_instance

instance (expected : TokenKind) (failure : Failure) [failure.Ordinary] :
    Fair (expectOr expected failure) := by
  unfold expectOr
  infer_instance

instance (expected : TokenKind) : Fair (expect expected) := by
  unfold expect
  infer_instance

instance (parse : Parse (Option α)) (failure : Failure) [Fair parse] [failure.Ordinary] :
    Fair (orFail parse failure) := by
  unfold orFail
  apply Fair.bind inferInstance
  intro value?
  cases value? <;> infer_instance

/-! ## Reports and recoveries -/

instance (misuse : Misuse) (position : Position) :
    Fair (record { cause := .misuse misuse, position := position }) := by
  apply Fair.of_run (fun _ _ => rfl)
  intro settings state hstate
  exact hstate.reported (by simp)

instance (misuse : Misuse) (position : Position) : Fair (reportMisuse misuse position) := by
  unfold reportMisuse
  infer_instance

instance (condition : Bool) (misuse : Misuse) (position : Position) :
    Fair (reportUnless condition misuse position) := by
  unfold reportUnless
  infer_instance

/-- A recovery that does not find its place has got to the end of input. -/
instance (target : TokenKind) : Fair (resynchronize target) := by
  unfold resynchronize
  apply Fair.bind inferInstance
  intro start
  apply Fair.bind inferInstance
  intro _
  apply Fair.bind inferInstance
  intro _
  constructor
  intro settings state hstate _
  rw [bind_of_ok kind_run]
  by_cases hend : state.cursor.kind = .eof ∧ target ≠ .eof
  · rw [if_pos hend, bind_of_ok position_run, failAt_run]
    exact ⟨hstate, hstate.justified hend.1⟩
  · rw [if_neg hend]
    exact ⟨hstate, trivial⟩

instance (target : TokenKind) : Fair (skipPast target) := by
  unfold skipPast
  infer_instance

/-- Only a justified failure may be recovered from: if the input ended, it fails again. -/
theorem recoverPast_meets (delimiter : TokenKind) (failure : Failure) :
    Meets failure.Justified (recoverPast delimiter failure) fun _ _ => True := by
  unfold recoverPast
  by_cases hend : failure.isEndOfInput
  · rw [if_pos hend]
    exact .throw fun _ hfailure => hfailure
  · rw [if_neg hend]
    have hreport : Fair (reportFailure failure) := by
      apply Fair.of_run (fun _ _ => rfl)
      intro settings state hstate
      apply hstate.reported
      simpa [Diagnostic.ofFailure, Failure.isEndOfInput] using hend
    exact .of_fair

instance (name : String) (position : Position) : Fair (resolve name position) := by
  constructor
  intro settings state hstate _
  cases hlookup : state.symbols.lookup? name with
  | some symbol =>
      rw [resolve_found hlookup]
      exact ⟨hstate, trivial⟩
  | none =>
      have hplanted : ParseState.Unended
          { state with symbols := state.symbols.bind (.dummy name) } :=
        ⟨hstate.ahead, hstate.reports⟩
      have hreport : Fair (do reportMisuse (.undeclared name) position; return Symbol.dummy name) :=
        inferInstance
      rw [resolve_planted hlookup]
      exact hreport.meets hplanted trivial

/-! ## Factors -/

section Factors

variable (whole : Parse (Option Expr)) [Fair whole]

instance (symbol : Symbol) : Fair (acceptsSubscript symbol) := by
  unfold acceptsSubscript
  infer_instance

instance (array : Symbol) (span : Span) : Fair (subscript whole array span) := by
  unfold subscript
  infer_instance

instance (symbol : Symbol) (span : Span) : Fair (rejectSubscript symbol span) := by
  unfold rejectSubscript
  infer_instance

instance (array : Symbol) (span : Span) : Fair (element whole array span) := by
  unfold element
  apply Fair.bind inferInstance
  intro accepted
  split
  · apply Fair.recovering
    · intro target
      infer_instance
    · intro failure
      exact (recoverPast_meets _ failure).bind fun _ => .of_fair
  · infer_instance

instance (check : CallCheck) (callee : Symbol) (index : Nat) (argument : Expr) :
    Fair (checkArgument check callee index argument) := by
  unfold checkArgument
  split
  · infer_instance
  · infer_instance
  · split <;> infer_instance

instance (check : CallCheck) (callee : Symbol) (count : Nat) (opening stop : Position) :
    Fair (checkCount check callee count opening stop) := by
  unfold checkCount
  split <;> infer_instance

instance (callee : Symbol) : Fair (noteCallee callee) := by
  unfold noteCallee
  infer_instance

/-- The failure that ended some arguments is justified where they end. -/
theorem argumentsFrom_meets (check : CallCheck) (callee : Symbol) (budget index : Nat) :
    Meets (fun _ => True) (argumentsFrom whole check callee budget index) fun result state =>
      ∀ failure, result.2 = .error failure → failure.Justified state := by
  induction budget generalizing index with
  | zero =>
      unfold argumentsFrom
      apply Meets.of_fair.bind
      intro found
      apply Meets.pure
      rintro state - failure ⟨⟩
      exact (inferInstance : (mismatch .closeParen found).Ordinary).justified state
  | succ budget ih =>
      unfold argumentsFrom
      apply Meets.of_fair.bind
      intro start
      apply Meets.attempt.bind
      intro result
      cases result with
      | error failure =>
          apply Meets.pure
          rintro state hfailure _ ⟨⟩
          exact hfailure failure rfl
      | ok argument =>
          apply Meets.of_fair.bind
          intro kept
          apply Meets.of_fair.bind
          intro more
          apply Meets.ite
          · apply (ih (index + 1)).bind
            intro others
            apply Meets.pure
            intro state hclosing
            exact hclosing
          · apply Meets.attempt.bind
            intro closing
            apply Meets.pure
            intro state hclosing
            exact hclosing

theorem arguments_meets (check : CallCheck) (callee : Symbol) :
    Meets (fun _ => True) (arguments whole check callee) fun result state =>
      ∀ failure, result.2 = .error failure → failure.Justified state := by
  unfold arguments
  apply Meets.of_fair.bind
  intro found
  apply Meets.ite
  · apply Meets.attempt.bind
    intro closing
    apply Meets.pure
    intro state hclosing
    exact hclosing
  · apply Meets.of_fair.bind
    intro count
    exact argumentsFrom_meets whole check callee _ _

instance (callee : Symbol) (span : Span) : Fair (checkedCall whole callee span) := by
  unfold checkedCall
  apply Fair.bind inferInstance
  intro given
  apply Fair.bind inferInstance
  intro _
  apply Fair.bind inferInstance
  intro opening
  constructor
  apply (arguments_meets whole _ callee).bind
  rintro ⟨values, closing⟩
  cases closing with
  | ok close => exact .of_fair
  | error failure =>
      intro settings state hstate hclosing
      have hrecover : Meets failure.Justified
          (do
            recoverPast .closeParen failure
            checkCount (CallCheck.ofCallee given.checks callee) callee values.length
              opening.span.start failure.position
            return Expr.call callee values span) fun _ _ => True :=
        (recoverPast_meets _ failure).bind fun _ => .of_fair
      exact hrecover hstate (hclosing failure rfl)

instance (callee : Symbol) (span : Span) : Fair (call whole callee span) := by
  unfold call
  infer_instance

instance (symbol : Symbol) (span : Span) : Fair (afterName whole symbol span) := by
  unfold afterName
  apply Fair.bind inferInstance
  intro found
  split <;> infer_instance

instance : Fair (named whole) := by
  unfold named
  infer_instance

instance : Fair stringLiteral := by
  unfold stringLiteral
  infer_instance

instance : Fair constant := by
  unfold constant
  apply Fair.bind inferInstance
  intro token
  unfold Constant.ofText
  cases Constant.read? token.text.toList <;> infer_instance

instance : Fair (parenthesized whole) := by
  unfold parenthesized
  infer_instance

instance (operator : Step) : Fair (stepped operator) := by
  unfold stepped
  infer_instance

instance : Fair (addressed whole) := by
  unfold addressed
  apply Fair.bind inferInstance
  intro token
  apply Fair.bind inferInstance
  intro start
  apply Fair.bind inferInstance
  intro name
  infer_instance

instance : Fair (freshFactor whole) := by
  unfold freshFactor
  apply Fair.bind inferInstance
  intro found
  split <;> infer_instance

instance (handoff? : Option Handoff) : Fair (factor whole handoff?) := by
  unfold factor
  split <;> infer_instance

end Factors

/-! ## Expressions -/

section Expressions

variable (whole : Parse (Option Expr)) [Fair whole]

instance : Fair (negated whole) := by
  unfold negated
  infer_instance

instance (handoff? : Option Handoff) : Fair (value whole handoff?) := by
  unfold value
  split <;> infer_instance

instance (operator : BinaryOp) (lhs rhs : Expr) (position : Position) :
    Fair (joined operator lhs rhs position) := by
  unfold joined
  infer_instance

instance (level : Precedence) (operand : Parse (Option Expr)) [Fair operand] (budget : Nat)
    (lhs : Expr) : Fair (operatorsAfter level operand budget lhs) := by
  induction budget generalizing lhs with
  | zero =>
      unfold operatorsAfter
      infer_instance
  | succ budget ih =>
      unfold operatorsAfter
      apply Fair.bind inferInstance
      intro found
      split <;> infer_instance

instance (level : Precedence) (operand : Rule) [∀ handoff?, Fair (operand handoff?)]
    (handoff? : Option Handoff) : Fair (chain level operand handoff?) := by
  unfold chain
  apply Fair.bind inferInstance
  intro lhs?
  cases lhs? <;> infer_instance

instance (handoff? : Option Handoff) : Fair (orExpr whole handoff?) := by
  unfold orExpr andTerm relExpr numExpr term
  infer_instance

end Expressions

/-- Expressions that nest no deeper than the budget, with what is run in place of deeper ones. -/
def exprFrom (base : Parse (Option Expr)) : Nat → Parse (Option Expr)
  | 0 => base
  | budget + 1 => orExpr (exprFrom base budget) none

/-- What stands in for deeper expressions is not run if the budget covers the tokens. -/
theorem exprWithin_agree_exprFrom (base : Parse (Option Expr)) (budget : Nat) :
    AgreeBelow budget (exprWithin budget none) (exprFrom base budget) := by
  induction budget with
  | zero =>
      intro settings state hstate
      omega
  | succ budget ih => exact ruleIn_agree ih (.chain .logicalOr) none

/-- A budget that is used up looks like the end of input; but the budget of an expression is
never used up, so no expression ends before the input does. -/
instance : Fair expr := by
  have hfrom (budget : Nat) : Fair (exprFrom (pure none) budget) := by
    induction budget with
    | zero =>
        unfold exprFrom
        infer_instance
    | succ budget ih =>
        unfold exprFrom
        infer_instance
  apply Fair.of_agree fun _ state => exprFrom (pure none) (state.cursor.remaining + 1)
  · intro settings state
    have hcovered := exprWithin_agree_expr (Nat.le_refl (state.cursor.remaining + 1))
    rw [← hcovered (Nat.lt_succ_self _)]
    exact exprWithin_agree_exprFrom _ _ (Nat.lt_succ_self _)
  · intro settings state
    exact hfrom _

instance (handoff? : Option Handoff) : Fair (exprAfter handoff?) := by
  rw [exprAfter_eq]
  infer_instance

instance (malformation : Malformation) : Fair (requireExpr malformation) := by
  unfold requireExpr
  infer_instance

end Parse

end SubsetC
