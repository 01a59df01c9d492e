import SubsetC.Parse.Expr
import SubsetC.Proofs.Adds
import SubsetC.Proofs.Scanned

/-!
# Misuses of operators

The misuses of operators that reading an expression reports can be read off its tree: an
operator is reported if it has failed and its operands have not.  So each failure is
reported once, where it arose, whatever the policy for operators; and what the policy
says of operands that have failed is never asked for.
-/

namespace SubsetC

namespace Expr

mutual

/-- The misuses of operators in an expression, those in the operands of an operator
before its own. -/
def operatorMisuses : Expr → List Misuse
  | constant _ _ _ | string _ _ _ | ident _ _ => []
  | element _ index _ => index.operatorMisuses
  | address _ index _ _ => index.operatorMisuses
  | call _ arguments _ => allOperatorMisuses arguments
  | step _ operand ty _ =>
      if ty = .error ∧ operand.ty ≠ .error then [.invalidOperand operand.ty] else []
  | not operand ty _ =>
      operand.operatorMisuses ++
        if ty = .error ∧ operand.ty ≠ .error then [.invalidOperand operand.ty] else []
  | binary _ lhs rhs ty =>
      lhs.operatorMisuses ++ rhs.operatorMisuses ++
        if ty = .error ∧ lhs.ty ≠ .error ∧ rhs.ty ≠ .error then
          [.invalidOperands lhs.ty rhs.ty]
        else []
  | toInt operand => operand.operatorMisuses
  | toChar operand => operand.operatorMisuses

def allOperatorMisuses : List Expr → List Misuse
  | [] => []
  | e :: others => e.operatorMisuses ++ allOperatorMisuses others

end

@[simp] theorem operatorMisuses_widen (e : Expr) :
    e.widen.operatorMisuses = e.operatorMisuses := by
  unfold widen
  split <;> rfl

@[simp] theorem operatorMisuses_narrow (e : Expr) :
    e.narrow.operatorMisuses = e.operatorMisuses := by
  unfold narrow
  split <;> rfl

end Expr

/-! ## Verdicts -/

namespace TypeRules

variable {rules : TypeRules}

theorem Proper.judgeBinary_refused (hproper : rules.Proper) (operator : BinaryOp) (lhs rhs : Ty) :
    (rules.judgeBinary operator lhs rhs).accepted = false ↔
      (rules.judgeBinary operator lhs rhs).ty = .error ∧ lhs ≠ .error ∧ rhs ≠ .error := by
  unfold judgeBinary
  split
  · rename_i hfailed
    simp only [Verdict.failedBefore]
    tauto
  · rename_i hfailed
    have hnever := hproper.binary operator lhs rhs
    cases hresult : rules.binary operator lhs rhs <;> simp_all [Verdict.ofResult]

theorem Proper.judgeNot_refused (hproper : rules.Proper) (operand : Ty) :
    (rules.judgeNot operand).accepted = false ↔
      (rules.judgeNot operand).ty = .error ∧ operand ≠ .error := by
  unfold judgeNot
  split
  · rename_i hfailed
    simp only [Verdict.failedBefore]
    tauto
  · have hnever := hproper.not operand
    cases hresult : rules.not operand <;> simp_all [Verdict.ofResult]

theorem Proper.judgeStep_refused (hproper : rules.Proper) (operand : Ty) :
    (rules.judgeStep operand).accepted = false ↔
      (rules.judgeStep operand).ty = .error ∧ operand ≠ .error := by
  unfold judgeStep
  split
  · rename_i hfailed
    simp only [Verdict.failedBefore]
    tauto
  · have hnever := hproper.step operand
    cases hresult : rules.step operand <;> simp_all [Verdict.ofResult]

theorem standard_proper : standard.Proper where
  binary operator lhs rhs := by
    simp only [standard]
    split <;> simp
  not operand := by
    cases operand <;> decide
  step operand := by
    cases operand <;> decide

end TypeRules

namespace Parse

/-- Settings with checks, and another policy that they are compared with. -/
structure Compared (settings : Settings) (rules : TypeRules) : Prop where
  checks : settings.checks = true
  proper : settings.rules.Proper
  agrees : settings.rules.AgreesOffErrors rules

variable {settings : Settings} {rules : TypeRules}

/-- A parse adds the misuses of operators that its tree has. -/
abbrev AddsMisuses (settings : Settings) (rules : TypeRules) (parse : Parse Expr) : Prop :=
  Adds settings rules (fun tree added => added = tree.operatorMisuses) parse

abbrev AddsTreeMisuses (settings : Settings) (rules : TypeRules)
    (parse : Parse (Option Expr)) : Prop :=
  Adds settings rules (fun tree? added => ∀ tree, tree? = some tree → added = tree.operatorMisuses)
    parse

theorem addsTreeMisuses_map {parse : Parse Expr} (hparse : AddsMisuses settings rules parse) :
    AddsTreeMisuses settings rules (some <$> parse) := by
  apply hparse.map
  rintro tree added hadded found ⟨⟩
  exact hadded

/-- An operator that is refused is reported. -/
theorem reportUnless_operator (hchecks : settings.checks = true) {condition : Bool} {refused : Prop}
    [Decidable refused] (hcondition : condition = false ↔ refused) {misuse : Misuse}
    (hmisuse : misuse.isOfOperator = true) (position : Position) :
    Adds settings rules (fun _ added => added = if refused then [misuse] else [])
      (reportUnless condition misuse position) := by
  apply (reportUnless_adds hchecks condition misuse position).imp
  rintro value added rfl
  cases condition <;> simp_all

section Factors

variable {expr : Parse (Option Expr)}

theorem acceptsSubscript_silent (symbol : Symbol) :
    Silent settings rules (acceptsSubscript symbol) :=
  .read_bind rfl (.pure rfl)

theorem placeholder_adds (span : Span) : AddsMisuses settings rules (placeholder span) :=
  .get_bind fun _ => .pure rfl

theorem subscript_adds (hcompared : Compared settings rules)
    (hexpr : AddsTreeMisuses settings rules expr) (array : Symbol) (span : Span) :
    Adds settings rules (fun target added => added = target.index.operatorMisuses)
      (subscript expr array span) := by
  unfold subscript
  refine (expect_silent _).after fun _ => position_silent.after fun start =>
    (Adds.orFail _ hexpr).collect fun index => (expect_silent _).after fun close => ?_
  have hreport : Silent settings rules
      (reportUnless (countsAsScalar index.ty) (.subscriptType index.ty) start) :=
    reportUnless_silent hcompared.checks _ rfl _
  exact hreport.after fun _ => .pure (List.append_nil _)

theorem reportMisuse_silent (hcompared : Compared settings rules) {misuse : Misuse}
    (hmisuse : misuse.isOfOperator = false) (position : Position) :
    Silent settings rules (reportMisuse misuse position) := by
  apply (reportMisuse_adds hcompared.checks misuse position).imp
  rintro value added rfl
  simp [hmisuse]

theorem element_adds (hcompared : Compared settings rules)
    (hexpr : AddsTreeMisuses settings rules expr) (array : Symbol) (span : Span) :
    AddsMisuses settings rules (element expr array span) := by
  unfold element
  refine (acceptsSubscript_silent array).after fun accepted => .ite ?_ ?_
  · refine (subscript_adds hcompared hexpr array span).attempt_collect (fun target => ?_)
      fun failure => ?_
    · exact .pure (List.append_nil _)
    · exact (recoverPast_faults _ failure).after_fault fun _ => placeholder_silent span
  · unfold rejectSubscript
    rw [bind_assoc]
    exact (reportMisuse_silent hcompared rfl _).after fun _ => (skipPast_silent _).after fun _ =>
      placeholder_adds span

theorem checkArgument_adds (hcompared : Compared settings rules) (check : CallCheck)
    (callee : Symbol) (index : Nat) (argument : Expr) :
    Adds settings rules
      (fun kept added => added = [] ∧ kept.operatorMisuses = argument.operatorMisuses)
      (checkArgument check callee index argument) := by
  have hreported (condition : Bool) {misuse : Misuse} (hmisuse : misuse.isOfOperator = false)
      (position : Position) : Adds settings rules
        (fun kept added => added = [] ∧ kept.operatorMisuses = argument.operatorMisuses)
        (do reportUnless condition misuse position; return argument) :=
    (reportUnless_silent hcompared.checks condition hmisuse position).after fun _ =>
      .pure ⟨rfl, rfl⟩
  unfold checkArgument
  cases check with
  | unchecked => exact .pure ⟨rfl, rfl⟩
  | format => exact hreported _ rfl _
  | against signature =>
      cases hparameter : signature.params[index]? with
      | none =>
          simp only [hparameter]
          exact hreported _ rfl _
      | some parameter =>
          simp only [hparameter]
          exact .ite (.pure ⟨rfl, argument.operatorMisuses_narrow⟩) (hreported _ rfl _)

/-- Arguments that are closed add what they have; after a failure nothing is said. -/
theorem argumentsFrom_adds (hcompared : Compared settings rules)
    (hexpr : AddsTreeMisuses settings rules expr) (check : CallCheck) (callee : Symbol)
    (budget index : Nat) :
    Adds settings rules
      (fun result added => ∀ close, result.2 = .ok close →
        added = Expr.allOperatorMisuses result.1)
      (argumentsFrom expr check callee budget index) := by
  induction budget generalizing index with
  | zero =>
      unfold argumentsFrom
      exact current_silent.after fun token => .pure fun close hclose => by contradiction
  | succ budget ih =>
      unfold argumentsFrom
      refine position_silent.after fun start => (Adds.orFail _ hexpr).attempt_collect
        (fun argument => ?_) fun failure => .pure fun _ close hclose => by contradiction
      refine (checkArgument_adds hcompared check callee index argument).bind fun kept =>
        (accept_silent _).after fun more => .ite ?_ ?_
      · refine (ih (index + 1)).bind ?_
        rintro ⟨others, closing⟩
        refine .pure ?_
        rintro added hadded first ⟨rfl, hkept⟩ close hclose
        have hothers := hadded close hclose
        simp [Expr.allOperatorMisuses, hothers, hkept]
      · refine (expect_silent _).attempt.bind fun closing => .pure ?_
        rintro added hadded first ⟨rfl, hkept⟩ close hclose
        have hclosing := hadded close hclose
        simp [Expr.allOperatorMisuses, hclosing, hkept]

theorem arguments_adds (hcompared : Compared settings rules)
    (hexpr : AddsTreeMisuses settings rules expr) (check : CallCheck) (callee : Symbol) :
    Adds settings rules
      (fun result added => ∀ close, result.2 = .ok close →
        added = Expr.allOperatorMisuses result.1)
      (arguments expr check callee) := by
  unfold arguments
  refine kind_silent.after fun found => .ite ?_ ?_
  · refine (expect_silent _).attempt.bind fun closing => .pure ?_
    rintro added hadded close hclose
    rw [hadded close hclose]
    rfl
  · exact remaining_silent.after fun count => argumentsFrom_adds hcompared hexpr check callee _ _

theorem checkCount_silent (hcompared : Compared settings rules) (check : CallCheck)
    (callee : Symbol) (count : Nat) (opening stop : Position) :
    Silent settings rules (checkCount check callee count opening stop) := by
  unfold checkCount
  cases check with
  | unchecked => exact .pure rfl
  | format => exact reportUnless_silent hcompared.checks _ rfl _
  | against signature => exact reportUnless_silent hcompared.checks _ rfl _

theorem checkedCall_adds (hcompared : Compared settings rules)
    (hexpr : AddsTreeMisuses settings rules expr) (callee : Symbol) (span : Span) :
    AddsMisuses settings rules (checkedCall expr callee span) := by
  have hnoted : Silent settings rules (noteCallee callee) := .ite markPrintf_silent (.pure rfl)
  unfold checkedCall
  refine .read_bind rfl (hnoted.after fun _ => (expect_silent _).after fun opening =>
    (arguments_adds hcompared hexpr _ callee).bind ?_)
  rintro ⟨kept, closing⟩
  cases closing with
  | ok close =>
      refine (checkCount_silent hcompared _ _ _ _ _).after fun _ => .pure ?_
      intro added hadded
      rw [List.append_nil]
      exact hadded close rfl
  | error failure =>
      refine (recoverPast_faults _ failure).after_fault fun _ => ?_
      exact (checkCount_silent hcompared _ _ _ _ _).after fun _ => .pure rfl

theorem call_adds (hcompared : Compared settings rules)
    (hexpr : AddsTreeMisuses settings rules expr) (callee : Symbol) (span : Span) :
    AddsMisuses settings rules (call expr callee span) := by
  unfold call
  refine .read_bind rfl (.ite ?_ (checkedCall_adds hcompared hexpr callee span))
  exact (reportMisuse_silent hcompared rfl _).after fun _ => (skipPast_silent _).after fun _ =>
    (skipPast_silent _).after fun _ => placeholder_adds span

theorem afterName_adds (hcompared : Compared settings rules)
    (hexpr : AddsTreeMisuses settings rules expr) (symbol : Symbol) (span : Span) :
    AddsMisuses settings rules (afterName expr symbol span) := by
  unfold afterName
  refine kind_silent.after fun found => ?_
  split
  · exact element_adds hcompared hexpr symbol span
  · exact call_adds hcompared hexpr symbol span
  · exact .pure rfl

theorem named_adds (hcompared : Compared settings rules)
    (hexpr : AddsTreeMisuses settings rules expr) : AddsMisuses settings rules (named expr) := by
  unfold named
  refine advance_silent.after fun name => (resolve_silent hcompared.checks _ _).after fun symbol =>
    (afterName_adds hcompared hexpr symbol name.span).collect fun factor => .pure ?_
  rw [List.append_nil, Expr.operatorMisuses_widen]

theorem stringLiteral_adds : AddsMisuses settings rules stringLiteral := by
  unfold stringLiteral
  exact advance_silent.after fun token => (intern_silent _).after fun id => .pure rfl

theorem constant_adds : AddsMisuses settings rules constant := by
  unfold constant
  refine advance_silent.after fun token => ?_
  split
  · exact .pure rfl
  · exact .failAt _ _

theorem parenthesized_adds (hexpr : AddsTreeMisuses settings rules expr) :
    AddsMisuses settings rules (parenthesized expr) := by
  unfold parenthesized
  refine advance_silent.after fun _ => position_silent.after fun start =>
    (Adds.orFail _ hexpr).collect fun inner => (expect_silent _).after fun _ => ?_
  exact .pure (List.append_nil _)

theorem stepped_adds (hcompared : Compared settings rules) (operator : Step) :
    AddsMisuses settings rules (stepped operator) := by
  unfold stepped
  refine advance_silent.after fun token => position_silent.after fun start =>
    (expectOr_silent _ _).after fun name => (resolve_silent hcompared.checks _ _).after fun symbol =>
      .read_bind ?_ ?_
  · simp only [Settings.withRules, hcompared.agrees.judgeStep]
  · have hrefused := hcompared.proper.judgeStep_refused symbol.ty
    refine (reportUnless_operator hcompared.checks hrefused rfl _).collect fun _ => .pure ?_
    rw [List.append_nil, Expr.operatorMisuses_widen]
    rfl

theorem addressed_adds (hcompared : Compared settings rules)
    (hexpr : AddsTreeMisuses settings rules expr) :
    AddsMisuses settings rules (addressed expr) := by
  unfold addressed
  refine advance_silent.after fun token => position_silent.after fun start =>
    (expectOr_silent _ _).after fun name => (resolve_silent hcompared.checks _ _).after fun symbol =>
      kind_silent.after fun found => .ite ?_ (position_silent.after fun _ => .failAt _ _)
  refine (acceptsSubscript_silent symbol).after fun accepted =>
    (reportUnless_silent hcompared.checks _ rfl _).after fun _ =>
      (subscript_adds hcompared hexpr symbol name.span).collect fun target =>
        (note_silent _).after fun _ => ?_
  exact .pure (List.append_nil _)

theorem freshFactor_adds (hcompared : Compared settings rules)
    (hexpr : AddsTreeMisuses settings rules expr) :
    AddsTreeMisuses settings rules (freshFactor expr) := by
  unfold freshFactor
  refine kind_silent.after fun found => ?_
  split
  · exact addsTreeMisuses_map (named_adds hcompared hexpr)
  · exact addsTreeMisuses_map stringLiteral_adds
  · exact addsTreeMisuses_map constant_adds
  · exact addsTreeMisuses_map (parenthesized_adds hexpr)
  · exact addsTreeMisuses_map (stepped_adds hcompared .increment)
  · exact addsTreeMisuses_map (stepped_adds hcompared .decrement)
  · exact addsTreeMisuses_map (addressed_adds hcompared hexpr)
  · exact .pure fun tree htree => by contradiction

theorem negated_adds (hcompared : Compared settings rules)
    (hexpr : AddsTreeMisuses settings rules expr) :
    AddsMisuses settings rules (negated expr) := by
  unfold negated
  have hfactor : AddsTreeMisuses settings rules (factor expr none) :=
    freshFactor_adds hcompared hexpr
  refine advance_silent.after fun token => position_silent.after fun start =>
    (Adds.orFail _ hfactor).collect fun operand => .read_bind ?_ ?_
  · simp only [Settings.withRules, hcompared.agrees.judgeNot]
  · have hrefused := hcompared.proper.judgeNot_refused operand.ty
    refine (reportUnless_operator hcompared.checks hrefused rfl _).collect fun _ => .pure ?_
    rw [List.append_nil]
    rfl

theorem value_adds (hcompared : Compared settings rules)
    (hexpr : AddsTreeMisuses settings rules expr) :
    AddsTreeMisuses settings rules (value expr none) := by
  unfold value
  refine kind_silent.after fun found => .ite ?_ (freshFactor_adds hcompared hexpr)
  exact addsTreeMisuses_map (negated_adds hcompared hexpr)

end Factors

/-! ## Chains -/

/-- The node of an operator adds its own misuse to those of its operands. -/
theorem joined_adds (hcompared : Compared settings rules) (operator : BinaryOp) (lhs rhs : Expr)
    (position : Position) :
    Adds settings rules (fun node added =>
        node.operatorMisuses = lhs.operatorMisuses ++ rhs.operatorMisuses ++ added)
      (joined operator lhs rhs position) := by
  unfold joined
  refine .read_bind ?_ ?_
  · simp only [Settings.withRules, hcompared.agrees.judgeBinary]
  · have hrefused := hcompared.proper.judgeBinary_refused operator lhs.ty rhs.ty
    refine (reportUnless_operator hcompared.checks hrefused rfl _).collect fun _ =>
      (note_silent _).after fun _ => .pure ?_
    rw [List.append_nil]
    rfl

theorem operatorsAfter_adds (hcompared : Compared settings rules) (level : Precedence)
    {operand : Parse (Option Expr)} (hoperand : AddsTreeMisuses settings rules operand)
    (budget : Nat) (lhs : Expr) :
    Adds settings rules (fun node added => node.operatorMisuses = lhs.operatorMisuses ++ added)
      (operatorsAfter level operand budget lhs) := by
  induction budget generalizing lhs with
  | zero =>
      unfold operatorsAfter
      exact .pure (List.append_nil _).symm
  | succ budget ih =>
      unfold operatorsAfter
      refine kind_silent.after fun found => ?_
      split
      · exact .pure (List.append_nil _).symm
      · rename_i operator _
        -- The node holds the misuses of its left operand, which were added before.
        refine advance_silent.after fun token => (Adds.orFail _ hoperand).collect fun rhs =>
          (joined_adds hcompared operator lhs rhs _).bind fun node => (ih node).imp ?_
        intro result later hresult own hnode
        rw [hresult, hnode]
        simp only [List.append_assoc]

theorem chain_adds (hcompared : Compared settings rules) (level : Precedence) {operand : Rule}
    (hoperand : AddsTreeMisuses settings rules (operand none)) :
    AddsTreeMisuses settings rules (chain level operand none) := by
  unfold chain
  refine hoperand.bind fun lhs? => ?_
  cases lhs? with
  | none => exact .pure fun _ _ tree htree => by contradiction
  | some lhs =>
      refine remaining_silent.after fun count =>
        (operatorsAfter_adds hcompared level hoperand count lhs).map ?_
      rintro node later hnode first hfirst tree ⟨⟩
      rw [hfirst lhs rfl, hnode]

theorem orExpr_adds (hcompared : Compared settings rules) {expr : Parse (Option Expr)}
    (hexpr : AddsTreeMisuses settings rules expr) :
    AddsTreeMisuses settings rules (orExpr expr none) := by
  have hterm := chain_adds hcompared .multiplicative (value_adds hcompared hexpr)
  have hnum := chain_adds hcompared .additive hterm
  have hrel := chain_adds hcompared .relational hnum
  have hand := chain_adds hcompared .logicalAnd hrel
  exact chain_adds hcompared .logicalOr hand

theorem exprWithin_adds (hcompared : Compared settings rules) (budget : Nat) :
    AddsTreeMisuses settings rules (exprWithin budget none) := by
  induction budget with
  | zero => exact position_silent.after fun start => .failAt _ _
  | succ budget ih => exact orExpr_adds hcompared ih

theorem expr_adds (hcompared : Compared settings rules) : AddsTreeMisuses settings rules expr :=
  remaining_silent.after fun _ => orExpr_adds hcompared (exprWithin_adds hcompared _)

/-- If an expression is read and no fault is met, the misuses of operators that are
reported are those of its tree, in their order.  The policy is never asked about an
operand that has failed: the run is the same under every other one that agrees with it on
the rest. -/
theorem expr_operatorMisuses {settings : Settings} {state next : ParseState} {tree : Expr}
    (hchecks : settings.checks = true) (hproper : settings.rules.Proper)
    (hrun : expr settings state = .ok (some tree) next)
    (hfaults : next.journal.faults = state.journal.faults) :
    (∃ added, next.journal.diagnostics.toList = state.journal.diagnostics.toList ++ added ∧
      added.filterMap Diagnostic.operatorMisuse? = tree.operatorMisuses) ∧
    ∀ rules, settings.rules.AgreesOffErrors rules →
      expr { settings with rules := rules } state = .ok (some tree) next := by
  have hitself : settings.rules.AgreesOffErrors settings.rules :=
    ⟨fun _ _ _ _ _ => rfl, fun _ => rfl, fun _ => rfl⟩
  have hadds := expr_adds ⟨hchecks, hproper, hitself⟩
  constructor
  · obtain ⟨added, hadded⟩ := hadds.keeps_ok hrun
    obtain ⟨misuses, hmisuses, htree⟩ := hadds.adds hrun hfaults
    refine ⟨added, hadded.symm, ?_⟩
    unfold Journal.operatorMisuses at hmisuses
    rw [← hadded, List.filterMap_append] at hmisuses
    rw [List.append_cancel_left hmisuses, htree tree rfl]
  · intro rules hagrees
    exact ((expr_adds ⟨hchecks, hproper, hagrees⟩).same state).trans hrun

/-- Three operators fail on their operands, and the other two over those. -/
def operatorsText : String := "!(1 + \"a\") - \"b\" * ++printf < !\"c\""

theorem operatorsText_misuses :
    ∃ tokens tree next, tokenize operatorsText "f.c" = .ok tokens ∧
      expr { file := "f.c" } (.ofTokens tokens "f.c") = .ok (some tree) next ∧
      tree.operatorMisuses =
        [.invalidOperands .int .charArray, .invalidOperand .function, .invalidOperand .charArray] ∧
      (∃ added, next.journal.diagnostics.toList = [] ++ added ∧
        added.filterMap Diagnostic.operatorMisuse? = tree.operatorMisuses) ∧
      ∀ rules, TypeRules.standard.AgreesOffErrors rules →
        expr { file := "f.c", rules := rules } (.ofTokens tokens "f.c") =
          .ok (some tree) next := by
  have hreads : ((tokenize operatorsText "f.c").toOption.any fun tokens => decide
      (((expr.run { file := "f.c" } (.ofTokens tokens "f.c")).1.toOption.join.map
          Expr.operatorMisuses) =
        some [.invalidOperands .int .charArray, .invalidOperand .function,
          .invalidOperand .charArray] ∧
        (expr.run { file := "f.c" } (.ofTokens tokens "f.c")).2.journal.faults = [])) = true := by
    decide +kernel
  obtain ⟨tokens, htokens, hread, hfaults⟩ := exists_tokens hreads
  obtain ⟨tree, htree, hmisuses⟩ := Option.map_eq_some_iff.1 hread
  have hvalue := eq_ok_of_toOption (Option.join_eq_some_iff.1 htree)
  have hrun := run_eq_ok (Prod.ext hvalue rfl)
  have hchecks : ({ file := "f.c" } : Settings).checks = true := rfl
  have hadded := expr_operatorMisuses hchecks TypeRules.standard_proper hrun hfaults
  exact ⟨tokens, tree, _, htokens, hrun, hmisuses, hadded⟩

end Parse

end SubsetC
