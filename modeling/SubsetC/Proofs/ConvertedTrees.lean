import SubsetC.Proofs.Conversions
import SubsetC.Proofs.Gives
import SubsetC.Proofs.Scanned

/-!
# Every parsed tree is converted

Rule by rule, what is parsed with the standard rules has its nodes converted, with
checks or without, and also after a recovery: placeholders are names like any other,
and the arguments before a fault are kept as they are.
-/

namespace SubsetC

/-! ## The verdicts of the standard rules -/

theorem judgeBinary_standard_ty (operator : BinaryOp) (lhs rhs : Ty) :
    (TypeRules.standard.judgeBinary operator lhs rhs).ty =
      if lhs.isScalar && rhs.isScalar then .int else .error := by
  cases lhs <;> cases rhs <;> rfl

theorem judgeNot_standard_ty (operand : Ty) :
    (TypeRules.standard.judgeNot operand).ty = if operand.isScalar then .int else .error := by
  cases operand <;> rfl

theorem judgeStep_standard_ty (operand : Ty) :
    (TypeRules.standard.judgeStep operand).ty = if operand.isScalar then operand else .error := by
  cases operand <;> rfl

/-- A beginning with the index, if there is one, converted. -/
def Handoff.Converted : Handoff → Prop
  | .ident _ _ => True
  | .element target => target.Converted

namespace Parse

variable {settings : Settings}

/-! ## Factors -/

/-- What a parse of expressions gives, if it matches, is fit to compute with. -/
def GivesScalars (settings : Settings) (parse : Parse (Option Expr)) : Prop :=
  Gives settings (fun tree? => ∀ tree, tree? = some tree → tree.ConvertedScalar) parse

theorem givesScalars_none : GivesScalars settings (pure none) :=
  .pure fun _ htree => by contradiction

theorem givesScalars_some {tree : Expr} (htree : tree.ConvertedScalar) :
    GivesScalars settings (pure (some tree)) :=
  .pure fun _ hsome => by
    cases hsome
    exact htree

theorem givesScalars_map {parse : Parse Expr}
    (hparse : Gives settings Expr.ConvertedScalar parse) :
    GivesScalars settings (some <$> parse) := by
  refine .map hparse fun tree htree found hfound => ?_
  cases hfound
  exact htree

abbrev NodesConverted (e : Expr) : Prop := e.Everywhere Expr.NodeConverted

section Factors

variable {expr : Parse (Option Expr)}

theorem subscript_converted (hexpr : GivesScalars settings expr) (array : Symbol) (span : Span) :
    Gives settings Subscript.Converted (subscript expr array span) := by
  unfold subscript
  refine .after fun _ => .after fun start => .bind (.orFail hexpr) fun index hindex => ?_
  exact .after fun close => .after fun _ => .pure hindex

theorem read_converted {target : Subscript} (htarget : target.Converted) :
    NodesConverted target.read :=
  Expr.converted_node trivial (List.Subset.refl _) (List.forall_mem_singleton.2 htarget)

theorem ident_converted (symbol : Symbol) (span : Span) : NodesConverted (.ident symbol span) :=
  Expr.converted_leaf rfl rfl trivial

theorem placeholder_converted (span : Span) :
    Gives settings NodesConverted (placeholder span) :=
  .after fun _ => .pure (ident_converted _ span)

theorem element_converted (hexpr : GivesScalars settings expr) (array : Symbol) (span : Span) :
    Gives settings NodesConverted (element expr array span) := by
  unfold element
  refine .after fun accepted => .ite ?_ ?_
  · refine .bind (subscript_converted hexpr array span).attempt fun result hresult => ?_
    cases result with
    | ok target => exact .pure (read_converted (hresult target rfl))
    | error failure => exact .after fun _ => placeholder_converted span
  · exact .after fun _ => placeholder_converted span

theorem checkArgument_converted (check : CallCheck) (callee : Symbol) (index : Nat)
    {argument : Expr} (hargument : argument.Converted) :
    Gives settings Expr.Converted (checkArgument check callee index argument) := by
  unfold checkArgument
  cases check with
  | unchecked => exact .pure hargument
  | format => exact .after fun _ => .pure hargument
  | against signature =>
      cases hparameter : signature.params[index]? with
      | none =>
          simp only [hparameter]
          exact .after fun _ => .pure hargument
      | some parameter =>
          simp only [hparameter]
          exact .ite (.pure (Expr.narrow_converted hargument)) (.after fun _ => .pure hargument)

/-- The arguments that were read are converted, also if a fault follows them. -/
theorem argumentsFrom_converted (hexpr : GivesScalars settings expr) (check : CallCheck)
    (callee : Symbol) (budget index : Nat) :
    Gives settings (fun result => ∀ argument ∈ result.1, argument.Converted)
      (argumentsFrom expr check callee budget index) := by
  induction budget generalizing index with
  | zero =>
      unfold argumentsFrom
      exact .after fun found => .pure (List.forall_mem_nil _)
  | succ budget ih =>
      unfold argumentsFrom
      refine .after fun start => .bind (Gives.orFail hexpr).attempt fun result hresult => ?_
      cases result with
      | error failure => exact .pure (List.forall_mem_nil _)
      | ok argument =>
          have hargument := (hresult argument rfl).toConverted
          refine .bind (checkArgument_converted check callee index hargument) fun kept hkept => ?_
          refine .after fun more => .ite ?_ ?_
          · refine .bind (ih (index + 1)) ?_
            rintro ⟨others, closing⟩ hothers
            exact .pure (List.forall_mem_cons.2 ⟨hkept, hothers⟩)
          · exact .after fun closing => .pure (List.forall_mem_singleton.2 hkept)

theorem arguments_converted (hexpr : GivesScalars settings expr) (check : CallCheck)
    (callee : Symbol) :
    Gives settings (fun result => ∀ argument ∈ result.1, argument.Converted)
      (arguments expr check callee) := by
  unfold arguments
  refine .after fun kind => .ite ?_ ?_
  · exact .after fun closing => .pure (List.forall_mem_nil _)
  · exact .after fun remaining => argumentsFrom_converted hexpr check callee _ _

theorem call_nodes {callee : Symbol} {kept : List Expr} {span : Span}
    (hkept : ∀ argument ∈ kept, argument.Converted) : NodesConverted (.call callee kept span) := by
  refine .intro ⟨trivial, List.forall_mem_nil _, fun _ argument hargument => ?_⟩
    fun argument hargument => ?_
  · exact (hkept argument hargument).bare
  · exact (hkept argument hargument).nodes

theorem checkedCall_converted (hexpr : GivesScalars settings expr) (callee : Symbol)
    (span : Span) : Gives settings NodesConverted (checkedCall expr callee span) := by
  unfold checkedCall
  refine .after fun settings => .after fun _ => .after fun opening =>
    .bind (arguments_converted hexpr _ callee) ?_
  rintro ⟨kept, closing⟩ hkept
  cases closing with
  | ok close => exact .after fun _ => .pure (call_nodes hkept)
  | error failure => exact .after fun _ => .after fun _ => .pure (call_nodes hkept)

theorem call_converted (hexpr : GivesScalars settings expr) (callee : Symbol) (span : Span) :
    Gives settings NodesConverted (call expr callee span) := by
  unfold call
  refine .after fun settings => .ite ?_ (checkedCall_converted hexpr callee span)
  exact .after fun _ => .after fun _ => .after fun _ => placeholder_converted span

theorem afterName_converted (hexpr : GivesScalars settings expr) (symbol : Symbol)
    (span : Span) : Gives settings NodesConverted (afterName expr symbol span) := by
  unfold afterName
  refine .after fun kind => ?_
  split
  · exact element_converted hexpr symbol span
  · exact call_converted hexpr symbol span
  · exact .pure (ident_converted symbol span)

theorem named_converted (hexpr : GivesScalars settings expr) :
    Gives settings Expr.ConvertedScalar (named expr) := by
  unfold named
  refine .after fun name => .after fun symbol => ?_
  exact .bind (afterName_converted hexpr symbol name.span) fun factor hfactor =>
    .pure (Expr.widen_converted hfactor)

theorem constant_converted : Gives settings Expr.ConvertedScalar constant := by
  unfold constant
  refine .after fun token => ?_
  split
  · exact .pure ⟨.of_not_reading rfl (Expr.converted_leaf rfl rfl trivial), fun _ => rfl⟩
  · exact .failAt

theorem stringLiteral_converted : Gives settings Expr.ConvertedScalar stringLiteral := by
  unfold stringLiteral
  refine .after fun token => .after fun id => .pure ?_
  exact .of_ty_ne (by simp [Expr.ty]) (Expr.converted_leaf rfl rfl trivial)

theorem parenthesized_converted (hexpr : GivesScalars settings expr) :
    Gives settings Expr.ConvertedScalar (parenthesized expr) := by
  unfold parenthesized
  refine .after fun _ => .after fun start => .bind (.orFail hexpr) fun inner hinner => ?_
  exact .after fun _ => .pure hinner

theorem stepped_converted (hrules : settings.rules = .standard) (operator : Step) :
    Gives settings Expr.ConvertedScalar (stepped operator) := by
  unfold stepped
  refine .after fun token => .after fun start => .after fun name => .after fun symbol =>
    .bind .read fun found hfound => .after fun _ => .pure (Expr.widen_converted ?_)
  rw [hfound, hrules]
  exact Expr.converted_leaf rfl rfl (judgeStep_standard_ty symbol.ty)

theorem addressed_converted (hexpr : GivesScalars settings expr) :
    Gives settings Expr.ConvertedScalar (addressed expr) := by
  unfold addressed
  refine .after fun token => .after fun start => .after fun name => .after fun symbol =>
    .after fun kind => .ite ?_ (.after fun _ => .failAt)
  refine .after fun accepted => .after fun _ =>
    .bind (subscript_converted hexpr symbol name.span) fun target htarget =>
      .after fun _ => .pure ?_
  refine .of_ty_ne ?_ (Expr.converted_node trivial (List.Subset.refl _)
    (List.forall_mem_singleton.2 htarget))
  -- An address is an array or failed, never a `char`.
  simp only [Expr.ty]
  cases target.array.ty <;> decide

theorem freshFactor_converted (hrules : settings.rules = .standard)
    (hexpr : GivesScalars settings expr) : GivesScalars settings (freshFactor expr) := by
  unfold freshFactor
  refine .after fun kind => ?_
  split
  · exact givesScalars_map (named_converted hexpr)
  · exact givesScalars_map stringLiteral_converted
  · exact givesScalars_map constant_converted
  · exact givesScalars_map (parenthesized_converted hexpr)
  · exact givesScalars_map (stepped_converted hrules .increment)
  · exact givesScalars_map (stepped_converted hrules .decrement)
  · exact givesScalars_map (addressed_converted hexpr)
  · exact givesScalars_none

end Factors

/-! ## Expressions -/

/-- A rule that completes converted beginnings to expressions that are fit to compute
with. -/
def CompletesScalars (settings : Settings) (rule : Rule) : Prop :=
  ∀ handoff?, (∀ handoff, handoff? = some handoff → handoff.Converted) →
    GivesScalars settings (rule handoff?)

theorem CompletesScalars.fresh {rule : Rule} (hrule : CompletesScalars settings rule) :
    GivesScalars settings (rule none) :=
  hrule none fun _ hhandoff => by contradiction

section Values

variable {expr : Parse (Option Expr)}

theorem factor_converted (hrules : settings.rules = .standard)
    (hexpr : GivesScalars settings expr) : CompletesScalars settings (factor expr) := by
  intro handoff? hhandoff
  cases handoff? with
  | none => exact freshFactor_converted hrules hexpr
  | some handoff =>
      cases handoff with
      | ident symbol span =>
          exact .bind (afterName_converted hexpr symbol span) fun found hfound =>
            givesScalars_some (Expr.widen_converted hfound)
      | element target =>
          exact givesScalars_some (Expr.widen_converted (read_converted (hhandoff _ rfl)))

theorem negated_converted (hrules : settings.rules = .standard)
    (hexpr : GivesScalars settings expr) :
    Gives settings Expr.ConvertedScalar (negated expr) := by
  unfold negated
  have hfactor : GivesScalars settings (factor expr none) :=
    (factor_converted hrules hexpr).fresh
  refine .after fun token => .after fun start => .bind (.orFail hfactor) fun operand hoperand =>
    .bind .read fun found hfound => .after fun _ => .pure ?_
  rw [hfound, hrules]
  have hty := judgeNot_standard_ty operand.ty
  refine .of_ty_ne ?_ (Expr.converted_node hty (List.Subset.refl _)
    (List.forall_mem_singleton.2 hoperand))
  change (TypeRules.standard.judgeNot operand.ty).ty ≠ .char
  rw [hty]
  split <;> decide

theorem value_converted (hrules : settings.rules = .standard)
    (hexpr : GivesScalars settings expr) : CompletesScalars settings (value expr) := by
  intro handoff? hhandoff
  cases handoff? with
  | some handoff => exact factor_converted hrules hexpr _ hhandoff
  | none =>
      unfold value
      refine .after fun kind => .ite (givesScalars_map (negated_converted hrules hexpr)) ?_
      exact (factor_converted hrules hexpr).fresh

theorem joined_converted (hrules : settings.rules = .standard) (operator : BinaryOp)
    {lhs rhs : Expr} (position : Position) (hlhs : lhs.ConvertedScalar)
    (hrhs : rhs.ConvertedScalar) :
    Gives settings Expr.ConvertedScalar (joined operator lhs rhs position) := by
  unfold joined
  refine .bind .read fun found hfound => .after fun _ => .after fun _ => .pure ?_
  rw [hfound, hrules]
  have hty := judgeBinary_standard_ty operator lhs.ty rhs.ty
  refine .of_ty_ne ?_ (Expr.converted_node hty (List.Subset.refl _)
    (List.forall_mem_cons.2 ⟨hlhs, List.forall_mem_singleton.2 hrhs⟩))
  change (TypeRules.standard.judgeBinary operator lhs.ty rhs.ty).ty ≠ .char
  rw [hty]
  split <;> decide

theorem operatorsAfter_converted (hrules : settings.rules = .standard) (level : Precedence)
    {operand : Parse (Option Expr)} (hoperand : GivesScalars settings operand) (budget : Nat)
    {lhs : Expr} (hlhs : lhs.ConvertedScalar) :
    Gives settings Expr.ConvertedScalar (operatorsAfter level operand budget lhs) := by
  induction budget generalizing lhs with
  | zero =>
      unfold operatorsAfter
      exact .pure hlhs
  | succ budget ih =>
      unfold operatorsAfter
      refine .after fun kind => ?_
      split
      · exact .pure hlhs
      · rename_i operator _
        refine .after fun token => .bind (.orFail hoperand) fun rhs hrhs => ?_
        exact .bind (joined_converted hrules operator _ hlhs hrhs) fun node hnode => ih hnode

theorem chain_converted (hrules : settings.rules = .standard) (level : Precedence)
    {operand : Rule} (hoperand : CompletesScalars settings operand) :
    CompletesScalars settings (chain level operand) := by
  intro handoff? hhandoff
  unfold chain
  refine .bind (hoperand handoff? hhandoff) fun lhs? hlhs? => ?_
  cases lhs? with
  | none => exact givesScalars_none
  | some lhs =>
      exact .after fun remaining => givesScalars_map
        (operatorsAfter_converted hrules level hoperand.fresh _ (hlhs? lhs rfl))

theorem orExpr_converted (hrules : settings.rules = .standard)
    (hexpr : GivesScalars settings expr) : CompletesScalars settings (orExpr expr) :=
  chain_converted hrules _ (chain_converted hrules _ (chain_converted hrules _
    (chain_converted hrules _ (chain_converted hrules _ (value_converted hrules hexpr)))))

end Values

theorem exprWithin_converted (hrules : settings.rules = .standard) (budget : Nat) :
    GivesScalars settings (exprWithin budget none) := by
  induction budget with
  | zero => exact .after fun position => .failAt
  | succ budget ih => exact (orExpr_converted hrules ih).fresh

theorem exprAfter_converted (hrules : settings.rules = .standard) :
    CompletesScalars settings exprAfter := by
  intro handoff? hhandoff
  exact .after fun remaining =>
    orExpr_converted hrules (exprWithin_converted hrules _) handoff? hhandoff

theorem expr_converted (hrules : settings.rules = .standard) : GivesScalars settings expr :=
  (exprAfter_converted hrules).fresh

theorem requireExpr_converted (hrules : settings.rules = .standard)
    (malformation : Malformation) :
    Gives settings Expr.ConvertedScalar (requireExpr malformation) :=
  .after fun _ => .orFail (expr_converted hrules)

/-! ## Statements -/

theorem coerce_converted (target : Ty) {value : Expr} (misuse : Ty → Ty → Misuse)
    (position : Position) (hvalue : value.Converted) :
    Gives settings Expr.Converted (coerce target value misuse position) := by
  unfold coerce
  refine .ite (.pure hvalue) ?_
  split
  · exact .pure (Expr.narrow_converted hvalue)
  · exact .pure (Expr.widen_converted hvalue.nodes).toConverted
  · exact .after fun _ => .pure hvalue

theorem initialValue_converted (hrules : settings.rules = .standard) (ty : Ty) :
    Gives settings (fun initial? => ∀ value, initial? = some value → value.Converted)
      (initialValue ty) := by
  unfold initialValue
  refine .after fun kind => .ite ?_ (.pure fun value hvalue => by contradiction)
  refine .after fun sign => .bind (requireExpr_converted hrules _) fun value hvalue => ?_
  refine .map (coerce_converted ty _ _ hvalue.toConverted) fun fitted hfitted found hfound => ?_
  cases hfound
  exact hfitted

theorem declarator_converted (hrules : settings.rules = .standard) (base : Ty) (name : Token)
    (start : Position) : Gives settings Declaration.Converted (declarator base name start) := by
  unfold declarator
  refine .after ?_
  rintro ⟨ty, size?⟩
  refine .ite .failAt ?_
  refine .after fun symbol => .bind (initialValue_converted hrules ty) fun initial? hinitial => ?_
  exact .after fun semicolon => .pure hinitial

theorem declaration_converted (hrules : settings.rules = .standard) :
    Gives settings Declaration.Converted declaration := by
  unfold declaration
  exact .after fun start => .after fun base => .after fun name =>
    declarator_converted hrules base name start

theorem condition_converted (hrules : settings.rules = .standard) :
    Gives settings Expr.ConvertedScalar condition := by
  unfold condition
  refine .after fun _ => .bind (requireExpr_converted hrules _) fun test htest => ?_
  exact .after fun _ => .after fun _ => .pure htest

theorem returned_converted (hrules : settings.rules = .standard) :
    Gives settings Stmt.Converted returned := by
  unfold returned
  refine .after fun word => .after fun _ => .bind (expr_converted hrules) fun value? hvalue => ?_
  cases value? with
  | some value =>
      refine .bind (coerce_converted _ _ _ (hvalue value rfl).toConverted) fun fitted hfitted => ?_
      exact .after fun semicolon => .pure hfitted
  | none => exact .after fun _ => .after fun semicolon => .pure trivial

theorem beginning_converted (hrules : settings.rules = .standard) (name : Token) :
    Gives settings Handoff.Converted (beginning name) := by
  unfold beginning
  have hreplaced : Gives settings Handoff.Converted
      (do return .ident (← get).symbols.placeholder name.span) :=
    .after fun _ => .pure trivial
  refine .after fun symbol => .after fun kind => .ite ?_ (.pure trivial)
  refine .after fun accepted => .ite ?_ (.after fun _ => hreplaced)
  have hsubscript : Gives settings Subscript.Converted
      (withExpr fun whole => subscript whole symbol name.span) :=
    .after fun _ => subscript_converted (exprWithin_converted hrules _) symbol name.span
  refine .bind hsubscript.attempt fun result hresult => ?_
  cases result with
  | ok target => exact .pure (hresult target rfl)
  | error failure => exact .after fun _ => hreplaced

theorem assignment_converted {target : Handoff} {value : Expr} (position : Position) (span : Span)
    (htarget : target.Converted) (hvalue : value.Converted) :
    Gives settings Stmt.Converted (assignment target value position span) := by
  unfold assignment
  cases target with
  | ident symbol _ =>
      exact .bind (coerce_converted _ _ _ hvalue) fun fitted hfitted => .pure hfitted
  | element target =>
      exact .bind (coerce_converted _ _ _ hvalue) fun fitted hfitted => .pure ⟨htarget, hfitted⟩

theorem namedStmt_converted (hrules : settings.rules = .standard) :
    Gives settings Stmt.Converted namedStmt := by
  unfold namedStmt
  refine .after fun name => .bind (beginning_converted hrules name) fun handoff hhandoff => ?_
  refine .after fun kind => .ite ?_ ?_
  · refine .after fun sign => .bind (requireExpr_converted hrules _) fun value hvalue => ?_
    exact .after fun semicolon => assignment_converted _ _ hhandoff hvalue.toConverted
  · have hexpr : GivesScalars settings (exprAfter (some handoff)) :=
      exprAfter_converted hrules _ fun _ hsome => by
        cases hsome
        exact hhandoff
    refine .bind (.orFail hexpr) fun found hfound => ?_
    exact .after fun semicolon => .pure hfound.toConverted

theorem evaluated_converted (hrules : settings.rules = .standard) :
    Gives settings Stmt.Converted evaluated := by
  unfold evaluated
  refine .after fun token => .bind (.orFail (expr_converted hrules)) fun found hfound => ?_
  exact .after fun semicolon => .pure hfound.toConverted

section Nested

variable {stmt : Parse Stmt}

theorem recoverStmt_converted (failure : Failure) :
    Gives settings Stmt.Converted (recoverStmt failure) := by
  unfold recoverStmt
  exact .after fun _ => .after fun _ => .pure trivial

theorem stmtsUntilClose_converted (hstmt : Gives settings Stmt.Converted stmt) (budget : Nat) :
    Gives settings Stmt.AllConverted (stmtsUntilClose stmt budget) := by
  induction budget with
  | zero =>
      unfold stmtsUntilClose
      exact .after fun _ => .failAt
  | succ budget ih =>
      unfold stmtsUntilClose
      refine .after fun kind => ?_
      split
      · exact .pure trivial
      · exact .after fun _ => .failAt
      · refine .bind hstmt.attempt fun result hresult => ?_
        cases result with
        | ok first => exact .bind ih fun others hothers => .pure ⟨hresult first rfl, hothers⟩
        | error failure =>
            refine .bind (recoverStmt_converted failure) fun first hfirst => ?_
            exact .bind ih fun others hothers => .pure ⟨hfirst, hothers⟩

theorem block_converted (hstmt : Gives settings Stmt.Converted stmt) :
    Gives settings (fun block => Stmt.AllConverted block.body) (block stmt) := by
  unfold block
  refine .after fun opening => .after fun _ =>
    .bind (stmtsUntilClose_converted hstmt _) fun body hbody => ?_
  exact .after fun closing => .pure hbody

theorem conditional_converted (hrules : settings.rules = .standard)
    (hstmt : Gives settings Stmt.Converted stmt) :
    Gives settings Stmt.Converted (conditional stmt) := by
  unfold conditional
  refine .after fun word => .bind (condition_converted hrules) fun test htest =>
    .bind hstmt fun accepted haccepted => .after fun otherwise => .ite ?_ ?_
  · exact .bind hstmt fun rejected hrejected => .pure ⟨htest, haccepted, hrejected⟩
  · exact .pure ⟨htest, haccepted⟩

theorem whileLoop_converted (hrules : settings.rules = .standard)
    (hstmt : Gives settings Stmt.Converted stmt) :
    Gives settings Stmt.Converted (whileLoop stmt) := by
  unfold whileLoop
  exact .after fun word => .bind (condition_converted hrules) fun test htest =>
    .bind hstmt fun body hbody => .pure ⟨htest, hbody⟩

theorem stmtWith_converted (hrules : settings.rules = .standard)
    (hstmt : Gives settings Stmt.Converted stmt) :
    Gives settings Stmt.Converted (stmtWith stmt) := by
  unfold stmtWith
  refine .after fun kind => ?_
  have hdeclaration : Gives settings Stmt.Converted (Stmt.declare <$> declaration) :=
    .map (declaration_converted hrules) fun _ hdeclaration => hdeclaration
  split
  · exact .map (.bracket (block_converted hstmt)) fun _ hblock => hblock
  · exact conditional_converted hrules hstmt
  · exact whileLoop_converted hrules hstmt
  · exact returned_converted hrules
  · exact .after fun token => .pure trivial
  · exact namedStmt_converted hrules
  · exact hdeclaration
  · exact hdeclaration
  · exact hdeclaration
  · exact evaluated_converted hrules

end Nested

theorem stmtWithin_converted (hrules : settings.rules = .standard) (budget : Nat) :
    Gives settings Stmt.Converted (stmtWithin budget) := by
  induction budget with
  | zero => exact .after fun position => .failAt
  | succ budget ih => exact stmtWith_converted hrules ih

/-! ## Programs -/

theorem function_converted (hrules : settings.rules = .standard) (returns : Ty) (name : Token)
    (start : Position) :
    Gives settings (fun defined => Stmt.AllConverted defined.body.body)
      (function returns name start) := by
  have hbody : Gives settings (fun block => Stmt.AllConverted block.body) (functionBody returns) :=
    .after fun _ => .after fun _ => block_converted (stmtWithin_converted hrules _)
  refine .after fun opening => .bracket ?_
  unfold functionRest
  refine .after fun params => .after fun closing => .after fun symbol => .after fun _ => ?_
  exact .bind hbody fun body hbody => .pure hbody

theorem external_converted (hrules : settings.rules = .standard) :
    Gives settings External.Converted external := by
  unfold external
  refine .after fun start => .after fun base => .after fun name => .after fun kind => .ite ?_ ?_
  · exact .map (function_converted hrules base name start) fun _ hdefined => hdefined
  · exact .map (declarator_converted hrules base name start) fun _ hdeclared => hdeclared

theorem externals_converted (hrules : settings.rules = .standard) (budget : Nat) :
    Gives settings (fun found => ∀ external ∈ found, external.Converted) (externals budget) := by
  induction budget with
  | zero => exact .pure (List.forall_mem_nil _)
  | succ budget ih =>
      unfold externals
      refine .after fun more => .ite ?_ (.pure (List.forall_mem_nil _))
      refine .bind (external_converted hrules).attempt fun result hresult => ?_
      cases result with
      | ok first =>
          exact .bind ih fun others hothers =>
            .pure (List.forall_mem_cons.2 ⟨hresult first rfl, hothers⟩)
      | error failure => exact .after fun _ => ih

theorem program_converted (hrules : settings.rules = .standard) :
    Gives settings Program.Converted program := by
  unfold program
  refine .after fun start => .after fun _ => .bind (externals_converted hrules _)
    fun externals hexternals => ?_
  exact .after fun stop => .after fun _ => .after fun _ => .pure hexternals

theorem journaled_converted (hrules : settings.rules = .standard) :
    Gives settings Program.Converted journaled := by
  unfold journaled
  refine .after fun _ => .after fun _ => .after fun _ =>
    .bind (program_converted hrules).attempt fun result hresult => ?_
  exact .after fun _ => .after fun _ => .ofAttempt hresult

end Parse

open Parse

/-- In every program that is parsed with the standard rules, with checks or without and
whatever was reported, operators have the type that the rules give them, conversions
convert, and no reading of a `char` stands unwidened. -/
theorem parsed_program_converted {settings : Settings} {tokens : List Token} {program : Program}
    {state : ParseState} (hrules : settings.rules = .standard)
    (hparse : parse settings tokens = (.ok program, state)) : program.Converted := by
  unfold parse run at hparse
  cases hrun : journaled settings (.ofTokens tokens settings.file) with
  | ok found next =>
      rw [hrun] at hparse
      cases hparse
      exact journaled_converted hrules hrun
  | error failure next =>
      rw [hrun] at hparse
      cases hparse

/-- A function with a widened operand, a narrowed value and argument, and a statement that
is passed over. -/
def convertedText : String :=
  "char c; int f(char d) \x7b c = !c + 'a'; f(g); f(2); d = ; return ++d; \x7d"

theorem convertedText_converted :
    ∃ tokens program state, tokenize convertedText "f.c" = .ok tokens ∧
      parse { file := "f.c" } tokens = (.ok program, state) ∧ state.journal.size = 2 ∧
      program.Converted := by
  have hreads : ((tokenize convertedText "f.c").toOption.any fun tokens => decide
      ((parse { file := "f.c" } tokens).1.toOption.isSome = true ∧
        (parse { file := "f.c" } tokens).2.journal.size = 2)) = true := by
    decide +kernel
  obtain ⟨tokens, htokens, hsome, hsize⟩ := exists_tokens hreads
  obtain ⟨program, hprogram⟩ := Option.isSome_iff_exists.1 hsome
  have hparse : parse { file := "f.c" } tokens =
      (.ok program, (parse { file := "f.c" } tokens).2) :=
    Prod.ext (eq_ok_of_toOption hprogram) rfl
  have hrules : ({ file := "f.c" } : Settings).rules = .standard := rfl
  have hconverted := parsed_program_converted hrules hparse
  exact ⟨tokens, program, _, htokens, hparse, hsize, hconverted⟩

end SubsetC
