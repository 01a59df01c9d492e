import SubsetC.Proofs.Relaxed
import SubsetC.Proofs.Shadows

/-!
# Expressions without checks

Without checks an expression is read as with checks, and its tree is the relaxed one.
An argument is narrowed only after it was read, so it suffices that no rule reads an
expression that is narrowed already.
-/

namespace SubsetC

def Handoff.relaxed : Handoff → Handoff
  | .ident symbol span => .ident symbol span
  | .element target => .element target.relaxed

namespace Parse

variable {settings : Settings}

/-! ## No expression is read narrowed -/

/-- What a parse of expressions gives, if it matches, is not narrowed. -/
def GivesUnnarrowed (settings : Settings) (parse : Parse (Option Expr)) : Prop :=
  Gives settings (fun tree? => ∀ tree, tree? = some tree → tree.Unnarrowed) parse

theorem givesUnnarrowed_map {parse : Parse Expr} (hparse : Gives settings Expr.Unnarrowed parse) :
    GivesUnnarrowed settings (some <$> parse) := by
  refine .map hparse fun tree htree found hfound => ?_
  cases hfound
  exact htree

theorem afterName_unnarrowed (expr : Parse (Option Expr)) (symbol : Symbol) (span : Span) :
    Gives settings Expr.Unnarrowed (afterName expr symbol span) := by
  have hplaceholder : Gives settings Expr.Unnarrowed (placeholder span) :=
    .after fun _ => .pure rfl
  unfold afterName element call checkedCall
  refine .after fun kind => ?_
  split
  · refine .after fun accepted => .ite (.after fun result => ?_) (.after fun _ => hplaceholder)
    cases result with
    | ok target => exact .pure rfl
    | error failure => exact .after fun _ => hplaceholder
  · refine .after fun settings => .ite ?_ ?_
    · exact .after fun _ => .after fun _ => .after fun _ => hplaceholder
    · refine .after fun settings => .after fun _ => .after fun opening =>
        .after ?_
      rintro ⟨kept, closing⟩
      cases closing with
      | ok close => exact .after fun _ => .pure rfl
      | error failure => exact .after fun _ => .after fun _ => .pure rfl
  · exact .pure rfl

theorem stepped_unnarrowed (operator : Step) :
    Gives settings Expr.Unnarrowed (stepped operator) := by
  unfold stepped
  exact .after fun token => .after fun start => .after fun name => .after fun symbol =>
    .after fun settings => .after fun _ => .pure (.widen rfl)

section

variable {expr : Parse (Option Expr)}

theorem freshFactor_unnarrowed (hexpr : GivesUnnarrowed settings expr) :
    GivesUnnarrowed settings (freshFactor expr) := by
  unfold freshFactor
  refine .after fun kind => ?_
  split
  · refine givesUnnarrowed_map (.after fun name => .after fun symbol => ?_)
    exact .bind (afterName_unnarrowed expr symbol name.span) fun found hfound =>
      .pure hfound.widen
  · exact givesUnnarrowed_map (.after fun token => .after fun id => .pure rfl)
  · refine givesUnnarrowed_map (.after fun token => ?_)
    split
    · exact .pure rfl
    · exact .failAt
  · refine givesUnnarrowed_map (.after fun _ => .after fun start =>
      .bind (.orFail hexpr) fun inner hinner => ?_)
    exact .after fun _ => .pure hinner
  · exact givesUnnarrowed_map (stepped_unnarrowed .increment)
  · exact givesUnnarrowed_map (stepped_unnarrowed .decrement)
  · refine givesUnnarrowed_map (.after fun token => .after fun start => .after fun name =>
      .after fun symbol => .after fun kind => .ite ?_ (.after fun _ => .failAt))
    exact .after fun accepted => .after fun _ => .after fun target => .after fun _ => .pure rfl
  · exact .pure fun tree htree => by contradiction

theorem value_unnarrowed (hexpr : GivesUnnarrowed settings expr) (handoff? : Option Handoff) :
    GivesUnnarrowed settings (value expr handoff?) := by
  cases handoff? with
  | none =>
      unfold value
      refine .after fun kind => .ite (givesUnnarrowed_map ?_) (freshFactor_unnarrowed hexpr)
      exact .after fun token => .after fun start => .after fun operand => .after fun settings =>
        .after fun _ => .pure rfl
  | some handoff =>
      cases handoff with
      | ident symbol span =>
          refine .bind (afterName_unnarrowed expr symbol span) fun found hfound => .pure ?_
          rintro tree ⟨⟩
          exact hfound.widen
      | element target =>
          refine .pure ?_
          rintro tree ⟨⟩
          exact .widen rfl

theorem operatorsAfter_unnarrowed (level : Precedence) (operand : Parse (Option Expr))
    (budget : Nat) {lhs : Expr} (hlhs : lhs.Unnarrowed) :
    Gives settings Expr.Unnarrowed (operatorsAfter level operand budget lhs) := by
  induction budget generalizing lhs with
  | zero =>
      unfold operatorsAfter
      exact .pure hlhs
  | succ budget ih =>
      unfold operatorsAfter
      refine .after fun kind => ?_
      split
      · exact .pure hlhs
      · have hjoined (operator : BinaryOp) (rhs : Expr) (position : Position) :
            Gives settings Expr.Unnarrowed (joined operator lhs rhs position) :=
          .after fun settings => .after fun _ => .after fun _ => .pure rfl
        exact .after fun token => .after fun rhs => .bind (hjoined _ _ _) fun node hnode => ih hnode

theorem chain_unnarrowed (level : Precedence) {operand : Rule}
    (hoperand : ∀ handoff?, GivesUnnarrowed settings (operand handoff?))
    (handoff? : Option Handoff) : GivesUnnarrowed settings (chain level operand handoff?) := by
  unfold chain
  refine .bind (hoperand handoff?) fun lhs? hlhs? => ?_
  cases lhs? with
  | none => exact .pure fun tree htree => by contradiction
  | some lhs =>
      exact .after fun remaining =>
        givesUnnarrowed_map (operatorsAfter_unnarrowed level _ _ (hlhs? lhs rfl))

theorem orExpr_unnarrowed (hexpr : GivesUnnarrowed settings expr) (handoff? : Option Handoff) :
    GivesUnnarrowed settings (orExpr expr handoff?) :=
  chain_unnarrowed _ (chain_unnarrowed _ (chain_unnarrowed _ (chain_unnarrowed _
    (chain_unnarrowed _ (value_unnarrowed hexpr))))) handoff?

end

theorem exprWithin_unnarrowed (budget : Nat) :
    GivesUnnarrowed settings (exprWithin budget none) := by
  induction budget with
  | zero => exact .after fun position => .failAt
  | succ budget ih => exact orExpr_unnarrowed ih none

/-! ## Factors -/

/-- Without checks a parse of expressions gives the relaxed tree. -/
abbrev Relaxes (settings : Settings) (parse : Parse (Option Expr)) : Prop :=
  Shadows settings (Option.map Expr.relaxed) parse parse

theorem relaxes_map {parse shadow : Parse Expr}
    (hparse : Shadows settings Expr.relaxed parse shadow) :
    Shadows settings (Option.map Expr.relaxed) (some <$> parse) (some <$> shadow) :=
  hparse.map fun _ => rfl

section Factors

variable {expr : Parse (Option Expr)}

/-- Without checks every symbol may be subscripted. -/
theorem acceptsSubscript_shadows (symbol : Symbol) :
    Shadows settings (fun _ => true) (acceptsSubscript symbol) (acceptsSubscript symbol) :=
  read_shadows.bind fun _ => .pure _

theorem subscript_shadows (hexpr : Relaxes settings expr) (array : Symbol) (span : Span) :
    Shadows settings Subscript.relaxed (subscript expr array span)
      (subscript expr array span) := by
  unfold subscript
  refine (expect_shadows _).bind fun _ => position_shadows.bind fun start =>
    (hexpr.orFail _).bind fun index => (expect_shadows _).bind fun close =>
      (reportUnless_shadows _ _ _ _ _ _).bind fun _ => ?_
  exact .pure (Subscript.mk array index (span.through close.span))

theorem placeholder_relaxed (span : Span) :
    Shadows settings Expr.relaxed (placeholder span) (placeholder span) :=
  .get_bind fun _ _ hstate => by
    rw [hstate.symbols]
    exact .pure (Expr.ident _ span)

theorem rejectSubscript_shadows {α β : Type} {f : α → β} (hchecks : settings.checks = true)
    (symbol : Symbol) (span : Span) (continued : Parse α) [Respects KeepsReports continued]
    (shadow : Parse β) :
    Shadows settings f (do rejectSubscript symbol span; continued) shadow := by
  unfold rejectSubscript
  rw [bind_assoc]
  exact .of_rejects hchecks rfl _ shadow

theorem element_shadows (hchecks : settings.checks = true) (hexpr : Relaxes settings expr)
    (array : Symbol) (span : Span) :
    Shadows settings Expr.relaxed (element expr array span) (element expr array span) := by
  unfold element
  refine (acceptsSubscript_shadows array).bind fun accepted => ?_
  cases accepted with
  | true =>
      refine (subscript_shadows hexpr array span).attempt.bind fun result => ?_
      cases result with
      | ok target => exact .pure target.read
      | error failure =>
          exact (recoverPast_shadows _ failure).bind fun _ => placeholder_relaxed span
  | false => exact rejectSubscript_shadows hchecks array span _ _

/-- A narrowed argument is the one that was read, and so is any other. -/
theorem checkArgument_shadows (check : CallCheck) (callee : Symbol) (index : Nat) {argument : Expr}
    (hargument : argument.Unnarrowed) :
    Shadows settings (fun kept => kept.unnarrowed.relaxed)
      (checkArgument check callee index argument)
      (checkArgument .unchecked callee index argument.relaxed) := by
  have hkept : Shadows settings (fun kept : Expr => kept.unnarrowed.relaxed) (pure argument)
      (pure argument.relaxed) :=
    .pure_of (congrArg Expr.relaxed hargument)
  have hreported (condition : Bool) (misuse : Misuse) (position : Position) :
      Shadows settings (fun kept : Expr => kept.unnarrowed.relaxed)
        (do reportUnless condition misuse position; return argument) (pure argument.relaxed) := by
    rw [← pure_bind PUnit.unit fun _ => pure argument.relaxed]
    exact (reportUnless_shadowed condition misuse position).bind fun _ => hkept
  unfold checkArgument
  cases check with
  | unchecked => exact hkept
  | format => exact hreported _ _ _
  | against signature =>
      cases hparameter : signature.params[index]? with
      | none =>
          simp only [hparameter]
          exact hreported _ _ _
      | some parameter =>
          simp only [hparameter]
          split
          · exact .pure_of (congrArg Expr.relaxed hargument.unnarrowed_narrow)
          · exact hreported _ _ _

/-- The arguments as they were read, and what follows them. -/
def relaxedResult (result : List Expr × Except Failure Token) :
    List Expr × Except Failure Token :=
  (Expr.relaxedArguments result.1, result.2)

theorem argumentsFrom_shadows (hexpr : Relaxes settings expr)
    (hunnarrowed : GivesUnnarrowed settings expr) (check : CallCheck) (callee : Symbol)
    (budget index : Nat) :
    Shadows settings relaxedResult (argumentsFrom expr check callee budget index)
      (argumentsFrom expr .unchecked callee budget index) := by
  induction budget generalizing index with
  | zero =>
      unfold argumentsFrom
      exact current_shadows.bind fun token => .pure ([], Except.error (mismatch .closeParen token))
  | succ budget ih =>
      unfold argumentsFrom
      refine position_shadows.bind fun start => (hexpr.orFail _).attempt.bind_gives
        (Gives.orFail hunnarrowed).attempt fun result hresult => ?_
      cases result with
      | error failure => exact .pure ([], Except.error failure)
      | ok argument =>
          refine (checkArgument_shadows check callee index (hresult argument rfl)).bind fun kept =>
            (accept_shadows _).bind fun more => .ite ?_ ?_
          · refine (ih (index + 1)).bind ?_
            rintro ⟨others, closing⟩
            refine .pure_of ?_
            rw [relaxedResult, Expr.relaxedArguments_cons]
          · refine (expect_shadows _).attempt_itself.bind fun closing => ?_
            refine .pure_of ?_
            rw [relaxedResult, Expr.relaxedArguments_cons]
            rfl

theorem arguments_shadows (hexpr : Relaxes settings expr)
    (hunnarrowed : GivesUnnarrowed settings expr) (check : CallCheck) (callee : Symbol) :
    Shadows settings relaxedResult (arguments expr check callee)
      (arguments expr .unchecked callee) := by
  unfold arguments
  refine kind_shadows.bind fun found => .ite ?_ ?_
  · exact (expect_shadows _).attempt_itself.bind fun closing => .pure ([], closing)
  · exact remaining_shadows.bind fun count =>
      argumentsFrom_shadows hexpr hunnarrowed check callee _ _

theorem noteCallee_shadows (callee : Symbol) : ShadowsItself settings (noteCallee callee) := by
  unfold noteCallee
  exact .ite markPrintf_shadows (.pure _)

theorem checkCount_shadows (check : CallCheck) (callee : Symbol) (count : Nat)
    (opening stop : Position) :
    Shadows settings id (checkCount check callee count opening stop) (pure ⟨⟩) := by
  unfold checkCount
  cases check with
  | unchecked => exact .pure _
  | format => exact reportUnless_shadowed _ _ _
  | against signature => exact reportUnless_shadowed _ _ _

theorem ofCallee_unchecked (callee : Symbol) : CallCheck.ofCallee false callee = .unchecked := by
  unfold CallCheck.ofCallee
  cases callee.signature? <;> rfl

theorem checkedCall_shadows (hexpr : Relaxes settings expr)
    (hunnarrowed : GivesUnnarrowed settings expr) (callee : Symbol) (span : Span) :
    Shadows settings Expr.relaxed (checkedCall expr callee span)
      (checkedCall expr callee span) := by
  unfold checkedCall
  refine read_shadows.bind fun found => ?_
  have hunchecked : CallCheck.ofCallee found.unchecked.checks callee = .unchecked :=
    ofCallee_unchecked callee
  rw [hunchecked]
  have hcount (kept : List Expr) (opening stop : Position) (span : Span) :
      Shadows settings Expr.relaxed
        (do
          checkCount (.ofCallee found.checks callee) callee kept.length opening stop
          return .call callee kept span)
        (pure (.call callee (Expr.relaxedArguments kept) span)) := by
    rw [← pure_bind PUnit.unit fun _ => pure (Expr.call callee (Expr.relaxedArguments kept) span)]
    exact (checkCount_shadows _ _ _ _ _).bind fun _ => .pure (Expr.call callee kept span)
  refine (noteCallee_shadows callee).bind fun _ => (expect_shadows _).bind fun opening =>
    (arguments_shadows hexpr hunnarrowed _ callee).bind ?_
  rintro ⟨kept, closing⟩
  cases closing with
  | ok close => exact hcount kept _ _ _
  | error failure => exact (recoverPast_shadows _ failure).bind fun _ => hcount kept _ _ _

theorem call_shadows (hchecks : settings.checks = true) (hexpr : Relaxes settings expr)
    (hunnarrowed : GivesUnnarrowed settings expr) (callee : Symbol) (span : Span) :
    Shadows settings Expr.relaxed (call expr callee span) (call expr callee span) := by
  unfold call
  refine read_shadows.bind fun found => ?_
  have hunchecked : ¬ (found.unchecked.checks = true ∧ callee.signature?.isNone ∧
      !callee.isDummy) := fun h => Bool.false_ne_true h.1
  rw [if_neg hunchecked]
  split
  · exact .of_rejects hchecks rfl _ _
  · exact checkedCall_shadows hexpr hunnarrowed callee span

theorem afterName_shadows (hchecks : settings.checks = true) (hexpr : Relaxes settings expr)
    (hunnarrowed : GivesUnnarrowed settings expr) (symbol : Symbol) (span : Span) :
    Shadows settings Expr.relaxed (afterName expr symbol span) (afterName expr symbol span) := by
  unfold afterName
  refine kind_shadows.bind fun found => ?_
  dsimp only [id]
  split
  · exact element_shadows hchecks hexpr symbol span
  · exact call_shadows hchecks hexpr hunnarrowed symbol span
  · exact .pure (Expr.ident symbol span)

theorem pure_widen_shadows (e : Expr) :
    Shadows settings Expr.relaxed (pure e.widen) (pure e.relaxed.widen) := by
  rw [← Expr.relaxed_widen]
  exact .pure e.widen

theorem named_shadows (hchecks : settings.checks = true) (hexpr : Relaxes settings expr)
    (hunnarrowed : GivesUnnarrowed settings expr) :
    Shadows settings Expr.relaxed (named expr) (named expr) := by
  unfold named
  refine advance_shadows.bind fun name => (resolve_shadows _ _).bind fun symbol => ?_
  exact (afterName_shadows hchecks hexpr hunnarrowed symbol name.span).bind pure_widen_shadows

theorem stringLiteral_shadows :
    Shadows settings Expr.relaxed stringLiteral stringLiteral := by
  unfold stringLiteral
  exact advance_shadows.bind fun token => (intern_shadows token.text).bind fun id =>
    .pure (Expr.string token.text id token.span)

theorem constant_shadows : Shadows settings Expr.relaxed constant constant := by
  unfold constant
  refine advance_shadows.bind fun token => ?_
  dsimp only [id]
  split
  · exact .pure (Expr.constant _ _ token.span)
  · exact .failAt _ _

theorem parenthesized_shadows (hexpr : Relaxes settings expr) :
    Shadows settings Expr.relaxed (parenthesized expr) (parenthesized expr) := by
  unfold parenthesized
  refine advance_shadows.bind fun _ => position_shadows.bind fun start =>
    (hexpr.orFail _).bind fun inner => ?_
  exact (expect_shadows _).bind fun _ => .pure inner

theorem stepped_shadows (operator : Step) :
    Shadows settings Expr.relaxed (stepped operator) (stepped operator) := by
  unfold stepped
  refine advance_shadows.bind fun token => position_shadows.bind fun start =>
    (expectOr_shadows _ _).bind fun name => (resolve_shadows _ _).bind fun symbol =>
      read_shadows.bind fun found => (reportUnless_shadows _ _ _ _ _ _).bind fun _ => ?_
  exact pure_widen_shadows (.step operator symbol _ _)

theorem addressed_shadows (hexpr : Relaxes settings expr) :
    Shadows settings Expr.relaxed (addressed expr) (addressed expr) := by
  unfold addressed
  refine advance_shadows.bind fun token => position_shadows.bind fun start =>
    (expectOr_shadows _ _).bind fun name => (resolve_shadows _ _).bind fun symbol =>
      kind_shadows.bind fun found => .ite ?_ (position_shadows.bind fun _ => .failAt _ _)
  refine (acceptsSubscript_shadows symbol).bind fun accepted =>
    (reportUnless_shadows _ _ _ _ _ _).bind fun _ =>
      (subscript_shadows hexpr symbol name.span).bind fun target => (note_shadows _ _).bind fun _ =>
        ?_
  exact .pure (Expr.address target.array target.index target.span
    (token.span.through target.span))

theorem freshFactor_shadows (hchecks : settings.checks = true) (hexpr : Relaxes settings expr)
    (hunnarrowed : GivesUnnarrowed settings expr) : Relaxes settings (freshFactor expr) := by
  unfold freshFactor
  refine kind_shadows.bind fun found => ?_
  dsimp only [id]
  split
  · exact relaxes_map (named_shadows hchecks hexpr hunnarrowed)
  · exact relaxes_map stringLiteral_shadows
  · exact relaxes_map constant_shadows
  · exact relaxes_map (parenthesized_shadows hexpr)
  · exact relaxes_map (stepped_shadows .increment)
  · exact relaxes_map (stepped_shadows .decrement)
  · exact relaxes_map (addressed_shadows hexpr)
  · exact .pure none

end Factors

/-! ## Expressions -/

/-- A rule that is handed the same beginning without checks, relaxed. -/
def RelaxesAfter (settings : Settings) (rule : Rule) : Prop :=
  ∀ handoff?, Shadows settings (Option.map Expr.relaxed) (rule handoff?)
    (rule (handoff?.map Handoff.relaxed))

section Values

variable {expr : Parse (Option Expr)}

theorem factor_shadows (hchecks : settings.checks = true) (hexpr : Relaxes settings expr)
    (hunnarrowed : GivesUnnarrowed settings expr) : RelaxesAfter settings (factor expr) := by
  intro handoff?
  cases handoff? with
  | none => exact freshFactor_shadows hchecks hexpr hunnarrowed
  | some handoff =>
      cases handoff with
      | ident symbol span =>
          refine (afterName_shadows hchecks hexpr hunnarrowed symbol span).bind fun found => ?_
          exact relaxes_map (pure_widen_shadows found)
      | element target => exact relaxes_map (pure_widen_shadows target.read)

theorem negated_shadows (hchecks : settings.checks = true) (hexpr : Relaxes settings expr)
    (hunnarrowed : GivesUnnarrowed settings expr) :
    Shadows settings Expr.relaxed (negated expr) (negated expr) := by
  unfold negated
  have hfactor : Relaxes settings (factor expr none) :=
    factor_shadows hchecks hexpr hunnarrowed none
  refine advance_shadows.bind fun token => position_shadows.bind fun start =>
    (hfactor.orFail _).bind fun operand => read_shadows.bind fun found =>
      (reportUnless_shadows _ _ _ _ _ _).bind fun _ => ?_
  simp only [Expr.relaxed_ty, Expr.relaxed_span]
  exact .pure (Expr.not operand _ _)

theorem value_shadows (hchecks : settings.checks = true) (hexpr : Relaxes settings expr)
    (hunnarrowed : GivesUnnarrowed settings expr) : RelaxesAfter settings (value expr) := by
  intro handoff?
  have hfactor := factor_shadows hchecks hexpr hunnarrowed handoff?
  cases handoff? with
  | some handoff => exact hfactor
  | none =>
      unfold value
      have hnegated := relaxes_map (negated_shadows hchecks hexpr hunnarrowed)
      exact kind_shadows.bind fun found => .ite hnegated hfactor

theorem joined_shadows (operator : BinaryOp) (lhs rhs : Expr) (position : Position) :
    Shadows settings Expr.relaxed (joined operator lhs rhs position)
      (joined operator lhs.relaxed rhs.relaxed position) := by
  unfold joined
  refine read_shadows.bind fun found => (reportUnless_shadows _ _ _ _ _ _).bind fun _ =>
    (note_shadows _ _).bind fun _ => ?_
  simp only [Expr.relaxed_ty]
  exact .pure (Expr.binary operator lhs rhs _)

theorem operatorsAfter_shadows (level : Precedence) {operand : Parse (Option Expr)}
    (hoperand : Relaxes settings operand) (budget : Nat) (lhs : Expr) :
    Shadows settings Expr.relaxed (operatorsAfter level operand budget lhs)
      (operatorsAfter level operand budget lhs.relaxed) := by
  induction budget generalizing lhs with
  | zero =>
      unfold operatorsAfter
      exact .pure lhs
  | succ budget ih =>
      unfold operatorsAfter
      refine kind_shadows.bind fun found => ?_
      dsimp only [id]
      split
      · exact .pure lhs
      · refine advance_shadows.bind fun token => (hoperand.orFail _).bind fun rhs => ?_
        exact (joined_shadows _ lhs rhs _).bind ih

theorem chain_shadows (level : Precedence) {operand : Rule}
    (hoperand : RelaxesAfter settings operand) : RelaxesAfter settings (chain level operand) := by
  intro handoff?
  unfold chain
  refine (hoperand handoff?).bind fun lhs? => ?_
  cases lhs? with
  | none => exact .pure none
  | some lhs =>
      exact remaining_shadows.bind fun count =>
        relaxes_map (operatorsAfter_shadows level (hoperand none) count lhs)

theorem orExpr_shadows (hchecks : settings.checks = true) (hexpr : Relaxes settings expr)
    (hunnarrowed : GivesUnnarrowed settings expr) : RelaxesAfter settings (orExpr expr) :=
  chain_shadows _ (chain_shadows _ (chain_shadows _ (chain_shadows _
    (chain_shadows _ (value_shadows hchecks hexpr hunnarrowed)))))

end Values

theorem exprWithin_shadows (hchecks : settings.checks = true) (budget : Nat) :
    Relaxes settings (exprWithin budget none) := by
  induction budget with
  | zero => exact position_shadows.bind fun start => .failAt _ _
  | succ budget ih => exact orExpr_shadows hchecks ih (exprWithin_unnarrowed budget) none

theorem exprAfter_shadows (hchecks : settings.checks = true) : RelaxesAfter settings exprAfter := by
  intro handoff?
  refine remaining_shadows.bind fun count => ?_
  exact orExpr_shadows hchecks (exprWithin_shadows hchecks _) (exprWithin_unnarrowed _) handoff?

theorem expr_shadows (hchecks : settings.checks = true) : Relaxes settings expr :=
  exprAfter_shadows hchecks none

theorem requireExpr_shadows (hchecks : settings.checks = true) (malformation : Malformation) :
    Shadows settings Expr.relaxed (requireExpr malformation) (requireExpr malformation) :=
  position_shadows.bind fun _ => (expr_shadows hchecks).orFail _

end Parse

end SubsetC
