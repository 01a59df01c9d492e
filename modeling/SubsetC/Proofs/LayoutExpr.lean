import SubsetC.Parse.Expr
import SubsetC.Proofs.Layout

/-!
# Layout of expressions

An expression that is read without places is the placeless tree of the one that is read with
them.  The checks on the way ask for types and never for places.
-/

namespace SubsetC.Parse

/-- Without places a parse of expressions gives the placeless tree. -/
abbrev BlindExpr (parse : Parse (Option Expr)) : Prop :=
  Blind (Option.map Expr.placeless) parse parse

theorem blindExpr_map {parse : Parse Expr} (hparse : Blind Expr.placeless parse parse) :
    BlindExpr (some <$> parse) :=
  hparse.map fun _ => rfl

theorem pure_widen_blind (e : Expr) :
    Blind Expr.placeless (pure e.widen) (pure e.placeless.widen) :=
  .pure_of e.placeless_widen

/-! ## Factors -/

section Factors

variable {whole : Parse (Option Expr)}

theorem acceptsSubscript_blind (symbol : Symbol) :
    Blind (fun accepted => accepted) (acceptsSubscript symbol) (acceptsSubscript symbol) := by
  unfold acceptsSubscript
  apply read_blind.bind
  intro given
  exact .pure _

theorem subscript_blind (hwhole : BlindExpr whole) (array : Symbol) (span : Span) :
    Blind Subscript.placeless (subscript whole array span) (subscript whole array .nowhere) := by
  unfold subscript
  apply (expect_blind _).bind
  intro opening
  apply position_blind.bind
  intro start
  apply (hwhole.orFail _).bind
  intro index
  apply (expect_blind _).bind
  intro close
  rw [Expr.placeless_ty]
  apply (reportUnless_blind _ _ start).bind
  intro _
  exact .pure (Subscript.mk array index (span.through close.span))

theorem rejectSubscript_blind (symbol : Symbol) (span : Span) :
    Blind (fun value => value) (rejectSubscript symbol span) (rejectSubscript symbol .nowhere) := by
  unfold rejectSubscript
  apply (reportMisuse_blind _ span.start).bind
  intro _
  exact skipPast_blind _

theorem element_blind (hwhole : BlindExpr whole) (array : Symbol) (span : Span) :
    Blind Expr.placeless (element whole array span) (element whole array .nowhere) := by
  unfold element
  apply (acceptsSubscript_blind array).bind
  intro accepted
  apply Blind.ite
  · apply (subscript_blind hwhole array span).attempt.bind
    intro result
    cases result with
    | ok target => exact .pure target.read
    | error failure =>
        apply (recoverPast_blind _ failure).bind
        intro _
        exact placeholder_blind span
  · apply (rejectSubscript_blind array span).bind
    intro _
    exact placeholder_blind span

theorem checkArgument_blind (check : CallCheck) (callee : Symbol) (index : Nat)
    (argument : Expr) :
    Blind Expr.placeless (checkArgument check callee index argument)
      (checkArgument check callee index argument.placeless) := by
  have hreported (condition : Bool) (misuse : Misuse) :
      Blind Expr.placeless
        (do reportUnless condition misuse argument.start; return argument)
        (do reportUnless condition misuse .nowhere; return argument.placeless) := by
    apply (reportUnless_blind condition misuse argument.start).bind
    intro _
    exact .pure argument
  unfold checkArgument
  simp only [Expr.placeless_ty, Expr.placeless_start]
  cases check with
  | unchecked => exact .pure argument
  | format => exact hreported _ _
  | against signature =>
      cases hparameter : signature.params[index]? with
      | none =>
          simp only [hparameter]
          exact hreported _ _
      | some parameter =>
          simp only [hparameter]
          apply Blind.ite
          · exact .pure_of argument.placeless_narrow
          · exact hreported _ _

theorem checkCount_blind (check : CallCheck) (callee : Symbol) (count : Nat)
    (opening stop : Position) :
    Blind (fun value => value) (checkCount check callee count opening stop)
      (checkCount check callee count .nowhere .nowhere) := by
  unfold checkCount
  cases check with
  | unchecked => exact .pure _
  | format => exact reportUnless_blind _ _ opening
  | against signature => exact reportUnless_blind _ _ stop

/-- The arguments of a call and what follows them, without places. -/
def placelessArguments (result : List Expr × Except Failure Token) :
    List Expr × Except Failure Token :=
  (Expr.allPlaceless result.1, placelessOutcome Token.placeless result.2)

theorem argumentsFrom_blind (hwhole : BlindExpr whole) (check : CallCheck) (callee : Symbol)
    (budget index : Nat) :
    Blind placelessArguments (argumentsFrom whole check callee budget index)
      (argumentsFrom whole check callee budget index) := by
  induction budget generalizing index with
  | zero =>
      unfold argumentsFrom
      apply current_blind.bind
      intro found
      exact .pure ([], Except.error (mismatch .closeParen found))
  | succ budget ih =>
      unfold argumentsFrom
      apply position_blind.bind
      intro start
      apply (hwhole.orFail _).attempt.bind
      intro result
      cases result with
      | error failure => exact .pure ([], Except.error failure)
      | ok argument =>
          apply (checkArgument_blind check callee index argument).bind
          intro kept
          apply (accept_blind _).bind
          intro more
          apply Blind.ite
          · apply (ih (index + 1)).bind
            rintro ⟨others, closing⟩
            exact .pure (kept :: others, closing)
          · apply (expect_blind _).attempt.bind
            intro closing
            exact .pure ([kept], closing)

theorem arguments_blind (hwhole : BlindExpr whole) (check : CallCheck) (callee : Symbol) :
    Blind placelessArguments (arguments whole check callee) (arguments whole check callee) := by
  unfold arguments
  apply kind_blind.bind
  intro found
  apply Blind.ite
  · apply (expect_blind _).attempt.bind
    intro closing
    exact .pure ([], closing)
  · apply remaining_blind.bind
    intro count
    exact argumentsFrom_blind hwhole check callee _ _

theorem noteCallee_blind (callee : Symbol) :
    Blind (fun value => value) (noteCallee callee) (noteCallee callee) := by
  unfold noteCallee
  exact .ite markPrintf_blind (.pure _)

theorem checkedCall_blind (hwhole : BlindExpr whole) (callee : Symbol) (span : Span) :
    Blind Expr.placeless (checkedCall whole callee span)
      (checkedCall whole callee .nowhere) := by
  have hcount (check : CallCheck) (values : List Expr) (opening stop : Position) (span : Span) :
      Blind Expr.placeless
        (do
          checkCount check callee values.length opening stop
          return .call callee values span)
        (do
          checkCount check callee (Expr.allPlaceless values).length .nowhere .nowhere
          return .call callee (Expr.allPlaceless values) .nowhere) := by
    rw [Expr.length_allPlaceless]
    apply (checkCount_blind check callee values.length opening stop).bind
    intro _
    exact .pure (Expr.call callee values span)
  unfold checkedCall
  apply read_blind.bind
  intro given
  apply (noteCallee_blind callee).bind
  intro _
  apply (expect_blind _).bind
  intro opening
  apply (arguments_blind hwhole _ callee).bind
  rintro ⟨values, closing⟩
  cases closing with
  | ok close => exact hcount _ values opening.span.start close.span.start _
  | error failure =>
      apply (recoverPast_blind _ failure).bind
      intro _
      exact hcount _ values opening.span.start failure.position span

theorem call_blind (hwhole : BlindExpr whole) (callee : Symbol) (span : Span) :
    Blind Expr.placeless (call whole callee span) (call whole callee .nowhere) := by
  unfold call
  apply read_blind.bind
  intro given
  apply Blind.ite
  · apply (reportMisuse_blind _ span.start).bind
    intro _
    apply (skipPast_blind _).bind
    intro _
    apply (skipPast_blind _).bind
    intro _
    exact placeholder_blind span
  · exact checkedCall_blind hwhole callee span

theorem afterName_blind (hwhole : BlindExpr whole) (symbol : Symbol) (span : Span) :
    Blind Expr.placeless (afterName whole symbol span) (afterName whole symbol .nowhere) := by
  unfold afterName
  apply kind_blind.bind
  intro found
  split
  · exact element_blind hwhole symbol span
  · exact call_blind hwhole symbol span
  · exact .pure (Expr.ident symbol span)

theorem named_blind (hwhole : BlindExpr whole) :
    Blind Expr.placeless (named whole) (named whole) := by
  unfold named
  apply advance_blind.bind
  intro name
  apply (resolve_blind name.text name.span.start).bind
  intro symbol
  apply (afterName_blind hwhole symbol name.span).bind
  exact pure_widen_blind

theorem stringLiteral_blind : Blind Expr.placeless stringLiteral stringLiteral := by
  unfold stringLiteral
  apply advance_blind.bind
  intro token
  apply (intern_blind token.text).bind
  intro id
  exact .pure (Expr.string token.text id token.span)

theorem constant_blind : Blind Expr.placeless constant constant := by
  unfold constant
  apply advance_blind.bind
  intro token
  rw [Token.placeless_text]
  cases Constant.ofText token.text with
  | ok constant => exact .pure (Expr.constant constant.value constant.ty token.span)
  | error fault => exact .failAt fault _

theorem parenthesized_blind (hwhole : BlindExpr whole) :
    Blind Expr.placeless (parenthesized whole) (parenthesized whole) := by
  unfold parenthesized
  apply advance_blind.bind
  intro opening
  apply position_blind.bind
  intro start
  apply (hwhole.orFail _).bind
  intro inner
  apply (expect_blind _).bind
  intro close
  exact .pure inner

theorem stepped_blind (operator : Step) :
    Blind Expr.placeless (stepped operator) (stepped operator) := by
  unfold stepped
  apply advance_blind.bind
  intro token
  apply position_blind.bind
  intro start
  apply (expectOr_blind _ _).bind
  intro name
  apply (resolve_blind name.text name.span.start).bind
  intro symbol
  apply read_blind.bind
  intro given
  apply (reportUnless_blind _ _ token.span.start).bind
  intro _
  exact pure_widen_blind (.step operator symbol _ _)

theorem addressed_blind (hwhole : BlindExpr whole) :
    Blind Expr.placeless (addressed whole) (addressed whole) := by
  unfold addressed
  apply advance_blind.bind
  intro token
  apply position_blind.bind
  intro start
  apply (expectOr_blind _ _).bind
  intro name
  apply (resolve_blind name.text name.span.start).bind
  intro symbol
  apply kind_blind.bind
  intro found
  apply Blind.ite
  · apply (acceptsSubscript_blind symbol).bind
    intro accepted
    apply (reportUnless_blind _ _ name.span.start).bind
    intro _
    apply (subscript_blind hwhole symbol name.span).bind
    intro target
    apply (note_blind (.addressed target)).bind
    intro _
    exact .pure (Expr.address target.array target.index target.span
      (token.span.through target.span))
  · apply position_blind.bind
    intro stop
    exact .failAt _ _

theorem freshFactor_blind (hwhole : BlindExpr whole) : BlindExpr (freshFactor whole) := by
  unfold freshFactor
  apply kind_blind.bind
  intro found
  split
  · exact blindExpr_map (named_blind hwhole)
  · exact blindExpr_map stringLiteral_blind
  · exact blindExpr_map constant_blind
  · exact blindExpr_map (parenthesized_blind hwhole)
  · exact blindExpr_map (stepped_blind .increment)
  · exact blindExpr_map (stepped_blind .decrement)
  · exact blindExpr_map (addressed_blind hwhole)
  · exact .pure none

/-- A rule that is handed the same beginning, without places. -/
def BlindRule (rule : Rule) : Prop :=
  ∀ handoff?, Blind (Option.map Expr.placeless) (rule handoff?)
    (rule (handoff?.map Handoff.placeless))

theorem factor_blind (hwhole : BlindExpr whole) : BlindRule (factor whole) := by
  intro handoff?
  cases handoff? with
  | none => exact freshFactor_blind hwhole
  | some handoff =>
      cases handoff with
      | ident symbol span =>
          apply (afterName_blind hwhole symbol span).bind
          intro found
          exact (pure_widen_blind found).map fun _ => rfl
      | element target => exact (pure_widen_blind target.read).map fun _ => rfl

/-! ## Expressions -/

theorem negated_blind (hwhole : BlindExpr whole) :
    Blind Expr.placeless (negated whole) (negated whole) := by
  have hfactor : BlindExpr (factor whole none) := factor_blind hwhole none
  unfold negated
  apply advance_blind.bind
  intro token
  apply position_blind.bind
  intro start
  apply (hfactor.orFail _).bind
  intro operand
  apply read_blind.bind
  intro given
  rw [Expr.placeless_ty, Expr.placeless_span]
  apply (reportUnless_blind _ _ token.span.start).bind
  intro _
  exact .pure (Expr.not operand _ _)

theorem value_blind (hwhole : BlindExpr whole) : BlindRule (value whole) := by
  intro handoff?
  have hfactor := factor_blind hwhole handoff?
  cases handoff? with
  | some handoff => exact hfactor
  | none =>
      unfold value
      apply kind_blind.bind
      intro found
      exact .ite (blindExpr_map (negated_blind hwhole)) hfactor

end Factors

theorem joined_blind (operator : BinaryOp) (lhs rhs : Expr) (position : Position) :
    Blind Expr.placeless (joined operator lhs rhs position)
      (joined operator lhs.placeless rhs.placeless .nowhere) := by
  unfold joined
  apply read_blind.bind
  intro given
  simp only [Expr.placeless_ty]
  apply (reportUnless_blind _ _ position).bind
  intro _
  apply (note_blind (.built _)).bind
  intro _
  exact .pure (Expr.binary operator lhs rhs _)

theorem operatorsAfter_blind (level : Precedence) {operand : Parse (Option Expr)}
    (hoperand : BlindExpr operand) (budget : Nat) (lhs : Expr) :
    Blind Expr.placeless (operatorsAfter level operand budget lhs)
      (operatorsAfter level operand budget lhs.placeless) := by
  induction budget generalizing lhs with
  | zero =>
      unfold operatorsAfter
      exact .pure lhs
  | succ budget ih =>
      unfold operatorsAfter
      apply kind_blind.bind
      intro found
      cases level.operator? found with
      | none => exact .pure lhs
      | some operator =>
          apply advance_blind.bind
          intro token
          apply (hoperand.orFail _).bind
          intro rhs
          apply (joined_blind operator lhs rhs token.span.start).bind
          exact ih

theorem chain_blind (level : Precedence) {operand : Rule} (hoperand : BlindRule operand) :
    BlindRule (chain level operand) := by
  intro handoff?
  unfold chain
  apply (hoperand handoff?).bind
  intro lhs?
  cases lhs? with
  | none => exact .pure none
  | some lhs =>
      apply remaining_blind.bind
      intro count
      exact (operatorsAfter_blind level (hoperand none) count lhs).map fun _ => rfl

theorem orExpr_blind {whole : Parse (Option Expr)} (hwhole : BlindExpr whole) :
    BlindRule (orExpr whole) := by
  have hterm : BlindRule (term whole) := chain_blind _ (value_blind hwhole)
  have hnumExpr : BlindRule (numExpr whole) := chain_blind _ hterm
  have hrelExpr : BlindRule (relExpr whole) := chain_blind _ hnumExpr
  have handTerm : BlindRule (andTerm whole) := chain_blind _ hrelExpr
  exact chain_blind _ handTerm

theorem exprWithin_blind (budget : Nat) : BlindExpr (exprWithin budget none) := by
  induction budget with
  | zero =>
      apply position_blind.bind
      intro start
      exact .failAt _ _
  | succ budget ih => exact orExpr_blind ih none

theorem exprAfter_blind : BlindRule exprAfter := by
  intro handoff?
  apply remaining_blind.bind
  intro count
  exact orExpr_blind (exprWithin_blind _) handoff?

theorem expr_blind : BlindExpr expr := exprAfter_blind none

theorem requireExpr_blind (malformation : Malformation) :
    Blind Expr.placeless (requireExpr malformation) (requireExpr malformation) := by
  unfold requireExpr
  apply position_blind.bind
  intro start
  exact expr_blind.orFail _

end SubsetC.Parse
