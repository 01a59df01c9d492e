import SubsetC.Proofs.TreeInvariant

/-!
# Expressions maintain invariants of trees

Every rule for expressions maintains an invariant if the parse of the whole expressions
inside does: a node starts at a token or where its first part does, and misuses are
reported at tokens and at the starts of operands.
-/

namespace SubsetC.Parse

variable {I : TreeInvariant} {settings : Settings}

/-- A rule that builds a tree on whatever beginning it may be handed. -/
def Carries (I : TreeInvariant) (settings : Settings) (rule : Rule) : Prop :=
  ∀ handoff?, (∀ handoff, handoff? = some handoff → I.handoff handoff) →
    Maintains I settings I.tree? (rule handoff?)

theorem Carries.fresh {rule : Rule} (hrule : Carries I settings rule) :
    Maintains I settings I.tree? (rule none) :=
  hrule none (by simp)

/-! ## Factors -/

section Factors

variable {expr : Parse (Option Expr)} [Respects Grows expr]

theorem acceptsSubscript_maintains (symbol : Symbol) :
    Maintains I settings (fun _ => True) (acceptsSubscript symbol) := by
  unfold acceptsSubscript
  exact Maintains.read.after fun _ => .pure trivial

theorem subscript_maintains (hexpr : Maintains I settings I.tree? expr) (array : Symbol)
    {span : Span} (hspan : I.place span.start) :
    Maintains I settings I.subscript (subscript expr array span) := by
  unfold subscript
  refine (expect_maintains _).after fun _ => position_maintains.bind fun start hstart => ?_
  refine (hexpr.orFail hstart).bind fun index hindex => ?_
  refine (expect_maintains _).after fun close => ?_
  exact (reportUnless_maintains _ _ hstart).after fun _ => .pure ⟨hspan, hindex⟩

theorem rejectSubscript_maintains (symbol : Symbol) {span : Span} (hspan : I.place span.start) :
    Maintains I settings (fun _ => True) (rejectSubscript symbol span) := by
  unfold rejectSubscript
  exact (reportMisuse_maintains _ hspan).after fun _ => skipPast_maintains _

theorem element_maintains (hexpr : Maintains I settings I.tree? expr) (array : Symbol)
    {span : Span} (hspan : I.place span.start) :
    Maintains I settings I.tree (element expr array span) := by
  have hplaceholder : Maintains I settings I.tree (placeholder span) :=
    placeholder_maintains hspan
  unfold element
  refine (acceptsSubscript_maintains array).after fun accepted => .ite ?_ ?_
  · refine (subscript_maintains hexpr array hspan).attempt_bind (fun target htarget => ?_)
      fun failure hfailure => ?_
    · exact .pure (TreeInvariant.read htarget)
    · exact (recoverPast_maintains _ hfailure).after fun _ => hplaceholder
  · exact (rejectSubscript_maintains array hspan).after fun _ => hplaceholder

theorem checkArgument_maintains (check : CallCheck) (callee : Symbol) (index : Nat)
    {argument : Expr} (hargument : I.tree argument) :
    Maintains I settings I.tree (checkArgument check callee index argument) := by
  have hstart := I.start hargument
  unfold checkArgument
  cases check with
  | unchecked => exact .pure hargument
  | format => exact (reportUnless_maintains _ _ hstart).after fun _ => .pure hargument
  | against signature =>
      cases hparameter : signature.params[index]? with
      | none =>
          simp only [hparameter]
          exact (reportUnless_maintains _ _ hstart).after fun _ => .pure hargument
      | some parameter =>
          simp only [hparameter]
          refine .ite (.pure (TreeInvariant.narrow hargument)) ?_
          exact (reportUnless_maintains _ _ hstart).after fun _ => .pure hargument

theorem checkCount_maintains (check : CallCheck) (callee : Symbol) (count : Nat)
    {opening stop : Position} (hopening : I.place opening) (hstop : I.place stop) :
    Maintains I settings (fun _ => True) (checkCount check callee count opening stop) := by
  unfold checkCount
  cases check with
  | unchecked => exact .pure trivial
  | format => exact reportUnless_maintains _ _ hopening
  | against signature => exact reportUnless_maintains _ _ hstop

/-- Arguments that were read before they closed or a fault was met. -/
def TreeInvariant.arguments (I : TreeInvariant) (read : List Expr × Except Failure Token) :
    Prop :=
  (∀ argument ∈ read.1, I.tree argument) ∧ I.Fine I.token read.2

theorem closing_maintains {kept : List Expr} (hkept : ∀ argument ∈ kept, I.tree argument) :
    Maintains I settings I.arguments (do
      let closing ← attempt (expect .closeParen)
      return (kept, closing)) :=
  .bind (expect_maintains _).attempt fun _ hclosing => .pure ⟨hkept, hclosing⟩

theorem argumentsFrom_maintains (hexpr : Maintains I settings I.tree? expr) (check : CallCheck)
    (callee : Symbol) (budget index : Nat) :
    Maintains I settings I.arguments (argumentsFrom expr check callee budget index) := by
  induction budget generalizing index with
  | zero =>
      unfold argumentsFrom
      exact current_maintains.bind fun found hfound => .pure ⟨by simp, hfound⟩
  | succ budget ih =>
      unfold argumentsFrom
      refine position_maintains.bind_of (fun start => ?_) fun start hstart => ?_
      · exact .bind inferInstance fun result => by cases result <;> infer_instance
      refine (hexpr.orFail hstart).attempt_bind (fun argument hargument => ?_)
        fun failure hfailure => .pure ⟨by simp, hfailure⟩
      refine (checkArgument_maintains check callee index hargument).bind fun kept hkept => ?_
      refine (accept_maintains _).after fun more => .ite ?_ (closing_maintains (by simpa))
      refine (ih (index + 1)).bind fun others hothers => .pure ?_
      exact ⟨List.forall_mem_cons.2 ⟨hkept, hothers.1⟩, hothers.2⟩

theorem arguments_maintains (hexpr : Maintains I settings I.tree? expr) (check : CallCheck)
    (callee : Symbol) : Maintains I settings I.arguments (arguments expr check callee) := by
  unfold arguments
  refine kind_maintains.after fun kind => .ite (closing_maintains (by simp)) ?_
  exact remaining_maintains.after fun _ => argumentsFrom_maintains hexpr check callee _ _

theorem noteCallee_maintains (callee : Symbol) :
    Maintains I settings (fun _ => True) (noteCallee callee) := by
  unfold noteCallee
  exact .ite markPrintf_maintains (.pure trivial)

theorem checkedCall_maintains (hexpr : Maintains I settings I.tree? expr) (callee : Symbol)
    {span : Span} (hspan : I.place span.start) :
    Maintains I settings I.tree (checkedCall expr callee span) := by
  unfold checkedCall
  refine Maintains.read.after fun _ => (noteCallee_maintains callee).after fun _ => ?_
  refine (expect_maintains _).bind_of (fun opening => ?_) fun opening hopening => ?_
  · apply Respects.bind inferInstance
    rintro ⟨kept, closing⟩
    cases closing <;> infer_instance
  apply (arguments_maintains hexpr _ callee).bind_of
  · rintro ⟨kept, closing⟩
    cases closing <;> infer_instance
  rintro ⟨kept, closing⟩ hread
  cases closing with
  | ok close =>
      have hspan : I.place (span.through close.span).start := hspan
      exact (checkCount_maintains _ _ _ hopening hread.2).after fun _ =>
        .pure (TreeInvariant.call hspan hread.1)
  | error failure =>
      refine (recoverPast_maintains _ hread.2).after fun _ => ?_
      exact (checkCount_maintains _ _ _ hopening hread.2).after fun _ =>
        .pure (TreeInvariant.call hspan hread.1)

theorem call_maintains (hexpr : Maintains I settings I.tree? expr) (callee : Symbol)
    {span : Span} (hspan : I.place span.start) :
    Maintains I settings I.tree (call expr callee span) := by
  unfold call
  refine Maintains.read.after fun _ => .ite ?_ (checkedCall_maintains hexpr callee hspan)
  refine (reportMisuse_maintains _ hspan).after fun _ => (skipPast_maintains _).after fun _ => ?_
  exact (skipPast_maintains _).after fun _ => placeholder_maintains hspan

theorem afterName_maintains (hexpr : Maintains I settings I.tree? expr) (symbol : Symbol)
    {span : Span} (hspan : I.place span.start) :
    Maintains I settings I.tree (afterName expr symbol span) := by
  unfold afterName
  refine kind_maintains.after fun kind => ?_
  split
  · exact element_maintains hexpr symbol hspan
  · exact call_maintains hexpr symbol hspan
  · exact .pure (TreeInvariant.ident hspan)

theorem named_maintains (hexpr : Maintains I settings I.tree? expr) :
    Maintains I settings I.tree (named expr) := by
  unfold named
  refine advance_maintains.bind fun name hname => ?_
  refine (resolve_maintains _ hname).after fun symbol => ?_
  exact (afterName_maintains hexpr symbol hname).bind fun factor hfactor =>
    .pure (TreeInvariant.widen hfactor)

theorem stringLiteral_maintains : Maintains I settings I.tree stringLiteral := by
  unfold stringLiteral
  refine advance_maintains.bind fun token htoken => ?_
  exact (intern_maintains token.text).bind fun id hid => .pure (hid token.span htoken)

theorem constant_maintains : Maintains I settings I.tree constant := by
  unfold constant
  refine advance_maintains.bind_of (fun token => ?_) fun token htoken => ?_
  · split <;> infer_instance
  cases Constant.ofText token.text with
  | ok constant => exact .pure (I.node (by simp) htoken (by simp [Expr.children]))
  | error fault => exact .failAt htoken

theorem parenthesized_maintains (hexpr : Maintains I settings I.tree? expr) :
    Maintains I settings I.tree (parenthesized expr) := by
  unfold parenthesized
  refine advance_maintains.after fun _ => position_maintains.bind fun start hstart => ?_
  refine (hexpr.orFail hstart).bind fun inner hinner => ?_
  exact (expect_maintains _).after fun _ => .pure hinner

theorem stepped_maintains (operator : Step) :
    Maintains I settings I.tree (stepped operator) := by
  unfold stepped
  refine advance_maintains.bind fun token htoken => position_maintains.bind fun start hstart => ?_
  refine (expectOr_maintains _ hstart).bind fun name hname => ?_
  refine (resolve_maintains _ hname).after fun symbol => Maintains.read.after fun _ => ?_
  refine (reportUnless_maintains _ _ htoken).after fun _ => .pure (TreeInvariant.widen ?_)
  exact I.node (by simp) htoken (by simp [Expr.children])

-- The rule is a longer sequence than instance search follows by default.
set_option synthInstance.maxSize 512 in
theorem addressed_maintains (hexpr : Maintains I settings I.tree? expr) :
    Maintains I settings I.tree (addressed expr) := by
  unfold addressed
  refine advance_maintains.bind fun token htoken => position_maintains.bind fun start hstart => ?_
  refine (expectOr_maintains _ hstart).bind fun name hname => ?_
  refine (resolve_maintains _ hname).after fun symbol => kind_maintains.after fun kind => ?_
  refine .ite ?_ (position_maintains.bind fun _ hposition => .failAt hposition)
  refine (acceptsSubscript_maintains symbol).after fun accepted => ?_
  refine (reportUnless_maintains _ _ hname).after fun _ => ?_
  refine (subscript_maintains hexpr symbol hname).bind fun target htarget => ?_
  refine (note_maintains _).after fun _ => .pure ?_
  exact I.node (by simp) htoken (by simpa [Expr.children] using htarget.2)

theorem tree?_of_tree {parse : Parse Expr} (hparse : Maintains I settings I.tree parse) :
    Maintains I settings I.tree? (some <$> parse) :=
  hparse.map fun _ he => TreeInvariant.tree?_some he

theorem freshFactor_maintains (hexpr : Maintains I settings I.tree? expr) :
    Maintains I settings I.tree? (freshFactor expr) := by
  unfold freshFactor
  refine kind_maintains.after fun kind => ?_
  split
  · exact tree?_of_tree (named_maintains hexpr)
  · exact tree?_of_tree stringLiteral_maintains
  · exact tree?_of_tree constant_maintains
  · exact tree?_of_tree (parenthesized_maintains hexpr)
  · exact tree?_of_tree (stepped_maintains .increment)
  · exact tree?_of_tree (stepped_maintains .decrement)
  · exact tree?_of_tree (addressed_maintains hexpr)
  · exact .pure TreeInvariant.tree?_none

theorem factor_carries (hexpr : Maintains I settings I.tree? expr) :
    Carries I settings (factor expr) := by
  intro handoff? hhandoff
  cases handoff? with
  | none => exact freshFactor_maintains hexpr
  | some handoff =>
      have hhandoff := hhandoff handoff rfl
      cases handoff with
      | ident symbol span =>
          refine (afterName_maintains hexpr symbol hhandoff).bind fun factor hfactor => ?_
          exact .pure (TreeInvariant.tree?_some (TreeInvariant.widen hfactor))
      | element target =>
          have hread := TreeInvariant.widen (TreeInvariant.read hhandoff)
          exact .pure (TreeInvariant.tree?_some hread)

end Factors

/-! ## Expressions -/

section Operators

variable {expr : Parse (Option Expr)} [Respects Grows expr]

theorem negated_maintains (hexpr : Maintains I settings I.tree? expr) :
    Maintains I settings I.tree (negated expr) := by
  unfold negated
  refine advance_maintains.bind fun token htoken => position_maintains.bind fun start hstart => ?_
  refine ((factor_carries hexpr).fresh.orFail hstart).bind fun operand hoperand => ?_
  refine Maintains.read.after fun _ => (reportUnless_maintains _ _ htoken).after fun _ => .pure ?_
  exact I.node (by simp) htoken (by simpa [Expr.children])

theorem value_carries (hexpr : Maintains I settings I.tree? expr) :
    Carries I settings (value expr) := by
  intro handoff? hhandoff
  cases handoff? with
  | some handoff => exact factor_carries hexpr _ hhandoff
  | none =>
      refine kind_maintains.after fun kind => .ite (tree?_of_tree (negated_maintains hexpr)) ?_
      exact (factor_carries hexpr).fresh

theorem joined_maintains (operator : BinaryOp) {lhs rhs : Expr} {position : Position}
    (hlhs : I.tree lhs) (hrhs : I.tree rhs) (hposition : I.place position) :
    Maintains I settings I.tree (joined operator lhs rhs position) := by
  have hstart := I.start hlhs
  unfold joined
  refine Maintains.read.after fun _ => (reportUnless_maintains _ _ hposition).after fun _ => ?_
  refine (note_maintains _).after fun _ => .pure ?_
  exact I.node (by simp) hstart (by simp [Expr.children, hlhs, hrhs])

theorem operatorsAfter_maintains (level : Precedence) {operand : Parse (Option Expr)}
    [Respects Grows operand] (hoperand : Maintains I settings I.tree? operand) (budget : Nat)
    {lhs : Expr} (hlhs : I.tree lhs) :
    Maintains I settings I.tree (operatorsAfter level operand budget lhs) := by
  induction budget generalizing lhs with
  | zero => exact .pure hlhs
  | succ budget ih =>
      unfold operatorsAfter
      refine kind_maintains.after fun kind => ?_
      split
      · exact .pure hlhs
      · refine advance_maintains.bind fun token htoken => ?_
        have htoken : I.place token.span.start := htoken
        refine (hoperand.orFail htoken).bind fun rhs hrhs => ?_
        exact (joined_maintains _ hlhs hrhs htoken).bind fun node hnode => ih hnode

theorem chain_carries (level : Precedence) {operand : Rule}
    [∀ handoff?, Respects Grows (operand handoff?)] (hoperand : Carries I settings operand) :
    Carries I settings (chain level operand) := by
  intro handoff? hhandoff
  unfold chain
  refine (hoperand handoff? hhandoff).option_bind (fun lhs hlhs => ?_)
    (.pure TreeInvariant.tree?_none)
  refine remaining_maintains.after fun remaining => tree?_of_tree ?_
  exact operatorsAfter_maintains level hoperand.fresh remaining hlhs

theorem orExpr_carries (hexpr : Maintains I settings I.tree? expr) :
    Carries I settings (orExpr expr) := by
  have hterm : Carries I settings (term expr) := chain_carries _ (value_carries hexpr)
  have hnumExpr : Carries I settings (numExpr expr) := chain_carries _ hterm
  have hrelExpr : Carries I settings (relExpr expr) := chain_carries _ hnumExpr
  have handTerm : Carries I settings (andTerm expr) := chain_carries _ hrelExpr
  exact chain_carries _ handTerm

end Operators

theorem exprWithin_maintains (budget : Nat) :
    Maintains I settings I.tree? (exprWithin budget none) := by
  induction budget with
  | zero => exact position_maintains.bind fun _ hposition => .failAt hposition
  | succ budget ih => exact (orExpr_carries ih).fresh

theorem exprAfter_carries : Carries I settings exprAfter := by
  intro handoff? hhandoff
  exact remaining_maintains.after fun remaining =>
    orExpr_carries (exprWithin_maintains _) handoff? hhandoff

theorem expr_maintains : Maintains I settings I.tree? expr := exprAfter_carries.fresh

theorem requireExpr_maintains (malformation : Malformation) :
    Maintains I settings I.tree (requireExpr malformation) :=
  position_maintains.bind fun _ hposition => expr_maintains.orFail hposition

end SubsetC.Parse
