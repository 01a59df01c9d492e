import SubsetC.Proofs.PrintfFlag
import SubsetC.Proofs.StringIds

/-!
# The flag for `printf` in expressions

Every rule for expressions raises the flag just if its tree holds a call of `printf` that was
not read before: a rule may be handed the beginning of its first operand.
-/

namespace SubsetC

namespace Expr

/-- Whether a node is a call of what is named `printf`. -/
def isPrintfCall : Expr → Bool
  | call callee _ _ => callee.name = Symbol.printfName
  | _ => false

/-- Whether an expression holds a call of `printf`. -/
def prints (e : Expr) : Bool := e.nodes.any isPrintfCall

theorem prints_eq (e : Expr) : e.prints = (e.isPrintfCall || e.children.any prints) := by
  rw [Bool.eq_iff_iff, Bool.or_eq_true, List.any_eq_true]
  unfold prints
  simp only [List.any_eq_true]
  constructor
  · rintro ⟨node, hnode, hcall⟩
    obtain rfl | ⟨child, hchild, hnode⟩ := mem_nodes.1 hnode
    · exact .inl hcall
    · exact .inr ⟨child, hchild, node, hnode, hcall⟩
  · rintro (hcall | ⟨child, hchild, node, hnode, hcall⟩)
    · exact ⟨e, mem_nodes.2 (.inl rfl), hcall⟩
    · exact ⟨node, mem_nodes.2 (.inr ⟨child, hchild, hnode⟩), hcall⟩

section Nodes

variable (e lhs rhs : Expr) (symbol : Symbol) (ty : Ty) (span : Span)

@[simp] theorem prints_ident : (ident symbol span).prints = false := rfl

@[simp] theorem prints_element : (element symbol e span).prints = e.prints := by
  simp [prints_eq (element _ _ _), isPrintfCall, children]

@[simp] theorem prints_address (target : Span) :
    (address symbol e target span).prints = e.prints := by
  simp [prints_eq (address _ _ _ _), isPrintfCall, children]

@[simp] theorem prints_call (arguments : List Expr) :
    (call symbol arguments span).prints =
      (decide (symbol.name = Symbol.printfName) || arguments.any prints) := by
  simp [prints_eq (call _ _ _), isPrintfCall, children]

@[simp] theorem prints_not : (not e ty span).prints = e.prints := by
  simp [prints_eq (not _ _ _), isPrintfCall, children]

@[simp] theorem prints_binary (operator : BinaryOp) :
    (binary operator lhs rhs ty).prints = (lhs.prints || rhs.prints) := by
  simp [prints_eq (binary _ _ _ _), isPrintfCall, children]

@[simp] theorem prints_widen : e.widen.prints = e.prints := by
  unfold widen
  split
  · simp [prints_eq (toInt _), isPrintfCall, children]
  · rfl

@[simp] theorem prints_narrow : e.narrow.prints = e.prints := by
  unfold narrow
  split
  · simp [prints_eq (toChar _), isPrintfCall, children]
  · rfl

end Nodes

end Expr

/-- Whether the beginning of an expression holds a call of `printf`. -/
def Handoff.prints : Handoff → Bool
  | .ident _ _ => false
  | .element target => target.index.prints

namespace Parse

variable {settings : Settings}

/-- Whether there is a whole expression that holds a call of `printf` tells whether the parse
raises the flag. -/
abbrev TellsExpr (settings : Settings) (expr : Parse (Option Expr)) : Prop :=
  Tells settings (fun e? => e?.any Expr.prints) expr

theorem placeholder_tells (span : Span) : Tells settings Expr.prints (placeholder span) := by
  unfold placeholder
  exact .after fun _ => .pure rfl

section Factors

variable {expr : Parse (Option Expr)}

theorem subscript_tells (hexpr : TellsExpr settings expr) (array : Symbol) (span : Span) :
    Tells settings (fun target => target.index.prints) (subscript expr array span) := by
  unfold subscript
  apply Flags.after
  intro _
  apply Flags.after
  intro start
  apply (Tells.orFail _ hexpr).collect
  intro index
  apply Flags.after
  intro close
  apply Flags.after
  intro _
  exact .pure (Bool.or_false _)

variable [Respects KeepsReports expr] [Respects KeepsFlag expr]

theorem element_tells (hexpr : TellsExpr settings expr) (array : Symbol) (span : Span) :
    Tells settings Expr.prints (element expr array span) := by
  unfold element
  apply Flags.after
  intro accepts
  refine .ite ?_ (.after fun _ => placeholder_tells span)
  apply (subscript_tells hexpr array span).attempt_bind
  · intro target
    apply Flags.pure
    rintro raised rfl
    simp [Subscript.read]
  · intro failure
    exact .recoverPast_bind

theorem checkArgument_flags (check : CallCheck) (callee : Symbol) (index : Nat)
    (argument : Expr) :
    Flags settings (fun raised e => raised = false ∧ e.prints = argument.prints)
      (checkArgument check callee index argument) := by
  have hsame {misuse : Misuse} {accepted : Bool} :
      Flags settings (fun raised e => raised = false ∧ e.prints = argument.prints)
        (do reportUnless accepted misuse argument.start; return argument) :=
    .after fun _ => .pure ⟨rfl, rfl⟩
  unfold checkArgument
  cases check with
  | unchecked => exact .pure ⟨rfl, rfl⟩
  | format => exact hsame
  | against signature =>
      cases hparameter : signature.params[index]? with
      | none => simpa only [hparameter] using hsame
      | some parameter =>
          simp only [hparameter]
          exact .ite (.pure ⟨rfl, argument.prints_narrow⟩) hsame

/-- Unless they are cut short, the arguments tell whether the flag is raised. -/
def TellArguments (raised : Bool) (result : List Expr × Except Failure Token) : Prop :=
  ∀ close, result.2 = .ok close → raised = result.1.any Expr.prints

theorem closing_flags :
    Flags settings (fun raised closing => ∀ close, closing = .ok close → raised = false)
      (attempt (expect .closeParen)) :=
  .attempt (.of_unflagged fun _ => rfl)

theorem argumentsFrom_flags (hexpr : TellsExpr settings expr) (check : CallCheck)
    (callee : Symbol) (budget index : Nat) :
    Flags settings TellArguments (argumentsFrom expr check callee budget index) := by
  induction budget generalizing index with
  | zero =>
      unfold argumentsFrom
      apply Flags.after
      intro found
      apply Flags.pure
      intro close hclose
      contradiction
  | succ budget ih =>
      unfold argumentsFrom
      apply Flags.after
      intro start
      apply (Tells.orFail _ hexpr).attempt_bind
      · intro argument
        apply (checkArgument_flags check callee index argument).bind
        intro e
        apply Flags.after
        intro more
        refine .ite ?_ ?_
        · apply (ih (index + 1)).bind
          intro result
          apply Flags.pure
          rintro others hothers checked ⟨rfl, hsame⟩ raised rfl close hclose
          simp [hothers close hclose, hsame]
        · apply closing_flags.bind
          intro closing
          apply Flags.pure
          rintro last hlast checked ⟨rfl, hsame⟩ raised rfl close hclose
          simp [hlast close hclose, hsame]
      · intro failure
        apply Flags.pure
        intro raised close hclose
        contradiction

theorem arguments_flags (hexpr : TellsExpr settings expr) (check : CallCheck)
    (callee : Symbol) :
    Flags settings TellArguments (arguments expr check callee) := by
  unfold arguments
  apply Flags.after
  intro kind
  refine .ite ?_ (.after fun _ => argumentsFrom_flags hexpr check callee _ 0)
  apply closing_flags.bind
  intro closing
  apply Flags.pure
  intro raised hclosing close hclose
  simp [hclosing close hclose]

/-- The flag is raised just for what is named `printf`, whatever it was declared as. -/
theorem noteCallee_tells (callee : Symbol) :
    Tells settings (fun _ => decide (callee.name = Symbol.printfName)) (noteCallee callee) := by
  unfold noteCallee
  split
  · rename_i hname
    refine ⟨fun hrun => KeepsReports.faults (Respects.ok hrun), fun hrun _ => ?_⟩
    cases hrun
    exact ⟨true, (Bool.or_true _).symm, (decide_eq_true hname).symm⟩
  · rename_i hname
    exact .pure (decide_eq_false hname).symm

theorem checkedCall_tells (hexpr : TellsExpr settings expr) (callee : Symbol) (span : Span) :
    Tells settings Expr.prints (checkedCall expr callee span) := by
  unfold checkedCall
  apply Flags.after
  intro given
  apply (noteCallee_tells callee).collect
  intro _
  apply Flags.after
  intro opening
  apply (arguments_flags hexpr _ callee).bind
  rintro ⟨values, closing⟩
  cases closing with
  | ok close =>
      apply Flags.after
      intro _
      apply Flags.pure
      intro raised harguments
      simp [harguments close rfl]
  | error failure => exact .recoverPast_bind

theorem call_tells (hexpr : TellsExpr settings expr) (callee : Symbol) (span : Span) :
    Tells settings Expr.prints (call expr callee span) := by
  unfold call
  apply Flags.after
  intro given
  refine .ite ?_ (checkedCall_tells hexpr callee span)
  apply Flags.after
  intro _
  apply Flags.after
  intro _
  exact .after fun _ => placeholder_tells span

theorem afterName_tells (hexpr : TellsExpr settings expr) (symbol : Symbol) (span : Span) :
    Tells settings Expr.prints (afterName expr symbol span) := by
  unfold afterName
  apply Flags.after
  intro kind
  split
  · exact element_tells hexpr symbol span
  · exact call_tells hexpr symbol span
  · exact .pure rfl

theorem named_tells (hexpr : TellsExpr settings expr) :
    Tells settings Expr.prints (named expr) := by
  unfold named
  apply Flags.after
  intro name
  apply Flags.after
  intro symbol
  apply (afterName_tells hexpr symbol _).collect
  intro factor
  exact .pure (by simp)

theorem stringLiteral_tells : Tells settings Expr.prints stringLiteral := by
  unfold stringLiteral
  apply Flags.after
  intro token
  exact .after fun id => .pure rfl

theorem constant_tells : Tells settings Expr.prints constant := by
  unfold constant
  apply Flags.after
  intro token
  split
  · exact .pure rfl
  · exact .failAt _ _

omit [Respects KeepsReports expr] [Respects KeepsFlag expr] in
theorem parenthesized_tells (hexpr : TellsExpr settings expr) :
    Tells settings Expr.prints (parenthesized expr) := by
  unfold parenthesized
  apply Flags.after
  intro opening
  apply Flags.after
  intro start
  apply (Tells.orFail _ hexpr).collect
  intro inner
  exact .after fun _ => .pure (Bool.or_false _)

theorem stepped_tells (operator : Step) : Tells settings Expr.prints (stepped operator) := by
  unfold stepped
  apply Flags.after
  intro token
  apply Flags.after
  intro start
  apply Flags.after
  intro name
  apply Flags.after
  intro symbol
  apply Flags.after
  intro given
  apply Flags.after
  intro _
  apply Flags.pure
  rw [Expr.prints_widen]
  rfl

omit [Respects KeepsReports expr] [Respects KeepsFlag expr] in
theorem addressed_tells (hexpr : TellsExpr settings expr) :
    Tells settings Expr.prints (addressed expr) := by
  unfold addressed
  apply Flags.after
  intro token
  apply Flags.after
  intro start
  apply Flags.after
  intro name
  apply Flags.after
  intro symbol
  apply Flags.after
  intro kind
  refine .ite ?_ (.after fun _ => .failAt _ _)
  apply Flags.after
  intro accepts
  apply Flags.after
  intro _
  apply (subscript_tells hexpr symbol _).collect
  intro target
  exact .after fun _ => .pure (by simp)

theorem freshFactor_tells (hexpr : TellsExpr settings expr) :
    TellsExpr settings (freshFactor expr) := by
  unfold freshFactor
  apply Flags.after
  intro kind
  split
  · exact .map (named_tells hexpr)
  · exact .map stringLiteral_tells
  · exact .map constant_tells
  · exact .map (parenthesized_tells hexpr)
  · exact .map (stepped_tells _)
  · exact .map (stepped_tells _)
  · exact .map (addressed_tells hexpr)
  · exact .pure rfl

end Factors

/-! ## Chains -/

/-- An expression holds a call of `printf` if its beginning does or if the flag is raised. -/
def TellsRule (settings : Settings) (rule : Rule) : Prop :=
  ∀ handoff?, Flags settings
    (fun raised e? => e?.any Expr.prints = (handoff?.any Handoff.prints || raised))
    (rule handoff?)

theorem TellsRule.fresh {rule : Rule} (hrule : TellsRule settings rule) :
    TellsExpr settings (rule none) := by
  apply (hrule none).imp
  intro raised e? hresult
  exact hresult.symm

section Chains

variable {expr : Parse (Option Expr)} [Respects KeepsReports expr] [Respects KeepsFlag expr]

theorem factor_tells (hexpr : TellsExpr settings expr) : TellsRule settings (factor expr) := by
  intro handoff?
  unfold factor
  rcases handoff? with _ | ⟨symbol, span⟩ | ⟨target⟩
  · exact (freshFactor_tells hexpr).imp fun raised e? hraised => hraised.symm
  · apply (afterName_tells hexpr symbol span).collect
    intro factor
    exact .pure (by simp [Handoff.prints])
  · exact .pure (by simp [Handoff.prints, Subscript.read])

theorem negated_tells (hexpr : TellsExpr settings expr) :
    Tells settings Expr.prints (negated expr) := by
  unfold negated
  apply Flags.after
  intro token
  apply Flags.after
  intro start
  apply (Tells.orFail _ (factor_tells hexpr).fresh).collect
  intro operand
  apply Flags.after
  intro given
  exact .after fun _ => .pure (by simp)

theorem value_tells (hexpr : TellsExpr settings expr) : TellsRule settings (value expr) := by
  intro handoff?
  cases handoff? with
  | some handoff => exact factor_tells hexpr (some handoff)
  | none =>
      unfold value
      apply Flags.after
      intro kind
      refine .ite (.map ?_) (factor_tells hexpr none)
      exact (negated_tells hexpr).imp fun raised e hraised => hraised.symm

theorem joined_flags (operator : BinaryOp) (lhs rhs : Expr) (position : Position) :
    Flags settings (fun raised node => raised = false ∧ node.prints = (lhs.prints || rhs.prints))
      (joined operator lhs rhs position) := by
  unfold joined
  apply Flags.after
  intro given
  apply Flags.after
  intro _
  exact .after fun _ => .pure ⟨rfl, Expr.prints_binary ..⟩

theorem operatorsAfter_flags {operand : Parse (Option Expr)} (level : Precedence)
    (hoperand : TellsExpr settings operand) (budget : Nat) (lhs : Expr) :
    Flags settings (fun raised e => e.prints = (lhs.prints || raised))
      (operatorsAfter level operand budget lhs) := by
  induction budget generalizing lhs with
  | zero =>
      unfold operatorsAfter
      exact .pure (Bool.or_false _).symm
  | succ budget ih =>
      unfold operatorsAfter
      apply Flags.after
      intro kind
      split
      · exact .pure (Bool.or_false _).symm
      · rename_i operator hoperator
        apply Flags.after
        intro token
        apply (Tells.orFail _ hoperand).collect
        intro rhs
        apply (joined_flags operator lhs rhs _).bind
        intro node
        -- The node holds the calls of both operands, and what follows joins more to it.
        apply (ih node).imp
        rintro later e hresult joined ⟨rfl, hnode⟩
        rw [hresult, hnode, Bool.false_or, Bool.or_assoc]

theorem chain_tells {rule : Rule} (level : Precedence) (hrule : TellsRule settings rule) :
    TellsRule settings (chain level rule) := by
  intro handoff?
  unfold chain
  apply (hrule handoff?).bind
  intro lhs?
  cases lhs? with
  | none =>
      apply Flags.pure
      intro raised hlhs
      rw [hlhs, Bool.or_false]
  | some lhs =>
      apply Flags.after
      intro budget
      apply Flags.map
      apply (operatorsAfter_flags level hrule.fresh _ lhs).imp
      intro later e hresult raised hlhs
      have hlhs : lhs.prints = (handoff?.any Handoff.prints || raised) := hlhs
      rw [Option.any_some, hresult, hlhs, Bool.or_assoc]

theorem orExpr_tells (hexpr : TellsExpr settings expr) : TellsRule settings (orExpr expr) :=
  chain_tells _ <| chain_tells _ <| chain_tells _ <| chain_tells _ <| chain_tells _ <|
    value_tells hexpr

end Chains

theorem exprWithin_tells (budget : Nat) : TellsExpr settings (exprWithin budget none) := by
  induction budget with
  | zero => exact .after fun _ => .failAt _ _
  | succ budget ih => exact (orExpr_tells ih).fresh

theorem exprAfter_tells : TellsRule settings exprAfter := by
  intro handoff?
  unfold exprAfter withExpr
  exact .after fun _ => orExpr_tells (exprWithin_tells _) handoff?

theorem requireExpr_tells (malformation : Malformation) :
    Tells settings Expr.prints (requireExpr malformation) := by
  unfold requireExpr
  exact .after fun _ => Tells.orFail _ exprAfter_tells.fresh

end Parse

end SubsetC
