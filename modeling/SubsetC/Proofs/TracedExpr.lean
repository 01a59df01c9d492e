import SubsetC.Proofs.Traced

/-!
# Expressions among the tokens that are read

Every rule for expressions gives a tree that lies among the tokens it reads, with
those that were read for it before: a rule may be handed the beginning of its
first operand.  Parentheses belong to no node, and neither does what is passed
over after a name that takes no subscript or arguments.
-/

namespace SubsetC.Parse

variable {settings : Settings} {state : ParseState}

/-- A whole expression lies among the tokens read for it. -/
def TracesExprs (settings : Settings) (expr : Parse (Option Expr)) : Prop :=
  ∀ state, Traces settings state (fun ts e? => ∀ e ∈ e?, Among ts [e.outline]) expr

/-- A name of a given span is the first of some tokens. -/
def Names (lead : List Token) (span : Span) : Prop :=
  ∃ name skipped, lead = name :: skipped ∧ name.span = span

theorem names_cons (name : Token) (skipped : List Token) : Names (name :: skipped) name.span :=
  ⟨name, skipped, rfl, rfl⟩

section Names

variable {lead : List Token} {span : Span}

theorem Names.begins (hnames : Names lead span) : Begins lead span.start := by
  obtain ⟨name, skipped, rfl, rfl⟩ := hnames
  exact begins_cons name skipped

theorem Names.among (hnames : Names lead span) : Among lead [.node span []] := by
  obtain ⟨name, skipped, rfl, rfl⟩ := hnames
  exact (Among.node (begins_cons name []) (ends_concat [] name) .nil).followed skipped

end Names

section Factors

variable {expr : Parse (Option Expr)} [Respects KeepsReports expr] [Respects MovesOn expr]

theorem acceptsSubscript_still (symbol : Symbol) :
    Still settings state (acceptsSubscript symbol) := by
  unfold acceptsSubscript
  exact .read_bind (.pure rfl)

theorem placeholder_traces (span : Span) :
    Traces settings state (fun ts e => ts = [] ∧ e.outline = .node span [])
      (placeholder span) := by
  unfold placeholder
  exact .get_bind (.pure ⟨rfl, rfl⟩)

omit [Respects KeepsReports expr] [Respects MovesOn expr] in
theorem subscript_traces (hexpr : TracesExprs settings expr) (array : Symbol) (span : Span) :
    Traces settings state
      (fun ts target => ∀ lead, Begins lead span.start → Among (lead ++ ts) [target.outline])
      (subscript expr array span) := by
  unfold subscript
  apply Traces.expect_bind (by decide)
  apply Traces.position_bind
  apply (Traces.orFail _ (hexpr _)).bind
  intro index next
  apply Traces.expect_bind (by decide)
  apply (reportUnless_still _ _ _).after
  intro _ last
  apply Traces.pure
  intro ts hindex lead hlead
  have hparts := (hindex.cons state.cursor.current).preceded lead
  have hclosed := hparts.closed (hlead.append _) next.cursor.current
  rwa [List.append_assoc] at hclosed

theorem element_traces (hexpr : TracesExprs settings expr) (array : Symbol) (span : Span) :
    Traces settings state
      (fun ts e => ∀ lead, Names lead span → Among (lead ++ ts) [e.outline])
      (element expr array span) := by
  unfold element
  apply (acceptsSubscript_still array).after
  intro accepts next
  split
  · apply (subscript_traces hexpr array span).attempt_bind
    · intro target last
      apply Traces.pure
      intro ts htarget lead hlead
      rw [List.append_nil]
      exact (htarget lead hlead.begins).read
    · intro failure last
      exact .recoverPast_bind
  · apply traces_of_movesOn.bind
    intro _ last
    apply (placeholder_traces span).imp
    rintro us e ⟨rfl, hnode⟩ ts _ lead hlead
    rw [hnode]
    exact hlead.among.followed _

theorem checkArgument_traces (check : CallCheck) (callee : Symbol) (index : Nat)
    (argument : Expr) :
    Traces settings state
      (fun ts e => ts = [] ∧ ∀ inner, Among inner [argument.outline] → Among inner [e.outline])
      (checkArgument check callee index argument) := by
  have hsame {misuse : Misuse} {accepted : Bool} : Traces settings state
      (fun ts e => ts = [] ∧ ∀ inner, Among inner [argument.outline] → Among inner [e.outline])
      (do reportUnless accepted misuse argument.start; return argument) :=
    (reportUnless_still _ _ _).after fun _ _ => .pure ⟨rfl, fun _ hamong => hamong⟩
  unfold checkArgument
  cases check with
  | unchecked => exact .pure ⟨rfl, fun _ hamong => hamong⟩
  | format => exact hsame
  | against signature =>
      cases hparameter : signature.params[index]? with
      | none => simpa only [hparameter] using hsame
      | some parameter =>
          simp only [hparameter]
          split
          · exact .pure ⟨rfl, fun _ hamong => hamong.narrow⟩
          · exact hsame

theorem checkCount_still (check : CallCheck) (callee : Symbol) (count : Nat)
    (opening stop : Position) :
    Still settings state (checkCount check callee count opening stop) := by
  unfold checkCount
  cases check with
  | unchecked => exact .pure rfl
  | format => exact reportUnless_still _ _ _
  | against signature => exact reportUnless_still _ _ _

/-- Unless they are cut short, the arguments lie among the tokens before the closing one. -/
def TracesArguments (ts : List Token) (result : List Expr × Except Failure Token) : Prop :=
  ∀ close, result.2 = .ok close →
    ∃ inner, ts = inner ++ [close] ∧ Among inner (Expr.outlines result.1)

theorem argumentsFrom_traces (hexpr : TracesExprs settings expr) (check : CallCheck)
    (callee : Symbol) (budget index : Nat) :
    Traces settings state TracesArguments (argumentsFrom expr check callee budget index) := by
  induction budget generalizing state index with
  | zero =>
      unfold argumentsFrom
      apply Traces.current_bind
      apply Traces.pure
      intro close hclose
      contradiction
  | succ budget ih =>
      unfold argumentsFrom
      apply Traces.position_bind
      apply (Traces.orFail _ (hexpr _)).attempt_bind
      · intro argument next
        apply (checkArgument_traces check callee index argument).after
        intro e next
        apply Traces.accept_bind (by decide)
        · apply (ih (index + 1)).bind
          intro result last
          apply Traces.pure
          intro ts hothers hargument first hfirst close hclose
          obtain ⟨inner, rfl, hinner⟩ := hothers close hclose
          refine ⟨first ++ next.cursor.current :: inner, by simp, ?_⟩
          exact (hargument first hfirst).append (hinner.cons _)
        · apply (expect_traces (by decide)).attempt.bind
          intro closing last
          apply Traces.pure
          intro ts hclosing hargument first hfirst close hclose
          rw [hclosing close hclose]
          exact ⟨first, rfl, hargument first hfirst⟩
      · intro failure next
        apply Traces.pure
        intro ts close hclose
        contradiction

theorem arguments_traces (hexpr : TracesExprs settings expr) (check : CallCheck)
    (callee : Symbol) :
    Traces settings state TracesArguments (arguments expr check callee) := by
  unfold arguments
  apply Traces.kind_bind
  split
  · apply (expect_traces (by decide)).attempt.bind
    intro closing next
    apply Traces.pure
    intro ts hclosing close hclose
    rw [hclosing close hclose]
    exact ⟨[], rfl, .nil⟩
  · apply Traces.remaining_bind
    exact argumentsFrom_traces hexpr check callee _ 0

theorem noteCallee_still (callee : Symbol) : Still settings state (noteCallee callee) := by
  apply Still.of_cursor_eq
  intro value next hrun
  unfold noteCallee at hrun
  split at hrun <;> cases hrun <;> rfl

theorem checkedCall_traces (hexpr : TracesExprs settings expr) (callee : Symbol) (span : Span) :
    Traces settings state
      (fun ts e => ∀ lead, Names lead span → Among (lead ++ ts) [e.outline])
      (checkedCall expr callee span) := by
  unfold checkedCall
  apply Traces.read_bind
  apply (noteCallee_still callee).after
  intro _ middle
  apply Traces.expect_bind (by decide)
  apply (arguments_traces hexpr _ callee).bind
  intro result next
  obtain ⟨values, closing⟩ := result
  cases closing with
  | ok close =>
      apply (checkCount_still _ callee _ _ _).after
      intro _ last
      apply Traces.pure
      intro ts harguments lead hlead
      obtain ⟨inner, rfl, hinner⟩ := harguments close rfl
      have hparts := (hinner.cons middle.cursor.current).preceded lead
      have hclosed := hparts.closed (hlead.begins.append _) close
      rw [List.append_nil]
      rwa [List.append_assoc] at hclosed
  | error failure => exact .recoverPast_bind

theorem call_traces (hexpr : TracesExprs settings expr) (callee : Symbol) (span : Span) :
    Traces settings state
      (fun ts e => ∀ lead, Names lead span → Among (lead ++ ts) [e.outline])
      (call expr callee span) := by
  unfold call
  apply Traces.read_bind
  split
  · apply (reportMisuse_still _ _).after
    intro _ next
    apply traces_of_movesOn.bind
    intro _ next
    apply traces_of_movesOn.bind
    intro _ next
    apply (placeholder_traces span).imp
    rintro us e ⟨rfl, hnode⟩ ts _ skipped _ lead hlead
    rw [hnode]
    exact hlead.among.followed _
  · exact checkedCall_traces hexpr callee span

theorem afterName_traces (hexpr : TracesExprs settings expr) (symbol : Symbol) (span : Span) :
    Traces settings state
      (fun ts e => ∀ lead, Names lead span → Among (lead ++ ts) [e.outline])
      (afterName expr symbol span) := by
  unfold afterName
  apply Traces.kind_bind
  split
  · exact element_traces hexpr symbol span
  · exact call_traces hexpr symbol span
  · apply Traces.pure
    intro lead hlead
    exact hlead.among.followed _

theorem named_traces (hexpr : TracesExprs settings expr) (hkind : state.cursor.kind ≠ .eof) :
    Traces settings state (fun ts e => Among ts [e.outline]) (named expr) := by
  unfold named
  apply Traces.advance_bind hkind
  apply (resolve_still _ _).after
  intro symbol next
  apply (afterName_traces hexpr symbol _).bind
  intro factor last
  apply Traces.pure
  intro ts hfactor
  rw [List.append_nil]
  exact (hfactor _ (names_cons state.cursor.current [])).widen

/-- A node of the token that is read. -/
theorem among_token (token : Token) : Among [token] [.node token.span []] :=
  (names_cons token []).among

theorem stringLiteral_traces (hkind : state.cursor.kind ≠ .eof) :
    Traces settings state (fun ts e => Among ts [e.outline]) stringLiteral := by
  unfold stringLiteral
  apply Traces.advance_bind hkind
  apply (intern_still _).after
  intro id next
  exact .pure (among_token _)

theorem constant_traces (hkind : state.cursor.kind ≠ .eof) :
    Traces settings state (fun ts e => Among ts [e.outline]) constant := by
  unfold constant
  apply Traces.advance_bind hkind
  split
  · exact .pure (among_token _)
  · exact .failAt _ _

omit [Respects KeepsReports expr] [Respects MovesOn expr] in
theorem parenthesized_traces (hexpr : TracesExprs settings expr)
    (hkind : state.cursor.kind ≠ .eof) :
    Traces settings state (fun ts e => Among ts [e.outline]) (parenthesized expr) := by
  unfold parenthesized
  apply Traces.advance_bind hkind
  apply Traces.position_bind
  apply (Traces.orFail _ (hexpr _)).bind
  intro inner next
  apply Traces.expect_bind (by decide)
  apply Traces.pure
  intro ts hinner
  exact (hinner.followed _).cons _

theorem stepped_traces (operator : Step) (hkind : state.cursor.kind ≠ .eof) :
    Traces settings state (fun ts e => Among ts [e.outline]) (stepped operator) := by
  unfold stepped
  apply Traces.advance_bind hkind
  apply Traces.position_bind
  apply Traces.expectOr_bind (by decide)
  intro _
  apply (resolve_still _ _).after
  intro symbol next
  apply Traces.read_bind
  apply (reportUnless_still _ _ _).after
  intro _ last
  apply Traces.pure
  apply Among.widen
  exact .closed (begins_cons _ []) .nil _

omit [Respects KeepsReports expr] [Respects MovesOn expr] in
theorem addressed_traces (hexpr : TracesExprs settings expr) (hkind : state.cursor.kind ≠ .eof) :
    Traces settings state (fun ts e => Among ts [e.outline]) (addressed expr) := by
  unfold addressed
  apply Traces.advance_bind hkind
  apply Traces.position_bind
  apply Traces.expectOr_bind (by decide)
  intro _
  apply (resolve_still _ _).after
  intro symbol next
  apply Traces.kind_bind
  split
  · apply (acceptsSubscript_still symbol).after
    intro accepts next
    apply (reportUnless_still _ _ _).after
    intro _ next
    apply (subscript_traces hexpr symbol _).bind
    intro target next
    apply (note_still _).after
    intro _ last
    apply Traces.pure
    intro ts htarget
    rw [List.append_nil]
    have helement := htarget _ (begins_cons state.advanced.cursor.current [])
    exact .reach (begins_cons state.cursor.current []) .nil helement
  · exact Traces.position_bind (.failAt _ _)

theorem freshFactor_traces (hexpr : TracesExprs settings expr) :
    TracesExprs settings (freshFactor expr) := by
  intro state
  unfold freshFactor
  apply Traces.kind_bind
  split
  · rename_i hkind
    exact (named_traces hexpr (by simp [hkind])).some
  · rename_i hkind
    exact (stringLiteral_traces (by simp [hkind])).some
  · rename_i hkind
    exact (constant_traces (by simp [hkind])).some
  · rename_i hkind
    exact (parenthesized_traces hexpr (by simp [hkind])).some
  · rename_i hkind
    exact (stepped_traces _ (by simp [hkind])).some
  · rename_i hkind
    exact (stepped_traces _ (by simp [hkind])).some
  · rename_i hkind
    exact (addressed_traces hexpr (by simp [hkind])).some
  · exact .pure (by simp)

end Factors

/-! ## Chains -/

/-- The tokens of the beginning that a rule is handed. -/
inductive Leads : List Token → Option Handoff → Prop
  | none : Leads [] none
  | ident {lead symbol span} : Names lead span → Leads lead (some (.ident symbol span))
  | element {lead target} : Among lead [target.outline] → Leads lead (some (.element target))

/-- An expression lies among the tokens read for it, with those of its beginning. -/
def TracesRule (settings : Settings) (rule : Rule) : Prop :=
  ∀ state handoff?, Traces settings state
    (fun ts e? => ∀ e ∈ e?, ∀ lead, Leads lead handoff? → Among (lead ++ ts) [e.outline])
    (rule handoff?)

theorem TracesRule.fresh {rule : Rule} (hrule : TracesRule settings rule) :
    TracesExprs settings (rule none) := by
  intro state
  apply (hrule state none).imp
  intro ts e? hresult e he
  exact hresult e he [] .none

section Chains

variable {expr : Parse (Option Expr)} [Respects KeepsReports expr] [Respects MovesOn expr]

theorem factor_traces (hexpr : TracesExprs settings expr) :
    TracesRule settings (factor expr) := by
  intro state handoff?
  unfold factor
  rcases handoff? with _ | ⟨symbol, span⟩ | ⟨target⟩
  · apply (freshFactor_traces hexpr state).imp
    rintro ts e? hresult e he lead ⟨⟩
    exact hresult e he
  · apply (afterName_traces hexpr symbol span).bind
    intro factor next
    apply Traces.pure
    rintro ts hfactor e ⟨⟩ lead ⟨⟩
    rename_i hnames
    rw [List.append_nil]
    exact (hfactor lead hnames).widen
  · apply Traces.pure
    rintro e ⟨⟩ lead ⟨⟩
    rename_i htarget
    rw [List.append_nil]
    exact htarget.read.widen

theorem negated_traces (hexpr : TracesExprs settings expr) (hkind : state.cursor.kind ≠ .eof) :
    Traces settings state (fun ts e => Among ts [e.outline]) (negated expr) := by
  unfold negated
  apply Traces.advance_bind hkind
  apply Traces.position_bind
  apply (Traces.orFail _ ((factor_traces hexpr).fresh _)).bind
  intro operand next
  apply Traces.read_bind
  apply (reportUnless_still _ _ _).after
  intro _ last
  apply Traces.pure
  intro ts hoperand
  rw [List.append_nil]
  have hnode := Among.reach (begins_cons state.cursor.current []) .nil hoperand
  rwa [Expr.outline_span] at hnode

theorem value_traces (hexpr : TracesExprs settings expr) : TracesRule settings (value expr) := by
  intro state handoff?
  cases handoff? with
  | some handoff => exact factor_traces hexpr state (some handoff)
  | none =>
      unfold value
      apply Traces.kind_bind
      split
      · rename_i hkind
        apply (negated_traces hexpr (by simp [hkind])).some.imp
        rintro ts e? hresult e he lead ⟨⟩
        exact hresult e he
      · exact factor_traces hexpr state none

theorem joined_traces (operator : BinaryOp) (lhs rhs : Expr) (position : Position) :
    Traces settings state
      (fun ts node => ts = [] ∧ node.outline =
        .node { start := lhs.start, stop := rhs.stop } [lhs.outline, rhs.outline])
      (joined operator lhs rhs position) := by
  unfold joined
  apply Traces.read_bind
  apply (reportUnless_still _ _ _).after
  intro _ next
  apply (note_still _).after
  intro _ last
  exact .pure ⟨rfl, rfl⟩

/-- Each operator joins what was read before it and the operand behind it. -/
theorem operatorsAfter_traces {operand : Parse (Option Expr)} (level : Precedence)
    (hoperand : TracesExprs settings operand) (budget : Nat) (lhs : Expr) :
    Traces settings state
      (fun ts e => ∀ lead, Among lead [lhs.outline] → Among (lead ++ ts) [e.outline])
      (operatorsAfter level operand budget lhs) := by
  induction budget generalizing state lhs with
  | zero =>
      unfold operatorsAfter
      apply Traces.pure
      intro lead hlead
      rwa [List.append_nil]
  | succ budget ih =>
      unfold operatorsAfter
      apply Traces.kind_bind
      split
      · apply Traces.pure
        intro lead hlead
        rwa [List.append_nil]
      · rename_i operator hoperator
        apply Traces.advance_bind (kind_ne_of_operator? hoperator).1
        apply (Traces.orFail _ (hoperand _)).bind
        intro rhs next
        apply (joined_traces operator lhs rhs _).after
        intro node last
        apply (ih node).imp
        intro us e hchain hnode ts hrhs lead hlead
        have hjoined := hlead.join (hrhs.cons state.cursor.current)
        rw [Expr.outline_span, Expr.outline_span] at hjoined
        have hresult := hchain _ (hnode ▸ hjoined)
        simpa using hresult

theorem chain_traces {rule : Rule} (level : Precedence) (hrule : TracesRule settings rule) :
    TracesRule settings (chain level rule) := by
  intro state handoff?
  unfold chain
  apply (hrule state handoff?).bind
  intro lhs? next
  cases lhs? with
  | none => exact .pure (by simp)
  | some lhs =>
      apply Traces.remaining_bind
      apply (operatorsAfter_traces level hrule.fresh _ lhs).some.imp
      intro us e? hchain ts hlhs e he lead hlead
      have hresult := hchain e he _ (hlhs lhs rfl lead hlead)
      rwa [List.append_assoc] at hresult

theorem orExpr_traces (hexpr : TracesExprs settings expr) : TracesRule settings (orExpr expr) :=
  chain_traces _ <| chain_traces _ <| chain_traces _ <| chain_traces _ <| chain_traces _ <|
    value_traces hexpr

end Chains

theorem exprWithin_traces (budget : Nat) : TracesExprs settings (exprWithin budget none) := by
  induction budget with
  | zero => exact fun state => .position_bind (.failAt _ _)
  | succ budget ih => exact (orExpr_traces ih).fresh

/-- Whatever an expression begins with, it lies among its tokens. -/
theorem exprAfter_traces : TracesRule settings exprAfter := by
  intro state handoff?
  unfold exprAfter withExpr
  exact .remaining_bind (orExpr_traces (exprWithin_traces _) state handoff?)

theorem expr_traces : TracesExprs settings expr := exprAfter_traces.fresh

theorem requireExpr_traces (malformation : Malformation) :
    Traces settings state (fun ts e => Among ts [e.outline]) (requireExpr malformation) := by
  unfold requireExpr
  exact .position_bind (.orFail _ (expr_traces state))

end SubsetC.Parse
