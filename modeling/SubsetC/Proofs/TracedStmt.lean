import SubsetC.Proofs.SoundProgram
import SubsetC.Proofs.TracedExpr

/-!
# Statements among the tokens that are read

A statement lies among the tokens from its first word to its closing mark, or to
the end of the statement inside it.  The type and the size of a declaration belong
to no node but the declaration.
-/

namespace SubsetC.Parse

variable {settings : Settings} {state : ParseState}

/-- The first token that is read is the one that the cursor stood on. -/
theorem Traces.first {α : Type} {P : List Token → α → Prop} {parse : Parse α}
    (hparse : Traces settings state P parse) :
    Traces settings state
      (fun ts value => P ts value ∧ ∀ token others, ts = token :: others →
        token = state.cursor.current) parse where
  keeps := hparse.keeps
  reads hrun hfaults := by
    obtain ⟨ts, hreads, hvalue⟩ := hparse.reads hrun hfaults
    refine ⟨ts, hreads, hvalue, ?_⟩
    rintro token others rfl
    rw [Cursor.current, hreads]
    rfl

/-! ## Declarations -/

/-- A value that is fitted to a type lies where it lay before. -/
theorem coerce_traces (target : Ty) (value : Expr) (misuse : Ty → Ty → Misuse)
    (position : Position) :
    Traces settings state
      (fun ts e => ts = [] ∧ ∀ inner, Among inner [value.outline] → Among inner [e.outline])
      (coerce target value misuse position) := by
  unfold coerce
  split
  · exact .pure ⟨rfl, fun _ hamong => hamong⟩
  · split
    · exact .pure ⟨rfl, fun _ hamong => hamong.narrow⟩
    · exact .pure ⟨rfl, fun _ hamong => hamong.widen⟩
    · exact (reportMisuse_still _ _).after fun _ _ => .pure ⟨rfl, fun _ hamong => hamong⟩

theorem typeSpecifier_traces :
    Traces settings state (fun ts _ => ts = [state.cursor.current]) typeSpecifier := by
  unfold typeSpecifier
  apply Traces.current_bind
  split
  · rename_i ty hspecifier
    exact .advance_bind (specifier_ne_eof hspecifier) (.pure rfl)
  · exact .failAt _ _

theorem expectFor_traces {expected : TokenKind} (hexpected : expected ≠ .eof)
    (expectation : Expectation) :
    Traces settings state (fun ts token => ts = [token]) (expectFor expected expectation) := by
  unfold expectFor
  apply Traces.current_bind
  rw [← bind_pure (expectOr expected _)]
  exact .expectOr_bind hexpected fun _ => .pure rfl

theorem adopt_still (name : Token) (declared : Except Symbol SymbolTable) :
    Still settings state (adopt name declared) := by
  cases declared with
  | ok symbols => exact modify_still rfl rfl
  | error existing => exact reportMisuse_still _ _

theorem declareVariable_still (name : Token) (ty : Ty) :
    Still settings state (declareVariable name ty) := by
  unfold declareVariable
  exact .get_bind ((adopt_still _ _).after fun _ _ => .pure rfl)

theorem declareFunction_still (name : Token) (signature : Signature) :
    Still settings state (declareFunction name signature) := by
  unfold declareFunction
  exact .get_bind ((adopt_still _ _).after fun _ _ => .pure rfl)

theorem initialValue_traces (ty : Ty) :
    Traces settings state (fun ts value? => Among ts (value?.map Expr.outline).toList)
      (initialValue ty) := by
  unfold initialValue
  apply Traces.kind_bind
  split
  · rename_i hkind
    apply Traces.advance_bind (by simp [hkind])
    apply (requireExpr_traces _).bind
    intro value next
    apply Traces.map
    apply (coerce_traces ty value _ _).imp
    rintro us e ⟨rfl, he⟩ ts hvalue
    rw [List.append_nil]
    exact (he ts hvalue).cons _
  · exact .pure .nil

theorem declarator_traces (base : Ty) (name : Token) (start : Position) :
    Traces settings state
      (fun ts declaration => ∀ lead, Begins lead start →
        Among (lead ++ ts) [declaration.outline])
      (declarator base name start) := by
  unfold declarator
  apply traces_of_movesOn.bind
  intro declared next
  obtain ⟨ty, size?⟩ := declared
  simp only
  split
  · exact .failAt _ _
  · apply (declareVariable_still name ty).after
    intro symbol next
    apply (initialValue_traces ty).bind
    intro initial? next
    apply Traces.expect_bind (by decide)
    apply Traces.pure
    intro ts hinitial size _ lead hlead
    have hparts := (hinitial.preceded size).preceded lead
    have hclosed := hparts.closed (hlead.append _) next.cursor.current
    rwa [List.append_assoc, List.append_assoc] at hclosed

theorem declaration_traces :
    Traces settings state (fun ts declaration => Among ts [declaration.outline])
      declaration := by
  unfold declaration
  apply Traces.position_bind
  apply typeSpecifier_traces.bind
  intro base next
  apply (expectFor_traces (by decide) _).bind
  intro name next
  apply (declarator_traces base name _).imp
  rintro us result hresult ts rfl specifier rfl
  exact hresult _ (begins_cons state.cursor.current [name])

/-! ## Statements -/

theorem condition_traces :
    Traces settings state (fun ts e => Among ts [e.outline]) condition := by
  unfold condition
  apply Traces.expect_bind (by decide)
  apply (requireExpr_traces _).bind
  intro value next
  apply Traces.expect_bind (by decide)
  apply (reportUnless_still _ _ _).after
  intro _ last
  apply Traces.pure
  intro ts hvalue
  exact (hvalue.followed _).cons _

theorem returned_traces (hkind : state.cursor.kind ≠ .eof) :
    Traces settings state (fun ts stmt => Among ts [stmt.outline]) returned := by
  unfold returned
  apply Traces.advance_bind hkind
  apply Traces.get_bind
  apply (expr_traces _).bind
  intro value? next
  cases value? with
  | some value =>
      apply (coerce_traces _ value _ _).after
      intro e last
      apply Traces.expect_bind (by decide)
      apply Traces.pure
      intro he ts hvalue
      exact ((he ts (hvalue value rfl)).cons _).closed (begins_cons _ _) _
  | none =>
      apply (reportUnless_still _ _ _).after
      intro _ last
      apply Traces.expect_bind (by decide)
      apply Traces.pure
      intro ts _
      exact Among.nil.closed (begins_cons _ ts) _

theorem beginning_traces (name : Token) :
    Traces settings state (fun ts handoff => Leads (name :: ts) (some handoff))
      (beginning name) := by
  unfold beginning
  apply (resolve_still _ _).after
  intro symbol next
  apply Traces.kind_bind
  split
  · apply (acceptsSubscript_still symbol).after
    intro accepts next
    split
    · rw [withExpr_subscript]
      apply (subscript_traces expr_traces symbol name.span).attempt_bind
      · intro target last
        apply Traces.pure
        intro ts htarget
        rw [List.append_nil]
        exact .element (htarget [name] (begins_cons name []))
      · intro failure last
        exact .recoverPast_bind
    · apply traces_of_movesOn.bind
      intro _ last
      apply Traces.get_bind
      apply Traces.pure
      intro ts _
      exact .ident (names_cons name _)
  · exact .pure (.ident (names_cons name []))

/-- An assignment lies among tokens that begin with its target and go on with its value. -/
theorem assignment_traces (target : Handoff) (value : Expr) (position : Position) (span : Span) :
    Traces settings state
      (fun us stmt => us = [] ∧ ∀ lead ts, Leads lead (some target) →
        Among ts [value.outline] → Begins (lead ++ ts) span.start →
          Ends (lead ++ ts) span.stop → Among (lead ++ ts) [stmt.outline])
      (assignment target value position span) := by
  unfold assignment
  cases target with
  | ident symbol _ =>
      apply (coerce_traces _ value _ _).after
      intro e next
      apply Traces.pure
      intro he
      refine ⟨rfl, fun lead ts _ hvalue hbegins hends => ?_⟩
      exact .node hbegins hends ((he ts hvalue).preceded lead)
  | element target =>
      apply (coerce_traces _ value _ _).after
      intro e next
      apply Traces.pure
      intro he
      refine ⟨rfl, fun lead ts hlead hvalue hbegins hends => ?_⟩
      cases hlead with
      | element htarget => exact .node hbegins hends (htarget.append (he ts hvalue))

theorem namedStmt_traces (hkind : state.cursor.kind ≠ .eof) :
    Traces settings state (fun ts stmt => Among ts [stmt.outline]) namedStmt := by
  unfold namedStmt
  apply Traces.advance_bind hkind
  apply (beginning_traces _).bind
  intro handoff next
  apply Traces.kind_bind
  split
  · rename_i hassignment
    apply Traces.advance_bind (by simp [hassignment])
    apply (requireExpr_traces _).bind
    intro value middle
    apply Traces.expect_bind (by decide)
    apply (assignment_traces handoff value _ _).imp
    rintro us stmt ⟨rfl, hstmt⟩ ts hvalue lead hlead
    have hright := (hvalue.followed [middle.cursor.current]).cons next.cursor.current
    exact hstmt _ _ hlead hright (begins_cons _ _)
      (((ends_concat ts middle.cursor.current).append [next.cursor.current]).append _)
  · apply (Traces.orFail _ (exprAfter_traces _ (some handoff))).bind
    intro e middle
    apply Traces.expect_bind (by decide)
    apply Traces.pure
    intro ts he lead hlead
    have hbegins := (begins_cons state.cursor.current lead).append ts
    have hclosed := (he _ hlead).closed hbegins middle.cursor.current
    rw [List.append_assoc] at hclosed
    exact hclosed

theorem evaluated_traces :
    Traces settings state (fun ts stmt => Among ts [stmt.outline]) evaluated := by
  unfold evaluated
  apply Traces.current_bind
  apply (Traces.orFail _ (expr_traces _)).first.bind
  intro e middle
  apply Traces.expect_bind (by decide)
  apply Traces.pure
  rintro ts ⟨he, hfirst⟩
  obtain ⟨token, others, rfl⟩ := he.exists_cons
  obtain rfl := hfirst token others rfl
  exact he.closed (begins_cons _ _) _

/-- A statement lies among the tokens read for it. -/
def TracesStmts (settings : Settings) (stmt : Parse Stmt) : Prop :=
  ∀ state, Traces settings state (fun ts result => Among ts [result.outline]) stmt

section Nested

variable {stmt : Parse Stmt} [Respects KeepsReports stmt] [Respects MovesOn stmt]

theorem stmtsUntilClose_traces (hstmt : TracesStmts settings stmt) (budget : Nat) :
    Traces settings state (fun ts stmts => Among ts (Stmt.outlines stmts))
      (stmtsUntilClose stmt budget) := by
  induction budget generalizing state with
  | zero =>
      unfold stmtsUntilClose
      exact .position_bind (.failAt _ _)
  | succ budget ih =>
      unfold stmtsUntilClose
      apply Traces.kind_bind
      split
      · exact .pure .nil
      · exact .position_bind (.failAt _ _)
      · apply (hstmt state).attempt_bind
        · intro first next
          apply ih.bind
          intro others last
          apply Traces.pure
          intro us hothers ts hfirst
          rw [List.append_nil]
          exact hfirst.append hothers
        · intro failure next
          simp only
          unfold recoverStmt
          rw [bind_assoc]
          exact .recoverPast_bind

theorem block_traces (hstmt : TracesStmts settings stmt) :
    Traces settings state (fun ts block => Among ts [block.outline]) (block stmt) := by
  unfold block
  apply Traces.expect_bind (by decide)
  apply Traces.remaining_bind
  apply (stmtsUntilClose_traces hstmt _).bind
  intro body next
  apply Traces.expect_bind (by decide)
  apply Traces.pure
  intro ts hbody
  exact (hbody.cons _).closed (begins_cons _ _) _

omit [Respects KeepsReports stmt] [Respects MovesOn stmt] in
theorem conditional_traces (hstmt : TracesStmts settings stmt)
    (hkind : state.cursor.kind ≠ .eof) :
    Traces settings state (fun ts result => Among ts [result.outline]) (conditional stmt) := by
  unfold conditional
  apply Traces.advance_bind hkind
  apply condition_traces.bind
  intro test next
  apply (hstmt _).bind
  intro accepted next
  apply Traces.accept_bind (by decide)
  · apply (hstmt _).bind
    intro rejected last
    apply Traces.pure
    intro vs hrejected us haccepted ts htest
    have hlead := ((htest.append haccepted).followed [next.cursor.current]).cons
      state.cursor.current
    have hnode := hlead.reach (begins_cons _ _) hrejected
    simp only [List.cons_append, List.append_assoc, List.nil_append, Stmt.outline_span] at hnode
    rw [List.append_nil]
    exact hnode
  · apply Traces.pure
    intro us haccepted ts htest
    have hnode := (htest.cons state.cursor.current).reach (begins_cons _ _) haccepted
    rw [Stmt.outline_span] at hnode
    rw [List.append_nil]
    exact hnode

omit [Respects KeepsReports stmt] [Respects MovesOn stmt] in
theorem whileLoop_traces (hstmt : TracesStmts settings stmt)
    (hkind : state.cursor.kind ≠ .eof) :
    Traces settings state (fun ts result => Among ts [result.outline]) (whileLoop stmt) := by
  unfold whileLoop
  apply Traces.advance_bind hkind
  apply condition_traces.bind
  intro test next
  apply (hstmt _).bind
  intro body last
  apply Traces.pure
  intro us hbody ts htest
  have hnode := (htest.cons state.cursor.current).reach (begins_cons _ _) hbody
  rw [Stmt.outline_span] at hnode
  rw [List.append_nil]
  exact hnode

theorem stmtWith_traces (hstmt : TracesStmts settings stmt) :
    TracesStmts settings (stmtWith stmt) := by
  intro state
  unfold stmtWith
  apply Traces.kind_bind
  split
  · apply Traces.map
    exact (block_traces hstmt).bracket ⟨rfl, rfl⟩ fun _ => ⟨rfl, rfl⟩
  · rename_i hkind
    exact conditional_traces hstmt (by simp [hkind])
  · rename_i hkind
    exact whileLoop_traces hstmt (by simp [hkind])
  · rename_i hkind
    exact returned_traces (by simp [hkind])
  · rename_i hkind
    apply Traces.advance_bind (by simp [hkind])
    exact .pure (among_token _)
  · rename_i hkind
    exact namedStmt_traces (by simp [hkind])
  all_goals first
    | exact evaluated_traces
    | exact .map (declaration_traces.imp fun _ _ hdeclared => hdeclared.wrap)

end Nested

theorem stmtWithin_traces (budget : Nat) : TracesStmts settings (stmtWithin budget) := by
  induction budget with
  | zero => exact fun state => .position_bind (.failAt _ _)
  | succ budget ih => exact stmtWith_traces ih

end SubsetC.Parse
