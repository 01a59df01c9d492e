import SubsetC.Proofs.PrintfFlagExpr

/-!
# The flag for `printf` in programs

Statements, declarations and functions raise the flag just if one of their expressions holds a
call of `printf`.  So if reading reports no fault, the flag of a program says whether its tree
holds such a call (`needsPrintf_iff_call`).
-/

namespace SubsetC

namespace Parse

variable {settings : Settings}

/-! ## Declarations -/

/-- Fitting a value to a type adds no call and drops none. -/
theorem coerce_flags (target : Ty) (value : Expr) (misuse : Ty → Ty → Misuse)
    (position : Position) :
    Flags settings (fun raised e => raised = false ∧ e.prints = value.prints)
      (coerce target value misuse position) := by
  unfold coerce
  refine .ite (.pure ⟨rfl, rfl⟩) ?_
  split
  · exact .pure ⟨rfl, value.prints_narrow⟩
  · exact .pure ⟨rfl, value.prints_widen⟩
  · exact .after fun _ => .pure ⟨rfl, rfl⟩

theorem initialValue_tells (ty : Ty) : TellsExpr settings (initialValue ty) := by
  unfold initialValue
  apply Flags.after
  intro kind
  refine .ite ?_ (.pure rfl)
  apply Flags.after
  intro sign
  apply (requireExpr_tells _).collect
  intro value
  apply Flags.map
  apply (coerce_flags ty value _ _).imp
  rintro raised e ⟨rfl, hsame⟩
  simp [hsame]

theorem declarator_tells (base : Ty) (name : Token) (start : Position) :
    Tells settings (fun declaration => declaration.exprs.any Expr.prints)
      (declarator base name start) := by
  unfold declarator
  apply Flags.after
  rintro ⟨ty, size?⟩
  refine .ite (.failAt _ _) ?_
  apply Flags.after
  intro symbol
  apply (initialValue_tells ty).collect
  intro initial?
  apply Flags.after
  intro semicolon
  apply Flags.pure
  cases initial? <;> simp [Declaration.exprs]

theorem declaration_tells :
    Tells settings (fun declaration => declaration.exprs.any Expr.prints) declaration := by
  unfold declaration
  apply Flags.after
  intro start
  apply Flags.after
  intro base
  exact .after fun name => declarator_tells base name _

/-! ## Statements -/

/-- Whether an expression of the statement holds a call of `printf` tells whether the parse
raises the flag. -/
abbrev TellsStmt (settings : Settings) (stmt : Parse Stmt) : Prop :=
  Tells settings (fun result => result.exprs.any Expr.prints) stmt

theorem condition_tells : Tells settings Expr.prints condition := by
  unfold condition
  apply Flags.after
  intro opening
  apply (requireExpr_tells _).collect
  intro value
  apply Flags.after
  intro closing
  exact .after fun _ => .pure (Bool.or_false _)

theorem returned_tells : TellsStmt settings returned := by
  unfold returned
  apply Flags.after
  intro word
  apply Flags.after
  intro state
  apply exprAfter_tells.fresh.collect
  intro value?
  cases value? with
  | some value =>
      apply (coerce_flags _ value _ _).bind
      intro e
      apply Flags.after
      intro semicolon
      apply Flags.pure
      rintro raised ⟨rfl, hsame⟩
      simp [hsame]
  | none =>
      apply Flags.after
      intro _
      exact .after fun _ => .pure rfl

theorem beginning_tells (name : Token) :
    Tells settings Handoff.prints (beginning name) := by
  unfold beginning
  apply Flags.after
  intro symbol
  apply Flags.after
  intro kind
  refine .ite ?_ (.pure rfl)
  apply Flags.after
  intro accepts
  refine .ite ?_ (.after fun _ => .after fun _ => .pure rfl)
  have hsubscript : Tells settings (fun target => target.index.prints)
      (withExpr fun whole => subscript whole symbol name.span) :=
    .after fun _ => subscript_tells (exprWithin_tells _) symbol _
  have hkeeps : Respects KeepsReports
      (withExpr fun whole => subscript whole symbol name.span) :=
    .withExpr fun _ _ => inferInstance
  have hflag : Respects KeepsFlag (withExpr fun whole => subscript whole symbol name.span) :=
    .withExpr fun _ _ => inferInstance
  apply hsubscript.attempt_bind
  · intro target
    apply Flags.pure
    rintro raised rfl
    exact Bool.or_false _
  · intro failure
    exact .recoverPast_bind

/-- The value of an assignment is read before, like what begins its target. -/
theorem assignment_flags (target : Handoff) (value : Expr) (position : Position) (span : Span) :
    Flags settings
      (fun raised stmt => raised = false ∧
        stmt.exprs.any Expr.prints = (target.prints || value.prints))
      (assignment target value position span) := by
  unfold assignment
  cases target with
  | ident symbol _ =>
      apply (coerce_flags _ value _ _).bind
      intro e
      apply Flags.pure
      rintro raised ⟨rfl, hsame⟩
      simp [Handoff.prints, hsame]
  | element target =>
      apply (coerce_flags _ value _ _).bind
      intro e
      apply Flags.pure
      rintro raised ⟨rfl, hsame⟩
      simp [Handoff.prints, hsame]

theorem namedStmt_tells : TellsStmt settings namedStmt := by
  unfold namedStmt
  apply Flags.after
  intro name
  apply (beginning_tells name).collect
  intro handoff
  apply Flags.after
  intro kind
  refine .ite ?_ ?_
  · apply Flags.after
    intro sign
    apply (requireExpr_tells _).collect
    intro value
    apply Flags.after
    intro semicolon
    apply (assignment_flags handoff value _ _).imp
    rintro raised stmt ⟨rfl, hsame⟩
    simp [hsame]
  · have hexpr : Flags settings
        (fun raised e? => ∀ e ∈ e?, e.prints = (handoff.prints || raised))
        (exprAfter (some handoff)) := by
      apply (exprAfter_tells (some handoff)).imp
      rintro raised e? hresult e ⟨⟩
      exact hresult
    apply (Flags.orFail _ hexpr).bind
    intro e
    apply Flags.after
    intro semicolon
    apply Flags.pure
    intro raised he
    simp [he]

theorem evaluated_tells : TellsStmt settings evaluated := by
  unfold evaluated
  apply Flags.after
  intro token
  apply (Tells.orFail _ exprAfter_tells.fresh).collect
  intro e
  exact .after fun _ => .pure (by simp)

section Nested

variable {stmt : Parse Stmt}

theorem conditional_tells (hstmt : TellsStmt settings stmt) :
    TellsStmt settings (conditional stmt) := by
  unfold conditional
  apply Flags.after
  intro word
  apply condition_tells.collect
  intro test
  apply hstmt.collect
  intro accepted
  apply Flags.after
  intro otherwise
  refine .ite ?_ (.pure (by simp))
  apply hstmt.collect
  intro rejected
  exact .pure (by simp)

theorem whileLoop_tells (hstmt : TellsStmt settings stmt) :
    TellsStmt settings (whileLoop stmt) := by
  unfold whileLoop
  apply Flags.after
  intro word
  apply condition_tells.collect
  intro test
  apply hstmt.collect
  intro body
  exact .pure (by simp)

variable [Respects KeepsReports stmt] [Respects KeepsFlag stmt]

theorem stmtsUntilClose_tells (hstmt : TellsStmt settings stmt) (budget : Nat) :
    Tells settings (fun stmts => (Stmt.allExprs stmts).any Expr.prints)
      (stmtsUntilClose stmt budget) := by
  induction budget with
  | zero =>
      unfold stmtsUntilClose
      exact .after fun _ => .failAt _ _
  | succ budget ih =>
      unfold stmtsUntilClose
      apply Flags.after
      intro kind
      split
      · exact .pure rfl
      · exact .after fun _ => .failAt _ _
      · apply hstmt.attempt_bind
        · intro first
          apply ih.collect
          intro others
          apply Flags.pure
          rintro raised rfl
          simp
        · intro failure
          simp only
          unfold recoverStmt
          rw [bind_assoc]
          exact .recoverPast_bind

theorem block_tells (hstmt : TellsStmt settings stmt) :
    Tells settings (fun block => (Stmt.allExprs block.body).any Expr.prints) (block stmt) := by
  unfold block
  apply Flags.after
  intro opening
  apply Flags.after
  intro budget
  apply (stmtsUntilClose_tells hstmt _).collect
  intro body
  exact .after fun _ => .pure (Bool.or_false _)

theorem stmtWith_tells (hstmt : TellsStmt settings stmt) :
    TellsStmt settings (stmtWith stmt) := by
  have hblock : TellsStmt settings (Block.toStmt <$> inScope (block stmt)) := by
    apply Flags.map
    exact (block_tells hstmt).bracket (fun _ => ⟨rfl, rfl⟩) fun _ => ⟨rfl, rfl⟩
  have hdeclaration : TellsStmt settings (Stmt.declare <$> declaration) :=
    .map declaration_tells
  unfold stmtWith
  apply Flags.after
  intro kind
  split
  · exact hblock
  · exact conditional_tells hstmt
  · exact whileLoop_tells hstmt
  · exact returned_tells
  · exact .after fun token => .pure rfl
  · exact namedStmt_tells
  · exact hdeclaration
  · exact hdeclaration
  · exact hdeclaration
  · exact evaluated_tells

end Nested

theorem stmtWithin_tells (budget : Nat) : TellsStmt settings (stmtWithin budget) := by
  induction budget with
  | zero => exact .after fun _ => .failAt _ _
  | succ budget ih => exact stmtWith_tells ih

/-! ## Programs -/

theorem functionRest_tells (returns : Ty) (name : Token) (start : Position) :
    Tells settings (fun defined => (Stmt.allExprs defined.body.body).any Expr.prints)
      (functionRest returns name start) := by
  have hbody : Tells settings (fun body => (Stmt.allExprs body.body).any Expr.prints)
      (functionBody returns) :=
    .after fun _ => .after fun _ => block_tells (stmtWithin_tells _)
  unfold functionRest
  apply Flags.after
  intro params
  apply Flags.after
  intro closing
  apply Flags.after
  intro symbol
  apply Flags.after
  intro _
  apply hbody.collect
  intro body
  exact .pure (Bool.or_false _)

theorem function_tells (returns : Ty) (name : Token) (start : Position) :
    Tells settings (fun defined => (Stmt.allExprs defined.body.body).any Expr.prints)
      (function returns name start) := by
  unfold function
  apply Flags.after
  intro opening
  exact (functionRest_tells returns name start).bracket (fun _ => ⟨rfl, rfl⟩)
    fun _ => ⟨rfl, rfl⟩

theorem external_tells :
    Tells settings (fun found => found.exprs.any Expr.prints) external := by
  unfold external
  apply Flags.after
  intro start
  apply Flags.after
  intro base
  apply Flags.after
  intro name
  apply Flags.after
  intro kind
  exact .ite (.map (function_tells base name start)) (.map (declarator_tells base name start))

theorem externals_tells (budget : Nat) :
    Tells settings (fun found => (found.flatMap External.exprs).any Expr.prints)
      (externals budget) := by
  induction budget with
  | zero => exact .pure rfl
  | succ budget ih =>
      unfold externals
      apply Flags.after
      intro more
      refine .ite ?_ (.pure rfl)
      apply external_tells.attempt_bind
      · intro first
        apply ih.collect
        intro others
        apply Flags.pure
        rintro raised rfl
        simp
      · intro failure
        exact .recoverPast_bind

/-- The flag of a program is that of the state behind its last declaration or function, and
nothing is reported after that. -/
theorem parse_eq_ok_flag {tokens : List Token} {found : Program} {last : ParseState}
    (hparse : parse settings tokens = (.ok found, last)) :
    ∃ behind, externals (started settings tokens).cursor.remaining settings
        (started settings tokens) = .ok found.externals behind ∧
      found.needsPrintf = behind.needsPrintf ∧ behind.journal.faults = last.journal.faults := by
  rw [parse_run, program_run] at hparse
  cases hrun : (externals (started settings tokens).cursor.remaining).run settings
      (started settings tokens) with
  | mk result behind =>
      rw [hrun] at hparse
      cases result with
      | ok externals =>
          cases hparse
          exact ⟨behind, run_eq_ok hrun, rfl, rfl⟩
      | error failure => cases hparse

end Parse

open Parse

theorem Expr.isPrintfCall_iff {e : Expr} :
    e.isPrintfCall = true ↔
      ∃ callee arguments span, e = .call callee arguments span ∧ callee.name = "printf" := by
  constructor
  · intro hcall
    cases e with
    | call callee arguments span =>
        exact ⟨callee, arguments, span, rfl, of_decide_eq_true hcall⟩
    | _ => contradiction
  · rintro ⟨callee, arguments, span, rfl, hname⟩
    exact decide_eq_true hname

theorem Program.any_prints_iff {program : Program} :
    program.exprs.any Expr.prints = true ↔
      ∃ callee arguments span, .call callee arguments span ∈ program.nodes ∧
        callee.name = "printf" := by
  simp only [Program.nodes, List.mem_flatMap, List.any_eq_true, Expr.prints,
    Expr.isPrintfCall_iff]
  constructor
  · rintro ⟨e, he, node, hnode, callee, arguments, span, rfl, hname⟩
    exact ⟨callee, arguments, span, ⟨e, he, hnode⟩, hname⟩
  · rintro ⟨callee, arguments, span, ⟨e, he, hnode⟩, hname⟩
    exact ⟨e, he, _, hnode, callee, arguments, span, rfl, hname⟩

/-- If reading reports no fault, the flag of a program is raised just if its tree holds a call
of a symbol that is named `printf`, whatever this symbol is and whatever is checked. -/
theorem needsPrintf_iff_call {settings : Settings} {tokens : List Token} {program : Program}
    {state : ParseState} (hparse : parse settings tokens = (.ok program, state))
    (hfaults : state.journal.faults = []) :
    program.needsPrintf = true ↔
      ∃ callee arguments span, .call callee arguments span ∈ program.nodes ∧
        callee.name = "printf" := by
  obtain ⟨behind, hrun, hflag, hsame⟩ := parse_eq_ok_flag hparse
  obtain ⟨raised, hraised, htells⟩ :=
    (externals_tells _).flags hrun (hsame.trans hfaults)
  have hstart : (started settings tokens).needsPrintf = false := rfl
  rw [hstart, Bool.false_or, htells] at hraised
  rw [hflag, hraised]
  exact program.any_prints_iff

/-- A text with a variable that is called within an argument within the subscript of a target.
The call is passed over only if it is checked. -/
def shadowedPrintfText : String :=
  "int a[2]; int f(int printf) \x7b a[f(printf(\"%d\"))] = 1; return !a[0]; \x7d"

theorem shadowedPrintfText_flag :
    ∃ tokens, tokenize shadowedPrintfText "f.c" = .ok tokens ∧ ∀ checks, ∃ program state,
      parse { file := "f.c", checks := checks } tokens = (.ok program, state) ∧
        state.journal.faults = [] ∧ program.needsPrintf = !checks ∧
        (program.needsPrintf = true ↔ ∃ callee arguments span,
          .call callee arguments span ∈ program.nodes ∧ callee.name = "printf") := by
  have hreads : ((tokenize shadowedPrintfText "f.c").toOption.any fun tokens => decide
      (∀ checks, ((parse { file := "f.c", checks := checks } tokens).1.toOption.map
          fun program => program.needsPrintf) = some !checks ∧
        (parse { file := "f.c", checks := checks } tokens).2.journal.faults = [])) = true := by
    decide +kernel
  obtain ⟨tokens, htokens, hparses⟩ := exists_tokens hreads
  refine ⟨tokens, htokens, fun checks => ?_⟩
  obtain ⟨hflag, hfaults⟩ := hparses checks
  obtain ⟨program, hprogram, hflag⟩ := Option.map_eq_some_iff.1 hflag
  have hparse : parse { file := "f.c", checks := checks } tokens =
      (.ok program, (parse { file := "f.c", checks := checks } tokens).2) :=
    Prod.ext (eq_ok_of_toOption hprogram) rfl
  exact ⟨program, _, hparse, hfaults, hflag, needsPrintf_iff_call hparse hfaults⟩

end SubsetC
