import SubsetC.Proofs.SoundExpr

/-!
# Quiet runs of statements and programs read what the grammar derives
-/

namespace SubsetC

theorem isVariableWord_of_specifier {kind : TokenKind} {base : Ty}
    (hbase : Ty.ofSpecifier? kind = some base) (hvoid : base ≠ .void) :
    IsVariableWord kind := by
  unfold IsVariableWord
  cases kind <;> simp_all [Ty.ofSpecifier?]

theorem Ty.ne_void_of_arrayOf? {base ty : Ty} (harray : base.arrayOf? = some ty) :
    base ≠ .void := by
  rintro rfl
  contradiction

theorem specifier_ne_eof {kind : TokenKind} {base : Ty}
    (hbase : Ty.ofSpecifier? kind = some base) : kind ≠ .eof := by
  rintro rfl
  contradiction

namespace Parse

variable {settings : Settings} {state middle next : ParseState}

theorem Reads.remaining {ts : List Token} (hread : Reads state ts next) :
    state.cursor.remaining = ts.length + next.cursor.remaining := by
  unfold Reads at hread
  rw [Cursor.remaining, hread, List.length_append, Cursor.remaining]

/-! ## Declarations -/

theorem initialValue_reads {ty : Ty} {initial? : Option Expr}
    (hquiet : Quiet (initialValue ty) settings state initial? next) :
    ∃ ts, Reads state ts next ∧ IsInitializer ts := by
  rcases quiet_initialValue.1 hquiet with ⟨hsign, value, hvalue, -, -⟩ | ⟨-, -, rfl⟩
  · obtain ⟨ts, hread, hexpr⟩ := expr_reads hvalue
    exact ⟨_, .cons (by rw [hsign]; decide) hread, .value hsign hexpr⟩
  · exact ⟨[], .refl, .none⟩

theorem declaredType_reads {base ty : Ty} {name : Token} {size? : Option Nat}
    (hquiet : Quiet (declaredType base name) settings state (ty, size?) next)
    (hvoid : ty ≠ .void) :
    base ≠ .void ∧ ∃ ts, Reads state ts next ∧ IsBounds ts := by
  rcases quiet_declaredType.1 hquiet with
    ⟨hopen, harray, ⟨hconstant, size, hsize, -, hclose, rfl⟩ | ⟨hclose, -, rfl⟩⟩ |
    ⟨-, rfl, -, rfl⟩
  · refine ⟨Ty.ne_void_of_arrayOf? harray, _, ?_,
      .sized hopen hconstant (by rw [hsize]; rfl) hclose⟩
    exact .cons (by rw [hopen]; decide)
      (.cons (by rw [hconstant]; decide) (.token (by rw [hclose]; decide)))
  · exact ⟨Ty.ne_void_of_arrayOf? harray, _,
      .cons (by rw [hopen]; decide) (.token (by rw [hclose]; decide)),
      .unsized hopen hclose⟩
  · exact ⟨hvoid, [], .refl, .none⟩

theorem declarator_reads {base : Ty} {name : Token} {start : Position} {result : Declaration}
    (hquiet : Quiet (declarator base name start) settings state result next) :
    base ≠ .void ∧ ∃ bounds initializer semicolon, IsBounds bounds ∧
      IsInitializer initializer ∧ semicolon.kind = .semicolon ∧
      Reads state (bounds ++ (initializer ++ [semicolon])) next := by
  obtain ⟨ty, size?, initial?, typed, declared, last, htyped, hvoid, hdeclares, hinitial, hend,
    -, rfl⟩ := quiet_declarator.1 hquiet
  obtain ⟨hbase, bounds, hboundsRead, hbounds⟩ := declaredType_reads htyped hvoid
  obtain ⟨initializer, hread, hinitializer⟩ := initialValue_reads hinitial
  refine ⟨hbase, bounds, initializer, last.cursor.current, hbounds, hinitializer, hend, ?_⟩
  have hlast := hread.trans (.token (by rw [hend]; decide))
  exact hboundsRead.trans (hlast.from_eq hdeclares.cursor_eq)

theorem declaration_reads {result : Declaration}
    (hquiet : Quiet declaration settings state result next) :
    ∃ ts, Reads state ts next ∧ IsDecl ts := by
  obtain ⟨base, hbase, hname, hrest⟩ := quiet_declaration.1 hquiet
  obtain ⟨hvoid, bounds, initializer, semicolon, hbounds, hinitializer, hend, hread⟩ :=
    declarator_reads hrest
  exact ⟨_, .cons (specifier_ne_eof hbase) (.cons (by rw [hname]; decide) hread),
    .intro (isVariableWord_of_specifier hbase hvoid) hname hbounds hinitializer hend⟩

theorem parameter_reads {word : Token} {base : Ty} {symbol : Symbol}
    (hbase : Ty.ofSpecifier? word.kind = some base)
    (hquiet : Quiet (parameter base) settings state symbol next) :
    ∃ ts, Reads state ts next ∧ IsParam (word :: ts) := by
  obtain ⟨hname, ty, typed, -, hform, hdeclares⟩ := quiet_parameter.1 hquiet
  have hnameRead : state.cursor.kind ≠ .eof := by
    rw [hname]
    decide
  rcases hform with ⟨hopen, hclose, harray, rfl⟩ | ⟨-, hvoid, -, rfl⟩
  · have hword := isVariableWord_of_specifier hbase (Ty.ne_void_of_arrayOf? harray)
    refine ⟨_, .to_eq ?_ hdeclares.cursor_eq, .array hword hname hopen hclose⟩
    exact .cons hnameRead
      (.cons (by rw [hopen]; decide) (.token (by rw [hclose]; decide)))
  · have hword := isVariableWord_of_specifier hbase hvoid
    exact ⟨_, .to_eq (.token hnameRead) hdeclares.cursor_eq, .scalar hword hname⟩

/-- With a budget above the number of tokens ahead, parameters are read to their end. -/
theorem parametersFrom_reads {isFirst : Bool} {budget : Nat} {symbols : List Symbol}
    (hbudget : state.cursor.remaining < budget)
    (hquiet : Quiet (parametersFrom isFirst budget) settings state symbols next) :
    (∃ word, word.kind = .voidWord ∧ isFirst = true ∧ Reads state [word] next) ∨
      ∃ first others ts, (∀ part ∈ first :: others, IsParam part) ∧
        Separated (first :: others) ts ∧ Reads state ts next := by
  induction budget generalizing state isFirst symbols with
  | zero => omega
  | succ budget ih =>
      obtain ⟨base, hbase, hform⟩ := quiet_parametersFrom_succ.1 hquiet
      have hword : Reads state [state.cursor.current] state.advanced :=
        .token (specifier_ne_eof hbase)
      rcases hform with ⟨rfl, hfirst, -, -, rfl⟩ | ⟨symbol, middle, hsymbol, hrest⟩
      · refine .inl ⟨state.cursor.current, ?_, hfirst, hword⟩
        have hkind : state.cursor.current.kind = state.cursor.kind := rfl
        rw [hkind]
        cases hcase : state.cursor.kind <;> simp_all [Ty.ofSpecifier?]
      · obtain ⟨ts, hread, hparam⟩ := parameter_reads hbase hsymbol
        have hpart : Reads state (state.cursor.current :: ts) middle := hword.trans hread
        rcases hrest with ⟨hcomma, others, hothers, -⟩ | ⟨-, -, rfl⟩
        · have hcommaRead : Reads middle [middle.cursor.current] middle.advanced :=
            .token (by rw [hcomma]; decide)
          have hless : middle.advanced.cursor.remaining < budget := by
            have hpartRemaining := hpart.remaining
            have hcommaRemaining := hcommaRead.remaining
            simp only [List.length_cons] at hpartRemaining hcommaRemaining
            omega
          rcases ih hless hothers with
            ⟨word, -, hfalse, -⟩ | ⟨second, others, rest, hparams, hseparated, hrestRead⟩
          · contradiction
          · refine .inr ⟨_, second :: others, _, ?_, .more hcomma hseparated,
              hpart.trans (hcommaRead.trans hrestRead)⟩
            intro part hmem
            rcases List.mem_cons.1 hmem with rfl | hmem
            · exact hparam
            · exact hparams part hmem
        · refine .inr ⟨_, [], _, ?_, .one, hpart⟩
          intro part hmem
          rw [List.mem_singleton.1 hmem]
          exact hparam

theorem parameters_reads {symbols : List Symbol}
    (hquiet : Quiet parameters settings state symbols next) :
    ∃ ts, Reads state ts next ∧ IsParams ts := by
  rcases quiet_parameters.1 hquiet with ⟨-, -, rfl⟩ | ⟨-, hrest⟩
  · exact ⟨[], .refl, .none⟩
  · rcases parametersFrom_reads (Nat.lt_succ_self _) hrest with
      ⟨word, hword, -, hread⟩ | ⟨first, others, ts, hparams, hseparated, hread⟩
    · exact ⟨_, hread, .void hword⟩
    · exact ⟨ts, hread, .some (List.cons_ne_nil _ _) hparams hseparated⟩

/-! ## Statements -/

theorem condition_reads {result : Expr}
    (hquiet : Quiet condition settings state result next) :
    ∃ opening test closing, opening.kind = .openParen ∧ closing.kind = .closeParen ∧
      IsExpr test ∧ Reads state (opening :: (test ++ [closing])) next := by
  obtain ⟨hopen, middle, htest, hclose, -, rfl⟩ := quiet_condition.1 hquiet
  obtain ⟨test, hread, hexpr⟩ := expr_reads htest
  exact ⟨_, test, _, hopen, hclose, hexpr,
    .cons (by rw [hopen]; decide) (hread.trans (.token (by rw [hclose]; decide)))⟩

theorem returned_reads {result : Stmt} (hkind : state.cursor.kind = .returnWord)
    (hquiet : Quiet returned settings state result next) :
    ∃ ts, Reads state ts next ∧ IsStmt ts := by
  have hword : state.cursor.kind ≠ .eof := by
    rw [hkind]
    decide
  rcases quiet_returned.1 hquiet with ⟨value, middle, hvalue, -, hend, -, rfl⟩ |
    ⟨-, -, hend, -, rfl⟩
  · obtain ⟨ts, hread, hexpr⟩ := expr_reads hvalue
    exact ⟨_, .cons hword (hread.trans (.token (by rw [hend]; decide))),
      .simple (.retValue hkind hend hexpr)⟩
  · exact ⟨_, .cons hword (.token (by rw [hend]; decide)), .simple (.ret hkind hend)⟩

theorem beginning_reads {name : Token} {handoff : Handoff} (hname : name.kind = .identifier)
    (hquiet : Quiet (beginning name) settings state handoff next) :
    ∃ ts, Reads state ts next ∧ StandsFor (some handoff) (name :: ts) ∧
      (ts = [] ∨ ∃ opening index closing, opening.kind = .openBracket ∧ IsExpr index ∧
        closing.kind = .closeBracket ∧ ts = opening :: (index ++ [closing])) := by
  obtain ⟨symbol, middle, hresolve, hform⟩ := quiet_beginning.1 hquiet
  rcases hform with ⟨-, -, target, htarget, rfl⟩ | ⟨-, rfl, rfl⟩
  · obtain ⟨opening, ts, closing, index, hopen, hclose, hindex, hread⟩ :=
      subscript_reads (exprWithin_reads _) htarget
    exact ⟨_, hread.from_eq hresolve.resolve_cursor,
      .element (.element hname hopen hclose hindex),
      .inr ⟨opening, ts, closing, hopen, ⟨index, hindex⟩, hclose, rfl⟩⟩
  · exact ⟨[], .of_cursor_eq hresolve.resolve_cursor, .ident hname, .inl rfl⟩

theorem namedStmt_reads {result : Stmt} (hkind : state.cursor.kind = .identifier)
    (hquiet : Quiet namedStmt settings state result next) :
    ∃ ts, Reads state ts next ∧ IsStmt ts := by
  obtain ⟨handoff, middle, hbeginning, hrest⟩ := quiet_namedStmt.1 hquiet
  have hname : state.cursor.kind ≠ .eof := by
    rw [hkind]
    decide
  obtain ⟨lead, hlead, hstands, hform⟩ := beginning_reads hkind hbeginning
  have hleadRead := Reads.cons hname hlead
  rcases hrest with ⟨hsign, value, last, hvalue, hend, -, -, rfl⟩ |
    ⟨-, value, last, hvalue, hend, -, rfl⟩
  · obtain ⟨ts, hread, hexpr⟩ := expr_reads hvalue
    have hrestRead := Reads.cons (by rw [hsign]; decide)
      (hread.trans (.token (by rw [hend]; decide)))
    refine ⟨_, hleadRead.trans hrestRead, ?_⟩
    rcases hform with rfl | ⟨opening, index, closing, hopen, hindex, hclose, rfl⟩
    · exact .simple (.assign hkind hsign hend hexpr)
    · rw [List.cons_append, List.cons_append, List.append_assoc, List.singleton_append]
      exact .simple (.assignElement hkind hopen hclose hsign hend hindex hexpr)
  · obtain ⟨ts, e, hread, hwritten⟩ := exprAfter_reads hstands hvalue
    refine ⟨_, hleadRead.trans (hread.trans (.token (by rw [hend]; decide))), ?_⟩
    rw [← List.append_assoc]
    exact .simple (.evaluate hend ⟨e, hwritten⟩)

theorem evaluated_reads {result : Stmt}
    (hquiet : Quiet evaluated settings state result next) :
    ∃ ts, Reads state ts next ∧ IsStmt ts := by
  obtain ⟨value, last, hvalue, hend, -, rfl⟩ := quiet_evaluated.1 hquiet
  obtain ⟨ts, hread, hexpr⟩ := expr_reads hvalue
  exact ⟨_, hread.trans (.token (by rw [hend]; decide)), .simple (.evaluate hend hexpr)⟩

/-- What a parse of statements reads is a statement. -/
def ReadsStmts (stmt : Parse Stmt) : Prop :=
  ∀ {settings state result next}, Quiet stmt settings state result next →
    ∃ ts, Reads state ts next ∧ IsStmt ts

section

variable {stmt : Parse Stmt} [Respects ReportsMore stmt]

theorem stmtsUntilClose_reads (hstmt : ReadsStmts stmt) {budget : Nat} {body : List Stmt}
    (hquiet : Quiet (stmtsUntilClose stmt budget) settings state body next) :
    ∃ parts : List (List Token), (∀ part ∈ parts, IsStmt part) ∧
      Reads state parts.flatten next := by
  induction budget generalizing state body with
  | zero => exact (not_quiet_stmtsUntilClose_zero hquiet).elim
  | succ budget ih =>
      rcases quiet_stmtsUntilClose_succ.1 hquiet with ⟨-, -, rfl⟩ |
        ⟨-, -, first, middle, others, hfirst, hothers, -⟩
      · exact ⟨[], by simp, .refl⟩
      · obtain ⟨ts, hread, hstmt⟩ := hstmt hfirst
        obtain ⟨parts, hparts, hrest⟩ := ih hothers
        refine ⟨ts :: parts, ?_, ?_⟩
        · intro part hmem
          rcases List.mem_cons.1 hmem with rfl | hmem
          · exact hstmt
          · exact hparts part hmem
        · rw [List.flatten_cons]
          exact hread.trans hrest

theorem block_reads (hstmt : ReadsStmts stmt) {result : Block}
    (hquiet : Quiet (block stmt) settings state result next) :
    ∃ (opening : Token) (parts : List (List Token)) (closing : Token),
      opening.kind = .openCurly ∧ closing.kind = .closeCurly ∧
      (∀ part ∈ parts, IsStmt part) ∧
      Reads state (opening :: (parts.flatten ++ [closing])) next := by
  obtain ⟨hopen, body, last, hbody, hclose, -, rfl⟩ := quiet_block.1 hquiet
  obtain ⟨parts, hparts, hread⟩ := stmtsUntilClose_reads hstmt hbody
  exact ⟨_, parts, _, hopen, hclose, hparts,
    .cons (by rw [hopen]; decide) (hread.trans (.token (by rw [hclose]; decide)))⟩

theorem conditional_reads (hstmt : ReadsStmts stmt) {result : Stmt}
    (hkind : state.cursor.kind = .ifWord)
    (hquiet : Quiet (conditional stmt) settings state result next) :
    ∃ ts, Reads state ts next ∧ IsStmt ts := by
  obtain ⟨test, tested, accepted, middle, htest, haccepted, hrest⟩ :=
    quiet_conditional.1 hquiet
  obtain ⟨opening, testTokens, closing, hopen, hclose, hexpr, htestRead⟩ :=
    condition_reads htest
  obtain ⟨acceptedTokens, hacceptedRead, hacceptedStmt⟩ := hstmt haccepted
  have hword : state.cursor.kind ≠ .eof := by
    rw [hkind]
    decide
  rcases hrest with ⟨helse, rejected, hrejected, -⟩ | ⟨-, -, rfl⟩
  · obtain ⟨rejectedTokens, hrejectedRead, hrejectedStmt⟩ := hstmt hrejected
    have helseRead := Reads.cons (by rw [helse]; decide) hrejectedRead
    refine ⟨_, .cons hword (htestRead.trans (hacceptedRead.trans helseRead)), ?_⟩
    rw [List.cons_append, List.append_assoc, List.singleton_append]
    exact .alternative hkind hopen hclose helse hexpr hacceptedStmt hrejectedStmt
  · refine ⟨_, .cons hword (htestRead.trans hacceptedRead), ?_⟩
    rw [List.cons_append, List.append_assoc, List.singleton_append]
    exact .conditional hkind hopen hclose hexpr hacceptedStmt

theorem whileLoop_reads (hstmt : ReadsStmts stmt) {result : Stmt}
    (hkind : state.cursor.kind = .whileWord)
    (hquiet : Quiet (whileLoop stmt) settings state result next) :
    ∃ ts, Reads state ts next ∧ IsStmt ts := by
  obtain ⟨test, tested, body, htest, hbody, -⟩ := quiet_whileLoop.1 hquiet
  obtain ⟨opening, testTokens, closing, hopen, hclose, hexpr, htestRead⟩ :=
    condition_reads htest
  obtain ⟨bodyTokens, hbodyRead, hbodyStmt⟩ := hstmt hbody
  refine ⟨_, .cons (by rw [hkind]; decide) (htestRead.trans hbodyRead), ?_⟩
  rw [List.cons_append, List.append_assoc, List.singleton_append]
  exact .whileLoop hkind hopen hclose hexpr hbodyStmt

theorem stmtWith_reads (hstmt : ReadsStmts stmt) : ReadsStmts (stmtWith stmt) := by
  intro settings state result next hquiet
  rcases quiet_stmtWith.1 hquiet with ⟨-, body, hblock, -⟩ | ⟨hkind, hrest⟩ |
    ⟨hkind, hrest⟩ | ⟨hkind, hrest⟩ | ⟨hkind, -, rfl⟩ | ⟨hkind, hrest⟩ |
    ⟨-, declared, hdeclared, -⟩ | ⟨-, hrest⟩
  · obtain ⟨last, hbody, rfl⟩ := quiet_inScope.1 hblock
    obtain ⟨opening, parts, closing, hopen, hclose, hparts, hread⟩ := block_reads hstmt hbody
    exact ⟨_, (hread.from_eq rfl).to_eq rfl, .block hopen hclose hparts⟩
  · exact conditional_reads hstmt hkind hrest
  · exact whileLoop_reads hstmt hkind hrest
  · exact returned_reads hkind hrest
  · exact ⟨_, .token (by rw [hkind]; decide), .simple (.null hkind)⟩
  · exact namedStmt_reads hkind hrest
  · obtain ⟨ts, hread, hdecl⟩ := declaration_reads hdeclared
    exact ⟨ts, hread, .simple (.decl hdecl)⟩
  · exact evaluated_reads hrest

end

theorem stmtWithin_reads (budget : Nat) : ReadsStmts (stmtWithin budget) := by
  induction budget with
  | zero =>
      intro settings state result next hquiet
      obtain ⟨smaller, hsmaller, -⟩ := quiet_stmtWithin.1 hquiet
      contradiction
  | succ budget ih =>
      intro settings state result next hquiet
      obtain ⟨smaller, hsmaller, hstmt⟩ := quiet_stmtWithin.1 hquiet
      cases hsmaller
      exact stmtWith_reads ih hstmt

/-! ## Programs -/

theorem function_reads {returns : Ty} {name : Token} {start : Position} {result : FunctionDef}
    (hquiet : Quiet (function returns name start) settings state result next) :
    ∃ (opening : Token) (params : List Token) (closing openCurly : Token)
      (body : List (List Token)) (closeCurly : Token),
      opening.kind = .openParen ∧ IsParams params ∧ closing.kind = .closeParen ∧
      openCurly.kind = .openCurly ∧ (∀ part ∈ body, IsStmt part) ∧
      closeCurly.kind = .closeCurly ∧
      Reads state
        (opening :: (params ++ closing :: openCurly :: (body.flatten ++ [closeCurly]))) next := by
  obtain ⟨hopen, last, hrest, rfl⟩ := quiet_function.1 hquiet
  obtain ⟨symbols, listed, declared, body, hparams, hclose, hdeclares, hbody, -⟩ :=
    quiet_functionRest.1 hrest
  obtain ⟨params, hparamsRead, hisParams⟩ := parameters_reads hparams
  obtain ⟨openCurly, parts, closeCurly, hopenCurly, hcloseCurly, hparts, hbodyRead⟩ :=
    block_reads (stmtWithin_reads _) hbody
  have hcloseRead : Reads listed [listed.cursor.current] declared :=
    .to_eq (.token (by rw [hclose]; decide)) hdeclares.cursor_eq
  have hall := hparamsRead.trans (hcloseRead.trans (hbodyRead.from_eq rfl))
  exact ⟨_, params, _, openCurly, parts, closeCurly, hopen, hisParams, hclose, hopenCurly, hparts,
    hcloseCurly, .cons (by rw [hopen]; decide) ((hall.from_eq rfl).to_eq rfl)⟩

theorem external_reads {result : External}
    (hquiet : Quiet external settings state result next) :
    ∃ ts, ts ≠ [] ∧ Reads state ts next ∧ (IsDecl ts ∨ IsFunction ts) := by
  obtain ⟨base, hbase, hname, hrest⟩ := quiet_external.1 hquiet
  have hlead {ts : List Token} (hread : Reads state.advanced.advanced ts next) :
      Reads state (state.cursor.current :: state.advanced.cursor.current :: ts) next :=
    .cons (specifier_ne_eof hbase) (.cons (by rw [hname]; decide) hread)
  rcases hrest with ⟨-, defined, hdefined, -⟩ | ⟨-, declared, hdeclared, -⟩
  · obtain ⟨opening, params, closing, openCurly, body, closeCurly, hopen, hparams, hclose,
      hopenCurly, hbody, hcloseCurly, hread⟩ := function_reads hdefined
    have hword : (Ty.ofSpecifier? state.cursor.current.kind).isSome = true := by
      have hkind : state.cursor.current.kind = state.cursor.kind := rfl
      rw [hkind, hbase]
      rfl
    exact ⟨_, List.cons_ne_nil _ _, hlead hread,
      .inr (.intro hword hname hopen hparams hclose hopenCurly hbody hcloseCurly)⟩
  · obtain ⟨hvoid, bounds, initializer, semicolon, hbounds, hinitializer, hend, hread⟩ :=
      declarator_reads hdeclared
    exact ⟨_, List.cons_ne_nil _ _, hlead hread,
      .inl (.intro (isVariableWord_of_specifier hbase hvoid) hname hbounds hinitializer hend)⟩

/-- If the end of input is met at the end only, the externals are read up to there. -/
theorem externals_read {budget : Nat} {found : List External}
    (hbudget : state.cursor.remaining ≤ budget)
    (heof : ∀ token ∈ state.cursor.ahead, token.kind ≠ .eof)
    (hquiet : Quiet (externals budget) settings state found next) :
    ∃ parts : List (List Token), (∀ part ∈ parts, IsDecl part ∨ IsFunction part) ∧
      state.cursor.ahead = parts.flatten ∧ next.cursor.ahead = [] := by
  induction budget generalizing state found with
  | zero =>
      obtain ⟨-, rfl⟩ := quiet_externals_zero.1 hquiet
      have hnil : next.cursor.ahead = [] := List.eq_nil_of_length_eq_zero (Nat.le_zero.1 hbudget)
      exact ⟨[], by simp, hnil, hnil⟩
  | succ budget ih =>
      rcases quiet_externals_succ.1 hquiet with ⟨hend, -, rfl⟩ |
        ⟨-, first, middle, others, hfirst, hothers, -⟩
      · cases hahead : next.cursor.ahead with
        | nil => exact ⟨[], by simp, rfl, rfl⟩
        | cons token others =>
            have hkind : token.kind = .eof := by
              simpa [Cursor.kind, Cursor.current, hahead] using hend
            exact (heof token (by rw [hahead]; exact List.mem_cons_self) hkind).elim
      · obtain ⟨ts, hne, hread, hpart⟩ := external_reads hfirst
        have hpositive := List.length_pos_iff.2 hne
        have hremaining := hread.remaining
        have hmiddle : ∀ token ∈ middle.cursor.ahead, token.kind ≠ .eof := by
          intro token hmem
          refine heof token ?_
          unfold Reads at hread
          rw [hread]
          exact List.mem_append_right ts hmem
        obtain ⟨parts, hparts, hahead, hnext⟩ := ih (by omega) hmiddle hothers
        refine ⟨ts :: parts, ?_, ?_, hnext⟩
        · intro part hmem
          rcases List.mem_cons.1 hmem with rfl | hmem
          · exact hpart
          · exact hparts part hmem
        · unfold Reads at hread
          rw [hread, hahead, List.flatten_cons]

end Parse

end SubsetC
