import SubsetC.Proofs.CheckedExpr

/-!
# Checked statements

What a quiet run with checks builds from a state whose table mirrors the scopes at
its place.  The statement is typed, its symbols are those that the scopes give the
names that were read, and the table it leaves mirrors the scopes with what the
statement declared.
-/

namespace SubsetC

def Symbol.Visible (scopes : List Scope) (symbol : Symbol) : Prop :=
  Sees scopes symbol ∧ symbol.IsRegular

namespace Expr.Everywhere

variable {P : Symbol → Prop} {scopes : List Scope} {e : Expr}

theorem isTyped (he : e.Checked P) : e.Typed := he.mono fun _ hnode => hnode.typed

theorem isScoped (he : e.Checked (Symbol.Visible scopes)) : e.Scoped scopes :=
  he.mono fun _ hnode symbol hsymbol => (hnode.symbol symbol hsymbol).1

end Expr.Everywhere

theorem Ty.ne_error_of_ofSpecifier? {kind : TokenKind} {ty : Ty}
    (hspecifier : ofSpecifier? kind = some ty) : ty ≠ .error := by
  rintro rfl
  cases kind <;> contradiction

theorem Ty.ne_error_of_arrayOf? {element ty : Ty} (harray : element.arrayOf? = some ty) :
    ty ≠ .error := by
  rintro rfl
  cases element <;> contradiction

namespace Parse

variable {settings : Settings} {state next : ParseState} {scopes : List Scope} {returns : Ty}

/-! ## The return type -/

theorem Quiet.returnType?_eq {α : Type} {parse : Parse α} [Respects KeepsReturnType parse]
    {value : α} (hquiet : Quiet parse settings state value next) :
    next.returnType? = state.returnType? :=
  Respects.ok (R := KeepsReturnType) hquiet.1

/-! ## Values in their context -/

section Suited

variable {P : Symbol → Prop} {target : Ty} {value : Expr}

theorem suited_checked (hvalue : value.Checked P) : (suited target value).Checked P := by
  unfold suited
  split
  · exact hvalue.narrow
  · split
    · exact hvalue.widen
    · exact hvalue

@[simp] theorem suited_names (target : Ty) (value : Expr) :
    (suited target value).names = value.names := by
  unfold suited
  split
  · exact Expr.narrow_names value
  · split
    · exact Expr.widen_names value
    · rfl

theorem suited_ty (hsuits : Suits target value.ty) (htarget : target ≠ .error)
    (hvalue : value.ty ≠ .error) : (suited target value).ty = target := by
  unfold suited
  rcases hsuits with herror | herror | hsame | ⟨htarget, hvalue⟩ | ⟨htarget, hvalue⟩
  · contradiction
  · contradiction
  · split
    · rename_i hnarrow
      rw [Expr.narrow_ty hnarrow.2, hnarrow.1]
    · split
      · rename_i hwiden
        rw [Expr.widen_ty hwiden.2, hwiden.1]
      · exact hsame.symm
  · rw [if_pos ⟨htarget, hvalue⟩, Expr.narrow_ty hvalue, htarget]
  · rw [if_neg (by simp [htarget]), if_pos ⟨htarget, hvalue⟩, Expr.widen_ty hvalue, htarget]

theorem suited_typedAs (hsuits : Suits target value.ty) (htarget : target ≠ .error)
    (hvalue : value.Checked P) : (suited target value).TypedAs target :=
  ⟨suited_ty hsuits htarget hvalue.ty_ne_error, (suited_checked hvalue).isTyped⟩

end Suited

/-! ## Places -/

/-- A state at a place with the given scopes, before names of identifiers. -/
structure Stands (scopes : List Scope) (state : ParseState) : Prop where
  mirrors : state.symbols.Mirrors scopes
  named : Symbol.placeholder.name ∉ state.names

theorem Stands.of_suffix (hstands : Stands scopes state)
    (hmirrors : next.symbols.Mirrors scopes) (hahead : next.cursor.ahead <:+ state.cursor.ahead) :
    Stands scopes next :=
  ⟨hmirrors, fun hmem => hstands.named ((ParseState.names_suffix hahead).subset hmem)⟩

theorem Stands.advanced (hstands : Stands scopes state) : Stands scopes state.advanced :=
  hstands.of_suffix hstands.mirrors (List.tail_suffix _)

theorem Stands.knows (hstands : Stands scopes state) :
    Knows (Symbol.Visible scopes) state.symbols state := by
  refine ⟨rfl, fun name hname symbol hlookup => hstands.mirrors.sees ?_ hlookup⟩
  rintro rfl
  exact hstands.named hname

theorem Stands.current_ne (hstands : Stands scopes state)
    (hkind : state.cursor.kind = .identifier) :
    state.cursor.current.text ≠ Symbol.placeholder.name := by
  intro hsame
  refine hstands.named ?_
  rw [ParseState.names_of_identifier hkind, hsame]
  exact List.mem_cons_self

theorem Stands.after {α : Type} {parse : Parse α} [Respects ReadsOn parse] {value : α}
    (hstands : Stands scopes state) (hquiet : Quiet parse settings state value next)
    (hsymbols : next.symbols = state.symbols) : Stands scopes next :=
  hstands.of_suffix (hsymbols ▸ hstands.mirrors) hquiet.readsOn

theorem Strict.checking (hstrict : Strict settings) :
    Checking settings (Symbol.Visible scopes) :=
  ⟨hstrict, fun _ => And.right⟩

theorem expr_stands (hstrict : Strict settings) (hstands : Stands scopes state) {value : Expr}
    (hquiet : Quiet expr settings state (some value) next) :
    value.Checked (Symbol.Visible scopes) ∧ state.names = value.names ++ next.names ∧
      Stands scopes next := by
  have hbuilt := expr_checked hstrict.checking hstands.knows hquiet
  exact ⟨hbuilt.checked, hbuilt.names_eq, hstands.after hquiet hbuilt.symbols⟩

/-! ## Declarations -/

theorem declaredType_names {base ty : Ty} {name : Token} {size? : Option Nat}
    (hbase : base ≠ .error)
    (hquiet : Quiet (declaredType base name) settings state (ty, size?) next) :
    ty ≠ .error ∧ next.symbols = state.symbols ∧ state.names = next.names := by
  rcases quiet_declaredType.1 hquiet with
    ⟨hopen, harray, ⟨hconstant, size, -, -, hclose, rfl⟩ | ⟨hclose, -, rfl⟩⟩ | ⟨-, rfl, -, rfl⟩
  · refine ⟨Ty.ne_error_of_arrayOf? harray, rfl, ?_⟩
    rw [ParseState.names_of_kind hopen (by decide),
      ParseState.names_of_kind hconstant (by decide),
      ParseState.names_of_kind hclose (by decide)]
  · refine ⟨Ty.ne_error_of_arrayOf? harray, rfl, ?_⟩
    rw [ParseState.names_of_kind hopen (by decide),
      ParseState.names_of_kind hclose (by decide)]
  · exact ⟨hbase, rfl, rfl⟩

/-- With checks a symbol is declared or reported. -/
theorem Declares.stands (hstrict : Strict settings) (hstands : Stands scopes state)
    {symbol : Symbol} (hname : symbol.name ≠ Symbol.placeholder.name)
    (hregular : symbol.IsRegular)
    (hdeclares : Declares settings (state.symbols.declare symbol) state next) :
    Stands (extended scopes [symbol]) next := by
  cases hdeclares with
  | bound hdeclare => exact ⟨hstands.mirrors.declare hname hregular hdeclare, hstands.named⟩
  | refused hdeclare hchecks =>
      rw [hstrict.checks] at hchecks
      contradiction

theorem initialValue_stands (hstrict : Strict settings) (hstands : Stands scopes state) {ty : Ty}
    (hty : ty ≠ .error) {initial? : Option Expr}
    (hquiet : Quiet (initialValue ty) settings state initial? next) :
    (∀ value, initial? = some value → value.TypedAs ty ∧ value.Scoped scopes) ∧
      state.names = (initial?.map Expr.names).getD [] ++ next.names ∧ Stands scopes next := by
  rcases quiet_initialValue.1 hquiet with ⟨hkind, value, hvalue, hsuits, rfl⟩ | ⟨-, rfl, rfl⟩
  · obtain ⟨hchecked, hnames, hnext⟩ := expr_stands hstrict hstands.advanced hvalue
    refine ⟨?_, ?_, hnext⟩
    · rintro _ ⟨⟩
      exact ⟨suited_typedAs (hsuits hstrict.checks) hty hchecked,
        (suited_checked hchecked).isScoped⟩
    · rw [ParseState.names_of_kind hkind (by decide), hnames, Option.map_some,
        Option.getD_some, suited_names]
  · exact ⟨nofun, rfl, hstands⟩

/-- A declaration of the names read between two states, after some that were read
before. -/
structure DeclarationBuilt (scopes : List Scope) (lead : List String)
    (state next : ParseState) (declaration : Declaration) : Prop where
  isTyped : declaration.Typed
  isScoped : declaration.Scoped scopes
  names : lead ++ state.names = declaration.names ++ next.names
  stands : Stands (extended scopes [declaration.symbol]) next

theorem declarator_stands (hstrict : Strict settings) (hstands : Stands scopes state)
    {base : Ty} (hbase : base ≠ .error) {name : Token}
    (hname : name.text ≠ Symbol.placeholder.name) {start : Position} {result : Declaration}
    (hquiet : Quiet (declarator base name start) settings state result next) :
    DeclarationBuilt scopes [name.text] state next result := by
  obtain ⟨ty, size?, initial?, typed, declared, last, htyped, -, hdeclares, hinitial, hend, rfl,
    rfl⟩ := quiet_declarator.1 hquiet
  obtain ⟨hty, hsymbols, hnames⟩ := declaredType_names hbase htyped
  have hdeclared := Declares.stands hstrict (hstands.after htyped hsymbols)
    (show (Symbol.variable name.text ty).name ≠ _ from hname) (.ofVariable hty) hdeclares
  obtain ⟨hvalue, hvalueNames, hlast⟩ := initialValue_stands hstrict hdeclared hty hinitial
  refine ⟨⟨rfl, fun value hsome => (hvalue value hsome).1⟩,
    fun value hsome => (hvalue value hsome).2, ?_, hlast.advanced⟩
  rw [hnames, ← ParseState.names_eq_of_cursor_eq hdeclares.cursor_eq, hvalueNames,
    ParseState.names_of_kind hend (by decide)]
  rfl

theorem specifier_ne_identifier {ty : Ty}
    (hspecifier : Ty.ofSpecifier? state.cursor.kind = some ty) :
    state.cursor.kind ≠ .identifier := by
  intro hkind
  rw [hkind] at hspecifier
  contradiction

theorem declaration_stands (hstrict : Strict settings) (hstands : Stands scopes state)
    {result : Declaration} (hquiet : Quiet declaration settings state result next) :
    DeclarationBuilt scopes [] state next result := by
  obtain ⟨base, hbase, hname, hdeclarator⟩ := quiet_declaration.1 hquiet
  have hbuilt := declarator_stands hstrict hstands.advanced.advanced
    (Ty.ne_error_of_ofSpecifier? hbase) (hstands.advanced.current_ne hname) hdeclarator
  refine ⟨hbuilt.isTyped, hbuilt.isScoped, ?_, hbuilt.stands⟩
  rw [List.nil_append, ParseState.names_of_ne (specifier_ne_identifier hbase),
    ParseState.names_of_identifier hname]
  exact hbuilt.names

/-! ## Statements -/

/-- A statement of the names read between two states. -/
structure StmtBuilt (scopes : List Scope) (returns : Ty) (state next : ParseState)
    (stmt : Stmt) : Prop where
  isTyped : stmt.Typed returns
  isScoped : stmt.Scoped scopes
  names : state.names = stmt.names ++ next.names
  stands : Stands (extended scopes stmt.declared) next

theorem StmtBuilt.of_declared_eq_nil {stmt : Stmt} (hnone : stmt.declared = [])
    (htyped : stmt.Typed returns) (hscoped : stmt.Scoped scopes)
    (hnames : state.names = stmt.names ++ next.names) (hstands : Stands scopes next) :
    StmtBuilt scopes returns state next stmt := by
  refine ⟨htyped, hscoped, hnames, ?_⟩
  rw [hnone, extended_nil]
  exact hstands

def BuildsStmts (settings : Settings) (returns : Ty) (stmt : Parse Stmt) : Prop :=
  ∀ ⦃scopes : List Scope⦄ ⦃state : ParseState⦄ ⦃result : Stmt⦄ ⦃next : ParseState⦄,
    Stands scopes state → state.returnType? = some returns →
    Quiet stmt settings state result next → StmtBuilt scopes returns state next result

theorem condition_stands (hstrict : Strict settings) (hstands : Stands scopes state)
    {result : Expr} (hquiet : Quiet condition settings state result next) :
    result.TypedScalar ∧ result.Scoped scopes ∧ state.names = result.names ++ next.names ∧
      Stands scopes next := by
  obtain ⟨hopen, middle, hvalue, hclose, hscalar, rfl⟩ := quiet_condition.1 hquiet
  obtain ⟨hchecked, hnames, hmiddle⟩ := expr_stands hstrict hstands.advanced hvalue
  refine ⟨⟨isScalar_of_countsAsScalar (hscalar hstrict.checks) hchecked.ty_ne_error,
    hchecked.isTyped⟩, hchecked.isScoped, ?_, hmiddle.advanced⟩
  rw [ParseState.names_of_kind hopen (by decide), hnames,
    ParseState.names_of_kind hclose (by decide)]

theorem returned_stands (hstrict : Strict settings) (hreturns : returns ≠ .error)
    (hstands : Stands scopes state) (hreturn : state.returnType? = some returns) {result : Stmt}
    (hkind : state.cursor.kind = .returnWord)
    (hquiet : Quiet returned settings state result next) :
    StmtBuilt scopes returns state next result := by
  have hforce : state.returns = returns := by
    unfold ParseState.returns
    rw [hreturn]
    rfl
  have hstart : state.names = state.advanced.names :=
    ParseState.names_of_kind hkind (by decide)
  rcases quiet_returned.1 hquiet with ⟨value, middle, hvalue, hsuits, hend, rfl, rfl⟩ |
    ⟨-, hvoid, hend, rfl, rfl⟩
  · obtain ⟨hchecked, hnames, hmiddle⟩ := expr_stands hstrict hstands.advanced hvalue
    rw [hforce] at hsuits ⊢
    refine .of_declared_eq_nil rfl (suited_typedAs (hsuits hstrict.checks) hreturns hchecked)
      (suited_checked hchecked).isScoped ?_ hmiddle.advanced
    rw [hstart, hnames, ParseState.names_of_kind hend (by decide), Stmt.names, suited_names]
  · refine .of_declared_eq_nil rfl (hforce.symm.trans (hvoid hstrict.checks)) trivial ?_
      hstands.advanced.advanced
    rw [hstart, ParseState.names_of_kind hend (by decide)]
    rfl

theorem beginning_stands (hstrict : Strict settings) (hstands : Stands scopes state)
    (hkind : state.cursor.kind = .identifier) {handoff : Handoff}
    (hquiet : Quiet (beginning state.cursor.current) settings state.advanced handoff next) :
    handoff.Checked (Symbol.Visible scopes) ∧ state.names = handoff.names ++ next.names ∧
      Stands scopes next := by
  obtain ⟨symbol, middle, hresolve, hrest⟩ := quiet_beginning.1 hquiet
  obtain ⟨hsymbol, hnames, rfl⟩ := hstands.knows.resolve_current hstrict.checks hkind hresolve
  have hadvanced := hstands.advanced
  rcases hrest with ⟨-, hsubscriptable, target, htarget, rfl⟩ | ⟨-, rfl, rfl⟩
  · obtain ⟨hchecked, hbuilt⟩ := subscript_checked hstrict.checking
      (exprWithin_checked hstrict.checking _) hadvanced.knows hsymbol hsubscriptable htarget
    exact ⟨hchecked, hnames.trans hbuilt.names, hadvanced.after htarget hbuilt.symbols⟩
  · exact ⟨hsymbol, hnames, hadvanced⟩

section Assigned

variable {handoff : Handoff} {value : Expr} {span : Span}

theorem targetTy_ne_error (hhandoff : handoff.Checked (Symbol.Visible scopes)) :
    targetTy handoff ≠ .error := by
  cases handoff with
  | ident symbol _ => exact hhandoff.2.ty_ne_error
  | element target => exact Ty.element?_of_isArray hhandoff.isArray

theorem StmtBuilt.assigned (hhandoff : handoff.Checked (Symbol.Visible scopes))
    (htyped : value.TypedAs (targetTy handoff)) (hscoped : value.Scoped scopes)
    (hnames : state.names = handoff.names ++ (value.names ++ next.names))
    (hstands : Stands scopes next) :
    StmtBuilt scopes returns state next (Parse.assigned handoff value span) := by
  rw [← List.append_assoc] at hnames
  cases handoff with
  | ident symbol _ =>
      have hdummy := hhandoff.2.isDummy_eq_false
      exact .of_declared_eq_nil rfl ⟨hdummy, htyped⟩ ⟨hhandoff.1, hscoped⟩ hnames hstands
  | element target =>
      have hdummy := hhandoff.array.2.isDummy_eq_false
      have hindex := hhandoff.index
      exact .of_declared_eq_nil rfl
        ⟨hdummy, hhandoff.isArray, ⟨hhandoff.isScalar, hindex.isTyped⟩, htyped⟩
        ⟨hhandoff.array.1, hindex.isScoped, hscoped⟩ hnames hstands

end Assigned

theorem namedStmt_stands (hstrict : Strict settings) (hstands : Stands scopes state)
    {result : Stmt} (hkind : state.cursor.kind = .identifier)
    (hquiet : Quiet namedStmt settings state result next) :
    StmtBuilt scopes returns state next result := by
  obtain ⟨handoff, middle, hbeginning, hrest⟩ := quiet_namedStmt.1 hquiet
  obtain ⟨hhandoff, hnames, hmiddle⟩ := beginning_stands hstrict hstands hkind hbeginning
  rcases hrest with ⟨hassign, value, last, hvalue, hend, hsuits, rfl, rfl⟩ |
    ⟨-, value, last, hvalue, hend, rfl, rfl⟩
  · obtain ⟨hchecked, hvalueNames, hlast⟩ := expr_stands hstrict hmiddle.advanced hvalue
    refine .assigned hhandoff
      (suited_typedAs (hsuits hstrict.checks) (targetTy_ne_error hhandoff) hchecked)
      (suited_checked hchecked).isScoped ?_ hlast.advanced
    rw [hnames, ParseState.names_of_kind hassign (by decide), hvalueNames,
      ParseState.names_of_kind hend (by decide), suited_names]
  · have hbuilt := exprAfter_checked hstrict.checking
      (by rintro _ ⟨⟩; exact hhandoff) hmiddle.knows hvalue
    refine .of_declared_eq_nil rfl hbuilt.checked.isTyped hbuilt.checked.isScoped ?_
      (hmiddle.after hvalue hbuilt.symbols).advanced
    exact (hnames.trans hbuilt.names).trans
      (congrArg (value.names ++ ·) (ParseState.names_of_kind hend (by decide)))

theorem evaluated_stands (hstrict : Strict settings) (hstands : Stands scopes state)
    {result : Stmt} (hquiet : Quiet evaluated settings state result next) :
    StmtBuilt scopes returns state next result := by
  obtain ⟨value, last, hvalue, hend, rfl, rfl⟩ := quiet_evaluated.1 hquiet
  obtain ⟨hchecked, hnames, hlast⟩ := expr_stands hstrict hstands hvalue
  refine .of_declared_eq_nil rfl hchecked.isTyped hchecked.isScoped ?_ hlast.advanced
  rw [hnames, ParseState.names_of_kind hend (by decide)]
  rfl

section

variable {stmt : Parse Stmt} [Respects ReportsMore stmt] [Respects KeepsReturnType stmt]

theorem stmtsUntilClose_stands (hstmt : BuildsStmts settings returns stmt)
    (hstands : Stands scopes state) (hreturn : state.returnType? = some returns) {budget : Nat}
    {body : List Stmt}
    (hquiet : Quiet (stmtsUntilClose stmt budget) settings state body next) :
    Stmt.AllTyped returns body ∧ Stmt.AllScoped scopes body ∧
      state.names = Stmt.allNames body ++ next.names ∧
      Stands (extended scopes (body.flatMap Stmt.declared)) next := by
  induction budget generalizing state scopes body with
  | zero => exact (not_quiet_stmtsUntilClose_zero hquiet).elim
  | succ budget ih =>
      rcases quiet_stmtsUntilClose_succ.1 hquiet with ⟨-, rfl, rfl⟩ |
        ⟨-, -, first, middle, others, hfirst, hothers, rfl⟩
      · refine ⟨trivial, trivial, rfl, ?_⟩
        rw [List.flatMap_nil, extended_nil]
        exact hstands
      · have hbuilt := hstmt hstands hreturn hfirst
        -- The others stand in the scopes with what the first one declared.
        obtain ⟨htyped, hscoped, hnames, hnext⟩ :=
          ih hbuilt.stands (hfirst.returnType?_eq.trans hreturn) hothers
        refine ⟨⟨hbuilt.isTyped, htyped⟩, ⟨hbuilt.isScoped, hscoped⟩, ?_, ?_⟩
        · rw [hbuilt.names, hnames, ← List.append_assoc, Stmt.allNames]
        · rw [List.flatMap_cons, ← extended_append]
          exact hnext

theorem block_stands (hstmt : BuildsStmts settings returns stmt) (hstands : Stands scopes state)
    (hreturn : state.returnType? = some returns) {result : Block}
    (hquiet : Quiet (block stmt) settings state result next) :
    Stmt.AllTyped returns result.body ∧ Stmt.AllScoped scopes result.body ∧
      state.names = Stmt.allNames result.body ++ next.names ∧
      Stands (extended scopes (result.body.flatMap Stmt.declared)) next := by
  obtain ⟨hopen, body, last, hbody, hclose, rfl, rfl⟩ := quiet_block.1 hquiet
  obtain ⟨htyped, hscoped, hnames, hlast⟩ :=
    stmtsUntilClose_stands hstmt hstands.advanced hreturn hbody
  refine ⟨htyped, hscoped, ?_, hlast.advanced⟩
  rw [ParseState.names_of_kind hopen (by decide), hnames,
    ParseState.names_of_kind hclose (by decide)]

/-- A block is read in a scope of its own, which is left after it. -/
theorem innerBlock_stands (hstmt : BuildsStmts settings returns stmt)
    (hstands : Stands scopes state) (hreturn : state.returnType? = some returns) {result : Block}
    (hquiet : Quiet (inScope (block stmt)) settings state result next) :
    StmtBuilt scopes returns state next result.toStmt := by
  obtain ⟨last, hblock, rfl⟩ := quiet_inScope.1 hquiet
  have hentered : Stands ([] :: scopes)
      { state with symbols := state.symbols.enterScope } :=
    ⟨hstands.mirrors.enterScope, hstands.named⟩
  obtain ⟨htyped, hscoped, hnames, hlast⟩ := block_stands hstmt hentered hreturn hblock
  refine .of_declared_eq_nil rfl htyped hscoped hnames ?_
  -- What the block declared is all in its own scope.
  obtain ⟨scope, outer, rfl⟩ := hstands.mirrors.exists_cons
  exact ⟨hlast.mirrors.exitScope, hlast.named⟩

theorem conditional_stands (hstrict : Strict settings) (hstmt : BuildsStmts settings returns stmt)
    (hstands : Stands scopes state) (hreturn : state.returnType? = some returns) {result : Stmt}
    (hkind : state.cursor.kind = .ifWord)
    (hquiet : Quiet (conditional stmt) settings state result next) :
    StmtBuilt scopes returns state next result := by
  obtain ⟨condition, tested, accepted, middle, hcondition, haccepted, hrest⟩ :=
    quiet_conditional.1 hquiet
  obtain ⟨htyped, hscoped, hnames, htested⟩ :=
    condition_stands hstrict hstands.advanced hcondition
  have hfirst := hstmt htested (hcondition.returnType?_eq.trans hreturn) haccepted
  have hstart : state.names = state.advanced.names :=
    ParseState.names_of_kind hkind (by decide)
  rw [hnames, hfirst.names, ← List.append_assoc] at hstart
  rcases hrest with ⟨helse, rejected, hrejected, rfl⟩ | ⟨-, rfl, rfl⟩
  · have hsecond := hstmt hfirst.stands.advanced
      ((haccepted.returnType?_eq.trans hcondition.returnType?_eq).trans hreturn) hrejected
    refine ⟨⟨htyped, hfirst.isTyped, hsecond.isTyped⟩,
      ⟨hscoped, hfirst.isScoped, hsecond.isScoped⟩, ?_, ?_⟩
    · rw [hstart, ParseState.names_of_kind helse (by decide), hsecond.names,
        ← List.append_assoc, Stmt.names]
    · rw [Stmt.declared, ← extended_append]
      exact hsecond.stands
  · refine ⟨⟨htyped, hfirst.isTyped⟩, ⟨hscoped, hfirst.isScoped⟩, ?_, ?_⟩
    · rw [hstart, Stmt.names]
    · rw [Stmt.declared]
      exact hfirst.stands

omit [Respects KeepsReturnType stmt] in
theorem whileLoop_stands (hstrict : Strict settings) (hstmt : BuildsStmts settings returns stmt)
    (hstands : Stands scopes state) (hreturn : state.returnType? = some returns) {result : Stmt}
    (hkind : state.cursor.kind = .whileWord)
    (hquiet : Quiet (whileLoop stmt) settings state result next) :
    StmtBuilt scopes returns state next result := by
  obtain ⟨condition, tested, body, hcondition, hbody, rfl⟩ := quiet_whileLoop.1 hquiet
  obtain ⟨htyped, hscoped, hnames, htested⟩ :=
    condition_stands hstrict hstands.advanced hcondition
  have hbuilt := hstmt htested (hcondition.returnType?_eq.trans hreturn) hbody
  refine ⟨⟨htyped, hbuilt.isTyped⟩, ⟨hscoped, hbuilt.isScoped⟩, ?_, hbuilt.stands⟩
  rw [ParseState.names_of_kind hkind (by decide), hnames, hbuilt.names, ← List.append_assoc,
    Stmt.names]

theorem stmtWith_stands (hstrict : Strict settings) (hreturns : returns ≠ .error)
    (hstmt : BuildsStmts settings returns stmt) :
    BuildsStmts settings returns (stmtWith stmt) := by
  intro scopes state result next hstands hreturn hquiet
  rcases quiet_stmtWith.1 hquiet with ⟨-, block, hblock, rfl⟩ | ⟨hkind, hconditional⟩ |
    ⟨hkind, hwhile⟩ | ⟨hkind, hreturned⟩ | ⟨hkind, rfl, rfl⟩ | ⟨hkind, hnamed⟩ |
    ⟨-, declared, hdeclared, rfl⟩ | ⟨-, hevaluated⟩
  · exact innerBlock_stands hstmt hstands hreturn hblock
  · exact conditional_stands hstrict hstmt hstands hreturn hkind hconditional
  · exact whileLoop_stands hstrict hstmt hstands hreturn hkind hwhile
  · exact returned_stands hstrict hreturns hstands hreturn hkind hreturned
  · exact .of_declared_eq_nil rfl trivial trivial
      (ParseState.names_of_kind hkind (by decide)) hstands.advanced
  · exact namedStmt_stands hstrict hstands hkind hnamed
  · have hbuilt := declaration_stands hstrict hstands hdeclared
    exact ⟨hbuilt.isTyped, hbuilt.isScoped, hbuilt.names, hbuilt.stands⟩
  · exact evaluated_stands hstrict hstands hevaluated

end

theorem stmtWithin_stands (hstrict : Strict settings) (hreturns : returns ≠ .error)
    (budget : Nat) : BuildsStmts settings returns (stmtWithin budget) := by
  induction budget with
  | zero =>
      intro scopes state result next hstands hreturn hquiet
      obtain ⟨smaller, hsmaller, -⟩ := quiet_stmtWithin.1 hquiet
      contradiction
  | succ budget ih =>
      intro scopes state result next hstands hreturn hquiet
      obtain ⟨smaller, hsmaller, hstmt⟩ := quiet_stmtWithin.1 hquiet
      cases hsmaller
      exact stmtWith_stands hstrict hreturns ih hstands hreturn hstmt

end Parse

end SubsetC
