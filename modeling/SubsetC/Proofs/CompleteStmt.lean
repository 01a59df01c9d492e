import SubsetC.Proofs.CompleteExpr

/-!
# What the grammar derives for statements is read quietly

The grammar may attach an `else` to any `if` before it, and a parser attaches it to
the last one that has none.  A statement that ends in an `if` without `else` is
open.  Whatever the grammar derives is also derived with no open statement before
an `else`, and that derivation is the one that a parser follows.
-/

namespace SubsetC

/-! ## Open and closed statements -/

/-- Derivations of statements in which no open statement stands before an `else`, up to
the blocks; the flag says whether the whole is closed. -/
inductive Attached : Bool → List Token → Prop
  | simple {ts : List Token} : IsSimple ts → Attached true ts
  | block {opening closing : Token} {parts : List (List Token)} :
      opening.kind = .openCurly → closing.kind = .closeCurly →
      (∀ part ∈ parts, IsStmt part) →
      Attached true (opening :: (parts.flatten ++ [closing]))
  | conditional {closed : Bool} {word opening closing : Token} {test accepted : List Token} :
      word.kind = .ifWord → opening.kind = .openParen → closing.kind = .closeParen →
      IsExpr test → Attached closed accepted →
      Attached false (word :: opening :: (test ++ closing :: accepted))
  | alternative {closed : Bool} {word opening closing otherwise : Token}
      {test accepted rejected : List Token} : word.kind = .ifWord →
      opening.kind = .openParen → closing.kind = .closeParen → otherwise.kind = .elseWord →
      IsExpr test → Attached true accepted → Attached closed rejected →
      Attached closed
        (word :: opening :: (test ++ closing :: (accepted ++ otherwise :: rejected)))
  | whileLoop {closed : Bool} {word opening closing : Token} {test body : List Token} :
      word.kind = .whileWord → opening.kind = .openParen → closing.kind = .closeParen →
      IsExpr test → Attached closed body →
      Attached closed (word :: opening :: (test ++ closing :: body))

/-- An `else` after an open statement belongs to the last `if` in it. -/
theorem Attached.attach {closed closed' : Bool} {ts rejected : List Token} {otherwise : Token}
    (hstmt : Attached closed ts) (hopen : closed = false) (hotherwise : otherwise.kind = .elseWord)
    (hrejected : Attached closed' rejected) :
    ∃ closed, Attached closed (ts ++ otherwise :: rejected) := by
  induction hstmt with
  | simple => contradiction
  | block => contradiction
  | @conditional inner word opening closing test accepted hword hopening hclosing htest
      haccepted ih =>
      simp only [List.cons_append, List.append_assoc]
      cases inner with
      | true =>
          exact ⟨_, .alternative hword hopening hclosing hotherwise htest haccepted hrejected⟩
      | false =>
          obtain ⟨closed, hattached⟩ := ih rfl
          exact ⟨_, .conditional hword hopening hclosing htest hattached⟩
  | alternative hword hopening hclosing hfirst htest haccepted _ _ ih =>
      obtain ⟨closed, hattached⟩ := ih hopen
      simp only [List.cons_append, List.append_assoc]
      exact ⟨_, .alternative hword hopening hclosing hfirst htest haccepted hattached⟩
  | whileLoop hword hopening hclosing htest _ ih =>
      obtain ⟨closed, hattached⟩ := ih hopen
      simp only [List.cons_append, List.append_assoc]
      exact ⟨_, .whileLoop hword hopening hclosing htest hattached⟩

/-- Every statement has a derivation that leaves no open statement before an `else`. -/
theorem IsStmt.attached {ts : List Token} (hstmt : IsStmt ts) :
    ∃ closed, Attached closed ts := by
  induction hstmt with
  | simple hsimple => exact ⟨true, .simple hsimple⟩
  | block hopening hclosing hparts _ => exact ⟨true, .block hopening hclosing hparts⟩
  | conditional hword hopening hclosing htest _ ih =>
      obtain ⟨closed, haccepted⟩ := ih
      exact ⟨false, .conditional hword hopening hclosing htest haccepted⟩
  | alternative hword hopening hclosing hotherwise htest _ _ ihaccepted ihrejected =>
      obtain ⟨closed, haccepted⟩ := ihaccepted
      obtain ⟨closed', hrejected⟩ := ihrejected
      cases closed with
      | true =>
          exact ⟨_, .alternative hword hopening hclosing hotherwise htest haccepted hrejected⟩
      | false =>
          obtain ⟨closed, hattached⟩ := haccepted.attach rfl hotherwise hrejected
          exact ⟨_, .conditional hword hopening hclosing htest hattached⟩
  | whileLoop hword hopening hclosing htest _ ih =>
      obtain ⟨closed, hbody⟩ := ih
      exact ⟨closed, .whileLoop hword hopening hclosing htest hbody⟩

/-! ## First tokens -/

theorem IsVariableWord.specifier {kind : TokenKind} (hword : IsVariableWord kind) :
    ∃ base array, Ty.ofSpecifier? kind = some base ∧ base.arrayOf? = some array ∧
      base ≠ .void ∧ array ≠ .void := by
  rcases hword with rfl | rfl
  · exact ⟨.int, .intArray, rfl, rfl, by decide, by decide⟩
  · exact ⟨.char, .charArray, rfl, rfl, by decide, by decide⟩

/-- Whether a statement may begin with a token of a kind. -/
def beginsAnyStmt (kind : TokenKind) : Bool := Parse.beginsStmt kind || beginsExpr kind

/-- Only a name begins both an expression and another statement. -/
theorem beginsStmt_of_beginsExpr {kind : TokenKind} (hexpr : beginsExpr kind = true)
    (hname : kind ≠ .identifier) : Parse.beginsStmt kind = false := by
  revert hexpr hname
  cases kind <;> decide

theorem Attached.begins {closed : Bool} {ts : List Token} (hstmt : Attached closed ts) :
    ∃ token tail, ts = token :: tail ∧ beginsAnyStmt token.kind = true := by
  cases hstmt with
  | simple hsimple =>
      cases hsimple with
      | decl hdecl =>
          obtain ⟨hword | hword, _⟩ := hdecl
          · exact ⟨_, _, rfl, by rw [hword]; rfl⟩
          · exact ⟨_, _, rfl, by rw [hword]; rfl⟩
      | ret hkind => exact ⟨_, _, rfl, by rw [hkind]; rfl⟩
      | retValue hkind => exact ⟨_, _, rfl, by rw [hkind]; rfl⟩
      | null hkind => exact ⟨_, _, rfl, by rw [hkind]; rfl⟩
      | assign hkind => exact ⟨_, _, rfl, by rw [hkind]; rfl⟩
      | assignElement hkind => exact ⟨_, _, rfl, by rw [hkind]; rfl⟩
      | evaluate _ hexpr =>
          obtain ⟨e, hwritten⟩ := hexpr
          obtain ⟨token, tail, rfl, hbegins⟩ := hwritten.begins
          refine ⟨token, _, rfl, ?_⟩
          unfold beginsAnyStmt
          rw [hbegins, Bool.or_true]
  | block hkind => exact ⟨_, _, rfl, by rw [hkind]; rfl⟩
  | conditional hkind => exact ⟨_, _, rfl, by rw [hkind]; rfl⟩
  | alternative hkind => exact ⟨_, _, rfl, by rw [hkind]; rfl⟩
  | whileLoop hkind => exact ⟨_, _, rfl, by rw [hkind]; rfl⟩

theorem ne_of_beginsAnyStmt {kind other : TokenKind} (hbegins : beginsAnyStmt kind = true)
    (hother : beginsAnyStmt other = false) : kind ≠ other := by
  rintro rfl
  rw [hbegins] at hother
  contradiction

/-- No `else` stands between the statements of a block. -/
theorem IsStmt.flatten_kind_ne_else {cursor : Cursor} {parts : List (List Token)}
    {rest : List Token} {closing : Token} (hparts : ∀ part ∈ parts, IsStmt part)
    (hclose : closing.kind = .closeCurly) :
    (cursor.facing (parts.flatten ++ closing :: rest)).kind ≠ .elseWord := by
  cases parts with
  | nil =>
      rw [List.flatten_nil, List.nil_append, Cursor.facing_cons_kind, hclose]
      decide
  | cons part parts =>
      obtain ⟨closed, hattached⟩ := (hparts part List.mem_cons_self).attached
      obtain ⟨token, tail, rfl, hbegins⟩ := hattached.begins
      exact ne_of_beginsAnyStmt hbegins rfl

/-- The token after the bounds of a declaration. -/
theorem IsInitializer.kind_ne {cursor : Cursor} {ts rest : List Token} {semicolon : Token}
    {kind : TokenKind} (hinitializer : IsInitializer ts)
    (hend : semicolon.kind = .semicolon) (hassignment : kind ≠ .assignment)
    (hsemicolon : kind ≠ .semicolon) :
    (cursor.facing (ts ++ semicolon :: rest)).kind ≠ kind := by
  cases hinitializer with
  | none =>
      rw [List.nil_append, Cursor.facing_cons_kind, hend]
      exact hsemicolon.symm
  | value hsign _ =>
      rw [List.cons_append, Cursor.facing_cons_kind, hsign]
      exact hassignment.symm

namespace Parse

variable {settings : Settings} {state : ParseState} {cursor : Cursor} {ts rest : List Token}

/-! ## Declarations -/

theorem declares_unchecked (hchecks : settings.checks = false)
    (declared : Except Symbol SymbolTable) (state : ParseState) :
    ∃ next, Declares settings declared state next := by
  cases declared with
  | ok symbols => exact ⟨_, .bound rfl⟩
  | error existing => exact ⟨state, .refused rfl hchecks⟩

theorem unchecked {goal : Prop} (hchecks : settings.checks = false) :
    settings.checks = true → goal := by
  intro hchecked
  rw [hchecks] at hchecked
  contradiction

theorem expr_before_semicolon (hchecks : settings.checks = false) {semicolon : Token}
    (hexpr : IsExpr ts) (hend : semicolon.kind = .semicolon)
    (hcursor : state.cursor = cursor.facing (ts ++ semicolon :: rest)) :
    ∃ tree next, Quiet expr settings state (some tree) next ∧
      next.cursor.kind = .semicolon ∧ next.advanced.cursor = cursor.facing rest := by
  obtain ⟨e, hwritten⟩ := hexpr
  obtain ⟨tree, next, hquiet, hnext, -⟩ := expr_yields hchecks hwritten
    (by rw [Cursor.facing_cons_kind, hend]; exact stops_semicolon) hcursor
  exact ⟨tree, next, hquiet, (kind_of_facing hnext).trans hend, advanced_of_facing hnext⟩

theorem initialValue_yields (hchecks : settings.checks = false) (ty : Ty) {semicolon : Token}
    (hinitializer : IsInitializer ts) (hend : semicolon.kind = .semicolon)
    (hcursor : state.cursor = cursor.facing (ts ++ semicolon :: rest)) :
    ∃ initial? next, Quiet (initialValue ty) settings state initial? next ∧
      next.cursor.kind = .semicolon ∧ next.advanced.cursor = cursor.facing rest := by
  cases hinitializer with
  | none =>
      have hkind := (kind_of_facing hcursor).trans hend
      refine ⟨none, state, quiet_initialValue.2 (.inr ⟨?_, rfl, rfl⟩), hkind,
        advanced_of_facing hcursor⟩
      rw [hkind]
      decide
  | value hsign hexpr =>
      obtain ⟨tree, next, hquiet, hkind, hstop⟩ :=
        expr_before_semicolon hchecks hexpr hend (advanced_of_facing hcursor)
      exact ⟨_, next, quiet_initialValue.2 (.inl
        ⟨(kind_of_facing hcursor).trans hsign, tree, hquiet, unchecked hchecks, rfl⟩), hkind, hstop⟩

theorem declaredType_yields {base array : Ty} (name : Token) (harray : base.arrayOf? = some array)
    (hbase : base ≠ .void) (harrayVoid : array ≠ .void) (hbounds : IsBounds ts)
    (hnext : (cursor.facing rest).kind ≠ .openBracket)
    (hcursor : state.cursor = cursor.facing (ts ++ rest)) :
    ∃ ty size? next, Quiet (declaredType base name) settings state (ty, size?) next ∧
      ty ≠ .void ∧ next.cursor = cursor.facing rest := by
  cases hbounds with
  | none =>
      rw [List.nil_append] at hcursor
      rw [← hcursor] at hnext
      exact ⟨base, none, state, quiet_declaredType.2 (.inr ⟨hnext, rfl, rfl, rfl⟩), hbase, hcursor⟩
  | unsized hopen hclose =>
      have hadvanced := advanced_of_facing hcursor
      exact ⟨array, none, _, quiet_declaredType.2 (.inl ⟨(kind_of_facing hcursor).trans hopen,
        harray, .inr ⟨(kind_of_facing hadvanced).trans hclose, rfl, rfl⟩⟩), harrayVoid,
        advanced_of_facing hadvanced⟩
  | sized hopen hconstant hsize hclose =>
      have hadvanced := advanced_of_facing hcursor
      have hlast := advanced_of_facing hadvanced
      obtain ⟨size, hsize⟩ := Option.isSome_iff_exists.1 hsize
      rw [← current_of_facing hadvanced] at hsize
      exact ⟨array, some size, _, quiet_declaredType.2 (.inl
        ⟨(kind_of_facing hcursor).trans hopen, harray, .inl
          ⟨(kind_of_facing hadvanced).trans hconstant, size, hsize, rfl,
            (kind_of_facing hlast).trans hclose, rfl⟩⟩), harrayVoid, advanced_of_facing hlast⟩

theorem declarator_yields (hchecks : settings.checks = false) {word : Token} {base : Ty}
    (hword : IsVariableWord word.kind) (hbase : Ty.ofSpecifier? word.kind = some base)
    (name : Token) (start : Position) {bounds initializer : List Token} {semicolon : Token}
    (hbounds : IsBounds bounds) (hinitializer : IsInitializer initializer)
    (hend : semicolon.kind = .semicolon)
    (hcursor : state.cursor = cursor.facing (bounds ++ (initializer ++ semicolon :: rest))) :
    ∃ result next, Quiet (declarator base name start) settings state result next ∧
      next.cursor = cursor.facing rest := by
  obtain ⟨base', array, hspecifier, harray, hvoid, harrayVoid⟩ := hword.specifier
  rw [hbase] at hspecifier
  cases hspecifier
  obtain ⟨ty, size?, typed, htyped, hty, htypedCursor⟩ :=
    declaredType_yields name harray hvoid harrayVoid hbounds
      (hinitializer.kind_ne hend (by decide) (by decide)) hcursor
  obtain ⟨declared, hdeclares⟩ := declares_unchecked hchecks
    (typed.symbols.declare (.variable name.text ty)) typed
  obtain ⟨initial?, last, hinitial, hkind, hstop⟩ :=
    initialValue_yields hchecks ty hinitializer hend (hdeclares.cursor_eq.trans htypedCursor)
  exact ⟨_, _, quiet_declarator.2 ⟨ty, size?, initial?, typed, declared, last, htyped, hty,
    hdeclares, hinitial, hkind, rfl, rfl⟩, hstop⟩

theorem declaration_yields (hchecks : settings.checks = false) (hdecl : IsDecl ts)
    (hcursor : state.cursor = cursor.facing (ts ++ rest)) :
    ∃ result next, Quiet declaration settings state result next ∧
      next.cursor = cursor.facing rest := by
  cases hdecl with
  | intro hword hname hbounds hinitializer hend =>
      simp only [List.cons_append, List.append_assoc, List.nil_append] at hcursor
      obtain ⟨base, array, hbase, -, -, -⟩ := hword.specifier
      have hadvanced := advanced_of_facing hcursor
      obtain ⟨result, next, hquiet, hnext⟩ := declarator_yields hchecks hword hbase
        state.advanced.cursor.current state.cursor.current.span.start hbounds hinitializer hend
        (advanced_of_facing hadvanced)
      rw [← kind_of_facing hcursor] at hbase
      exact ⟨result, next, quiet_declaration.2
        ⟨base, hbase, (kind_of_facing hadvanced).trans hname, hquiet⟩, hnext⟩

/-! ## Simple statements -/

theorem beginning_of_name (hchecks : settings.checks = false) (name : Token)
    (hkind : (cursor.facing rest).kind ≠ .openBracket)
    (hcursor : state.cursor = cursor.facing rest) :
    ∃ symbol next, Quiet (beginning name) settings state (.ident symbol name.span) next ∧
      symbol.name = name.text ∧ next.cursor = cursor.facing rest := by
  obtain ⟨symbol, next, hresolve, hnext, hsymbol⟩ :=
    resolve_unchecked hchecks name.text name.span.start state
  have hnextCursor := hnext.trans hcursor
  rw [← hnextCursor] at hkind
  exact ⟨symbol, next, quiet_beginning.2 ⟨symbol, next, hresolve, .inr ⟨hkind, rfl, rfl⟩⟩,
    hsymbol, hnextCursor⟩

theorem beginning_of_element (hchecks : settings.checks = false) (name : Token)
    {opening closing : Token} {index : Surface} (hopen : opening.kind = .openBracket)
    (hclose : closing.kind = .closeBracket) (hindex : Written (.chain .logicalOr) ts index)
    (hcursor : state.cursor = cursor.facing (opening :: (ts ++ closing :: rest))) :
    ∃ target next, Quiet (beginning name) settings state (.element target) next ∧
      Elaborates (.element name.text index) target.read ∧ next.cursor = cursor.facing rest := by
  obtain ⟨symbol, middle, hresolve, hmiddle, hsymbol⟩ :=
    resolve_unchecked hchecks name.text name.span.start state
  have hmiddleCursor := hmiddle.trans hcursor
  have hsize : ts.length ≤ middle.cursor.remaining + 1 := by
    rw [hmiddleCursor, Cursor.facing_remaining, List.length_cons, List.length_append]
    omega
  obtain ⟨target, next, htarget, hnext, rfl, htree⟩ :=
    subscript_yields hchecks (exprWithin_yields hchecks _) symbol name.span hopen hclose hsize
      hindex hmiddleCursor
  refine ⟨target, next, quiet_beginning.2 ⟨_, middle, hresolve, .inl
    ⟨(kind_of_facing hmiddleCursor).trans hopen, subscriptable_unchecked hchecks _, target,
      htarget, rfl⟩⟩, ?_, hnext⟩
  rw [← hsymbol]
  exact .element htree

theorem namedStmt_of_assignment (hchecks : settings.checks = false) {handoff : Handoff}
    {middle : ParseState} {sign semicolon : Token}
    (hbeginning : Quiet (beginning state.cursor.current) settings state.advanced handoff middle)
    (hsign : sign.kind = .assignment) (hend : semicolon.kind = .semicolon) (hexpr : IsExpr ts)
    (hmiddle : middle.cursor = cursor.facing (sign :: (ts ++ semicolon :: rest))) :
    ∃ result next, Quiet namedStmt settings state result next ∧
      next.cursor = cursor.facing rest := by
  obtain ⟨tree, last, hquiet, hkind, hstop⟩ :=
    expr_before_semicolon hchecks hexpr hend (advanced_of_facing hmiddle)
  exact ⟨_, last.advanced, quiet_namedStmt.2 ⟨handoff, middle, hbeginning, .inl
    ⟨(kind_of_facing hmiddle).trans hsign, tree, last, hquiet, hkind, unchecked hchecks, rfl, rfl⟩⟩,
    hstop⟩

/-- The factor that a statement begins with is handed over after its name or its
subscript, and the expression goes on with it. -/
theorem beginning_of_factor (hchecks : settings.checks = false) {name : Token} {first : Surface}
    (hname : name.kind = .identifier) (hfactor : Written .factor (name :: ts) first)
    (hstops : Stops .factor (cursor.facing rest).kind)
    (hassignment : (cursor.facing rest).kind ≠ .assignment)
    (hcursor : state.cursor = cursor.facing (ts ++ rest)) :
    ∃ handoff middle, Quiet (beginning name) settings state handoff middle ∧
      middle.cursor.kind ≠ .assignment ∧ rest.length ≤ middle.cursor.remaining ∧
      Yields (value (exprWithin (middle.cursor.remaining + 1) none) (some handoff)) settings
        middle first (cursor.facing rest) := by
  -- A name with no subscript is handed over as it is; the factor goes on after it.
  have hident (hkind : (cursor.facing (ts ++ rest)).kind ≠ .openBracket)
      (hnext : (cursor.facing (ts ++ rest)).kind ≠ .assignment) :
      ∃ handoff middle, Quiet (beginning name) settings state handoff middle ∧
        middle.cursor.kind ≠ .assignment ∧ rest.length ≤ middle.cursor.remaining ∧
        Yields (value (exprWithin (middle.cursor.remaining + 1) none) (some handoff)) settings
          middle first (cursor.facing rest) := by
    obtain ⟨symbol, middle, hbeginning, hsymbol, hmiddle⟩ :=
      beginning_of_name hchecks name hkind hcursor
    have hremaining : middle.cursor.remaining = ts.length + rest.length := by
      rw [hmiddle, Cursor.facing_remaining, List.length_append]
    obtain ⟨tree, next, htree, hlast, helaborates⟩ :=
      afterName_yields hchecks (exprWithin_yields hchecks (middle.cursor.remaining + 1)) name.span
        hname hsymbol hfactor (by omega) hstops hmiddle
    rw [← hmiddle] at hnext
    exact ⟨_, middle, hbeginning, hnext, by omega, tree.widen, next,
      quiet_factor_ident.2 ⟨tree, htree, rfl⟩, hlast, helaborates.widen⟩
  cases hfactor with
  | name => exact hident hstops.1 hassignment
  | call _ hopen =>
      refine hident ?_ ?_
      · rw [List.cons_append, Cursor.facing_cons_kind, hopen]
        decide
      · rw [List.cons_append, Cursor.facing_cons_kind, hopen]
        decide
  | element _ hopen hclose hindex =>
      simp only [List.cons_append, List.append_assoc, List.nil_append] at hcursor
      obtain ⟨target, middle, hbeginning, helaborates, hmiddle⟩ :=
        beginning_of_element hchecks name hopen hclose hindex hcursor
      have hread : Quiet (value (exprWithin (middle.cursor.remaining + 1) none)
          (some (.element target))) settings middle (some target.read.widen) middle := by
        unfold value
        exact quiet_factor_element.2 ⟨rfl, rfl⟩
      rw [← hmiddle] at hassignment
      exact ⟨_, middle, hbeginning, hassignment,
        Nat.le_of_eq (by rw [hmiddle, Cursor.facing_remaining]), target.read.widen, middle, hread,
        hmiddle, helaborates.widen⟩
  | string hkind => rw [hname] at hkind; contradiction
  | constant hkind => rw [hname] at hkind; contradiction
  | parenthesized hkind => rw [hname] at hkind; contradiction
  | @step operator _ _ hkind => rw [hname] at hkind; cases operator <;> contradiction
  | address hkind => rw [hname] at hkind; contradiction

/-- The token after the first value of an expression is an operator or the one after
the whole. -/
theorem Continues.kind_ne {first e : Surface} {tier : Tier} {us : List Token}
    {kind : TokenKind} (hcontinues : Continues first tier us e)
    (hoperator : BinaryOp.ofToken? kind = none) (hnext : (cursor.facing rest).kind ≠ kind) :
    (cursor.facing (us ++ rest)).kind ≠ kind := by
  induction hcontinues generalizing rest with
  | value => exact hnext
  | chain _ hoperators ih =>
      rw [List.append_assoc]
      refine ih ?_
      cases hoperators with
      | nil => exact hnext
      | cons hsign _ _ =>
          rw [List.cons_append, Cursor.facing_cons_kind]
          rintro rfl
          rw [Precedence.operator?_eq_some, hoperator] at hsign
          exact nomatch hsign.1

theorem namedStmt_of_expr (hchecks : settings.checks = false) {name semicolon : Token}
    {e : Surface} (hname : name.kind = .identifier) (hend : semicolon.kind = .semicolon)
    (hwritten : Written (.chain .logicalOr) (name :: ts) e)
    (hcursor : state.cursor = cursor.facing (name :: (ts ++ semicolon :: rest))) :
    ∃ result next, Quiet namedStmt settings state result next ∧
      next.cursor = cursor.facing rest := by
  have hsemicolon : (cursor.facing (semicolon :: rest)).kind = .semicolon := hend
  have hstops : Stops (.chain .logicalOr) (cursor.facing (semicolon :: rest)).kind := by
    rw [hsemicolon]
    exact stops_semicolon
  obtain ⟨lead, first, us, hlead, hcontinues, hsplit⟩ := hwritten.leading_value (by decide)
  obtain ⟨token, tail, rfl, -⟩ := hlead.begins
  rw [List.cons_append] at hsplit
  obtain ⟨rfl, rfl⟩ := List.cons.inj hsplit
  cases hlead with
  | not hkind => rw [hname] at hkind; contradiction
  | factor hfactor =>
      have hafter := advanced_of_facing hcursor
      rw [List.append_assoc] at hafter
      have hvalueStops := hcontinues.stops hstops
      have hassignment : (cursor.facing (us ++ semicolon :: rest)).kind ≠ .assignment :=
        Continues.kind_ne hcontinues rfl (by rw [hsemicolon]; decide)
      obtain ⟨handoff, middle, hbeginning, hkind, hremaining, hfirst⟩ :=
        beginning_of_factor hchecks hname hfactor (stops_factor hvalueStops) hassignment hafter
      rw [List.length_append] at hremaining
      obtain ⟨tree, last, hquiet, hlast, -⟩ :=
        exprAfter_yields hchecks hfirst hcontinues (by omega) hstops
      rw [← current_of_facing hcursor] at hbeginning
      exact ⟨_, last.advanced, quiet_namedStmt.2 ⟨handoff, middle, hbeginning, .inr
        ⟨hkind, tree, last, hquiet, (kind_of_facing hlast).trans hend, rfl, rfl⟩⟩,
        advanced_of_facing hlast⟩

/-- A statement with no other inside is read whatever stands after it. -/
theorem simple_yields (hchecks : settings.checks = false) {stmt : Parse Stmt}
    [Respects ReportsMore stmt] (hsimple : IsSimple ts)
    (hcursor : state.cursor = cursor.facing (ts ++ rest)) :
    ∃ result next, Quiet (stmtWith stmt) settings state result next ∧
      next.cursor = cursor.facing rest := by
  have hnamed (hkind : state.cursor.kind = .identifier)
      (hquiet : ∃ result next, Quiet namedStmt settings state result next ∧
        next.cursor = cursor.facing rest) :
      ∃ result next, Quiet (stmtWith stmt) settings state result next ∧
        next.cursor = cursor.facing rest := by
    obtain ⟨result, next, hquiet, hnext⟩ := hquiet
    exact ⟨result, next, quiet_stmtWith.2
      (.inr (.inr (.inr (.inr (.inr (.inl ⟨hkind, hquiet⟩)))))), hnext⟩
  have hreturned (hkind : state.cursor.kind = .returnWord)
      (hquiet : ∃ result next, Quiet returned settings state result next ∧
        next.cursor = cursor.facing rest) :
      ∃ result next, Quiet (stmtWith stmt) settings state result next ∧
        next.cursor = cursor.facing rest := by
    obtain ⟨result, next, hquiet, hnext⟩ := hquiet
    exact ⟨result, next, quiet_stmtWith.2 (.inr (.inr (.inr (.inl ⟨hkind, hquiet⟩)))), hnext⟩
  cases hsimple with
  | decl hdecl =>
      obtain ⟨result, next, hquiet, hnext⟩ := declaration_yields hchecks hdecl hcursor
      obtain ⟨base, hbase, -⟩ := quiet_declaration.1 hquiet
      exact ⟨_, next, quiet_stmtWith.2 (.inr (.inr (.inr (.inr (.inr (.inr (.inl
        ⟨by rw [hbase]; rfl, result, hquiet, rfl⟩))))))), hnext⟩
  | ret hword hend =>
      have hadvanced := advanced_of_facing hcursor
      have hkind := (kind_of_facing hadvanced).trans hend
      refine hreturned ((kind_of_facing hcursor).trans hword) ⟨_, state.advanced.advanced,
        quiet_returned.2 (.inr ⟨quiet_expr_none.2 ?_, unchecked hchecks, hkind, rfl, rfl⟩),
        advanced_of_facing hadvanced⟩
      rw [hkind]
      exact ⟨by decide, by decide, rfl⟩
  | retValue hword hend hexpr =>
      simp only [List.cons_append, List.append_assoc, List.nil_append] at hcursor
      obtain ⟨tree, last, hquiet, hkind, hstop⟩ :=
        expr_before_semicolon hchecks hexpr hend (advanced_of_facing hcursor)
      exact hreturned ((kind_of_facing hcursor).trans hword) ⟨_, last.advanced,
        quiet_returned.2 (.inl ⟨tree, last, hquiet, unchecked hchecks, hkind, rfl, rfl⟩), hstop⟩
  | null hend =>
      exact ⟨_, state.advanced, quiet_stmtWith.2 (.inr (.inr (.inr (.inr (.inl
        ⟨(kind_of_facing hcursor).trans hend, rfl, rfl⟩))))), advanced_of_facing hcursor⟩
  | assign hname hsign hend hexpr =>
      simp only [List.cons_append, List.append_assoc, List.nil_append] at hcursor
      have hadvanced := advanced_of_facing hcursor
      obtain ⟨symbol, middle, hbeginning, -, hmiddle⟩ :=
        beginning_of_name hchecks state.cursor.current
          (by rw [Cursor.facing_cons_kind, hsign]; decide) hadvanced
      exact hnamed ((kind_of_facing hcursor).trans hname)
        (namedStmt_of_assignment hchecks hbeginning hsign hend hexpr hmiddle)
  | assignElement hname hopen hclose hsign hend hindex hexpr =>
      simp only [List.cons_append, List.append_assoc, List.nil_append] at hcursor
      have hadvanced := advanced_of_facing hcursor
      obtain ⟨index, hindex⟩ := hindex
      obtain ⟨target, middle, hbeginning, -, hmiddle⟩ :=
        beginning_of_element hchecks state.cursor.current hopen hclose hindex hadvanced
      exact hnamed ((kind_of_facing hcursor).trans hname)
        (namedStmt_of_assignment hchecks hbeginning hsign hend hexpr hmiddle)
  | evaluate hend hexpr =>
      rw [List.append_assoc, List.singleton_append] at hcursor
      obtain ⟨e, hwritten⟩ := hexpr
      obtain ⟨token, tail, rfl, hbegins⟩ := hwritten.begins
      have hkind := kind_of_facing hcursor
      by_cases hname : token.kind = .identifier
      · exact hnamed (hkind.trans hname) (namedStmt_of_expr hchecks hname hend hwritten hcursor)
      · obtain ⟨tree, last, hquiet, hend, hstop⟩ :=
          expr_before_semicolon hchecks ⟨e, hwritten⟩ hend hcursor
        have hstmt : beginsStmt state.cursor.kind = false := by
          rw [hkind]
          exact beginsStmt_of_beginsExpr hbegins hname
        exact ⟨_, last.advanced, quiet_stmtWith.2 (.inr (.inr (.inr (.inr (.inr (.inr (.inr
          ⟨hstmt, quiet_evaluated.2 ⟨tree, last, hquiet, hend, rfl, rfl⟩⟩))))))), hstop⟩

/-! ## Statements -/

theorem condition_yields (hchecks : settings.checks = false) {opening closing : Token}
    (hopen : opening.kind = .openParen) (hclose : closing.kind = .closeParen)
    (htest : IsExpr ts)
    (hcursor : state.cursor = cursor.facing (opening :: (ts ++ closing :: rest))) :
    ∃ result next, Quiet condition settings state result next ∧
      next.cursor = cursor.facing rest := by
  obtain ⟨e, hwritten⟩ := htest
  obtain ⟨tree, next, hquiet, hnext, -⟩ := expr_yields hchecks hwritten
    (by rw [Cursor.facing_cons_kind, hclose]; exact stops_closeParen) (advanced_of_facing hcursor)
  exact ⟨tree, next.advanced, quiet_condition.2 ⟨(kind_of_facing hcursor).trans hopen, next, hquiet,
    (kind_of_facing hnext).trans hclose, unchecked hchecks, rfl⟩, advanced_of_facing hnext⟩

/-- A parse of statements reads those that have at most a number of tokens.  An open
statement must not be followed by an `else`. -/
def YieldsStmts (stmt : Parse Stmt) (settings : Settings) (size : Nat) : Prop :=
  ∀ ⦃state : ParseState⦄ ⦃cursor : Cursor⦄ ⦃closed : Bool⦄ ⦃ts rest : List Token⦄,
    ts.length ≤ size → Attached closed ts →
    (closed = false → (cursor.facing rest).kind ≠ .elseWord) →
    state.cursor = cursor.facing (ts ++ rest) →
    ∃ result next, Quiet stmt settings state result next ∧ next.cursor = cursor.facing rest

section

variable {stmt : Parse Stmt} [Respects ReportsMore stmt] {size : Nat}

theorem stmtsUntilClose_yields (hstmt : YieldsStmts stmt settings size) {budget : Nat}
    {parts : List (List Token)} {closing : Token} (hclose : closing.kind = .closeCurly)
    (hparts : ∀ part ∈ parts, IsStmt part) (hsize : parts.flatten.length ≤ size)
    (hbudget : parts.flatten.length < budget)
    (hcursor : state.cursor = cursor.facing (parts.flatten ++ closing :: rest)) :
    ∃ body next, Quiet (stmtsUntilClose stmt budget) settings state body next ∧
      next.cursor = cursor.facing (closing :: rest) := by
  obtain ⟨budget, rfl⟩ : ∃ smaller, budget = smaller + 1 := ⟨budget - 1, by omega⟩
  induction parts generalizing state budget with
  | nil =>
      have hkind := (kind_of_facing hcursor).trans hclose
      exact ⟨[], state, quiet_stmtsUntilClose_succ.2 (.inl ⟨hkind, rfl, rfl⟩), hcursor⟩
  | cons part parts ih =>
      rw [List.flatten_cons, List.append_assoc] at hcursor
      rw [List.flatten_cons, List.length_append] at hsize hbudget
      obtain ⟨closed, hattached⟩ := (hparts part List.mem_cons_self).attached
      have hothers : ∀ part ∈ parts, IsStmt part :=
        fun other hmem => hparts other (List.mem_cons_of_mem _ hmem)
      obtain ⟨token, tail, htokens, hbegins⟩ := hattached.begins
      have hpositive : 0 < part.length := by
        rw [htokens, List.length_cons]
        omega
      obtain ⟨first, middle, hfirst, hmiddle⟩ :=
        hstmt (by omega) hattached (fun _ => IsStmt.flatten_kind_ne_else hothers hclose) hcursor
      have hkind : state.cursor.kind = token.kind := by
        rw [htokens] at hcursor
        exact kind_of_facing hcursor
      obtain ⟨budget, rfl⟩ : ∃ smaller, budget = smaller + 1 := ⟨budget - 1, by omega⟩
      obtain ⟨others, next, hquiet, hlast⟩ := ih hothers (by omega) hmiddle budget (by omega)
      refine ⟨first :: others, next, quiet_stmtsUntilClose_succ.2 (.inr ⟨?_, ?_, first, middle,
        others, hfirst, hquiet, rfl⟩), hlast⟩
      · rw [hkind]
        exact ne_of_beginsAnyStmt hbegins rfl
      · rw [hkind]
        exact ne_of_beginsAnyStmt hbegins rfl

theorem block_yields (hstmt : YieldsStmts stmt settings size) {parts : List (List Token)}
    {opening closing : Token} (hopen : opening.kind = .openCurly)
    (hclose : closing.kind = .closeCurly) (hparts : ∀ part ∈ parts, IsStmt part)
    (hsize : parts.flatten.length ≤ size)
    (hcursor : state.cursor =
      cursor.facing (opening :: (parts.flatten ++ closing :: rest))) :
    ∃ result next, Quiet (block stmt) settings state result next ∧
      next.cursor = cursor.facing rest := by
  have hadvanced := advanced_of_facing hcursor
  have hbudget : parts.flatten.length < state.advanced.cursor.remaining + 1 := by
    rw [hadvanced, Cursor.facing_remaining, List.length_append]
    omega
  obtain ⟨body, last, hbody, hlast⟩ :=
    stmtsUntilClose_yields hstmt hclose hparts hsize hbudget hadvanced
  exact ⟨_, last.advanced, quiet_block.2 ⟨(kind_of_facing hcursor).trans hopen, body, last, hbody,
    (kind_of_facing hlast).trans hclose, rfl, rfl⟩, advanced_of_facing hlast⟩

theorem stmtWith_yields (hchecks : settings.checks = false)
    (hstmt : YieldsStmts stmt settings size) :
    YieldsStmts (stmtWith stmt) settings (size + 1) := by
  intro state cursor closed ts rest hsize hattached helse hcursor
  cases hattached with
  | simple hsimple => exact simple_yields hchecks hsimple hcursor
  | block hopen hclose hparts =>
      simp only [List.cons_append, List.append_assoc, List.nil_append] at hcursor
      simp only [List.length_cons, List.length_append] at hsize
      let inner := { state with symbols := state.symbols.enterScope }
      have hinner : inner.cursor = state.cursor := rfl
      obtain ⟨result, last, hquiet, hlast⟩ :=
        block_yields hstmt hopen hclose hparts (by omega) (hinner.trans hcursor)
      exact ⟨_, _, quiet_stmtWith.2 (.inl ⟨(kind_of_facing hcursor).trans hopen, result,
        quiet_inScope.2 ⟨last, hquiet, rfl⟩, rfl⟩), hlast⟩
  | conditional hword hopen hclose htest haccepted =>
      simp only [List.cons_append, List.append_assoc] at hcursor
      simp only [List.length_cons, List.length_append] at hsize
      obtain ⟨test, tested, htested, htestedCursor⟩ :=
        condition_yields hchecks hopen hclose htest (advanced_of_facing hcursor)
      obtain ⟨accepted, next, hquiet, hnext⟩ :=
        hstmt (by omega) haccepted (fun _ => helse rfl) htestedCursor
      have hkind : next.cursor.kind ≠ .elseWord := by
        rw [hnext]
        exact helse rfl
      exact ⟨_, next, quiet_stmtWith.2 (.inr (.inl ⟨(kind_of_facing hcursor).trans hword,
        quiet_conditional.2 ⟨test, tested, accepted, next, htested, hquiet,
          .inr ⟨hkind, rfl, rfl⟩⟩⟩)), hnext⟩
  | alternative hword hopen hclose hotherwise htest haccepted hrejected =>
      simp only [List.cons_append, List.append_assoc] at hcursor
      simp only [List.length_cons, List.length_append] at hsize
      obtain ⟨test, tested, htested, htestedCursor⟩ :=
        condition_yields hchecks hopen hclose htest (advanced_of_facing hcursor)
      obtain ⟨accepted, middle, hacceptedQuiet, hmiddle⟩ :=
        hstmt (by omega) haccepted (fun hfalse => nomatch hfalse) htestedCursor
      obtain ⟨rejected, next, hrejectedQuiet, hnext⟩ :=
        hstmt (by omega) hrejected helse (advanced_of_facing hmiddle)
      exact ⟨_, next, quiet_stmtWith.2 (.inr (.inl ⟨(kind_of_facing hcursor).trans hword,
        quiet_conditional.2 ⟨test, tested, accepted, middle, htested, hacceptedQuiet,
          .inl ⟨(kind_of_facing hmiddle).trans hotherwise, rejected, hrejectedQuiet, rfl⟩⟩⟩)),
        hnext⟩
  | whileLoop hword hopen hclose htest hbody =>
      simp only [List.cons_append, List.append_assoc] at hcursor
      simp only [List.length_cons, List.length_append] at hsize
      obtain ⟨test, tested, htested, htestedCursor⟩ :=
        condition_yields hchecks hopen hclose htest (advanced_of_facing hcursor)
      obtain ⟨body, next, hquiet, hnext⟩ := hstmt (by omega) hbody helse htestedCursor
      exact ⟨_, next, quiet_stmtWith.2 (.inr (.inr (.inl
        ⟨(kind_of_facing hcursor).trans hword,
          quiet_whileLoop.2 ⟨test, tested, body, htested, hquiet, rfl⟩⟩))), hnext⟩

end

/-- A budget of as many tokens as a statement has is enough to read it. -/
theorem stmtWithin_yields (hchecks : settings.checks = false) (budget : Nat) :
    YieldsStmts (stmtWithin budget) settings budget := by
  induction budget with
  | zero =>
      intro state cursor closed ts rest hsize hattached
      obtain ⟨token, tail, rfl, -⟩ := hattached.begins
      rw [List.length_cons] at hsize
      omega
  | succ budget ih =>
      intro state cursor closed ts rest hsize hattached helse hcursor
      obtain ⟨result, next, hquiet, hnext⟩ :=
        stmtWith_yields hchecks ih hsize hattached helse hcursor
      exact ⟨result, next, quiet_stmtWithin.2 ⟨budget, rfl, hquiet⟩, hnext⟩

end Parse

end SubsetC
