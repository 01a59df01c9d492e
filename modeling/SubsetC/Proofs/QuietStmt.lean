import SubsetC.Proofs.QuietExpr

/-!
# Quiet runs of declarations and statements
-/

namespace SubsetC

/-- The return type in force: `void` outside of a body. -/
def ParseState.returns (state : ParseState) : Ty := state.returnType?.getD .void

namespace Parse

variable {settings : Settings} {state next : ParseState}

/-! ## Declarations -/

@[simp] theorem quiet_expectFor_bind {β : Type} {expected : TokenKind}
    {expectation : Expectation} {continued : Token → Parse β} {result : β} :
    Quiet (expectFor expected expectation >>= continued) settings state result next ↔
      state.cursor.kind = expected ∧
        Quiet (continued state.cursor.current) settings state.advanced result next := by
  unfold expectFor
  rw [bind_assoc, quiet_current_bind, quiet_expectOr_bind]

theorem quiet_typeSpecifier {ty : Ty} :
    Quiet typeSpecifier settings state ty next ↔
      Ty.ofSpecifier? state.cursor.kind = some ty ∧ next = state.advanced := by
  unfold typeSpecifier
  have hkind : state.cursor.current.kind = state.cursor.kind := rfl
  rw [quiet_current_bind, hkind]
  cases Ty.ofSpecifier? state.cursor.kind with
  | some found =>
      simp only [quiet_advance_bind, quiet_pure, Option.some.injEq]
      rw [eq_comm]
  | none => simp

theorem quiet_arrayType {element ty : Ty} {position : Position} :
    Quiet (arrayType element position) settings state ty next ↔
      element.arrayOf? = some ty ∧ next = state := by
  unfold arrayType
  cases element.arrayOf? with
  | some found =>
      simp only [quiet_pure, Option.some.injEq]
      rw [eq_comm]
  | none => simp

/-- The state after a symbol was declared, if it could be. -/
inductive Declares (settings : Settings) (declared : Except Symbol SymbolTable)
    (state : ParseState) : ParseState → Prop
  | bound {symbols : SymbolTable} : declared = .ok symbols →
      Declares settings declared state { state with symbols := symbols }
  | refused {existing : Symbol} : declared = .error existing → settings.checks = false →
      Declares settings declared state state

theorem Declares.cursor_eq {declared : Except Symbol SymbolTable}
    (hdeclares : Declares settings declared state next) : next.cursor = state.cursor := by
  cases hdeclares <;> rfl

theorem quiet_adopt {name : Token} {declared : Except Symbol SymbolTable}
    {symbol result : Symbol} :
    Quiet (do adopt name declared; return symbol) settings state result next ↔
      result = symbol ∧ Declares settings declared state next := by
  cases declared with
  | ok symbols =>
      have hrun : adopt name (.ok symbols) settings state =
          .ok () { state with symbols := symbols } := rfl
      rw [quiet_bind_of_run hrun rfl, quiet_pure]
      refine and_congr_right fun _ => ⟨?_, ?_⟩
      · rintro rfl
        exact .bound rfl
      · rintro (⟨⟨⟩⟩ | ⟨⟨⟩⟩)
        rfl
  | error existing =>
      unfold adopt
      rw [quiet_bind]
      constructor
      · rintro ⟨reported, middle, hreport, hresult⟩
        obtain ⟨hchecks, rfl⟩ := quiet_reportMisuse.1 hreport
        obtain ⟨rfl, rfl⟩ := quiet_pure.1 hresult
        exact ⟨rfl, .refused rfl hchecks⟩
      · rintro ⟨rfl, (⟨⟨⟩⟩ | ⟨_, hchecks⟩)⟩
        exact ⟨(), _, quiet_reportMisuse.2 ⟨hchecks, rfl⟩, quiet_pure.2 ⟨rfl, rfl⟩⟩

theorem quiet_declareVariable {name : Token} {ty : Ty} {symbol : Symbol} :
    Quiet (declareVariable name ty) settings state symbol next ↔
      symbol = .variable name.text ty ∧
        Declares settings (state.symbols.declare (.variable name.text ty)) state next := by
  unfold declareVariable
  rw [quiet_get_bind, quiet_adopt]

theorem quiet_declareFunction {name : Token} {signature : Signature} {symbol : Symbol} :
    Quiet (declareFunction name signature) settings state symbol next ↔
      symbol = .function name.text signature ∧
        Declares settings (state.symbols.declareGlobal (.function name.text signature)) state
          next := by
  unfold declareFunction
  rw [quiet_get_bind, quiet_adopt]

/-- Whether a value fits its context as it is or after a conversion. -/
def Suits (target value : Ty) : Prop :=
  target = .error ∨ value = .error ∨ target = value ∨
    target = .char ∧ value = .int ∨ target = .int ∧ value = .char

/-- A value as its context takes it. -/
def suited (target : Ty) (value : Expr) : Expr :=
  if target = .char ∧ value.ty = .int then value.narrow
  else if target = .int ∧ value.ty = .char then value.widen
  else value

theorem quiet_coerce {target : Ty} {value result : Expr} {misuse : Ty → Ty → Misuse}
    {position : Position} :
    Quiet (coerce target value misuse position) settings state result next ↔
      (settings.checks = true → Suits target value.ty) ∧ next = state ∧
        result = suited target value := by
  unfold coerce
  by_cases hsame : target = .error ∨ value.ty = .error ∨ target = value.ty
  · have hsuits : Suits target value.ty := by
      unfold Suits
      tauto
    have hsuited : suited target value = value := by
      unfold suited
      rcases hsame with h | h | h
      · simp [h]
      · simp [h]
      · cases hty : value.ty <;> simp_all
    rw [if_pos hsame, hsuited, quiet_pure]
    simp [hsuits, and_comm]
  · rw [if_neg hsame]
    split
    · rename_i hvalue
      simp [Suits, suited, hvalue, and_comm]
    · rename_i hvalue
      simp [Suits, suited, hvalue, and_comm]
    · rename_i context _ _ hnarrow hwiden
      have hsuits : ¬ Suits context value.ty := by
        unfold Suits
        tauto
      have hsuited : suited context value = value := by
        unfold suited
        rw [if_neg fun h => hnarrow h.1 h.2, if_neg fun h => hwiden h.1 h.2]
      rw [hsuited, quiet_bind]
      simp only [quiet_reportMisuse, quiet_pure]
      constructor
      · rintro ⟨reported, middle, ⟨hchecks, rfl⟩, rfl, rfl⟩
        simp [hchecks]
      · rintro ⟨hpasses, rfl, rfl⟩
        have hchecks : settings.checks = false := by
          cases hchecks : settings.checks with
          | false => rfl
          | true => exact (hsuits (hpasses hchecks)).elim
        exact ⟨(), next, ⟨hchecks, rfl⟩, rfl, rfl⟩

/-- The type of a declared variable and its written size, by the tokens after its
name. -/
theorem quiet_declaredType {base ty : Ty} {name : Token} {size? : Option Nat} :
    Quiet (declaredType base name) settings state (ty, size?) next ↔
      state.cursor.kind = .openBracket ∧ base.arrayOf? = some ty ∧
          (state.advanced.cursor.kind = .constant ∧
              (∃ size, arraySize? state.advanced.cursor.current.text = some size ∧
                size? = some size ∧ state.advanced.advanced.cursor.kind = .closeBracket ∧
                next = state.advanced.advanced.advanced) ∨
            state.advanced.cursor.kind = .closeBracket ∧ size? = none ∧
              next = state.advanced.advanced) ∨
        state.cursor.kind ≠ .openBracket ∧ ty = base ∧ size? = none ∧ next = state := by
  unfold declaredType
  rw [quiet_accept_bind]
  simp only [if_true, if_false, Bool.false_eq_true, quiet_pure, Prod.mk.injEq, and_assoc]
  refine or_congr (and_congr_right fun hopen => ?_) Iff.rfl
  rw [quiet_bind_of inferInstance fun ty => .bind inferInstance fun kind => by
    split
    · refine .bind inferInstance fun token => ?_
      split <;> infer_instance
    · infer_instance]
  simp only [quiet_arrayType, quiet_kind_bind]
  constructor
  · rintro ⟨array, middle, ⟨harray, rfl⟩, hrest⟩
    split at hrest
    · rename_i hconstant
      rw [quiet_advance_bind] at hrest
      cases hsize : arraySize? state.advanced.cursor.current.text with
      | none =>
          rw [hsize] at hrest
          simp at hrest
      | some size =>
          simp only [hsize, quiet_expect_bind, quiet_pure, Prod.mk.injEq] at hrest
          obtain ⟨hclose, ⟨rfl, rfl⟩, rfl⟩ := hrest
          exact ⟨harray, .inl ⟨hconstant, size, rfl, rfl, hclose, rfl⟩⟩
    · simp only [quiet_expect_bind, quiet_pure, Prod.mk.injEq] at hrest
      obtain ⟨hclose, ⟨rfl, rfl⟩, rfl⟩ := hrest
      exact ⟨harray, .inr ⟨hclose, rfl, rfl⟩⟩
  · rintro ⟨harray, ⟨hconstant, size, hsize, rfl, hclose, rfl⟩ | ⟨hclose, rfl, rfl⟩⟩
    · refine ⟨ty, state.advanced, ⟨harray, rfl⟩, ?_⟩
      rw [if_pos hconstant, quiet_advance_bind, hsize]
      exact quiet_expect_bind.2 ⟨hclose, quiet_pure.2 ⟨rfl, rfl⟩⟩
    · refine ⟨ty, state.advanced, ⟨harray, rfl⟩, ?_⟩
      rw [hclose, if_neg (by decide)]
      exact quiet_expect_bind.2 ⟨hclose, quiet_pure.2 ⟨rfl, rfl⟩⟩

theorem quiet_initialValue {ty : Ty} {initial? : Option Expr} :
    Quiet (initialValue ty) settings state initial? next ↔
      state.cursor.kind = .assignment ∧
          (∃ value, Quiet expr settings state.advanced (some value) next ∧
            (settings.checks = true → Suits ty value.ty) ∧
            initial? = some (suited ty value)) ∨
        state.cursor.kind ≠ .assignment ∧ initial? = none ∧ next = state := by
  unfold initialValue
  rw [quiet_kind_bind]
  by_cases hkind : state.cursor.kind = .assignment
  · rw [if_pos hkind, quiet_advance_bind, quiet_bind]
    simp only [hkind, quiet_requireExpr, quiet_map, quiet_coerce, ne_eq, not_true_eq_false,
      false_and, or_false, true_and]
    constructor
    · rintro ⟨value, middle, hvalue, result, ⟨hsuits, rfl, rfl⟩, rfl⟩
      exact ⟨value, hvalue, hsuits, rfl⟩
    · rintro ⟨value, hvalue, hsuits, rfl⟩
      exact ⟨value, next, hvalue, _, ⟨hsuits, rfl, rfl⟩, rfl⟩
  · simp [hkind]

theorem quiet_declarator {base : Ty} {name : Token} {start : Position}
    {result : Declaration} :
    Quiet (declarator base name start) settings state result next ↔
      ∃ ty size? initial? typed declared last,
        Quiet (declaredType base name) settings state (ty, size?) typed ∧ ty ≠ .void ∧
        Declares settings (typed.symbols.declare (.variable name.text ty)) typed declared ∧
        Quiet (initialValue ty) settings declared initial? last ∧
        last.cursor.kind = .semicolon ∧
        result =
          { symbol := .variable name.text ty
            size? := size?
            initial? := initial?
            span := { start := start, stop := last.cursor.current.span.stop } } ∧
        next = last.advanced := by
  unfold declarator
  rw [quiet_bind]
  constructor
  · rintro ⟨⟨ty, size?⟩, typed, htyped, hrest⟩
    simp only at hrest
    split at hrest
    · simp at hrest
    · rename_i hvoid
      obtain ⟨symbol, declared, hdeclared, hrest⟩ := quiet_bind.1 hrest
      obtain ⟨rfl, hdeclares⟩ := quiet_declareVariable.1 hdeclared
      obtain ⟨initial?, last, hinitial, hrest⟩ := quiet_bind.1 hrest
      rw [quiet_expect_bind, quiet_pure] at hrest
      exact ⟨ty, size?, initial?, typed, declared, last, htyped, hvoid, hdeclares, hinitial,
        hrest⟩
  · rintro ⟨ty, size?, initial?, typed, declared, last, htyped, hvoid, hdeclares, hinitial,
      hrest⟩
    refine ⟨(ty, size?), typed, htyped, ?_⟩
    simp only
    rw [if_neg hvoid]
    refine quiet_bind.2 ⟨_, declared, quiet_declareVariable.2 ⟨rfl, hdeclares⟩, ?_⟩
    refine quiet_bind.2 ⟨initial?, last, hinitial, ?_⟩
    rw [quiet_expect_bind, quiet_pure]
    exact hrest

theorem quiet_declaration {result : Declaration} :
    Quiet declaration settings state result next ↔
      ∃ base, Ty.ofSpecifier? state.cursor.kind = some base ∧
        state.advanced.cursor.kind = .identifier ∧
        Quiet (declarator base state.advanced.cursor.current state.cursor.current.span.start)
          settings state.advanced.advanced result next := by
  unfold declaration
  rw [quiet_position_bind, quiet_bind]
  simp only [quiet_typeSpecifier, quiet_expectFor_bind]
  constructor
  · rintro ⟨base, middle, ⟨hbase, rfl⟩, hname, hrest⟩
    exact ⟨base, hbase, hname, hrest⟩
  · rintro ⟨base, hbase, hname, hrest⟩
    exact ⟨base, state.advanced, ⟨hbase, rfl⟩, hname, hrest⟩

theorem quiet_parameter {base : Ty} {symbol : Symbol} :
    Quiet (parameter base) settings state symbol next ↔
      state.cursor.kind = .identifier ∧
        ∃ ty typed, symbol = .variable state.cursor.current.text ty ∧
          (state.advanced.cursor.kind = .openBracket ∧
              state.advanced.advanced.cursor.kind = .closeBracket ∧
              base.arrayOf? = some ty ∧ typed = state.advanced.advanced.advanced ∨
            state.advanced.cursor.kind ≠ .openBracket ∧ base ≠ .void ∧ ty = base ∧
              typed = state.advanced) ∧
          Declares settings (typed.symbols.declare symbol) typed next := by
  unfold parameter
  rw [quiet_expectFor_bind]
  refine and_congr_right fun hname => ?_
  rw [quiet_accept_bind]
  simp only [if_true, if_false, Bool.false_eq_true]
  constructor
  · rintro (⟨hopen, hrest⟩ | ⟨hopen, hrest⟩)
    · rw [quiet_expect_bind, quiet_bind] at hrest
      obtain ⟨hclose, ty, typed, htyped, hdeclare⟩ := hrest
      obtain ⟨harray, rfl⟩ := quiet_arrayType.1 htyped
      obtain ⟨rfl, hdeclares⟩ := quiet_declareVariable.1 hdeclare
      exact ⟨ty, _, rfl, .inl ⟨hopen, hclose, harray, rfl⟩, hdeclares⟩
    · split at hrest
      · simp at hrest
      · rename_i hvoid
        obtain ⟨rfl, hdeclares⟩ := quiet_declareVariable.1 hrest
        exact ⟨base, _, rfl, .inr ⟨hopen, hvoid, rfl, rfl⟩, hdeclares⟩
  · rintro ⟨ty, typed, rfl, ⟨hopen, hclose, harray, rfl⟩ | ⟨hopen, hvoid, rfl, rfl⟩, hdeclares⟩
    · refine .inl ⟨hopen, ?_⟩
      rw [quiet_expect_bind, quiet_bind]
      exact ⟨hclose, ty, _, quiet_arrayType.2 ⟨harray, rfl⟩,
        quiet_declareVariable.2 ⟨rfl, hdeclares⟩⟩
    · refine .inr ⟨hopen, ?_⟩
      rw [if_neg hvoid]
      exact quiet_declareVariable.2 ⟨rfl, hdeclares⟩

theorem quiet_parametersFrom_succ {isFirst : Bool} {budget : Nat} {symbols : List Symbol} :
    Quiet (parametersFrom isFirst (budget + 1)) settings state symbols next ↔
      ∃ base, Ty.ofSpecifier? state.cursor.kind = some base ∧
        (base = .void ∧ isFirst = true ∧ state.advanced.cursor.kind = .closeParen ∧
            symbols = [] ∧ next = state.advanced ∨
          ∃ symbol middle, Quiet (parameter base) settings state.advanced symbol middle ∧
            (middle.cursor.kind = .comma ∧
                (∃ others, Quiet (parametersFrom false budget) settings middle.advanced others
                    next ∧ symbols = symbol :: others) ∨
              middle.cursor.kind ≠ .comma ∧ symbols = [symbol] ∧ next = middle)) := by
  rw [parametersFrom,
    quiet_bind_of inferInstance fun base => .bind inferInstance fun kind => inferInstance]
  simp only [quiet_typeSpecifier, quiet_kind_bind]
  constructor
  · rintro ⟨base, middle, ⟨hbase, rfl⟩, hrest⟩
    refine ⟨base, hbase, ?_⟩
    split at hrest
    · rename_i hempty
      obtain ⟨rfl, rfl⟩ := quiet_pure.1 hrest
      exact .inl ⟨hempty.1, hempty.2.1, hempty.2.2, rfl, rfl⟩
    · obtain ⟨symbol, middle, hsymbol, hrest⟩ := quiet_bind.1 hrest
      refine .inr ⟨symbol, middle, hsymbol, ?_⟩
      simp only [quiet_accept_bind, if_true, if_false, Bool.false_eq_true, quiet_pure] at hrest
      obtain ⟨hcomma, hrest⟩ | ⟨hcomma, rfl, rfl⟩ := hrest
      · obtain ⟨others, last, hothers, hresult⟩ := quiet_bind.1 hrest
        obtain ⟨rfl, rfl⟩ := quiet_pure.1 hresult
        exact .inl ⟨hcomma, others, hothers, rfl⟩
      · exact .inr ⟨hcomma, rfl, rfl⟩
  · rintro ⟨base, hbase, ⟨rfl, rfl, hclose, rfl, rfl⟩ | ⟨symbol, middle, hsymbol, hrest⟩⟩
    · refine ⟨.void, state.advanced, ⟨hbase, rfl⟩, ?_⟩
      rw [if_pos ⟨rfl, rfl, hclose⟩, quiet_pure]
      exact ⟨rfl, rfl⟩
    · refine ⟨base, state.advanced, ⟨hbase, rfl⟩, ?_⟩
      have hname := (quiet_parameter.1 hsymbol).1
      have hnotEmpty : ¬ (base = .void ∧ isFirst = true ∧
          state.advanced.cursor.kind = .closeParen) := by
        rintro ⟨-, -, hclose⟩
        rw [hname] at hclose
        contradiction
      rw [if_neg hnotEmpty]
      refine quiet_bind.2 ⟨symbol, middle, hsymbol, ?_⟩
      simp only [quiet_accept_bind, if_true, if_false, Bool.false_eq_true, quiet_pure]
      obtain ⟨hcomma, others, hothers, rfl⟩ | ⟨hcomma, rfl, rfl⟩ := hrest
      · exact .inl ⟨hcomma, quiet_bind.2 ⟨others, next, hothers, quiet_pure.2 ⟨rfl, rfl⟩⟩⟩
      · exact .inr ⟨hcomma, rfl, rfl⟩

theorem quiet_parameters {symbols : List Symbol} :
    Quiet parameters settings state symbols next ↔
      state.cursor.kind = .closeParen ∧ symbols = [] ∧ next = state ∨
        state.cursor.kind ≠ .closeParen ∧
          Quiet (parametersFrom true (state.cursor.remaining + 1)) settings state symbols
            next := by
  unfold parameters
  rw [quiet_kind_bind]
  by_cases hkind : state.cursor.kind = .closeParen <;> simp [hkind]

/-! ## Statements -/

theorem quiet_condition {result : Expr} :
    Quiet condition settings state result next ↔
      state.cursor.kind = .openParen ∧
        ∃ middle, Quiet expr settings state.advanced (some result) middle ∧
          middle.cursor.kind = .closeParen ∧
          (settings.checks = true → countsAsScalar result.ty = true) ∧
          next = middle.advanced := by
  unfold condition
  rw [quiet_expect_bind, quiet_bind]
  simp only [quiet_requireExpr, quiet_expect_bind, quiet_reportUnless_bind, quiet_pure]
  refine and_congr_right fun hopen => ?_
  constructor
  · rintro ⟨found, middle, hfound, hclose, hscalar, rfl, rfl⟩
    exact ⟨middle, hfound, hclose, hscalar, rfl⟩
  · rintro ⟨middle, hfound, hclose, hscalar, rfl⟩
    exact ⟨result, middle, hfound, hclose, hscalar, rfl, rfl⟩

theorem quiet_returned {result : Stmt} :
    Quiet returned settings state result next ↔
      (∃ value middle, Quiet expr settings state.advanced (some value) middle ∧
          (settings.checks = true → Suits state.returns value.ty) ∧
          middle.cursor.kind = .semicolon ∧
          result = .ret (some (suited state.returns value))
            (state.cursor.current.span.through middle.cursor.current.span) ∧
          next = middle.advanced) ∨
        Quiet expr settings state.advanced none state.advanced ∧
          (settings.checks = true → state.returns = .void) ∧
          state.advanced.cursor.kind = .semicolon ∧
          result = .ret none
            (state.cursor.current.span.through state.advanced.cursor.current.span) ∧
          next = state.advanced.advanced := by
  unfold returned
  rw [quiet_advance_bind, quiet_get_bind, quiet_bind_of inferInstance fun value? => by
    cases value? <;> infer_instance]
  constructor
  · rintro ⟨value?, middle, hvalue, hrest⟩
    cases value? with
    | some value =>
        simp only at hrest
        obtain ⟨fitted, after, hfitted, hresult⟩ := quiet_bind.1 hrest
        obtain ⟨hsuits, rfl, rfl⟩ := quiet_coerce.1 hfitted
        obtain ⟨hend, hresult⟩ := quiet_expect_bind.1 hresult
        obtain ⟨rfl, rfl⟩ := quiet_pure.1 hresult
        exact .inl ⟨value, after, hvalue, hsuits, hend, rfl, rfl⟩
    | none =>
        have hsame := (quiet_expr_none.1 hvalue).2.2
        subst hsame
        simp only [quiet_reportUnless_bind, quiet_expect_bind, quiet_pure,
          decide_eq_true_eq] at hrest
        exact .inr ⟨hvalue, hrest.1, hrest.2.1, hrest.2.2⟩
  · rintro (⟨value, middle, hvalue, hsuits, hend, rfl, rfl⟩ |
      ⟨hvalue, hvoid, hend, rfl, rfl⟩)
    · refine ⟨some value, middle, hvalue, ?_⟩
      refine quiet_bind.2 ⟨_, middle, quiet_coerce.2 ⟨hsuits, rfl, rfl⟩, ?_⟩
      exact quiet_expect_bind.2 ⟨hend, quiet_pure.2 ⟨rfl, rfl⟩⟩
    · refine ⟨none, state.advanced, hvalue, ?_⟩
      simp only [quiet_reportUnless_bind, quiet_expect_bind, quiet_pure, decide_eq_true_eq]
      exact ⟨hvoid, hend, trivial, trivial⟩

theorem quiet_beginning {name : Token} {handoff : Handoff} :
    Quiet (beginning name) settings state handoff next ↔
      ∃ symbol middle,
        Quiet (resolve name.text name.span.start) settings state symbol middle ∧
        (middle.cursor.kind = .openBracket ∧ Subscriptable settings symbol ∧
            (∃ target,
              Quiet (subscript (exprWithin (middle.cursor.remaining + 1) none) symbol name.span)
                settings middle target next ∧
              handoff = .element target) ∨
          middle.cursor.kind ≠ .openBracket ∧ handoff = .ident symbol name.span ∧
            next = middle) := by
  have hrules : ∀ symbol, Respects ReportsMore
      (withExpr fun whole => subscript whole symbol name.span) :=
    fun _ => .withExpr fun _ _ => inferInstance
  unfold beginning
  rw [quiet_bind_of inferInstance fun symbol => .bind inferInstance fun kind => by
    split
    · refine .bind inferInstance fun accepted => ?_
      split
      · have hrule := hrules symbol
        refine .bind inferInstance fun attempted => ?_
        cases attempted <;> infer_instance
      · infer_instance
    · infer_instance]
  refine exists_congr fun symbol => exists_congr fun middle =>
    and_congr_right fun hresolve => ?_
  rw [quiet_kind_bind]
  by_cases hopen : middle.cursor.kind = .openBracket
  · rw [if_pos hopen, quiet_bind_of_run (acceptsSubscript_run symbol) rfl]
    simp only [hopen, true_and, ne_eq, not_true_eq_false, false_and, or_false]
    by_cases haccepted : Subscriptable settings symbol
    · have hrule := hrules symbol
      rw [if_pos (acceptsSubscript_eq_true_iff.2 haccepted),
        quiet_bind_of inferInstance fun attempted => by cases attempted <;> infer_instance]
      constructor
      · rintro ⟨attempted, after, hattempt, hresult⟩
        cases attempted with
        | ok target =>
            obtain ⟨rfl, rfl⟩ := quiet_pure.1 hresult
            have htarget := quiet_attempt_ok.1 hattempt
            rw [withExpr, quiet_remaining_bind] at htarget
            exact ⟨haccepted, target, htarget, rfl⟩
        | error failure =>
            obtain ⟨recovered, last, hrecovered, -⟩ := quiet_bind.1 hresult
            exact (not_quiet_recoverPast hrecovered).elim
      · rintro ⟨-, target, htarget, rfl⟩
        refine ⟨.ok target, next, quiet_attempt_ok.2 ?_, quiet_pure.2 ⟨rfl, rfl⟩⟩
        rw [withExpr, quiet_remaining_bind]
        exact htarget
    · rw [if_neg fun htrue => haccepted (acceptsSubscript_eq_true_iff.1 htrue), quiet_bind]
      constructor
      · rintro ⟨rejected, after, hreject, -⟩
        have hchecks : settings.checks = true := by
          by_contra hunchecked
          exact haccepted fun hchecks => (hunchecked hchecks).elim
        exact (not_quiet_rejectSubscript hchecks hreject).elim
      · rintro ⟨hsubscriptable, -⟩
        exact (haccepted hsubscriptable).elim
  · simp [hopen]

def targetTy : Handoff → Ty
  | .ident symbol _ => symbol.ty
  | .element target => target.ty

def assigned (target : Handoff) (value : Expr) (span : Span) : Stmt :=
  match target with
  | .ident symbol _ => .assign symbol value span
  | .element target => .assignElement target value span

theorem quiet_assignment {target : Handoff} {value : Expr} {position : Position} {span : Span}
    {result : Stmt} :
    Quiet (assignment target value position span) settings state result next ↔
      (settings.checks = true → Suits (targetTy target) value.ty) ∧
        result = assigned target (suited (targetTy target) value) span ∧ next = state := by
  cases target <;>
  · unfold assignment
    simp only
    rw [quiet_bind]
    simp only [quiet_coerce, quiet_pure, targetTy, assigned]
    constructor
    · rintro ⟨fitted, middle, ⟨hsuits, rfl, rfl⟩, rfl, rfl⟩
      exact ⟨hsuits, rfl, rfl⟩
    · rintro ⟨hsuits, rfl, rfl⟩
      exact ⟨_, _, ⟨hsuits, rfl, rfl⟩, rfl, rfl⟩

theorem quiet_namedStmt {result : Stmt} :
    Quiet namedStmt settings state result next ↔
      ∃ handoff middle,
        Quiet (beginning state.cursor.current) settings state.advanced handoff middle ∧
        (middle.cursor.kind = .assignment ∧
            (∃ value last, Quiet expr settings middle.advanced (some value) last ∧
              last.cursor.kind = .semicolon ∧
              (settings.checks = true → Suits (targetTy handoff) value.ty) ∧
              result = assigned handoff (suited (targetTy handoff) value)
                (state.cursor.current.span.through last.cursor.current.span) ∧
              next = last.advanced) ∨
          middle.cursor.kind ≠ .assignment ∧
            ∃ value last, Quiet (exprAfter (some handoff)) settings middle (some value) last ∧
              last.cursor.kind = .semicolon ∧
              result = .evaluate value
                (state.cursor.current.span.through last.cursor.current.span) ∧
              next = last.advanced) := by
  unfold namedStmt
  rw [quiet_advance_bind,
    quiet_bind_of inferInstance fun handoff => .bind inferInstance fun kind => inferInstance]
  refine exists_congr fun handoff => exists_congr fun middle =>
    and_congr_right fun hbeginning => ?_
  rw [quiet_kind_bind]
  by_cases hassignment : middle.cursor.kind = .assignment
  · rw [if_pos hassignment, quiet_advance_bind, quiet_bind]
    simp only [hassignment, true_and, ne_eq, not_true_eq_false, false_and, or_false,
      quiet_requireExpr, quiet_expect_bind, quiet_assignment]
  · rw [if_neg hassignment, quiet_bind]
    simp only [hassignment, false_and, false_or, ne_eq, not_false_eq_true, true_and,
      quiet_orFail, quiet_expect_bind, quiet_pure]

theorem quiet_evaluated {result : Stmt} :
    Quiet evaluated settings state result next ↔
      ∃ value last, Quiet expr settings state (some value) last ∧
        last.cursor.kind = .semicolon ∧
        result = .evaluate value
          (state.cursor.current.span.through last.cursor.current.span) ∧
        next = last.advanced := by
  unfold evaluated
  rw [quiet_current_bind, quiet_bind]
  simp only [quiet_orFail, quiet_expect_bind, quiet_pure]

theorem not_quiet_recoverStmt {failure : Failure} {result : Stmt} :
    ¬ Quiet (recoverStmt failure) settings state result next := by
  unfold recoverStmt
  rw [quiet_bind]
  rintro ⟨recovered, middle, hrecovered, -⟩
  exact not_quiet_recoverPast hrecovered

section

variable {stmt : Parse Stmt} [Respects ReportsMore stmt]

omit [Respects ReportsMore stmt] in
theorem not_quiet_stmtsUntilClose_zero {body : List Stmt} :
    ¬ Quiet (stmtsUntilClose stmt 0) settings state body next := by
  simp [stmtsUntilClose]

theorem quiet_stmtsUntilClose_succ {budget : Nat} {body : List Stmt} :
    Quiet (stmtsUntilClose stmt (budget + 1)) settings state body next ↔
      state.cursor.kind = .closeCurly ∧ body = [] ∧ next = state ∨
        state.cursor.kind ≠ .closeCurly ∧ state.cursor.kind ≠ .eof ∧
          ∃ first middle others, Quiet stmt settings state first middle ∧
            Quiet (stmtsUntilClose stmt budget) settings middle others next ∧
            body = first :: others := by
  rw [stmtsUntilClose, quiet_kind_bind]
  split
  · simp_all
  · simp_all
  · rename_i hclose heof
    rw [quiet_bind_of inferInstance fun attempted => by cases attempted <;> infer_instance]
    constructor
    · rintro ⟨attempted, middle, hattempt, hrest⟩
      cases attempted with
      | error failure =>
          obtain ⟨recovered, last, hrecovered, -⟩ := quiet_bind.1 hrest
          exact (not_quiet_recoverStmt hrecovered).elim
      | ok first =>
          obtain ⟨others, last, hothers, hresult⟩ := quiet_bind.1 hrest
          obtain ⟨rfl, rfl⟩ := quiet_pure.1 hresult
          exact .inr ⟨hclose, heof, first, middle, others, quiet_attempt_ok.1 hattempt, hothers,
            rfl⟩
    · rintro (⟨hkind, -⟩ | ⟨-, -, first, middle, others, hfirst, hothers, rfl⟩)
      · exact (hclose hkind).elim
      · exact ⟨.ok first, middle, quiet_attempt_ok.2 hfirst,
          quiet_bind.2 ⟨others, next, hothers, quiet_pure.2 ⟨rfl, rfl⟩⟩⟩

theorem quiet_block {result : Block} :
    Quiet (block stmt) settings state result next ↔
      state.cursor.kind = .openCurly ∧
        ∃ body last,
          Quiet (stmtsUntilClose stmt (state.advanced.cursor.remaining + 1)) settings
            state.advanced body last ∧
          last.cursor.kind = .closeCurly ∧
          result =
            { body := body
              span := state.cursor.current.span.through last.cursor.current.span } ∧
          next = last.advanced := by
  unfold block
  rw [quiet_expect_bind, quiet_remaining_bind, quiet_bind]
  simp only [quiet_expect_bind, quiet_pure]

theorem quiet_conditional {result : Stmt} :
    Quiet (conditional stmt) settings state result next ↔
      ∃ condition tested accepted middle,
        Quiet Parse.condition settings state.advanced condition tested ∧
        Quiet stmt settings tested accepted middle ∧
        (middle.cursor.kind = .elseWord ∧
            (∃ rejected, Quiet stmt settings middle.advanced rejected next ∧
              result = .conditional condition accepted (some rejected)
                (state.cursor.current.span.through rejected.span)) ∨
          middle.cursor.kind ≠ .elseWord ∧
            result = .conditional condition accepted none
              (state.cursor.current.span.through accepted.span) ∧
            next = middle) := by
  unfold conditional
  rw [quiet_advance_bind, quiet_bind]
  constructor
  · rintro ⟨condition, tested, hcondition, hrest⟩
    obtain ⟨accepted, middle, haccepted, hrest⟩ := quiet_bind.1 hrest
    refine ⟨condition, tested, accepted, middle, hcondition, haccepted, ?_⟩
    obtain ⟨helse, hrest⟩ | ⟨helse, hrest⟩ := quiet_accept_bind.1 hrest
    · obtain ⟨rejected, last, hrejected, hresult⟩ := quiet_bind.1 hrest
      obtain ⟨rfl, rfl⟩ := quiet_pure.1 hresult
      exact .inl ⟨helse, rejected, hrejected, rfl⟩
    · exact .inr ⟨helse, quiet_pure.1 hrest⟩
  · rintro ⟨condition, tested, accepted, middle, hcondition, haccepted, hrest⟩
    refine ⟨condition, tested, hcondition, quiet_bind.2 ⟨accepted, middle, haccepted, ?_⟩⟩
    rw [quiet_accept_bind]
    obtain ⟨helse, rejected, hrejected, rfl⟩ | ⟨helse, hresult⟩ := hrest
    · exact .inl ⟨helse, quiet_bind.2 ⟨rejected, next, hrejected, quiet_pure.2 ⟨rfl, rfl⟩⟩⟩
    · exact .inr ⟨helse, quiet_pure.2 hresult⟩

theorem quiet_whileLoop {result : Stmt} :
    Quiet (whileLoop stmt) settings state result next ↔
      ∃ condition tested body,
        Quiet Parse.condition settings state.advanced condition tested ∧
        Quiet stmt settings tested body next ∧
        result = .whileLoop condition body (state.cursor.current.span.through body.span) := by
  unfold whileLoop
  rw [quiet_advance_bind, quiet_bind]
  simp only [quiet_bind, quiet_pure]
  constructor
  · rintro ⟨condition, tested, hcondition, body, last, hbody, rfl, rfl⟩
    exact ⟨condition, tested, body, hcondition, hbody, rfl⟩
  · rintro ⟨condition, tested, body, hcondition, hbody, rfl⟩
    exact ⟨condition, tested, hcondition, body, next, hbody, rfl, rfl⟩

end

/-- A parse between two changes of the state that leave the journal alone. -/
theorem quiet_bracket {α : Type} {parse : Parse α} {before after : ParseState → ParseState}
    {value : α} (hbefore : ∀ state, (before state).journal = state.journal)
    (hafter : ∀ state, (after state).journal = state.journal) :
    Quiet (bracket before after parse) settings state value next ↔
      ∃ last, Quiet parse settings (before state) value last ∧ next = after last := by
  unfold Quiet bracket
  cases parse settings (before state) with
  | ok found last =>
      constructor
      · rintro ⟨hrun, hsize⟩
        cases hrun
        rw [hafter] at hsize
        rw [hbefore]
        exact ⟨last, ⟨rfl, hsize⟩, rfl⟩
      · rintro ⟨_, ⟨hrun, hsize⟩, rfl⟩
        cases hrun
        rw [hbefore] at hsize
        rw [hafter]
        exact ⟨rfl, hsize⟩
  | error failure last => simp

theorem quiet_inScope {α : Type} {parse : Parse α} {value : α} :
    Quiet (inScope parse) settings state value next ↔
      ∃ last, Quiet parse settings { state with symbols := state.symbols.enterScope } value
          last ∧
        next = { last with symbols := last.symbols.exitScope } :=
  quiet_bracket (fun _ => rfl) fun _ => rfl

/-- The kinds of the tokens that a statement other than an expression begins with. -/
def beginsStmt (kind : TokenKind) : Bool :=
  kind ∈ [.openCurly, .ifWord, .whileWord, .returnWord, .semicolon, .identifier, .intWord,
    .charWord, .voidWord]

theorem quiet_stmtWith {stmt : Parse Stmt} [Respects ReportsMore stmt] {result : Stmt} :
    Quiet (stmtWith stmt) settings state result next ↔
      state.cursor.kind = .openCurly ∧
          (∃ block, Quiet (inScope (Parse.block stmt)) settings state block next ∧
            result = block.toStmt) ∨
        state.cursor.kind = .ifWord ∧ Quiet (conditional stmt) settings state result next ∨
        state.cursor.kind = .whileWord ∧ Quiet (whileLoop stmt) settings state result next ∨
        state.cursor.kind = .returnWord ∧ Quiet returned settings state result next ∨
        state.cursor.kind = .semicolon ∧ result = .null state.cursor.current.span ∧
          next = state.advanced ∨
        state.cursor.kind = .identifier ∧ Quiet namedStmt settings state result next ∨
        (Ty.ofSpecifier? state.cursor.kind).isSome = true ∧
          (∃ declared, Quiet declaration settings state declared next ∧
            result = .declare declared) ∨
        beginsStmt state.cursor.kind = false ∧
          Quiet evaluated settings state result next := by
  unfold stmtWith beginsStmt
  rw [quiet_kind_bind]
  split <;> simp_all [Ty.ofSpecifier?, and_comm]

theorem quiet_stmtWithin {budget : Nat} {result : Stmt} :
    Quiet (stmtWithin budget) settings state result next ↔
      ∃ smaller, budget = smaller + 1 ∧
        Quiet (stmtWith (stmtWithin smaller)) settings state result next := by
  cases budget with
  | zero => simp [stmtWithin]
  | succ budget => simp [stmtWithin]

end Parse

end SubsetC
