import SubsetC.Proofs.Quiet

/-!
# Quiet runs of expressions

What a quiet run of each rule for factors and expressions does: the quiet runs of
other rules that it is made of, the checks that it passes if checks are on, and
the expression that it builds.
-/

namespace SubsetC

/-- The state after the name of a callee was noted. -/
def ParseState.called (state : ParseState) (callee : Symbol) : ParseState :=
  if callee.name = Symbol.printfName then { state with needsPrintf := true } else state

@[simp] theorem ParseState.called_cursor (state : ParseState) (callee : Symbol) :
    (state.called callee).cursor = state.cursor := by
  unfold called
  split <;> rfl

@[simp] theorem ParseState.called_symbols (state : ParseState) (callee : Symbol) :
    (state.called callee).symbols = state.symbols := by
  unfold called
  split <;> rfl

@[simp] theorem ParseState.called_journal (state : ParseState) (callee : Symbol) :
    (state.called callee).journal = state.journal := by
  unfold called
  split <;> rfl

namespace Parse

variable {settings : Settings} {state next : ParseState}

namespace CallCheck

/-- Whether an argument passes the check at an index. -/
def Passes (check : CallCheck) (index : Nat) (ty : Ty) : Prop :=
  match check with
  | .unchecked => True
  | .format => 0 < index ∨ ty = .charArray ∨ ty = .error
  | .against signature =>
      signature.params[index]? = some .char ∧ ty = .int ∨ signature.accepts index ty = true

/-- The argument that a call keeps: an `int` for a `char` is narrowed. -/
def kept (check : CallCheck) (index : Nat) (argument : Expr) : Expr :=
  match check with
  | .against signature =>
      if signature.params[index]? = some .char ∧ argument.ty = .int then argument.narrow
      else argument
  | _ => argument

def PassesCount (check : CallCheck) (count : Nat) : Prop :=
  match check with
  | .unchecked => True
  | .format => 0 < count
  | .against signature => signature.params.length ≤ count

end CallCheck

theorem quiet_checkArgument {check : CallCheck} {callee : Symbol} {index : Nat}
    {argument result : Expr} :
    Quiet (checkArgument check callee index argument) settings state result next ↔
      (settings.checks = true → check.Passes index argument.ty) ∧
        next = state ∧ result = check.kept index argument := by
  cases check with
  | unchecked => simp [checkArgument, CallCheck.Passes, CallCheck.kept, and_comm]
  | format =>
      simp [checkArgument, CallCheck.Passes, CallCheck.kept, or_assoc, and_assoc]
  | against signature =>
      cases hparameter : signature.params[index]? with
      | none =>
          simp [checkArgument, CallCheck.Passes, CallCheck.kept, Signature.accepts, hparameter,
            and_assoc]
      | some parameter =>
          by_cases hnarrow : parameter = .char ∧ argument.ty = .int
          · simp [checkArgument, CallCheck.Passes, CallCheck.kept, hparameter, hnarrow, and_comm]
          · simp [checkArgument, CallCheck.Passes, CallCheck.kept, hparameter, hnarrow, and_assoc]

theorem quiet_checkCount {check : CallCheck} {callee : Symbol} {count : Nat}
    {opening stop : Position} {result : Unit} :
    Quiet (checkCount check callee count opening stop) settings state result next ↔
      (settings.checks = true → check.PassesCount count) ∧ next = state := by
  cases check <;> simp [checkCount, CallCheck.PassesCount]

section

variable {expr : Parse (Option Expr)} [Respects ReportsMore expr]

theorem quiet_subscript {array : Symbol} {span : Span} {result : Subscript} :
    Quiet (subscript expr array span) settings state result next ↔
      state.cursor.kind = .openBracket ∧
        ∃ index middle, Quiet expr settings state.advanced (some index) middle ∧
          middle.cursor.kind = .closeBracket ∧
          (settings.checks = true → countsAsScalar index.ty = true) ∧
          result =
            { array := array
              index := index
              span := span.through middle.cursor.current.span } ∧
          next = middle.advanced := by
  simp only [subscript, quiet_expect_bind, quiet_position_bind]
  rw [quiet_bind]
  simp only [quiet_orFail, quiet_expect_bind, quiet_reportUnless_bind, quiet_pure]

theorem not_quiet_rejectSubscript {symbol : Symbol} {span : Span} {result : Unit}
    (hchecks : settings.checks = true) :
    ¬ Quiet (rejectSubscript symbol span) settings state result next := by
  unfold rejectSubscript
  rw [quiet_bind]
  rintro ⟨reported, middle, hreport, -⟩
  have hunchecked := (quiet_reportMisuse.1 hreport).1
  rw [hchecks] at hunchecked
  contradiction

theorem acceptsSubscript_run (symbol : Symbol) :
    acceptsSubscript symbol settings state =
      .ok (!settings.checks || symbol.isDummy || symbol.ty.isArray) state := by
  unfold acceptsSubscript
  rw [bind_of_ok read_run, pure_run]

/-- Whether a subscript may follow a symbol. -/
def Subscriptable (settings : Settings) (symbol : Symbol) : Prop :=
  settings.checks = true → symbol.isDummy = true ∨ symbol.ty.isArray = true

theorem acceptsSubscript_eq_true_iff {symbol : Symbol} :
    (!settings.checks || symbol.isDummy || symbol.ty.isArray) = true ↔
      Subscriptable settings symbol := by
  unfold Subscriptable
  cases settings.checks <;> simp

theorem quiet_element {array : Symbol} {span : Span} {result : Expr} :
    Quiet (element expr array span) settings state result next ↔
      Subscriptable settings array ∧
        ∃ target, Quiet (subscript expr array span) settings state target next ∧
          result = target.read := by
  unfold element
  rw [quiet_bind_of_run (acceptsSubscript_run array) rfl]
  by_cases haccepted : Subscriptable settings array
  · rw [if_pos (acceptsSubscript_eq_true_iff.2 haccepted),
      quiet_bind_of inferInstance fun attempted => by
        cases attempted <;> infer_instance]
    constructor
    · rintro ⟨attempted, middle, hattempt, hresult⟩
      cases attempted with
      | ok target =>
          obtain ⟨rfl, rfl⟩ := quiet_pure.1 hresult
          exact ⟨haccepted, target, quiet_attempt_ok.1 hattempt, rfl⟩
      | error failure =>
          obtain ⟨recovered, after, hrecovered, -⟩ := quiet_bind.1 hresult
          exact (not_quiet_recoverPast hrecovered).elim
    · rintro ⟨-, target, htarget, rfl⟩
      exact ⟨.ok target, next, quiet_attempt_ok.2 htarget, quiet_pure.2 ⟨rfl, rfl⟩⟩
  · rw [if_neg fun htrue => haccepted (acceptsSubscript_eq_true_iff.1 htrue), quiet_bind]
    constructor
    · rintro ⟨rejected, middle, hreject, -⟩
      have hchecks : settings.checks = true := by
        unfold Subscriptable at haccepted
        cases hchecks : settings.checks with
        | true => rfl
        | false => simp [hchecks] at haccepted
      exact (not_quiet_rejectSubscript hchecks hreject).elim
    · rintro ⟨hsubscriptable, -⟩
      exact (haccepted hsubscriptable).elim

omit [Respects ReportsMore expr] in
theorem not_quiet_argumentsFrom_zero {check : CallCheck} {callee : Symbol} {index : Nat}
    {kept : List Expr} {close : Token} :
    ¬ Quiet (argumentsFrom expr check callee 0 index) settings state (kept, .ok close) next := by
  simp [argumentsFrom]

theorem quiet_argumentsFrom_succ {check : CallCheck} {callee : Symbol} {budget index : Nat}
    {kept : List Expr} {close : Token} :
    Quiet (argumentsFrom expr check callee (budget + 1) index) settings state
        (kept, .ok close) next ↔
      ∃ argument middle, Quiet expr settings state (some argument) middle ∧
        (settings.checks = true → check.Passes index argument.ty) ∧
        (middle.cursor.kind = .comma ∧
            (∃ others, Quiet (argumentsFrom expr check callee budget (index + 1)) settings
                middle.advanced (others, .ok close) next ∧
              kept = check.kept index argument :: others) ∨
          middle.cursor.kind = .closeParen ∧ kept = [check.kept index argument] ∧
            close = middle.cursor.current ∧ next = middle.advanced) := by
  rw [argumentsFrom, quiet_position_bind, quiet_bind_of inferInstance fun attempted => by
    cases attempted <;> infer_instance]
  constructor
  · rintro ⟨attempted, middle, hattempt, hrest⟩
    cases attempted with
    | error failure => simp at hrest
    | ok argument =>
        have hargument := quiet_orFail.1 (quiet_attempt_ok.1 hattempt)
        obtain ⟨checked, after, hcheck, hrest⟩ := quiet_bind.1 hrest
        obtain ⟨hpasses, rfl, rfl⟩ := quiet_checkArgument.1 hcheck
        refine ⟨argument, after, hargument, hpasses, ?_⟩
        obtain ⟨hcomma, hrest⟩ | ⟨hcomma, hrest⟩ := quiet_accept_bind.1 hrest
        · obtain ⟨⟨others, closing⟩, last, hothers, hrest⟩ := quiet_bind.1 hrest
          simp only [quiet_pure, Prod.mk.injEq] at hrest
          obtain ⟨⟨rfl, rfl⟩, rfl⟩ := hrest
          exact .inl ⟨hcomma, others, hothers, rfl⟩
        · obtain ⟨closing, last, hclose, hrest⟩ := quiet_bind.1 hrest
          simp only [quiet_pure, Prod.mk.injEq] at hrest
          obtain ⟨⟨rfl, rfl⟩, rfl⟩ := hrest
          obtain ⟨hparen, rfl, rfl⟩ := quiet_expect.1 (quiet_attempt_ok.1 hclose)
          exact .inr ⟨hparen, rfl, rfl, rfl⟩
  · rintro ⟨argument, middle, hargument, hpasses, hrest⟩
    refine ⟨.ok argument, middle, quiet_attempt_ok.2 (quiet_orFail.2 hargument), ?_⟩
    refine quiet_bind.2 ⟨_, _, quiet_checkArgument.2 ⟨hpasses, rfl, rfl⟩, ?_⟩
    rw [quiet_accept_bind]
    obtain ⟨hcomma, others, hothers, rfl⟩ | ⟨hparen, rfl, rfl, rfl⟩ := hrest
    · exact .inl ⟨hcomma, quiet_bind.2 ⟨_, _, hothers, quiet_pure.2 ⟨rfl, rfl⟩⟩⟩
    · refine .inr ⟨by simp [hparen], quiet_bind.2 ⟨_, _, ?_, quiet_pure.2 ⟨rfl, rfl⟩⟩⟩
      exact quiet_attempt_ok.2 (quiet_expect.2 ⟨hparen, rfl, rfl⟩)

omit [Respects ReportsMore expr] in
theorem quiet_arguments {check : CallCheck} {callee : Symbol} {kept : List Expr}
    {close : Token} :
    Quiet (arguments expr check callee) settings state (kept, .ok close) next ↔
      state.cursor.kind = .closeParen ∧ kept = [] ∧ close = state.cursor.current ∧
          next = state.advanced ∨
        state.cursor.kind ≠ .closeParen ∧
          Quiet (argumentsFrom expr check callee (state.cursor.remaining + 1) 0) settings state
            (kept, .ok close) next := by
  unfold arguments
  rw [quiet_kind_bind]
  by_cases hkind : state.cursor.kind = .closeParen
  · simp only [hkind, if_true, true_and, ne_eq, not_true_eq_false, false_and, or_false]
    rw [quiet_bind]
    constructor
    · rintro ⟨closing, middle, hclose, hrest⟩
      simp only [quiet_pure, Prod.mk.injEq] at hrest
      obtain ⟨⟨rfl, rfl⟩, rfl⟩ := hrest
      obtain ⟨-, rfl, rfl⟩ := quiet_expect.1 (quiet_attempt_ok.1 hclose)
      exact ⟨rfl, rfl, rfl⟩
    · rintro ⟨rfl, rfl, rfl⟩
      exact ⟨_, _, quiet_attempt_ok.2 (quiet_expect.2 ⟨hkind, rfl, rfl⟩),
        quiet_pure.2 ⟨rfl, rfl⟩⟩
  · simp [hkind]

theorem noteCallee_run (callee : Symbol) :
    noteCallee callee settings state = .ok () (state.called callee) := by
  unfold noteCallee ParseState.called
  split <;> rfl

theorem quiet_checkedCall {callee : Symbol} {span : Span} {result : Expr} :
    Quiet (checkedCall expr callee span) settings state result next ↔
      state.cursor.kind = .openParen ∧
        ∃ kept close,
          Quiet (arguments expr (.ofCallee settings.checks callee) callee) settings
            (state.called callee).advanced (kept, .ok close) next ∧
          (settings.checks = true →
            (CallCheck.ofCallee settings.checks callee).PassesCount kept.length) ∧
          result = .call callee kept (span.through close.span) := by
  unfold checkedCall
  rw [quiet_read_bind, quiet_bind_of_run (noteCallee_run callee) (by simp),
    quiet_expect_bind, ParseState.called_cursor,
    quiet_bind_of inferInstance fun read => by
      obtain ⟨kept, closing⟩ := read
      cases closing <;> infer_instance]
  refine and_congr_right fun hopen => ?_
  constructor
  · rintro ⟨⟨kept, closing⟩, middle, harguments, hrest⟩
    cases closing with
    | ok close =>
        simp only at hrest
        obtain ⟨counted, after, hcount, hresult⟩ := quiet_bind.1 hrest
        obtain ⟨hpasses, rfl⟩ := quiet_checkCount.1 hcount
        obtain ⟨rfl, rfl⟩ := quiet_pure.1 hresult
        exact ⟨kept, close, harguments, hpasses, rfl⟩
    | error failure =>
        obtain ⟨recovered, after, hrecovered, -⟩ := quiet_bind.1 hrest
        exact (not_quiet_recoverPast hrecovered).elim
  · rintro ⟨kept, close, harguments, hpasses, rfl⟩
    exact ⟨(kept, .ok close), next, harguments,
      quiet_bind.2 ⟨(), _, quiet_checkCount.2 ⟨hpasses, rfl⟩, quiet_pure.2 ⟨rfl, rfl⟩⟩⟩

/-- Whether a symbol may be called. -/
def Callable (settings : Settings) (symbol : Symbol) : Prop :=
  settings.checks = true → symbol.signature?.isSome = true ∨ symbol.isDummy = true

omit [Respects ReportsMore expr] in
theorem quiet_call {callee : Symbol} {span : Span} {result : Expr} :
    Quiet (call expr callee span) settings state result next ↔
      Callable settings callee ∧
        Quiet (checkedCall expr callee span) settings state result next := by
  unfold call
  rw [quiet_read_bind]
  by_cases hcallable : Callable settings callee
  · have hcondition : ¬ (settings.checks = true ∧ callee.signature?.isNone = true ∧
        (!callee.isDummy) = true) := by
      rintro ⟨hchecks, hnone, hdummy⟩
      have hsome := hcallable hchecks
      cases hsignature : callee.signature? <;> simp_all
    rw [if_neg hcondition]
    simp [hcallable]
  · have hcondition : settings.checks = true ∧ callee.signature?.isNone = true ∧
        (!callee.isDummy) = true := by
      unfold Callable at hcallable
      cases hchecks : settings.checks <;> cases hsignature : callee.signature? <;> simp_all
    rw [if_pos hcondition, quiet_bind]
    constructor
    · rintro ⟨reported, middle, hreport, -⟩
      have hunchecked := (quiet_reportMisuse.1 hreport).1
      rw [hcondition.1] at hunchecked
      contradiction
    · rintro ⟨hcalled, -⟩
      exact (hcallable hcalled).elim

omit [Respects ReportsMore expr] in
theorem quiet_afterName {symbol : Symbol} {span : Span} {result : Expr} :
    Quiet (afterName expr symbol span) settings state result next ↔
      state.cursor.kind = .openBracket ∧
          Quiet (element expr symbol span) settings state result next ∨
        state.cursor.kind = .openParen ∧
          Quiet (call expr symbol span) settings state result next ∨
        state.cursor.kind ≠ .openBracket ∧ state.cursor.kind ≠ .openParen ∧
          result = .ident symbol span ∧ next = state := by
  unfold afterName
  rw [quiet_kind_bind]
  split
  · simp_all
  · simp_all
  · simp_all

theorem quiet_named {result : Expr} :
    Quiet (named expr) settings state result next ↔
      ∃ symbol middle factor,
        Quiet (resolve state.cursor.current.text state.cursor.current.span.start) settings
          state.advanced symbol middle ∧
        Quiet (afterName expr symbol state.cursor.current.span) settings middle factor next ∧
        result = factor.widen := by
  unfold named
  rw [quiet_advance_bind, quiet_bind]
  simp only [quiet_bind, quiet_pure]
  constructor
  · rintro ⟨symbol, middle, hresolve, factor, after, hfactor, rfl, rfl⟩
    exact ⟨symbol, middle, factor, hresolve, hfactor, rfl⟩
  · rintro ⟨symbol, middle, factor, hresolve, hfactor, rfl⟩
    exact ⟨symbol, middle, hresolve, factor, next, hfactor, rfl, rfl⟩

omit [Respects ReportsMore expr] in
theorem quiet_stringLiteral {result : Expr} :
    Quiet stringLiteral settings state result next ↔
      result = .string state.cursor.current.text
          (state.strings.intern state.cursor.current.text).1 state.cursor.current.span ∧
        next =
          { state.advanced with
            strings := (state.strings.intern state.cursor.current.text).2 } := by
  unfold stringLiteral
  rw [quiet_advance_bind, quiet_bind_of_run (intern_run _) rfl, quiet_pure]
  rfl

omit [Respects ReportsMore expr] in
theorem quiet_constant {result : Expr} :
    Quiet constant settings state result next ↔
      ∃ value, Constant.ofText state.cursor.current.text = .ok value ∧
        result = .constant value.value value.ty state.cursor.current.span ∧
        next = state.advanced := by
  unfold constant
  rw [quiet_advance_bind]
  cases hvalue : Constant.ofText state.cursor.current.text <;> simp

theorem quiet_parenthesized {result : Expr} :
    Quiet (parenthesized expr) settings state result next ↔
      ∃ middle, Quiet expr settings state.advanced (some result) middle ∧
        middle.cursor.kind = .closeParen ∧ next = middle.advanced := by
  simp only [parenthesized, quiet_advance_bind, quiet_position_bind]
  rw [quiet_bind]
  simp only [quiet_orFail, quiet_expect_bind, quiet_pure]
  constructor
  · rintro ⟨inner, middle, hinner, hclose, rfl, rfl⟩
    exact ⟨middle, hinner, hclose, rfl⟩
  · rintro ⟨middle, hinner, hclose, rfl⟩
    exact ⟨result, middle, hinner, hclose, rfl, rfl⟩

omit [Respects ReportsMore expr] in
theorem quiet_stepped {operator : Step} {result : Expr} :
    Quiet (stepped operator) settings state result next ↔
      state.advanced.cursor.kind = .identifier ∧
        ∃ symbol,
          Quiet (resolve state.advanced.cursor.current.text
              state.advanced.cursor.current.span.start) settings state.advanced.advanced
            symbol next ∧
          (settings.checks = true → (settings.rules.judgeStep symbol.ty).accepted = true) ∧
          result =
            (Expr.step operator symbol (settings.rules.judgeStep symbol.ty).ty
              (state.cursor.current.span.through
                state.advanced.cursor.current.span)).widen := by
  simp only [stepped, quiet_advance_bind, quiet_position_bind, quiet_expectOr_bind]
  rw [quiet_bind]
  simp only [quiet_read_bind, quiet_reportUnless_bind, quiet_pure]
  refine and_congr_right fun hname => ?_
  constructor
  · rintro ⟨symbol, middle, hresolve, haccepted, rfl, rfl⟩
    exact ⟨symbol, hresolve, haccepted, rfl⟩
  · rintro ⟨symbol, hresolve, haccepted, rfl⟩
    exact ⟨symbol, next, hresolve, haccepted, rfl, rfl⟩

theorem quiet_addressed {result : Expr} :
    Quiet (addressed expr) settings state result next ↔
      state.advanced.cursor.kind = .identifier ∧
        ∃ symbol middle target after,
          Quiet (resolve state.advanced.cursor.current.text
              state.advanced.cursor.current.span.start) settings state.advanced.advanced
            symbol middle ∧
          Subscriptable settings symbol ∧
          Quiet (subscript expr symbol state.advanced.cursor.current.span) settings middle
            target after ∧
          result = .address target.array target.index target.span
            (state.cursor.current.span.through target.span) ∧
          next = after.noted (.addressed target) := by
  simp only [addressed, quiet_advance_bind, quiet_position_bind, quiet_expectOr_bind]
  refine and_congr_right fun hname => ?_
  rw [quiet_bind_of inferInstance fun symbol => .bind inferInstance fun kind => inferInstance]
  simp only [quiet_kind_bind]
  constructor
  · rintro ⟨symbol, middle, hresolve, hrest⟩
    split at hrest
    · rename_i hopen
      rw [quiet_bind_of_run (acceptsSubscript_run symbol) rfl] at hrest
      obtain ⟨haccepted, hrest⟩ := quiet_reportUnless_bind.1 hrest
      obtain ⟨target, after, htarget, hresult⟩ := quiet_bind.1 hrest
      rw [quiet_note_bind, quiet_pure] at hresult
      refine ⟨symbol, middle, target, after, hresolve, ?_, htarget, hresult⟩
      intro hchecks
      exact acceptsSubscript_eq_true_iff.1 (haccepted hchecks) hchecks
    · simp at hrest
  · rintro ⟨symbol, middle, target, after, hresolve, haccepted, htarget, hresult⟩
    refine ⟨symbol, middle, hresolve, ?_⟩
    rw [if_pos (quiet_subscript.1 htarget).1,
      quiet_bind_of_run (acceptsSubscript_run symbol) rfl, quiet_reportUnless_bind]
    refine ⟨fun _ => acceptsSubscript_eq_true_iff.2 haccepted, ?_⟩
    refine quiet_bind.2 ⟨target, after, htarget, ?_⟩
    rw [quiet_note_bind, quiet_pure]
    exact hresult

theorem quiet_freshFactor_some {result : Expr} :
    Quiet (freshFactor expr) settings state (some result) next ↔
      state.cursor.kind = .identifier ∧ Quiet (named expr) settings state result next ∨
      state.cursor.kind = .string ∧ Quiet stringLiteral settings state result next ∨
      state.cursor.kind = .constant ∧ Quiet constant settings state result next ∨
      state.cursor.kind = .openParen ∧
        Quiet (parenthesized expr) settings state result next ∨
      state.cursor.kind = .plusPlus ∧
        Quiet (stepped .increment) settings state result next ∨
      state.cursor.kind = .minusMinus ∧
        Quiet (stepped .decrement) settings state result next ∨
      state.cursor.kind = .ampersand ∧ Quiet (addressed expr) settings state result next := by
  unfold freshFactor
  rw [quiet_kind_bind]
  split <;> simp_all

/-- The kinds of the tokens that a factor begins with. -/
def beginsFactor (kind : TokenKind) : Bool :=
  kind ∈ [.identifier, .string, .constant, .openParen, .plusPlus, .minusMinus, .ampersand]

theorem quiet_freshFactor_none :
    Quiet (freshFactor expr) settings state none next ↔
      beginsFactor state.cursor.kind = false ∧ next = state := by
  unfold freshFactor beginsFactor
  rw [quiet_kind_bind]
  split <;> simp_all

omit [Respects ReportsMore expr] in
theorem quiet_factor_element {target : Subscript} {result : Option Expr} :
    Quiet (factor expr (some (.element target))) settings state result next ↔
      result = some target.read.widen ∧ next = state := by
  simp [factor]

theorem quiet_factor_ident {symbol : Symbol} {span : Span} {result : Option Expr} :
    Quiet (factor expr (some (.ident symbol span))) settings state result next ↔
      ∃ named, Quiet (afterName expr symbol span) settings state named next ∧
        result = some named.widen := by
  unfold factor
  rw [quiet_bind]
  constructor
  · rintro ⟨named, middle, hnamed, hresult⟩
    obtain ⟨rfl, rfl⟩ := quiet_pure.1 hresult
    exact ⟨named, hnamed, rfl⟩
  · rintro ⟨named, hnamed, rfl⟩
    exact ⟨named, next, hnamed, quiet_pure.2 ⟨rfl, rfl⟩⟩

theorem quiet_negated {result : Expr} :
    Quiet (negated expr) settings state result next ↔
      ∃ operand, Quiet (freshFactor expr) settings state.advanced (some operand) next ∧
        (settings.checks = true → (settings.rules.judgeNot operand.ty).accepted = true) ∧
        result = .not operand (settings.rules.judgeNot operand.ty).ty
          (state.cursor.current.span.through operand.span) := by
  simp only [negated, factor, quiet_advance_bind, quiet_position_bind]
  rw [quiet_bind]
  simp only [quiet_orFail, quiet_read_bind, quiet_reportUnless_bind, quiet_pure]
  constructor
  · rintro ⟨operand, middle, hoperand, haccepted, rfl, rfl⟩
    exact ⟨operand, hoperand, haccepted, rfl⟩
  · rintro ⟨operand, hoperand, haccepted, rfl⟩
    exact ⟨operand, next, hoperand, haccepted, rfl, rfl⟩

theorem quiet_value_fresh_some {result : Expr} :
    Quiet (value expr none) settings state (some result) next ↔
      state.cursor.kind = .not ∧ Quiet (negated expr) settings state result next ∨
        state.cursor.kind ≠ .not ∧
          Quiet (freshFactor expr) settings state (some result) next := by
  unfold value factor
  rw [quiet_kind_bind]
  split <;> simp_all

theorem quiet_value_fresh_none :
    Quiet (value expr none) settings state none next ↔
      state.cursor.kind ≠ .not ∧ beginsFactor state.cursor.kind = false ∧ next = state := by
  unfold value factor
  rw [quiet_kind_bind]
  split <;> simp_all [quiet_freshFactor_none]

theorem quiet_joined {operator : BinaryOp} {lhs rhs result : Expr} {position : Position} :
    Quiet (joined operator lhs rhs position) settings state result next ↔
      (settings.checks = true →
          (settings.rules.judgeBinary operator lhs.ty rhs.ty).accepted = true) ∧
        result = .binary operator lhs rhs (settings.rules.judgeBinary operator lhs.ty rhs.ty).ty ∧
        next = state.noted (.built result) := by
  simp only [joined, quiet_read_bind, quiet_reportUnless_bind, quiet_note_bind, quiet_pure]
  refine and_congr_right fun haccepted => ?_
  constructor
  · rintro ⟨rfl, rfl⟩
    exact ⟨rfl, rfl⟩
  · rintro ⟨rfl, rfl⟩
    exact ⟨rfl, rfl⟩

end

section

variable {operand : Parse (Option Expr)} [Respects ReportsMore operand] {level : Precedence}

omit [Respects ReportsMore operand] in
theorem kind_ne_of_operator? {kind : TokenKind} {operator : BinaryOp}
    (hoperator : level.operator? kind = some operator) : kind ≠ .eof ∧ kind ≠ .identifier := by
  constructor
  · rintro rfl
    contradiction
  · rintro rfl
    cases level <;> contradiction

omit [Respects ReportsMore operand] in
theorem quiet_operatorsAfter_of_none {budget : Nat} {lhs result : Expr}
    (hoperator : level.operator? state.cursor.kind = none) :
    Quiet (operatorsAfter level operand budget lhs) settings state result next ↔
      result = lhs ∧ next = state := by
  cases budget with
  | zero => simp [operatorsAfter]
  | succ budget => simp [operatorsAfter, hoperator]

theorem quiet_operatorsAfter_of_some {budget : Nat} {lhs result : Expr} {operator : BinaryOp}
    (hoperator : level.operator? state.cursor.kind = some operator) :
    Quiet (operatorsAfter level operand (budget + 1) lhs) settings state result next ↔
      ∃ rhs node middle after, Quiet operand settings state.advanced (some rhs) middle ∧
        Quiet (joined operator lhs rhs state.cursor.current.span.start) settings middle node
          after ∧
        Quiet (operatorsAfter level operand budget node) settings after result next := by
  rw [operatorsAfter, quiet_kind_bind, hoperator]
  simp only [quiet_advance_bind]
  rw [quiet_bind]
  simp only [quiet_orFail, quiet_bind]
  constructor
  · rintro ⟨rhs, middle, hrhs, node, after, hnode, hrest⟩
    exact ⟨rhs, node, middle, after, hrhs, hnode, hrest⟩
  · rintro ⟨rhs, node, middle, after, hrhs, hnode, hrest⟩
    exact ⟨rhs, middle, hrhs, node, after, hnode, hrest⟩

end

section

variable {operand : Rule} [∀ handoff?, Respects ReportsMore (operand handoff?)]
  {level : Precedence} {handoff? : Option Handoff}

theorem quiet_chain_some {result : Expr} :
    Quiet (chain level operand handoff?) settings state (some result) next ↔
      ∃ lhs middle, Quiet (operand handoff?) settings state (some lhs) middle ∧
        Quiet (operatorsAfter level (operand none) middle.cursor.remaining lhs) settings
          middle result next := by
  unfold chain
  rw [quiet_bind_of inferInstance fun lhs? => by cases lhs? <;> infer_instance]
  constructor
  · rintro ⟨lhs?, middle, hlhs, hrest⟩
    cases lhs? with
    | none => simp at hrest
    | some lhs =>
        simp only [quiet_remaining_bind, quiet_map, Option.some.injEq] at hrest
        obtain ⟨chained, hchained, rfl⟩ := hrest
        exact ⟨lhs, middle, hlhs, hchained⟩
  · rintro ⟨lhs, middle, hlhs, hrest⟩
    refine ⟨some lhs, middle, hlhs, ?_⟩
    simp only [quiet_remaining_bind, quiet_map, Option.some.injEq]
    exact ⟨result, hrest, rfl⟩

theorem quiet_chain_none :
    Quiet (chain level operand handoff?) settings state none next ↔
      Quiet (operand handoff?) settings state none next := by
  unfold chain
  rw [quiet_bind_of inferInstance fun lhs? => by cases lhs? <;> infer_instance]
  constructor
  · rintro ⟨lhs?, middle, hlhs, hrest⟩
    cases lhs? with
    | none =>
        obtain ⟨-, rfl⟩ := quiet_pure.1 hrest
        exact hlhs
    | some lhs => simp at hrest
  · intro hnone
    exact ⟨none, next, hnone, quiet_pure.2 ⟨rfl, rfl⟩⟩

end

theorem quiet_exprWithin {budget : Nat} {handoff? : Option Handoff} {result : Option Expr} :
    Quiet (exprWithin budget handoff?) settings state result next ↔
      ∃ smaller, budget = smaller + 1 ∧
        Quiet (orExpr (exprWithin smaller none) handoff?) settings state result next := by
  cases budget with
  | zero => simp [exprWithin]
  | succ budget => simp [exprWithin]

theorem quiet_exprAfter {handoff? : Option Handoff} {result : Option Expr} :
    Quiet (exprAfter handoff?) settings state result next ↔
      Quiet (orExpr (exprWithin (state.cursor.remaining + 1) none) handoff?) settings state
        result next := by
  simp [exprAfter, withExpr]

/-- Nothing is read where no expression begins. -/
theorem quiet_expr_none :
    Quiet expr settings state none next ↔
      state.cursor.kind ≠ .not ∧ beginsFactor state.cursor.kind = false ∧ next = state := by
  unfold expr
  rw [quiet_exprAfter, orExpr, quiet_chain_none, andTerm, quiet_chain_none, relExpr,
    quiet_chain_none, numExpr, quiet_chain_none, term, quiet_chain_none,
    quiet_value_fresh_none]

theorem quiet_requireExpr {malformation : Malformation} {result : Expr} :
    Quiet (requireExpr malformation) settings state result next ↔
      Quiet expr settings state (some result) next := by
  simp [requireExpr]

end Parse

end SubsetC
