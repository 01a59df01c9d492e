import Mathlib.Data.List.Forall2
import SubsetC.Proofs.Checked

/-!
# Checked expressions

What a quiet run with checks builds, rule by rule.  The symbol table stays as it is,
since an unknown name would be reported, and there is no part of type `error` and no
dummy to begin with, so no check is passed over.
-/

namespace SubsetC

namespace Parse

variable {settings : Settings} {state next : ParseState} {P : Symbol → Prop}
  {table : SymbolTable}

/-! ## Arguments -/

/-- Whether a kept argument fits the check at its index. -/
def CallCheck.Fits (check : CallCheck) (index : Nat) (argument : Expr) : Prop :=
  match check with
  | .unchecked => True
  | .format => index = 0 → argument.ty = .charArray
  | .against signature =>
      signature.variadic = false →
        ∃ parameter, signature.params[index]? = some parameter ∧
          Expr.ArgumentFits parameter argument

theorem CallCheck.kept_fits {check : CallCheck} {index : Nat} {argument : Expr}
    (hpasses : check.Passes index argument.ty) (hargument : argument.ty ≠ .error) :
    check.Fits index (check.kept index argument) := by
  cases check with
  | unchecked => trivial
  | format =>
      rintro rfl
      change argument.ty = .charArray
      simpa [Passes, hargument] using hpasses
  | against signature =>
      intro hvariadic
      by_cases hnarrow : signature.params[index]? = some .char ∧ argument.ty = .int
      · refine ⟨.char, hnarrow.1, .inl ?_⟩
        simp only [kept]
        rw [if_pos hnarrow, Expr.narrow_ty hnarrow.2]
      · have haccepts : signature.accepts index argument.ty = true := hpasses.resolve_left hnarrow
        have hkept : (CallCheck.against signature).kept index argument = argument := by
          simp only [kept]
          rw [if_neg hnarrow]
        rw [hkept]
        unfold Signature.accepts at haccepts
        cases hparameter : signature.params[index]? with
        | none => simp [hparameter, hvariadic] at haccepts
        | some parameter =>
            refine ⟨parameter, rfl, ?_⟩
            simp only [hparameter, Signature.fits, hargument, decide_false, Bool.false_or,
              Bool.or_eq_true, Bool.and_eq_true, decide_eq_true_eq] at haccepts
            rcases haccepts with rfl | hwider
            · exact .inl rfl
            · exact .inr hwider

theorem CallCheck.kept_checked {check : CallCheck} {index : Nat} {argument : Expr}
    (hargument : argument.Checked P) : (check.kept index argument).Checked P := by
  cases check with
  | unchecked => exact hargument
  | format => exact hargument
  | against signature =>
      simp only [kept]
      split
      · exact hargument.narrow
      · exact hargument

theorem CallCheck.kept_names (check : CallCheck) (index : Nat) (argument : Expr) :
    (check.kept index argument).names = argument.names := by
  cases check with
  | unchecked => rfl
  | format => rfl
  | against signature =>
      simp only [kept]
      split
      · exact Expr.narrow_names argument
      · rfl

/-- Arguments that fit their indices one by one fit the parameters as a whole. -/
theorem CallCheck.forall₂_of_fits {signature : Signature} {arguments : List Expr}
    (hcount : signature.params.length ≤ arguments.length) (hvariadic : signature.variadic = false)
    (hfits : ∀ i argument, arguments[i]? = some argument →
      (CallCheck.against signature).Fits i argument) :
    List.Forall₂ Expr.ArgumentFits signature.params arguments := by
  have hparameter : ∀ i (h : i < arguments.length), ∃ parameter,
      signature.params[i]? = some parameter ∧ Expr.ArgumentFits parameter arguments[i] :=
    fun i h => hfits i arguments[i] (List.getElem?_eq_getElem h) hvariadic
  refine List.forall₂_iff_get.2 ⟨?_, ?_⟩
  · refine Nat.le_antisymm hcount ?_
    by_contra hmore
    obtain ⟨parameter, hnone, -⟩ := hparameter signature.params.length (by omega)
    rw [List.getElem?_eq_none (Nat.le_refl _)] at hnone
    contradiction
  · intro i hparams harguments
    obtain ⟨parameter, hsome, hargument⟩ := hparameter i harguments
    rw [List.getElem?_eq_getElem hparams] at hsome
    cases hsome
    exact hargument

/-! ## Factors -/

theorem ident_checked (hchecking : Checking settings P) {symbol : Symbol} (span : Span)
    (hsymbol : P symbol) : (Expr.ident symbol span).Checked P := by
  have hregular := hchecking.regular symbol hsymbol
  exact .leaf rfl (.of_symbol rfl hsymbol hregular hregular.ty_ne_error trivial)

theorem constant_checked {value : Constant} {text : String} (span : Span)
    (hvalue : Constant.ofText text = .ok value) :
    (Expr.constant value.value value.ty span).Checked P := by
  have hscalar := Constant.isScalar_of_ofText hvalue
  exact .leaf rfl (.of_none rfl (Ty.ne_error_of_isScalar hscalar) hscalar)

theorem stepped_checked (hchecking : Checking settings P) (hknows : Knows P table state)
    {operator : Step} {result : Expr} (hkind : state.cursor.kind ≠ .identifier)
    (hquiet : Quiet (stepped operator) settings state result next) :
    Built P table [] state next result := by
  obtain ⟨hname, symbol, hresolve, haccepted, rfl⟩ := quiet_stepped.1 hquiet
  obtain ⟨hsymbol, hnames, rfl⟩ :=
    hknows.advanced.resolve_current hchecking.checks hname hresolve
  have hregular := hchecking.regular symbol hsymbol
  rw [hchecking.rules] at haccepted ⊢
  obtain ⟨hscalar, hty⟩ :=
    judgeStep_standard hregular.ty_ne_error (haccepted hchecking.checks)
  obtain ⟨name, hvariable⟩ := hregular.eq_variable_of_isScalar hscalar
  rw [hty]
  refine Built.widen ⟨hknows.symbols, (ParseState.names_of_ne hkind).trans hnames, ?_⟩
  exact .leaf rfl (.of_symbol rfl hsymbol hregular hregular.ty_ne_error ⟨name, hvariable, hscalar⟩)

/-- A call that passed its checks has fitting arguments. -/
theorem call_partsFit {name : String} {signature : Signature} {arguments : List Expr}
    (span : Span)
    (hregular : (Symbol.function name signature).IsRegular)
    (hcount : (CallCheck.ofCallee true (.function name signature)).PassesCount arguments.length)
    (hfits : ∀ i argument, arguments[i]? = some argument →
      (CallCheck.ofCallee true (.function name signature)).Fits i argument) :
    (Expr.call (.function name signature) arguments span).PartsFit := by
  refine ⟨name, signature, rfl, ?_, ?_⟩
  · intro hvariadic
    have hcheck : CallCheck.ofCallee true (.function name signature) = .against signature := by
      simp [CallCheck.ofCallee, Symbol.signature?, hvariadic]
    rw [hcheck] at hcount hfits
    exact CallCheck.forall₂_of_fits hcount hvariadic hfits
  · intro hname
    have hprintf : Symbol.function name signature = .printf := by
      cases hregular with
      | ofFunction _ hprintf => exact hprintf hname
    have hcheck : CallCheck.ofCallee true (.function name signature) = .format := by
      rw [hprintf]
      rfl
    rw [hcheck] at hcount hfits
    cases arguments with
    | nil => exact (Nat.lt_irrefl 0 hcount).elim
    | cons format others => exact ⟨format, others, rfl, hfits 0 format rfl rfl⟩

section Factors

variable {expr : Parse (Option Expr)} [Respects ReportsMore expr]

theorem subscript_checked (hchecking : Checking settings P)
    (hexpr : BuildsChecked settings P table expr) (hknows : Knows P table state) {array : Symbol}
    {span : Span} {target : Subscript} (harray : P array)
    (hsubscriptable : Subscriptable settings array)
    (hquiet : Quiet (subscript expr array span) settings state target next) :
    target.Checked P ∧ Built P table [array.name] state next target.read := by
  obtain ⟨hopen, index, middle, hindex, hclose, hscalar, rfl, rfl⟩ := quiet_subscript.1 hquiet
  have hbuilt := hexpr hknows.advanced hindex
  have hdummy := (hchecking.regular array harray).isDummy_eq_false
  have htarget : Subscript.Checked P
      { array := array
        index := index
        span := span.through middle.cursor.current.span } := by
    refine ⟨harray, ?_, isScalar_of_countsAsScalar (hscalar hchecking.checks)
      hbuilt.checked.ty_ne_error, hbuilt.checked⟩
    simpa [hdummy] using hsubscriptable hchecking.checks
  refine ⟨htarget, hbuilt.symbols, ?_, htarget.read hchecking.regular⟩
  rw [ParseState.names_of_kind hopen (by decide), hbuilt.names_eq,
    ParseState.names_of_kind hclose (by decide)]
  rfl

theorem element_checked (hchecking : Checking settings P)
    (hexpr : BuildsChecked settings P table expr) (hknows : Knows P table state) {array : Symbol}
    {span : Span} {result : Expr} (harray : P array)
    (hquiet : Quiet (element expr array span) settings state result next) :
    Built P table [array.name] state next result := by
  obtain ⟨hsubscriptable, target, htarget, rfl⟩ := quiet_element.1 hquiet
  exact (subscript_checked hchecking hexpr hknows harray hsubscriptable htarget).2

theorem addressed_checked (hchecking : Checking settings P)
    (hexpr : BuildsChecked settings P table expr) (hknows : Knows P table state) {result : Expr}
    (hkind : state.cursor.kind ≠ .identifier)
    (hquiet : Quiet (addressed expr) settings state result next) :
    Built P table [] state next result := by
  obtain ⟨hname, symbol, middle, target, after, hresolve, hsubscriptable, htarget, rfl, rfl⟩ :=
    quiet_addressed.1 hquiet
  obtain ⟨hsymbol, hnames, rfl⟩ :=
    hknows.advanced.resolve_current hchecking.checks hname hresolve
  obtain ⟨hchecked, hbuilt⟩ := subscript_checked hchecking hexpr hknows.advanced.advanced hsymbol
    hsubscriptable htarget
  have harray := hchecked.isArray
  have hty : (Expr.address target.array target.index target.span
      (state.cursor.current.span.through target.span)).ty ≠ .error := by
    simp only [Expr.ty]
    rw [if_pos harray]
    rintro herror
    rw [herror] at harray
    contradiction
  refine ⟨hbuilt.symbols, ?_, .single rfl ?_ hchecked.index⟩
  · exact ((ParseState.names_of_ne hkind).trans hnames).trans hbuilt.names
  · exact .of_symbol rfl hchecked.array (hchecking.regular _ hchecked.array) hty
      ⟨harray, hchecked.isScalar⟩

variable [Respects ReadsOn expr]

theorem argumentsFrom_checked (hchecking : Checking settings P)
    (hexpr : BuildsChecked settings P table expr) (hknows : Knows P table state)
    {check : CallCheck} {callee : Symbol} {budget index : Nat} {kept : List Expr} {close : Token}
    (hquiet : Quiet (argumentsFrom expr check callee budget index) settings state
      (kept, .ok close) next) :
    next.symbols = table ∧ state.names = Expr.allNames kept ++ next.names ∧
      (∀ argument ∈ kept, argument.Checked P) ∧
      ∀ i argument, kept[i]? = some argument → check.Fits (index + i) argument := by
  induction budget generalizing state index kept with
  | zero => exact (not_quiet_argumentsFrom_zero hquiet).elim
  | succ budget ih =>
      obtain ⟨argument, middle, hargument, hpasses, hrest⟩ := quiet_argumentsFrom_succ.1 hquiet
      have hbuilt := hexpr hknows hargument
      have hfits : check.Fits index (check.kept index argument) :=
        CallCheck.kept_fits (hpasses hchecking.checks) hbuilt.checked.ty_ne_error
      rcases hrest with ⟨hcomma, others, hothers, rfl⟩ | ⟨hclose, rfl, rfl, rfl⟩
      · obtain ⟨hnext, hothersNames, hothersChecked, hothersFit⟩ :=
          ih (hknows.after hargument hbuilt.symbols).advanced hothers
        refine ⟨hnext, ?_, ?_, ?_⟩
        · rw [hbuilt.names_eq, ParseState.names_of_kind hcomma (by decide), hothersNames,
            Expr.allNames, CallCheck.kept_names, List.append_assoc]
        · intro other hother
          rcases List.mem_cons.1 hother with rfl | hother
          · exact CallCheck.kept_checked hbuilt.checked
          · exact hothersChecked other hother
        · -- The rest counts its indices from one later on.
          intro i other hother
          cases i with
          | zero =>
              cases hother
              exact hfits
          | succ i =>
              have hshifted := hothersFit i other hother
              rw [Nat.add_assoc, Nat.add_comm 1 i] at hshifted
              exact hshifted
      · refine ⟨hbuilt.symbols, ?_, ?_, ?_⟩
        · rw [hbuilt.names_eq, ParseState.names_of_kind hclose (by decide), Expr.allNames,
            Expr.allNames, CallCheck.kept_names, List.append_nil]
        · intro other hother
          rw [List.mem_singleton.1 hother]
          exact CallCheck.kept_checked hbuilt.checked
        · intro i other hother
          cases i with
          | zero =>
              cases hother
              exact hfits
          | succ i => contradiction

theorem arguments_checked (hchecking : Checking settings P)
    (hexpr : BuildsChecked settings P table expr) (hknows : Knows P table state)
    {check : CallCheck} {callee : Symbol} {kept : List Expr} {close : Token}
    (hquiet : Quiet (arguments expr check callee) settings state (kept, .ok close) next) :
    next.symbols = table ∧ state.names = Expr.allNames kept ++ next.names ∧
      (∀ argument ∈ kept, argument.Checked P) ∧
      ∀ i argument, kept[i]? = some argument → check.Fits i argument := by
  rcases quiet_arguments.1 hquiet with ⟨hclose, rfl, -, rfl⟩ | ⟨-, hrest⟩
  · refine ⟨hknows.symbols, ParseState.names_of_kind hclose (by decide), nofun, ?_⟩
    intro i argument hargument
    contradiction
  · have hfound := argumentsFrom_checked hchecking hexpr hknows hrest
    simp only [Nat.zero_add] at hfound
    exact hfound

theorem call_checked (hchecking : Checking settings P)
    (hexpr : BuildsChecked settings P table expr) (hknows : Knows P table state)
    {callee : Symbol} {span : Span} {result : Expr} (hcallee : P callee)
    (hquiet : Quiet (call expr callee span) settings state result next) :
    Built P table [callee.name] state next result := by
  obtain ⟨hcallable, hchecked⟩ := quiet_call.1 hquiet
  obtain ⟨hopen, kept, close, harguments, hcount, rfl⟩ := quiet_checkedCall.1 hchecked
  have hcursor := state.called_cursor callee
  have hahead : (state.called callee).cursor.ahead <:+ state.cursor.ahead := by
    simp only [hcursor, List.suffix_rfl]
  have hcalled : Knows P table (state.called callee) :=
    hknows.of_suffix ((state.called_symbols callee).trans hknows.symbols) hahead
  obtain ⟨hsymbols, hnames, hkept, hfits⟩ :=
    arguments_checked hchecking hexpr hcalled.advanced harguments
  have hpassed := hcount hchecking.checks
  rw [hchecking.checks] at hpassed hfits
  refine ⟨hsymbols, ?_, ?_⟩
  · rw [← ParseState.names_eq_of_cursor_eq hcursor,
      ParseState.names_of_ne (by rw [hcursor, hopen]; decide), hnames]
    rfl
  · have hregular := hchecking.regular callee hcallee
    cases hregular with
    | ofVariable => exact (hcallable hchecking.checks).elim nofun nofun
    | @ofFunction name signature hreturns hprintf =>
        have hparts := call_partsFit (span.through close.span) (.ofFunction hreturns hprintf)
          hpassed hfits
        exact .intro (.of_symbol rfl hcallee (.ofFunction hreturns hprintf) hreturns hparts) hkept

theorem afterName_checked (hchecking : Checking settings P)
    (hexpr : BuildsChecked settings P table expr) (hknows : Knows P table state)
    {symbol : Symbol} {span : Span} {result : Expr} (hsymbol : P symbol)
    (hquiet : Quiet (afterName expr symbol span) settings state result next) :
    Built P table [symbol.name] state next result := by
  rcases quiet_afterName.1 hquiet with ⟨-, helement⟩ | ⟨-, hcall⟩ | ⟨-, -, rfl, rfl⟩
  · exact element_checked hchecking hexpr hknows hsymbol helement
  · exact call_checked hchecking hexpr hknows hsymbol hcall
  · exact ⟨hknows.symbols, rfl, ident_checked hchecking span hsymbol⟩

theorem freshFactor_checked (hchecking : Checking settings P)
    (hexpr : BuildsChecked settings P table expr) :
    BuildsChecked settings P table (freshFactor expr) := by
  intro state tree next hknows hquiet
  rcases quiet_freshFactor_some.1 hquiet with ⟨hkind, hnamed⟩ | ⟨hkind, hstring⟩ |
    ⟨hkind, hconstant⟩ | ⟨hkind, hinner⟩ | ⟨hkind, hstep⟩ | ⟨hkind, hstep⟩ | ⟨hkind, haddress⟩
  · obtain ⟨symbol, middle, found, hresolve, hfound, rfl⟩ := quiet_named.1 hnamed
    obtain ⟨hsymbol, hnames, rfl⟩ := hknows.resolve_current hchecking.checks hkind hresolve
    have hbuilt := afterName_checked hchecking hexpr hknows.advanced hsymbol hfound
    exact Built.widen ⟨hbuilt.symbols, hnames.trans hbuilt.names, hbuilt.checked⟩
  · obtain ⟨rfl, rfl⟩ := quiet_stringLiteral.1 hstring
    exact ⟨hknows.symbols, ParseState.names_of_kind hkind (by decide),
      .leaf rfl (.of_none rfl nofun trivial)⟩
  · obtain ⟨value, hvalue, rfl, rfl⟩ := quiet_constant.1 hconstant
    exact ⟨hknows.symbols, ParseState.names_of_kind hkind (by decide),
      constant_checked _ hvalue⟩
  · obtain ⟨middle, hfound, hclose, rfl⟩ := quiet_parenthesized.1 hinner
    have hbuilt := hexpr hknows.advanced hfound
    refine ⟨hbuilt.symbols, ?_, hbuilt.checked⟩
    rw [List.nil_append, ParseState.names_of_kind hkind (by decide), hbuilt.names_eq,
      ParseState.names_of_kind hclose (by decide)]
  · exact stepped_checked hchecking hknows (by rw [hkind]; decide) hstep
  · exact stepped_checked hchecking hknows (by rw [hkind]; decide) hstep
  · exact addressed_checked hchecking hexpr hknows (by rw [hkind]; decide) haddress

end Factors

/-! ## Expressions -/

def leadNames (handoff? : Option Handoff) : List String := (handoff?.map Handoff.names).getD []

/-- A rule that completes checked beginnings to checked expressions. -/
def CompletesChecked (settings : Settings) (P : Symbol → Prop) (table : SymbolTable)
    (rule : Rule) : Prop :=
  ∀ ⦃handoff? : Option Handoff⦄ ⦃state : ParseState⦄ ⦃tree : Expr⦄ ⦃next : ParseState⦄,
    (∀ handoff, handoff? = some handoff → handoff.Checked P) → Knows P table state →
    Quiet (rule handoff?) settings state (some tree) next →
    Built P table (leadNames handoff?) state next tree

theorem joined_checked (hchecking : Checking settings P) {operator : BinaryOp}
    {lhs rhs result : Expr} {position : Position} (hlhs : lhs.Checked P) (hrhs : rhs.Checked P)
    (hquiet : Quiet (joined operator lhs rhs position) settings state result next) :
    result.Checked P ∧ result.names = lhs.names ++ rhs.names ∧
      next = state.noted (.built result) := by
  obtain ⟨haccepted, rfl, rfl⟩ := quiet_joined.1 hquiet
  rw [hchecking.rules] at haccepted ⊢
  obtain ⟨hl, hr, hty⟩ := judgeBinary_standard hlhs.ty_ne_error hrhs.ty_ne_error
    (haccepted hchecking.checks)
  rw [hty]
  refine ⟨.intro (.of_none rfl nofun ⟨hl, hr, rfl⟩) ?_, rfl, rfl⟩
  intro child hchild
  rcases List.mem_pair.1 hchild with rfl | rfl
  · exact hlhs
  · exact hrhs

section Values

variable {expr : Parse (Option Expr)} [Respects ReportsMore expr]

theorem negated_checked (hchecking : Checking settings P)
    (hfactor : BuildsChecked settings P table (freshFactor expr)) (hknows : Knows P table state)
    {result : Expr} (hkind : state.cursor.kind = .not)
    (hquiet : Quiet (negated expr) settings state result next) :
    Built P table [] state next result := by
  obtain ⟨operand, hoperand, haccepted, rfl⟩ := quiet_negated.1 hquiet
  have hbuilt := hfactor hknows.advanced hoperand
  rw [hchecking.rules] at haccepted ⊢
  obtain ⟨hscalar, hty⟩ :=
    judgeNot_standard hbuilt.checked.ty_ne_error (haccepted hchecking.checks)
  rw [hty]
  refine ⟨hbuilt.symbols, ?_, .single rfl (.of_none rfl nofun ⟨hscalar, rfl⟩) hbuilt.checked⟩
  exact (ParseState.names_of_kind hkind (by decide)).trans hbuilt.names

variable [Respects ReadsOn expr]

theorem factor_checked (hchecking : Checking settings P)
    (hexpr : BuildsChecked settings P table expr) :
    CompletesChecked settings P table (factor expr) := by
  intro handoff? state tree next hhandoff hknows hquiet
  cases handoff? with
  | none => exact freshFactor_checked hchecking hexpr hknows hquiet
  | some handoff =>
      have hchecked := hhandoff handoff rfl
      cases handoff with
      | ident symbol span =>
          obtain ⟨found, hfound, hsome⟩ := quiet_factor_ident.1 hquiet
          cases hsome
          exact (afterName_checked hchecking hexpr hknows hchecked hfound).widen
      | element target =>
          obtain ⟨hsome, rfl⟩ := quiet_factor_element.1 hquiet
          cases hsome
          exact Built.widen ⟨hknows.symbols, rfl, hchecked.read hchecking.regular⟩

theorem value_checked (hchecking : Checking settings P)
    (hexpr : BuildsChecked settings P table expr) :
    CompletesChecked settings P table (value expr) := by
  intro handoff? state tree next hhandoff hknows hquiet
  cases handoff? with
  | some handoff => exact factor_checked hchecking hexpr hhandoff hknows hquiet
  | none =>
      have hfresh := freshFactor_checked hchecking hexpr
      rcases quiet_value_fresh_some.1 hquiet with ⟨hkind, hnegated⟩ | ⟨-, hfactor⟩
      · exact negated_checked hchecking hfresh hknows hkind hnegated
      · exact hfresh hknows hfactor

end Values

section Chains

variable {operand : Rule} [∀ handoff?, Respects ReportsMore (operand handoff?)]
  [∀ handoff?, Respects ReadsOn (operand handoff?)] {level : Precedence}

theorem operatorsAfter_checked (hchecking : Checking settings P)
    (hoperand : CompletesChecked settings P table operand) (hknows : Knows P table state)
    {budget : Nat} {lhs result : Expr} (hlhs : lhs.Checked P)
    (hquiet : Quiet (operatorsAfter level (operand none) budget lhs) settings state result
      next) :
    Built P table lhs.names state next result := by
  induction budget generalizing state lhs with
  | zero =>
      rw [operatorsAfter, quiet_pure] at hquiet
      obtain ⟨rfl, rfl⟩ := hquiet
      exact ⟨hknows.symbols, rfl, hlhs⟩
  | succ budget ih =>
      cases hoperator : level.operator? state.cursor.kind with
      | none =>
          obtain ⟨rfl, rfl⟩ := (quiet_operatorsAfter_of_none hoperator).1 hquiet
          exact ⟨hknows.symbols, rfl, hlhs⟩
      | some operator =>
          obtain ⟨rhs, node, middle, after, hrhs, hnode, hrest⟩ :=
            (quiet_operatorsAfter_of_some hoperator).1 hquiet
          have hright := hoperand Handoff.checked_of_none hknows.advanced hrhs
          have hmiddle := hknows.advanced.after hrhs hright.symbols
          obtain ⟨hnodeChecked, hnodeNames, rfl⟩ :=
            joined_checked hchecking hlhs hright.checked hnode
          -- The node is the left operand of what follows, so its names lead from here on.
          have hnoted : Knows P table (middle.noted (.built node)) :=
            hmiddle.of_suffix hmiddle.symbols List.suffix_rfl
          have hbuilt := ih hnoted hnodeChecked hrest
          refine ⟨hbuilt.symbols, Eq.trans ?_ hbuilt.names, hbuilt.checked⟩
          have hsign := (kind_ne_of_operator? hoperator).2
          have hread : state.advanced.names = rhs.names ++ middle.names := hright.names
          rw [hnodeNames, ParseState.names_of_ne hsign, hread, List.append_assoc]
          rfl

theorem chain_checked (hchecking : Checking settings P)
    (hoperand : CompletesChecked settings P table operand) :
    CompletesChecked settings P table (chain level operand) := by
  intro handoff? state tree next hhandoff hknows hquiet
  obtain ⟨lhs, middle, hlhs, hrest⟩ := quiet_chain_some.1 hquiet
  have hleft := hoperand hhandoff hknows hlhs
  have hbuilt := operatorsAfter_checked hchecking hoperand (hknows.after hlhs hleft.symbols)
    hleft.checked hrest
  exact ⟨hbuilt.symbols, hleft.names.trans hbuilt.names, hbuilt.checked⟩

end Chains

theorem orExpr_checked {expr : Parse (Option Expr)} [Respects ReportsMore expr]
    [Respects ReadsOn expr] (hchecking : Checking settings P)
    (hexpr : BuildsChecked settings P table expr) :
    CompletesChecked settings P table (orExpr expr) := by
  have hvalue := value_checked hchecking hexpr
  have hterm : CompletesChecked settings P table (term expr) := chain_checked hchecking hvalue
  have hnumExpr : CompletesChecked settings P table (numExpr expr) :=
    chain_checked hchecking hterm
  have hrelExpr : CompletesChecked settings P table (relExpr expr) :=
    chain_checked hchecking hnumExpr
  have handTerm : CompletesChecked settings P table (andTerm expr) :=
    chain_checked hchecking hrelExpr
  exact chain_checked hchecking handTerm

theorem exprWithin_checked (hchecking : Checking settings P) (budget : Nat) :
    BuildsChecked settings P table (exprWithin budget none) := by
  induction budget with
  | zero =>
      intro state tree next hknows hquiet
      obtain ⟨smaller, hsmaller, -⟩ := quiet_exprWithin.1 hquiet
      contradiction
  | succ budget ih =>
      intro state tree next hknows hquiet
      obtain ⟨smaller, hsmaller, horExpr⟩ := quiet_exprWithin.1 hquiet
      cases hsmaller
      exact orExpr_checked hchecking ih Handoff.checked_of_none hknows horExpr

theorem exprAfter_checked (hchecking : Checking settings P) :
    CompletesChecked settings P table exprAfter := by
  intro handoff? state tree next hhandoff hknows hquiet
  exact orExpr_checked hchecking (exprWithin_checked hchecking _) hhandoff hknows
    (quiet_exprAfter.1 hquiet)

theorem expr_checked (hchecking : Checking settings P) :
    BuildsChecked settings P table expr := by
  intro state tree next hknows hquiet
  exact exprAfter_checked hchecking Handoff.checked_of_none hknows hquiet

end Parse

end SubsetC
