import SubsetC.Proofs.CheckedStmt
import SubsetC.Proofs.Scanned
import SubsetC.Proofs.SoundProgram

/-!
# Clean programs

A parse with checks that reports nothing builds a program that is typed, and whose
symbols are those that lexical scoping gives the identifiers of the source.
-/

namespace SubsetC

namespace Parse

variable {settings : Settings} {state next : ParseState} {scopes : List Scope}

/-! ## Parameters -/

theorem parameter_stands (hstrict : Strict settings) (hstands : Stands scopes state) {base : Ty}
    (hbase : base ≠ .error) {symbol : Symbol}
    (hquiet : Quiet (parameter base) settings state symbol next) :
    state.names = symbol.name :: next.names ∧ Stands (extended scopes [symbol]) next := by
  obtain ⟨hname, ty, typed, rfl, hform, hdeclares⟩ := quiet_parameter.1 hquiet
  have hshape : ty ≠ .error ∧ state.advanced.names = typed.names ∧ Stands scopes typed := by
    rcases hform with ⟨hopen, hclose, harray, rfl⟩ | ⟨-, -, rfl, rfl⟩
    · refine ⟨Ty.ne_error_of_arrayOf? harray, ?_, hstands.advanced.advanced.advanced⟩
      rw [ParseState.names_of_kind hopen (by decide),
        ParseState.names_of_kind hclose (by decide)]
    · exact ⟨hbase, rfl, hstands.advanced⟩
  obtain ⟨hty, hnames, htyped⟩ := hshape
  refine ⟨?_, Declares.stands hstrict htyped (hstands.current_ne hname) (.ofVariable hty)
    hdeclares⟩
  rw [ParseState.names_of_identifier hname, hnames,
    ParseState.names_eq_of_cursor_eq hdeclares.cursor_eq]
  rfl

theorem parametersFrom_stands (hstrict : Strict settings) (hstands : Stands scopes state)
    {isFirst : Bool} {budget : Nat} {symbols : List Symbol}
    (hquiet : Quiet (parametersFrom isFirst budget) settings state symbols next) :
    state.names = symbols.map Symbol.name ++ next.names ∧
      Stands (extended scopes symbols) next := by
  induction budget generalizing state scopes isFirst symbols with
  | zero =>
      rw [parametersFrom, quiet_pure] at hquiet
      obtain ⟨rfl, rfl⟩ := hquiet
      rw [extended_nil]
      exact ⟨rfl, hstands⟩
  | succ budget ih =>
      obtain ⟨base, hbase, hform⟩ := quiet_parametersFrom_succ.1 hquiet
      have hstart := ParseState.names_of_ne (specifier_ne_identifier hbase)
      rcases hform with ⟨-, -, -, rfl, rfl⟩ | ⟨symbol, middle, hsymbol, hrest⟩
      · rw [extended_nil]
        exact ⟨hstart, hstands.advanced⟩
      · obtain ⟨hnames, hmiddle⟩ := parameter_stands hstrict hstands.advanced
          (Ty.ne_error_of_ofSpecifier? hbase) hsymbol
        rcases hrest with ⟨hcomma, others, hothers, rfl⟩ | ⟨-, rfl, rfl⟩
        · obtain ⟨hothersNames, hnext⟩ := ih hmiddle.advanced hothers
          rw [extended_append] at hnext
          refine ⟨?_, hnext⟩
          rw [hstart, hnames, ParseState.names_of_kind hcomma (by decide), hothersNames]
          rfl
        · exact ⟨hstart.trans hnames, hmiddle⟩

theorem parameters_stands (hstrict : Strict settings) (hstands : Stands scopes state)
    {symbols : List Symbol} (hquiet : Quiet parameters settings state symbols next) :
    state.names = symbols.map Symbol.name ++ next.names ∧
      Stands (extended scopes symbols) next := by
  rcases quiet_parameters.1 hquiet with ⟨-, rfl, rfl⟩ | ⟨-, hrest⟩
  · rw [extended_nil]
    exact ⟨rfl, hstands⟩
  · exact parametersFrom_stands hstrict hstands hrest

/-! ## Functions -/

/-- An external of the names read between two states, after some that were read
before. -/
structure ExternalBuilt (globals : Scope) (lead : List String) (state next : ParseState)
    (external : External) : Prop where
  isTyped : external.Typed
  isScoped : external.Scoped globals
  names : lead ++ state.names = external.names ++ next.names
  stands : Stands [globals ++ [external.symbol]] next

/-- Only `printf` itself has its name among the globals. -/
theorem isRegular_of_find?_eq_none {globals : Scope} (hprintf : .printf ∈ globals)
    {name : String} {signature : Signature} (hreturns : signature.returns ≠ .error)
    (hnew : globals.find? name = none) : (Symbol.function name signature).IsRegular := by
  refine .ofFunction hreturns fun hname => ?_
  rw [hname, Scope.find?_eq_none_iff] at hnew
  exact (hnew (List.mem_map_of_mem (f := Symbol.name) hprintf)).elim

theorem function_stands (hstrict : Strict settings) {globals : Scope}
    (hprintf : .printf ∈ globals) (hstands : Stands [globals] state) {returns : Ty}
    (hreturns : returns ≠ .error) {name : Token} (hname : name.text ≠ Symbol.placeholder.name)
    {start : Position} {result : FunctionDef}
    (hquiet : Quiet (function returns name start) settings state result next) :
    ExternalBuilt globals [name.text] state next (.function result) := by
  obtain ⟨hopen, last, hrest, rfl⟩ := quiet_function.1 hquiet
  obtain ⟨params, listed, declared, body, hparams, hclose, hdeclares, hbody, rfl⟩ :=
    quiet_functionRest.1 hrest
  have hentered : Stands [[], globals]
      { state.advanced with symbols := state.symbols.enterScope } :=
    ⟨hstands.mirrors.enterScope, hstands.advanced.named⟩
  obtain ⟨hparamNames, hlisted⟩ := parameters_stands hstrict hentered hparams
  -- The body sees the function itself, the parameters do not.
  have hdeclared : Stands [params, globals ++ [.function name.text
      { returns := returns, params := params.map Symbol.ty }]] declared := by
    cases hdeclares with
    | bound hdeclare =>
        refine ⟨hlisted.mirrors.declareGlobal hname (fun hnew => ?_) hdeclare,
          hlisted.advanced.named⟩
        exact isRegular_of_find?_eq_none hprintf hreturns hnew
    | refused _ hchecks =>
        rw [hstrict.checks] at hchecks
        contradiction
  have hbegun : Stands [params, globals ++ [.function name.text
      { returns := returns, params := params.map Symbol.ty }]]
      (declared.inBody name.text returns) :=
    ⟨hdeclared.mirrors, hdeclared.named⟩
  obtain ⟨htyped, hscoped, hbodyNames, hlast⟩ :=
    block_stands (stmtWithin_stands hstrict hreturns _) hbegun rfl hbody
  have hregular (param : Symbol) (hparam : param ∈ params) : param.IsRegular :=
    hdeclared.mirrors.regular List.mem_cons_self hparam
  refine ⟨⟨fun param hparam => (hregular param hparam).isDummy_eq_false, _, _, rfl, htyped⟩,
    hscoped, ?_, ⟨hlast.mirrors.exitScope, hlast.named⟩⟩
  have hhead : state.names = params.map Symbol.name ++ listed.names :=
    (ParseState.names_of_kind hopen (by decide)).trans hparamNames
  have hbodyStart : listed.names = (declared.inBody name.text returns).names :=
    (ParseState.names_of_kind hclose (by decide)).trans
      (ParseState.names_eq_of_cursor_eq hdeclares.cursor_eq).symm
  rw [hhead, hbodyStart, hbodyNames, ← List.append_assoc, ← List.append_assoc]
  rfl

/-! ## Programs -/

theorem external_stands (hstrict : Strict settings) {globals : Scope}
    (hprintf : .printf ∈ globals) (hstands : Stands [globals] state) {result : External}
    (hquiet : Quiet external settings state result next) :
    ExternalBuilt globals [] state next result := by
  obtain ⟨base, hbase, hname, hrest⟩ := quiet_external.1 hquiet
  have hty := Ty.ne_error_of_ofSpecifier? hbase
  have hdeclared := hstands.advanced.current_ne hname
  have hstart : state.names =
      state.advanced.cursor.current.text :: state.advanced.advanced.names :=
    (ParseState.names_of_ne (specifier_ne_identifier hbase)).trans
      (ParseState.names_of_identifier hname)
  rcases hrest with ⟨-, defined, hdefined, rfl⟩ | ⟨-, declared, hdeclaration, rfl⟩
  · have hbuilt := function_stands hstrict hprintf hstands.advanced.advanced hty hdeclared hdefined
    exact ⟨hbuilt.isTyped, hbuilt.isScoped, hstart.trans hbuilt.names, hbuilt.stands⟩
  · have hbuilt :=
      declarator_stands hstrict hstands.advanced.advanced hty hdeclared hdeclaration
    exact ⟨hbuilt.isTyped, hbuilt.isScoped, hstart.trans hbuilt.names, hbuilt.stands⟩

theorem externals_stand (hstrict : Strict settings) {globals : Scope}
    (hprintf : .printf ∈ globals) (hstands : Stands [globals] state) {budget : Nat}
    {found : List External} (hquiet : Quiet (externals budget) settings state found next) :
    (∀ external ∈ found, external.Typed) ∧ External.AllScoped globals found ∧
      state.names = found.flatMap External.names ++ next.names := by
  induction budget generalizing state globals found with
  | zero =>
      obtain ⟨rfl, rfl⟩ := quiet_externals_zero.1 hquiet
      exact ⟨List.forall_mem_nil _, trivial, rfl⟩
  | succ budget ih =>
      rcases quiet_externals_succ.1 hquiet with ⟨-, rfl, rfl⟩ |
        ⟨-, first, middle, others, hfirst, hothers, rfl⟩
      · exact ⟨List.forall_mem_nil _, trivial, rfl⟩
      · have hbuilt := external_stands hstrict hprintf hstands hfirst
        obtain ⟨htyped, hscoped, hnames⟩ :=
          ih (List.mem_append_left _ hprintf) hbuilt.stands hothers
        refine ⟨?_, ⟨hbuilt.isScoped, hscoped⟩, ?_⟩
        · intro external hexternal
          rcases List.mem_cons.1 hexternal with rfl | hexternal
          · exact hbuilt.isTyped
          · exact htyped external hexternal
        · rw [List.flatMap_cons, List.append_assoc, ← hnames]
          exact hbuilt.names

end Parse

open Parse

theorem clean_program {settings : Settings} {text file : String} {tokens : List Token}
    {program : Program} {state : ParseState} (hstrict : Strict settings)
    (htokens : tokenize text file = .ok tokens)
    (hparse : parse settings tokens = (.ok program, state))
    (hclean : state.journal.diagnostics = #[]) :
    program.Typed ∧ program.Scoped ∧ program.names = identifiers tokens := by
  obtain ⟨body, last, rfl, hlast, hbody⟩ := tokenize_scanned htokens
  obtain ⟨next, hquiet⟩ := parse_clean_iff.1 ⟨program, state, hparse, hclean, rfl⟩
  have hahead : (ParseState.started settings (body ++ [last])).cursor.ahead = body :=
    Cursor.ofTokens_ahead hlast settings.file
  have hnames : (ParseState.started settings (body ++ [last])).names =
      identifiers (body ++ [last]) := by
    unfold ParseState.names
    rw [hahead]
    simp [identifiers, hlast]
  have hstarted : Stands [[.printf]] (ParseState.started settings (body ++ [last])) := by
    refine ⟨SymbolTable.Mirrors.initial, ?_⟩
    unfold ParseState.names
    rw [hahead]
    intro hmem
    obtain ⟨token, htoken, htext⟩ := List.mem_map.1 hmem
    obtain ⟨hmember, hkind⟩ := List.mem_filter.1 htoken
    exact (hbody token hmember).text (of_decide_eq_true hkind) htext
  obtain ⟨htyped, hscoped, hread⟩ :=
    externals_stand hstrict List.mem_cons_self hstarted hquiet
  obtain ⟨-, -, -, hnext⟩ := externals_read (Nat.le_refl _)
    (by rw [hahead]; exact fun token hmember => (hbody token hmember).kind) hquiet
  refine ⟨htyped, hscoped, ?_⟩
  have hnone : next.names = [] := by
    unfold ParseState.names
    rw [hnext]
    rfl
  rw [← hnames, hread, hnone, List.append_nil]
  rfl

section Clean

variable {settings : Settings} {text file : String} {tokens : List Token} {program : Program}
  {state : ParseState}

/-- If a text is parsed with checks and nothing is reported, then the program is well
typed. -/
theorem clean_program_typed (hchecks : settings.checks = true)
    (hrules : settings.rules = .standard) (htokens : tokenize text file = .ok tokens)
    (hparse : parse settings tokens = (.ok program, state))
    (hclean : state.journal.diagnostics = #[]) : program.Typed :=
  (clean_program ⟨hchecks, hrules⟩ htokens hparse hclean).1

/-- If a text is parsed with checks and nothing is reported, then the names in the
program are the identifiers of the text in order, and the symbol of each is the one that
lexical scoping gives it. -/
theorem clean_program_scoped (hchecks : settings.checks = true)
    (hrules : settings.rules = .standard) (htokens : tokenize text file = .ok tokens)
    (hparse : parse settings tokens = (.ok program, state))
    (hclean : state.journal.diagnostics = #[]) :
    program.names = identifiers tokens ∧ program.Scoped := by
  obtain ⟨-, hscoped, hnames⟩ := clean_program ⟨hchecks, hrules⟩ htokens hparse hclean
  exact ⟨hnames, hscoped⟩

end Clean

/-- A function with a variable that is shadowed in a block. -/
def shadowedText : String :=
  "int f(char c) \x7b int x = 1; if (c) \x7b char x; x = f(c); \x7d return x; \x7d"

theorem shadowedText_clean :
    ∃ tokens program state, tokenize shadowedText "f.c" = .ok tokens ∧
      parse { file := "f.c" } tokens = (.ok program, state) ∧
      state.journal.diagnostics = #[] := by
  have hclean : (match tokenize shadowedText "f.c" with
      | .ok tokens =>
          match parse { file := "f.c" } tokens with
          | (.ok _, state) => state.journal.size
          | (.error _, _) => 1
      | .error _ => 1) = 0 := by
    decide +kernel
  cases htokens : tokenize shadowedText "f.c" with
  | error failure => simp [htokens] at hclean
  | ok tokens =>
      simp only [htokens] at hclean
      rcases hparse : parse { file := "f.c" } tokens with ⟨failure | program, state⟩
      · simp [hparse] at hclean
      · simp only [hparse] at hclean
        exact ⟨tokens, program, state, rfl, hparse, Array.size_eq_zero_iff.1 hclean⟩

theorem shadowedText_typed :
    ∃ tokens program state, tokenize shadowedText "f.c" = .ok tokens ∧
      parse { file := "f.c" } tokens = (.ok program, state) ∧
      state.journal.diagnostics = #[] ∧ program.Typed := by
  obtain ⟨tokens, program, state, htokens, hparse, hclean⟩ := shadowedText_clean
  have hchecks : ({ file := "f.c" } : Settings).checks = true := rfl
  have hrules : ({ file := "f.c" } : Settings).rules = .standard := rfl
  have htyped := clean_program_typed hchecks hrules htokens hparse hclean
  exact ⟨tokens, program, state, htokens, hparse, hclean, htyped⟩

theorem shadowedText_scoped :
    ∃ tokens program state, tokenize shadowedText "f.c" = .ok tokens ∧
      parse { file := "f.c" } tokens = (.ok program, state) ∧
      state.journal.diagnostics = #[] ∧ program.names = identifiers tokens ∧
      program.Scoped := by
  obtain ⟨tokens, program, state, htokens, hparse, hclean⟩ := shadowedText_clean
  have hchecks : ({ file := "f.c" } : Settings).checks = true := rfl
  have hrules : ({ file := "f.c" } : Settings).rules = .standard := rfl
  have hscoped := clean_program_scoped hchecks hrules htokens hparse hclean
  exact ⟨tokens, program, state, htokens, hparse, hclean, hscoped⟩

end SubsetC
