import SubsetC.Proofs.QuietStmt

/-!
# Quiet runs of programs

A parse that gives a program and reports nothing is a quiet run of the grammar
from the state in which it is started.
-/

namespace SubsetC

theorem Cursor.ofTokens_ahead {body : List Token} {last : Token} (hlast : last.kind = .eof)
    (file : String) : (ofTokens (body ++ [last]) file).ahead = body := by
  unfold ofTokens
  rw [List.getLast?_concat]
  simp only
  rw [dif_pos hlast, List.dropLast_concat]

/-- The state after the parameters of a function were read and it was declared. -/
def ParseState.inBody (state : ParseState) (name : String) (returns : Ty) : ParseState :=
  { state.noted (.enteredBody name) with returnType? := some returns }

@[simp] theorem ParseState.inBody_cursor (state : ParseState) (name : String) (returns : Ty) :
    (state.inBody name returns).cursor = state.cursor := rfl

@[simp] theorem ParseState.inBody_symbols (state : ParseState) (name : String)
    (returns : Ty) : (state.inBody name returns).symbols = state.symbols := rfl

@[simp] theorem ParseState.inBody_returns (state : ParseState) (name : String)
    (returns : Ty) : (state.inBody name returns).returns = returns := rfl

/-- The state in which the grammar is started on some tokens. -/
def ParseState.started (settings : Settings) (tokens : List Token) : ParseState :=
  (ofTokens tokens settings.file).noted
    (.started settings.file ((ofTokens tokens settings.file).cursor.remaining + 1))

@[simp] theorem ParseState.started_cursor (settings : Settings) (tokens : List Token) :
    (started settings tokens).cursor = .ofTokens tokens settings.file := rfl

@[simp] theorem ParseState.started_symbols (settings : Settings) (tokens : List Token) :
    (started settings tokens).symbols = {} := rfl

namespace Parse

variable {settings : Settings} {state next : ParseState}

theorem setReturnType_run (ty? : Option Ty) :
    setReturnType ty? settings state = .ok () { state with returnType? := ty? } := rfl

theorem quiet_functionRest {returns : Ty} {name : Token} {start : Position}
    {result : FunctionDef} :
    Quiet (functionRest returns name start) settings state result next ↔
      ∃ params listed declared body,
        Quiet parameters settings state params listed ∧
        listed.cursor.kind = .closeParen ∧
        Declares settings
          (listed.symbols.declareGlobal
            (.function name.text { returns := returns, params := params.map Symbol.ty }))
          listed.advanced declared ∧
        Quiet (block (stmtWithin (declared.cursor.remaining + 1))) settings
          (declared.inBody name.text returns) body next ∧
        result =
          { symbol := .function name.text { returns := returns, params := params.map Symbol.ty }
            params := params
            body := body
            span := { start := start, stop := body.span.stop } } := by
  unfold functionRest
  rw [quiet_bind]
  constructor
  · rintro ⟨params, listed, hparams, hrest⟩
    obtain ⟨hclose, hrest⟩ := quiet_expect_bind.1 hrest
    obtain ⟨symbol, declared, hdeclared, hrest⟩ := quiet_bind.1 hrest
    obtain ⟨rfl, hdeclares⟩ := quiet_declareFunction.1 hdeclared
    rw [quiet_note_bind] at hrest
    obtain ⟨body, last, hbody, hresult⟩ := quiet_bind.1 hrest
    obtain ⟨rfl, rfl⟩ := quiet_pure.1 hresult
    unfold functionBody at hbody
    rw [quiet_bind_of_run (setReturnType_run _) rfl, quiet_remaining_bind] at hbody
    exact ⟨params, listed, declared, body, hparams, hclose, hdeclares, hbody, rfl⟩
  · rintro ⟨params, listed, declared, body, hparams, hclose, hdeclares, hbody, rfl⟩
    refine ⟨params, listed, hparams, quiet_expect_bind.2 ⟨hclose, ?_⟩⟩
    refine quiet_bind.2 ⟨_, declared, quiet_declareFunction.2 ⟨rfl, hdeclares⟩, ?_⟩
    rw [quiet_note_bind]
    refine quiet_bind.2 ⟨body, next, ?_, quiet_pure.2 ⟨rfl, rfl⟩⟩
    unfold functionBody
    rw [quiet_bind_of_run (setReturnType_run _) rfl, quiet_remaining_bind]
    exact hbody

theorem quiet_function {returns : Ty} {name : Token} {start : Position}
    {result : FunctionDef} :
    Quiet (function returns name start) settings state result next ↔
      state.cursor.kind = .openParen ∧
        ∃ last,
          Quiet (functionRest returns name start) settings
            { state.advanced with symbols := state.symbols.enterScope } result last ∧
          next = { last with symbols := last.symbols.exitScope, returnType? := none } := by
  unfold function
  rw [quiet_expect_bind]
  exact and_congr_right fun _ => quiet_bracket (fun _ => rfl) fun _ => rfl

theorem quiet_external {result : External} :
    Quiet external settings state result next ↔
      ∃ base, Ty.ofSpecifier? state.cursor.kind = some base ∧
        state.advanced.cursor.kind = .identifier ∧
        (state.advanced.advanced.cursor.kind = .openParen ∧
            (∃ defined,
              Quiet (function base state.advanced.cursor.current state.cursor.current.span.start)
                settings state.advanced.advanced defined next ∧
              result = .function defined) ∨
          state.advanced.advanced.cursor.kind ≠ .openParen ∧
            ∃ declared,
              Quiet
                (declarator base state.advanced.cursor.current state.cursor.current.span.start)
                settings state.advanced.advanced declared next ∧
              result = .global declared) := by
  have hrest (base : Ty) (name : Token) (start : Position) : Respects ReportsMore
      (do
        if (← kind) = .openParen then External.function <$> function base name start
        else External.global <$> declarator base name start) := inferInstance
  unfold external
  rw [quiet_position_bind, quiet_bind_of inferInstance fun base => .bind inferInstance fun name =>
    hrest base name _]
  simp only [quiet_typeSpecifier, quiet_expectFor_bind, quiet_kind_bind]
  constructor
  · rintro ⟨base, middle, ⟨hbase, rfl⟩, hname, hrest⟩
    refine ⟨base, hbase, hname, ?_⟩
    split at hrest
    · rename_i hopen
      obtain ⟨defined, hdefined, rfl⟩ := quiet_map.1 hrest
      exact .inl ⟨hopen, defined, hdefined, rfl⟩
    · rename_i hopen
      obtain ⟨declared, hdeclared, rfl⟩ := quiet_map.1 hrest
      exact .inr ⟨hopen, declared, hdeclared, rfl⟩
  · rintro ⟨base, hbase, hname, hrest⟩
    refine ⟨base, state.advanced, ⟨hbase, rfl⟩, hname, ?_⟩
    obtain ⟨hopen, defined, hdefined, rfl⟩ | ⟨hopen, declared, hdeclared, rfl⟩ := hrest
    · rw [if_pos hopen]
      exact quiet_map.2 ⟨defined, hdefined, rfl⟩
    · rw [if_neg hopen]
      exact quiet_map.2 ⟨declared, hdeclared, rfl⟩

theorem quiet_externals_zero {found : List External} :
    Quiet (externals 0) settings state found next ↔ found = [] ∧ next = state := by
  rw [externals, quiet_pure]

theorem quiet_externals_succ {budget : Nat} {found : List External} :
    Quiet (externals (budget + 1)) settings state found next ↔
      state.cursor.kind = .eof ∧ found = [] ∧ next = state ∨
        state.cursor.kind ≠ .eof ∧
          ∃ first middle others, Quiet external settings state first middle ∧
            Quiet (externals budget) settings middle others next ∧ found = first :: others := by
  rw [externals, quiet_hasTokens_bind]
  by_cases hkind : state.cursor.kind = .eof
  · simp [hkind]
  · simp only [hkind, ne_eq, not_false_eq_true, decide_true, if_true, false_and, false_or,
      true_and]
    rw [quiet_bind_of inferInstance fun attempted => by cases attempted <;> infer_instance]
    constructor
    · rintro ⟨attempted, middle, hattempt, hrest⟩
      cases attempted with
      | error failure =>
          obtain ⟨recovered, last, hrecovered, -⟩ := quiet_bind.1 hrest
          exact (not_quiet_recoverPast hrecovered).elim
      | ok first =>
          obtain ⟨others, last, hothers, hresult⟩ := quiet_bind.1 hrest
          obtain ⟨rfl, rfl⟩ := quiet_pure.1 hresult
          exact ⟨first, middle, others, quiet_attempt_ok.1 hattempt, hothers, rfl⟩
    · rintro ⟨first, middle, others, hfirst, hothers, rfl⟩
      exact ⟨.ok first, middle, quiet_attempt_ok.2 hfirst,
        quiet_bind.2 ⟨others, next, hothers, quiet_pure.2 ⟨rfl, rfl⟩⟩⟩

theorem takeStrings_run :
    takeStrings settings state = .ok state.strings { state with strings := {} } := rfl

instance : Respects ReportsMore takeStrings :=
  .of_run (fun _ _ => rfl) fun _ _ => Nat.le_refl _

instance : Respects ReportsMore program := by
  unfold program
  infer_instance

theorem quiet_program {result : Program} :
    Quiet program settings state result next ↔
      ∃ found last,
        Quiet (externals state.cursor.remaining) settings state found last ∧
        result =
          { externals := found
            strings := last.strings
            needsPrintf := last.needsPrintf
            span :=
              { start := state.cursor.current.span.start
                stop := last.cursor.current.span.start } } ∧
        next = { last with strings := {} } := by
  unfold program
  rw [quiet_position_bind, quiet_remaining_bind, quiet_bind]
  refine exists_congr fun found => exists_congr fun last => and_congr_right fun _ => ?_
  rw [quiet_position_bind, quiet_bind_of_run takeStrings_run rfl, quiet_get_bind, quiet_pure]

theorem quiet_journaled {result : Program} :
    Quiet journaled settings state result next ↔
      ∃ last,
        Quiet program settings
          (state.noted (.started settings.file (state.cursor.remaining + 1))) result last ∧
        next = last.noted (.finished settings.file last.journal.size) := by
  unfold journaled
  rw [quiet_read_bind, quiet_remaining_bind, quiet_note_bind,
    quiet_bind_of inferInstance fun attempted => by cases attempted <;> infer_instance]
  constructor
  · rintro ⟨attempted, last, hattempt, hrest⟩
    rw [quiet_get_bind, quiet_note_bind] at hrest
    cases attempted with
    | error failure => exact (not_quiet_throw hrest).elim
    | ok found =>
        obtain ⟨rfl, rfl⟩ := quiet_pure.1 hrest
        exact ⟨last, quiet_attempt_ok.1 hattempt, rfl⟩
  · rintro ⟨last, hprogram, rfl⟩
    refine ⟨.ok result, last, quiet_attempt_ok.2 hprogram, ?_⟩
    rw [quiet_get_bind, quiet_note_bind]
    exact quiet_pure.2 ⟨rfl, rfl⟩

end Parse

open Parse

/-- The state of a parse that gave a program, if nothing was reported. -/
theorem parse_eq_ok_iff {settings : Settings} {tokens : List Token} {program : Program}
    {state : ParseState} :
    parse settings tokens = (.ok program, state) ∧ state.journal.diagnostics = #[] ↔
      Quiet journaled settings (.ofTokens tokens settings.file) program state := by
  have hsize : state.journal.diagnostics = #[] ↔ state.journal.size ≤ 0 := by
    unfold Journal.size
    rw [Nat.le_zero, Array.size_eq_zero_iff]
  unfold parse Parse.run Quiet
  rw [hsize]
  refine and_congr_left fun _ => ?_
  cases journaled settings (.ofTokens tokens settings.file) <;> simp

/-- A parse reports nothing and gives a program just if it is a quiet run over its
externals. -/
theorem parse_clean_iff {settings : Settings} {tokens : List Token} {found : List External} :
    (∃ program state, parse settings tokens = (.ok program, state) ∧
        state.journal.diagnostics = #[] ∧ program.externals = found) ↔
      ∃ last,
        Quiet (externals (ParseState.started settings tokens).cursor.remaining) settings
          (.started settings tokens) found last := by
  constructor
  · rintro ⟨program, state, hparse, hclean, rfl⟩
    obtain ⟨last, hprogram, -⟩ := quiet_journaled.1 (parse_eq_ok_iff.1 ⟨hparse, hclean⟩)
    obtain ⟨found, after, hfound, rfl, -⟩ := quiet_program.1 hprogram
    exact ⟨after, hfound⟩
  · rintro ⟨last, hfound⟩
    have hprogram := quiet_program.2 ⟨found, last, hfound, rfl, rfl⟩
    obtain ⟨hparse, hclean⟩ := parse_eq_ok_iff.2 (quiet_journaled.2 ⟨_, hprogram, rfl⟩)
    exact ⟨_, _, hparse, hclean, rfl⟩

end SubsetC
