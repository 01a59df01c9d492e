import SubsetC.Proofs.CompleteStmt
import SubsetC.Proofs.SoundProgram

/-!
# Acceptance is derivability

Without checks, a parse gives a program and reports nothing exactly on the tokens
that the grammar derives.
-/

namespace SubsetC

namespace Parse

variable {settings : Settings} {state : ParseState} {cursor : Cursor} {ts rest : List Token}

/-! ## Parameters -/

theorem parameter_yields (hchecks : settings.checks = false) (hparam : IsParam ts)
    (hnext : (cursor.facing rest).kind ≠ .openBracket)
    (hcursor : state.cursor = cursor.facing (ts ++ rest)) :
    ∃ base symbol next, Ty.ofSpecifier? state.cursor.kind = some base ∧
      Quiet (parameter base) settings state.advanced symbol next ∧
      next.cursor = cursor.facing rest := by
  cases hparam with
  | scalar hword hname =>
      simp only [List.cons_append, List.nil_append] at hcursor
      have hadvanced := advanced_of_facing hcursor
      have hafter := advanced_of_facing hadvanced
      obtain ⟨base, array, hbase, -, hvoid, -⟩ := hword.specifier
      obtain ⟨next, hdeclares⟩ := declares_unchecked hchecks
        (state.advanced.advanced.symbols.declare
          (.variable state.advanced.cursor.current.text base)) state.advanced.advanced
      rw [← kind_of_facing hcursor] at hbase
      rw [← hafter] at hnext
      exact ⟨base, _, next, hbase, quiet_parameter.2 ⟨(kind_of_facing hadvanced).trans hname, base,
        _, rfl, .inr ⟨hnext, hvoid, rfl, rfl⟩, hdeclares⟩, hdeclares.cursor_eq.trans hafter⟩
  | array hword hname hopen hclose =>
      have hadvanced := advanced_of_facing hcursor
      have hafter := advanced_of_facing hadvanced
      have hbracket := advanced_of_facing hafter
      obtain ⟨base, array, hbase, harray, -, -⟩ := hword.specifier
      obtain ⟨next, hdeclares⟩ := declares_unchecked hchecks
        (state.advanced.advanced.advanced.advanced.symbols.declare
          (.variable state.advanced.cursor.current.text array))
        state.advanced.advanced.advanced.advanced
      rw [← kind_of_facing hcursor] at hbase
      exact ⟨base, _, next, hbase, quiet_parameter.2 ⟨(kind_of_facing hadvanced).trans hname, array,
        _, rfl, .inl ⟨(kind_of_facing hafter).trans hopen, (kind_of_facing hbracket).trans hclose,
          harray, rfl⟩, hdeclares⟩, hdeclares.cursor_eq.trans (advanced_of_facing hbracket)⟩

theorem parametersFrom_yields (hchecks : settings.checks = false) (isFirst : Bool)
    {budget : Nat} {first : List Token} {others : List (List Token)} {closing : Token}
    (hclose : closing.kind = .closeParen) (hbudget : others.length < budget)
    (hparams : ∀ part ∈ first :: others, IsParam part)
    (hseparated : Separated (first :: others) ts)
    (hcursor : state.cursor = cursor.facing (ts ++ closing :: rest)) :
    ∃ symbols next, Quiet (parametersFrom isFirst budget) settings state symbols next ∧
      next.cursor = cursor.facing (closing :: rest) := by
  obtain ⟨budget, rfl⟩ : ∃ smaller, budget = smaller + 1 := ⟨budget - 1, by omega⟩
  induction others generalizing state ts budget isFirst first with
  | nil =>
      cases hseparated
      obtain ⟨base, symbol, next, hbase, hquiet, hnext⟩ :=
        parameter_yields hchecks (hparams _ List.mem_cons_self)
          (by rw [Cursor.facing_cons_kind, hclose]; decide) hcursor
      refine ⟨[symbol], next, quiet_parametersFrom_succ.2 ⟨base, hbase, .inr
        ⟨symbol, next, hquiet, .inr ⟨?_, rfl, rfl⟩⟩⟩, hnext⟩
      rw [kind_of_facing hnext, hclose]
      decide
  | cons second others ih =>
      cases hseparated with
      | more hcomma hseparated =>
          rw [List.append_assoc, List.cons_append] at hcursor
          rw [List.length_cons] at hbudget
          obtain ⟨base, symbol, middle, hbase, hquiet, hmiddle⟩ :=
            parameter_yields hchecks (hparams first List.mem_cons_self)
              (by rw [Cursor.facing_cons_kind, hcomma]; decide) hcursor
          obtain ⟨budget, rfl⟩ : ∃ smaller, budget = smaller + 1 := ⟨budget - 1, by omega⟩
          obtain ⟨symbols, next, hsymbols, hnext⟩ :=
            ih false (fun part hmem => hparams part (List.mem_cons_of_mem _ hmem)) hseparated
              (advanced_of_facing hmiddle) budget (by omega)
          exact ⟨symbol :: symbols, next, quiet_parametersFrom_succ.2 ⟨base, hbase, .inr
            ⟨symbol, middle, hquiet, .inl
              ⟨(kind_of_facing hmiddle).trans hcomma, symbols, hsymbols, rfl⟩⟩⟩, hnext⟩

theorem parameters_yield (hchecks : settings.checks = false) {closing : Token}
    (hclose : closing.kind = .closeParen) (hparams : IsParams ts)
    (hcursor : state.cursor = cursor.facing (ts ++ closing :: rest)) :
    ∃ symbols next, Quiet parameters settings state symbols next ∧
      next.cursor = cursor.facing (closing :: rest) := by
  cases hparams with
  | none =>
      have hkind := (kind_of_facing hcursor).trans hclose
      exact ⟨[], state, quiet_parameters.2 (.inl ⟨hkind, rfl, rfl⟩), hcursor⟩
  | void hword =>
      have hkind := (kind_of_facing hcursor).trans hword
      have hadvanced := advanced_of_facing hcursor
      have hbase : Ty.ofSpecifier? state.cursor.kind = some .void := by
        rw [hkind]
        rfl
      refine ⟨[], state.advanced, quiet_parameters.2 (.inr ⟨?_, quiet_parametersFrom_succ.2
        ⟨.void, hbase, .inl ⟨rfl, rfl, (kind_of_facing hadvanced).trans hclose, rfl, rfl⟩⟩⟩),
        hadvanced⟩
      rw [hkind]
      decide
  | @some parts _ hne hparts hseparated =>
      cases parts with
      | nil => contradiction
      | cons first others =>
          have hcount := hseparated.length_le
          rw [List.length_cons] at hcount
          have hbudget : others.length < state.cursor.remaining + 1 := by
            rw [hcursor, Cursor.facing_remaining, List.length_append]
            omega
          obtain ⟨symbols, next, hquiet, hnext⟩ :=
            parametersFrom_yields hchecks true hclose hbudget hparts hseparated hcursor
          refine ⟨symbols, next, quiet_parameters.2 (.inr ⟨?_, hquiet⟩), hnext⟩
          obtain ⟨base, hbase, -⟩ := quiet_parametersFrom_succ.1 hquiet
          intro hkind
          rw [hkind] at hbase
          contradiction

/-! ## Functions and programs -/

theorem function_yields (hchecks : settings.checks = false) (returns : Ty) (name : Token)
    (start : Position) {opening closing openCurly closeCurly : Token} {params : List Token}
    {body : List (List Token)} (hopen : opening.kind = .openParen) (hparams : IsParams params)
    (hclose : closing.kind = .closeParen) (hopenCurly : openCurly.kind = .openCurly)
    (hbody : ∀ part ∈ body, IsStmt part) (hcloseCurly : closeCurly.kind = .closeCurly)
    (hcursor : state.cursor = cursor.facing
      (opening :: (params ++ closing :: openCurly :: (body.flatten ++ closeCurly :: rest)))) :
    ∃ result next, Quiet (function returns name start) settings state result next ∧
      next.cursor = cursor.facing rest := by
  let inner := { state.advanced with symbols := state.symbols.enterScope }
  have hinner : inner.cursor = state.advanced.cursor := rfl
  obtain ⟨symbols, listed, hlisted, hlistedCursor⟩ :=
    parameters_yield hchecks hclose hparams (hinner.trans (advanced_of_facing hcursor))
  obtain ⟨declared, hdeclares⟩ := declares_unchecked hchecks
    (listed.symbols.declareGlobal
      (.function name.text { returns := returns, params := symbols.map Symbol.ty }))
    listed.advanced
  have hdeclared := hdeclares.cursor_eq.trans (advanced_of_facing hlistedCursor)
  have hbodyCursor : (declared.inBody name.text returns).cursor = declared.cursor := rfl
  have hsize : body.flatten.length ≤ declared.cursor.remaining + 1 := by
    rw [hdeclared, Cursor.facing_remaining, List.length_cons, List.length_append]
    omega
  obtain ⟨block, last, hblock, hlast⟩ :=
    block_yields (stmtWithin_yields hchecks _) hopenCurly hcloseCurly hbody hsize
      (hbodyCursor.trans hdeclared)
  exact ⟨_, _, quiet_function.2 ⟨(kind_of_facing hcursor).trans hopen, last,
    quiet_functionRest.2 ⟨symbols, listed, declared, block, hlisted,
      (kind_of_facing hlistedCursor).trans hclose, hdeclares, hblock, rfl⟩, rfl⟩, hlast⟩

theorem external_yields (hchecks : settings.checks = false)
    (hpart : IsDecl ts ∨ IsFunction ts)
    (hcursor : state.cursor = cursor.facing (ts ++ rest)) :
    ∃ result next, Quiet external settings state result next ∧
      next.cursor = cursor.facing rest := by
  rcases hpart with hdecl | hfunction
  · cases hdecl with
    | intro hword hname hbounds hinitializer hend =>
        simp only [List.cons_append, List.append_assoc, List.nil_append] at hcursor
        have hadvanced := advanced_of_facing hcursor
        have hafter := advanced_of_facing hadvanced
        obtain ⟨base, array, hbase, -, -, -⟩ := hword.specifier
        obtain ⟨result, next, hquiet, hnext⟩ := declarator_yields hchecks hword hbase
          state.advanced.cursor.current state.cursor.current.span.start hbounds hinitializer hend
          hafter
        rw [← kind_of_facing hcursor] at hbase
        refine ⟨_, next, quiet_external.2 ⟨base, hbase, (kind_of_facing hadvanced).trans hname,
          .inr ⟨?_, result, hquiet, rfl⟩⟩, hnext⟩
        rw [hafter]
        cases hbounds with
        | none => exact hinitializer.kind_ne hend (by decide) (by decide)
        | unsized hopen => rw [List.cons_append, Cursor.facing_cons_kind, hopen]; decide
        | sized hopen => rw [List.cons_append, Cursor.facing_cons_kind, hopen]; decide
  · cases hfunction with
    | intro hword hname hopen hparams hclose hopenCurly hbody hcloseCurly =>
        simp only [List.cons_append, List.append_assoc, List.nil_append] at hcursor
        have hadvanced := advanced_of_facing hcursor
        have hafter := advanced_of_facing hadvanced
        obtain ⟨base, hbase⟩ := Option.isSome_iff_exists.1 hword
        obtain ⟨result, next, hquiet, hnext⟩ := function_yields hchecks base
          state.advanced.cursor.current state.cursor.current.span.start hopen hparams hclose
          hopenCurly hbody hcloseCurly hafter
        rw [← kind_of_facing hcursor] at hbase
        exact ⟨_, next, quiet_external.2 ⟨base, hbase, (kind_of_facing hadvanced).trans hname,
          .inl ⟨(kind_of_facing hafter).trans hopen, result, hquiet, rfl⟩⟩, hnext⟩

theorem external_length_pos (hpart : IsDecl ts ∨ IsFunction ts) : 0 < ts.length := by
  rcases hpart with hdecl | hfunction
  · cases hdecl
    exact Nat.succ_pos _
  · cases hfunction
    exact Nat.succ_pos _

theorem externals_yield (hchecks : settings.checks = false) {parts : List (List Token)}
    {budget : Nat} (hparts : ∀ part ∈ parts, IsDecl part ∨ IsFunction part)
    (hbudget : parts.flatten.length ≤ budget)
    (hcursor : state.cursor = cursor.facing parts.flatten) :
    ∃ found next, Quiet (externals budget) settings state found next := by
  induction parts generalizing state budget with
  | nil =>
      cases budget with
      | zero => exact ⟨[], state, quiet_externals_zero.2 ⟨rfl, rfl⟩⟩
      | succ budget =>
          have hend : state.cursor.kind = .eof := by
            rw [hcursor]
            exact cursor.last_kind
          exact ⟨[], state, quiet_externals_succ.2 (.inl ⟨hend, rfl, rfl⟩)⟩
  | cons part parts ih =>
      rw [List.flatten_cons, List.length_append] at hbudget
      rw [List.flatten_cons] at hcursor
      have hpart := hparts part List.mem_cons_self
      have hpositive := external_length_pos hpart
      obtain ⟨budget, rfl⟩ : ∃ smaller, budget = smaller + 1 := ⟨budget - 1, by omega⟩
      obtain ⟨first, middle, hfirst, hmiddle⟩ := external_yields hchecks hpart hcursor
      have hbudget : parts.flatten.length ≤ budget := by omega
      obtain ⟨others, next, hothers⟩ :=
        ih (fun other hmem => hparts other (List.mem_cons_of_mem _ hmem)) hbudget hmiddle
      obtain ⟨base, hbase, -⟩ := quiet_external.1 hfirst
      exact ⟨first :: others, next, quiet_externals_succ.2 (.inr ⟨specifier_ne_eof hbase, first,
        middle, others, hfirst, hothers, rfl⟩)⟩

end Parse

open Parse

theorem isProgram_iff {body : List Token} {last : Token} (hlast : last.kind = .eof) :
    IsProgram (body ++ [last]) ↔
      ∃ parts : List (List Token), (∀ part ∈ parts, IsDecl part ∨ IsFunction part) ∧
        body = parts.flatten := by
  constructor
  · intro hprogram
    generalize htokens : body ++ [last] = tokens at hprogram
    cases hprogram with
    | intro hparts _ =>
        obtain ⟨hbody, -⟩ := List.append_inj' htokens rfl
        exact ⟨_, hparts, hbody⟩
  · rintro ⟨parts, hparts, rfl⟩
    exact .intro hparts hlast

/-- Without checks, the tokens up to the end of input are accepted, with nothing
reported, just if they are a program of the grammar. -/
theorem parse_accepts_iff {settings : Settings} {body : List Token} {last : Token}
    (hchecks : settings.checks = false) (hbody : ∀ token ∈ body, token.kind ≠ .eof)
    (hlast : last.kind = .eof) :
    (∃ program state, parse settings (body ++ [last]) = (.ok program, state) ∧
        state.journal.diagnostics = #[]) ↔
      IsProgram (body ++ [last]) := by
  have hahead : (ParseState.started settings (body ++ [last])).cursor.ahead = body :=
    Cursor.ofTokens_ahead hlast settings.file
  rw [isProgram_iff hlast]
  constructor
  · rintro ⟨program, state, hparse, hclean⟩
    obtain ⟨next, hquiet⟩ := parse_clean_iff.1 ⟨program, state, hparse, hclean, rfl⟩
    obtain ⟨parts, hparts, hflatten, -⟩ :=
      externals_read (Nat.le_refl _) (by rw [hahead]; exact hbody) hquiet
    exact ⟨parts, hparts, hahead.symm.trans hflatten⟩
  · rintro ⟨parts, hparts, rfl⟩
    obtain ⟨found, next, hquiet⟩ := externals_yield hchecks hparts
      (Nat.le_of_eq (congrArg List.length hahead.symm)) (Cursor.eq_facing hahead)
    obtain ⟨program, state, hparse, hclean, -⟩ := parse_clean_iff.2 ⟨next, hquiet⟩
    exact ⟨program, state, hparse, hclean⟩

/-- The tokens of `void f() { if (f) if (f) ; else ; }`, whose `else` could belong to
either `if`, are accepted. -/
theorem parse_accepts_nested_conditional :
    ∃ program state,
      parse { file := "f.c", checks := false }
          ([.voidWord, .identifier, .openParen, .closeParen, .openCurly, .ifWord, .openParen,
              .identifier, .closeParen, .ifWord, .openParen, .identifier, .closeParen, .semicolon,
              .elseWord, .semicolon, .closeCurly].map (Token.unplaced · "f") ++
            [.unplaced .eof "EOF"]) =
        (.ok program, state) ∧ state.journal.diagnostics = #[] := by
  refine (parse_accepts_iff rfl (by decide) rfl).2
    ((isProgram_iff rfl).2 ⟨[_], ?_, List.flatten_singleton.symm⟩)
  have htest : IsExpr [.unplaced .identifier "f"] := ⟨_, (Written.name rfl).loosen (Nat.zero_le _)⟩
  have hnull : IsStmt [.unplaced .semicolon "f"] := .simple (.null rfl)
  have hinner : IsStmt ([.ifWord, .openParen, .identifier, .closeParen, .semicolon, .elseWord,
      .semicolon].map (Token.unplaced · "f")) :=
    .alternative rfl rfl rfl rfl htest hnull hnull
  have houter : IsStmt ([.ifWord, .openParen, .identifier, .closeParen, .ifWord, .openParen,
      .identifier, .closeParen, .semicolon, .elseWord, .semicolon].map (Token.unplaced · "f")) :=
    .conditional rfl rfl rfl htest hinner
  have hbody : ∀ part ∈ [[.ifWord, .openParen, .identifier, .closeParen, .ifWord, .openParen,
      .identifier, .closeParen, .semicolon, .elseWord, .semicolon].map (Token.unplaced · "f")],
      IsStmt part := by
    intro part hpart
    rw [List.mem_singleton.1 hpart]
    exact houter
  have hword : (Ty.ofSpecifier? (Token.unplaced .voidWord "f").kind).isSome = true := rfl
  have hclose : (Token.unplaced .closeCurly "f").kind = .closeCurly := rfl
  have hfunction := IsFunction.intro hword (show (Token.unplaced .identifier "f").kind = _ from rfl)
    (show (Token.unplaced .openParen "f").kind = _ from rfl) .none
    (show (Token.unplaced .closeParen "f").kind = _ from rfl)
    (show (Token.unplaced .openCurly "f").kind = _ from rfl) hbody hclose
  intro part hpart
  rw [List.mem_singleton.1 hpart]
  exact .inr hfunction

end SubsetC
