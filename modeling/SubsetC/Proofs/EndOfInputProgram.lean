import SubsetC.Proofs.EndOfInput
import SubsetC.Proofs.QuietProgram
import SubsetC.Proofs.Recoveries

/-!
# The end of input in programs

Statements and programs are fair as well.  At the top every failure is either the end of
input or recovered from, so a program fails only where its input ends, and a program that
does not fail has read its input to the end.
-/

namespace SubsetC

theorem Cursor.ofTokens_last {body : List Token} {last : Token} (hlast : last.kind = .eof)
    (file : String) : (ofTokens (body ++ [last]) file).last = last := by
  unfold ofTokens
  rw [List.getLast?_concat]
  simp only
  rw [dif_pos hlast]

theorem ParseState.unended_ofTokens {body : List Token} {last : Token}
    (hbody : ∀ token ∈ body, token.kind ≠ .eof) (hlast : last.kind = .eof) (file : String) :
    (ofTokens (body ++ [last]) file).Unended where
  ahead token htoken := by
    have hahead : (ofTokens (body ++ [last]) file).cursor.ahead = body :=
      Cursor.ofTokens_ahead hlast file
    rw [hahead] at htoken
    exact hbody token htoken
  reports diagnostic hdiagnostic := by simp [ofTokens] at hdiagnostic

namespace Parse

variable {α β : Type} {settings : Settings} {state next : ParseState}

/-! ## Declarations -/

instance (expected : TokenKind) (expectation : Expectation) :
    Fair (expectFor expected expectation) := by
  unfold expectFor
  infer_instance

instance : Fair typeSpecifier := by
  unfold typeSpecifier
  apply Fair.bind inferInstance
  intro token
  split <;> infer_instance

instance (element : Ty) (position : Position) : Fair (arrayType element position) := by
  unfold arrayType
  split <;> infer_instance

instance (name : Token) (ty : Ty) : Fair (declareVariable name ty) := by
  constructor
  intro settings state hstate _
  cases hdeclare : state.symbols.declare (.variable name.text ty) with
  | ok symbols =>
      rw [declareVariable_declared hdeclare]
      exact ⟨⟨hstate.ahead, hstate.reports⟩, trivial⟩
  | error existing =>
      have hreport : Fair (do
          reportMisuse (.redeclaration name.text) name.span.start
          return Symbol.variable name.text ty) :=
        inferInstance
      rw [declareVariable_refused hdeclare]
      exact hreport.meets hstate trivial

instance (name : Token) (signature : Signature) : Fair (declareFunction name signature) := by
  constructor
  intro settings state hstate _
  cases hdeclare : state.symbols.declareGlobal (.function name.text signature) with
  | ok symbols =>
      rw [declareFunction_declared hdeclare]
      exact ⟨⟨hstate.ahead, hstate.reports⟩, trivial⟩
  | error existing =>
      have hreport : Fair (do
          reportMisuse (.redeclaration name.text) name.span.start
          return Symbol.function name.text signature) :=
        inferInstance
      rw [declareFunction_refused hdeclare]
      exact hreport.meets hstate trivial

instance (target : Ty) (value : Expr) (misuse : Ty → Ty → Misuse) (position : Position) :
    Fair (coerce target value misuse position) := by
  unfold coerce
  split
  · infer_instance
  · split <;> infer_instance

instance (base : Ty) (name : Token) : Fair (declaredType base name) := by
  unfold declaredType
  apply Fair.bind inferInstance
  intro bracketed
  split
  · apply Fair.bind inferInstance
    intro ty
    apply Fair.bind inferInstance
    intro found
    split
    · apply Fair.bind inferInstance
      intro token
      split <;> infer_instance
    · infer_instance
  · infer_instance

instance (ty : Ty) : Fair (initialValue ty) := by
  unfold initialValue
  infer_instance

instance (base : Ty) (name : Token) (start : Position) : Fair (declarator base name start) := by
  unfold declarator
  infer_instance

instance : Fair declaration := by
  unfold declaration
  infer_instance

instance (base : Ty) : Fair (parameter base) := by
  unfold parameter
  infer_instance

instance (isFirst : Bool) (budget : Nat) : Fair (parametersFrom isFirst budget) := by
  induction budget generalizing isFirst with
  | zero =>
      unfold parametersFrom
      infer_instance
  | succ budget ih =>
      unfold parametersFrom
      apply Fair.bind inferInstance
      intro base
      infer_instance

instance : Fair parameters := by
  unfold parameters
  infer_instance

/-! ## Statements -/

instance : Fair condition := by
  unfold condition
  infer_instance

instance : Fair returned := by
  unfold returned
  apply Fair.bind inferInstance
  intro word
  apply Fair.bind inferInstance
  intro state
  apply Fair.bind inferInstance
  intro value?
  cases value? <;> infer_instance

instance (name : Token) : Fair (beginning name) := by
  unfold beginning
  apply Fair.bind inferInstance
  intro symbol
  apply Fair.bind inferInstance
  intro found
  split
  · apply Fair.bind inferInstance
    intro accepted
    split
    · rw [withExpr_subscript]
      apply Fair.recovering
      · intro target
        infer_instance
      · intro failure
        exact (recoverPast_meets _ failure).bind fun _ => .of_fair
    · infer_instance
  · infer_instance

instance (target : Handoff) (value : Expr) (position : Position) (span : Span) :
    Fair (assignment target value position span) := by
  unfold assignment
  cases target <;> infer_instance

instance : Fair namedStmt := by
  unfold namedStmt
  apply Fair.bind inferInstance
  intro name
  apply Fair.bind inferInstance
  intro handoff
  infer_instance

instance : Fair evaluated := by
  unfold evaluated
  infer_instance

theorem recoverStmt_meets (failure : Failure) :
    Meets failure.Justified (recoverStmt failure) fun _ _ => True := by
  unfold recoverStmt
  exact (recoverPast_meets _ failure).bind fun _ => .of_fair

/-- Changes of the names in scope are of no concern. -/
theorem Fair.bracket {parse : Parse α} [hparse : Fair parse]
    {before after : ParseState → ParseState}
    (hbefore : ∀ state : ParseState, state.Unended → (before state).Unended)
    (hafter : ∀ state : ParseState, state.Unended → (after state).Unended)
    (hcursor : ∀ state, (after state).cursor = state.cursor) :
    Fair (bracket before after parse) where
  meets := by
    intro settings state hstate _
    have hrun := hparse.meets.run settings (hbefore state hstate) trivial
    unfold Parse.bracket
    cases hparsed : parse settings (before state) with
    | ok value next =>
        rw [hparsed] at hrun
        exact ⟨hafter next hrun.1, trivial⟩
    | error failure next =>
        rw [hparsed] at hrun
        refine ⟨hafter next hrun.1, ?_⟩
        unfold Failure.Justified
        rw [hcursor]
        exact hrun.2

/-- Whenever a parse succeeds that consumes, one round less is left to go. -/
theorem Meets.consumed {parse : Parse α} [hparse : Fair parse] (hconsumes : Consumes parse)
    (budget : Nat) :
    Meets (fun state => state.cursor.remaining ≤ budget + 1) parse
      fun _ state => state.cursor.remaining ≤ budget := by
  intro settings state hstate hbudget
  have hmeets := hparse.meets.run settings hstate trivial
  cases hrun : parse settings state with
  | ok value next =>
      have hlt := hconsumes hrun
      rw [hrun] at hmeets
      exact ⟨hmeets.1, by omega⟩
  | error failure next =>
      rw [hrun] at hmeets
      exact hmeets

section Nested

variable (stmt : Parse Stmt) [Fair stmt] [Respects MovesOn stmt]

omit [Respects MovesOn stmt] in
instance : Fair (stmtRound stmt) := by
  unfold stmtRound
  apply Fair.recovering
  · intro found
    exact (inferInstance : Fair (pure found : Parse Stmt))
  · exact recoverStmt_meets

/-- The statements of a block run out of tokens before they run out of rounds. -/
theorem stmtsUntilClose_meets (hconsumes : Consumes stmt) (budget : Nat) :
    Meets (fun state => state.cursor.remaining ≤ budget) (stmtsUntilClose stmt budget)
      fun _ _ => True := by
  induction budget with
  | zero =>
      intro settings state hstate hbudget
      have hkind : state.cursor.kind = .eof := kind_eq_eof (Nat.le_zero.1 hbudget)
      rw [stmtsUntilClose_at_end hkind]
      exact ⟨hstate, hstate.justified hkind⟩
  | succ budget ih =>
      have hround := Meets.consumed (stmtRound_consumes hconsumes) budget
      have hrest : Meets (fun state => state.cursor.remaining ≤ budget + 1)
          (do
            let first ← stmtRound stmt
            let others ← stmtsUntilClose stmt budget
            return first :: others) fun _ _ => True :=
        hround.bind fun _ => ih.bind fun _ => .of_fair
      rw [stmtsUntilClose_succ]
      apply Meets.kind.bind
      intro found
      split
      · exact .pure fun _ _ => trivial
      · exact .endOfInput fun _ hfound => hfound.1
      · exact hrest.of_before fun _ hfound => hfound.2

theorem block_fair (hconsumes : Consumes stmt) : Fair (block stmt) := by
  unfold block
  apply Fair.bind inferInstance
  intro opening
  constructor
  intro settings state hstate _
  rw [bind_of_ok remaining_run]
  have hbody := (stmtsUntilClose_meets stmt hconsumes (state.cursor.remaining + 1)).bind
    fun body => (inferInstance : Fair (do
      let closing ← expect .closeCurly
      return ({ body := body, span := opening.span.through closing.span } : Block))).meets
  exact hbody hstate (Nat.le_succ _)

omit [Respects MovesOn stmt] in
instance : Fair (conditional stmt) := by
  unfold conditional
  apply Fair.bind inferInstance
  intro word
  apply Fair.bind inferInstance
  intro test
  infer_instance

omit [Respects MovesOn stmt] in
instance : Fair (whileLoop stmt) := by
  unfold whileLoop
  infer_instance

theorem stmtWith_fair (hconsumes : Consumes stmt) : Fair (stmtWith stmt) := by
  have hblock := block_fair stmt hconsumes
  have hscope : Fair (inScope (block stmt)) :=
    .bracket (fun _ hstate => ⟨hstate.ahead, hstate.reports⟩)
      (fun _ hstate => ⟨hstate.ahead, hstate.reports⟩) fun _ => rfl
  unfold stmtWith
  apply Fair.bind inferInstance
  intro found
  split <;> infer_instance

end Nested

/-- Statements that nest no deeper than the budget, with what is run in place of deeper ones. -/
def stmtFrom (base : Parse Stmt) : Nat → Parse Stmt
  | 0 => base
  | budget + 1 => stmtWith (stmtFrom base budget)

theorem stmtWithin_agree_stmtFrom (base : Parse Stmt) (budget : Nat) :
    AgreeBelow budget (stmtWithin budget) (stmtFrom base budget) := by
  induction budget with
  | zero =>
      intro settings state hstate
      omega
  | succ budget ih => exact stmtWith_agree ih (stmtWithin_consumes budget)

/-- As for expressions, the budget of a statement is never used up. -/
instance : Fair stmt := by
  have hfrom (budget : Nat) :
      Fair (stmtFrom evaluated budget) ∧ Respects MovesOn (stmtFrom evaluated budget) ∧
        Consumes (stmtFrom evaluated budget) := by
    induction budget with
    | zero => exact ⟨inferInstanceAs (Fair evaluated), inferInstanceAs (Respects _ evaluated),
        evaluated_consumes⟩
    | succ budget ih =>
        obtain ⟨hfair, hmoves, hconsumes⟩ := ih
        exact ⟨stmtWith_fair _ hconsumes, inferInstanceAs (Respects _ (stmtWith _)),
          stmtWith_consumes _⟩
  apply Fair.of_agree fun _ state => stmtFrom evaluated (state.cursor.remaining + 1)
  · intro settings state
    exact stmtWithin_agree_stmtFrom _ _ (Nat.lt_succ_self _)
  · intro settings state
    exact (hfrom _).1

/-! ## Functions -/

instance (ty? : Option Ty) : Fair (setReturnType ty?) := by
  apply Fair.of_run (fun _ _ => rfl)
  intro settings state hstate
  exact ⟨hstate.ahead, hstate.reports⟩

instance (returns : Ty) : Fair (functionBody returns) := by
  have hblock := block_fair stmt stmt_consumes
  rw [functionBody_eq]
  infer_instance

instance (returns : Ty) (name : Token) (start : Position) :
    Fair (functionRest returns name start) := by
  unfold functionRest
  infer_instance

instance (returns : Ty) (name : Token) (start : Position) :
    Fair (function returns name start) := by
  unfold function
  apply Fair.bind inferInstance
  intro opening
  apply Fair.bracket
  · intro state hstate
    exact ⟨hstate.ahead, hstate.reports⟩
  · intro state hstate
    exact ⟨hstate.ahead, hstate.reports⟩
  · intro state
    rfl

instance : Fair external := by
  unfold external
  apply Fair.bind inferInstance
  intro start
  apply Fair.bind inferInstance
  intro base
  infer_instance

instance : Fair externalRound := by
  unfold externalRound
  apply Fair.recovering
  · intro found
    exact (inferInstance : Fair (pure (some found) : Parse (Option External)))
  · intro failure
    exact (recoverPast_meets _ failure).bind fun _ => .of_fair

/-! ## Programs -/

/-- A program that is read has been read to the end. -/
theorem externals_meets (budget : Nat) :
    Meets (fun state => state.cursor.remaining ≤ budget) (externals budget)
      fun _ state => state.cursor.kind = .eof := by
  induction budget with
  | zero =>
      intro settings state hstate hbudget
      exact ⟨hstate, kind_eq_eof (Nat.le_zero.1 hbudget)⟩
  | succ budget ih =>
      have hround := Meets.consumed externalRound_consumes budget
      have hrest : Meets (fun state => state.cursor.remaining ≤ budget + 1)
          (do
            let found? ← externalRound
            let others ← externals budget
            return found?.toList ++ others) fun _ state => state.cursor.kind = .eof :=
        hround.bind fun _ => ih.bind fun _ => .pure fun _ hkind => hkind
      intro settings state hstate hbudget
      rw [externals_succ, bind_of_ok hasTokens_run]
      by_cases hkind : state.cursor.kind = .eof
      · rw [if_neg (by simp [hkind])]
        exact ⟨hstate, hkind⟩
      · rw [if_pos (by simp [hkind])]
        exact hrest hstate hbudget

theorem resynchronize_error {target : TokenKind} {failure : Failure}
    (hrun : resynchronize target settings state = .error failure next) :
    failure.fault = .endOfInput := by
  unfold resynchronize at hrun
  rw [bind_of_ok position_run, bind_of_ok (note_run _)] at hrun
  obtain hfailed | ⟨_, middle, -, hrun⟩ := bind_eq_error.1 hrun
  · contradiction
  · rw [bind_of_ok kind_run] at hrun
    by_cases hend : middle.cursor.kind = .eof ∧ target ≠ .eof
    · rw [if_pos hend, bind_of_ok position_run] at hrun
      cases hrun
      rfl
    · rw [if_neg hend] at hrun
      contradiction

theorem recoverPast_error {delimiter : TokenKind} {failure other : Failure}
    (hrun : recoverPast delimiter failure settings state = .error other next) :
    other.fault = .endOfInput := by
  unfold recoverPast at hrun
  by_cases hend : failure.isEndOfInput
  · rw [if_pos hend] at hrun
    cases hrun
    simpa [Failure.isEndOfInput] using hend
  · rw [if_neg hend] at hrun
    unfold reportFailure at hrun
    rw [bind_of_ok (record_run _)] at hrun
    unfold skipPast at hrun
    obtain hfailed | ⟨_, middle, -, hadvance⟩ := bind_eq_error.1 hrun
    · exact resynchronize_error hfailed
    · contradiction

theorem externalRound_error {failure : Failure}
    (hrun : externalRound settings state = .error failure next) :
    failure.fault = .endOfInput := by
  unfold externalRound at hrun
  obtain hfailed | ⟨result, middle, -, hrun⟩ := bind_eq_error.1 hrun
  · unfold attempt at hfailed
    cases hexternal : external settings state <;> rw [hexternal] at hfailed <;> contradiction
  · cases result with
    | ok found => contradiction
    | error caught =>
        obtain hfailed | ⟨_, _, -, hrun⟩ := bind_eq_error.1 hrun
        · exact recoverPast_error hfailed
        · contradiction

/-- Nothing but the end of input ends a program early. -/
theorem externals_error {budget : Nat} {failure : Failure}
    (hrun : externals budget settings state = .error failure next) :
    failure.fault = .endOfInput := by
  induction budget generalizing state with
  | zero => contradiction
  | succ budget ih =>
      rw [externals_succ, bind_of_ok hasTokens_run] at hrun
      by_cases hkind : state.cursor.kind = .eof
      · rw [if_neg (by simp [hkind])] at hrun
        contradiction
      · rw [if_pos (by simp [hkind])] at hrun
        obtain hfailed | ⟨_, _, -, hrun⟩ := bind_eq_error.1 hrun
        · exact externalRound_error hfailed
        · obtain hfailed | ⟨_, _, -, hrun⟩ := bind_eq_error.1 hrun
          · exact ih hfailed
          · contradiction

theorem program_meets :
    Meets (fun _ => True) program fun _ state => state.cursor.kind = .eof := by
  intro settings state hstate _
  unfold program
  rw [bind_of_ok position_run, bind_of_ok remaining_run]
  have hexternals := (externals_meets state.cursor.remaining).run settings hstate (Nat.le_refl _)
  cases hrun : externals state.cursor.remaining settings state with
  | ok found middle =>
      rw [hrun] at hexternals
      rw [bind_of_ok hrun]
      exact ⟨⟨hexternals.1.ahead, hexternals.1.reports⟩, hexternals.2⟩
  | error failure middle =>
      rw [hrun] at hexternals
      rw [bind_of_error hrun]
      exact hexternals

theorem program_error {failure : Failure} (hrun : program settings state = .error failure next) :
    failure.fault = .endOfInput := by
  unfold program at hrun
  rw [bind_of_ok position_run, bind_of_ok remaining_run] at hrun
  obtain hfailed | ⟨found, middle, -, hrun⟩ := bind_eq_error.1 hrun
  · exact externals_error hfailed
  · contradiction

/-- A program is run between two notes in its journal. -/
theorem journaled_eq (settings : Settings) (state : ParseState) :
    journaled settings state =
      match program settings
        (state.noted (.started settings.file (state.cursor.remaining + 1))) with
      | .ok found next => .ok found (next.noted (.finished settings.file next.journal.size))
      | .error failure next =>
          .error failure (next.noted (.finished settings.file next.journal.size)) := by
  unfold journaled
  rw [bind_of_ok read_run, bind_of_ok remaining_run, bind_of_ok (note_run _)]
  cases hrun : program settings
    (state.noted (.started settings.file (state.cursor.remaining + 1))) with
  | ok found next =>
      rw [bind_of_ok (attempt_of_ok hrun)]
      rfl
  | error failure next =>
      rw [bind_of_ok (attempt_of_error hrun)]
      rfl

theorem journaled_meets :
    Meets (fun _ => True) journaled fun _ state => state.cursor.kind = .eof := by
  intro settings state hstate _
  have hnoted : (state.noted (.started settings.file (state.cursor.remaining + 1))).Unended :=
    ⟨hstate.ahead, hstate.reports⟩
  have hmeets := program_meets.run settings hnoted trivial
  rw [journaled_eq]
  cases hrun : program settings
    (state.noted (.started settings.file (state.cursor.remaining + 1))) with
  | ok found next =>
      rw [hrun] at hmeets
      exact ⟨⟨hmeets.1.ahead, hmeets.1.reports⟩, hmeets.2⟩
  | error failure next =>
      rw [hrun] at hmeets
      exact ⟨⟨hmeets.1.ahead, hmeets.1.reports⟩, hmeets.2⟩

theorem journaled_error {failure : Failure}
    (hrun : journaled settings state = .error failure next) : failure.fault = .endOfInput := by
  rw [journaled_eq] at hrun
  cases hprogram : program settings
    (state.noted (.started settings.file (state.cursor.remaining + 1))) with
  | ok found middle =>
      rw [hprogram] at hrun
      contradiction
  | error caught middle =>
      rw [hprogram] at hrun
      cases hrun
      exact program_error hprogram

end Parse

open Parse

/-- A program fails only because its input ends, where its input ends, and no input is left
behind a program, whether it fails or not.  The end of input is never reported, and what any
construct of the grammar catches is reported unless it is the end of input. -/
theorem parse_ends_at_end {settings : Settings} {body : List Token} {last : Token}
    (hbody : ∀ token ∈ body, token.kind ≠ .eof) (hlast : last.kind = .eof) :
    (∀ failure, (parse settings (body ++ [last])).1 = .error failure →
      failure = { fault := .endOfInput, position := last.span.start }) ∧
    (parse settings (body ++ [last])).2.cursor.ahead = [] ∧
    (parse settings (body ++ [last])).2.cursor.current = last ∧
    (∀ diagnostic ∈ (parse settings (body ++ [last])).2.journal.diagnostics.toList,
      diagnostic.cause ≠ .fault .endOfInput) ∧
    ∀ {α : Type} {catching : Parse α} {state failed : ParseState} {failure : Failure},
      Catches settings catching state failure failed →
      Handles catching settings state failure failed := by
  have hstart := ParseState.unended_ofTokens hbody hlast settings.file
  have hmeets := journaled_meets.run settings hstart trivial
  have hlastToken : (ParseState.ofTokens (body ++ [last]) settings.file).cursor.last = last :=
    Cursor.ofTokens_last hlast settings.file
  unfold parse run
  cases hrun : journaled settings (.ofTokens (body ++ [last]) settings.file) with
  | ok found next =>
      have hmoves : MovesOn _ next := Respects.ok hrun
      rw [hrun] at hmeets
      have hahead := hmeets.1.ahead_eq_nil hmeets.2
      refine ⟨by simp, hahead, ?_, hmeets.1.reports, Catches.handles⟩
      simp [Cursor.current, hahead, hmoves.2, hlastToken]
  | error failure next =>
      have hmoves : MovesOn _ next := Respects.error hrun
      rw [hrun] at hmeets
      have hfault := journaled_error hrun
      obtain ⟨hahead, hposition⟩ := hmeets.2 hfault
      rw [hmoves.2, hlastToken] at hposition
      refine ⟨?_, hahead, ?_, hmeets.1.reports, Catches.handles⟩
      · rintro caught ⟨⟩
        rw [← hfault, ← hposition]
      · simp [Cursor.current, hahead, hmoves.2, hlastToken]

/-- A function that is broken off in a subscript, after an assignment without its value. -/
def brokenOffText : String := "int f(int x) \x7b x = ; return x[2"

theorem brokenOffText_ends :
    ∃ body last, tokenize brokenOffText "f.c" = .ok (body ++ [last]) ∧
      (∀ token ∈ body, token.kind ≠ .eof) ∧ last.kind = .eof ∧
      (parse { file := "f.c" } (body ++ [last])).1 =
        .error { fault := .endOfInput, position := last.span.start } ∧
      (parse { file := "f.c" } (body ++ [last])).2.cursor.current = last ∧
      ∀ diagnostic ∈ (parse { file := "f.c" } (body ++ [last])).2.journal.diagnostics.toList,
        diagnostic.cause ≠ .fault .endOfInput := by
  have hreads : ((tokenize brokenOffText "f.c").toOption.any fun tokens => decide
      ((∀ token ∈ tokens.dropLast, token.kind ≠ .eof) ∧
        (parse { file := "f.c" } tokens).1.toOption.isNone = true)) = true := by
    decide +kernel
  obtain ⟨tokens, htokens, hbody, hfails⟩ := exists_tokens hreads
  obtain ⟨body, last, rfl, hlast, -⟩ := tokenize_scanned htokens
  rw [List.dropLast_concat] at hbody
  obtain ⟨hfailure, -, hcurrent, hreports, -⟩ :=
    @parse_ends_at_end { file := "f.c" } body last hbody hlast
  cases hrun : (parse { file := "f.c" } (body ++ [last])).1 with
  | ok program => simp [hrun, Except.toOption] at hfails
  | error failure =>
      rw [hfailure failure hrun] at hrun
      exact ⟨body, last, htokens, hbody, hlast, hrun, hcurrent, hreports⟩

end SubsetC
