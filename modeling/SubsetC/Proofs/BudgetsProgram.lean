import SubsetC.Proofs.Budgets

/-!
# Budgets of statements and programs

As whole expressions in an expression, so statements inside a statement are read behind a
token of it, and every round of a loop over parameters, statements or functions passes one.
The budgets with which the rules are called cover the tokens ahead, so no larger one would
change anything.
-/

namespace SubsetC.Parse

variable {α β : Type} {n : Nat}

theorem AgreeBelow.attempt_bind {parse other : Parse α}
    {continued rest : Except Failure α → Parse β} [Respects MovesOn parse]
    (hparse : AgreeBelow (n + 1) parse other) (hconsumes : Consumes parse)
    (hok : ∀ value, AgreeBelow n (continued (.ok value)) (rest (.ok value)))
    (herror : ∀ failure, AgreeBelow (n + 1) (continued (.error failure))
      (rest (.error failure))) :
    AgreeBelow (n + 1) (Parse.attempt parse >>= continued) (Parse.attempt other >>= rest) := by
  intro settings state hstate
  have hsame : parse settings state = other settings state := hparse hstate
  cases hrun : parse settings state with
  | ok value middle =>
      have hlt := hconsumes hrun
      have hother := attempt_of_ok (hsame.symm.trans hrun)
      rw [bind_of_ok (attempt_of_ok hrun), bind_of_ok hother]
      exact hok value (by omega)
  | error failure middle =>
      have hle := remaining_le_of_error hrun
      have hother := attempt_of_error (hsame.symm.trans hrun)
      rw [bind_of_ok (attempt_of_error hrun), bind_of_ok hother]
      exact herror failure (by omega)

/-! ## Parameters -/

theorem parametersFrom_agree {budget larger : Nat} (hbudget : n ≤ budget) (hlarger : n ≤ larger)
    (isFirst : Bool) :
    AgreeBelow n (parametersFrom isFirst budget) (parametersFrom isFirst larger) := by
  induction budget generalizing n larger isFirst with
  | zero =>
      intro settings state hstate
      omega
  | succ budget ih =>
      cases n with
      | zero =>
          intro settings state hstate
          omega
      | succ n =>
          obtain ⟨larger, rfl⟩ : ∃ rest, larger = rest + 1 := ⟨larger - 1, by omega⟩
          unfold parametersFrom
          apply AgreeBelow.after_consumed typeSpecifier_consumes
          intro base
          apply AgreeBelow.after
          intro found
          apply AgreeBelow.ite
          · exact .refl _ _
          · apply AgreeBelow.after
            intro symbol
            apply AgreeBelow.after
            intro more
            apply AgreeBelow.ite
            · apply (ih (by omega) (by omega) false).bind
              intro others
              exact .refl _ _
            · exact .refl _ _

/-! ## Statements -/

section Nested

variable {stmt other : Parse Stmt} [Respects MovesOn stmt]

omit [Respects MovesOn stmt] in
/-- At the end of input a block is left unclosed, whatever the budget. -/
theorem stmtsUntilClose_at_end {settings : Settings} {state : ParseState}
    (hkind : state.cursor.kind = .eof) (budget : Nat) :
    stmtsUntilClose stmt budget settings state =
      .error { fault := .endOfInput, position := state.cursor.current.span.start } state := by
  cases budget with
  | zero => rfl
  | succ budget =>
      unfold stmtsUntilClose
      rw [bind_of_ok kind_run, hkind]
      rfl

theorem stmtsUntilClose_agree (hstmt : AgreeBelow n stmt other) (hconsumes : Consumes stmt)
    {budget larger : Nat} (hbudget : n ≤ budget + 1) (hlarger : n ≤ larger + 1) :
    AgreeBelow n (stmtsUntilClose stmt budget) (stmtsUntilClose other larger) := by
  induction budget generalizing n larger with
  | zero =>
      intro settings state hstate
      have hkind : state.cursor.kind = .eof := kind_eq_eof (by omega)
      rw [stmtsUntilClose_at_end hkind, stmtsUntilClose_at_end hkind]
  | succ budget ih =>
      cases n with
      | zero =>
          intro settings state hstate
          omega
      | succ n =>
          cases larger with
          | zero =>
              intro settings state hstate
              have hkind : state.cursor.kind = .eof := kind_eq_eof (by omega)
              rw [stmtsUntilClose_at_end hkind, stmtsUntilClose_at_end hkind]
          | succ larger =>
              have hsmaller : AgreeBelow n stmt other := hstmt.mono (by omega)
              have hrest : AgreeBelow n (stmtsUntilClose stmt budget)
                  (stmtsUntilClose other larger) :=
                ih hsmaller (by omega) (by omega)
              unfold stmtsUntilClose
              apply AgreeBelow.after
              intro found
              split
              · exact .refl _ _
              · exact .refl _ _
              · apply hstmt.attempt_bind hconsumes
                · intro first
                  apply hrest.bind
                  intro others
                  exact .refl _ _
                · intro failure
                  apply AgreeBelow.after_consumed (recoverStmt_consumes failure)
                  intro first
                  apply hrest.bind
                  intro others
                  exact .refl _ _

theorem block_agree (hstmt : AgreeBelow n stmt other) (hconsumes : Consumes stmt) :
    AgreeBelow (n + 1) (block stmt) (block other) := by
  unfold block
  apply AgreeBelow.after_consumed (expect_consumes (by decide))
  intro opening
  apply AgreeBelow.remaining_bind
  intro count hcount
  apply (stmtsUntilClose_agree (hstmt.mono hcount) hconsumes (by omega) (by omega)).bind
  intro body
  exact .refl _ _

theorem conditional_agree (hstmt : AgreeBelow n stmt other) :
    AgreeBelow (n + 1) (conditional stmt) (conditional other) := by
  unfold conditional
  apply AgreeBelow.after
  intro word
  apply AgreeBelow.after_consumed condition_consumes
  intro test
  apply hstmt.bind
  intro accepted
  apply AgreeBelow.after
  intro otherwise
  apply AgreeBelow.ite
  · apply hstmt.bind
    intro rejected
    exact .refl _ _
  · exact .refl _ _

theorem whileLoop_agree (hstmt : AgreeBelow n stmt other) :
    AgreeBelow (n + 1) (whileLoop stmt) (whileLoop other) := by
  unfold whileLoop
  apply AgreeBelow.after
  intro word
  apply AgreeBelow.after_consumed condition_consumes
  intro test
  apply hstmt.bind
  intro body
  exact .refl _ _

/-- Every statement reads the statements inside it behind a token. -/
theorem stmtWith_agree (hstmt : AgreeBelow n stmt other) (hconsumes : Consumes stmt) :
    AgreeBelow (n + 1) (stmtWith stmt) (stmtWith other) := by
  unfold stmtWith
  apply AgreeBelow.after
  intro found
  split
  · apply AgreeBelow.map
    exact (block_agree hstmt hconsumes).bracket fun _ => rfl
  · exact conditional_agree hstmt
  · exact whileLoop_agree hstmt
  all_goals exact .refl _ _

end Nested

theorem stmtWithin_agree {budget larger : Nat} (hbudget : n ≤ budget) (hlarger : n ≤ larger) :
    AgreeBelow n (stmtWithin budget) (stmtWithin larger) := by
  induction budget generalizing n larger with
  | zero =>
      intro settings state hstate
      omega
  | succ budget ih =>
      cases n with
      | zero =>
          intro settings state hstate
          omega
      | succ n =>
          obtain ⟨larger, rfl⟩ : ∃ rest, larger = rest + 1 := ⟨larger - 1, by omega⟩
          have hstmt : AgreeBelow n (stmtWithin budget) (stmtWithin larger) :=
            ih (by omega) (by omega)
          exact stmtWith_agree hstmt (stmtWithin_consumes budget)

theorem stmtWithin_agree_stmt {budget : Nat} (hbudget : n ≤ budget) :
    AgreeBelow n (stmtWithin budget) stmt := by
  intro settings state hstate
  have hsame : AgreeBelow (state.cursor.remaining + 1) (stmtWithin budget)
      (stmtWithin (state.cursor.remaining + 1)) :=
    stmtWithin_agree (by omega) (by omega)
  exact hsame (Nat.lt_succ_self _)

/-- A statement is read by the rules with `stmt` itself for the statements inside. -/
theorem stmt_eq : stmt = stmtWith stmt := by
  funext settings state
  have hstmt := stmtWithin_agree_stmt (Nat.le_refl state.cursor.remaining)
  exact stmtWith_agree hstmt (stmtWithin_consumes _) (Nat.lt_succ_self _)

/-- The body of a function is a block of statements. -/
theorem functionBody_eq (returns : Ty) :
    functionBody returns = (do setReturnType (some returns); block stmt) := by
  funext settings state
  have hset : setReturnType (some returns) settings state =
      .ok ⟨⟩ { state with returnType? := some returns } := rfl
  unfold functionBody
  rw [bind_of_ok hset, bind_of_ok hset, bind_of_ok remaining_run]
  have hstmt := stmtWithin_agree_stmt (Nat.le_refl (state.cursor.remaining + 1))
  exact block_agree hstmt (stmtWithin_consumes _) (Nat.lt_succ_of_lt (Nat.lt_succ_self _))

/-! ## Programs -/

theorem hasTokens_at_end {settings : Settings} {state : ParseState}
    (hkind : state.cursor.kind = .eof) : hasTokens settings state = .ok false state := by
  rw [hasTokens_run, hkind]
  rfl

theorem externals_at_end {settings : Settings} {state : ParseState}
    (hkind : state.cursor.kind = .eof) (budget : Nat) :
    externals budget settings state = .ok [] state := by
  cases budget with
  | zero => rfl
  | succ budget =>
      unfold externals
      rw [bind_of_ok (hasTokens_at_end hkind)]
      rfl

theorem externals_agree {budget larger : Nat} (hbudget : n ≤ budget + 1)
    (hlarger : n ≤ larger + 1) : AgreeBelow n (externals budget) (externals larger) := by
  induction budget generalizing n larger with
  | zero =>
      intro settings state hstate
      have hkind : state.cursor.kind = .eof := kind_eq_eof (by omega)
      rw [externals_at_end hkind, externals_at_end hkind]
  | succ budget ih =>
      cases n with
      | zero =>
          intro settings state hstate
          omega
      | succ n =>
          cases larger with
          | zero =>
              intro settings state hstate
              have hkind : state.cursor.kind = .eof := kind_eq_eof (by omega)
              rw [externals_at_end hkind, externals_at_end hkind]
          | succ larger =>
              have hrest : AgreeBelow n (externals budget) (externals larger) :=
                ih (by omega) (by omega)
              unfold externals
              apply AgreeBelow.after
              intro more
              apply AgreeBelow.ite
              · apply (AgreeBelow.refl _ external).attempt_bind external_consumes
                · intro first
                  apply hrest.bind
                  intro others
                  exact .refl _ _
                · intro failure
                  apply AgreeBelow.after_consumed (recoverPast_consumes (by decide) failure)
                  intro _
                  exact hrest
              · exact .refl _ _

end SubsetC.Parse
