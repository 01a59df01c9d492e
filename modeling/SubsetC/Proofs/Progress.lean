import SubsetC.Proofs.Quiet

/-!
# Progress

A parse consumes if it passes a token whenever it succeeds.  Statements, declarations and
functions consume, because each of them demands some token on every way through it, and so
does a recovery, which ends behind the delimiter that it looks for.

The tokens ahead are what every budget counts, so this is what the loops of the grammar need.
-/

namespace SubsetC.Parse

variable {α β : Type} {settings : Settings} {state next : ParseState}

theorem MovesOn.remaining_le (hmoves : MovesOn state next) :
    next.cursor.remaining ≤ state.cursor.remaining :=
  hmoves.1.length_le

theorem remaining_le {parse : Parse α} [Respects MovesOn parse] {value : α}
    (hrun : parse settings state = .ok value next) :
    next.cursor.remaining ≤ state.cursor.remaining :=
  MovesOn.remaining_le (Respects.ok hrun)

theorem remaining_le_of_error {parse : Parse α} [Respects MovesOn parse] {failure : Failure}
    (hrun : parse settings state = .error failure next) :
    next.cursor.remaining ≤ state.cursor.remaining :=
  MovesOn.remaining_le (Respects.error hrun)

theorem kind_eq_eof (hremaining : state.cursor.remaining = 0) : state.cursor.kind = .eof := by
  have hahead : state.cursor.ahead = [] := List.length_eq_zero_iff.1 hremaining
  simp [Cursor.kind, Cursor.current, hahead, state.cursor.last_kind]

/-! ## Parses that consume -/

/-- Whenever the parse succeeds, fewer tokens are ahead. -/
def Consumes (parse : Parse α) : Prop :=
  ∀ ⦃settings state value next⦄, parse settings state = .ok value next →
    next.cursor.remaining < state.cursor.remaining

namespace Consumes

variable {parse : Parse α} {continued : α → Parse β}

theorem throw (failure : Failure) : Consumes (throw failure : Parse α) := by
  intro settings state value next hrun
  simp at hrun

theorem failAt (fault : Fault) (position : Position) :
    Consumes (failAt fault position : Parse α) :=
  throw _

theorem bind_left [∀ value, Respects MovesOn (continued value)] (hparse : Consumes parse) :
    Consumes (parse >>= continued) := by
  intro settings state result next hrun
  obtain ⟨value, middle, hfirst, hsecond⟩ := bind_eq_ok.1 hrun
  have hlt := hparse hfirst
  have hle := remaining_le hsecond
  omega

theorem bind_right [Respects MovesOn parse] (hcontinued : ∀ value, Consumes (continued value)) :
    Consumes (parse >>= continued) := by
  intro settings state result next hrun
  obtain ⟨value, middle, hfirst, hsecond⟩ := bind_eq_ok.1 hrun
  have hle := remaining_le hfirst
  have hlt := hcontinued value hsecond
  omega

theorem map (f : α → β) (hparse : Consumes parse) : Consumes (f <$> parse) := by
  rw [map_eq_pure_bind]
  exact hparse.bind_left

theorem ite {condition : Prop} [Decidable condition] {accepted rejected : Parse α}
    (haccepted : Consumes accepted) (hrejected : Consumes rejected) :
    Consumes (if condition then accepted else rejected) := by
  split
  · exact haccepted
  · exact hrejected

theorem bracket {before after : ParseState → ParseState} (hparse : Consumes parse)
    (hbefore : ∀ state, (before state).cursor = state.cursor)
    (hafter : ∀ state, (after state).cursor = state.cursor) :
    Consumes (bracket before after parse) := by
  intro settings state value next hrun
  obtain ⟨middle, hparsed, rfl⟩ := bracket_eq_ok.1 hrun
  have hlt := hparse hparsed
  rwa [hbefore, ← hafter] at hlt

end Consumes

/-- A token that is not the end of input is passed. -/
theorem remaining_advanced_lt (hkind : state.cursor.kind ≠ .eof) :
    state.advanced.cursor.remaining < state.cursor.remaining :=
  Cursor.remaining_advance_lt hkind

theorem expectOr_consumes {expected : TokenKind} (hexpected : expected ≠ .eof)
    (failure : Failure) : Consumes (expectOr expected failure) := by
  intro settings state token next hrun
  by_cases hkind : state.cursor.kind = expected
  · rw [expectOr_run_of_eq hkind] at hrun
    cases hrun
    exact remaining_advanced_lt (hkind ▸ hexpected)
  · rw [expectOr_run_of_ne hkind] at hrun
    contradiction

theorem expect_consumes {expected : TokenKind} (hexpected : expected ≠ .eof) :
    Consumes (expect expected) := by
  unfold expect
  apply Consumes.bind_right
  intro token
  exact expectOr_consumes hexpected _

/-- A recovery that succeeds ends behind the delimiter. -/
theorem skipPast_consumes {target : TokenKind} (htarget : target ≠ .eof) :
    Consumes (skipPast target) := by
  intro settings state value next hrun
  unfold skipPast at hrun
  obtain ⟨_, found, hresynchronize, hadvance⟩ := bind_eq_ok.1 hrun
  have hle := remaining_le hresynchronize
  have hkind : found.cursor.kind ≠ .eof := by
    unfold resynchronize at hresynchronize
    obtain ⟨_, _, -, hresynchronize⟩ := bind_eq_ok.1 hresynchronize
    obtain ⟨_, _, -, hresynchronize⟩ := bind_eq_ok.1 hresynchronize
    obtain ⟨_, skipped, -, hresynchronize⟩ := bind_eq_ok.1 hresynchronize
    rw [bind_of_ok kind_run] at hresynchronize
    by_cases heof : skipped.cursor.kind = .eof
    · rw [if_pos ⟨heof, htarget⟩, bind_of_ok position_run, failAt_run] at hresynchronize
      contradiction
    · rw [if_neg (fun hend => heof hend.1)] at hresynchronize
      cases hresynchronize
      exact heof
  rw [bind_of_ok advance_run] at hadvance
  cases hadvance
  have hlt := remaining_advanced_lt hkind
  omega

theorem recoverPast_consumes {delimiter : TokenKind} (hdelimiter : delimiter ≠ .eof)
    (failure : Failure) : Consumes (recoverPast delimiter failure) := by
  unfold recoverPast
  apply Consumes.ite
  · exact .throw failure
  · apply Consumes.bind_right
    intro _
    exact skipPast_consumes hdelimiter

theorem recoverStmt_consumes (failure : Failure) : Consumes (recoverStmt failure) := by
  unfold recoverStmt
  exact (recoverPast_consumes (by decide) failure).bind_left

/-! ## Declarations -/

theorem typeSpecifier_consumes : Consumes typeSpecifier := by
  intro settings state ty next hrun
  unfold typeSpecifier at hrun
  rw [bind_of_ok current_run] at hrun
  cases hspecifier : Ty.ofSpecifier? state.cursor.current.kind with
  | none =>
      simp only [hspecifier, failAt_run] at hrun
      contradiction
  | some found =>
      simp only [hspecifier, bind_of_ok advance_run] at hrun
      cases hrun
      apply remaining_advanced_lt
      intro heof
      rw [show state.cursor.current.kind = .eof from heof] at hspecifier
      contradiction

theorem declaration_consumes : Consumes declaration := by
  unfold declaration
  apply Consumes.bind_right
  intro start
  exact typeSpecifier_consumes.bind_left

/-! ## Statements -/

theorem condition_consumes : Consumes condition := by
  unfold condition
  exact (expect_consumes (by decide)).bind_left

theorem returned_consumes : Consumes returned := by
  unfold returned
  apply Consumes.bind_right
  intro word
  apply Consumes.bind_right
  intro state
  apply Consumes.bind_right
  intro value?
  cases value? with
  | some value =>
      apply Consumes.bind_right
      intro value
      exact (expect_consumes (by decide)).bind_left
  | none =>
      apply Consumes.bind_right
      intro _
      exact (expect_consumes (by decide)).bind_left

theorem namedStmt_consumes : Consumes namedStmt := by
  unfold namedStmt
  apply Consumes.bind_right
  intro name
  apply Consumes.bind_right
  intro handoff
  apply Consumes.bind_right
  intro kind
  apply Consumes.ite
  · apply Consumes.bind_right
    intro sign
    apply Consumes.bind_right
    intro value
    exact (expect_consumes (by decide)).bind_left
  · apply Consumes.bind_right
    intro expr
    exact (expect_consumes (by decide)).bind_left

theorem evaluated_consumes : Consumes evaluated := by
  unfold evaluated
  apply Consumes.bind_right
  intro token
  apply Consumes.bind_right
  intro expr
  exact (expect_consumes (by decide)).bind_left

section Nested

variable (stmt : Parse Stmt) [Respects MovesOn stmt]

theorem block_consumes : Consumes (block stmt) := by
  unfold block
  exact (expect_consumes (by decide)).bind_left

theorem conditional_consumes : Consumes (conditional stmt) := by
  unfold conditional
  apply Consumes.bind_right
  intro word
  exact condition_consumes.bind_left

theorem whileLoop_consumes : Consumes (whileLoop stmt) := by
  unfold whileLoop
  apply Consumes.bind_right
  intro word
  exact condition_consumes.bind_left

theorem stmtWith_consumes : Consumes (stmtWith stmt) := by
  intro settings state found next hrun
  unfold stmtWith at hrun
  rw [bind_of_ok kind_run] at hrun
  generalize hkind : state.cursor.kind = first at hrun
  split at hrun
  · have hblock : Consumes (inScope (block stmt)) :=
      (block_consumes stmt).bracket (fun _ => rfl) fun _ => rfl
    exact hblock.map _ hrun
  · exact conditional_consumes stmt hrun
  · exact whileLoop_consumes stmt hrun
  · exact returned_consumes hrun
  · -- A lone semicolon is the one statement that is passed without being demanded.
    rw [bind_of_ok advance_run] at hrun
    cases hrun
    apply remaining_advanced_lt
    rw [hkind]
    decide
  · exact namedStmt_consumes hrun
  · exact declaration_consumes.map _ hrun
  · exact declaration_consumes.map _ hrun
  · exact declaration_consumes.map _ hrun
  · exact evaluated_consumes hrun

end Nested

theorem stmtWithin_consumes (budget : Nat) : Consumes (stmtWithin budget) := by
  cases budget with
  | zero =>
      unfold stmtWithin
      apply Consumes.bind_right
      intro start
      exact .failAt _ _
  | succ budget => exact stmtWith_consumes (stmtWithin budget)

theorem stmt_consumes : Consumes stmt := by
  unfold Parse.stmt
  apply Consumes.bind_right
  intro count
  exact stmtWithin_consumes _

theorem external_consumes : Consumes external := by
  unfold external
  apply Consumes.bind_right
  intro start
  exact typeSpecifier_consumes.bind_left

end SubsetC.Parse
