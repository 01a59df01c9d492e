import SubsetC.Proofs.CompleteStmt
import SubsetC.Proofs.FlatStmt
import SubsetC.Proofs.ShadowsProgram
import SubsetC.Proofs.SoundProgram

/-!
# Recovery in a block

A block of flat statements is read to its brace, whatever the statements are.  The parse of
one succeeds exactly if the grammar derives it.  Otherwise its failure is reported, and since
it is met before the semicolon, the recovery ends where the statement does.

That success is decided by the grammar alone is seen without checks, where a run is quiet.
With checks a run may report misuses, but it goes alike.
-/

namespace SubsetC

/-- The only statements that are flat have no other inside. -/
theorem IsFlat.isSimple {part : List Token} (hflat : IsFlat part) (hstmt : IsStmt part) :
    IsSimple part := by
  cases hstmt with
  | simple hsimple => exact hsimple
  | block hkind => exact absurd hkind (hflat.kind_ne rfl (by decide))
  | conditional hkind => exact absurd hkind (hflat.kind_ne rfl (by decide))
  | alternative hkind => exact absurd hkind (hflat.kind_ne rfl (by decide))
  | whileLoop hkind => exact absurd hkind (hflat.kind_ne rfl (by decide))

namespace Parse

variable {settings : Settings} {state next : ParseState} {part rest : List Token}

/-! ## One statement -/

theorem stmt_shadows (hchecks : settings.checks = true) : Shadows settings Stmt.relaxed stmt stmt :=
  remaining_shadows.bind fun _ => stmtWithin_shadows hchecks _

theorem stmt_reads : ReadsStmts stmt := by
  intro settings state result next hquiet
  have hrun : stmt settings state = stmtWithin (state.cursor.remaining + 1) settings state :=
    bind_of_ok remaining_run
  unfold Quiet at hquiet
  rw [hrun] at hquiet
  exact stmtWithin_reads _ hquiet

/-- Without checks a flat statement is read if the grammar derives it, and only then. -/
theorem stmt_succeeds_unchecked (hchecks : settings.checks = false) (hflat : IsFlat part)
    (hahead : state.cursor.ahead = part ++ rest) :
    (stmt.run settings state).1.isOk = true ↔ IsSimple part := by
  constructor
  · intro hok
    cases hrun : stmt settings state with
    | error failure next => simp [run, hrun, Except.isOk, Except.toBool] at hok
    | ok found next =>
        obtain ⟨hnext, hmild⟩ := stmt_closes.ok (hflat.enclosed hahead) hrun
        obtain ⟨ts, hreads, hstmt⟩ := stmt_reads (quiet_of_mild hmild hchecks hrun)
        have hparts : part ++ rest = ts ++ rest := by rw [← hahead, hreads, hnext]
        rw [List.append_cancel_right hparts] at hflat ⊢
        exact hflat.isSimple hstmt
  · intro hsimple
    obtain ⟨found, next, hquiet, -⟩ : ∃ found next,
        Quiet (stmtWith stmt) settings state found next ∧
          next.cursor = state.cursor.facing rest :=
      simple_yields hchecks hsimple (Cursor.eq_facing hahead)
    rw [stmt_eq, run_of_ok hquiet.1]
    rfl

theorem stmt_succeeds_iff (settings : Settings) (hflat : IsFlat part)
    (hahead : state.cursor.ahead = part ++ rest) :
    (stmt.run settings state).1.isOk = true ↔ IsSimple part := by
  have hmild : Mild settings state.bare (stmt.run settings state.bare).2 :=
    stmt_closes.mild (hflat.enclosed hahead)
  -- With checks or without, a flat statement is read alike.
  obtain ⟨other, hcursor, hsame⟩ := isOk_unchecked stmt_shadows hmild
  rw [← hcursor] at hahead
  rw [← hsame]
  exact stmt_succeeds_unchecked rfl hflat hahead

/-! ## The recovery -/

/-- An ordinary failure inside a flat statement is reported, and the statement is replaced. -/
theorem recoverStmt_inside (settings : Settings) {failure : Failure}
    (hordinary : failure.fault ≠ .endOfInput) (henclosed : state.Enclosed .statement rest) :
    ∃ span next, recoverStmt failure settings state = .ok (.null span) next ∧
      next.cursor.ahead = rest ∧
      next.journal.faults = state.journal.faults ++ [.ofFailure failure] := by
  obtain ⟨next, hrecover, hnext, hfaults⟩ := recoverPast_enclosed settings hordinary henclosed
  refine ⟨{ start := failure.position, stop := next.cursor.current.span.start }, next, ?_, hnext,
    hfaults⟩
  unfold recoverStmt
  refine (bind_of_ok hrecover).trans ?_
  rw [bind_of_ok position_run, pure_run]

/-! ## The statements of a block -/

/-- How one statement is read.  What the grammar derives is left to the parse of statements,
and gives no fault.  In place of anything else stands a null statement, and the failure of
that parse is the one fault. -/
inductive ReadsPart (settings : Settings) (part : List Token) (state : ParseState) :
    Stmt → ParseState → Prop
  | read {found : Stmt} {next : ParseState} : IsSimple part →
      stmt settings state = .ok found next → Reads state part next →
      next.journal.faults = state.journal.faults → ReadsPart settings part state found next
  | skip {failure : Failure} {failed next : ParseState} {span : Span} : ¬ IsSimple part →
      stmt settings state = .error failure failed →
      recoverStmt failure settings failed = .ok (.null span) next → Reads state part next →
      next.journal.faults = state.journal.faults ++ [.ofFailure failure] →
      ReadsPart settings part state (.null span) next

/-- Statements read one after the other. -/
inductive ReadsParts (settings : Settings) :
    List (List Token) → ParseState → List Stmt → ParseState → Prop
  | nil {state : ParseState} : ReadsParts settings [] state [] state
  | cons {part : List Token} {parts : List (List Token)} {first : Stmt} {others : List Stmt}
      {state middle next : ParseState} : ReadsPart settings part state first middle →
      ReadsParts settings parts middle others next →
      ReadsParts settings (part :: parts) state (first :: others) next

theorem ReadsPart.reads {found : Stmt} (hpart : ReadsPart settings part state found next) :
    Reads state part next := by
  cases hpart with
  | read _ _ hreads => exact hreads
  | skip _ _ _ hreads => exact hreads

open Classical in
theorem ReadsPart.faults_length {found : Stmt}
    (hpart : ReadsPart settings part state found next) :
    next.journal.faults.length =
      state.journal.faults.length + if IsSimple part then 0 else 1 := by
  cases hpart with
  | read hsimple _ _ hfaults => rw [hfaults, if_pos hsimple, Nat.add_zero]
  | skip hbroken _ _ _ hfaults =>
      rw [hfaults, if_neg hbroken, List.length_append, List.length_singleton]

namespace ReadsParts

variable {parts : List (List Token)} {found : List Stmt}

theorem length_eq (hparts : ReadsParts settings parts state found next) :
    found.length = parts.length := by
  induction hparts with
  | nil => rfl
  | cons _ _ ih => simp [ih]

theorem reads (hparts : ReadsParts settings parts state found next) :
    Reads state parts.flatten next := by
  induction hparts with
  | nil => exact .refl
  | cons hpart _ ih =>
      rw [List.flatten_cons]
      exact hpart.reads.trans ih

open Classical in
theorem faults_length (hparts : ReadsParts settings parts state found next) :
    next.journal.faults.length =
      state.journal.faults.length + parts.countP fun part => ¬ IsSimple part := by
  induction hparts with
  | nil => rfl
  | @cons part _ _ _ _ _ _ hpart _ ih =>
      rw [ih, hpart.faults_length]
      by_cases hsimple : IsSimple part
      · rw [if_pos hsimple, List.countP_cons_of_neg (by simpa using hsimple), Nat.add_zero]
      · rw [if_neg hsimple, List.countP_cons_of_pos (by simpa using hsimple)]
        omega

end ReadsParts

/-- A round of a block reads one flat statement, well formed or not. -/
theorem stmtRound_flat (settings : Settings) (hflat : IsFlat part)
    (hahead : state.cursor.ahead = part ++ rest) :
    ∃ found next, stmtRound stmt settings state = .ok found next ∧ next.cursor.ahead = rest ∧
      ReadsPart settings part state found next := by
  have henclosed := hflat.enclosed hahead
  have hsucceeds := stmt_succeeds_iff settings hflat hahead
  have hreads {next : ParseState} (hnext : next.cursor.ahead = rest) : Reads state part next := by
    unfold Reads
    rw [hahead, hnext]
  unfold stmtRound
  cases hrun : stmt settings state with
  | ok found next =>
      obtain ⟨hnext, hmild⟩ := stmt_closes.ok henclosed hrun
      have hsimple : IsSimple part := by
        apply hsucceeds.1
        rw [run_of_ok hrun]
        rfl
      exact ⟨found, next, bind_of_ok (attempt_of_ok hrun), hnext,
        .read hsimple hrun (hreads hnext) hmild.faults⟩
  | error failure failed =>
      obtain ⟨hfailed, hordinary, hmild⟩ := stmt_closes.error henclosed hrun
      obtain ⟨span, next, hrecover, hnext, hfaults⟩ :=
        recoverStmt_inside settings hordinary hfailed
      have hbroken : ¬ IsSimple part := by
        intro hsimple
        have hok := hsucceeds.2 hsimple
        simp [run, hrun, Except.isOk, Except.toBool] at hok
      rw [hmild.faults] at hfaults
      exact ⟨.null span, next, (bind_of_ok (attempt_of_error hrun)).trans hrecover, hnext,
        .skip hbroken hrun hrecover (hreads hnext) hfaults⟩

/-- By induction on the statements: each takes a token at least, so the budget lasts. -/
theorem stmtsUntilClose_flat (settings : Settings) {parts : List (List Token)}
    {closing : Token} (hparts : ∀ part ∈ parts, IsFlat part) (hclose : closing.kind = .closeCurly)
    (hahead : state.cursor.ahead = parts.flatten ++ closing :: rest) {budget : Nat}
    (hbudget : parts.flatten.length < budget) :
    ∃ found next, stmtsUntilClose stmt budget settings state = .ok found next ∧
      ReadsParts settings parts state found next := by
  induction parts generalizing state budget with
  | nil =>
      cases budget with
      | zero => omega
      | succ budget =>
          have hkind : state.cursor.kind = .closeCurly := by
            simp [Cursor.kind, Cursor.current, hahead, hclose]
          refine ⟨[], state, ?_, .nil⟩
          rw [stmtsUntilClose_succ, bind_of_ok kind_run, hkind]
          rfl
  | cons part parts ih =>
      have hflat := hparts part List.mem_cons_self
      rw [List.flatten_cons, List.append_assoc] at hahead
      have henclosed := hflat.enclosed hahead
      have hlength : 0 < part.length := by
        obtain ⟨body, semicolon, -, -, rfl⟩ := hflat
        simp
      rw [List.flatten_cons, List.length_append] at hbudget
      cases budget with
      | zero => omega
      | succ budget =>
          obtain ⟨first, middle, hround, hmiddle, hfirst⟩ :=
            stmtRound_flat settings hflat hahead
          have hothers : ∀ other ∈ parts, IsFlat other := by
            intro other hother
            exact hparts other (List.mem_cons_of_mem _ hother)
          have hless : parts.flatten.length < budget := by omega
          obtain ⟨others, next, hrun, hrest⟩ := ih hothers hmiddle hless
          refine ⟨first :: others, next, ?_, .cons hfirst hrest⟩
          apply run_eq_ok
          rw [stmtsUntilClose_succ, run_congr (bind_of_ok kind_run)]
          split
          · exact absurd ‹_› (henclosed.kind_ne rfl (by decide))
          · exact absurd ‹_› (henclosed.kind_ne rfl (by decide))
          · rw [run_congr (bind_of_ok hround), run_congr (bind_of_ok hrun), run_of_ok (pure_run _)]

end Parse

open Parse

open Classical in
/-- Recovery is confined to one statement.  A block of flat statements is read to its closing
brace with one statement for each, and for each that the grammar does not derive there is one
fault more. -/
theorem block_recovers_each {settings : Settings} {state : ParseState}
    {parts : List (List Token)} {opening closing : Token} {rest : List Token}
    (hopen : opening.kind = .openCurly) (hclose : closing.kind = .closeCurly)
    (hparts : ∀ part ∈ parts, IsFlat part)
    (hahead : state.cursor.ahead = opening :: (parts.flatten ++ closing :: rest)) :
    ∃ found last, block stmt settings state = .ok found last.advanced ∧
      last.advanced.cursor = state.cursor.facing rest ∧ found.body.length = parts.length ∧
      last.advanced.journal.faultCount =
        state.journal.faultCount + (parts.countP fun part => ¬ IsSimple part) ∧
      ReadsParts settings parts state.advanced found.body last := by
  have hkind : state.cursor.kind = .openCurly := by
    simp [Cursor.kind, Cursor.current, hahead, hopen]
  have hinner : state.advanced.cursor.ahead = parts.flatten ++ closing :: rest := by
    simp [Cursor.advance, hahead]
  have hbudget : parts.flatten.length < state.advanced.cursor.remaining + 1 := by
    rw [Cursor.remaining, hinner, List.length_append]
    omega
  obtain ⟨body, last, hrun, hreads⟩ :=
    stmtsUntilClose_flat settings hparts hclose hinner hbudget
  have hlast : last.cursor.ahead = closing :: rest := by
    have hread := hreads.reads
    unfold Reads at hread
    rw [hinner] at hread
    exact (List.append_cancel_left hread).symm
  have hlastKind : last.cursor.kind = .closeCurly := by
    simp [Cursor.kind, Cursor.current, hlast, hclose]
  have hblock : block stmt settings state = .ok
      { body := body, span := state.cursor.current.span.through last.cursor.current.span }
      last.advanced := by
    unfold block
    rw [bind_of_ok (expect_run hkind), bind_of_ok remaining_run, bind_of_ok hrun,
      bind_of_ok (expect_run hlastKind), pure_run]
  have hmoves : MovesOn state last.advanced := Respects.ok hblock
  refine ⟨_, last, hblock, ?_, hreads.length_eq, ?_, hreads⟩
  · exact Cursor.eq_facing_of_last (by simp [Cursor.advance, hlast]) hmoves.2
  · rw [Journal.faultCount_eq, Journal.faultCount_eq]
    exact hreads.faults_length

/-- Three statements of the language between three that fail at their second token, at an
operator and behind an address. -/
def brokenText : String := "\x7b int x = 'a'; int = 2; x = x * ; ; & x 1; return y; \x7d"

/-- The tokens between the braces that a text begins and ends with, up to each semicolon. -/
def statementParts (tokens : List Token) : List (List Token) :=
  tokens.tail.dropLast.dropLast.splitBy fun token _ => token.kind ≠ .semicolon

theorem brokenText_recovers :
    ∃ tokens opening closing found last, tokenize brokenText "f.c" = .ok tokens ∧
      opening.kind = .openCurly ∧ closing.kind = .closeCurly ∧
      (∀ part ∈ statementParts tokens, IsFlat part) ∧
      (ParseState.ofTokens tokens "f.c").cursor.ahead =
        opening :: ((statementParts tokens).flatten ++ closing :: []) ∧
      block stmt { file := "f.c" } (.ofTokens tokens "f.c") = .ok found last.advanced ∧
      last.advanced.cursor = (ParseState.ofTokens tokens "f.c").cursor.facing [] ∧
      found.body.length = 6 ∧ last.advanced.journal.faultCount = 3 ∧
      ReadsParts { file := "f.c" } (statementParts tokens)
        (ParseState.ofTokens tokens "f.c").advanced found.body last := by
  have hreads : ((tokenize brokenText "f.c").toOption.any fun tokens => decide
      ((∀ part ∈ statementParts tokens, IsFlat part) ∧ (statementParts tokens).length = 6 ∧
        (ParseState.ofTokens tokens "f.c").cursor.ahead = tokens.headI ::
          ((statementParts tokens).flatten ++ tokens.dropLast.getLastI :: []) ∧
        tokens.headI.kind = .openCurly ∧ tokens.dropLast.getLastI.kind = .closeCurly ∧
        ((block stmt).run { file := "f.c" } (.ofTokens tokens "f.c")).2.journal.faultCount =
          3)) = true := by
    decide +kernel
  obtain ⟨tokens, htokens, hparts, hlength, hahead, hopen, hclose, hfaults⟩ :=
    exists_tokens hreads
  obtain ⟨found, last, hrun, hnext, hbody, -, hread⟩ :=
    @block_recovers_each { file := "f.c" } _ _ _ _ [] hopen hclose hparts hahead
  rw [run_of_ok hrun] at hfaults
  rw [hlength] at hbody
  exact ⟨tokens, _, _, found, last, htokens, hopen, hclose, hparts, hahead, hrun, hnext, hbody,
    hfaults, hread⟩

end SubsetC
