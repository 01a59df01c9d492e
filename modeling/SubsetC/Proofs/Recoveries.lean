import SubsetC.Proofs.Reports
import SubsetC.Proofs.Termination

/-!
# Recoveries

Five rules catch the failures of what they run: a subscript, also at the beginning of a
statement, the arguments of a call, a round of a block and a round of a program.  What they
catch is not lost.  The end of input fails the rule again, and any other failure becomes a
diagnostic, whether or not the recovery finds its place afterwards.
-/

namespace SubsetC.Parse

variable {α β : Type} {settings : Settings} {state failed : ParseState} {failure : Failure}

/-- Run on a state, a rule catches a failure that leaves a given state. -/
inductive Catches (settings : Settings) :
    {α : Type} → Parse α → ParseState → Failure → ParseState → Prop
  | stmt {inner : Parse Stmt} {state failed : ParseState} {failure : Failure} :
      inner settings state = .error failure failed →
      Catches settings (stmtRound inner) state failure failed
  | external {state failed : ParseState} {failure : Failure} :
      external settings state = .error failure failed →
      Catches settings externalRound state failure failed
  | element {array : Symbol} {span : Span} {state failed : ParseState} {failure : Failure} :
      acceptsSubscript array settings state = .ok true state →
      subscript expr array span settings state = .error failure failed →
      Catches settings (element expr array span) state failure failed
  | beginning {name : Token} {symbol : Symbol} {state resolved failed : ParseState}
      {failure : Failure} :
      resolve name.text name.span.start settings state = .ok symbol resolved →
      resolved.cursor.kind = .openBracket →
      acceptsSubscript symbol settings resolved = .ok true resolved →
      subscript expr symbol name.span settings resolved = .error failure failed →
      Catches settings (beginning name) state failure failed
  | call {callee : Symbol} {span : Span} {opening : Token} {values : List Expr}
      {state marked entered failed : ParseState} {failure : Failure} :
      noteCallee callee settings state = .ok ⟨⟩ marked →
      expect .openParen settings marked = .ok opening entered →
      arguments expr (.ofCallee settings.checks callee) callee settings entered =
        .ok (values, .error failure) failed →
      Catches settings (checkedCall expr callee span) state failure failed

/-- The failure is that of the whole run if the input ended, and reported otherwise. -/
def Handles (parse : Parse α) (settings : Settings) (state : ParseState) (failure : Failure)
    (failed : ParseState) : Prop :=
  (failure.fault = .endOfInput → parse settings state = .error failure failed) ∧
    (failure.fault ≠ .endOfInput →
      .ofFailure failure ∈ (parse.run settings state).2.journal.diagnostics.toList)

theorem recoverPast_of_end (delimiter : TokenKind) (hfault : failure.fault = .endOfInput) :
    recoverPast delimiter failure settings state = .error failure state := by
  unfold recoverPast
  rw [if_pos (by simp [Failure.isEndOfInput, hfault])]
  rfl

theorem recoverPast_of_ne (delimiter : TokenKind) (hfault : failure.fault ≠ .endOfInput) :
    recoverPast delimiter failure settings state =
      skipPast delimiter settings (state.reported (.ofFailure failure)) := by
  unfold recoverPast reportFailure
  rw [if_neg (by simp [Failure.isEndOfInput, hfault]), bind_of_ok (record_run _)]

/-- Where a kind of token is looked for after a failure, the first one of it is passed. -/
theorem skipPast_found {target : TokenKind} {skipped rest : List Token} {found : Token}
    (settings : Settings) (hahead : state.cursor.ahead = skipped ++ found :: rest)
    (hskipped : ∀ token ∈ skipped, token.kind ≠ target ∧ token.kind ≠ .eof)
    (hfound : found.kind = target) (htarget : target ≠ .eof) :
    skipPast target settings state =
      .ok ⟨⟩ { state.noted (.resynchronizing target state.cursor.current.span.start) with
        cursor := { state.cursor with ahead := rest } } := by
  have hskip : state.cursor.skipTo target = { state.cursor with ahead := found :: rest } := by
    unfold Cursor.skipTo
    rw [hahead, List.dropWhile_append_of_pos (by simpa using hskipped)]
    simp [hfound]
  have hkind : (state.cursor.skipTo target).kind = target := by
    rw [hskip]
    exact hfound
  unfold skipPast resynchronize skipTo
  rw [bind_assoc, bind_of_ok position_run, bind_assoc, bind_of_ok (note_run _), bind_assoc,
    bind_of_ok (modify_run _), bind_assoc, bind_of_ok kind_run, if_neg (by simp [hkind, htarget])]
  simp only [ParseState.noted_cursor, hskip]
  rfl

/-- If there is none, all tokens are passed and the input has ended. -/
theorem skipPast_lost {target : TokenKind} (settings : Settings)
    (hahead : ∀ token ∈ state.cursor.ahead, token.kind ≠ target ∧ token.kind ≠ .eof)
    (htarget : target ≠ .eof) :
    skipPast target settings state =
      .error { fault := .endOfInput, position := state.cursor.last.span.start }
        { state.noted (.resynchronizing target state.cursor.current.span.start) with
          cursor := { state.cursor with ahead := [] } } := by
  have hskip : state.cursor.skipTo target = { state.cursor with ahead := [] } := by
    unfold Cursor.skipTo
    rw [List.dropWhile_eq_nil_iff.2 (by simpa using hahead)]
  have hkind : (state.cursor.skipTo target).kind = .eof := by
    rw [hskip]
    exact state.cursor.last_kind
  unfold skipPast resynchronize skipTo
  rw [bind_assoc, bind_of_ok position_run, bind_assoc, bind_of_ok (note_run _), bind_assoc,
    bind_of_ok (modify_run _), bind_assoc, bind_of_ok kind_run, if_pos (by exact ⟨hkind, htarget⟩),
    bind_assoc, bind_of_ok position_run, bind_of_error (failAt_run _ _)]
  simp only [ParseState.noted_cursor, hskip]
  rfl

theorem handles_of_recoverPast {parse : Parse α} {delimiter : TokenKind}
    {continued : Unit → Parse α}
    (hrun : parse settings state = (recoverPast delimiter failure >>= continued) settings failed)
    (hcontinued : ∀ value, Respects KeepsReports (continued value)) :
    Handles parse settings state failure failed := by
  constructor
  · intro hfault
    rw [hrun, bind_of_error (recoverPast_of_end delimiter hfault)]
  · intro hfault
    have hreported : (Diagnostic.ofFailure failure) ∈
        (failed.reported (.ofFailure failure)).journal.diagnostics.toList := by
      rw [ParseState.reported_diagnostics]
      exact List.mem_append_right _ (List.mem_singleton_self _)
    rw [run_congr hrun, run_congr (bind_of_eq (recoverPast_of_ne delimiter hfault))]
    have hkeeps : Respects KeepsReports (skipPast delimiter >>= continued) := inferInstance
    exact (hkeeps.run settings _).subset hreported

/-- What is caught is handled. -/
theorem Catches.handles {catching : Parse α}
    (hcatches : Catches settings catching state failure failed) :
    Handles catching settings state failure failed := by
  cases hcatches with
  | stmt hfails =>
      apply handles_of_recoverPast
      · unfold stmtRound
        rw [bind_of_ok (attempt_of_error hfails)]
        rfl
      · intro _
        infer_instance
  | external hfails =>
      apply handles_of_recoverPast
      · unfold externalRound
        rw [bind_of_ok (attempt_of_error hfails)]
      · intro _
        infer_instance
  | element haccepts hfails =>
      apply handles_of_recoverPast
      · unfold Parse.element
        rw [bind_of_ok haccepts, if_pos rfl, bind_of_ok (attempt_of_error hfails)]
      · intro _
        infer_instance
  | beginning hresolve hbracket haccepts hfails =>
      apply handles_of_recoverPast
      · unfold Parse.beginning
        rw [bind_of_ok hresolve, bind_of_ok kind_run, if_pos hbracket, bind_of_ok haccepts,
          if_pos rfl, withExpr_subscript, bind_of_ok (attempt_of_error hfails)]
      · intro _
        infer_instance
  | call hmarks hopens harguments =>
      apply handles_of_recoverPast
      · unfold checkedCall
        rw [bind_of_ok read_run, bind_of_ok hmarks, bind_of_ok hopens, bind_of_ok harguments]
      · intro _
        infer_instance

end SubsetC.Parse
