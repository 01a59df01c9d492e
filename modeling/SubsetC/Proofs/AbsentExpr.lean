import SubsetC.Proofs.CompleteExpr
import SubsetC.Proofs.SparedFault

/-!
# Absent expressions

Where no expression begins, none is read, and nothing else happens either: no level of the
grammar moves the cursor, knows a name or reports before the first value has matched.  A single
token decides whether one begins.

An expression that was begun already cannot be absent, so a statement that hands over what it
has read never misses one.
-/

namespace SubsetC

theorem beginsExpr_eq_false_iff (kind : TokenKind) : beginsExpr kind = false ↔
    kind ∉ [.identifier, .string, .constant, .openParen, .plusPlus, .minusMinus, .ampersand,
      .not] := by
  cases kind <;> decide

namespace Parse

variable {α : Type} {settings : Settings} {state next : ParseState} {whole : Parse (Option Expr)}

theorem map_some_ne_none (parse : Parse α) : (some <$> parse) settings state ≠ .ok none next := by
  intro hrun
  rw [map_eq_pure_bind] at hrun
  obtain ⟨value, middle, -, hpure⟩ := bind_eq_ok.1 hrun
  cases hpure

/-- An alternative that does not match leaves the state as it is. -/
theorem freshFactor_eq_ok_none :
    freshFactor whole settings state = .ok none next ↔
      beginsFactor state.cursor.kind = false ∧ next = state := by
  have hnone : (pure none : Parse (Option Expr)) settings state = .ok none next ↔ next = state := by
    simp [eq_comm]
  unfold freshFactor
  rw [bind_of_ok kind_run]
  cases state.cursor.kind <;> simp [map_some_ne_none, beginsFactor, hnone, -pure_run]

theorem value_eq_ok_none :
    value whole none settings state = .ok none next ↔
      beginsExpr state.cursor.kind = false ∧ next = state := by
  have hvalue : value whole none settings state =
      (if state.cursor.kind = .not then some <$> negated whole else freshFactor whole) settings
        state := by
    unfold value
    exact bind_of_ok kind_run
  rw [hvalue]
  by_cases hnot : state.cursor.kind = .not
  · rw [if_pos hnot]
    simp [map_some_ne_none, beginsExpr, hnot]
  · rw [if_neg hnot, freshFactor_eq_ok_none]
    simp [beginsExpr, hnot]

/-- A level matches just if its first operand does. -/
theorem chain_eq_ok_none {level : Precedence} {operand : Rule} {handoff? : Option Handoff} :
    chain level operand handoff? settings state = .ok none next ↔
      operand handoff? settings state = .ok none next := by
  unfold chain
  rw [bind_eq_ok]
  constructor
  · rintro ⟨lhs?, middle, hoperand, hrest⟩
    cases lhs? with
    | none =>
        cases hrest
        exact hoperand
    | some lhs =>
        obtain ⟨count, between, -, hoperators⟩ := bind_eq_ok.1 hrest
        exact absurd hoperators (map_some_ne_none _)
  · intro hoperand
    exact ⟨none, next, hoperand, rfl⟩

theorem expr_eq_ok_none :
    expr settings state = .ok none next ↔
      beginsExpr state.cursor.kind = false ∧ next = state := by
  unfold expr
  rw [exprAfter_eq, orExpr, chain_eq_ok_none, andTerm, chain_eq_ok_none, relExpr,
    chain_eq_ok_none, numExpr, chain_eq_ok_none, term, chain_eq_ok_none, value_eq_ok_none]

theorem exprAfter_ne_none (handoff : Handoff) :
    exprAfter (some handoff) settings state ≠ .ok none next := by
  intro hrun
  have hsome := exprAfter_gives handoff hrun
  contradiction

/-- An expression is absent just if the next token begins none, and then nothing at all has
changed.  One that was begun is not absent: no statement fails for want of it, and no parse
ends with that failure or reports it. -/
theorem absent_expr_untouched :
    (∀ settings state next, expr settings state = .ok none next ↔
      state.cursor.kind ∉ [.identifier, .string, .constant, .openParen, .plusPlus, .minusMinus,
        .ampersand, .not] ∧ next = state) ∧
    (∀ settings state handoff next, exprAfter (some handoff) settings state ≠ .ok none next) ∧
    (∀ settings state position next, namedStmt settings state ≠
      .error { fault := .malformed .missingExpression, position := position } next) ∧
    ∀ settings tokens,
      .fault (.malformed .missingExpression) ∉
          (parse settings tokens).2.journal.diagnostics.toList.map Diagnostic.cause ∧
        ∀ position, (parse settings tokens).1 ≠
          .error { fault := .malformed .missingExpression, position := position } := by
  refine ⟨?_, ?_, ?_, ?_⟩
  · intro settings state next
    rw [expr_eq_ok_none, beginsExpr_eq_false_iff]
  · intro settings state handoff next
    exact exprAfter_ne_none handoff
  · intro settings state position next hfailed
    exact (Spares.fault hfailed).ne rfl
  · intro settings tokens
    have hspares : Spares journaled := inferInstance
    constructor
    · intro hmem
      obtain ⟨diagnostic, hdiagnostic, hcause⟩ := List.mem_map.1 hmem
      have hstart := ParseState.spared_ofTokens tokens settings.file
      exact hspares.reports settings hstart diagnostic hdiagnostic hcause
    · intro position hfailed
      exact (hspares.failed hfailed).ne rfl

end Parse

end SubsetC
