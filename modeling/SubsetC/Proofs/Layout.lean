import SubsetC.Proofs.Placeless
import SubsetC.Proofs.Run

/-!
# Layout

A parse is blind to the layout of its text if, run on a state without places, it has the
outcome without places that it has on the state with them.  Only the values that it is given
and the failures that it meets lose their places on the way.

The property is closed under the ways in which parses are put together, and the elementary
parses have it, so the rules of the grammar are blind part by part.
-/

namespace SubsetC.Parse

variable {α β γ δ : Type}

/-- An outcome without places. -/
def placelessOutcome (f : α → β) : Except Failure α → Except Failure β
  | .ok value => .ok (f value)
  | .error failure => .error failure.placeless

/-- Without places, one parse has the outcome that the other has with them. -/
def Blind (f : α → β) (parse : Parse α) (bare : Parse β) : Prop :=
  ∀ settings state, bare.run settings.placeless state.placeless =
    (placelessOutcome f (parse.run settings state).1, (parse.run settings state).2.placeless)

namespace Blind

variable {f : α → β} {g : γ → δ} {parse : Parse α} {bare : Parse β}

theorem pure_of {value : α} {other : β} (hvalue : f value = other) :
    Blind f (pure value) (pure other) := by
  intro settings state
  rw [← hvalue]
  rfl

theorem pure (value : α) : Blind f (pure value) (pure (f value)) := pure_of rfl

theorem throw (failure : Failure) :
    Blind f (throw failure : Parse α) (throw failure.placeless) := by
  intro settings state
  rfl

theorem failAt (fault : Fault) (position : Position) :
    Blind f (failAt fault position : Parse α) (failAt fault .nowhere) :=
  throw _

theorem bind {continued : α → Parse γ} {bareContinued : β → Parse δ} (hparse : Blind f parse bare)
    (hcontinued : ∀ value, Blind g (continued value) (bareContinued (f value))) :
    Blind g (parse >>= continued) (bare >>= bareContinued) := by
  intro settings state
  rw [run_bind, run_bind, hparse]
  rcases parse.run settings state with ⟨failure | value, middle⟩
  · rfl
  · exact hcontinued value settings middle

theorem map {h : α → γ} {h' : β → δ} (hparse : Blind f parse bare)
    (hvalue : ∀ value, g (h value) = h' (f value)) : Blind g (h <$> parse) (h' <$> bare) := by
  rw [map_eq_pure_bind, map_eq_pure_bind]
  apply hparse.bind
  intro value
  exact pure_of (hvalue value)

theorem ite {condition : Prop} [Decidable condition] {accepted rejected : Parse α}
    {accepted' rejected' : Parse β} (haccepted : Blind f accepted accepted')
    (hrejected : Blind f rejected rejected') :
    Blind f (if condition then accepted else rejected)
      (if condition then accepted' else rejected') := by
  split
  · exact haccepted
  · exact hrejected

theorem attempt (hparse : Blind f parse bare) :
    Blind (placelessOutcome f) (attempt parse) (Parse.attempt bare) := by
  intro settings state
  rw [run_attempt, run_attempt, hparse]
  rfl

theorem ofAttempt (result : Except Failure α) :
    Blind f (ofAttempt result) (Parse.ofAttempt (placelessOutcome f result)) := by
  cases result with
  | ok value => exact pure value
  | error failure => exact throw failure

theorem bracket {before after : ParseState → ParseState} (hparse : Blind f parse bare)
    (hbefore : ∀ state, (before state).placeless = before state.placeless)
    (hafter : ∀ state, (after state).placeless = after state.placeless) :
    Blind f (bracket before after parse) (Parse.bracket before after bare) := by
  intro settings state
  rw [run_bracket, run_bracket, ← hbefore, hparse, ← hafter]

theorem orFail {parse : Parse (Option α)} {bare : Parse (Option β)}
    (hparse : Blind (Option.map f) parse bare) (failure : Failure) :
    Blind f (orFail parse failure) (Parse.orFail bare failure.placeless) := by
  unfold Parse.orFail
  apply hparse.bind
  intro value?
  cases value? with
  | none => exact throw failure
  | some value => exact pure value

theorem modify {change change' : ParseState → ParseState}
    (hchange : ∀ state, (change state).placeless = change' state.placeless) :
    Blind (fun value => value) (modify change) (modify change') := by
  intro settings state
  change (Except.ok PUnit.unit, change' state.placeless) = _
  rw [← hchange]
  rfl

end Blind

/-! ## Elementary parses -/

theorem get_blind : Blind ParseState.placeless get get := by
  intro settings state
  rfl

theorem set_blind (state : ParseState) :
    Blind (fun value => value) (set state : Parse PUnit) (set state.placeless) := by
  intro settings before
  rfl

theorem read_blind : Blind Settings.placeless (read : Parse Settings) read := by
  intro settings state
  rfl

theorem current_blind : Blind Token.placeless current current := by
  apply get_blind.bind
  intro state
  exact .pure_of state.cursor.placeless_current.symm

theorem kind_blind : Blind (fun found => found) kind kind := by
  apply get_blind.bind
  intro state
  exact .pure_of state.cursor.placeless_kind.symm

theorem position_blind : Blind (fun _ => .nowhere) position position := by
  apply get_blind.bind
  intro state
  apply Blind.pure_of
  change Position.nowhere = state.cursor.placeless.current.span.start
  rw [Cursor.placeless_current]
  rfl

theorem remaining_blind : Blind (fun count => count) remaining remaining := by
  apply get_blind.bind
  intro state
  exact .pure_of state.cursor.placeless_remaining.symm

theorem hasTokens_blind : Blind (fun more => more) hasTokens hasTokens := by
  apply get_blind.bind
  intro state
  apply Blind.pure_of
  change decide (state.cursor.kind ≠ .eof) = decide (state.cursor.placeless.kind ≠ .eof)
  rw [Cursor.placeless_kind]

theorem advance_blind : Blind Token.placeless advance advance := by
  apply get_blind.bind
  intro state
  have hset := set_blind { state with cursor := state.cursor.advance }
  have hmoved : ParseState.placeless { state with cursor := state.cursor.advance } =
      { state.placeless with cursor := state.placeless.cursor.advance } := by
    simp only [ParseState.placeless, Cursor.placeless_advance]
  rw [hmoved] at hset
  apply hset.bind
  intro _
  exact .pure_of state.cursor.placeless_current.symm

theorem skipTo_blind (target : TokenKind) :
    Blind (fun value => value) (skipTo target) (skipTo target) := by
  apply Blind.modify
  intro state
  simp only [ParseState.placeless, Cursor.placeless_skipTo]

theorem note_blind (event : Event) :
    Blind (fun value => value) (note event) (note event.placeless) := by
  apply Blind.modify
  intro state
  simp only [ParseState.placeless, Journal.placeless_note]

theorem record_blind (diagnostic : Diagnostic) :
    Blind (fun value => value) (record diagnostic) (record diagnostic.placeless) := by
  apply Blind.modify
  intro state
  simp only [ParseState.placeless, Journal.placeless_report]

theorem markPrintf_blind : Blind (fun value => value) markPrintf markPrintf := by
  apply Blind.modify
  intro state
  rfl

theorem intern_blind (text : String) : Blind (fun id => id) (intern text) (intern text) := by
  intro settings state
  rfl

theorem accept_blind (expected : TokenKind) :
    Blind (fun accepted => accepted) (accept expected) (accept expected) := by
  unfold accept
  apply kind_blind.bind
  intro found
  apply Blind.ite
  · apply advance_blind.bind
    intro _
    exact .pure true
  · exact .pure false

theorem expectOr_blind (expected : TokenKind) (failure : Failure) :
    Blind Token.placeless (expectOr expected failure) (expectOr expected failure.placeless) := by
  unfold expectOr
  apply kind_blind.bind
  intro found
  exact .ite advance_blind (.throw failure)

theorem mismatch_placeless (expected : TokenKind) (found : Token) :
    (mismatch expected found).placeless = mismatch expected found.placeless := rfl

theorem expect_blind (expected : TokenKind) :
    Blind Token.placeless (expect expected) (expect expected) := by
  unfold expect
  apply current_blind.bind
  intro found
  rw [← mismatch_placeless]
  exact expectOr_blind expected _

theorem resynchronize_blind (target : TokenKind) :
    Blind (fun value => value) (resynchronize target) (resynchronize target) := by
  unfold resynchronize
  apply position_blind.bind
  intro start
  apply (note_blind _).bind
  intro _
  apply (skipTo_blind target).bind
  intro _
  apply kind_blind.bind
  intro found
  apply Blind.ite
  · apply position_blind.bind
    intro stop
    exact .failAt _ _
  · exact .pure _

theorem skipPast_blind (target : TokenKind) :
    Blind (fun value => value) (skipPast target) (skipPast target) := by
  unfold skipPast
  apply (resynchronize_blind target).bind
  intro _
  apply advance_blind.bind
  intro _
  exact .pure _

theorem reportMisuse_blind (misuse : Misuse) (position : Position) :
    Blind (fun value => value) (reportMisuse misuse position) (reportMisuse misuse .nowhere) := by
  unfold reportMisuse
  apply read_blind.bind
  intro given
  exact .ite (record_blind _) (.pure _)

theorem reportUnless_blind (condition : Bool) (misuse : Misuse) (position : Position) :
    Blind (fun value => value) (reportUnless condition misuse position)
      (reportUnless condition misuse .nowhere) := by
  unfold reportUnless
  exact .ite (.pure _) (reportMisuse_blind misuse position)

theorem recoverPast_blind (delimiter : TokenKind) (failure : Failure) :
    Blind (fun value => value) (recoverPast delimiter failure)
      (recoverPast delimiter failure.placeless) := by
  unfold recoverPast
  have hend : failure.placeless.isEndOfInput = failure.isEndOfInput := rfl
  rw [hend]
  apply Blind.ite
  · exact .throw failure
  · apply (record_blind (.ofFailure failure)).bind
    intro _
    exact skipPast_blind delimiter

theorem resolve_blind (name : String) (position : Position) :
    Blind (fun symbol => symbol) (resolve name position) (resolve name .nowhere) := by
  unfold resolve
  apply get_blind.bind
  intro state
  rw [ParseState.placeless_symbols]
  cases state.symbols.resolve name with
  | found symbol => exact .pure symbol
  | planted dummy symbols =>
      apply (set_blind { state with symbols := symbols }).bind
      intro _
      apply (reportMisuse_blind _ position).bind
      intro _
      exact .pure dummy

theorem placeholder_blind (span : Span) :
    Blind Expr.placeless (placeholder span) (placeholder .nowhere) := by
  unfold placeholder
  apply get_blind.bind
  intro state
  exact .pure _

end SubsetC.Parse
