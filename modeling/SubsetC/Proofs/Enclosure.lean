import Mathlib.Data.List.Basic
import SubsetC.Proofs.BudgetsProgram
import SubsetC.Proofs.Composed
import SubsetC.Proofs.EndOfInput
import SubsetC.Proofs.Oblivious
import SubsetC.Proofs.Recoveries
import SubsetC.Proofs.Shadows

/-!
# Enclosed tokens

A walk through tokens that nest nothing, up to the delimiter that closes them: a statement up to
its semicolon, or a subscript up to its bracket.  Whatever these tokens are, an expression that
is read there stays before the delimiter, also when it fails.  Nothing is reported but misuses,
and none of those for which a construct is passed over.

So a walk has two kinds of steps: those that stay inside, and the last one, which passes the
delimiter.
-/

namespace SubsetC

/-- Which tokens may be enclosed, and the delimiter that closes them.  No expression nests in
such tokens. -/
structure Enclosure where
  admits : TokenKind → Bool
  closing : TokenKind
  isDelimiter : closing.isDelimiter = true
  admits_closing : admits closing = false
  admits_eof : admits .eof = false
  admits_openBracket : admits .openBracket = false
  admits_openParen : admits .openParen = false

theorem Enclosure.ne_closing (enclosure : Enclosure) {kind : TokenKind}
    (hkind : kind.isDelimiter = false) : kind ≠ enclosure.closing := by
  rintro rfl
  rw [enclosure.isDelimiter] at hkind
  contradiction

theorem Enclosure.ne_of_admits {enclosure : Enclosure} {kind other : TokenKind}
    (hkind : enclosure.admits kind = true) (hother : enclosure.admits other = false) :
    kind ≠ other := by
  rintro rfl
  rw [hkind] at hother
  contradiction

/-- Enclosed tokens, or what is left of them, are ahead together with the delimiter and, behind
it, the given tokens. -/
def ParseState.Enclosed (enclosure : Enclosure) (rest : List Token) (state : ParseState) : Prop :=
  ∃ body closing, (∀ token ∈ body, enclosure.admits token.kind = true) ∧
    closing.kind = enclosure.closing ∧ state.cursor.ahead = body ++ closing :: rest

namespace ParseState.Enclosed

variable {enclosure : Enclosure} {rest : List Token} {state : ParseState}

theorem kind_cases (henclosed : state.Enclosed enclosure rest) :
    state.cursor.kind = enclosure.closing ∧ state.advanced.cursor.ahead = rest ∨
      enclosure.admits state.cursor.kind = true ∧ state.advanced.Enclosed enclosure rest := by
  obtain ⟨body, closing, hbody, hclosing, hahead⟩ := henclosed
  cases body with
  | nil =>
      refine .inl ⟨?_, by simp [Cursor.advance, hahead]⟩
      simp [Cursor.kind, Cursor.current, hahead, hclosing]
  | cons token body =>
      have hkind : state.cursor.kind = token.kind := by
        simp [Cursor.kind, Cursor.current, hahead]
      obtain ⟨htoken, hbody⟩ := List.forall_mem_cons.1 hbody
      refine .inr ⟨hkind ▸ htoken, body, closing, hbody, hclosing, ?_⟩
      simp [Cursor.advance, hahead]

theorem kind_ne (henclosed : state.Enclosed enclosure rest) {kind : TokenKind}
    (hkind : enclosure.admits kind = false) (hclosing : kind ≠ enclosure.closing) :
    state.cursor.kind ≠ kind := by
  rcases henclosed.kind_cases with ⟨hend, -⟩ | ⟨hadmits, -⟩
  · rw [hend]
    exact hclosing.symm
  · exact Enclosure.ne_of_admits hadmits hkind

theorem kind_ne_openBracket (henclosed : state.Enclosed enclosure rest) :
    state.cursor.kind ≠ .openBracket :=
  henclosed.kind_ne enclosure.admits_openBracket (enclosure.ne_closing rfl)

theorem kind_ne_openParen (henclosed : state.Enclosed enclosure rest) :
    state.cursor.kind ≠ .openParen :=
  henclosed.kind_ne enclosure.admits_openParen (enclosure.ne_closing rfl)

theorem advanced (henclosed : state.Enclosed enclosure rest)
    (hkind : state.cursor.kind ≠ enclosure.closing) : state.advanced.Enclosed enclosure rest := by
  rcases henclosed.kind_cases with ⟨hend, -⟩ | ⟨-, hadvanced⟩
  · contradiction
  · exact hadvanced

/-- Behind the delimiter the enclosed tokens are over. -/
theorem passed (henclosed : state.Enclosed enclosure rest)
    (hkind : state.cursor.kind = enclosure.closing) : state.advanced.cursor.ahead = rest := by
  rcases henclosed.kind_cases with ⟨-, hpassed⟩ | ⟨hadmits, -⟩
  · exact hpassed
  · exact absurd hkind (Enclosure.ne_of_admits hadmits enclosure.admits_closing)

theorem of_cursor {next : ParseState} (henclosed : state.Enclosed enclosure rest)
    (hcursor : next.cursor = state.cursor) : next.Enclosed enclosure rest := by
  unfold Enclosed
  rwa [hcursor]

end ParseState.Enclosed


/-- A misuse, reported by a parse with checks, for which nothing is passed over. -/
def Diagnostic.isMild (settings : Settings) (diagnostic : Diagnostic) : Bool :=
  settings.checks && diagnostic.isMisuse && !diagnostic.rejects

/-- Nothing is reported but mild misuses. -/
def Mild (settings : Settings) (state next : ParseState) : Prop :=
  ∃ added, next.journal.diagnostics.toList = state.journal.diagnostics.toList ++ added ∧
    ∀ diagnostic ∈ added, diagnostic.isMild settings = true

namespace Mild

variable {settings : Settings} {state middle next : ParseState}

theorem of_eq (hjournal : next.journal.diagnostics = state.journal.diagnostics) :
    Mild settings state next :=
  ⟨[], by simp [hjournal], by simp⟩

theorem refl (state : ParseState) : Mild settings state state := .of_eq rfl

theorem trans (hfirst : Mild settings state middle) (hsecond : Mild settings middle next) :
    Mild settings state next := by
  obtain ⟨first, hmiddle, hfirst⟩ := hfirst
  obtain ⟨second, hnext, hsecond⟩ := hsecond
  refine ⟨first ++ second, by rw [hnext, hmiddle, List.append_assoc], ?_⟩
  intro diagnostic hmem
  rcases List.mem_append.1 hmem with hmem | hmem
  · exact hfirst diagnostic hmem
  · exact hsecond diagnostic hmem

theorem faults (hmild : Mild settings state next) :
    next.journal.faults = state.journal.faults := by
  obtain ⟨added, hnext, hadded⟩ := hmild
  have hnone : added.filter (fun diagnostic => !diagnostic.isMisuse) = [] := by
    apply List.filter_eq_nil_iff.2
    intro diagnostic hmem
    have hdiagnostic := hadded diagnostic hmem
    simp only [Diagnostic.isMild, Bool.and_eq_true] at hdiagnostic
    simp [hdiagnostic.1.2]
  unfold Journal.faults
  rw [hnext, List.filter_append, hnone, List.append_nil]

theorem rejected (hmild : Mild settings state next) (hrejected : next.Shows Diagnostic.rejects) :
    state.Shows Diagnostic.rejects := by
  obtain ⟨added, hnext, hadded⟩ := hmild
  obtain ⟨diagnostic, hmem, hrejects⟩ := hrejected
  rw [hnext] at hmem
  rcases List.mem_append.1 hmem with hmem | hmem
  · exact ⟨diagnostic, hmem, hrejects⟩
  · have hdiagnostic := hadded diagnostic hmem
    simp [Diagnostic.isMild, hrejects] at hdiagnostic

/-- Without checks nothing is reported. -/
theorem eq_of_unchecked (hmild : Mild settings state next) (hchecks : settings.checks = false) :
    next.journal.diagnostics.toList = state.journal.diagnostics.toList := by
  obtain ⟨added, hnext, hadded⟩ := hmild
  cases added with
  | nil => rw [hnext, List.append_nil]
  | cons diagnostic added =>
      have hdiagnostic := hadded diagnostic List.mem_cons_self
      simp [Diagnostic.isMild, hchecks] at hdiagnostic

end Mild

namespace Parse

variable {α β : Type} {settings : Settings} {enclosure : Enclosure} {state : ParseState}
  {rest : List Token}

/-! ## Remarks -/

/-- The parse succeeds where it stands, and reports mild misuses at most. -/
def Remarks (settings : Settings) (parse : Parse α) : Prop :=
  ∀ state, ∃ value next, parse settings state = .ok value next ∧
    next.cursor = state.cursor ∧ Mild settings state next

namespace Remarks

theorem of_run {parse : Parse α} {value : ParseState → α} {change : ParseState → ParseState}
    (hrun : ∀ state, parse settings state = .ok (value state) (change state))
    (hcursor : ∀ state, (change state).cursor = state.cursor)
    (hjournal : ∀ state, (change state).journal.diagnostics = state.journal.diagnostics) :
    Remarks settings parse :=
  fun state => ⟨value state, change state, hrun state, hcursor state, .of_eq (hjournal state)⟩

theorem pure (value : α) : Remarks settings (pure value : Parse α) :=
  .of_run (fun _ => rfl) (fun _ => rfl) fun _ => rfl

theorem bind {parse : Parse α} {continued : α → Parse β} (hparse : Remarks settings parse)
    (hcontinued : ∀ value, Remarks settings (continued value)) :
    Remarks settings (parse >>= continued) := by
  intro state
  obtain ⟨value, middle, hfirst, hmiddle, hbefore⟩ := hparse state
  obtain ⟨result, next, hsecond, hnext, hafter⟩ := hcontinued value middle
  exact ⟨result, next, by rw [bind_of_ok hfirst, hsecond], hnext.trans hmiddle,
    hbefore.trans hafter⟩

end Remarks

theorem note_remarks (event : Event) : Remarks settings (note event) :=
  .of_run (fun _ => rfl) (fun _ => rfl) fun _ => rfl

theorem intern_remarks (text : String) : Remarks settings (intern text) :=
  .of_run (fun _ => intern_run text) (fun _ => rfl) fun _ => rfl

theorem reportMisuse_remarks {misuse : Misuse} (hmild : misuse.rejects = false)
    (position : Position) : Remarks settings (reportMisuse misuse position) := by
  intro state
  cases hchecks : settings.checks with
  | true =>
      refine ⟨_, _, reportMisuse_checked hchecks misuse position state, rfl, _,
        ParseState.reported_diagnostics state _, ?_⟩
      intro diagnostic hmem
      rw [List.mem_singleton.1 hmem]
      simp [Diagnostic.isMild, Diagnostic.isMisuse, Diagnostic.rejects, hchecks, hmild]
  | false =>
      exact ⟨_, _, reportMisuse_unchecked hchecks misuse position state, rfl, .refl state⟩

theorem reportUnless_remarks (condition : Bool) {misuse : Misuse}
    (hmild : misuse.rejects = false) (position : Position) :
    Remarks settings (reportUnless condition misuse position) := by
  unfold reportUnless
  split
  · exact .pure _
  · exact reportMisuse_remarks hmild position

theorem reportMisuse_pure_remarks (misuse : Misuse) (hmild : misuse.rejects = false)
    (position : Position) (value : α) :
    Remarks settings (do reportMisuse misuse position; return value) :=
  (reportMisuse_remarks hmild position).bind fun _ => .pure value

theorem resolve_remarks (name : String) (position : Position) :
    Remarks settings (resolve name position) := by
  intro state
  cases hlookup : state.symbols.lookup? name with
  | some symbol => exact ⟨_, _, resolve_found hlookup, rfl, .refl state⟩
  | none =>
      obtain ⟨value, next, hrun, hnext, hmild⟩ :=
        reportMisuse_pure_remarks (.undeclared name) rfl position (Symbol.dummy name)
          { state with symbols := state.symbols.bind (.dummy name) }
      exact ⟨value, next, (resolve_planted hlookup).trans hrun, hnext, hmild⟩

theorem declareVariable_remarks (name : Token) (ty : Ty) :
    Remarks settings (declareVariable name ty) := by
  intro state
  cases hdeclare : state.symbols.declare (.variable name.text ty) with
  | ok symbols => exact ⟨_, _, declareVariable_declared hdeclare, rfl, .of_eq rfl⟩
  | error existing =>
      obtain ⟨value, next, hrun, hnext, hmild⟩ :=
        reportMisuse_pure_remarks (.redeclaration name.text) rfl name.span.start
          (Symbol.variable name.text ty) state
      exact ⟨value, next, (declareVariable_refused hdeclare).trans hrun, hnext, hmild⟩

theorem coerce_remarks (target : Ty) (value : Expr) {misuse : Ty → Ty → Misuse}
    (hmild : ∀ target value, (misuse target value).rejects = false) (position : Position) :
    Remarks settings (coerce target value misuse position) := by
  unfold coerce
  split
  · exact .pure _
  · split
    · exact .pure _
    · exact .pure _
    · exact reportMisuse_pure_remarks _ (hmild _ _) position value

theorem assignment_remarks (target : Handoff) (value : Expr) (position : Position) (span : Span) :
    Remarks settings (assignment target value position span) := by
  have hcoerce (ty : Ty) : Remarks settings (coerce ty value .assignmentType position) :=
    coerce_remarks ty value (fun _ _ => rfl) position
  cases target with
  | ident symbol span => exact (hcoerce _).bind fun _ => .pure _
  | element subscript => exact (hcoerce _).bind fun _ => .pure _

theorem joined_remarks (operator : BinaryOp) (lhs rhs : Expr) (position : Position) :
    Remarks settings (joined operator lhs rhs position) := by
  unfold joined
  apply Remarks.bind (.of_run (fun _ => read_run) (fun _ => rfl) fun _ => rfl)
  intro found
  exact (reportUnless_remarks _ rfl position).bind fun _ =>
    (note_remarks _).bind fun _ => .pure _

/-! ## Walks -/

/-- Run on enclosed tokens, the parse leaves a state of the given sort, or it fails before their
delimiter with an ordinary failure. -/
def Walks (settings : Settings) (enclosure : Enclosure) (rest : List Token) (state : ParseState)
    (after : ParseState → Prop) (parse : Parse α) : Prop :=
  state.Enclosed enclosure rest →
    match parse settings state with
    | .ok _ next => after next ∧ Mild settings state next
    | .error failure next =>
        next.Enclosed enclosure rest ∧ failure.fault ≠ .endOfInput ∧ Mild settings state next

/-- The parse stays before the delimiter. -/
abbrev Stays (settings : Settings) (enclosure : Enclosure) (rest : List Token)
    (state : ParseState) (parse : Parse α) : Prop :=
  Walks settings enclosure rest state (fun next => next.Enclosed enclosure rest) parse

/-- The parse ends behind the delimiter. -/
abbrev Closes (settings : Settings) (enclosure : Enclosure) (rest : List Token)
    (state : ParseState) (parse : Parse α) : Prop :=
  Walks settings enclosure rest state (fun next => next.cursor.ahead = rest) parse

namespace Walks

variable {after : ParseState → Prop} {parse : Parse α} {continued : α → Parse β}

/-- It may be used that the tokens ahead are enclosed. -/
theorem of_enclosed
    (hparse : state.Enclosed enclosure rest → Walks settings enclosure rest state after parse) :
    Walks settings enclosure rest state after parse :=
  fun henclosed => hparse henclosed henclosed

theorem ok (hparse : Walks settings enclosure rest state after parse)
    (henclosed : state.Enclosed enclosure rest) {value : α} {next : ParseState}
    (hrun : parse settings state = .ok value next) :
    after next ∧ Mild settings state next := by
  have hresult := hparse henclosed
  rwa [hrun] at hresult

theorem error (hparse : Walks settings enclosure rest state after parse)
    (henclosed : state.Enclosed enclosure rest) {failure : Failure} {next : ParseState}
    (hrun : parse settings state = .error failure next) :
    next.Enclosed enclosure rest ∧ failure.fault ≠ .endOfInput ∧ Mild settings state next := by
  have hresult := hparse henclosed
  rwa [hrun] at hresult

theorem mild (hparse : Walks settings enclosure rest state after parse)
    (henclosed : state.Enclosed enclosure rest) :
    Mild settings state (parse.run settings state).2 := by
  unfold run
  cases hrun : parse settings state with
  | ok value next => exact (hparse.ok henclosed hrun).2
  | error failure next => exact (hparse.error henclosed hrun).2.2

theorem of_remarks (hparse : Remarks settings parse) :
    Stays settings enclosure rest state parse := by
  intro henclosed
  obtain ⟨value, next, hrun, hcursor, hmild⟩ := hparse state
  rw [hrun]
  exact ⟨henclosed.of_cursor hcursor, hmild⟩

theorem pure (value : α) : Stays settings enclosure rest state (pure value : Parse α) :=
  .of_remarks (.pure value)

theorem throw (failure : Failure) [hordinary : failure.Ordinary] :
    Walks settings enclosure rest state after (throw failure : Parse α) :=
  fun henclosed => ⟨henclosed, hordinary.fault_ne, .refl state⟩

theorem failAt (fault : Fault) (position : Position)
    [Failure.Ordinary { fault := fault, position := position }] :
    Walks settings enclosure rest state after (failAt fault position : Parse α) :=
  throw _

theorem bind (hparse : Stays settings enclosure rest state parse)
    (hcontinued : ∀ value next, Walks settings enclosure rest next after (continued value)) :
    Walks settings enclosure rest state after (parse >>= continued) := by
  intro henclosed
  cases hrun : parse settings state with
  | ok value middle =>
      obtain ⟨hmiddle, hmild⟩ := hparse.ok henclosed hrun
      rw [bind_of_ok hrun]
      cases hlast : continued value settings middle with
      | ok result next =>
          obtain ⟨hafter, hlater⟩ := (hcontinued value middle).ok hmiddle hlast
          exact ⟨hafter, hmild.trans hlater⟩
      | error failure next =>
          obtain ⟨hnext, hordinary, hlater⟩ := (hcontinued value middle).error hmiddle hlast
          exact ⟨hnext, hordinary, hmild.trans hlater⟩
  | error failure middle =>
      rw [bind_of_error hrun]
      exact hparse.error henclosed hrun

/-- What follows a first part that only looks at the state. -/
theorem bind_of_look {value : α} (hrun : parse settings state = .ok value state)
    (hcontinued : Walks settings enclosure rest state after (continued value)) :
    Walks settings enclosure rest state after (parse >>= continued) := by
  intro henclosed
  rw [bind_of_ok hrun]
  exact hcontinued henclosed

theorem map {f : α → β} (hparse : Walks settings enclosure rest state after parse) :
    Walks settings enclosure rest state after (f <$> parse) := by
  intro henclosed
  rw [map_eq_pure_bind]
  cases hrun : parse settings state with
  | ok value next =>
      rw [bind_of_ok hrun]
      exact hparse.ok henclosed hrun
  | error failure next =>
      rw [bind_of_error hrun]
      exact hparse.error henclosed hrun

/-- A token that is no delimiter is passed. -/
theorem advance_bind {continued : Token → Parse β} (hkind : state.cursor.kind.isDelimiter = false)
    (hcontinued : Walks settings enclosure rest state.advanced after
      (continued state.cursor.current)) :
    Walks settings enclosure rest state after (advance >>= continued) := by
  intro henclosed
  rw [bind_of_ok advance_run]
  exact hcontinued (henclosed.advanced (enclosure.ne_closing hkind))

theorem expectOr {expected : TokenKind} {failure : Failure} [failure.Ordinary]
    (hexpected : expected.isDelimiter = false) :
    Stays settings enclosure rest state (expectOr expected failure) := by
  by_cases hkind : state.cursor.kind = expected
  · intro henclosed
    rw [expectOr_run_of_eq hkind]
    exact ⟨henclosed.advanced (hkind ▸ enclosure.ne_closing hexpected), .refl _⟩
  · intro henclosed
    rw [expectOr_run_of_ne hkind]
    exact ⟨henclosed, Failure.Ordinary.fault_ne, .refl state⟩

theorem orFail {parse : Parse (Option α)} (failure : Failure) [failure.Ordinary]
    (hparse : Stays settings enclosure rest state parse) :
    Stays settings enclosure rest state (orFail parse failure) := by
  unfold Parse.orFail
  apply hparse.bind
  intro value? next
  cases value? with
  | none => exact .throw failure
  | some value => exact .pure value

/-- The delimiter is passed, or the parse fails before it. -/
theorem close {continued : Token → Parse β} (hcontinued : ∀ token,
      Remarks settings (continued token)) :
    Closes settings enclosure rest state (expect enclosure.closing >>= continued) := by
  intro henclosed
  by_cases hkind : state.cursor.kind = enclosure.closing
  · obtain ⟨value, next, hrun, hcursor, hmild⟩ :=
      hcontinued state.cursor.current state.advanced
    have hahead := henclosed.passed hkind
    rw [← hcursor] at hahead
    rw [bind_of_ok (expect_run hkind), hrun]
    exact ⟨hahead, hmild⟩
  · have hexpect : expect enclosure.closing settings state =
        .error (mismatch enclosure.closing state.cursor.current) state :=
      (bind_of_ok current_run).trans (expectOr_run_of_ne hkind)
    rw [bind_of_error hexpect]
    exact ⟨henclosed, Failure.Ordinary.fault_ne, .refl state⟩

theorem close_pure (f : Token → β) :
    Closes settings enclosure rest state
      (do let closing ← expect enclosure.closing; return f closing) :=
  close fun _ => .pure _

end Walks

/-! ## Expressions -/

/-- An operator does not end what encloses it. -/
theorem isDelimiter_of_operator? {level : Precedence} {kind : TokenKind} {operator : BinaryOp}
    (hoperator : level.operator? kind = some operator) : kind.isDelimiter = false := by
  cases hdelimiter : kind.isDelimiter with
  | false => rfl
  | true => cases kind <;> cases level <;> contradiction

section Expressions

variable (whole : Parse (Option Expr))

/-- Neither a subscript nor arguments follow a name. -/
theorem afterName_inside (symbol : Symbol) (span : Span) :
    Stays settings enclosure rest state (afterName whole symbol span) := by
  apply Walks.of_enclosed
  intro henclosed
  unfold afterName
  apply Walks.bind_of_look kind_run
  split
  · exact absurd ‹_› henclosed.kind_ne_openBracket
  · exact absurd ‹_› henclosed.kind_ne_openParen
  · exact .pure _

theorem named_inside (hkind : state.cursor.kind = .identifier) :
    Stays settings enclosure rest state (named whole) := by
  unfold named
  apply Walks.advance_bind (by rw [hkind]; rfl)
  apply Walks.bind (.of_remarks (resolve_remarks _ _))
  intro symbol next
  exact (afterName_inside whole symbol _).bind fun _ _ => .pure _

theorem stringLiteral_inside (hkind : state.cursor.kind = .string) :
    Stays settings enclosure rest state stringLiteral := by
  unfold stringLiteral
  apply Walks.advance_bind (by rw [hkind]; rfl)
  exact .of_remarks ((intern_remarks _).bind fun _ => .pure _)

theorem constant_inside (hkind : state.cursor.kind = .constant) :
    Stays settings enclosure rest state constant := by
  unfold constant
  apply Walks.advance_bind (by rw [hkind]; rfl)
  unfold Constant.ofText
  cases Constant.read? state.cursor.current.text.toList with
  | none => exact .failAt _ _
  | some value => exact .pure _

theorem stepped_inside (operator : Step) (hkind : state.cursor.kind.isDelimiter = false) :
    Stays settings enclosure rest state (stepped operator) := by
  unfold stepped
  apply Walks.advance_bind hkind
  apply Walks.bind_of_look position_run
  apply Walks.bind (.expectOr rfl)
  intro name next
  apply Walks.bind (.of_remarks (resolve_remarks _ _))
  intro symbol next
  apply Walks.bind_of_look read_run
  exact .of_remarks ((reportUnless_remarks _ rfl _).bind fun _ => .pure _)

/-- The element of which an address is taken is not there. -/
theorem addressed_inside (hkind : state.cursor.kind = .ampersand) :
    Stays settings enclosure rest state (addressed whole) := by
  unfold addressed
  apply Walks.advance_bind (by rw [hkind]; rfl)
  apply Walks.bind_of_look position_run
  apply Walks.bind (.expectOr rfl)
  intro name next
  apply Walks.bind (.of_remarks (resolve_remarks _ _))
  intro symbol next
  apply Walks.of_enclosed
  intro henclosed
  apply Walks.bind_of_look kind_run
  rw [if_neg henclosed.kind_ne_openBracket]
  exact .bind_of_look position_run (.failAt _ _)

theorem freshFactor_inside : Stays settings enclosure rest state (freshFactor whole) := by
  apply Walks.of_enclosed
  intro henclosed
  unfold freshFactor
  apply Walks.bind_of_look kind_run
  split
  case h_1 hkind => exact (named_inside whole hkind).map
  case h_2 hkind => exact (stringLiteral_inside hkind).map
  case h_3 hkind => exact (constant_inside hkind).map
  case h_4 hkind => exact absurd hkind henclosed.kind_ne_openParen
  case h_5 hkind => exact (stepped_inside .increment (by rw [hkind]; rfl)).map
  case h_6 hkind => exact (stepped_inside .decrement (by rw [hkind]; rfl)).map
  case h_7 hkind => exact (addressed_inside whole hkind).map
  case h_8 => exact .pure _

theorem factor_inside (handoff? : Option Handoff) :
    Stays settings enclosure rest state (factor whole handoff?) := by
  unfold factor
  split
  · exact .pure _
  · exact (afterName_inside whole _ _).bind fun _ _ => .pure _
  · exact freshFactor_inside whole

theorem negated_inside (hkind : state.cursor.kind = .not) :
    Stays settings enclosure rest state (negated whole) := by
  unfold negated
  apply Walks.advance_bind (by rw [hkind]; rfl)
  apply Walks.bind_of_look position_run
  apply Walks.bind (.orFail _ (factor_inside whole none))
  intro operand next
  apply Walks.bind_of_look read_run
  exact .of_remarks ((reportUnless_remarks _ rfl _).bind fun _ => .pure _)

/-- The rule stays before the delimiter, wherever it begins. -/
def StaysInside (settings : Settings) (enclosure : Enclosure) (rest : List Token)
    (rule : Rule) : Prop :=
  ∀ handoff? state, Stays settings enclosure rest state (rule handoff?)

theorem value_inside : StaysInside settings enclosure rest (value whole) := by
  intro handoff? state
  cases handoff? with
  | some handoff => exact factor_inside whole (some handoff)
  | none =>
      apply Walks.bind_of_look kind_run
      split
      · exact (negated_inside whole ‹_›).map
      · exact factor_inside whole none

theorem operatorsAfter_inside (level : Precedence) {operand : Rule}
    (hoperand : StaysInside settings enclosure rest operand) (budget : Nat) (lhs : Expr) :
    Stays settings enclosure rest state (operatorsAfter level (operand none) budget lhs) := by
  induction budget generalizing state lhs with
  | zero => exact .pure lhs
  | succ budget ih =>
      apply Walks.bind_of_look kind_run
      cases hoperator : level.operator? state.cursor.kind with
      | none => exact .pure lhs
      | some operator =>
          apply Walks.advance_bind (isDelimiter_of_operator? hoperator)
          apply Walks.bind (.orFail _ (hoperand none _))
          intro rhs next
          apply Walks.bind (.of_remarks (joined_remarks _ _ _ _))
          intro node next
          exact ih node

theorem chain_inside (level : Precedence) {operand : Rule}
    (hoperand : StaysInside settings enclosure rest operand) :
    StaysInside settings enclosure rest (chain level operand) := by
  intro handoff? state
  unfold chain
  apply Walks.bind (hoperand handoff? state)
  intro lhs? next
  cases lhs? with
  | none => exact .pure none
  | some lhs =>
      apply Walks.bind_of_look remaining_run
      exact (operatorsAfter_inside level hoperand _ lhs).map

end Expressions

/-- Whatever the budget, no whole expression is met inside another. -/
theorem exprAfter_inside (handoff? : Option Handoff) :
    Stays settings enclosure rest state (exprAfter handoff?) := by
  apply Walks.bind_of_look remaining_run
  have hvalue : StaysInside settings enclosure rest
      (value (exprWithin (state.cursor.remaining + 1) none)) := value_inside _
  exact chain_inside .logicalOr (chain_inside .logicalAnd (chain_inside .relational
    (chain_inside .additive (chain_inside .multiplicative hvalue)))) handoff? state

theorem requireExpr_inside (malformation : Malformation) :
    Stays settings enclosure rest state (requireExpr malformation) :=
  .bind_of_look position_run (.orFail _ (exprAfter_inside none))


/-! ## Recoveries -/

/-- From before the delimiter a recovery goes behind it. -/
theorem skipPast_enclosed (settings : Settings) (henclosed : state.Enclosed enclosure rest) :
    ∃ next, skipPast enclosure.closing settings state = .ok ⟨⟩ next ∧ next.cursor.ahead = rest ∧
      next.journal.diagnostics = state.journal.diagnostics := by
  obtain ⟨body, closing, hbody, hclosing, hahead⟩ := henclosed
  have hpassed : ∀ token ∈ body, token.kind ≠ enclosure.closing ∧ token.kind ≠ .eof := by
    intro token htoken
    have hadmits := hbody token htoken
    exact ⟨Enclosure.ne_of_admits hadmits enclosure.admits_closing,
      Enclosure.ne_of_admits hadmits enclosure.admits_eof⟩
  have heof : enclosure.closing ≠ .eof := (enclosure.ne_closing rfl).symm
  exact ⟨_, skipPast_found settings hahead hpassed hclosing heof, rfl, rfl⟩

/-- An ordinary failure before the delimiter is reported, and the delimiter is passed. -/
theorem recoverPast_enclosed (settings : Settings) {failure : Failure}
    (hordinary : failure.fault ≠ .endOfInput) (henclosed : state.Enclosed enclosure rest) :
    ∃ next, recoverPast enclosure.closing failure settings state = .ok ⟨⟩ next ∧
      next.cursor.ahead = rest ∧
      next.journal.faults = state.journal.faults ++ [.ofFailure failure] := by
  have hreported : (state.reported (.ofFailure failure)).Enclosed enclosure rest :=
    henclosed.of_cursor rfl
  obtain ⟨next, hskip, hnext, hjournal⟩ := skipPast_enclosed settings hreported
  refine ⟨next, (recoverPast_of_ne _ hordinary).trans hskip, hnext, ?_⟩
  have hfaults := ParseState.reported_faults state (.ofFailure failure)
  unfold Journal.faults at hfaults ⊢
  rw [hjournal, hfaults]
  rfl

/-! ## Runs without checks -/

/-- A parse that passes over no construct succeeds without checks where it does with checks. -/
theorem isOk_unchecked {f : α → α} {parse : Parse α} [Oblivious parse]
    (hshadows : settings.checks = true → Shadows settings f parse parse)
    (hmild : Mild settings state.bare (parse.run settings state.bare).2) :
    ∃ other : ParseState, other.cursor = state.cursor ∧
      (parse.run settings.unchecked other).1.isOk = (parse.run settings state).1.isOk := by
  cases hchecks : settings.checks with
  | false =>
      have hsame : settings.unchecked = settings := by
        unfold Settings.unchecked
        rw [← hchecks]
      exact ⟨state, rfl, by rw [hsame]⟩
  | true =>
      -- Earlier reports are left out, so a construct is passed over only if this run does so.
      obtain ⟨other, hother⟩ := Unchecks.exists_other state.bare
      refine ⟨other, hother.cursor, ?_⟩
      rcases (hshadows hchecks).follows hother with hrejected | hparallel
      · obtain ⟨diagnostic, hmem, -⟩ := hmild.rejected hrejected
        simp [ParseState.bare] at hmem
      · rw [hparallel.value, run_eq_bare parse settings state]
        cases (parse.run settings state.bare).1 <;> rfl

/-- Without checks a parse that reports mild misuses at most reports nothing. -/
theorem quiet_of_mild {parse : Parse α} {value : α} {next : ParseState}
    (hmild : Mild settings state next) (hchecks : settings.checks = false)
    (hrun : parse settings state = .ok value next) : Quiet parse settings state value next := by
  refine ⟨hrun, ?_⟩
  unfold Journal.size
  rw [← Array.length_toList, hmild.eq_of_unchecked hchecks, Array.length_toList]

end Parse

end SubsetC
