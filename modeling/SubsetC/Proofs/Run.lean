import Mathlib.Tactic.Common
import SubsetC.Parse.Program

/-!
# Runs of a parse

How a parse acts on a state: a sequence runs its parts one after the other and
stops at the first failure, and the elementary parses have one outcome each.
The grammar is opened with these equations.
-/

namespace SubsetC

namespace ParseState

/-- The state with the cursor past its token. -/
def advanced (state : ParseState) : ParseState :=
  { state with cursor := state.cursor.advance }

/-- The state with an event in its journal. -/
def noted (state : ParseState) (event : Event) : ParseState :=
  { state with journal := state.journal.note event }

/-- The state with a diagnostic in its journal. -/
def reported (state : ParseState) (diagnostic : Diagnostic) : ParseState :=
  { state with journal := state.journal.report diagnostic }

@[simp] theorem advanced_cursor (state : ParseState) :
    state.advanced.cursor = state.cursor.advance := rfl

@[simp] theorem advanced_symbols (state : ParseState) :
    state.advanced.symbols = state.symbols := rfl

@[simp] theorem advanced_journal (state : ParseState) :
    state.advanced.journal = state.journal := rfl

@[simp] theorem advanced_returnType? (state : ParseState) :
    state.advanced.returnType? = state.returnType? := rfl

@[simp] theorem noted_cursor (state : ParseState) (event : Event) :
    (state.noted event).cursor = state.cursor := rfl

@[simp] theorem noted_symbols (state : ParseState) (event : Event) :
    (state.noted event).symbols = state.symbols := rfl

@[simp] theorem noted_returnType? (state : ParseState) (event : Event) :
    (state.noted event).returnType? = state.returnType? := rfl

@[simp] theorem noted_journal_size (state : ParseState) (event : Event) :
    (state.noted event).journal.size = state.journal.size := rfl

@[simp] theorem reported_journal_size (state : ParseState) (diagnostic : Diagnostic) :
    (state.reported diagnostic).journal.size = state.journal.size + 1 := by
  simp [reported, Journal.report, Journal.note, Journal.size]

end ParseState

namespace Parse

variable {α β : Type} {settings : Settings} {state middle next : ParseState}
  {parse : Parse α} {continued : α → Parse β}

theorem bind_of_ok {value : α} (hrun : parse settings state = .ok value middle) :
    (parse >>= continued) settings state = continued value settings middle := by
  change EStateM.bind (parse settings) (fun value => continued value settings) state = _
  simp only [EStateM.bind, hrun]

theorem bind_of_error {failure : Failure}
    (hrun : parse settings state = .error failure middle) :
    (parse >>= continued) settings state = .error failure middle := by
  change EStateM.bind (parse settings) (fun value => continued value settings) state = _
  simp only [EStateM.bind, hrun]

theorem bind_eq_ok {result : β} :
    (parse >>= continued) settings state = .ok result next ↔
      ∃ value middle, parse settings state = .ok value middle ∧
        continued value settings middle = .ok result next := by
  constructor
  · intro hrun
    cases hparse : parse settings state with
    | ok value middle =>
        rw [bind_of_ok hparse] at hrun
        exact ⟨value, middle, rfl, hrun⟩
    | error failure middle =>
        rw [bind_of_error hparse] at hrun
        contradiction
  · rintro ⟨value, middle, hparse, hcontinued⟩
    rw [bind_of_ok hparse, hcontinued]

theorem bind_eq_error {failure : Failure} :
    (parse >>= continued) settings state = .error failure next ↔
      parse settings state = .error failure next ∨
        ∃ value middle, parse settings state = .ok value middle ∧
          continued value settings middle = .error failure next := by
  cases hparse : parse settings state with
  | ok value middle =>
      rw [bind_of_ok hparse]
      constructor
      · intro hrun
        exact .inr ⟨value, middle, rfl, hrun⟩
      · rintro (hfailed | ⟨_, _, hparsed, hrun⟩)
        · contradiction
        · cases hparsed
          exact hrun
  | error failure' middle =>
      rw [bind_of_error hparse]
      simp

/-! ## Elementary parses -/

@[simp] theorem pure_run (value : α) :
    (pure value : Parse α) settings state = .ok value state := rfl

@[simp] theorem get_run : (get : Parse ParseState) settings state = .ok state state := rfl

@[simp] theorem set_run (changed : ParseState) :
    (set changed : Parse PUnit) settings state = .ok ⟨⟩ changed := rfl

@[simp] theorem modify_run (change : ParseState → ParseState) :
    (modify change : Parse PUnit) settings state = .ok ⟨⟩ (change state) := rfl

@[simp] theorem read_run : (read : Parse Settings) settings state = .ok settings state := rfl

@[simp] theorem throw_run (failure : Failure) :
    (throw failure : Parse α) settings state = .error failure state := rfl

@[simp] theorem failAt_run (fault : Fault) (position : Position) :
    (failAt fault position : Parse α) settings state =
      .error { fault := fault, position := position } state := rfl

@[simp] theorem current_run :
    current settings state = .ok state.cursor.current state := rfl

@[simp] theorem kind_run : kind settings state = .ok state.cursor.kind state := rfl

@[simp] theorem position_run :
    position settings state = .ok state.cursor.current.span.start state := rfl

@[simp] theorem remaining_run :
    remaining settings state = .ok state.cursor.remaining state := rfl

@[simp] theorem hasTokens_run :
    hasTokens settings state = .ok (decide (state.cursor.kind ≠ .eof)) state := rfl

@[simp] theorem advance_run :
    advance settings state = .ok state.cursor.current state.advanced := rfl

@[simp] theorem note_run (event : Event) :
    note event settings state = .ok ⟨⟩ (state.noted event) := rfl

@[simp] theorem record_run (diagnostic : Diagnostic) :
    record diagnostic settings state = .ok ⟨⟩ (state.reported diagnostic) := rfl

theorem intern_run (text : String) :
    intern text settings state =
      .ok (state.strings.intern text).1
        { state with strings := (state.strings.intern text).2 } := rfl

theorem reportMisuse_checked (hchecks : settings.checks = true) (misuse : Misuse)
    (position : Position) (state : ParseState) :
    reportMisuse misuse position settings state =
      .ok ⟨⟩ (state.reported { cause := .misuse misuse, position := position }) := by
  unfold reportMisuse
  rw [bind_of_ok read_run, if_pos hchecks, record_run]

theorem reportMisuse_unchecked (hchecks : settings.checks = false) (misuse : Misuse)
    (position : Position) (state : ParseState) :
    reportMisuse misuse position settings state = .ok ⟨⟩ state := by
  unfold reportMisuse
  rw [bind_of_ok read_run, if_neg (by simp [hchecks]), pure_run]

theorem resolve_found {name : String} {position : Position} {symbol : Symbol}
    (hlookup : state.symbols.lookup? name = some symbol) :
    resolve name position settings state = .ok symbol state := by
  unfold resolve
  rw [bind_of_ok get_run]
  simp only [SymbolTable.resolve, hlookup, pure_run]

/-- An unknown name is bound to a dummy before it is reported. -/
theorem resolve_planted {name : String} {position : Position}
    (hlookup : state.symbols.lookup? name = none) :
    resolve name position settings state =
      (do reportMisuse (.undeclared name) position; return Symbol.dummy name) settings
        { state with symbols := state.symbols.bind (.dummy name) } := by
  unfold resolve
  rw [bind_of_ok get_run]
  simp only [SymbolTable.resolve, hlookup]
  rw [bind_of_ok (set_run _)]

theorem declareVariable_declared {name : Token} {ty : Ty} {symbols : SymbolTable}
    (hdeclare : state.symbols.declare (.variable name.text ty) = .ok symbols) :
    declareVariable name ty settings state =
      .ok (.variable name.text ty) { state with symbols := symbols } := by
  unfold declareVariable
  rw [bind_of_ok get_run]
  simp only [hdeclare, adopt]
  rw [bind_of_ok (modify_run _), pure_run]

/-- A variable declared twice is reported; the declaration has a symbol all the same. -/
theorem declareVariable_refused {name : Token} {ty : Ty} {existing : Symbol}
    (hdeclare : state.symbols.declare (.variable name.text ty) = .error existing) :
    declareVariable name ty settings state =
      (do
        reportMisuse (.redeclaration name.text) name.span.start
        return Symbol.variable name.text ty) settings state := by
  unfold declareVariable
  rw [bind_of_ok get_run]
  simp only [hdeclare, adopt]

theorem declareFunction_declared {name : Token} {signature : Signature}
    {symbols : SymbolTable}
    (hdeclare : state.symbols.declareGlobal (.function name.text signature) = .ok symbols) :
    declareFunction name signature settings state =
      .ok (.function name.text signature) { state with symbols := symbols } := by
  unfold declareFunction
  rw [bind_of_ok get_run]
  simp only [hdeclare, adopt]
  rw [bind_of_ok (modify_run _), pure_run]

theorem declareFunction_refused {name : Token} {signature : Signature} {existing : Symbol}
    (hdeclare : state.symbols.declareGlobal (.function name.text signature) = .error existing) :
    declareFunction name signature settings state =
      (do
        reportMisuse (.redeclaration name.text) name.span.start
        return Symbol.function name.text signature) settings state := by
  unfold declareFunction
  rw [bind_of_ok get_run]
  simp only [hdeclare, adopt]

/-! ## Outcomes -/

theorem run_of_ok {parse : Parse α} {state next : ParseState} {value : α}
    (hrun : parse settings state = .ok value next) :
    parse.run settings state = (.ok value, next) := by
  simp only [run, hrun]

theorem bind_of_eq {parse rest : Parse α} {continued : α → Parse β} {state changed : ParseState}
    (hrun : parse settings state = rest settings changed) :
    (parse >>= continued) settings state = (rest >>= continued) settings changed := by
  change EStateM.bind (parse settings) (fun value => continued value settings) state =
    EStateM.bind (rest settings) (fun value => continued value settings) changed
  simp only [EStateM.bind, hrun]

theorem run_congr {parse rest : Parse α} {state changed : ParseState}
    (hrun : parse settings state = rest settings changed) :
    parse.run settings state = rest.run settings changed := by
  simp only [run, hrun]

theorem run_eq_ok {parse : Parse α} {state next : ParseState} {value : α}
    (hrun : parse.run settings state = (.ok value, next)) :
    parse settings state = .ok value next := by
  unfold run at hrun
  cases hparse : parse settings state <;> rw [hparse] at hrun <;> cases hrun
  rfl

theorem run_bind (parse : Parse α) (continued : α → Parse β) (state : ParseState) :
    (parse >>= continued).run settings state =
      match parse.run settings state with
      | (.ok value, middle) => (continued value).run settings middle
      | (.error failure, middle) => (.error failure, middle) := by
  unfold run
  cases hparse : parse settings state with
  | ok value middle => rw [bind_of_ok hparse]
  | error failure middle => rw [bind_of_error hparse]

theorem run_attempt (parse : Parse α) (state : ParseState) :
    (attempt parse).run settings state =
      (.ok (parse.run settings state).1, (parse.run settings state).2) := by
  unfold run attempt
  cases parse settings state <;> rfl

theorem attempt_of_ok {value : α} (hrun : parse settings state = .ok value next) :
    attempt parse settings state = .ok (.ok value) next := by
  simp only [attempt, hrun]

theorem attempt_of_error {failure : Failure} (hrun : parse settings state = .error failure next) :
    attempt parse settings state = .ok (.error failure) next := by
  simp only [attempt, hrun]

theorem attempt_eq_ok {value : α} :
    attempt parse settings state = .ok (.ok value) next ↔
      parse settings state = .ok value next := by
  cases hrun : parse settings state with
  | ok found middle => simp [attempt_of_ok hrun]
  | error failure middle => simp [attempt_of_error hrun]

theorem orFail_eq_ok {parse : Parse (Option α)} {failure : Failure} {value : α} :
    orFail parse failure settings state = .ok value next ↔
      parse settings state = .ok (some value) next := by
  unfold orFail
  rw [bind_eq_ok]
  constructor
  · rintro ⟨found?, middle, hrun, hfound⟩
    cases found? with
    | none => cases hfound
    | some found =>
        cases hfound
        exact hrun
  · intro hrun
    exact ⟨some value, next, hrun, rfl⟩

theorem bracket_eq_ok {before after : ParseState → ParseState} {value : α} :
    bracket before after parse settings state = .ok value next ↔
      ∃ middle, parse settings (before state) = .ok value middle ∧ after middle = next := by
  unfold bracket
  cases parse settings (before state) <;> simp

theorem run_bracket (before after : ParseState → ParseState) (parse : Parse α)
    (state : ParseState) :
    (bracket before after parse).run settings state =
      ((parse.run settings (before state)).1, after (parse.run settings (before state)).2) := by
  unfold run bracket
  cases parse settings (before state) <;> rfl

end Parse

end SubsetC
