import SubsetC.Proofs.Reports
import SubsetC.Ty.Rules

/-!
# What a parse adds to the journal

The misuses of operators that a parse reports are related to the value that it gives.
Only runs that meet no fault are considered, and the same runs are compared with those
under another policy: the two may differ in what they say about failed operands, and a
run does not notice.
-/

namespace SubsetC

namespace TypeRules

/-- A policy that gives an operator a type or refuses its operands, but never gives it
the type of a failure. -/
structure Proper (rules : TypeRules) : Prop where
  binary : ∀ operator lhs rhs, rules.binary operator lhs rhs ≠ some .error
  not : ∀ operand, rules.not operand ≠ some .error
  step : ∀ operand, rules.step operand ≠ some .error

/-- Two policies that differ only on operands that have failed. -/
structure AgreesOffErrors (rules other : TypeRules) : Prop where
  binary : ∀ operator {lhs rhs}, lhs ≠ .error → rhs ≠ .error →
    other.binary operator lhs rhs = rules.binary operator lhs rhs
  not : ∀ {operand}, operand ≠ .error → other.not operand = rules.not operand
  step : ∀ {operand}, operand ≠ .error → other.step operand = rules.step operand

variable {rules other : TypeRules}

theorem AgreesOffErrors.judgeBinary (hagrees : rules.AgreesOffErrors other) (operator : BinaryOp)
    (lhs rhs : Ty) : other.judgeBinary operator lhs rhs = rules.judgeBinary operator lhs rhs := by
  unfold TypeRules.judgeBinary
  split
  · rfl
  · rename_i hfailed
    obtain ⟨hlhs, hrhs⟩ := not_or.1 hfailed
    rw [hagrees.binary operator hlhs hrhs]

theorem AgreesOffErrors.judgeNot (hagrees : rules.AgreesOffErrors other) (operand : Ty) :
    other.judgeNot operand = rules.judgeNot operand := by
  unfold TypeRules.judgeNot
  split
  · rfl
  · rename_i hfailed
    rw [hagrees.not hfailed]

theorem AgreesOffErrors.judgeStep (hagrees : rules.AgreesOffErrors other) (operand : Ty) :
    other.judgeStep operand = rules.judgeStep operand := by
  unfold TypeRules.judgeStep
  split
  · rfl
  · rename_i hfailed
    rw [hagrees.step hfailed]

end TypeRules

def Settings.withRules (settings : Settings) (rules : TypeRules) : Settings :=
  { settings with rules := rules }

namespace Parse

variable {α β : Type} {settings : Settings} {rules : TypeRules}

/-- A parse gives a value and adds misuses of operators that are related in the given
way, unless it meets a fault.  It runs alike under the other policy. -/
structure Adds (settings : Settings) (rules : TypeRules) (Q : α → List Misuse → Prop)
    (parse : Parse α) : Prop where
  same : ∀ state, parse (settings.withRules rules) state = parse settings state
  keeps : ∀ state, KeepsReports state (parse.run settings state).2
  adds : ∀ {state value next}, parse settings state = .ok value next →
    next.journal.faults = state.journal.faults →
      ∃ added, next.journal.operatorMisuses = state.journal.operatorMisuses ++ added ∧
        Q value added

abbrev Silent (settings : Settings) (rules : TypeRules) (parse : Parse α) : Prop :=
  Adds settings rules (fun _ added => added = []) parse

namespace Adds

variable {P : α → List Misuse → Prop} {Q : β → List Misuse → Prop} {parse : Parse α}

theorem keeps_ok (hparse : Adds settings rules P parse) {state value next}
    (hrun : parse settings state = .ok value next) : KeepsReports state next := by
  have hkeeps := hparse.keeps state
  rwa [run_of_ok hrun] at hkeeps

theorem imp {R : α → List Misuse → Prop} (hparse : Adds settings rules P parse)
    (himplies : ∀ value added, P value added → R value added) : Adds settings rules R parse where
  same := hparse.same
  keeps := hparse.keeps
  adds hrun hfaults := by
    obtain ⟨added, hadded, hvalue⟩ := hparse.adds hrun hfaults
    exact ⟨added, hadded, himplies _ _ hvalue⟩

theorem pure {value : α} (hvalue : P value []) : Adds settings rules P (pure value) where
  same _ := rfl
  keeps _ := StepRelation.refl _
  adds hrun _ := by
    cases hrun
    exact ⟨[], (List.append_nil _).symm, hvalue⟩

theorem throw (failure : Failure) : Adds settings rules P (throw failure : Parse α) where
  same _ := rfl
  keeps _ := StepRelation.refl _
  adds hrun _ := by simp at hrun

theorem failAt (fault : Fault) (position : Position) :
    Adds settings rules P (failAt fault position : Parse α) :=
  throw _

/-- What the second part adds follows what the first part added.  Both parts meet no
fault if the whole meets none, since faults are never taken back. -/
theorem bind {continued : α → Parse β} (hparse : Adds settings rules P parse)
    (hcontinued : ∀ value, Adds settings rules
      (fun result later => ∀ first, P value first → Q result (first ++ later)) (continued value)) :
    Adds settings rules Q (parse >>= continued) where
  same state := by
    have hfirst := hparse.same state
    cases hrun : parse settings state with
    | ok value middle =>
        rw [bind_of_ok hrun, bind_of_ok (hfirst.trans hrun), (hcontinued value).same]
    | error failure middle => rw [bind_of_error hrun, bind_of_error (hfirst.trans hrun)]
  keeps state := by
    have hfirst := hparse.keeps state
    rw [run_bind]
    rcases hrun : parse.run settings state with ⟨failure | value, middle⟩
    · rwa [hrun] at hfirst
    · rw [hrun] at hfirst
      exact StepRelation.trans hfirst ((hcontinued value).keeps middle)
  adds {state result next} hrun hfaults := by
    obtain ⟨value, middle, hfirst, hsecond⟩ := bind_eq_ok.1 hrun
    have hbefore := (hparse.keeps_ok hfirst).faults
    have hafter := ((hcontinued value).keeps_ok hsecond).faults
    have hmiddle : middle.journal.faults = state.journal.faults :=
      (hbefore.eq_of_length_le (hfaults ▸ hafter.length_le)).symm
    obtain ⟨first, hadded, hvalue⟩ := hparse.adds hfirst hmiddle
    obtain ⟨later, hlater, hresult⟩ := (hcontinued value).adds hsecond (hfaults.trans hmiddle.symm)
    refine ⟨first ++ later, ?_, hresult first hvalue⟩
    rw [hlater, hadded, List.append_assoc]

theorem after {continued : α → Parse β} (hparse : Silent settings rules parse)
    (hcontinued : ∀ value, Adds settings rules Q (continued value)) :
    Adds settings rules Q (parse >>= continued) := by
  apply hparse.bind
  intro value
  apply (hcontinued value).imp
  rintro result later hresult first rfl
  exact hresult

/-- The first part adds what can be read off its value. -/
theorem collect {read : α → List Misuse} {continued : α → Parse β}
    (hparse : Adds settings rules (fun value added => added = read value) parse)
    (hcontinued : ∀ value, Adds settings rules
      (fun result later => Q result (read value ++ later)) (continued value)) :
    Adds settings rules Q (parse >>= continued) := by
  apply hparse.bind
  intro value
  apply (hcontinued value).imp
  rintro result later hresult first rfl
  exact hresult

theorem map {f : α → β} (hparse : Adds settings rules P parse)
    (hf : ∀ value added, P value added → Q (f value) added) :
    Adds settings rules Q (f <$> parse) := by
  rw [map_eq_pure_bind]
  apply hparse.bind
  intro value
  apply Adds.pure
  intro first hvalue
  rw [List.append_nil]
  exact hf value first hvalue

theorem ite {condition : Prop} [Decidable condition] {accepted rejected : Parse α}
    (haccepted : Adds settings rules P accepted) (hrejected : Adds settings rules P rejected) :
    Adds settings rules P (if condition then accepted else rejected) := by
  split
  · exact haccepted
  · exact hrejected

theorem get_bind {continued : ParseState → Parse α}
    (hcontinued : ∀ state, Adds settings rules P (continued state)) :
    Adds settings rules P (get >>= continued) where
  same state := (hcontinued state).same state
  keeps state := (hcontinued state).keeps state
  adds hrun := (hcontinued _).adds hrun

/-- The settings are read, and the two that are compared make no difference. -/
theorem read_bind {continued : Settings → Parse α}
    (hsame : continued (settings.withRules rules) = continued settings)
    (hcontinued : Adds settings rules P (continued settings)) :
    Adds settings rules P (read >>= continued) where
  same state := by
    rw [bind_of_ok read_run, bind_of_ok read_run, hsame]
    exact hcontinued.same state
  keeps := hcontinued.keeps
  adds hrun := hcontinued.adds hrun

theorem attempt (hparse : Adds settings rules P parse) :
    Adds settings rules (fun result added => ∀ value, result = .ok value → P value added)
      (attempt parse) where
  same state := by
    unfold Parse.attempt
    rw [hparse.same]
  keeps state := by
    rw [run_attempt]
    exact hparse.keeps state
  adds {state result next} hrun hfaults := by
    unfold Parse.attempt at hrun
    cases hresult : parse settings state with
    | ok value middle =>
        rw [hresult] at hrun
        cases hrun
        obtain ⟨added, hadded, hvalue⟩ := hparse.adds hresult hfaults
        refine ⟨added, hadded, ?_⟩
        rintro found ⟨⟩
        exact hvalue
    | error failure middle =>
        have hkeeps := hparse.keeps state
        simp only [run, hresult] at hkeeps
        rw [hresult] at hrun
        cases hrun
        obtain ⟨added, hadded⟩ := hkeeps.operatorMisuses
        exact ⟨added, hadded.symm, fun value hvalue => by contradiction⟩

/-- After a failed attempt anything may have been added. -/
theorem attempt_collect {read : α → List Misuse} {continued : Except Failure α → Parse β}
    (hparse : Adds settings rules (fun value added => added = read value) parse)
    (hok : ∀ value, Adds settings rules (fun result later => Q result (read value ++ later))
      (continued (.ok value)))
    (herror : ∀ failure, Adds settings rules (fun result later => ∀ first, Q result (first ++ later))
      (continued (.error failure))) :
    Adds settings rules Q (Parse.attempt parse >>= continued) := by
  apply hparse.attempt.bind
  intro found
  cases found with
  | ok value =>
      apply (hok value).imp
      intro result later hresult first hfirst
      rw [hfirst value rfl]
      exact hresult
  | error failure =>
      -- Nothing relates what was added before the failure to a value.
      exact (herror failure).imp fun result later hresult first _ => hresult first

theorem orFail {parse : Parse (Option α)} (failure : Failure)
    (hparse : Adds settings rules (fun value? added => ∀ value, value? = some value → P value added)
      parse) : Adds settings rules P (orFail parse failure) := by
  unfold Parse.orFail
  apply hparse.bind
  intro value?
  cases value? with
  | none => exact .throw failure
  | some value =>
      apply Adds.pure
      intro first hvalue
      rw [List.append_nil]
      exact hvalue value rfl

/-- A parse that changes its state, but not the journal, and then runs another one. -/
theorem of_step (hstep : ∀ state, ∃ (rest : Parse α) (changed : ParseState),
      (∀ settings, parse settings state = rest settings changed) ∧
        changed.journal = state.journal ∧ Adds settings rules P rest) :
    Adds settings rules P parse where
  same state := by
    obtain ⟨rest, changed, hrun, -, hrest⟩ := hstep state
    rw [hrun, hrun]
    exact hrest.same changed
  keeps state := by
    obtain ⟨rest, changed, hrun, hjournal, hrest⟩ := hstep state
    have hkeeps := hrest.keeps changed
    unfold KeepsReports at *
    rwa [run_congr (hrun settings), ← hjournal]
  adds {state value next} hfound hfaults := by
    obtain ⟨rest, changed, hrun, hjournal, hrest⟩ := hstep state
    rw [hrun] at hfound
    rw [← hjournal] at hfaults ⊢
    exact hrest.adds hfound hfaults

/-- Whatever follows a fault is not considered. -/
theorem after_fault {continued : α → Parse β}
    (hparse : Adds settings rules (fun _ _ => False) parse)
    (hcontinued : ∀ value, Silent settings rules (continued value)) :
    Adds settings rules Q (parse >>= continued) := by
  apply hparse.bind
  intro value
  exact (hcontinued value).imp fun _ _ _ _ hfalse => hfalse.elim

end Adds

/-! ## Elementary parses -/

section Elementary

theorem silent_of_run {parse : Parse α} {value : ParseState → α}
    {change : ParseState → ParseState}
    (hrun : ∀ settings state, parse settings state = .ok (value state) (change state))
    (hjournal : ∀ state, (change state).journal.diagnostics = state.journal.diagnostics) :
    Silent settings rules parse where
  same state := by rw [hrun, hrun]
  keeps state := by
    rw [run_of_ok (hrun settings state)]
    unfold KeepsReports
    exact hjournal state ▸ List.prefix_rfl
  adds {state found next} hfound _ := by
    rw [hrun] at hfound
    cases hfound
    refine ⟨[], ?_, rfl⟩
    unfold Journal.operatorMisuses
    rw [hjournal, List.append_nil]

theorem current_silent : Silent settings rules current :=
  silent_of_run (fun _ _ => rfl) fun _ => rfl

theorem kind_silent : Silent settings rules kind :=
  silent_of_run (fun _ _ => rfl) fun _ => rfl

theorem position_silent : Silent settings rules position :=
  silent_of_run (fun _ _ => rfl) fun _ => rfl

theorem remaining_silent : Silent settings rules remaining :=
  silent_of_run (fun _ _ => rfl) fun _ => rfl

theorem advance_silent : Silent settings rules advance :=
  silent_of_run (fun _ _ => rfl) fun _ => rfl

theorem skipTo_silent (target : TokenKind) : Silent settings rules (skipTo target) :=
  silent_of_run (fun _ _ => rfl) fun _ => rfl

theorem note_silent (event : Event) : Silent settings rules (note event) :=
  silent_of_run (fun _ _ => rfl) fun _ => rfl

theorem markPrintf_silent : Silent settings rules markPrintf :=
  silent_of_run (fun _ _ => rfl) fun _ => rfl

theorem intern_silent (text : String) : Silent settings rules (intern text) :=
  silent_of_run (fun _ _ => rfl) fun _ => rfl

theorem placeholder_silent (span : Span) : Silent settings rules (placeholder span) :=
  silent_of_run (fun _ _ => rfl) fun _ => rfl

theorem accept_silent (expected : TokenKind) : Silent settings rules (accept expected) := by
  unfold accept
  apply kind_silent.after
  intro found
  exact .ite (advance_silent.after fun _ => .pure rfl) (.pure rfl)

theorem expectOr_silent (expected : TokenKind) (failure : Failure) :
    Silent settings rules (expectOr expected failure) := by
  unfold expectOr
  apply kind_silent.after
  intro found
  exact .ite advance_silent (.throw failure)

theorem expect_silent (expected : TokenKind) : Silent settings rules (expect expected) := by
  unfold expect
  exact current_silent.after fun token => expectOr_silent expected _

theorem skipPast_silent (target : TokenKind) : Silent settings rules (skipPast target) := by
  unfold skipPast resynchronize
  refine .after ?_ fun _ => advance_silent.after fun _ => .pure rfl
  refine position_silent.after fun start => (note_silent _).after fun _ =>
    (skipTo_silent target).after fun _ => kind_silent.after fun found => .ite ?_ (.pure rfl)
  exact position_silent.after fun _ => .failAt _ _

/-- A misuse is added if it is one of an operator. -/
theorem reportMisuse_adds (hchecks : settings.checks = true) (misuse : Misuse)
    (position : Position) :
    Adds settings rules
      (fun _ added => added = if misuse.isOfOperator then [misuse] else [])
      (reportMisuse misuse position) where
  same state := by
    have hother : (settings.withRules rules).checks = true := hchecks
    rw [reportMisuse_checked hchecks, reportMisuse_checked hother]
  keeps state := by
    rw [run_of_ok (reportMisuse_checked hchecks misuse position state)]
    exact StepRelation.report _ _
  adds {state value next} hrun _ := by
    rw [reportMisuse_checked hchecks] at hrun
    cases hrun
    refine ⟨_, ParseState.reported_operatorMisuses _ _, ?_⟩
    unfold Diagnostic.operatorMisuse?
    cases hmisuse : misuse.isOfOperator <;> simp [hmisuse]

theorem reportUnless_adds (hchecks : settings.checks = true) (condition : Bool) (misuse : Misuse)
    (position : Position) :
    Adds settings rules
      (fun _ added => added = if !condition && misuse.isOfOperator then [misuse] else [])
      (reportUnless condition misuse position) := by
  unfold reportUnless
  cases condition with
  | true => exact .pure rfl
  | false => exact reportMisuse_adds hchecks misuse position

theorem reportUnless_silent (hchecks : settings.checks = true) (condition : Bool) {misuse : Misuse}
    (hmisuse : misuse.isOfOperator = false) (position : Position) :
    Silent settings rules (reportUnless condition misuse position) := by
  apply (reportUnless_adds hchecks condition misuse position).imp
  rintro value added rfl
  simp [hmisuse]

theorem resolve_silent (hchecks : settings.checks = true) (name : String) (position : Position) :
    Silent settings rules (resolve name position) := by
  apply Adds.of_step
  intro state
  cases hlookup : state.symbols.lookup? name with
  | some symbol => exact ⟨pure symbol, state, fun _ => resolve_found hlookup, rfl, .pure rfl⟩
  | none =>
      have hreport : Silent settings rules
          (do reportMisuse (.undeclared name) position; return Symbol.dummy name) :=
        (reportMisuse_adds hchecks (.undeclared name) position).after fun _ => .pure rfl
      exact ⟨_, _, fun _ => resolve_planted hlookup, rfl, hreport⟩

/-- A failure that was recovered from is a fault. -/
theorem reportFailure_faults (failure : Failure) :
    Adds settings rules (fun _ _ => False) (reportFailure failure) where
  same _ := rfl
  keeps _ := StepRelation.report _ _
  adds {state value next} hrun hfaults := by
    cases hrun
    have hgrown : (state.reported (.ofFailure failure)).journal.faults = state.journal.faults :=
      hfaults
    rw [ParseState.reported_faults] at hgrown
    simp [Diagnostic.ofFailure, Diagnostic.isMisuse] at hgrown

theorem recoverPast_faults (delimiter : TokenKind) (failure : Failure) :
    Adds settings rules (fun _ _ => False) (recoverPast delimiter failure) := by
  unfold recoverPast
  refine .ite (.throw failure) ?_
  exact (reportFailure_faults failure).after_fault fun _ => skipPast_silent delimiter

end Elementary

end Parse

end SubsetC
