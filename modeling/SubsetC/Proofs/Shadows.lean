import SubsetC.Proofs.Gives
import SubsetC.Proofs.Reports

/-!
# Parsing without checks

A parse is run twice on the same tokens, with checks and without.  The second run
shadows the first as long as the first does not pass over a construct for a misuse of
its name: it moves alike, declares alike, and of the reports it has the faults.

The relation is closed under the ways in which parses are put together, so the rules of
the grammar are compared part by part.
-/

namespace SubsetC

def Settings.unchecked (settings : Settings) : Settings := { settings with checks := false }

/-- A construct may have been passed over because of a misuse. -/
abbrev ParseState.Rejected (state : ParseState) : Prop := state.Shows Diagnostic.rejects

/-- A state without checks that goes with a state with checks. -/
structure Unchecks (state other : ParseState) : Prop where
  cursor : other.cursor = state.cursor
  symbols : other.symbols = state.symbols
  strings : other.strings = state.strings
  needsPrintf : other.needsPrintf = state.needsPrintf
  returnType? : other.returnType? = state.returnType?
  diagnostics : other.journal.diagnostics.toList = state.journal.faults

namespace Unchecks

variable {state other : ParseState}

theorem exists_other (state : ParseState) : ∃ other, Unchecks state other :=
  ⟨{ state with journal := { diagnostics := state.journal.faults.toArray } },
    ⟨rfl, rfl, rfl, rfl, rfl, rfl⟩⟩

theorem reported (hstate : Unchecks state other) {diagnostic : Diagnostic}
    (hfault : diagnostic.isMisuse = false) :
    Unchecks (state.reported diagnostic) (other.reported diagnostic) where
  __ := hstate
  diagnostics := by
    rw [ParseState.reported_diagnostics, ParseState.reported_faults, hstate.diagnostics, hfault]
    rfl

/-- A misuse is reported on one side only. -/
theorem reported_misuse (hstate : Unchecks state other) (misuse : Misuse) (position : Position) :
    Unchecks (state.reported { cause := .misuse misuse, position := position }) other where
  __ := hstate
  diagnostics := by
    rw [ParseState.reported_faults, hstate.diagnostics]
    exact (List.append_nil _).symm

end Unchecks

namespace Parse

variable {α β γ δ : Type} {settings : Settings}

/-! ## Shadows -/

/-- The outcome of a run and that of the run that goes with it, up to a change of the
values. -/
structure Parallel (f : α → β) (outcome : Except Failure α × ParseState)
    (shadow : Except Failure β × ParseState) : Prop where
  value : shadow.1 = outcome.1.map f
  state : Unchecks outcome.2 shadow.2

/-- Without checks one parse does what the other does with checks, unless that passes
over a construct. -/
structure Shadows (settings : Settings) (f : α → β) (parse : Parse α) (shadow : Parse β) :
    Prop where
  keeps : ∀ {state}, state.Rejected → (parse.run settings state).2.Rejected
  follows : ∀ {state other}, Unchecks state other → (parse.run settings state).2.Rejected ∨
    Parallel f (parse.run settings state) (shadow.run settings.unchecked other)

namespace Shadows

variable {f : α → β} {g : γ → δ} {parse : Parse α} {shadow : Parse β}

/-- Parses that have one outcome each on states that go with each other. -/
theorem of_run (parse : Parse α) (shadow : Parse β) [Respects KeepsReports parse]
    (hrun : ∀ state other, Unchecks state other →
      Parallel f (parse.run settings state) (shadow.run settings.unchecked other)) :
    Shadows settings f parse shadow :=
  ⟨run_shows parse, fun hstate => .inr (hrun _ _ hstate)⟩

theorem pure_of {value : α} {other : β} (hvalue : f value = other) :
    Shadows settings f (pure value) (pure other) :=
  .of_run _ _ fun _ _ hstate => ⟨congrArg Except.ok hvalue.symm, hstate⟩

theorem pure (value : α) : Shadows settings f (pure value) (pure (f value)) := .pure_of rfl

theorem throw (failure : Failure) :
    Shadows settings f (throw failure : Parse α) (throw failure) :=
  .of_run _ _ fun _ _ hstate => ⟨rfl, hstate⟩

theorem failAt (fault : Fault) (position : Position) :
    Shadows settings f (failAt fault position : Parse α) (failAt fault position) :=
  throw _

/-- What goes with a parse may be replaced by what runs alike without checks. -/
theorem congr {shadow' : Parse β} (hparse : Shadows settings f parse shadow)
    (hshadow : ∀ other, shadow' settings.unchecked other = shadow settings.unchecked other) :
    Shadows settings f parse shadow' where
  keeps hrejected := hparse.keeps hrejected
  follows hstate := by
    rw [run_congr (hshadow _)]
    exact hparse.follows hstate

/-- The values that the first part gives may be restricted, and those of its shadow are
their images. -/
theorem bind_gives {P : α → Prop} {continued : α → Parse γ} {continuedShadow : β → Parse δ}
    (hparse : Shadows settings f parse shadow) (hgives : Gives settings P parse)
    (hcontinued : ∀ value, P value →
      Shadows settings g (continued value) (continuedShadow (f value))) :
    Shadows settings g (parse >>= continued) (shadow >>= continuedShadow) where
  keeps {state} hrejected := by
    have hmiddle := hparse.keeps hrejected
    rw [run_bind]
    rcases hrun : parse.run settings state with ⟨failure | value, middle⟩
    · rwa [hrun] at hmiddle
    · rw [hrun] at hmiddle
      exact (hcontinued value (hgives (run_eq_ok hrun))).keeps hmiddle
  follows {state other} hstate := by
    have hmiddle := hparse.follows hstate
    rw [run_bind, run_bind]
    rcases hrun : parse.run settings state with ⟨failure | value, middle⟩
    · rw [hrun] at hmiddle
      refine hmiddle.imp_right fun hparallel => ?_
      rcases hshadow : shadow.run settings.unchecked other with ⟨found, after⟩
      rw [hshadow] at hparallel
      obtain rfl : found = .error failure := hparallel.value
      exact ⟨rfl, hparallel.state⟩
    · rw [hrun] at hmiddle
      have hrest := hcontinued value (hgives (run_eq_ok hrun))
      rcases hmiddle with hrejected | hparallel
      · exact .inl (hrest.keeps hrejected)
      · rcases hshadow : shadow.run settings.unchecked other with ⟨found, after⟩
        rw [hshadow] at hparallel
        obtain rfl : found = .ok (f value) := hparallel.value
        exact hrest.follows hparallel.state

theorem bind {continued : α → Parse γ} {continuedShadow : β → Parse δ}
    (hparse : Shadows settings f parse shadow)
    (hcontinued : ∀ value, Shadows settings g (continued value) (continuedShadow (f value))) :
    Shadows settings g (parse >>= continued) (shadow >>= continuedShadow) :=
  hparse.bind_gives (P := fun _ => True) (fun _ _ _ _ => trivial) fun value _ => hcontinued value

theorem map {h : α → γ} {k : β → δ} (hparse : Shadows settings f parse shadow)
    (hcommutes : ∀ value, k (f value) = g (h value)) :
    Shadows settings g (h <$> parse) (k <$> shadow) := by
  rw [map_eq_pure_bind, map_eq_pure_bind]
  refine hparse.bind fun value => ?_
  rw [hcommutes]
  exact .pure (h value)

theorem ite {condition : Prop} [Decidable condition] {accepted rejected : Parse α}
    {acceptedShadow rejectedShadow : Parse β}
    (haccepted : Shadows settings f accepted acceptedShadow)
    (hrejected : Shadows settings f rejected rejectedShadow) :
    Shadows settings f (if condition then accepted else rejected)
      (if condition then acceptedShadow else rejectedShadow) := by
  split
  · exact haccepted
  · exact hrejected

theorem attempt (hparse : Shadows settings f parse shadow) :
    Shadows settings (Except.map f) (attempt parse) (attempt shadow) where
  keeps hrejected := by
    rw [run_attempt]
    exact hparse.keeps hrejected
  follows hstate := by
    rw [run_attempt, run_attempt]
    exact (hparse.follows hstate).imp_right fun hparallel =>
      ⟨congrArg Except.ok hparallel.value, hparallel.state⟩

theorem ofAttempt (result : Except Failure α) :
    Shadows settings f (ofAttempt result) (ofAttempt (result.map f)) := by
  cases result with
  | ok value => exact .pure value
  | error failure => exact .throw failure

theorem bracket {before after : ParseState → ParseState}
    (hparse : Shadows settings f parse shadow)
    (hbefore : ∀ {state other}, Unchecks state other → Unchecks (before state) (before other))
    (hafter : ∀ {state other}, Unchecks state other → Unchecks (after state) (after other))
    (hjournal : ∀ state, (before state).journal = state.journal ∧
      (after state).journal = state.journal) :
    Shadows settings f (bracket before after parse) (bracket before after shadow) where
  keeps {state} hrejected := by
    rw [run_bracket]
    unfold ParseState.Rejected ParseState.Shows at *
    rw [(hjournal _).2]
    refine hparse.keeps ?_
    unfold ParseState.Rejected ParseState.Shows
    rwa [(hjournal _).1]
  follows {state other} hstate := by
    rw [run_bracket, run_bracket]
    refine (hparse.follows (hbefore hstate)).imp (fun hrejected => ?_) fun hparallel => ?_
    · unfold ParseState.Rejected ParseState.Shows at *
      rwa [(hjournal _).2]
    · exact ⟨hparallel.value, hafter hparallel.state⟩

theorem inScope (hparse : Shadows settings f parse shadow) :
    Shadows settings f (inScope parse) (inScope shadow) :=
  hparse.bracket (fun hstate => { hstate with symbols := by simp only [hstate.symbols] })
    (fun hstate => { hstate with symbols := by simp only [hstate.symbols] }) fun _ => ⟨rfl, rfl⟩

theorem orFail {parse : Parse (Option α)} {shadow : Parse (Option β)} (failure : Failure)
    (hparse : Shadows settings (Option.map f) parse shadow) :
    Shadows settings f (orFail parse failure) (orFail shadow failure) := by
  unfold Parse.orFail
  refine hparse.bind fun value? => ?_
  cases value? with
  | none => exact .throw failure
  | some value => exact .pure value

/-- The state is read on both sides. -/
theorem get_bind {continued : ParseState → Parse α} {continuedShadow : ParseState → Parse β}
    (hcontinued : ∀ state other, Unchecks state other →
      Shadows settings f (continued state) (continuedShadow other)) :
    Shadows settings f (get >>= continued) (get >>= continuedShadow) where
  keeps {state} hrejected := by
    obtain ⟨other, hstate⟩ := Unchecks.exists_other state
    exact (hcontinued state other hstate).keeps hrejected
  follows {state other} hstate := (hcontinued state other hstate).follows hstate

/-- Anything may stand beside a parse that begins with a misuse for which a construct is
passed over. -/
theorem of_rejects {continued : Unit → Parse α} [∀ value, Respects KeepsReports (continued value)]
    (hchecks : settings.checks = true) {misuse : Misuse} (hrejects : misuse.rejects = true)
    (position : Position) (shadow : Parse β) :
    Shadows settings f (reportMisuse misuse position >>= continued) shadow where
  keeps hrejected := run_shows _ hrejected
  follows {state other} _ := by
    rw [run_bind, run_of_ok (reportMisuse_checked hchecks misuse position state)]
    exact .inl (run_shows _ (ParseState.shows_reported hrejects))

end Shadows

/-! ## Elementary parses -/

/-- Whatever the settings, a parse does the same on states that go with each other. -/
abbrev ShadowsItself (settings : Settings) (parse : Parse α) : Prop :=
  Shadows settings id parse parse

theorem Shadows.attempt_itself {parse : Parse α} (hparse : ShadowsItself settings parse) :
    ShadowsItself settings (Parse.attempt parse) := by
  have hattempt := hparse.attempt
  rwa [Except.map_id] at hattempt

section Elementary

theorem read_shadows : Shadows settings Settings.unchecked (read : Parse Settings) read :=
  .of_run _ _ fun _ _ hstate => ⟨rfl, hstate⟩

theorem current_shadows : ShadowsItself settings current :=
  .get_bind fun _ _ hstate => by
    rw [hstate.cursor]
    exact .pure _

theorem kind_shadows : ShadowsItself settings kind :=
  .get_bind fun _ _ hstate => by
    rw [hstate.cursor]
    exact .pure _

theorem position_shadows : ShadowsItself settings position :=
  .get_bind fun _ _ hstate => by
    rw [hstate.cursor]
    exact .pure _

theorem remaining_shadows : ShadowsItself settings remaining :=
  .get_bind fun _ _ hstate => by
    rw [hstate.cursor]
    exact .pure _

theorem hasTokens_shadows : ShadowsItself settings hasTokens :=
  .get_bind fun _ _ hstate => by
    rw [hstate.cursor]
    exact .pure _

theorem advance_shadows : ShadowsItself settings advance :=
  .of_run _ _ fun _ _ hstate =>
    ⟨by simp [run, hstate.cursor, Except.map],
      { hstate with cursor := by simp [run, hstate.cursor] }⟩

theorem skipTo_shadows (target : TokenKind) : ShadowsItself settings (skipTo target) :=
  .of_run _ _ fun _ _ hstate =>
    ⟨rfl, { hstate with cursor := by simp [run, skipTo, hstate.cursor] }⟩

/-- Events may differ: the checked run has the reports of misuses among them. -/
theorem note_shadows (event shadowEvent : Event) :
    Shadows settings id (note event) (note shadowEvent) :=
  .of_run _ _ fun _ _ hstate => ⟨rfl, { hstate with }⟩

theorem reportFailure_shadows (failure : Failure) :
    ShadowsItself settings (reportFailure failure) := by
  unfold reportFailure
  exact .of_run _ _ fun _ _ hstate => ⟨rfl, hstate.reported rfl⟩

theorem markPrintf_shadows : ShadowsItself settings markPrintf :=
  .of_run _ _ fun _ _ hstate => ⟨rfl, { hstate with needsPrintf := rfl }⟩

theorem intern_shadows (text : String) : ShadowsItself settings (intern text) :=
  .of_run _ _ fun _ _ hstate =>
    ⟨by simp [run, intern_run, hstate.strings, Except.map],
      { hstate with strings := by simp [run, intern_run, hstate.strings] }⟩

/-- Without checks no misuse is reported. -/
theorem reportMisuse_shadowed (misuse : Misuse) (position : Position) :
    Shadows settings id (reportMisuse misuse position) (pure ⟨⟩) := by
  refine .of_run _ _ fun state other hstate => ?_
  cases hchecks : settings.checks with
  | true =>
      rw [run_of_ok (reportMisuse_checked hchecks misuse position state)]
      exact ⟨rfl, hstate.reported_misuse misuse position⟩
  | false =>
      rw [run_of_ok (reportMisuse_unchecked hchecks misuse position state)]
      exact ⟨rfl, hstate⟩

theorem reportUnless_shadowed (condition : Bool) (misuse : Misuse) (position : Position) :
    Shadows settings id (reportUnless condition misuse position) (pure ⟨⟩) := by
  unfold reportUnless
  split
  · exact .pure _
  · exact reportMisuse_shadowed misuse position

/-- Neither the condition nor the misuse matters without checks. -/
theorem reportUnless_shadows (condition shadowCondition : Bool) (misuse shadowMisuse : Misuse)
    (position shadowPosition : Position) :
    Shadows settings id (reportUnless condition misuse position)
      (reportUnless shadowCondition shadowMisuse shadowPosition) := by
  refine (reportUnless_shadowed condition misuse position).congr fun other => ?_
  unfold reportUnless
  split
  · rfl
  · exact reportMisuse_unchecked rfl shadowMisuse shadowPosition other

theorem reportMisuse_shadows (misuse shadowMisuse : Misuse) (position shadowPosition : Position) :
    Shadows settings id (reportMisuse misuse position)
      (reportMisuse shadowMisuse shadowPosition) :=
  (reportMisuse_shadowed misuse position).congr fun other =>
    reportMisuse_unchecked rfl shadowMisuse shadowPosition other

theorem reportMisuse_pure_shadows (misuse : Misuse) (position : Position) (value : α) :
    ShadowsItself settings (do reportMisuse misuse position; return value) :=
  (reportMisuse_shadows misuse misuse position position).bind fun _ => .pure value

theorem accept_shadows (expected : TokenKind) : ShadowsItself settings (accept expected) := by
  unfold accept
  refine kind_shadows.bind fun found => .ite ?_ (.pure _)
  exact advance_shadows.bind fun _ => .pure _

theorem expectOr_shadows (expected : TokenKind) (failure : Failure) :
    ShadowsItself settings (expectOr expected failure) := by
  unfold expectOr
  exact kind_shadows.bind fun found => .ite advance_shadows (.throw _)

theorem expect_shadows (expected : TokenKind) : ShadowsItself settings (expect expected) := by
  unfold expect
  exact current_shadows.bind fun token => expectOr_shadows expected _

theorem resynchronize_shadows (target : TokenKind) :
    ShadowsItself settings (resynchronize target) := by
  unfold resynchronize
  refine position_shadows.bind fun start => (note_shadows _ _).bind fun _ =>
    (skipTo_shadows target).bind fun _ => kind_shadows.bind fun found => .ite ?_ (.pure _)
  exact position_shadows.bind fun _ => .failAt _ _

theorem skipPast_shadows (target : TokenKind) : ShadowsItself settings (skipPast target) := by
  unfold skipPast
  exact (resynchronize_shadows target).bind fun _ => advance_shadows.bind fun _ => .pure _

theorem recoverPast_shadows (delimiter : TokenKind) (failure : Failure) :
    ShadowsItself settings (recoverPast delimiter failure) := by
  unfold recoverPast
  refine .ite (.throw _) ?_
  exact (reportFailure_shadows failure).bind fun _ => skipPast_shadows delimiter

/-- A dummy is planted for an unknown name, with a report of it or without. -/
theorem resolve_shadows (name : String) (position : Position) :
    ShadowsItself settings (resolve name position) where
  keeps := run_shows _
  follows {state other} hstate := by
    cases hlookup : state.symbols.lookup? name with
    | some symbol =>
        have hother : other.symbols.lookup? name = some symbol := by rw [hstate.symbols, hlookup]
        rw [run_of_ok (resolve_found hlookup), run_of_ok (resolve_found hother)]
        exact .inr ⟨rfl, hstate⟩
    | none =>
        have hother : other.symbols.lookup? name = none := by rw [hstate.symbols, hlookup]
        rw [run_congr (resolve_planted hlookup), run_congr (resolve_planted hother)]
        refine (reportMisuse_pure_shadows _ _ _).follows ?_
        exact { hstate with symbols := by simp only [hstate.symbols] }

theorem declareVariable_shadows (name : Token) (ty : Ty) :
    ShadowsItself settings (declareVariable name ty) where
  keeps := run_shows _
  follows {state other} hstate := by
    cases hdeclare : state.symbols.declare (.variable name.text ty) with
    | ok symbols =>
        have hother := hdeclare
        rw [← hstate.symbols] at hother
        rw [run_of_ok (declareVariable_declared hdeclare),
          run_of_ok (declareVariable_declared hother)]
        exact .inr ⟨rfl, { hstate with symbols := rfl }⟩
    | error existing =>
        have hother := hdeclare
        rw [← hstate.symbols] at hother
        rw [run_congr (declareVariable_refused hdeclare),
          run_congr (declareVariable_refused hother)]
        exact (reportMisuse_pure_shadows _ _ _).follows hstate

theorem declareFunction_shadows (name : Token) (signature : Signature) :
    ShadowsItself settings (declareFunction name signature) where
  keeps := run_shows _
  follows {state other} hstate := by
    cases hdeclare : state.symbols.declareGlobal (.function name.text signature) with
    | ok symbols =>
        have hother := hdeclare
        rw [← hstate.symbols] at hother
        rw [run_of_ok (declareFunction_declared hdeclare),
          run_of_ok (declareFunction_declared hother)]
        exact .inr ⟨rfl, { hstate with symbols := rfl }⟩
    | error existing =>
        have hother := hdeclare
        rw [← hstate.symbols] at hother
        rw [run_congr (declareFunction_refused hdeclare),
          run_congr (declareFunction_refused hother)]
        exact (reportMisuse_pure_shadows _ _ _).follows hstate

end Elementary

end Parse

end SubsetC
