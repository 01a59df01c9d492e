import SubsetC.Proofs.Respects

/-!
# Quiet runs

A run is quiet if it succeeds and reports nothing.  Since the journal only grows,
every part of a quiet run is quiet, so a quiet run of a rule comes down to quiet
runs of the rules it is made of.  A recovery always reports, and a check that
fails reports if checks are on: neither is part of a quiet run.
-/

namespace SubsetC

theorem Cursor.ahead_eq_cons {cursor : Cursor} (hkind : cursor.kind ≠ .eof) :
    cursor.ahead = cursor.current :: cursor.advance.ahead := by
  cases hahead : cursor.ahead with
  | nil => simp [kind, current, hahead, cursor.last_kind] at hkind
  | cons token others => simp [current, advance, hahead]

namespace Parse

variable {α β : Type} {settings : Settings} {state middle next : ParseState}

def Quiet (parse : Parse α) (settings : Settings) (state : ParseState) (value : α)
    (next : ParseState) : Prop :=
  parse settings state = .ok value next ∧ next.journal.size ≤ state.journal.size

theorem Quiet.readsOn {parse : Parse α} [Respects ReadsOn parse] {value : α}
    (hquiet : Quiet parse settings state value next) :
    next.cursor.ahead <:+ state.cursor.ahead :=
  Respects.ok (R := ReadsOn) hquiet.1

theorem Quiet.diagnostics_eq {parse : Parse α} [Respects KeepsReports parse] {value : α}
    (hquiet : Quiet parse settings state value next) :
    next.journal.diagnostics = state.journal.diagnostics := by
  have hkeeps : KeepsReports state next := Respects.ok hquiet.1
  have hlength : next.journal.diagnostics.toList.length ≤
      state.journal.diagnostics.toList.length := hquiet.2
  exact (Array.toList_inj.1 (hkeeps.eq_of_length_le hlength)).symm

/-- The parts of a quiet sequence are quiet. -/
theorem quiet_bind_of {parse : Parse α} {continued : α → Parse β} {result : β}
    (hparse : Respects ReportsMore parse)
    (hcontinued : ∀ value, Respects ReportsMore (continued value)) :
    Quiet (parse >>= continued) settings state result next ↔
      ∃ value middle, Quiet parse settings state value middle ∧
        Quiet (continued value) settings middle result next := by
  constructor
  · rintro ⟨hrun, hsize⟩
    obtain ⟨value, middle, hfirst, hsecond⟩ := bind_eq_ok.1 hrun
    have hmore : state.journal.size ≤ middle.journal.size := hparse.ok hfirst
    have hmoreAfter : middle.journal.size ≤ next.journal.size := (hcontinued value).ok hsecond
    exact ⟨value, middle, ⟨hfirst, Nat.le_trans hmoreAfter hsize⟩, hsecond,
      Nat.le_trans hsize hmore⟩
  · rintro ⟨value, middle, ⟨hfirst, hsize⟩, hsecond, hsizeAfter⟩
    exact ⟨bind_eq_ok.2 ⟨value, middle, hfirst, hsecond⟩, Nat.le_trans hsizeAfter hsize⟩

theorem quiet_bind {parse : Parse α} {continued : α → Parse β} {result : β}
    [Respects ReportsMore parse] [∀ value, Respects ReportsMore (continued value)] :
    Quiet (parse >>= continued) settings state result next ↔
      ∃ value middle, Quiet parse settings state value middle ∧
        Quiet (continued value) settings middle result next :=
  quiet_bind_of inferInstance inferInstance

/-- A parse that always succeeds and leaves the diagnostics alone. -/
theorem quiet_of_run {parse : Parse α} {expected value : α} {changed : ParseState}
    (hrun : parse settings state = .ok expected changed)
    (hsize : changed.journal.size = state.journal.size) :
    Quiet parse settings state value next ↔ value = expected ∧ next = changed := by
  constructor
  · rintro ⟨hvalue, -⟩
    rw [hrun] at hvalue
    cases hvalue
    exact ⟨rfl, rfl⟩
  · rintro ⟨rfl, rfl⟩
    exact ⟨hrun, Nat.le_of_eq hsize⟩

/-- A first part that leaves the diagnostics alone can be run at once. -/
theorem quiet_bind_of_run {parse : Parse α} {continued : α → Parse β} {value : α}
    {result : β} (hrun : parse settings state = .ok value middle)
    (hsize : middle.journal.size = state.journal.size) :
    Quiet (parse >>= continued) settings state result next ↔
      Quiet (continued value) settings middle result next := by
  unfold Quiet
  rw [bind_of_ok hrun, hsize]

/-! ## Elementary parses -/

@[simp] theorem quiet_pure {expected value : α} :
    Quiet (pure expected) settings state value next ↔ value = expected ∧ next = state :=
  quiet_of_run (pure_run expected) rfl

@[simp] theorem quiet_map {f : α → β} {parse : Parse α} {result : β}
    [Respects ReportsMore parse] :
    Quiet (f <$> parse) settings state result next ↔
      ∃ value, Quiet parse settings state value next ∧ result = f value := by
  rw [map_eq_pure_bind, quiet_bind]
  constructor
  · rintro ⟨value, middle, hparse, hpure⟩
    obtain ⟨rfl, rfl⟩ := quiet_pure.1 hpure
    exact ⟨value, hparse, rfl⟩
  · rintro ⟨value, hparse, rfl⟩
    exact ⟨value, next, hparse, quiet_pure.2 ⟨rfl, rfl⟩⟩

@[simp] theorem not_quiet_throw {failure : Failure} {value : α} :
    ¬ Quiet (throw failure) settings state value next := by
  simp [Quiet]

@[simp] theorem not_quiet_failAt {fault : Fault} {position : Position} {value : α} :
    ¬ Quiet (failAt fault position) settings state value next := by
  simp [Quiet]

@[simp] theorem quiet_pure_bind {value : α} {continued : α → Parse β} {result : β} :
    Quiet (pure value >>= continued) settings state result next ↔
      Quiet (continued value) settings state result next :=
  quiet_bind_of_run (pure_run value) rfl

@[simp] theorem quiet_get_bind {continued : ParseState → Parse β} {result : β} :
    Quiet (get >>= continued) settings state result next ↔
      Quiet (continued state) settings state result next :=
  quiet_bind_of_run get_run rfl

@[simp] theorem quiet_read_bind {continued : Settings → Parse β} {result : β} :
    Quiet (read >>= continued) settings state result next ↔
      Quiet (continued settings) settings state result next :=
  quiet_bind_of_run read_run rfl

@[simp] theorem quiet_current_bind {continued : Token → Parse β} {result : β} :
    Quiet (current >>= continued) settings state result next ↔
      Quiet (continued state.cursor.current) settings state result next :=
  quiet_bind_of_run current_run rfl

@[simp] theorem quiet_kind_bind {continued : TokenKind → Parse β} {result : β} :
    Quiet (kind >>= continued) settings state result next ↔
      Quiet (continued state.cursor.kind) settings state result next :=
  quiet_bind_of_run kind_run rfl

@[simp] theorem quiet_position_bind {continued : Position → Parse β} {result : β} :
    Quiet (position >>= continued) settings state result next ↔
      Quiet (continued state.cursor.current.span.start) settings state result next :=
  quiet_bind_of_run position_run rfl

@[simp] theorem quiet_remaining_bind {continued : Nat → Parse β} {result : β} :
    Quiet (remaining >>= continued) settings state result next ↔
      Quiet (continued state.cursor.remaining) settings state result next :=
  quiet_bind_of_run remaining_run rfl

@[simp] theorem quiet_hasTokens_bind {continued : Bool → Parse β} {result : β} :
    Quiet (hasTokens >>= continued) settings state result next ↔
      Quiet (continued (decide (state.cursor.kind ≠ .eof))) settings state result next :=
  quiet_bind_of_run hasTokens_run rfl

@[simp] theorem quiet_advance_bind {continued : Token → Parse β} {result : β} :
    Quiet (advance >>= continued) settings state result next ↔
      Quiet (continued state.cursor.current) settings state.advanced result next :=
  quiet_bind_of_run advance_run rfl

@[simp] theorem quiet_note_bind {event : Event} {continued : Unit → Parse β} {result : β} :
    Quiet (note event >>= continued) settings state result next ↔
      Quiet (continued ()) settings (state.noted event) result next :=
  quiet_bind_of_run (note_run event) rfl

@[simp] theorem quiet_advance {token : Token} :
    Quiet advance settings state token next ↔
      token = state.cursor.current ∧ next = state.advanced :=
  quiet_of_run advance_run rfl

@[simp] theorem not_quiet_record {diagnostic : Diagnostic} {result : Unit} :
    ¬ Quiet (record diagnostic) settings state result next := by
  rintro ⟨hrun, hsize⟩
  rw [record_run] at hrun
  cases hrun
  rw [ParseState.reported_journal_size] at hsize
  omega

theorem accept_run_of_eq {expected : TokenKind} (hkind : state.cursor.kind = expected) :
    accept expected settings state = .ok true state.advanced := by
  unfold accept
  rw [bind_of_ok kind_run, if_pos hkind, bind_of_ok advance_run, pure_run]

theorem accept_run_of_ne {expected : TokenKind} (hkind : state.cursor.kind ≠ expected) :
    accept expected settings state = .ok false state := by
  unfold accept
  rw [bind_of_ok kind_run, if_neg hkind, pure_run]

theorem expectOr_run_of_eq {expected : TokenKind} {failure : Failure}
    (hkind : state.cursor.kind = expected) :
    expectOr expected failure settings state = .ok state.cursor.current state.advanced := by
  unfold expectOr
  rw [bind_of_ok kind_run, if_pos hkind, advance_run]

theorem expectOr_run_of_ne {expected : TokenKind} {failure : Failure}
    (hkind : state.cursor.kind ≠ expected) :
    expectOr expected failure settings state = .error failure state := by
  unfold expectOr
  rw [bind_of_ok kind_run, if_neg hkind, throw_run]

theorem expect_run {expected : TokenKind} (hkind : state.cursor.kind = expected) :
    expect expected settings state = .ok state.cursor.current state.advanced :=
  (bind_of_ok current_run).trans (expectOr_run_of_eq hkind)

theorem kind_of_expect {expected : TokenKind} {token : Token}
    (hrun : expect expected settings state = .ok token next) : state.cursor.kind = expected := by
  by_contra hkind
  unfold expect at hrun
  rw [bind_of_ok current_run, expectOr_run_of_ne hkind] at hrun
  cases hrun

@[simp] theorem quiet_accept_bind {expected : TokenKind} {continued : Bool → Parse β}
    {result : β} :
    Quiet (accept expected >>= continued) settings state result next ↔
      state.cursor.kind = expected ∧
          Quiet (continued true) settings state.advanced result next ∨
        state.cursor.kind ≠ expected ∧
          Quiet (continued false) settings state result next := by
  by_cases hkind : state.cursor.kind = expected
  · rw [quiet_bind_of_run (accept_run_of_eq hkind) rfl]
    simp [hkind]
  · rw [quiet_bind_of_run (accept_run_of_ne hkind) rfl]
    simp [hkind]

@[simp] theorem quiet_expectOr_bind {expected : TokenKind} {failure : Failure}
    {continued : Token → Parse β} {result : β} :
    Quiet (expectOr expected failure >>= continued) settings state result next ↔
      state.cursor.kind = expected ∧
        Quiet (continued state.cursor.current) settings state.advanced result next := by
  by_cases hkind : state.cursor.kind = expected
  · rw [quiet_bind_of_run (expectOr_run_of_eq hkind) rfl]
    simp [hkind]
  · simp [Quiet, bind_of_error (expectOr_run_of_ne hkind), hkind]

@[simp] theorem quiet_expectOr {expected : TokenKind} {failure : Failure} {token : Token} :
    Quiet (expectOr expected failure) settings state token next ↔
      state.cursor.kind = expected ∧ token = state.cursor.current ∧
        next = state.advanced := by
  rw [← bind_pure (expectOr expected failure), quiet_expectOr_bind, quiet_pure]

@[simp] theorem quiet_expect_bind {expected : TokenKind} {continued : Token → Parse β}
    {result : β} :
    Quiet (expect expected >>= continued) settings state result next ↔
      state.cursor.kind = expected ∧
        Quiet (continued state.cursor.current) settings state.advanced result next := by
  unfold expect
  rw [bind_assoc, quiet_current_bind, quiet_expectOr_bind]

@[simp] theorem quiet_expect {expected : TokenKind} {token : Token} :
    Quiet (expect expected) settings state token next ↔
      state.cursor.kind = expected ∧ token = state.cursor.current ∧
        next = state.advanced := by
  rw [← bind_pure (expect expected), quiet_expect_bind, quiet_pure]

@[simp] theorem quiet_reportMisuse {misuse : Misuse} {position : Position} {result : Unit} :
    Quiet (reportMisuse misuse position) settings state result next ↔
      settings.checks = false ∧ next = state := by
  cases hchecks : settings.checks <;> simp [reportMisuse, hchecks]

@[simp] theorem quiet_reportUnless {condition : Bool} {misuse : Misuse}
    {position : Position} {result : Unit} :
    Quiet (reportUnless condition misuse position) settings state result next ↔
      (settings.checks = true → condition = true) ∧ next = state := by
  cases condition <;> simp [reportUnless]

@[simp] theorem quiet_reportUnless_bind {condition : Bool} {misuse : Misuse}
    {position : Position} {continued : Unit → Parse β} {result : β}
    [Respects ReportsMore (continued ())] :
    Quiet (reportUnless condition misuse position >>= continued) settings state result next ↔
      (settings.checks = true → condition = true) ∧
        Quiet (continued ()) settings state result next := by
  rw [quiet_bind_of inferInstance fun _ => inferInstanceAs (Respects _ (continued ()))]
  constructor
  · rintro ⟨reported, middle, hreport, hcontinued⟩
    obtain ⟨hpassed, rfl⟩ := quiet_reportUnless.1 hreport
    exact ⟨hpassed, hcontinued⟩
  · rintro ⟨hpassed, hcontinued⟩
    exact ⟨(), state, quiet_reportUnless.2 ⟨hpassed, rfl⟩, hcontinued⟩

/-- A recovery reports the failure that it recovers from. -/
@[simp] theorem not_quiet_recoverPast {delimiter : TokenKind} {failure : Failure}
    {result : Unit} :
    ¬ Quiet (recoverPast delimiter failure) settings state result next := by
  unfold recoverPast
  split
  · exact not_quiet_throw
  · rw [quiet_bind]
    rintro ⟨reported, middle, hreport, -⟩
    exact not_quiet_record hreport

theorem quiet_resolve {name : String} {position : Position} {symbol : Symbol} :
    Quiet (resolve name position) settings state symbol next ↔
      state.symbols.lookup? name = some symbol ∧ next = state ∨
        state.symbols.lookup? name = none ∧ settings.checks = false ∧
          symbol = .dummy name ∧
          next = { state with symbols := state.symbols.bind (.dummy name) } := by
  cases hlookup : state.symbols.lookup? name with
  | some found =>
      rw [quiet_of_run (resolve_found hlookup) rfl]
      constructor
      · rintro ⟨rfl, rfl⟩
        exact .inl ⟨rfl, rfl⟩
      · rintro (⟨hfound, rfl⟩ | ⟨hnone, -⟩)
        · cases hfound
          exact ⟨rfl, rfl⟩
        · contradiction
  | none =>
      have hplanted :
          Quiet (resolve name position) settings state symbol next ↔
            Quiet (do reportMisuse (.undeclared name) position; return Symbol.dummy name)
              settings { state with symbols := state.symbols.bind (.dummy name) }
              symbol next := by
        unfold Quiet
        rw [resolve_planted hlookup]
      rw [hplanted, quiet_bind]
      constructor
      · rintro ⟨reported, middle, hreport, hvalue⟩
        obtain ⟨hchecks, rfl⟩ := quiet_reportMisuse.1 hreport
        exact .inr ⟨rfl, hchecks, quiet_pure.1 hvalue⟩
      · rintro (⟨hfound, -⟩ | ⟨-, hchecks, hvalue⟩)
        · contradiction
        · exact ⟨(), _, quiet_reportMisuse.2 ⟨hchecks, rfl⟩, quiet_pure.2 hvalue⟩

theorem Quiet.resolve_cursor {name : String} {position : Position} {symbol : Symbol}
    (hresolve : Quiet (resolve name position) settings state symbol next) :
    next.cursor = state.cursor := by
  rcases quiet_resolve.1 hresolve with ⟨-, rfl⟩ | ⟨-, -, -, rfl⟩
  · rfl
  · rfl

@[simp] theorem quiet_placeholder {span : Span} {expr : Expr} :
    Quiet (placeholder span) settings state expr next ↔
      expr = .ident state.symbols.placeholder span ∧ next = state := by
  simp only [placeholder, quiet_get_bind, quiet_pure]

@[simp] theorem quiet_intern {text : String} {id : Nat} :
    Quiet (intern text) settings state id next ↔
      id = (state.strings.intern text).1 ∧
        next = { state with strings := (state.strings.intern text).2 } :=
  quiet_of_run rfl rfl

@[simp] theorem quiet_orFail {parse : Parse (Option α)} {failure : Failure} {value : α}
    [Respects ReportsMore parse] :
    Quiet (orFail parse failure) settings state value next ↔
      Quiet parse settings state (some value) next := by
  unfold orFail
  rw [quiet_bind_of inferInstance fun value? => by cases value? <;> infer_instance]
  constructor
  · rintro ⟨value?, middle, hparse, hvalue⟩
    cases value? with
    | none => exact (not_quiet_throw hvalue).elim
    | some found =>
        obtain ⟨rfl, rfl⟩ := quiet_pure.1 hvalue
        exact hparse
  · intro hparse
    exact ⟨some value, next, hparse, quiet_pure.2 ⟨rfl, rfl⟩⟩

@[simp] theorem quiet_attempt_ok {parse : Parse α} {value : α} :
    Quiet (attempt parse) settings state (.ok value) next ↔
      Quiet parse settings state value next := by
  unfold Quiet attempt
  cases parse settings state <;> simp

end Parse

end SubsetC
