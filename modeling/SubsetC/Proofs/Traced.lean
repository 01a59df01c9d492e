import SubsetC.Proofs.Outline
import SubsetC.Proofs.Recoveries
import SubsetC.Proofs.SoundExpr

/-!
# Values traced to the tokens that are read

A parse is followed from a state to the one in which it succeeds, and its value is
related to the tokens read in between.  Misuses may be reported on the way.  Runs
that report a fault are not considered, so nothing that was passed over after a
failure has to be traced: a recovery reports the failure that it recovers from.
-/

namespace SubsetC.Parse

variable {α β : Type} {settings : Settings} {state : ParseState}

/-- If the parse succeeds and reports no fault, what it reads is related to its value. -/
structure Traces (settings : Settings) (state : ParseState) (Q : List Token → α → Prop)
    (parse : Parse α) : Prop where
  keeps : ∀ {value next}, parse settings state = .ok value next →
    state.journal.faults <+: next.journal.faults
  reads : ∀ {value next}, parse settings state = .ok value next →
    next.journal.faults = state.journal.faults → ∃ ts, Reads state ts next ∧ Q ts value

namespace Traces

variable {P : List Token → α → Prop} {Q : List Token → β → Prop} {parse : Parse α}
  {continued : α → Parse β}

theorem imp {R : List Token → α → Prop} (hparse : Traces settings state P parse)
    (himplies : ∀ ts value, P ts value → R ts value) : Traces settings state R parse where
  keeps := hparse.keeps
  reads hrun hfaults := by
    obtain ⟨ts, hreads, hvalue⟩ := hparse.reads hrun hfaults
    exact ⟨ts, hreads, himplies ts _ hvalue⟩

theorem pure {value : α} (hvalue : P [] value) : Traces settings state P (pure value) where
  keeps hrun := by
    cases hrun
    exact List.prefix_rfl
  reads hrun _ := by
    cases hrun
    exact ⟨[], .refl, hvalue⟩

theorem throw (failure : Failure) : Traces settings state P (throw failure : Parse α) where
  keeps hrun := by simp at hrun
  reads hrun := by simp at hrun

theorem failAt (fault : Fault) (position : Position) :
    Traces settings state P (failAt fault position : Parse α) :=
  throw _

/-- Neither part of a run reports a fault if the whole does not, since nothing that was reported
is taken back. -/
theorem bind (hparse : Traces settings state P parse)
    (hcontinued : ∀ value next, Traces settings next
      (fun us result => ∀ ts, P ts value → Q (ts ++ us) result) (continued value)) :
    Traces settings state Q (parse >>= continued) where
  keeps hrun := by
    obtain ⟨value, middle, hfirst, hsecond⟩ := bind_eq_ok.1 hrun
    exact (hparse.keeps hfirst).trans ((hcontinued value middle).keeps hsecond)
  reads hrun hfaults := by
    obtain ⟨value, middle, hfirst, hsecond⟩ := bind_eq_ok.1 hrun
    have hbefore := hparse.keeps hfirst
    have hafter := (hcontinued value middle).keeps hsecond
    have hmiddle := (hbefore.eq_of_length_le (hfaults ▸ hafter.length_le)).symm
    obtain ⟨ts, hreads, hvalue⟩ := hparse.reads hfirst hmiddle
    obtain ⟨us, hlater, hresult⟩ :=
      (hcontinued value middle).reads hsecond (hfaults.trans hmiddle.symm)
    exact ⟨ts ++ us, hreads.trans hlater, hresult ts hvalue⟩

/-- What follows a first part that reads nothing. -/
theorem after {R : α → Prop}
    (hparse : Traces settings state (fun ts value => ts = [] ∧ R value) parse)
    (hcontinued : ∀ value next, Traces settings next (fun us result => R value → Q us result)
      (continued value)) :
    Traces settings state Q (parse >>= continued) := by
  apply hparse.bind
  intro value next
  apply (hcontinued value next).imp
  rintro us result hresult ts ⟨rfl, hvalue⟩
  exact hresult hvalue

/-- What follows a first part that succeeds in a known way. -/
theorem bind_of_run {ts : List Token} {value : α} {next : ParseState}
    (hrun : parse settings state = .ok value next) (hreads : Reads state ts next)
    (hfaults : next.journal.faults = state.journal.faults)
    (hcontinued : Traces settings next (fun us => Q (ts ++ us)) (continued value)) :
    Traces settings state Q (parse >>= continued) where
  keeps hresult := by
    rw [bind_of_ok hrun] at hresult
    rw [← hfaults]
    exact hcontinued.keeps hresult
  reads hresult hlast := by
    rw [bind_of_ok hrun] at hresult
    obtain ⟨us, hlater, hvalue⟩ := hcontinued.reads hresult (hlast.trans hfaults.symm)
    exact ⟨ts ++ us, hreads.trans hlater, hvalue⟩

theorem map {f : α → β} (hparse : Traces settings state (fun ts value => Q ts (f value)) parse) :
    Traces settings state Q (f <$> parse) := by
  rw [map_eq_pure_bind]
  apply hparse.bind
  intro value next
  apply pure
  intro ts hvalue
  rwa [List.append_nil]

theorem some (hparse : Traces settings state P parse) :
    Traces settings state (fun ts value? => ∀ value ∈ value?, P ts value) (some <$> parse) := by
  apply map
  apply hparse.imp
  rintro ts value hvalue found ⟨⟩
  exact hvalue

theorem get_bind {continued : ParseState → Parse β}
    (hcontinued : Traces settings state Q (continued state)) :
    Traces settings state Q (get >>= continued) :=
  .bind_of_run get_run .refl rfl hcontinued

theorem read_bind {continued : Settings → Parse β}
    (hcontinued : Traces settings state Q (continued settings)) :
    Traces settings state Q (read >>= continued) :=
  .bind_of_run read_run .refl rfl hcontinued

theorem current_bind {continued : Token → Parse β}
    (hcontinued : Traces settings state Q (continued state.cursor.current)) :
    Traces settings state Q (current >>= continued) :=
  .bind_of_run current_run .refl rfl hcontinued

theorem kind_bind {continued : TokenKind → Parse β}
    (hcontinued : Traces settings state Q (continued state.cursor.kind)) :
    Traces settings state Q (kind >>= continued) :=
  .bind_of_run kind_run .refl rfl hcontinued

theorem position_bind {continued : Position → Parse β}
    (hcontinued : Traces settings state Q (continued state.cursor.current.span.start)) :
    Traces settings state Q (position >>= continued) :=
  .bind_of_run position_run .refl rfl hcontinued

theorem remaining_bind {continued : Nat → Parse β}
    (hcontinued : Traces settings state Q (continued state.cursor.remaining)) :
    Traces settings state Q (remaining >>= continued) :=
  .bind_of_run remaining_run .refl rfl hcontinued

theorem hasTokens_bind {continued : Bool → Parse β}
    (hcontinued : Traces settings state Q (continued (decide (state.cursor.kind ≠ .eof)))) :
    Traces settings state Q (hasTokens >>= continued) :=
  .bind_of_run hasTokens_run .refl rfl hcontinued

theorem advance_bind {continued : Token → Parse β} (hkind : state.cursor.kind ≠ .eof)
    (hcontinued : Traces settings state.advanced (fun ts => Q (state.cursor.current :: ts))
      (continued state.cursor.current)) :
    Traces settings state Q (advance >>= continued) :=
  .bind_of_run advance_run (.token hkind) rfl hcontinued

theorem expectOr_bind {expected : TokenKind} {failure : Failure} {continued : Token → Parse β}
    (hexpected : expected ≠ .eof)
    (hcontinued : state.cursor.kind = expected →
      Traces settings state.advanced (fun ts => Q (state.cursor.current :: ts))
        (continued state.cursor.current)) :
    Traces settings state Q (expectOr expected failure >>= continued) := by
  unfold expectOr
  rw [bind_assoc]
  apply kind_bind
  split
  · rename_i hkind
    exact advance_bind (hkind ▸ hexpected) (hcontinued hkind)
  · exact throw failure

theorem expect_bind {expected : TokenKind} {continued : Token → Parse β}
    (hexpected : expected ≠ .eof)
    (hcontinued : Traces settings state.advanced (fun ts => Q (state.cursor.current :: ts))
      (continued state.cursor.current)) :
    Traces settings state Q (expect expected >>= continued) := by
  unfold expect
  rw [bind_assoc]
  exact current_bind (expectOr_bind hexpected fun _ => hcontinued)

theorem accept_bind {expected : TokenKind} {continued : Bool → Parse β}
    (hexpected : expected ≠ .eof)
    (htrue : Traces settings state.advanced (fun ts => Q (state.cursor.current :: ts))
      (continued true))
    (hfalse : Traces settings state Q (continued false)) :
    Traces settings state Q (accept expected >>= continued) := by
  by_cases hkind : state.cursor.kind = expected
  · exact .bind_of_run (accept_run_of_eq hkind) (.token (hkind ▸ hexpected)) rfl htrue
  · exact .bind_of_run (accept_run_of_ne hkind) .refl rfl hfalse

theorem orFail {parse : Parse (Option α)} (failure : Failure)
    (hparse : Traces settings state (fun ts value? => ∀ value ∈ value?, P ts value) parse) :
    Traces settings state P (orFail parse failure) := by
  unfold Parse.orFail
  apply hparse.bind
  intro value? next
  cases value? with
  | none => exact throw failure
  | some value =>
      apply pure
      intro ts hvalue
      rw [List.append_nil]
      exact hvalue value rfl

theorem attempt [Respects KeepsReports parse] [Respects MovesOn parse]
    (hparse : Traces settings state P parse) :
    Traces settings state (fun ts result => ∀ value, result = .ok value → P ts value)
      (attempt parse) := by
  cases hfirst : parse settings state with
  | ok value middle =>
      have hrun := attempt_of_ok hfirst
      constructor
      · intro result next hresult
        rw [hrun] at hresult
        cases hresult
        exact hparse.keeps hfirst
      · intro result next hresult hfaults
        rw [hrun] at hresult
        cases hresult
        obtain ⟨ts, hreads, hvalue⟩ := hparse.reads hfirst hfaults
        refine ⟨ts, hreads, ?_⟩
        rintro found ⟨⟩
        exact hvalue
  | error failure middle =>
      have hrun := attempt_of_error hfirst
      constructor
      · intro result next hresult
        rw [hrun] at hresult
        cases hresult
        exact KeepsReports.faults (Respects.error hfirst)
      · intro result next hresult _
        rw [hrun] at hresult
        cases hresult
        obtain ⟨⟨ts, hreads⟩, -⟩ := Respects.error (R := MovesOn) hfirst
        exact ⟨ts, hreads.symm, fun value hvalue => by contradiction⟩

/-- Nothing relates what was read before a failure to a value. -/
theorem attempt_bind {continued : Except Failure α → Parse β} [Respects KeepsReports parse]
    [Respects MovesOn parse] (hparse : Traces settings state P parse)
    (hok : ∀ value next, Traces settings next
      (fun us result => ∀ ts, P ts value → Q (ts ++ us) result) (continued (.ok value)))
    (herror : ∀ failure next, Traces settings next (fun us result => ∀ ts, Q (ts ++ us) result)
      (continued (.error failure))) :
    Traces settings state Q (Parse.attempt parse >>= continued) := by
  apply hparse.attempt.bind
  intro result next
  cases result with
  | ok value =>
      apply (hok value next).imp
      intro us result hresult ts hvalue
      exact hresult ts (hvalue value rfl)
  | error failure =>
      apply (herror failure next).imp
      intro us result hresult ts _
      exact hresult ts

/-- A recovery reports a fault, and what follows it is not considered. -/
theorem recoverPast_bind {delimiter : TokenKind} {failure : Failure} {continued : Unit → Parse β}
    [Respects KeepsReports (continued ⟨⟩)] :
    Traces settings state Q (recoverPast delimiter failure >>= continued) where
  keeps hrun := by
    obtain ⟨⟨⟩, middle, hfirst, hsecond⟩ := bind_eq_ok.1 hrun
    have hkeeps : KeepsReports state _ :=
      StepRelation.trans (Respects.ok hfirst) (Respects.ok hsecond)
    exact hkeeps.faults
  reads {result next} hrun hfaults := by
    obtain ⟨⟨⟩, middle, hfirst, hsecond⟩ := bind_eq_ok.1 hrun
    by_cases hfault : failure.fault = .endOfInput
    · rw [recoverPast_of_end delimiter hfault] at hfirst
      contradiction
    · rw [recoverPast_of_ne delimiter hfault] at hfirst
      have hkept : KeepsReports (state.reported (.ofFailure failure)) next :=
        StepRelation.trans (Respects.ok hfirst) (Respects.ok hsecond)
      have hlength := hkept.faults.length_le
      have hfault : (Diagnostic.ofFailure failure).isMisuse = false := rfl
      rw [hfaults, ParseState.reported_faults, hfault, if_neg Bool.false_ne_true,
        List.length_append, List.length_singleton] at hlength
      omega

theorem bracket {before after : ParseState → ParseState}
    (hbefore : (before state).cursor = state.cursor ∧ (before state).journal = state.journal)
    (hafter : ∀ state, (after state).cursor = state.cursor ∧
      (after state).journal = state.journal)
    (hparse : Traces settings (before state) P parse) :
    Traces settings state P (bracket before after parse) where
  keeps hrun := by
    obtain ⟨middle, hparsed, rfl⟩ := bracket_eq_ok.1 hrun
    rw [(hafter middle).2, ← hbefore.2]
    exact hparse.keeps hparsed
  reads hrun hfaults := by
    obtain ⟨middle, hparsed, rfl⟩ := bracket_eq_ok.1 hrun
    rw [(hafter middle).2, ← hbefore.2] at hfaults
    obtain ⟨ts, hreads, hvalue⟩ := hparse.reads hparsed hfaults
    exact ⟨ts, (hreads.from_eq hbefore.1).to_eq (hafter middle).1, hvalue⟩

end Traces

/-! ## Elementary parses -/

/-- A parse that reads nothing. -/
abbrev Still (settings : Settings) (state : ParseState) (parse : Parse α) : Prop :=
  Traces settings state (fun ts _ => ts = []) parse

theorem Still.of_cursor_eq {parse : Parse α} [Respects KeepsReports parse]
    (hcursor : ∀ {value next}, parse settings state = .ok value next →
      next.cursor = state.cursor) : Still settings state parse where
  keeps hrun := KeepsReports.faults (Respects.ok hrun)
  reads hrun _ := ⟨[], .of_cursor_eq (hcursor hrun), rfl⟩

theorem Still.after {Q : List Token → β → Prop} {parse : Parse α} {continued : α → Parse β}
    (hparse : Still settings state parse)
    (hcontinued : ∀ value next, Traces settings next Q (continued value)) :
    Traces settings state Q (parse >>= continued) := by
  apply hparse.bind
  intro value next
  apply (hcontinued value next).imp
  rintro us result hresult ts rfl
  exact hresult

theorem expect_traces {expected : TokenKind} (hexpected : expected ≠ .eof) :
    Traces settings state (fun ts token => ts = [token]) (expect expected) := by
  rw [← bind_pure (expect expected)]
  exact .expect_bind hexpected (.pure rfl)

/-- A parse that may skip tokens, which belong to nothing. -/
theorem traces_of_movesOn {parse : Parse α} [Respects KeepsReports parse] [Respects MovesOn parse] :
    Traces settings state (fun _ _ => True) parse where
  keeps hrun := KeepsReports.faults (Respects.ok hrun)
  reads hrun _ := by
    obtain ⟨⟨ts, hreads⟩, -⟩ := Respects.ok (R := MovesOn) hrun
    exact ⟨ts, hreads.symm, trivial⟩

/-- A change beside the cursor and the journal. -/
theorem modify_still {change : ParseState → ParseState}
    (hcursor : (change state).cursor = state.cursor)
    (hjournal : (change state).journal = state.journal) :
    Still settings state (modify change) where
  keeps hrun := by
    cases hrun
    exact ⟨[], by rw [hjournal, List.append_nil]⟩
  reads hrun _ := by
    cases hrun
    exact ⟨[], .of_cursor_eq hcursor, rfl⟩

theorem note_still (event : Event) : Still settings state (note event) := by
  apply Still.of_cursor_eq
  intro value next hrun
  cases hrun
  rfl

theorem reportMisuse_cursor {misuse : Misuse} {position : Position} {next : ParseState}
    (hrun : reportMisuse misuse position settings state = .ok ⟨⟩ next) :
    next.cursor = state.cursor := by
  cases hchecks : settings.checks with
  | true =>
      rw [reportMisuse_checked hchecks] at hrun
      cases hrun
      rfl
  | false =>
      rw [reportMisuse_unchecked hchecks] at hrun
      cases hrun
      rfl

theorem reportMisuse_still (misuse : Misuse) (position : Position) :
    Still settings state (reportMisuse misuse position) :=
  .of_cursor_eq reportMisuse_cursor

theorem reportUnless_still (condition : Bool) (misuse : Misuse) (position : Position) :
    Still settings state (reportUnless condition misuse position) := by
  unfold reportUnless
  split
  · exact .pure rfl
  · exact reportMisuse_still misuse position

theorem intern_still (text : String) : Still settings state (intern text) := by
  apply Still.of_cursor_eq
  intro value next hrun
  cases hrun
  rfl

theorem resolve_still (name : String) (position : Position) :
    Still settings state (resolve name position) := by
  apply Still.of_cursor_eq
  intro value next hrun
  cases hlookup : state.symbols.lookup? name with
  | some symbol =>
      rw [resolve_found hlookup] at hrun
      cases hrun
      rfl
  | none =>
      rw [resolve_planted hlookup] at hrun
      obtain ⟨⟨⟩, middle, hreport, hreturn⟩ := bind_eq_ok.1 hrun
      cases hreturn
      have hcursor := reportMisuse_cursor hreport
      exact hcursor

end SubsetC.Parse
