import SubsetC.Proofs.Composed
import SubsetC.Proofs.QuietProgram
import SubsetC.Proofs.Recoveries
import SubsetC.Proofs.Scanned

/-!
# What recoveries cost

A recovery pays for its report with a token.  The recoveries of a parse follow one another in
the stream, and each of them has tokens of its own: those that it passes over and, last, the
first one of the kind that it looks for, which is a delimiter if a fault was reported.

Only the last recovery can be broken off.  It fails because the input ends, and such a failure
is passed on by everything that catches it, without another report.
-/

namespace SubsetC

/-- The events of failures and recoveries, in their order. -/
def Journal.recoveryEvents (journal : Journal) : List Event :=
  journal.events.toList.filter Event.isOfRecovery

namespace ParseState

theorem noted_recoveryEvents (state : ParseState) (event : Event) :
    (state.noted event).journal.recoveryEvents =
      state.journal.recoveryEvents ++ if event.isOfRecovery then [event] else [] := by
  unfold Journal.recoveryEvents noted Journal.note
  rw [Array.toList_push, List.filter_append]
  cases hrecovery : event.isOfRecovery <;> simp [hrecovery]

theorem reported_recoveryEvents (state : ParseState) (diagnostic : Diagnostic) :
    (state.reported diagnostic).journal.recoveryEvents =
      state.journal.recoveryEvents ++
        if diagnostic.isMisuse then [] else [.reported diagnostic] := by
  have hnoted : (state.reported diagnostic).journal.recoveryEvents = _ :=
    noted_recoveryEvents state (.reported diagnostic)
  cases hmisuse : diagnostic.isMisuse <;> simpa [Event.isOfRecovery, hmisuse] using hnoted

end ParseState

/-! ## Recoveries and their tokens -/

/-- A recovery that came to its end: the tokens passed since the last one, the fault that it
reports, the tokens that it passes over, and the one that it looked for. -/
structure Recovery where
  passed : List Token
  report? : Option Diagnostic
  skipped : List Token
  found : Token
  first : ∀ token ∈ skipped, token.kind ≠ found.kind
  isDelimiter : report?.isSome = true → found.kind.isDelimiter = true

namespace Recovery

/-- The tokens that are passed up to the end of a recovery. -/
def tokens (recovery : Recovery) : List Token :=
  recovery.passed ++ (recovery.skipped ++ [recovery.found])

/-- The token on which a recovery begins. -/
def start (recovery : Recovery) : Token := recovery.skipped.headD recovery.found

/-- What a recovery leaves in the journal. -/
def events (recovery : Recovery) : List Event :=
  (recovery.report?.map .reported).toList ++
    [.resynchronizing recovery.found.kind recovery.start.span.start]

/-- The recoveries that report something have a delimiter each. -/
theorem length_reports_le (recoveries : List Recovery) :
    (recoveries.filterMap Recovery.report?).length ≤
      (recoveries.flatMap Recovery.tokens).countP fun token => token.kind.isDelimiter := by
  induction recoveries with
  | nil => simp
  | cons recovery recoveries ih =>
      rw [List.flatMap_cons, List.countP_append]
      cases hreport : recovery.report? with
      | none =>
          rw [List.filterMap_cons_none hreport]
          omega
      | some diagnostic =>
          have hdelimiter := recovery.isDelimiter (by rw [hreport]; rfl)
          have hfound : 0 < recovery.tokens.countP fun token => token.kind.isDelimiter :=
            List.countP_pos_iff.2 ⟨recovery.found, by simp [tokens], hdelimiter⟩
          rw [List.filterMap_cons_some hreport, List.length_cons]
          omega

end Recovery

/-- A recovery that met the end of the input. -/
structure BrokenOff where
  report? : Option Diagnostic
  target : TokenKind
  position : Position

def BrokenOff.events (broken : BrokenOff) : List Event :=
  (broken.report?.map .reported).toList ++ [.resynchronizing broken.target broken.position]

/-- A state that was reached through some recoveries, the last of which may be broken off: they
have their tokens before the cursor, one after the other, and the journal is theirs. -/
structure ParseState.ReachedBy (body : List Token) (recoveries : List Recovery)
    (broken? : Option BrokenOff) (state : ParseState) : Prop where
  tokens : ∃ passed,
    body = recoveries.flatMap Recovery.tokens ++ (passed ++ state.cursor.ahead)
  events : state.journal.recoveryEvents =
    recoveries.flatMap Recovery.events ++ broken?.toList.flatMap BrokenOff.events
  faults : state.journal.faults =
    recoveries.filterMap Recovery.report? ++ broken?.toList.filterMap BrokenOff.report?

/-- All recoveries are accounted for.  One was broken off only if the end of the input was
caught. -/
def ParseState.Accounted (body : List Token) (caught : Option Failure) (state : ParseState) :
    Prop :=
  ∃ recoveries broken?, state.ReachedBy body recoveries broken? ∧
    (broken?.isSome = true → ∃ failure ∈ caught, failure.isEndOfInput = true)

namespace ParseState

variable {body : List Token} {recoveries : List Recovery} {broken? : Option BrokenOff}
  {caught : Option Failure} {state next : ParseState}

/-- The journal has nothing new about recoveries, and the cursor has only moved on. -/
def KeepsRecoveries (state next : ParseState) : Prop :=
  next.cursor.ahead <:+ state.cursor.ahead ∧
    next.journal.recoveryEvents = state.journal.recoveryEvents ∧
    next.journal.faults = state.journal.faults

theorem KeepsRecoveries.of_eq (hcursor : next.cursor = state.cursor)
    (hjournal : next.journal = state.journal) : state.KeepsRecoveries next := by
  unfold KeepsRecoveries
  rw [hcursor, hjournal]
  exact ⟨List.suffix_rfl, rfl, rfl⟩

theorem ReachedBy.keeps (hreached : state.ReachedBy body recoveries broken?)
    (hkeeps : state.KeepsRecoveries next) : next.ReachedBy body recoveries broken? := by
  obtain ⟨⟨more, hahead⟩, hevents, hfaults⟩ := hkeeps
  obtain ⟨passed, hbody⟩ := hreached.tokens
  refine ⟨⟨passed ++ more, ?_⟩, hevents.trans hreached.events, hfaults.trans hreached.faults⟩
  rw [hbody, List.append_assoc, hahead]

theorem ReachedBy.ahead_subset (hreached : state.ReachedBy body recoveries broken?) :
    state.cursor.ahead ⊆ body := by
  obtain ⟨passed, hbody⟩ := hreached.tokens
  rw [hbody]
  intro token htoken
  exact List.mem_append_right _ (List.mem_append_right _ htoken)

theorem Accounted.keeps {later : Option Failure} (haccounted : state.Accounted body caught)
    (hkeeps : state.KeepsRecoveries next) (hcaught : ∀ failure ∈ caught, failure ∈ later) :
    next.Accounted body later := by
  obtain ⟨recoveries, broken?, hreached, hbroken⟩ := haccounted
  refine ⟨recoveries, broken?, hreached.keeps hkeeps, fun hsome => ?_⟩
  obtain ⟨failure, hfailure, hend⟩ := hbroken hsome
  exact ⟨failure, hcaught failure hfailure, hend⟩

/-- Without a failure to deal with, no recovery was broken off. -/
theorem Accounted.settled (haccounted : state.Accounted body none) :
    ∃ recoveries, state.ReachedBy body recoveries none := by
  obtain ⟨recoveries, broken?, hreached, hbroken⟩ := haccounted
  cases broken? with
  | none => exact ⟨recoveries, hreached⟩
  | some broken =>
      obtain ⟨failure, hnone, -⟩ := hbroken rfl
      contradiction

/-- What a recovery reports, if anything, has been reported, and nothing else was changed. -/
structure Recovers (state : ParseState) (report? : Option Diagnostic) (changed : ParseState) :
    Prop where
  cursor : changed.cursor = state.cursor
  events : changed.journal.recoveryEvents =
    state.journal.recoveryEvents ++ (report?.map .reported).toList
  faults : changed.journal.faults = state.journal.faults ++ report?.toList

namespace Recovers

variable {report? : Option Diagnostic} {changed : ParseState}

theorem refl (state : ParseState) : state.Recovers none state :=
  ⟨rfl, (List.append_nil _).symm, (List.append_nil _).symm⟩

theorem reported (state : ParseState) (failure : Failure) :
    state.Recovers (some (.ofFailure failure)) (state.reported (.ofFailure failure)) :=
  ⟨rfl, reported_recoveryEvents state (.ofFailure failure),
    reported_faults state (.ofFailure failure)⟩

theorem tokens (hrecovers : state.Recovers report? changed)
    (hreached : state.ReachedBy body recoveries broken?) :
    ∃ passed, body = recoveries.flatMap Recovery.tokens ++ (passed ++ changed.cursor.ahead) := by
  rw [hrecovers.cursor]
  exact hreached.tokens

theorem noted_events (hrecovers : state.Recovers report? changed)
    (hreached : state.ReachedBy body recoveries none) (target : TokenKind)
    (position : Position) :
    (changed.noted (.resynchronizing target position)).journal.recoveryEvents =
      recoveries.flatMap Recovery.events ++
        ((report?.map .reported).toList ++ [.resynchronizing target position]) := by
  rw [noted_recoveryEvents, hrecovers.events, hreached.events]
  simp [Event.isOfRecovery]

theorem reports (hrecovers : state.Recovers report? changed)
    (hreached : state.ReachedBy body recoveries none) :
    changed.journal.faults = recoveries.filterMap Recovery.report? ++ report?.toList := by
  rw [hrecovers.faults, hreached.faults]
  simp

end Recovers

end ParseState

namespace Parse

variable {α β : Type} {settings : Settings} {state changed : ParseState} {body : List Token}
  {caught : Option Failure}

/-! ## Parses that account for their recoveries -/

/-- A run leaves its recoveries accounted for, with a failure that its value carries on or that
it ends in. -/
def Accountable (body : List Token) (carries : α → Option Failure) :
    EStateM.Result Failure ParseState α → Prop
  | .ok value next => next.Accounted body (carries value)
  | .error failure next => next.Accounted body (some failure)

/-- Run where all recoveries are accounted for, given the failure that was caught before, a
parse leaves them accounted for. -/
def Accounts (body : List Token) (caught : Option Failure) (carries : α → Option Failure)
    (parse : Parse α) : Prop :=
  ∀ settings state, state.Accounted body caught →
    Accountable body carries (parse settings state)

theorem Accounts.bind {between : α → Option Failure} {carries : β → Option Failure}
    {parse : Parse α} {continued : α → Parse β} (hparse : Accounts body caught between parse)
    (hcontinued : ∀ value, Accounts body (between value) carries (continued value)) :
    Accounts body caught carries (parse >>= continued) := by
  intro settings state haccounted
  have hfirst := hparse settings state haccounted
  cases hrun : parse settings state with
  | error failure failed =>
      rw [hrun] at hfirst
      rw [bind_of_error hrun]
      exact hfirst
  | ok value middle =>
      rw [hrun] at hfirst
      rw [bind_of_ok hrun]
      exact hcontinued value settings middle hfirst

/-- The result of an attempt carries the failure that it caught. -/
theorem Accounts.attempt {parse : Parse α}
    (hparse : Accounts body caught (fun _ => none) parse) :
    Accounts body caught caught? (Parse.attempt parse) := by
  intro settings state haccounted
  have hinner := hparse settings state haccounted
  cases hrun : parse settings state with
  | ok value next =>
      rw [hrun] at hinner
      rw [attempt_of_ok hrun]
      exact hinner
  | error failure next =>
      rw [hrun] at hinner
      rw [attempt_of_error hrun]
      exact hinner

theorem Accounts.bracket {before after : ParseState → ParseState}
    {carries : α → Option Failure} {parse : Parse α}
    (hparse : Accounts body caught carries parse)
    (hbefore : ∀ state, (before state).journal = state.journal ∧
      (before state).cursor = state.cursor)
    (hafter : ∀ state, (after state).journal = state.journal ∧
      (after state).cursor = state.cursor) :
    Accounts body caught carries (Parse.bracket before after parse) := by
  intro settings state haccounted
  have hkeeps : ∀ {state changed : ParseState} {caught : Option Failure},
      changed.journal = state.journal ∧ changed.cursor = state.cursor →
      state.Accounted body caught → changed.Accounted body caught :=
    fun hsame haccounted => haccounted.keeps (.of_eq hsame.2 hsame.1) fun _ h => h
  have hinner := hparse settings (before state) (hkeeps (hbefore state) haccounted)
  unfold Parse.bracket
  cases hrun : parse settings (before state) with
  | ok value next =>
      rw [hrun] at hinner
      exact hkeeps (hafter next) hinner
  | error failure next =>
      rw [hrun] at hinner
      exact hkeeps (hafter next) hinner

/-- A parse that tells nothing about recoveries. -/
theorem accounts_of_keeps {carries : α → Option Failure} {parse : Parse α}
    (hkeeps : ∀ settings (state : ParseState),
      state.KeepsRecoveries (parse.run settings state).2) :
    Accounts body none carries parse := by
  intro settings state haccounted
  have hstate := hkeeps settings state
  unfold run at hstate
  cases hrun : parse settings state with
  | ok value next =>
      rw [hrun] at hstate
      exact haccounted.keeps hstate (by simp)
  | error failure next =>
      rw [hrun] at hstate
      exact haccounted.keeps hstate (by simp)

theorem reportMisuse_keepsRecoveries (misuse : Misuse) (position : Position)
    (settings : Settings) (state : ParseState) :
    state.KeepsRecoveries ((reportMisuse misuse position).run settings state).2 := by
  cases hchecks : settings.checks with
  | false =>
      rw [run_of_ok (reportMisuse_unchecked hchecks misuse position state)]
      exact .of_eq rfl rfl
  | true =>
      rw [run_of_ok (reportMisuse_checked hchecks misuse position state)]
      refine ⟨List.suffix_rfl, ?_, ?_⟩
      · rw [ParseState.reported_recoveryEvents]
        simp [Diagnostic.isMisuse]
      · rw [ParseState.reported_faults]
        simp [Diagnostic.isMisuse]

/-- The report of a misuse after a change of the symbols. -/
theorem misuse_keepsRecoveries (misuse : Misuse) (position : Position) (value : α)
    (hcursor : changed.cursor = state.cursor) (hjournal : changed.journal = state.journal) :
    state.KeepsRecoveries ((do
      reportMisuse misuse position
      return value : Parse α).run settings changed).2 := by
  have hkeeps := reportMisuse_keepsRecoveries misuse position settings changed
  rw [run_bind]
  unfold ParseState.KeepsRecoveries at hkeeps ⊢
  rw [← hcursor, ← hjournal]
  rcases hrun : (reportMisuse misuse position).run settings changed with ⟨failure | ⟨⟩, next⟩ <;>
    (rw [hrun] at hkeeps; exact hkeeps)

theorem resolve_keepsRecoveries (name : String) (position : Position) (settings : Settings)
    (state : ParseState) :
    state.KeepsRecoveries ((resolve name position).run settings state).2 := by
  cases hlookup : state.symbols.lookup? name with
  | some symbol =>
      rw [run_of_ok (resolve_found hlookup)]
      exact .of_eq rfl rfl
  | none =>
      rw [run_congr (resolve_planted hlookup)]
      exact misuse_keepsRecoveries _ _ _ rfl rfl

theorem declareVariable_keepsRecoveries (name : Token) (ty : Ty) (settings : Settings)
    (state : ParseState) :
    state.KeepsRecoveries ((declareVariable name ty).run settings state).2 := by
  cases hdeclare : state.symbols.declare (.variable name.text ty) with
  | ok symbols =>
      rw [run_of_ok (declareVariable_declared hdeclare)]
      exact .of_eq rfl rfl
  | error existing =>
      rw [run_congr (declareVariable_refused hdeclare)]
      exact misuse_keepsRecoveries _ _ _ rfl rfl

theorem declareFunction_keepsRecoveries (name : Token) (signature : Signature)
    (settings : Settings) (state : ParseState) :
    state.KeepsRecoveries ((declareFunction name signature).run settings state).2 := by
  cases hdeclare : state.symbols.declareGlobal (.function name.text signature) with
  | ok symbols =>
      rw [run_of_ok (declareFunction_declared hdeclare)]
      exact .of_eq rfl rfl
  | error existing =>
      rw [run_congr (declareFunction_refused hdeclare)]
      exact misuse_keepsRecoveries _ _ _ rfl rfl

/-! ## Recoveries -/

/-- Where the kind of token that a recovery looks for is ahead, the recovery is one more. -/
theorem skipPast_recovers {report? : Option Diagnostic} {recoveries : List Recovery}
    {skipped rest : List Token} {found : Token} (settings : Settings)
    (hrecovers : state.Recovers report? changed)
    (hreached : state.ReachedBy body recoveries none)
    (hahead : changed.cursor.ahead = skipped ++ found :: rest)
    (hskipped : ∀ token ∈ skipped, token.kind ≠ found.kind ∧ token.kind ≠ .eof)
    (hfound : found.kind ≠ .eof)
    (hdelimiter : report?.isSome = true → found.kind.isDelimiter = true) :
    ∃ recovery next, skipPast found.kind settings changed = .ok ⟨⟩ next ∧
      next.ReachedBy body (recoveries ++ [recovery]) none := by
  obtain ⟨passed, htokens⟩ := hrecovers.tokens hreached
  let recovery : Recovery :=
    { passed := passed, report? := report?, skipped := skipped, found := found,
      first := fun token htoken => (hskipped token htoken).1, isDelimiter := hdelimiter }
  have hstart : changed.cursor.current = recovery.start := by
    unfold Cursor.current
    rw [hahead]
    cases skipped <;> rfl
  refine ⟨recovery, _, skipPast_found settings hahead hskipped rfl hfound, ⟨[], ?_⟩, ?_, ?_⟩
  · rw [htokens, hahead]
    simp [recovery, Recovery.tokens]
  · refine (hrecovers.noted_events hreached _ _).trans ?_
    rw [hstart]
    simp [recovery, Recovery.events]
  · refine (hrecovers.reports hreached).trans ?_
    cases report? <;> simp [recovery]

/-- Where it is not, the recovery is broken off. -/
theorem skipPast_breaksOff {report? : Option Diagnostic} {recoveries : List Recovery}
    {target : TokenKind} (settings : Settings) (hrecovers : state.Recovers report? changed)
    (hreached : state.ReachedBy body recoveries none)
    (hahead : ∀ token ∈ changed.cursor.ahead, token.kind ≠ target ∧ token.kind ≠ .eof)
    (htarget : target ≠ .eof) :
    ∃ broken failure next, skipPast target settings changed = .error failure next ∧
      failure.isEndOfInput = true ∧ next.ReachedBy body recoveries (some broken) := by
  obtain ⟨passed, htokens⟩ := hrecovers.tokens hreached
  let broken : BrokenOff :=
    { report? := report?, target := target, position := changed.cursor.current.span.start }
  refine ⟨broken, _, _, skipPast_lost settings hahead htarget, rfl,
    ⟨passed ++ changed.cursor.ahead, ?_⟩, ?_, ?_⟩
  · rw [htokens]
    simp
  · refine (hrecovers.noted_events hreached _ _).trans ?_
    simp [broken, BrokenOff.events]
  · refine (hrecovers.reports hreached).trans ?_
    cases report? <;> simp [broken]

/-- A recovery from a state that was reached through others. -/
theorem skipPast_accounts {report? : Option Diagnostic} {recoveries : List Recovery}
    {target : TokenKind} (settings : Settings) (hrecovers : state.Recovers report? changed)
    (hreached : state.ReachedBy body recoveries none)
    (hbody : ∀ token ∈ body, token.kind ≠ .eof) (htarget : target ≠ .eof)
    (hdelimiter : report?.isSome = true → target.isDelimiter = true) :
    Accountable body (fun _ => none) (skipPast target settings changed) := by
  have hends : ∀ token ∈ changed.cursor.ahead, token.kind ≠ .eof := by
    rw [hrecovers.cursor]
    exact fun token htoken => hbody token (hreached.ahead_subset htoken)
  by_cases hfind : target ∈ changed.cursor.ahead.map Token.kind
  · obtain ⟨kinds, later, hsplit, hnew⟩ := List.eq_append_cons_of_mem hfind
    obtain ⟨skipped, tail, hahead, rfl, htail⟩ := List.map_eq_append_iff.1 hsplit
    obtain ⟨found, rest, rfl, rfl, rfl⟩ := List.map_eq_cons_iff.1 htail
    have hskipped : ∀ token ∈ skipped, token.kind ≠ found.kind ∧ token.kind ≠ .eof := by
      intro token htoken
      refine ⟨fun hkind => hnew (hkind ▸ List.mem_map_of_mem htoken), hends token ?_⟩
      rw [hahead]
      exact List.mem_append_left _ htoken
    obtain ⟨recovery, next, hrun, hnext⟩ :=
      skipPast_recovers settings hrecovers hreached hahead hskipped htarget hdelimiter
    rw [hrun]
    exact ⟨recoveries ++ [recovery], none, hnext, nofun⟩
  · have hlost : ∀ token ∈ changed.cursor.ahead, token.kind ≠ target ∧ token.kind ≠ .eof :=
      fun token htoken =>
        ⟨fun hkind => hfind (hkind ▸ List.mem_map_of_mem htoken), hends token htoken⟩
    obtain ⟨broken, failure, next, hrun, hend, hnext⟩ :=
      skipPast_breaksOff settings hrecovers hreached hlost htarget
    rw [hrun]
    exact ⟨recoveries, some broken, hnext, fun _ => ⟨failure, rfl, hend⟩⟩

theorem recoverPast_accounts {delimiter : TokenKind} {failure : Failure}
    (hbody : ∀ token ∈ body, token.kind ≠ .eof) (hdelimiter : delimiter.isDelimiter = true) :
    Accounts body (some failure) (fun _ => none) (recoverPast delimiter failure) := by
  intro settings state haccounted
  by_cases hend : failure.fault = .endOfInput
  · -- The failure is passed on, and with it the recovery that was broken off.
    rw [recoverPast_of_end delimiter hend]
    exact haccounted
  · obtain ⟨recoveries, broken?, hreached, hbroken⟩ := haccounted
    have hnone : broken? = none := by
      cases broken? with
      | none => rfl
      | some broken =>
          obtain ⟨found, hfound, hends⟩ := hbroken rfl
          rw [← Option.some.inj hfound] at hends
          simp [Failure.isEndOfInput, hend] at hends
    subst hnone
    have htarget : delimiter ≠ .eof := by
      rintro rfl
      contradiction
    rw [recoverPast_of_ne delimiter hend]
    exact skipPast_accounts settings (.reported state failure) hreached hbody htarget
      fun _ => hdelimiter

/-- Every composed parse accounts for its recoveries. -/
theorem Composes.accounts {carries : α → Option Failure} {parse : Parse α}
    (hbody : ∀ token ∈ body, token.kind ≠ .eof) (hparse : Composes caught carries parse) :
    Accounts body caught carries parse := by
  induction hparse with
  | @act α caught carries parse hacts =>
      intro settings state haccounted
      obtain ⟨value, next, hrun, hcarries, -, hjournal, hmoves⟩ := hacts settings state
      rw [hrun]
      exact haccounted.keeps ⟨hmoves.1, by rw [hjournal], by rw [hjournal]⟩ hcarries
  | @note caught carries event hprogress hcarries =>
      intro settings state haccounted
      have hother : event.isOfRecovery = false := by
        cases event <;> first | rfl | contradiction
      have hevents := ParseState.noted_recoveryEvents state event
      rw [hother, if_neg Bool.false_ne_true, List.append_nil] at hevents
      have hkeeps : state.KeepsRecoveries (state.noted event) := ⟨List.suffix_rfl, hevents, rfl⟩
      exact haccounted.keeps hkeeps hcarries
  | @throw α caught carries failure hsame =>
      intro settings state haccounted
      refine haccounted.keeps ⟨List.suffix_rfl, rfl, rfl⟩ fun earlier hearlier => ?_
      rw [hsame earlier hearlier]
      rfl
  | bind _ _ ihparse ihcontinued => exact ihparse.bind ihcontinued
  | attempt _ ih => exact ih.attempt
  | recoverPast hdelimiter => exact recoverPast_accounts hbody hdelimiter
  | skipPast htarget =>
      intro settings state haccounted
      obtain ⟨recoveries, hreached⟩ := haccounted.settled
      exact skipPast_accounts settings (.refl state) hreached hbody htarget nofun
  | reportMisuse => exact accounts_of_keeps (reportMisuse_keepsRecoveries _ _)
  | resolve => exact accounts_of_keeps (resolve_keepsRecoveries _ _)
  | declareVariable => exact accounts_of_keeps (declareVariable_keepsRecoveries _ _)
  | declareFunction => exact accounts_of_keeps (declareFunction_keepsRecoveries _ _)
  | bracket hbefore hafter _ ih =>
      exact ih.bracket (fun state => (hbefore state).2) fun state => (hafter state).2

end Parse

/-- The recoveries of a parse.  The last one was broken off only if the parse fails. -/
theorem parse_reached (settings : Settings) {body : List Token} {last : Token}
    (hbody : ∀ token ∈ body, token.kind ≠ .eof) (hlast : last.kind = .eof) :
    ∃ recoveries broken?,
      (parse settings (body ++ [last])).2.ReachedBy body recoveries broken? ∧
        (broken?.isSome = true → (parse settings (body ++ [last])).1.isOk = false) := by
  have hahead : (ParseState.ofTokens (body ++ [last]) settings.file).cursor.ahead = body :=
    Cursor.ofTokens_ahead hlast settings.file
  have hstart : (ParseState.ofTokens (body ++ [last]) settings.file).Accounted body none :=
    ⟨[], none, ⟨⟨[], by rw [hahead]; rfl⟩, rfl, rfl⟩, nofun⟩
  have hcomposed : Parse.Composed Parse.journaled := inferInstance
  have hends := hcomposed.composes.accounts hbody settings _ hstart
  unfold parse Parse.run
  cases hrun : Parse.journaled settings (.ofTokens (body ++ [last]) settings.file) with
  | ok program next =>
      rw [hrun] at hends
      obtain ⟨recoveries, hreached⟩ := ParseState.Accounted.settled hends
      exact ⟨recoveries, none, hreached, nofun⟩
  | error failure next =>
      rw [hrun] at hends
      obtain ⟨recoveries, broken?, hreached, -⟩ := hends
      exact ⟨recoveries, broken?, hreached, fun _ => rfl⟩

/-- Each fault that a parse reports has a recovery, and each recovery has tokens of its own, the
last of which is a delimiter if there was a fault to report.  Only a parse that fails has one
more, which was broken off.  So there are no more faults than delimiters, and one more at most
if the parse fails. -/
theorem recoveries_pay {settings : Settings} {body : List Token} {last : Token}
    (hbody : ∀ token ∈ body, token.kind ≠ .eof) (hlast : last.kind = .eof) :
    ∃ (recoveries : List Recovery) (broken? : Option BrokenOff) (rest : List Token),
      body = recoveries.flatMap Recovery.tokens ++ rest ∧
      (parse settings (body ++ [last])).2.journal.recoveryEvents =
        recoveries.flatMap Recovery.events ++ broken?.toList.flatMap BrokenOff.events ∧
      (parse settings (body ++ [last])).2.journal.faults =
        recoveries.filterMap Recovery.report? ++
          broken?.toList.filterMap BrokenOff.report? ∧
      (broken?.isSome = true → (parse settings (body ++ [last])).1.isOk = false) ∧
      (parse settings (body ++ [last])).2.journal.faultCount ≤
        ((body ++ [last]).countP fun token => token.kind.isDelimiter) +
          if (parse settings (body ++ [last])).1.isOk then 0 else 1 := by
  obtain ⟨recoveries, broken?, ⟨⟨passed, htokens⟩, hevents, hfaults⟩, hbroken⟩ :=
    parse_reached settings hbody hlast
  refine ⟨recoveries, broken?, _, htokens, hevents, hfaults, hbroken, ?_⟩
  have hpaid := Recovery.length_reports_le recoveries
  have hcount : ((recoveries.flatMap Recovery.tokens).countP fun token =>
      token.kind.isDelimiter) ≤ (body ++ [last]).countP fun token => token.kind.isDelimiter := by
    rw [htokens]
    simp only [List.countP_append]
    omega
  rw [Journal.faultCount_eq, hfaults, List.length_append]
  cases broken? with
  | none =>
      simp only [Option.toList_none, List.filterMap_nil, List.length_nil]
      omega
  | some broken =>
      have hlength : ((some broken).toList.filterMap BrokenOff.report?).length ≤ 1 :=
        List.length_filterMap_le _ _
      rw [hbroken rfl, if_neg Bool.false_ne_true]
      omega

/-- Faults in a subscript of an argument, in an argument and in a statement, and another one
where the input breaks off in a subscript of an argument. -/
def faultyText : String := "int f(char a[]) \x7b f(a[*], +); a = ; f(a["

theorem faultyText_pays :
    ∃ (body : List Token) (last : Token) (recoveries : List Recovery)
      (broken? : Option BrokenOff) (rest : List Token),
      tokenize faultyText "f.c" = .ok (body ++ [last]) ∧
      (∀ token ∈ body, token.kind ≠ .eof) ∧ last.kind = .eof ∧
      body = recoveries.flatMap Recovery.tokens ++ rest ∧
      (parse { file := "f.c" } (body ++ [last])).2.journal.recoveryEvents =
        recoveries.flatMap Recovery.events ++ broken?.toList.flatMap BrokenOff.events ∧
      (parse { file := "f.c" } (body ++ [last])).1.isOk = false ∧
      (parse { file := "f.c" } (body ++ [last])).2.journal.faultCount = 4 ∧
      4 ≤ ((body ++ [last]).countP fun token => token.kind.isDelimiter) + 1 := by
  have hreads : ((tokenize faultyText "f.c").toOption.any fun tokens => decide
      ((∀ token ∈ tokens.dropLast, token.kind ≠ .eof) ∧
        (parse { file := "f.c" } tokens).1.isOk = false ∧
        (parse { file := "f.c" } tokens).2.journal.faultCount = 4)) = true := by
    decide +kernel
  obtain ⟨tokens, htokens, hbody, hfails, hfaults⟩ := exists_tokens hreads
  obtain ⟨body, last, rfl, hlast, -⟩ := tokenize_scanned htokens
  rw [List.dropLast_concat] at hbody
  obtain ⟨recoveries, broken?, rest, hsplit, hevents, -, -, hcount⟩ :=
    @recoveries_pay { file := "f.c" } body last hbody hlast
  rw [hfails, hfaults] at hcount
  exact ⟨body, last, recoveries, broken?, rest, htokens, hbody, hlast, hsplit, hevents, hfails,
    hfaults, hcount⟩

end SubsetC
