import Mathlib.Data.List.Infix
import SubsetC.Proofs.Brackets
import SubsetC.Proofs.Reports

/-!
# Where a checked parse arrives

A parse with checks is followed from one cursor to another.  Misuses may be reported on
the way, but no fault.  The only way to go astray is to pass over a construct whose
brackets nest: then the journal shows it, and nothing more is said.

Symbols do not matter: whatever a name stands for, a parse that meets no fault moves
alike.
-/

namespace SubsetC

/-- Whether a diagnostic rejects a construct that has brackets of its own kind nested in it. -/
def Diagnostic.tangled (tokens : List Token) (diagnostic : Diagnostic) : Bool :=
  diagnostic.rejects && tokens.tails.any fun ahead =>
    match ahead with
    | name :: opening :: rest =>
        name.span.start = diagnostic.position && nests opening.kind rest
    | _ => false

/-- A construct with nested brackets was passed over. -/
def ParseState.Tangled (tokens : List Token) (state : ParseState) : Prop :=
  ∃ diagnostic ∈ state.journal.passedOver, diagnostic.tangled tokens = true

theorem tangled_of_nests {tokens rest : List Token} {name opening : Token} {misuse : Misuse}
    (hrejects : misuse.rejects = true) (hname : name :: opening :: rest <:+ tokens)
    (hnests : nests opening.kind rest = true) :
    Diagnostic.tangled tokens { cause := .misuse misuse, position := name.span.start } = true := by
  unfold Diagnostic.tangled
  rw [Bool.and_eq_true, List.any_eq_true]
  refine ⟨hrejects, _, (List.mem_tails _ _).2 hname, ?_⟩
  simpa using hnests

namespace Parse

variable {α β : Type} {tokens : List Token} {settings : Settings} {start middle stop : Cursor}
  {P : α → Prop} {Q : β → Prop}

/-- What was passed over stays in the journal. -/
theorem KeepsEvents.tangled {state next : ParseState} (hkeeps : KeepsEvents state next)
    (htangled : state.Tangled tokens) : next.Tangled tokens := by
  obtain ⟨diagnostic, hpassed, hnests⟩ := htangled
  exact ⟨diagnostic, hkeeps.passedOver hpassed, hnests⟩

/-- From any state with the first cursor, a parse arrives at the second one with no fault,
unless a tangled construct is passed over. -/
def Arrives (tokens : List Token) (settings : Settings) (start stop : Cursor) (P : α → Prop)
    (parse : Parse α) : Prop :=
  ∀ state : ParseState, state.cursor = start →
    (parse.run settings state).2.Tangled tokens ∨
      ∃ value next, parse settings state = .ok value next ∧ next.cursor = stop ∧
        next.journal.faults = state.journal.faults ∧ P value

/-- A parse that arrives with any value. -/
abbrev Moves (tokens : List Token) (settings : Settings) (start stop : Cursor)
    (parse : Parse α) : Prop :=
  Arrives tokens settings start stop (fun _ => True) parse

namespace Arrives

theorem of_run {parse : Parse α} {value : ParseState → α} {change : ParseState → ParseState}
    (hrun : ∀ state, parse settings state = .ok (value state) (change state))
    (hstop : ∀ state, state.cursor = start → (change state).cursor = stop ∧ P (value state))
    (hfaults : ∀ state, (change state).journal.faults = state.journal.faults) :
    Arrives tokens settings start stop P parse := by
  intro state hstate
  obtain ⟨hnext, hvalue⟩ := hstop state hstate
  exact .inr ⟨value state, change state, hrun state, hnext, hfaults state, hvalue⟩

theorem pure {value : α} (hvalue : P value) :
    Arrives tokens settings start start P (pure value) :=
  .of_run (fun _ => rfl) (fun _ hstate => ⟨hstate, hvalue⟩) fun _ => rfl

/-- A construct that was passed over in the first part stays so in the second. -/
theorem bind_of {parse : Parse α} {continued : α → Parse β}
    (hparse : Arrives tokens settings start middle P parse)
    (hkeeps : ∀ value, Respects KeepsEvents (continued value))
    (hcontinued : ∀ value, P value →
      Arrives tokens settings middle stop Q (continued value)) :
    Arrives tokens settings start stop Q (parse >>= continued) := by
  intro state hstate
  rcases hparse state hstate with htangled | ⟨value, next, hrun, hnext, hfaults, hvalue⟩
  · exact .inl (KeepsEvents.tangled (Respects.run_bind hkeeps settings state) htangled)
  · rw [run_bind, run_of_ok hrun]
    refine (hcontinued value hvalue next hnext).imp_right ?_
    rintro ⟨result, last, hsecond, hlast, hlastFaults, hresult⟩
    exact ⟨result, last, by rw [bind_of_ok hrun, hsecond], hlast, hlastFaults.trans hfaults,
      hresult⟩

theorem bind {parse : Parse α} {continued : α → Parse β}
    [∀ value, Respects KeepsEvents (continued value)]
    (hparse : Arrives tokens settings start middle P parse)
    (hcontinued : ∀ value, P value →
      Arrives tokens settings middle stop Q (continued value)) :
    Arrives tokens settings start stop Q (parse >>= continued) :=
  hparse.bind_of inferInstance hcontinued

/-- What follows a first part that has one outcome from each state. -/
theorem bind_of_run {parse : Parse α} {continued : α → Parse β} {value : ParseState → α}
    {change : ParseState → ParseState}
    (hrun : ∀ state, state.cursor = start →
      parse settings state = .ok (value state) (change state))
    (hcursor : ∀ state, state.cursor = start → (change state).cursor = middle)
    (hfaults : ∀ state, (change state).journal.faults = state.journal.faults)
    (hcontinued : ∀ state, Arrives tokens settings middle stop Q (continued (value state))) :
    Arrives tokens settings start stop Q (parse >>= continued) := by
  intro state hstate
  have hfirst : (parse >>= continued) settings state =
      continued (value state) settings (change state) := bind_of_ok (hrun state hstate)
  rw [run_congr hfirst, hfirst, ← hfaults state]
  exact hcontinued state (change state) (hcursor state hstate)

/-- A first part of which the value does not matter. -/
theorem after {parse : Parse α} {continued : α → Parse β}
    [∀ value, Respects KeepsEvents (continued value)]
    (hparse : Moves tokens settings start middle parse)
    (hcontinued : ∀ value, Arrives tokens settings middle stop Q (continued value)) :
    Arrives tokens settings start stop Q (parse >>= continued) :=
  hparse.bind fun value _ => hcontinued value

theorem map {f : α → β} {parse : Parse α} (hparse : Arrives tokens settings start stop P parse)
    (hf : ∀ value, P value → Q (f value)) : Arrives tokens settings start stop Q (f <$> parse) := by
  rw [map_eq_pure_bind]
  exact hparse.bind fun value hvalue => .pure (hf value hvalue)

theorem get_bind {continued : ParseState → Parse α}
    (hcontinued : ∀ state : ParseState, state.cursor = start →
      Arrives tokens settings start stop P (continued state)) :
    Arrives tokens settings start stop P (get >>= continued) :=
  fun state hstate => hcontinued state hstate state hstate

theorem read_bind {continued : Settings → Parse α}
    (hcontinued : Arrives tokens settings start stop P (continued settings)) :
    Arrives tokens settings start stop P (read >>= continued) :=
  hcontinued

theorem current_bind {continued : Token → Parse α}
    (hcontinued : Arrives tokens settings start stop P (continued start.current)) :
    Arrives tokens settings start stop P (current >>= continued) := by
  intro state hstate
  rw [← hstate] at hcontinued
  exact hcontinued state rfl

theorem kind_bind {continued : TokenKind → Parse α}
    (hcontinued : Arrives tokens settings start stop P (continued start.kind)) :
    Arrives tokens settings start stop P (kind >>= continued) := by
  intro state hstate
  subst hstate
  exact hcontinued state rfl

theorem position_bind {continued : Position → Parse α}
    (hcontinued : ∀ position, Arrives tokens settings start stop P (continued position)) :
    Arrives tokens settings start stop P (position >>= continued) :=
  fun state hstate => hcontinued _ state hstate

theorem remaining_bind {continued : Nat → Parse α}
    (hcontinued : Arrives tokens settings start stop P (continued start.remaining)) :
    Arrives tokens settings start stop P (remaining >>= continued) := by
  intro state hstate
  subst hstate
  exact hcontinued state rfl

theorem advance_bind {continued : Token → Parse α}
    (hcontinued : Arrives tokens settings start.advance stop P (continued start.current)) :
    Arrives tokens settings start stop P (advance >>= continued) := by
  intro state hstate
  subst hstate
  exact hcontinued state.advanced rfl

theorem expectOr_bind {expected : TokenKind} {failure : Failure} {continued : Token → Parse α}
    (hkind : start.kind = expected)
    (hcontinued : Arrives tokens settings start.advance stop P (continued start.current)) :
    Arrives tokens settings start stop P (expectOr expected failure >>= continued) := by
  unfold expectOr
  rw [bind_assoc]
  apply kind_bind
  rw [if_pos hkind]
  exact advance_bind hcontinued

theorem expect_bind {expected : TokenKind} {continued : Token → Parse α}
    (hkind : start.kind = expected)
    (hcontinued : Arrives tokens settings start.advance stop P (continued start.current)) :
    Arrives tokens settings start stop P (expect expected >>= continued) := by
  unfold expect
  rw [bind_assoc]
  exact current_bind (expectOr_bind hkind hcontinued)

theorem accept_bind {expected : TokenKind} {continued : Bool → Parse α}
    (hkind : start.kind = expected)
    (hcontinued : Arrives tokens settings start.advance stop P (continued true)) :
    Arrives tokens settings start stop P (accept expected >>= continued) :=
  .bind_of_run (fun _ hstate => accept_run_of_eq (hstate ▸ hkind)) (fun _ hstate => hstate ▸ rfl)
    (fun _ => rfl) fun _ => hcontinued

theorem accept_bind_of_ne {expected : TokenKind} {continued : Bool → Parse α}
    (hkind : start.kind ≠ expected)
    (hcontinued : Arrives tokens settings start stop P (continued false)) :
    Arrives tokens settings start stop P (accept expected >>= continued) :=
  .bind_of_run (fun _ hstate => accept_run_of_ne (hstate ▸ hkind)) (fun _ hstate => hstate)
    (fun _ => rfl) fun _ => hcontinued

theorem reportMisuse_bind {misuse : Misuse} {position : Position} {continued : Unit → Parse α}
    (hcontinued : Arrives tokens settings start stop P (continued ⟨⟩)) :
    Arrives tokens settings start stop P (reportMisuse misuse position >>= continued) := by
  cases hchecks : settings.checks with
  | true =>
      refine .bind_of_run (fun state _ => reportMisuse_checked hchecks misuse position state)
        (fun _ hstate => hstate) (fun state => ?_) fun _ => hcontinued
      rw [ParseState.reported_faults]
      exact List.append_nil _
  | false =>
      exact .bind_of_run (fun state _ => reportMisuse_unchecked hchecks misuse position state)
        (fun _ hstate => hstate) (fun _ => rfl) fun _ => hcontinued

/-- Whether a name is known or not, what follows it is read from the same cursor. -/
theorem resolve_bind {name : String} {position : Position} {continued : Symbol → Parse α}
    (hcontinued : ∀ symbol, Arrives tokens settings start stop P (continued symbol)) :
    Arrives tokens settings start stop P (resolve name position >>= continued) := by
  intro state hstate
  cases hlookup : state.symbols.lookup? name with
  | some symbol =>
      have hfound : (resolve name position >>= continued) settings state =
          continued symbol settings state := bind_of_ok (resolve_found hlookup)
      rw [run_congr hfound, hfound]
      exact hcontinued symbol state hstate
  | none =>
      have hplanted : (resolve name position >>= continued) settings state =
          (do reportMisuse (.undeclared name) position; continued (Symbol.dummy name)) settings
            { state with symbols := state.symbols.bind (.dummy name) } := by
        rw [bind_of_eq (resolve_planted hlookup), bind_assoc]
        simp only [pure_bind]
      rw [run_congr hplanted, hplanted]
      exact Arrives.reportMisuse_bind (hcontinued _) _ hstate

theorem attempt {parse : Parse α} (hparse : Arrives tokens settings start stop P parse) :
    Arrives tokens settings start stop (fun result => ∃ value, result = .ok value ∧ P value)
      (attempt parse) := by
  intro state hstate
  rw [run_attempt]
  refine (hparse state hstate).imp_right ?_
  rintro ⟨value, next, hrun, hnext, hfaults, hvalue⟩
  refine ⟨.ok value, next, ?_, hnext, hfaults, value, rfl, hvalue⟩
  unfold Parse.attempt
  rw [hrun]

theorem orFail {parse : Parse (Option α)}
    (hparse : Arrives tokens settings start stop (fun value? => value?.isSome = true) parse)
    (failure : Failure) :
    Moves tokens settings start stop (orFail parse failure) := by
  unfold Parse.orFail
  refine hparse.bind_of (fun value? => by cases value? <;> infer_instance) fun value? hvalue? => ?_
  cases value? with
  | none => contradiction
  | some value => exact .pure trivial

theorem bracket {before after : ParseState → ParseState} {parse : Parse α}
    (hparse : Arrives tokens settings start stop P parse)
    (hbefore : ∀ state, (before state).cursor = state.cursor ∧
      (before state).journal = state.journal)
    (hafter : ∀ state, (after state).cursor = state.cursor ∧
      (after state).journal = state.journal) :
    Arrives tokens settings start stop P (bracket before after parse) := by
  intro state hstate
  rw [run_bracket]
  refine (hparse (before state) ((hbefore state).1.trans hstate)).imp ?_ ?_
  · intro htangled
    unfold ParseState.Tangled at *
    rwa [(hafter _).2]
  · rintro ⟨value, next, hrun, hnext, hfaults, hvalue⟩
    refine ⟨value, after next, ?_, (hafter next).1.trans hnext, ?_, hvalue⟩
    · unfold Parse.bracket
      rw [hrun]
    · rw [(hafter next).2, hfaults, (hbefore state).2]

end Arrives

/-! ## Elementary parses -/

section Elementary

theorem expect_moves {expected : TokenKind} (hkind : start.kind = expected) :
    Moves tokens settings start start.advance (expect expected) := by
  rw [← bind_pure (expect expected)]
  exact .expect_bind hkind (.pure trivial)

theorem note_moves (event : Event) : Moves tokens settings start start (note event) :=
  .of_run (fun _ => rfl) (fun _ hstate => ⟨hstate, trivial⟩) fun _ => rfl

theorem reportMisuse_moves (misuse : Misuse) (position : Position) :
    Moves tokens settings start start (reportMisuse misuse position) := by
  rw [← bind_pure (reportMisuse misuse position)]
  exact .reportMisuse_bind (.pure trivial)

theorem reportUnless_moves (condition : Bool) (misuse : Misuse) (position : Position) :
    Moves tokens settings start start (reportUnless condition misuse position) := by
  unfold reportUnless
  split
  · exact .pure trivial
  · exact reportMisuse_moves misuse position

theorem placeholder_moves (span : Span) :
    Moves tokens settings start start (placeholder span) :=
  .get_bind fun _ _ => .pure trivial

theorem intern_moves (text : String) : Moves tokens settings start start (intern text) :=
  .of_run (fun _ => rfl) (fun _ hstate => ⟨hstate, trivial⟩) fun _ => rfl

/-- A skip past the first token of a kind. -/
theorem skipPast_moves {target : TokenKind} {ts : List Token} {token : Token}
    (hahead : start.ahead = ts ++ token :: stop.ahead) (hlast : stop.last = start.last)
    (htoken : token.kind = target) (htarget : target ≠ .eof)
    (hts : ∀ passed ∈ ts, passed.kind ≠ target ∧ passed.kind ≠ .eof) :
    Moves tokens settings start stop (skipPast target) := by
  subst htoken
  obtain ⟨hkind, hstop⟩ := Cursor.skipTo_eq hahead hlast hts
  have hskip : Moves tokens settings start (start.skipTo token.kind) (skipTo token.kind) :=
    .of_run (fun _ => rfl) (fun state hstate => ⟨by rw [hstate], trivial⟩) fun _ => rfl
  have hresynchronize : Moves tokens settings start (start.skipTo token.kind)
      (resynchronize token.kind) := by
    unfold resynchronize
    refine .position_bind fun position => (note_moves _).after fun _ => hskip.after fun _ => ?_
    refine .kind_bind ?_
    rw [hkind, if_neg fun heof => htarget heof.1]
    exact .pure trivial
  unfold skipPast
  refine hresynchronize.after fun _ => .advance_bind ?_
  rw [hstop]
  exact .pure trivial

/-- A skip after a report shows in the journal that something is passed over. -/
theorem passedOver_skipPast (target : TokenKind) (diagnostic : Diagnostic) (state : ParseState) :
    diagnostic ∈
      ((skipPast target).run settings (state.reported diagnostic)).2.journal.passedOver := by
  let skipping := (state.reported diagnostic).noted
    (.resynchronizing target state.cursor.current.span.start)
  have hskipping : diagnostic ∈ skipping.journal.passedOver := by
    refine Journal.mem_passedOver.2
      ⟨target, state.cursor.current.span.start, state.journal.events.toList, [], ?_⟩
    simp [skipping, ParseState.reported, ParseState.noted, Journal.report, Journal.note]
  unfold skipPast
  refine KeepsEvents.passedOver (Respects.run_bind inferInstance settings _) ?_
  unfold resynchronize
  rw [run_congr (bind_of_ok position_run), run_congr (bind_of_ok (note_run _))]
  exact KeepsEvents.passedOver (Respects.run inferInstance settings skipping) hskipping

/-- Where a construct is passed over, what is done may assume that its brackets do not nest. -/
theorem after_rejected {misuse : Misuse} {target : TokenKind} {continued : Unit → Parse α}
    [∀ value, Respects KeepsEvents (continued value)] (hchecks : settings.checks = true)
    (hrejects : misuse.rejects = true) {name opening : Token} {rest : List Token}
    (hname : name :: opening :: rest <:+ tokens)
    (hcontinued : nests opening.kind rest = false →
      Arrives tokens settings start stop P (skipPast target >>= continued)) :
    Arrives tokens settings start stop P
      (reportMisuse misuse name.span.start >>= fun _ => skipPast target >>= continued) := by
  cases hnests : nests opening.kind rest with
  | false => exact (reportMisuse_moves _ _).after fun _ => hcontinued hnests
  | true =>
      intro state hstate
      left
      rw [run_congr (bind_of_ok (reportMisuse_checked hchecks misuse _ state))]
      refine KeepsEvents.tangled (Respects.run_bind inferInstance settings _) ?_
      exact ⟨_, passedOver_skipPast target _ state, tangled_of_nests hrejects hname hnests⟩

end Elementary

end Parse

end SubsetC
