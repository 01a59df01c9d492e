import SubsetC.Proofs.Arrives
import SubsetC.Proofs.SoundExpr

/-!
# Where a checked expression arrives

An expression that some run reads with no report is read by a checked run up to the same
cursor.  A subscript or a call that the checked run passes over is one that the other run
has read, so its brackets are matched and the skip ends behind them.
-/

namespace SubsetC

/-- The tokens from a cursor on are the last of some tokens. -/
def Cursor.Within (tokens : List Token) (cursor : Cursor) : Prop := cursor.toList <:+ tokens

namespace Parse

variable {tokens : List Token} {settings other : Settings} {state next : ParseState}

/-! ## Cursors move within the tokens -/

theorem MovesOn.within (hmoves : MovesOn state next) (hwithin : state.cursor.Within tokens) :
    next.cursor.Within tokens := by
  obtain ⟨⟨passed, hpassed⟩, hlast⟩ := hmoves
  refine List.IsSuffix.trans ⟨passed, ?_⟩ hwithin
  unfold Cursor.toList
  rw [← List.append_assoc, hpassed, hlast]

theorem Quiet.movesOn {α : Type} {parse : Parse α} [Respects MovesOn parse] {value : α}
    (hquiet : Quiet parse other state value next) : MovesOn state next :=
  Respects.ok hquiet.1

theorem Quiet.within {α : Type} {parse : Parse α} [Respects MovesOn parse] {value : α}
    (hquiet : Quiet parse other state value next) (hwithin : state.cursor.Within tokens) :
    next.cursor.Within tokens :=
  hquiet.movesOn.within hwithin

theorem within_advanced (hwithin : state.cursor.Within tokens) :
    state.advanced.cursor.Within tokens := by
  have hmoves : MovesOn state state.advanced := ⟨List.tail_suffix _, rfl⟩
  exact hmoves.within hwithin

/-- The token at a cursor comes before those from the next cursor on. -/
theorem current_before (hkind : state.cursor.kind ≠ .eof) (hwithin : state.cursor.Within tokens) :
    state.cursor.current :: state.cursor.advance.toList <:+ tokens := by
  rw [← Cursor.toList_eq_cons hkind]
  exact hwithin

/-! ## What is passed over -/

/-- Matched tokens between two brackets, from a cursor on the opening one to a cursor behind
the closing one. -/
structure Enclosed (opening closing : TokenKind) (start stop : Cursor) (inner : List Token)
    (close : Token) : Prop where
  opens : start.kind = opening
  closes : close.kind = closing
  matched : Bracketed inner
  ahead : start.advance.ahead = inner ++ close :: stop.ahead
  last : stop.last = start.last

section Enclosed

variable {opening closing : TokenKind} {start stop : Cursor} {inner : List Token} {close : Token}

theorem Enclosed.toList_eq (henclosed : Enclosed opening closing start stop inner close)
    (hopening : opening ≠ .eof) :
    start.toList = start.current :: (inner ++ close :: stop.toList) := by
  rw [Cursor.toList_eq_cons (henclosed.opens ▸ hopening)]
  unfold Cursor.toList
  rw [henclosed.ahead, henclosed.last, List.append_assoc]
  rfl

/-- Where a construct is passed over, none of the tokens between its brackets is taken for the
closing one. -/
theorem Enclosed.after_rejected (henclosed : Enclosed opening closing start stop inner close)
    (hpair : opening.closing? = some closing) {α : Type} {P : α → Prop} {last : Cursor}
    {misuse : Misuse} {target : TokenKind} {continued : Unit → Parse α}
    [∀ value, Respects KeepsEvents (continued value)] (hchecks : settings.checks = true)
    (hrejects : misuse.rejects = true) {name : Token} (hname : name :: start.toList <:+ tokens)
    (hcontinued : (∀ passed ∈ inner, passed.kind ≠ closing ∧ passed.kind ≠ .eof) →
      Arrives tokens settings start last P (skipPast target >>= continued)) :
    Arrives tokens settings start last P
      (reportMisuse misuse name.span.start >>= fun _ => skipPast target >>= continued) := by
  have hopening : opening ≠ .eof := by
    rintro rfl
    contradiction
  rw [henclosed.toList_eq hopening] at hname
  refine Parse.after_rejected hchecks hrejects hname fun hflat => hcontinued ?_
  have hcurrent : start.current.kind = opening := henclosed.opens
  rw [hcurrent] at hflat
  exact henclosed.matched.passed hpair hflat

end Enclosed

section Read

variable {expr : Parse (Option Expr)} [Respects ReportsMore expr] [Respects MovesOn expr]

theorem subscript_enclosed (hreads : ReadsExprs expr) {array : Symbol} {span : Span}
    {target : Subscript} (hquiet : Quiet (subscript expr array span) other state target next) :
    ∃ inner close,
      Enclosed .openBracket .closeBracket state.cursor next.cursor inner close := by
  obtain ⟨opening, ts, close, index, -, hclose, hindex, hread⟩ := subscript_reads hreads hquiet
  have hopen : state.cursor.kind = .openBracket := (quiet_subscript.1 hquiet).1
  have hahead : state.cursor.ahead = opening :: (ts ++ close :: next.cursor.ahead) := by
    unfold Reads at hread
    simpa using hread
  refine ⟨ts, close, hopen, hclose, hindex.bracketed, ?_, hquiet.movesOn.2⟩
  unfold Cursor.advance
  rw [hahead]
  rfl

theorem checkedCall_enclosed (hreads : ReadsExprs expr) {callee : Symbol} {span : Span}
    {found : Expr} (hquiet : Quiet (checkedCall expr callee span) other state found next) :
    ∃ inner close, Enclosed .openParen .closeParen state.cursor next.cursor inner close := by
  obtain ⟨hopen, kept, close, harguments, -, -⟩ := quiet_checkedCall.1 hquiet
  obtain ⟨parts, ts, hparts, hseparated, hclose, hread⟩ := arguments_reads hreads harguments
  have hmatched : Bracketed ts := hseparated.bracketed fun part hpart => by
    obtain ⟨argument, hargument, rfl⟩ := List.mem_map.1 hpart
    exact (hparts argument hargument).bracketed
  refine ⟨ts, close, hopen, hclose, hmatched, ?_, hquiet.movesOn.2⟩
  unfold Reads at hread
  simpa using hread

end Read

/-! ## Factors -/

/-- Where another run reads an expression with no report, a checked run reads one up to the
same cursor. -/
def ExprsArrive (tokens : List Token) (settings other : Settings)
    (expr : Parse (Option Expr)) : Prop :=
  ∀ ⦃state found next⦄, state.cursor.Within tokens → Quiet expr other state (some found) next →
    Arrives tokens settings state.cursor next.cursor (fun tree? => tree?.isSome = true) expr

section Factors

variable {expr : Parse (Option Expr)} [Respects ReportsMore expr] [Respects KeepsEvents expr]
  [Respects MovesOn expr]

omit [Respects KeepsEvents expr] [Respects MovesOn expr] in
theorem subscript_moves (hexpr : ExprsArrive tokens settings other expr)
    (hwithin : state.cursor.Within tokens) {read : Symbol} {readSpan : Span} {target : Subscript}
    (hquiet : Quiet (subscript expr read readSpan) other state target next)
    (array : Symbol) (span : Span) :
    Moves tokens settings state.cursor next.cursor (subscript expr array span) := by
  obtain ⟨hopen, index, middle, hindex, hclose, -, -, rfl⟩ := quiet_subscript.1 hquiet
  unfold subscript
  refine .expect_bind hopen (.position_bind fun start => ?_)
  have hinner := hexpr (within_advanced hwithin) hindex
  refine (Arrives.orFail hinner _).after fun index => .expect_bind hclose ?_
  exact (reportUnless_moves _ _ _).after fun _ => .pure trivial

omit [Respects KeepsEvents expr] in
/-- A subscript that another run has read is passed over up to its end. -/
theorem rejectSubscript_moves {α : Type} {P : α → Prop} {continued : Parse α}
    [Respects KeepsEvents continued] (hchecks : settings.checks = true)
    (hreads : ReadsExprs expr) {name : Token} (hname : name :: state.cursor.toList <:+ tokens)
    {read : Symbol} {readSpan : Span} {target : Subscript}
    (hquiet : Quiet (subscript expr read readSpan) other state target next) (symbol : Symbol)
    (hcontinued : Arrives tokens settings next.cursor next.cursor P continued) :
    Arrives tokens settings state.cursor next.cursor P
      (do rejectSubscript symbol name.span; continued) := by
  obtain ⟨inner, close, henclosed⟩ := subscript_enclosed hreads hquiet
  have hopen := henclosed.opens
  unfold rejectSubscript
  rw [bind_assoc]
  refine henclosed.after_rejected rfl hchecks rfl hname fun hpassed => ?_
  -- The skip starts on the opening bracket, which is passed over with the rest.
  have hahead : state.cursor.ahead =
      (state.cursor.current :: inner) ++ close :: next.cursor.ahead := by
    rw [Cursor.ahead_eq_cons (by rw [hopen]; decide), henclosed.ahead]
    rfl
  have hcurrent : state.cursor.current.kind ≠ .closeBracket ∧
      state.cursor.current.kind ≠ .eof := by
    have hkind : state.cursor.current.kind = .openBracket := hopen
    rw [hkind]
    decide
  have hskip : Moves tokens settings state.cursor next.cursor (skipPast .closeBracket) :=
    skipPast_moves hahead henclosed.last henclosed.closes (by decide)
      (List.forall_mem_cons.2 ⟨hcurrent, hpassed⟩)
  exact hskip.after fun _ => hcontinued

theorem Arrives.acceptsSubscript_bind {α : Type} {P : α → Prop} {start stop : Cursor}
    {symbol : Symbol} {continued : Bool → Parse α}
    (hcontinued : ∀ accepted, Arrives tokens settings start stop P (continued accepted)) :
    Arrives tokens settings start stop P (acceptsSubscript symbol >>= continued) :=
  .read_bind (hcontinued _)

omit [Respects KeepsEvents expr] in
theorem element_moves (hchecks : settings.checks = true)
    (hexpr : ExprsArrive tokens settings other expr) (hreads : ReadsExprs expr) {name : Token}
    (hname : name :: state.cursor.toList <:+ tokens) {read : Symbol} {readSpan : Span}
    {found : Expr} (hquiet : Quiet (element expr read readSpan) other state found next)
    (symbol : Symbol) :
    Moves tokens settings state.cursor next.cursor (element expr symbol name.span) := by
  obtain ⟨-, target, htarget, -⟩ := quiet_element.1 hquiet
  have hwithin : state.cursor.Within tokens := (List.suffix_cons _ _).trans hname
  unfold element
  refine .acceptsSubscript_bind fun accepted => ?_
  cases accepted with
  | true =>
      have hsubscript := subscript_moves hexpr hwithin htarget symbol name.span
      refine hsubscript.attempt.bind_of (fun result => by cases result <;> infer_instance) ?_
      rintro result ⟨found, rfl, -⟩
      exact .pure trivial
  | false => exact rejectSubscript_moves hchecks hreads hname htarget symbol (placeholder_moves _)

theorem checkArgument_moves {start : Cursor} (check : CallCheck) (callee : Symbol) (index : Nat)
    (argument : Expr) :
    Moves tokens settings start start (checkArgument check callee index argument) := by
  have hreported (condition : Bool) (misuse : Misuse) (position : Position) :
      Moves tokens settings start start
        (do reportUnless condition misuse position; return argument) :=
    (reportUnless_moves _ _ _).after fun _ => .pure trivial
  unfold checkArgument
  cases check with
  | unchecked => exact .pure trivial
  | format => exact hreported _ _ _
  | against signature =>
      cases hparameter : signature.params[index]? with
      | none =>
          simp only [hparameter]
          exact hreported _ _ _
      | some parameter =>
          simp only [hparameter]
          split
          · exact .pure trivial
          · exact hreported _ _ _

theorem checkCount_moves {start : Cursor} (check : CallCheck) (callee : Symbol) (count : Nat)
    (opening stop : Position) :
    Moves tokens settings start start (checkCount check callee count opening stop) := by
  unfold checkCount
  cases check with
  | unchecked => exact .pure trivial
  | format => exact reportUnless_moves _ _ _
  | against signature => exact reportUnless_moves _ _ _

/-- The arguments are read up to the parenthesis that closes the call. -/
theorem argumentsFrom_arrives (hexpr : ExprsArrive tokens settings other expr)
    (hwithin : state.cursor.Within tokens) {read : CallCheck} {readCallee : Symbol}
    {budget readIndex : Nat} {kept : List Expr} {close : Token}
    (hquiet : Quiet (argumentsFrom expr read readCallee budget readIndex) other state
      (kept, .ok close) next) (check : CallCheck) (callee : Symbol) (index : Nat) :
    Arrives tokens settings state.cursor next.cursor
      (fun result => ∃ close, result.2 = .ok close)
      (argumentsFrom expr check callee budget index) := by
  induction budget generalizing state readIndex kept index with
  | zero => exact (not_quiet_argumentsFrom_zero hquiet).elim
  | succ budget ih =>
      obtain ⟨argument, middle, hargument, -, hrest⟩ := quiet_argumentsFrom_succ.1 hquiet
      have hmiddle := hargument.within hwithin
      -- Both runs stand on the same tokens, so they count the same budget down.
      unfold argumentsFrom
      refine .position_bind fun start => ?_
      have hread (failure : Failure) := (Arrives.orFail (hexpr hwithin hargument) failure).attempt
      refine (hread _).bind_of (fun result => by cases result <;> infer_instance) ?_
      rintro result ⟨argument, rfl, -⟩
      refine (checkArgument_moves check callee index argument).after fun kept => ?_
      rcases hrest with ⟨hcomma, others, hothers, -⟩ | ⟨hparen, -, rfl, rfl⟩
      · refine .accept_bind hcomma ?_
        have hlater := ih (within_advanced hmiddle) hothers (index + 1)
        refine hlater.bind ?_
        rintro ⟨others, closing⟩ hclosing
        exact .pure hclosing
      · refine .accept_bind_of_ne (by rw [hparen]; decide) ?_
        have hclosing : Moves tokens settings middle.cursor middle.cursor.advance _ :=
          expect_moves hparen
        refine hclosing.attempt.bind fun closing hclose => .pure ?_
        obtain ⟨token, rfl, -⟩ := hclose
        exact ⟨token, rfl⟩

theorem arguments_arrive (hexpr : ExprsArrive tokens settings other expr)
    (hwithin : state.cursor.Within tokens) {read : CallCheck} {readCallee : Symbol}
    {kept : List Expr} {close : Token}
    (hquiet : Quiet (arguments expr read readCallee) other state (kept, .ok close) next)
    (check : CallCheck) (callee : Symbol) :
    Arrives tokens settings state.cursor next.cursor
      (fun result => ∃ close, result.2 = .ok close) (arguments expr check callee) := by
  unfold arguments
  refine .kind_bind ?_
  rcases quiet_arguments.1 hquiet with ⟨hparen, -, rfl, rfl⟩ | ⟨hparen, hrest⟩
  · rw [if_pos hparen]
    have hclosing : Moves tokens settings state.cursor state.cursor.advance _ :=
      expect_moves hparen
    refine hclosing.attempt.bind fun closing hclose => .pure ?_
    obtain ⟨token, rfl, -⟩ := hclose
    exact ⟨token, rfl⟩
  · rw [if_neg hparen]
    exact .remaining_bind (argumentsFrom_arrives hexpr hwithin hrest check callee 0)

theorem Arrives.noteCallee_bind {α : Type} {P : α → Prop} {start stop : Cursor} {callee : Symbol}
    {continued : Unit → Parse α}
    (hcontinued : Arrives tokens settings start stop P (continued ⟨⟩)) :
    Arrives tokens settings start stop P (noteCallee callee >>= continued) :=
  .bind_of_run (fun _ _ => noteCallee_run callee)
    (fun _ hstate => (ParseState.called_cursor _ _).trans hstate)
    (fun _ => congrArg Journal.faults (ParseState.called_journal _ _)) fun _ => hcontinued

theorem checkedCall_moves (hexpr : ExprsArrive tokens settings other expr)
    (hwithin : state.cursor.Within tokens) {read : Symbol} {readSpan : Span} {found : Expr}
    (hquiet : Quiet (checkedCall expr read readSpan) other state found next) (callee : Symbol)
    (span : Span) :
    Moves tokens settings state.cursor next.cursor (checkedCall expr callee span) := by
  obtain ⟨hopen, kept, close, harguments, -, -⟩ := quiet_checkedCall.1 hquiet
  have hstart : (state.called read).advanced.cursor = state.advanced.cursor := by
    simp only [ParseState.advanced_cursor, ParseState.called_cursor]
  have hinside : (state.called read).advanced.cursor.Within tokens := by
    rw [hstart]
    exact within_advanced hwithin
  have harrive : Arrives tokens settings _ next.cursor _ _ :=
    arguments_arrive hexpr hinside harguments (.ofCallee settings.checks callee) callee
  rw [hstart] at harrive
  unfold checkedCall
  refine .read_bind (.noteCallee_bind (.expect_bind hopen ?_))
  refine harrive.bind_of (fun result => ?_) ?_
  · obtain ⟨kept, closing⟩ := result
    cases closing <;> infer_instance
  rintro ⟨kept, closing⟩ ⟨close, rfl⟩
  exact (checkCount_moves _ _ _ _ _).after fun _ => .pure trivial

omit [Respects KeepsEvents expr] in
/-- Arguments that another run has read are passed over up to their end. -/
theorem rejectedCall_moves (hchecks : settings.checks = true) (hreads : ReadsExprs expr)
    {name : Token} (hname : name :: state.cursor.toList <:+ tokens) {read : Symbol}
    {readSpan : Span} {found : Expr}
    (hquiet : Quiet (checkedCall expr read readSpan) other state found next) (callee : Symbol) :
    Moves tokens settings state.cursor next.cursor (do
      reportMisuse (.notAFunction callee.name) name.span.start
      skipPast .openParen
      skipPast .closeParen
      placeholder name.span) := by
  obtain ⟨inner, close, henclosed⟩ := checkedCall_enclosed hreads hquiet
  have hopen := henclosed.opens
  refine henclosed.after_rejected rfl hchecks rfl hname fun hpassed => ?_
  have hopening : Moves tokens settings state.cursor state.cursor.advance (skipPast .openParen) :=
    skipPast_moves (Cursor.ahead_eq_cons (by rw [hopen]; decide)) rfl hopen (by decide)
      (List.forall_mem_nil _)
  have hclosing : Moves tokens settings state.cursor.advance next.cursor
      (skipPast .closeParen) :=
    skipPast_moves henclosed.ahead henclosed.last henclosed.closes (by decide) hpassed
  exact hopening.after fun _ => hclosing.after fun _ => placeholder_moves _

theorem call_moves (hchecks : settings.checks = true)
    (hexpr : ExprsArrive tokens settings other expr) (hreads : ReadsExprs expr) {name : Token}
    (hname : name :: state.cursor.toList <:+ tokens) {read : Symbol} {readSpan : Span}
    {found : Expr} (hquiet : Quiet (call expr read readSpan) other state found next)
    (callee : Symbol) :
    Moves tokens settings state.cursor next.cursor (call expr callee name.span) := by
  obtain ⟨-, hchecked⟩ := quiet_call.1 hquiet
  have hwithin : state.cursor.Within tokens := (List.suffix_cons _ _).trans hname
  unfold call
  refine .read_bind ?_
  split
  · exact rejectedCall_moves hchecks hreads hname hchecked callee
  · exact checkedCall_moves hexpr hwithin hchecked callee name.span

theorem afterName_moves (hchecks : settings.checks = true)
    (hexpr : ExprsArrive tokens settings other expr) (hreads : ReadsExprs expr) {name : Token}
    (hname : name :: state.cursor.toList <:+ tokens) {read : Symbol} {readSpan : Span}
    {found : Expr} (hquiet : Quiet (afterName expr read readSpan) other state found next)
    (symbol : Symbol) :
    Moves tokens settings state.cursor next.cursor (afterName expr symbol name.span) := by
  unfold afterName
  refine .kind_bind ?_
  rcases quiet_afterName.1 hquiet with ⟨hkind, helement⟩ | ⟨hkind, hcall⟩ | ⟨hbracket, hparen, -, rfl⟩
  · rw [hkind]
    exact element_moves hchecks hexpr hreads hname helement symbol
  · rw [hkind]
    exact call_moves hchecks hexpr hreads hname hcall symbol
  · split
    · contradiction
    · contradiction
    · exact .pure trivial

theorem named_moves (hchecks : settings.checks = true)
    (hexpr : ExprsArrive tokens settings other expr) (hreads : ReadsExprs expr)
    (hwithin : state.cursor.Within tokens) (hkind : state.cursor.kind = .identifier)
    {found : Expr} (hquiet : Quiet (named expr) other state found next) :
    Moves tokens settings state.cursor next.cursor (named expr) := by
  obtain ⟨read, middle, factor, hresolve, hfactor, -⟩ := quiet_named.1 hquiet
  have hmiddle : middle.cursor = state.cursor.advance := hresolve.resolve_cursor
  have hname := current_before (by rw [hkind]; decide) hwithin
  rw [← hmiddle] at hname
  unfold named
  refine .advance_bind (.resolve_bind fun symbol => ?_)
  have hafter := afterName_moves hchecks hexpr hreads hname hfactor symbol
  rw [hmiddle] at hafter
  exact hafter.after fun factor => .pure trivial

theorem stringLiteral_moves {start : Cursor} :
    Moves tokens settings start start.advance stringLiteral := by
  unfold stringLiteral
  exact .advance_bind ((intern_moves _).after fun id => .pure trivial)

theorem constant_moves {start : Cursor} {value : Constant}
    (hvalue : Constant.ofText start.current.text = .ok value) :
    Moves tokens settings start start.advance constant := by
  unfold constant
  refine .advance_bind ?_
  rw [hvalue]
  exact .pure trivial

omit [Respects KeepsEvents expr] [Respects MovesOn expr] in
theorem parenthesized_moves (hexpr : ExprsArrive tokens settings other expr)
    (hwithin : state.cursor.Within tokens) {found : Expr}
    (hquiet : Quiet (parenthesized expr) other state found next) :
    Moves tokens settings state.cursor next.cursor (parenthesized expr) := by
  obtain ⟨middle, hinner, hclose, rfl⟩ := quiet_parenthesized.1 hquiet
  unfold parenthesized
  refine .advance_bind (.position_bind fun start => ?_)
  have hread := hexpr (within_advanced hwithin) hinner
  exact (Arrives.orFail hread _).after fun inner => .expect_bind hclose (.pure trivial)

theorem stepped_moves {operator : Step} {found : Expr}
    (hquiet : Quiet (stepped operator) other state found next) :
    Moves tokens settings state.cursor next.cursor (stepped operator) := by
  obtain ⟨hname, read, hresolve, -, -⟩ := quiet_stepped.1 hquiet
  have hnext : next.cursor = state.cursor.advance.advance := hresolve.resolve_cursor
  rw [hnext]
  unfold stepped
  refine .advance_bind (.position_bind fun start => .expectOr_bind hname ?_)
  refine .resolve_bind fun symbol => .read_bind ?_
  exact (reportUnless_moves _ _ _).after fun _ => .pure trivial

omit [Respects MovesOn expr] in
theorem addressed_moves (hexpr : ExprsArrive tokens settings other expr)
    (hwithin : state.cursor.Within tokens) {found : Expr}
    (hquiet : Quiet (addressed expr) other state found next) :
    Moves tokens settings state.cursor next.cursor (addressed expr) := by
  obtain ⟨hname, read, middle, target, after, hresolve, -, htarget, -, rfl⟩ :=
    quiet_addressed.1 hquiet
  have hmiddle : middle.cursor = state.cursor.advance.advance := hresolve.resolve_cursor
  have hmiddleWithin : middle.cursor.Within tokens := by
    rw [hmiddle]
    have hadvanced : state.advanced.advanced.cursor.Within tokens :=
      within_advanced (within_advanced hwithin)
    exact hadvanced
  have hsubscript (symbol : Symbol) (span : Span) :=
    subscript_moves hexpr hmiddleWithin htarget symbol span
  have hopen : middle.cursor.kind = .openBracket := (quiet_subscript.1 htarget).1
  rw [hmiddle] at hsubscript hopen
  unfold addressed
  refine .advance_bind (.position_bind fun start => .expectOr_bind hname ?_)
  refine .resolve_bind fun symbol => .kind_bind ?_
  rw [if_pos hopen]
  refine .acceptsSubscript_bind fun accepted =>
    (reportUnless_moves _ _ _).after fun _ => (hsubscript symbol _).after fun found =>
      (note_moves _).after fun _ => .pure trivial

theorem freshFactor_arrives (hchecks : settings.checks = true)
    (hexpr : ExprsArrive tokens settings other expr) (hreads : ReadsExprs expr) :
    ExprsArrive tokens settings other (freshFactor expr) := by
  intro state found next hwithin hquiet
  have hsome {parse : Parse Expr} (hparse : Moves tokens settings state.cursor next.cursor parse) :
      Arrives tokens settings state.cursor next.cursor (fun tree? => tree?.isSome = true)
        (some <$> parse) :=
    hparse.map fun _ _ => rfl
  unfold freshFactor
  refine .kind_bind ?_
  rcases quiet_freshFactor_some.1 hquiet with ⟨hkind, hnamed⟩ | ⟨hkind, hstring⟩ |
    ⟨hkind, hconstant⟩ | ⟨hkind, hinner⟩ | ⟨hkind, hstep⟩ | ⟨hkind, hstep⟩ | ⟨hkind, haddress⟩ <;>
    rw [hkind]
  · exact hsome (named_moves hchecks hexpr hreads hwithin hkind hnamed)
  · obtain ⟨-, rfl⟩ := quiet_stringLiteral.1 hstring
    exact hsome stringLiteral_moves
  · obtain ⟨value, hvalue, -, rfl⟩ := quiet_constant.1 hconstant
    exact hsome (constant_moves hvalue)
  · exact hsome (parenthesized_moves hexpr hwithin hinner)
  · exact hsome (stepped_moves hstep)
  · exact hsome (stepped_moves hstep)
  · exact hsome (addressed_moves hexpr hwithin haddress)

theorem negated_moves (hchecks : settings.checks = true)
    (hexpr : ExprsArrive tokens settings other expr) (hreads : ReadsExprs expr)
    (hwithin : state.cursor.Within tokens) {found : Expr}
    (hquiet : Quiet (negated expr) other state found next) :
    Moves tokens settings state.cursor next.cursor (negated expr) := by
  obtain ⟨operand, hoperand, -, -⟩ := quiet_negated.1 hquiet
  have hfactor := freshFactor_arrives hchecks hexpr hreads (within_advanced hwithin) hoperand
  unfold negated
  refine .advance_bind (.position_bind fun start => ?_)
  refine (Arrives.orFail hfactor _).after fun operand => .read_bind ?_
  exact (reportUnless_moves _ _ _).after fun _ => .pure trivial

end Factors

/-! ## Expressions -/

/-- The beginnings that a checked run and another run hand on at a cursor.  The checked run
may have replaced a subscript, if nothing that would read on from a name follows it. -/
inductive HandedAlike (tokens : List Token) (cursor : Cursor) :
    Option Handoff → Option Handoff → Prop
  | none : HandedAlike tokens cursor none none
  | ident {name : Token} {symbol read : Symbol} {readSpan : Span} :
      name :: cursor.toList <:+ tokens →
      HandedAlike tokens cursor (some (.ident symbol name.span)) (some (.ident read readSpan))
  | element {target read : Subscript} :
      HandedAlike tokens cursor (some (.element target)) (some (.element read))
  | replaced {symbol : Symbol} {span : Span} {read : Subscript} :
      cursor.kind ≠ .openBracket → cursor.kind ≠ .openParen →
      HandedAlike tokens cursor (some (.ident symbol span)) (some (.element read))

/-- Rules that complete beginnings alike. -/
def CompletesAlike (tokens : List Token) (settings other : Settings) (rule : Rule) : Prop :=
  ∀ ⦃handoff? read? state found next⦄, state.cursor.Within tokens →
    HandedAlike tokens state.cursor handoff? read? →
    Quiet (rule read?) other state (some found) next →
    Arrives tokens settings state.cursor next.cursor (fun tree? => tree?.isSome = true)
      (rule handoff?)

theorem CompletesAlike.fresh {rule : Rule} (hrule : CompletesAlike tokens settings other rule) :
    ExprsArrive tokens settings other (rule none) :=
  fun _ _ _ hwithin hquiet => hrule hwithin .none hquiet

section Values

variable {expr : Parse (Option Expr)} [Respects ReportsMore expr] [Respects KeepsEvents expr]
  [Respects MovesOn expr]

theorem factor_completes (hchecks : settings.checks = true)
    (hexpr : ExprsArrive tokens settings other expr) (hreads : ReadsExprs expr) :
    CompletesAlike tokens settings other (factor expr) := by
  intro handoff? read? state found next hwithin halike hquiet
  cases halike with
  | none => exact freshFactor_arrives hchecks hexpr hreads hwithin hquiet
  | ident hname =>
      obtain ⟨named, hnamed, -⟩ := quiet_factor_ident.1 hquiet
      have hafter := afterName_moves hchecks hexpr hreads hname hnamed
      exact (hafter _).after fun factor => .pure rfl
  | element =>
      obtain ⟨-, rfl⟩ := quiet_factor_element.1 hquiet
      exact .pure rfl
  | replaced hbracket hparen =>
      obtain ⟨-, rfl⟩ := quiet_factor_element.1 hquiet
      rename_i symbol span read
      have hafter : Moves tokens settings next.cursor next.cursor
          (afterName expr symbol span) := by
        unfold afterName
        refine .kind_bind ?_
        split
        · contradiction
        · contradiction
        · exact .pure trivial
      exact hafter.after fun factor => .pure rfl

theorem value_completes (hchecks : settings.checks = true)
    (hexpr : ExprsArrive tokens settings other expr) (hreads : ReadsExprs expr) :
    CompletesAlike tokens settings other (value expr) := by
  intro handoff? read? state found next hwithin halike hquiet
  have hfactor (hread : Quiet (factor expr read?) other state (some found) next) :=
    factor_completes hchecks hexpr hreads hwithin halike hread
  cases halike with
  | none =>
      unfold value
      refine .kind_bind ?_
      rcases quiet_value_fresh_some.1 hquiet with ⟨hkind, hnegated⟩ | ⟨hkind, hfresh⟩
      · rw [if_pos hkind]
        exact (negated_moves hchecks hexpr hreads hwithin hnegated).map fun _ _ => rfl
      · rw [if_neg hkind]
        exact hfactor hfresh
  | ident hname => exact hfactor hquiet
  | element => exact hfactor hquiet
  | replaced hbracket hparen => exact hfactor hquiet

end Values

theorem joined_moves {start : Cursor} (operator : BinaryOp) (lhs rhs : Expr)
    (position : Position) :
    Moves tokens settings start start (joined operator lhs rhs position) := by
  unfold joined
  refine .read_bind ((reportUnless_moves _ _ _).after fun _ => ?_)
  exact (note_moves _).after fun _ => .pure trivial

section Chains

variable {operand : Rule} [∀ handoff?, Respects ReportsMore (operand handoff?)]
  [∀ handoff?, Respects KeepsEvents (operand handoff?)]
  [∀ handoff?, Respects MovesOn (operand handoff?)]

theorem operatorsAfter_moves {level : Precedence}
    (hoperand : CompletesAlike tokens settings other operand) {budget : Nat} {read found : Expr}
    (hwithin : state.cursor.Within tokens)
    (hquiet : Quiet (operatorsAfter level (operand none) budget read) other state found next)
    (lhs : Expr) :
    Moves tokens settings state.cursor next.cursor
      (operatorsAfter level (operand none) budget lhs) := by
  induction budget generalizing state read lhs with
  | zero =>
      rw [operatorsAfter, quiet_pure] at hquiet
      obtain ⟨-, rfl⟩ := hquiet
      exact .pure trivial
  | succ budget ih =>
      rw [operatorsAfter]
      refine .kind_bind ?_
      cases hoperator : level.operator? state.cursor.kind with
      | none =>
          obtain ⟨-, rfl⟩ := (quiet_operatorsAfter_of_none hoperator).1 hquiet
          exact .pure trivial
      | some operator =>
          obtain ⟨rhs, node, middle, after, hrhs, hnode, hrest⟩ :=
            (quiet_operatorsAfter_of_some hoperator).1 hquiet
          have hmiddle := hrhs.within (within_advanced hwithin)
          have hafter := hnode.within hmiddle
          obtain ⟨-, -, rfl⟩ := quiet_joined.1 hnode
          have hright := hoperand.fresh (within_advanced hwithin) hrhs
          refine .advance_bind ((Arrives.orFail hright _).after fun rhs => ?_)
          exact (joined_moves operator lhs rhs _).after fun node =>
            ih hafter hrest node

theorem chain_completes {level : Precedence}
    (hoperand : CompletesAlike tokens settings other operand) :
    CompletesAlike tokens settings other (chain level operand) := by
  intro handoff? read? state found next hwithin halike hquiet
  obtain ⟨read, middle, hread, hrest⟩ := quiet_chain_some.1 hquiet
  unfold chain
  refine (hoperand hwithin halike hread).bind_of
    (fun lhs? => by cases lhs? <;> infer_instance) fun lhs? hlhs => ?_
  cases lhs? with
  | none => contradiction
  | some lhs =>
      refine .remaining_bind ?_
      exact (operatorsAfter_moves hoperand (hread.within hwithin) hrest lhs).map fun _ _ => rfl

end Chains

theorem orExpr_completes {expr : Parse (Option Expr)} [Respects ReportsMore expr]
    [Respects KeepsEvents expr] [Respects MovesOn expr] (hchecks : settings.checks = true)
    (hexpr : ExprsArrive tokens settings other expr) (hreads : ReadsExprs expr) :
    CompletesAlike tokens settings other (orExpr expr) := by
  have hterm : CompletesAlike tokens settings other (term expr) :=
    chain_completes (value_completes hchecks hexpr hreads)
  have hnum : CompletesAlike tokens settings other (numExpr expr) := chain_completes hterm
  have hrel : CompletesAlike tokens settings other (relExpr expr) := chain_completes hnum
  have hand : CompletesAlike tokens settings other (andTerm expr) := chain_completes hrel
  exact chain_completes hand

theorem exprWithin_arrives (hchecks : settings.checks = true) (budget : Nat) :
    ExprsArrive tokens settings other (exprWithin budget none) := by
  induction budget with
  | zero =>
      intro state found next hwithin hquiet
      obtain ⟨smaller, hsmaller, -⟩ := quiet_exprWithin.1 hquiet
      contradiction
  | succ budget ih =>
      intro state found next hwithin hquiet
      obtain ⟨smaller, hsmaller, horExpr⟩ := quiet_exprWithin.1 hquiet
      cases hsmaller
      exact (orExpr_completes hchecks ih (exprWithin_reads budget)).fresh hwithin horExpr

theorem exprAfter_completes (hchecks : settings.checks = true) :
    CompletesAlike tokens settings other exprAfter := by
  intro handoff? read? state found next hwithin halike hquiet
  unfold exprAfter withExpr
  refine .remaining_bind ?_
  have hexpr : ExprsArrive tokens settings other (exprWithin (state.cursor.remaining + 1) none) :=
    exprWithin_arrives hchecks _
  exact orExpr_completes hchecks hexpr (exprWithin_reads _) hwithin halike (quiet_exprAfter.1 hquiet)

theorem expr_arrives (hchecks : settings.checks = true) :
    ExprsArrive tokens settings other expr :=
  (exprAfter_completes hchecks).fresh

theorem requireExpr_moves (hchecks : settings.checks = true) (hwithin : state.cursor.Within tokens)
    {found : Expr} (hquiet : Quiet expr other state (some found) next)
    (malformation : Malformation) :
    Moves tokens settings state.cursor next.cursor (requireExpr malformation) := by
  unfold requireExpr
  exact .position_bind fun position => .orFail (expr_arrives hchecks hwithin hquiet) _

/-- Where no expression begins, none is read whatever is checked. -/
theorem expr_absent {start : Cursor} (hnot : start.kind ≠ .not)
    (hbegins : beginsFactor start.kind = false) :
    Arrives tokens settings start start (fun tree? => tree? = none) expr := by
  intro state hstate
  have hquiet : Quiet expr settings state none state :=
    quiet_expr_none.2 ⟨hstate ▸ hnot, hstate ▸ hbegins, rfl⟩
  exact .inr ⟨none, state, hquiet.1, hstate, rfl, rfl⟩

end Parse

end SubsetC
