import SubsetC.Proofs.Oblivious
import SubsetC.Proofs.Progress
import SubsetC.Proofs.QuietExpr
import SubsetC.Proofs.Recoveries
import SubsetC.Proofs.Scanned
import SubsetC.Proofs.Typing

/-!
# Checks of calls

A call of a function with fixed parameters is checked argument by argument, and at its
end for their number.  The checks are compared with the argument list as it is read on
its own: expressions with commas between them, up to the parenthesis that closes it.
-/

namespace SubsetC

/-! ## What a signature demands -/

namespace Signature

/-- What becomes of an argument at an index: an `int` for a `char` is narrowed. -/
def passed (signature : Signature) (index : Nat) (argument : Expr) : Expr :=
  if signature.params[index]? = some .char ∧ argument.ty = .int then .toChar argument
  else argument

/-- Whether an argument of the type may stand for a parameter. -/
def Suits (parameter ty : Ty) : Prop :=
  ty = .error ∨ parameter = ty ∨ (parameter = .int ∧ ty = .char) ∨
    (parameter = .char ∧ ty = .int)

instance (parameter ty : Ty) : Decidable (Suits parameter ty) := by
  unfold Suits
  infer_instance

/-- What is wrong with an argument of the type at an index, if anything is. -/
def misuse? (signature : Signature) (name : String) (index : Nat) (ty : Ty) : Option Misuse :=
  match signature.params[index]? with
  | none => some (.tooManyArguments name signature.params.length)
  | some parameter => if Suits parameter ty then none else some (.argumentType parameter)

/-- What is reported of an argument, where it starts. -/
def argumentReports (signature : Signature) (name : String) (index : Nat) (argument : Expr) :
    List Diagnostic :=
  ((signature.misuse? name index argument.ty).map fun misuse =>
    { cause := .misuse misuse, position := argument.start }).toList

/-- What is reported of the number of arguments, where the call closes. -/
def countReports (signature : Signature) (name : String) (count : Nat) (close : Position) :
    List Diagnostic :=
  if count < signature.params.length then
    [{ cause := .misuse (.tooFewArguments name signature.params.length), position := close }]
  else []

end Signature

/-- An argument as it is read, before it is checked, and what was reported in reading it. -/
structure ReadArgument where
  argument : Expr
  reports : List Diagnostic

namespace Parse

variable {settings : Settings} {state next : ParseState}

/-- An expression is read from a state to the next one. -/
structure ReadsArgument (settings : Settings) (state : ParseState) (read : ReadArgument)
    (next : ParseState) : Prop where
  run : expr settings state = .ok (some read.argument) next
  reports : next.journal.diagnostics.toList = state.journal.diagnostics.toList ++ read.reports

/-- Expressions with commas between them, up to the closing parenthesis. -/
inductive ReadsArguments (settings : Settings) :
    ParseState → List ReadArgument → ParseState → Prop
  | last {state next : ParseState} {read : ReadArgument} :
      ReadsArgument settings state read next → next.cursor.kind = .closeParen →
      ReadsArguments settings state [read] next
  | more {state middle next : ParseState} {read : ReadArgument} {others : List ReadArgument} :
      ReadsArgument settings state read middle → middle.cursor.kind = .comma →
      ReadsArguments settings middle.advanced others next →
      ReadsArguments settings state (read :: others) next

/-- What stands between the parentheses of a call: nothing, or arguments. -/
inductive ReadsArgumentList (settings : Settings) :
    ParseState → List ReadArgument → ParseState → Prop
  | nothing {state : ParseState} : state.cursor.kind = .closeParen →
      ReadsArgumentList settings state [] state
  | arguments {state next : ParseState} {reads : List ReadArgument} :
      state.cursor.kind ≠ .closeParen →
      ReadsArguments settings state reads next → ReadsArgumentList settings state reads next

theorem ReadsArguments.kind {reads : List ReadArgument}
    (hreads : ReadsArguments settings state reads next) : next.cursor.kind = .closeParen := by
  induction hreads with
  | last _ hclose => exact hclose
  | more _ _ _ ih => exact ih

theorem ReadsArgumentList.kind {reads : List ReadArgument}
    (hreads : ReadsArgumentList settings state reads next) :
    next.cursor.kind = .closeParen := by
  cases hreads with
  | nothing hclose => exact hclose
  | arguments _ hreads => exact hreads.kind

/-! ## The checks -/

section Checks

variable {signature : Signature} {callee : Symbol} {reads : List ReadArgument}

theorem reportMisuse_emits (hchecks : settings.checks = true) (misuse : Misuse)
    (position : Position) :
    Emits settings (reportMisuse misuse position) state ⟨⟩ state
      [{ cause := .misuse misuse, position := position }] := by
  intro journal
  refine ⟨_, reportMisuse_checked hchecks misuse position _, ?_⟩
  simp [Journal.report, Journal.note]

theorem reportUnless_emits (hchecks : settings.checks = true) (state : ParseState)
    (condition : Bool) (misuse : Misuse) (position : Position) :
    Emits settings (reportUnless condition misuse position) state ⟨⟩ state
      (if condition then [] else [{ cause := .misuse misuse, position := position }]) := by
  cases condition with
  | true => exact .pure _
  | false => exact reportMisuse_emits hchecks misuse position

/-- Where the parameter is no `char` to which an `int` is narrowed, the two notions of what
an argument may be agree. -/
theorem accepts_eq_suits {index : Nat} {parameter ty : Ty}
    (hparameter : signature.params[index]? = some parameter)
    (hnarrow : ¬(parameter = .char ∧ ty = .int)) :
    signature.accepts index ty = decide (Signature.Suits parameter ty) := by
  simp only [Signature.accepts, hparameter, Signature.fits, Signature.Suits, hnarrow, or_false]
  simp [Bool.or_assoc]

theorem checked_emits (hchecks : settings.checks = true) (state : ParseState) (condition : Bool)
    (misuse : Misuse) (argument : Expr) :
    Emits settings (do reportUnless condition misuse argument.start; return argument) state
      argument state
      (if condition then [] else [{ cause := .misuse misuse, position := argument.start }]) :=
  (reportUnless_emits hchecks state condition misuse argument.start).bind_of_still
    (.pure argument)

theorem checkArgument_emits (hchecks : settings.checks = true)
    (hvariadic : signature.variadic = false) (callee : Symbol) (state : ParseState) (index : Nat)
    (argument : Expr) :
    Emits settings (checkArgument (.against signature) callee index argument) state
      (signature.passed index argument) state
      (signature.argumentReports callee.name index argument) := by
  unfold checkArgument Signature.argumentReports Signature.misuse? Signature.passed
  cases hparameter : signature.params[index]? with
  | none =>
      have hreport := checked_emits hchecks state signature.variadic
        (.tooManyArguments callee.name signature.params.length) argument
      simpa [hparameter, hvariadic] using hreport
  | some parameter =>
      by_cases hnarrow : parameter = .char ∧ argument.ty = .int
      · have hnarrowed : argument.narrow = .toChar argument := by simp [Expr.narrow, hnarrow.2]
        have hsuits : Signature.Suits .char .int := by decide
        simpa [hparameter, hnarrow.1, hnarrow.2, hsuits, hnarrowed] using
          Emits.pure argument.narrow
      · have hreport := checked_emits hchecks state
          (signature.accepts index argument.ty) (.argumentType parameter) argument
        have haccepts := accepts_eq_suits hparameter hnarrow
        by_cases hsuits : Signature.Suits parameter argument.ty <;>
          simpa [hparameter, hnarrow, haccepts, hsuits] using hreport

theorem checkCount_emits (hchecks : settings.checks = true) (count : Nat)
    (opening stop : Position) :
    Emits settings (checkCount (.against signature) callee count opening stop) state ⟨⟩ state
      (signature.countReports callee.name count stop) := by
  unfold checkCount Signature.countReports
  have hreport := reportUnless_emits hchecks state
    (decide (signature.params.length ≤ count))
    (.tooFewArguments callee.name signature.params.length) stop
  by_cases hcount : count < signature.params.length
  · simpa [hcount, Nat.not_le.2 hcount] using hreport
  · simpa [hcount, Nat.not_lt.1 hcount] using hreport

/-- What a call makes of its arguments, from the one at an index on. -/
def passedFrom (signature : Signature) (index : Nat) (reads : List ReadArgument) : List Expr :=
  (reads.zipIdx index).map fun (read, index) => signature.passed index read.argument

/-- What a call reports of its arguments, each after what was reported in reading it. -/
def reportsFrom (signature : Signature) (name : String) (index : Nat)
    (reads : List ReadArgument) : List Diagnostic :=
  (reads.zipIdx index).flatMap fun (read, index) =>
    read.reports ++ signature.argumentReports name index read.argument

theorem ReadsArgument.emits {read : ReadArgument} (hread : ReadsArgument settings state read next) :
    Emits settings expr state (some read.argument) next read.reports :=
  .of_oblivious hread.run hread.reports

theorem passedFrom_cons (signature : Signature) (index : Nat) (read : ReadArgument)
    (others : List ReadArgument) :
    passedFrom signature index (read :: others) =
      signature.passed index read.argument :: passedFrom signature (index + 1) others := by
  simp [passedFrom, List.zipIdx_cons]

theorem reportsFrom_cons (signature : Signature) (name : String) (index : Nat)
    (read : ReadArgument) (others : List ReadArgument) :
    reportsFrom signature name index (read :: others) =
      read.reports ++ (signature.argumentReports name index read.argument ++
        reportsFrom signature name (index + 1) others) := by
  simp [reportsFrom, List.zipIdx_cons]

theorem Emits.accept_bind {α : Type} {expected : TokenKind} {continued : Bool → Parse α}
    {result : α} {reports : List Diagnostic} (hkind : state.cursor.kind = expected)
    (hcontinued : Emits settings (continued true) state.advanced result next reports) :
    Emits settings (accept expected >>= continued) state result next reports :=
  .bind_of_run (fun _ => accept_run_of_eq (by exact hkind)) hcontinued

theorem Emits.expect_bind {α : Type} {expected : TokenKind} {continued : Token → Parse α}
    {result : α} {reports : List Diagnostic} (hkind : state.cursor.kind = expected)
    (hcontinued : Emits settings (continued state.cursor.current) state.advanced result next
      reports) :
    Emits settings (expect expected >>= continued) state result next reports :=
  .bind_of_run (fun _ => expect_run (by exact hkind)) hcontinued

theorem expect_close_emits (hclose : state.cursor.kind = .closeParen) :
    Emits settings (attempt (expect .closeParen)) state (.ok state.cursor.current)
      state.advanced [] :=
  .attempt (.of_run fun _ => expect_run (by exact hclose))

/-- The arguments of a list are checked one by one.  Every comma leaves fewer tokens, so
the budget lasts. -/
theorem argumentsFrom_emits (hchecks : settings.checks = true)
    (hvariadic : signature.variadic = false)
    (hreads : ReadsArguments settings state reads next) {budget : Nat}
    (hbudget : state.cursor.remaining < budget) (index : Nat) :
    Emits settings (argumentsFrom expr (.against signature) callee budget index) state
      (passedFrom signature index reads, .ok next.cursor.current) next.advanced
      (reportsFrom signature callee.name index reads) := by
  induction hreads generalizing budget index with
  | @last state next read hread hclose =>
      obtain ⟨budget, rfl⟩ := Nat.exists_eq_succ_of_ne_zero (Nat.ne_zero_of_lt hbudget)
      have hcomma : next.cursor.kind ≠ .comma := by simp [hclose]
      have hchecked := checkArgument_emits hchecks hvariadic callee next index read.argument
      rw [reportsFrom_cons, passedFrom_cons]
      unfold argumentsFrom
      refine .position_bind (hread.emits.orFail.attempt.bind (hchecked.bind ?_))
      refine .bind_of_look (fun _ => accept_run_of_ne hcomma) ?_
      exact (expect_close_emits hclose).bind (.pure _)
  | @more state middle next read others hread hcomma hothers ih =>
      obtain ⟨budget, rfl⟩ := Nat.exists_eq_succ_of_ne_zero (Nat.ne_zero_of_lt hbudget)
      have hlt : middle.advanced.cursor.remaining < budget := by
        have hpassed : middle.advanced.cursor.remaining < middle.cursor.remaining :=
          remaining_advanced_lt (by simp [hcomma])
        have hle := remaining_le hread.run
        omega
      have hchecked := checkArgument_emits hchecks hvariadic callee middle index read.argument
      rw [reportsFrom_cons, passedFrom_cons]
      unfold argumentsFrom
      refine .position_bind (hread.emits.orFail.attempt.bind (hchecked.bind ?_))
      exact .accept_bind hcomma ((ih hlt (index + 1)).bind_of_still (.pure _))

theorem arguments_emits (hchecks : settings.checks = true)
    (hvariadic : signature.variadic = false) (callee : Symbol)
    (hreads : ReadsArgumentList settings state reads next) :
    Emits settings (arguments expr (.against signature) callee) state
      (passedFrom signature 0 reads, .ok next.cursor.current) next.advanced
      (reportsFrom signature callee.name 0 reads) := by
  unfold arguments
  refine .kind_bind ?_
  cases hreads with
  | nothing hclose =>
      rw [if_pos hclose]
      exact (expect_close_emits hclose).bind (.pure _)
  | arguments hopen hreads =>
      rw [if_neg hopen]
      exact .remaining_bind (argumentsFrom_emits hchecks hvariadic hreads (Nat.lt_succ_self _) 0)

end Checks

/-! ## Calls -/

section Calls

variable {name : String} {signature : Signature} {span : Span} {reads : List ReadArgument}
  {last : ParseState}

theorem ofCallee_fixed (hvariadic : signature.variadic = false) :
    CallCheck.ofCallee true (.function name signature) = .against signature := by
  simp [CallCheck.ofCallee, Symbol.signature?, hvariadic]

theorem call_eq_checkedCall (expr : Parse (Option Expr)) :
    call expr (.function name signature) span settings state =
      checkedCall expr (.function name signature) span settings state := by
  unfold call
  rw [bind_of_ok read_run, if_neg (by simp [Symbol.signature?])]

theorem noteCallee_emits (callee : Symbol) :
    Emits settings (noteCallee callee) state ⟨⟩ (state.called callee) [] :=
  .of_run fun journal => by
    rw [noteCallee_run]
    unfold ParseState.called
    split <;> rfl

theorem checkedCall_emits (hchecks : settings.checks = true)
    (hvariadic : signature.variadic = false) (span : Span)
    (hopening : state.cursor.kind = .openParen)
    (hreads : ReadsArgumentList settings (state.called (.function name signature)).advanced
      reads last) :
    Emits settings (checkedCall expr (.function name signature) span) state
      (.call (.function name signature) (passedFrom signature 0 reads)
        (span.through last.cursor.current.span))
      last.advanced
      (reportsFrom signature name 0 reads ++
        signature.countReports name reads.length last.cursor.current.span.start) := by
  have hlength : (passedFrom signature 0 reads).length = reads.length := by simp [passedFrom]
  have hcalled : (state.called (.function name signature)).cursor.kind = .openParen := by
    rw [ParseState.called_cursor, hopening]
  unfold checkedCall
  refine .read_bind ?_
  rw [hchecks, ofCallee_fixed hvariadic]
  have hrest := arguments_emits hchecks hvariadic (.function name signature) hreads
  refine (noteCallee_emits _).bind (.expect_bind hcalled (hrest.bind ?_))
  rw [← hlength]
  exact (checkCount_emits hchecks _ _ _).bind_of_still (.pure _)

/-- An expression that is read with other reports before it is read without them too. -/
theorem readsArgument_of_run {journal : Journal} {argument : Expr}
    (hrun : expr settings { state with journal := journal } = .ok (some argument) next) :
    ∃ read later, ReadsArgument settings state read { next with journal := later } := by
  have hkeeps : KeepsReports { state with journal := journal } next := Respects.ok hrun
  obtain ⟨reports, hreports⟩ := hkeeps
  obtain ⟨later, hplain, hlater⟩ := Emits.of_oblivious hrun hreports.symm state.journal
  exact ⟨⟨argument, reports⟩, later, hplain, hlater⟩

/-- Arguments that are closed have been read one by one, with commas between them. -/
theorem readsArguments_of_run (hchecks : settings.checks = true)
    (hvariadic : signature.variadic = false) {callee : Symbol} {budget index : Nat}
    {journal : Journal} {found : List Expr} {close : Token}
    (hrun : argumentsFrom expr (.against signature) callee budget index settings
      { state with journal := journal } = .ok (found, .ok close) last) :
    ∃ reads next, ReadsArguments settings state reads next := by
  induction budget generalizing index journal state found with
  | zero =>
      unfold argumentsFrom at hrun
      rw [bind_of_ok current_run] at hrun
      cases hrun
  | succ budget ih =>
      unfold argumentsFrom at hrun
      rw [bind_of_ok position_run] at hrun
      obtain ⟨result, middle, hattempt, hrest⟩ := bind_eq_ok.1 hrun
      cases result with
      | error failure => cases hrest
      | ok argument =>
          have hexpr := orFail_eq_ok.1 (attempt_eq_ok.1 hattempt)
          obtain ⟨read, later, hread⟩ := readsArgument_of_run hexpr
          obtain ⟨checked, hcheck, -⟩ := checkArgument_emits hchecks hvariadic callee middle
            index argument middle.journal
          have hcheck : checkArgument (.against signature) callee index argument settings middle =
              .ok (signature.passed index argument) { middle with journal := checked } := hcheck
          dsimp only at hrest
          rw [bind_of_ok hcheck] at hrest
          by_cases hcomma : middle.cursor.kind = .comma
          · rw [bind_of_ok (accept_run_of_eq (by exact hcomma)), if_pos rfl] at hrest
            obtain ⟨⟨others, closing⟩, behind, hothers, hpair⟩ := bind_eq_ok.1 hrest
            cases hpair
            obtain ⟨reads, next, hreads⟩ :=
              @ih { middle with journal := later }.advanced _ _ _ hothers
            exact ⟨read :: reads, next, .more hread hcomma hreads⟩
          · rw [bind_of_ok (accept_run_of_ne (by exact hcomma)), if_neg (by simp)] at hrest
            obtain ⟨closing, behind, hclosing, hpair⟩ := bind_eq_ok.1 hrest
            cases hpair
            have hclose := kind_of_expect (attempt_eq_ok.1 hclosing)
            exact ⟨[read], _, .last hread hclose⟩

theorem readsArgumentList_of_run (hchecks : settings.checks = true)
    (hvariadic : signature.variadic = false) {callee : Symbol} {found : List Expr} {close : Token}
    (hrun : arguments expr (.against signature) callee settings state =
      .ok (found, .ok close) last) :
    ∃ reads next, ReadsArgumentList settings state reads next := by
  unfold arguments at hrun
  rw [bind_of_ok kind_run] at hrun
  by_cases hclose : state.cursor.kind = .closeParen
  · exact ⟨[], state, .nothing hclose⟩
  · rw [if_neg hclose, bind_of_ok remaining_run] at hrun
    have hreads : ∃ reads next, ReadsArguments settings state reads next :=
      readsArguments_of_run hchecks hvariadic hrun
    obtain ⟨reads, next, hreads⟩ := hreads
    exact ⟨reads, next, .arguments hclose hreads⟩

/-- A recovery from an argument list reports a fault. -/
theorem recovered_faults {failure : Failure} {middle : ParseState} {delimiter : TokenKind}
    {continued : Unit → Parse Expr} [∀ value, Respects KeepsReports (continued value)]
    {node : Expr} (hkeeps : KeepsReports state middle)
    (hrun : (recoverPast delimiter failure >>= continued) settings middle = .ok node next) :
    next.journal.faults ≠ state.journal.faults := by
  by_cases hend : failure.fault = .endOfInput
  · rw [bind_of_error (recoverPast_of_end delimiter hend)] at hrun
    cases hrun
  · rw [bind_of_eq (recoverPast_of_ne delimiter hend)] at hrun
    have hrest : KeepsReports (middle.reported (.ofFailure failure)) next := Respects.ok hrun
    have hbefore := hkeeps.faults.length_le
    have hafter := hrest.faults.length_le
    rw [ParseState.reported_faults] at hafter
    intro heq
    simp [heq, Diagnostic.isMisuse, Diagnostic.ofFailure] at hafter
    omega

/-- A call that succeeds without a fault has read a whole argument list. -/
theorem readsArgumentList_of_call (hchecks : settings.checks = true)
    (hvariadic : signature.variadic = false) {node : Expr}
    (hrun : checkedCall expr (.function name signature) span settings state = .ok node next)
    (hfaults : next.journal.faults = state.journal.faults) :
    ∃ reads last, ReadsArgumentList settings
      (state.called (.function name signature)).advanced reads last := by
  unfold checkedCall at hrun
  rw [bind_of_ok read_run, hchecks, ofCallee_fixed hvariadic, bind_of_ok (noteCallee_run _)] at hrun
  obtain ⟨opening, entered, hexpect, hrun⟩ := bind_eq_ok.1 hrun
  have hopening := kind_of_expect hexpect
  obtain ⟨⟨found, closing⟩, middle, harguments, hrest⟩ := bind_eq_ok.1 hrun
  rw [expect_run hopening] at hexpect
  cases hexpect
  cases closing with
  | ok close => exact readsArgumentList_of_run hchecks hvariadic harguments
  | error failure =>
      have hkeeps : KeepsReports state middle := by
        have hread : KeepsReports (state.called (.function name signature)).advanced middle :=
          Respects.ok harguments
        simpa [KeepsReports] using hread
      exact absurd hfaults (recovered_faults hkeeps hrest)

/-- Without a fault of the whole call, none was reported in reading an argument. -/
theorem read_reports_misuses {journal later : Journal} {count : List Diagnostic}
    (hreports : later.diagnostics.toList = journal.diagnostics.toList ++
      (reportsFrom signature name 0 reads ++ count))
    (hfaults : later.faults = journal.faults) {read : ReadArgument} (hread : read ∈ reads)
    {diagnostic : Diagnostic} (hdiagnostic : diagnostic ∈ read.reports) :
    diagnostic.isMisuse = true := by
  by_contra hfault
  obtain ⟨index, hindex⟩ := List.getElem?_of_mem hread
  have hmem : diagnostic ∈ reportsFrom signature name 0 reads := by
    refine List.mem_flatMap.2 ⟨(read, index), ?_, List.mem_append_left _ hdiagnostic⟩
    exact List.mk_mem_zipIdx_iff_getElem?.2 hindex
  have hnone : (reportsFrom signature name 0 reads ++ count).filter (!·.isMisuse) = [] := by
    unfold Journal.faults at hfaults
    rw [hreports, List.filter_append] at hfaults
    exact List.append_right_eq_self.1 hfaults
  have hfiltered : diagnostic ∈
      (reportsFrom signature name 0 reads ++ count).filter (!·.isMisuse) :=
    List.mem_filter.2 ⟨List.mem_append_left count hmem, by simp [hfault]⟩
  rw [hnone] at hfiltered
  exact List.not_mem_nil hfiltered

end Calls

end Parse

open Parse

/-- Calls of functions with fixed parameters are checked exactly.  For every list of
arguments, however they were read, the call holds them in their order, each narrowed just
when an `int` is passed for a `char`, and reports one misuse for each argument that has no
parameter or does not suit it, and one more if there are too few.  No other call succeeds
without a fault. -/
theorem call_checked_exactly {settings : Settings} {state : ParseState} {name : String}
    {signature : Signature} {span : Span} (hchecks : settings.checks = true)
    (hvariadic : signature.variadic = false) (hopening : state.cursor.kind = .openParen) :
    (∀ reads last,
      ReadsArgumentList settings (state.called (.function name signature)).advanced reads last →
      ∃ next, call expr (.function name signature) span settings state =
          .ok (.call (.function name signature)
            (reads.zipIdx.map fun (read, index) => signature.passed index read.argument)
            (span.through last.cursor.current.span)) next ∧
        next.cursor = last.cursor.advance ∧
        next.journal.diagnostics.toList = state.journal.diagnostics.toList ++
          ((reads.zipIdx.flatMap fun (read, index) =>
              read.reports ++ signature.argumentReports name index read.argument) ++
            signature.countReports name reads.length last.cursor.current.span.start)) ∧
    ∀ node next, call expr (.function name signature) span settings state = .ok node next →
      next.journal.faults = state.journal.faults →
      ∃ reads last,
        ReadsArgumentList settings (state.called (.function name signature)).advanced reads last ∧
        ∀ read ∈ reads, ∀ diagnostic ∈ read.reports, diagnostic.isMisuse = true := by
  rw [call_eq_checkedCall]
  have hcall (reads : List ReadArgument) (last : ParseState)
      (hreads : ReadsArgumentList settings (state.called (.function name signature)).advanced
        reads last) :=
    checkedCall_emits hchecks hvariadic span hopening hreads state.journal
  constructor
  · intro reads last hreads
    obtain ⟨later, hrun, hreports⟩ := hcall reads last hreads
    exact ⟨_, hrun, rfl, hreports⟩
  · intro node next hrun hfaults
    obtain ⟨reads, last, hreads⟩ := readsArgumentList_of_call hchecks hvariadic hrun hfaults
    refine ⟨reads, last, hreads, ?_⟩
    obtain ⟨later, hrun', hreports⟩ := hcall reads last hreads
    cases hrun.symm.trans hrun'
    intro read hread diagnostic hdiagnostic
    exact read_reports_misuses hreports hfaults hread hdiagnostic

/-- An `int` for a `char`, a call of an unknown name, a `char` for an `int`, a string for an
`int`, and an argument without a parameter. -/
def suppliedText : String := "(1, h('a'), 'b', \"s\", 2)"

def suppliedSignature : Signature := { returns := .int, params := [.char, .int, .int, .int] }

theorem suppliedText_checked :
    ∃ tokens reads last next, tokenize suppliedText "f.c" = .ok tokens ∧
      (ParseState.ofTokens tokens "f.c").cursor.kind = .openParen ∧
      ReadsArgumentList { file := "f.c" }
        ((ParseState.ofTokens tokens "f.c").called (.function "g" suppliedSignature)).advanced
        reads last ∧
      reads.length = 5 ∧
      call expr (.function "g" suppliedSignature) (.empty (.first "f.c")) { file := "f.c" }
          (.ofTokens tokens "f.c") =
        .ok (.call (.function "g" suppliedSignature)
          (reads.zipIdx.map fun (read, index) => suppliedSignature.passed index read.argument)
          ((Span.empty (.first "f.c")).through last.cursor.current.span)) next ∧
      next.journal.size = 3 := by
  have hreads : ((tokenize suppliedText "f.c").toOption.any fun tokens => decide
      ((ParseState.ofTokens tokens "f.c").cursor.kind = .openParen ∧
        (((call expr (.function "g" suppliedSignature) (.empty (.first "f.c"))).run
          { file := "f.c" } (.ofTokens tokens "f.c")).1.toOption.map
            fun node => node.children.length) = some 5 ∧
        ((call expr (.function "g" suppliedSignature) (.empty (.first "f.c"))).run
          { file := "f.c" } (.ofTokens tokens "f.c")).2.journal.faults = [] ∧
        ((call expr (.function "g" suppliedSignature) (.empty (.first "f.c"))).run
          { file := "f.c" } (.ofTokens tokens "f.c")).2.journal.size = 3)) = true := by
    decide +kernel
  obtain ⟨tokens, htokens, hopening, hnode, hfaults, hsize⟩ := exists_tokens hreads
  obtain ⟨node, hnode, hlength⟩ := Option.map_eq_some_iff.1 hnode
  have hrun := run_eq_ok (Prod.ext (eq_ok_of_toOption hnode) rfl)
  obtain ⟨hexact, hread⟩ := @call_checked_exactly { file := "f.c" } (.ofTokens tokens "f.c") "g"
    suppliedSignature (.empty (.first "f.c")) rfl rfl hopening
  obtain ⟨reads, last, hlist, -⟩ := hread _ _ hrun hfaults
  obtain ⟨next, hcall, -, -⟩ := hexact reads last hlist
  cases hrun.symm.trans hcall
  refine ⟨tokens, reads, last, _, htokens, hopening, hlist, ?_, hcall, hsize⟩
  simpa [Expr.children] using hlength

end SubsetC
