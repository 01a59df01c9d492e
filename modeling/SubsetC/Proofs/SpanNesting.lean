import SubsetC.Proofs.EndOfInputProgram
import SubsetC.Proofs.TracedStmt

/-!
# Nesting of spans

A program whose reading reports no fault lies in its text: the nodes of its tree span
slices that are not empty, each with its parts within it, in order and disjoint.
Misuses may be reported, since the trees of misused parts still lie among their tokens.
-/

namespace SubsetC

open Text

namespace Parse

variable {settings : Settings} {state next : ParseState}

/-! ## Functions and programs -/

theorem functionBody_traces (returns : Ty) :
    Traces settings state (fun ts body => Among ts [body.outline]) (functionBody returns) := by
  unfold functionBody setReturnType
  apply (modify_still rfl rfl).after
  intro _ next
  exact .remaining_bind (block_traces (stmtWithin_traces _))

/-- Nothing of the parameters belongs to a node but the function. -/
theorem functionRest_traces (returns : Ty) (name : Token) (start : Position) :
    Traces settings state
      (fun ts defined => ∀ lead, Begins lead start → Among (lead ++ ts) [defined.outline])
      (functionRest returns name start) := by
  unfold functionRest
  apply traces_of_movesOn.bind
  intro params next
  apply Traces.expect_bind (by decide)
  apply (declareFunction_still name _).after
  intro symbol last
  apply (note_still _).after
  intro _ last
  apply (functionBody_traces returns).bind
  intro body last
  apply Traces.pure
  intro us hbody ts _ lead hlead
  have hnode := Among.reach ((hlead.append ts).append [next.cursor.current]) .nil hbody
  simp only [List.append_assoc, List.singleton_append, List.nil_append] at hnode
  rw [List.append_nil]
  exact hnode

theorem function_traces (returns : Ty) (name : Token) (start : Position) :
    Traces settings state
      (fun ts defined => ∀ lead, Begins lead start → Among (lead ++ ts) [defined.outline])
      (function returns name start) := by
  unfold function
  apply Traces.expect_bind (by decide)
  refine .bracket ⟨rfl, rfl⟩ (fun _ => ⟨rfl, rfl⟩) ?_
  apply (functionRest_traces returns name start).imp
  intro ts defined hrest lead hlead
  have hnode := hrest _ (hlead.append [state.cursor.current])
  rwa [List.append_assoc] at hnode

theorem external_traces :
    Traces settings state (fun ts found => Among ts [found.outline]) external := by
  unfold external
  apply Traces.position_bind
  apply typeSpecifier_traces.bind
  intro base next
  apply (expectFor_traces (by decide) _).bind
  intro name last
  have hlead := begins_cons state.cursor.current [name]
  apply Traces.kind_bind
  split
  · apply Traces.map
    apply (function_traces base name _).imp
    rintro us defined hdefined ts rfl specifier rfl
    exact hdefined _ hlead
  · apply Traces.map
    apply (declarator_traces base name _).imp
    rintro us declared hdeclared ts rfl specifier rfl
    exact hdeclared _ hlead

theorem externals_traces (budget : Nat) :
    Traces settings state (fun ts found => Among ts (found.map External.outline))
      (externals budget) := by
  induction budget generalizing state with
  | zero => exact .pure .nil
  | succ budget ih =>
      unfold externals
      apply Traces.hasTokens_bind
      split
      · apply external_traces.attempt_bind
        · intro first next
          apply ih.bind
          intro others last
          apply Traces.pure
          intro us hothers ts hfirst
          rw [List.append_nil]
          exact hfirst.append hothers
        · intro failure next
          exact .recoverPast_bind
      · exact .pure .nil

theorem program_traces :
    Traces settings state (fun ts found => Among ts (found.externals.map External.outline))
      program := by
  unfold program
  apply Traces.position_bind
  apply Traces.remaining_bind
  apply (externals_traces _).bind
  intro found middle
  apply Traces.position_bind
  apply Traces.bind_of_run takeStrings_run (.of_cursor_eq rfl) rfl
  apply Traces.get_bind
  apply Traces.pure
  intro ts hfound
  exact hfound.followed []

/-- A program reaches from the first token to the last. -/
theorem program_span {found : Program} (hrun : program settings state = .ok found next) :
    found.span = { start := state.cursor.current.span.start,
                   stop := next.cursor.current.span.start } := by
  unfold program at hrun
  rw [bind_of_ok position_run, bind_of_ok remaining_run] at hrun
  obtain ⟨externals, middle, -, hrest⟩ := bind_eq_ok.1 hrun
  rw [bind_of_ok position_run] at hrest
  cases hrest
  rfl

theorem journaled_eq_ok {found : Program} (hrun : journaled settings state = .ok found next) :
    ∃ middle, program settings
        (state.noted (.started settings.file (state.cursor.remaining + 1))) = .ok found middle ∧
      next = middle.noted (.finished settings.file middle.journal.size) := by
  rw [journaled_eq] at hrun
  cases hprogram : program settings
    (state.noted (.started settings.file (state.cursor.remaining + 1))) with
  | ok value middle =>
      rw [hprogram] at hrun
      cases hrun
      exact ⟨middle, rfl, rfl⟩
  | error failure middle =>
      rw [hprogram] at hrun
      contradiction

/-- A program that is read without a fault lies among all tokens but the last, and reaches
from the first to the last. -/
theorem parse_among {body : List Token} {last : Token} {found : Program}
    (hbody : ∀ token ∈ body, token.kind ≠ .eof) (hlast : last.kind = .eof)
    (hparse : parse settings (body ++ [last]) = (.ok found, next))
    (hfaults : next.journal.faults = []) :
    Among body (found.externals.map External.outline) ∧
      found.span = {
        start := (Cursor.ofTokens (body ++ [last]) settings.file).current.span.start
        stop := last.span.start } := by
  have hrun := run_eq_ok hparse
  have hmoves : MovesOn _ next := Respects.ok hrun
  have hmeets := journaled_meets.run settings
    (ParseState.unended_ofTokens hbody hlast settings.file) trivial
  rw [hrun] at hmeets
  have hahead := hmeets.1.ahead_eq_nil hmeets.2
  have hstop : next.cursor.current = last := by
    rw [Cursor.current, hahead, hmoves.2]
    exact Cursor.ofTokens_last hlast settings.file
  obtain ⟨middle, hprogram, rfl⟩ := journaled_eq_ok hrun
  obtain ⟨ts, hreads, hamong⟩ := program_traces.reads hprogram hfaults
  have hall : body = ts ++ middle.cursor.ahead :=
    (Cursor.ofTokens_ahead hlast settings.file).symm.trans hreads
  have hnil : middle.cursor.ahead = [] := hahead
  rw [hnil, List.append_nil] at hall
  have hend : middle.cursor.current.span.start = last.span.start :=
    congrArg (·.span.start) hstop
  exact ⟨by rwa [hall], (program_span hprogram).trans (congrArg (Span.mk _) hend)⟩

end Parse

/-! ## Texts -/

theorem Begins.current {body : List Token} {last : Token} (hlast : last.kind = .eof)
    {position : Position} (hbegins : Begins (body ++ [last]) position) (file : String) :
    (Cursor.ofTokens (body ++ [last]) file).current.span.start = position := by
  obtain ⟨token, others, hsplit, rfl⟩ := hbegins
  rw [Cursor.current, Cursor.ofTokens_ahead hlast, Cursor.ofTokens_last hlast]
  cases body <;> cases hsplit <;> rfl

/-- How the nodes of a program lie in its text. -/
structure Program.Nests (program : Program) (file : String) (text : List Char) : Prop where
  lies : ∃ gap body, text = gap ++ body ∧ program.span = .around file gap body ∧
    Nested file gap body (program.externals.map External.outline)
  within : ∀ external ∈ program.externals,
    program.span.start.offset ≤ external.outline.span.start.offset ∧
      external.outline.span.stop.offset ≤ program.span.stop.offset ∧ external.outline.Nests
  ordered : program.externals.Pairwise fun first second =>
    first.outline.span.stop.offset ≤ second.outline.span.start.offset

theorem Program.Nests.of_nested {program : Program} {file : String} {gap body : List Char}
    (hspan : program.span = .around file gap body)
    (hnested : Nested file gap body (program.externals.map External.outline))
    (hsize : byteLength (gap ++ body) < 2 ^ 32) : program.Nests file (gap ++ body) where
  lies := ⟨gap, body, rfl, hspan, hnested⟩
  within external hmem := by
    have hwhole : byteLength (gap ++ body ++ []) < 2 ^ 32 := by rwa [List.append_nil]
    obtain ⟨hstart, hstop⟩ := Span.around_offsets file hwhole
    obtain ⟨hbelow, habove, hnests⟩ := (hnested.nests hsize).1 _ (List.mem_map_of_mem hmem)
    rw [hspan, hstart, hstop, ← byteLength_append]
    exact ⟨hbelow, habove, hnests⟩
  ordered := List.pairwise_map.1 (hnested.nests hsize).2

/-- If reading a text of fewer than `2 ^ 32` bytes reports no fault, the nodes of its program span
slices of the text that are not empty, each with its parts within it, in order and disjoint. -/
theorem spans_nest {settings : Settings} {text file : String} {tokens : List Token}
    {program : Program} {state : ParseState} (htokens : tokenize text file = .ok tokens)
    (hparse : parse settings tokens = (.ok program, state))
    (hfaults : state.journal.faults = []) (hsize : byteLength text.toList < 2 ^ 32) :
    program.Nests file text.toList := by
  obtain ⟨lexemes, -, -, htiles⟩ := tokenize_tiles htokens
  obtain ⟨body, rfl, hbody⟩ := htiles.ends
  obtain ⟨hamong, hwhole⟩ := Parse.parse_among hbody rfl hparse hfaults
  obtain ⟨gap, slice, htext, hbegins, hnested⟩ :=
    Among.behind_gap (by rwa [List.dropLast_concat]) htiles
  have hspan : program.span = .around file gap slice := by
    rw [hwhole, hbegins.current rfl settings.file, Span.around, ← htext]
    rfl
  rw [htext] at hsize ⊢
  exact .of_nested hspan hnested hsize

/-- Misuses of a name and of an array, in nested statements. -/
def misusedText : String :=
  "int a[3]; int f(char c) \x7b\n  if (c < 1) \x7b a[c + 1] = !f(c) * d; \x7d" ++
    " else while (a) f(&a[2], \"s\");\n  char b[2] = (c); return b[c]; \x7d"

theorem misusedText_nests :
    ∃ tokens program state, tokenize misusedText "f.c" = .ok tokens ∧
      parse { file := "f.c" } tokens = (.ok program, state) ∧ state.journal.faults = [] ∧
      state.journal.diagnostics.size = 5 ∧ byteLength misusedText.toList < 2 ^ 32 ∧
      program.Nests "f.c" misusedText.toList := by
  have hreads : ((tokenize misusedText "f.c").toOption.any fun tokens => decide
      ((parse { file := "f.c" } tokens).1.toOption.isSome = true ∧
        (parse { file := "f.c" } tokens).2.journal.faults = [] ∧
        (parse { file := "f.c" } tokens).2.journal.diagnostics.size = 5)) = true := by
    decide +kernel
  obtain ⟨tokens, htokens, hsome, hfaults, hsize⟩ := exists_tokens hreads
  obtain ⟨program, hprogram⟩ := Option.isSome_iff_exists.1 hsome
  have hparse : parse { file := "f.c" } tokens =
      (.ok program, (parse { file := "f.c" } tokens).2) :=
    Prod.ext (eq_ok_of_toOption hprogram) rfl
  have hlength : byteLength misusedText.toList < 2 ^ 32 := by decide +kernel
  exact ⟨tokens, program, _, htokens, hparse, hfaults, hsize, hlength,
    spans_nest htokens hparse hfaults hlength⟩

/-- A declaration behind more blanks than the offsets of 32 bits can count with it. -/
def outlyingText : String := repeated ' ' (2 ^ 32 - 2) ++ "int x;"

/-- The lexemes of the declaration. -/
def declarationLexemes : List Lexeme :=
  [{ kind? := some .intWord, text := "int".toList }, { kind? := none, text := [' '] },
    { kind? := some .identifier, text := ['x'] }, { kind? := some .semicolon, text := [';'] }]

/-- The offsets of the declaration start over within it, so it stops before it starts. -/
theorem outlyingText_not_nested :
    ∃ tokens program state, tokenize outlyingText "f.c" = .ok tokens ∧
      parse { file := "f.c" } tokens = (.ok program, state) ∧ state.journal.faults = [] ∧
      ¬ program.Nests "f.c" outlyingText.toList := by
  have hsequence : Lexeme.Sequence "int x;".toList declarationLexemes :=
    .cons rfl <| .cons rfl <| .cons rfl <| .cons rfl .nil
  have hstop : ∀ c, "int x;".toList.head? = some c → isBlank c = false := by
    intro c hc
    obtain rfl : 'i' = c := Option.some.inj hc
    decide
  obtain ⟨tokens, htokens, hfaults, hreads⟩ : ∃ tokens, tokenize outlyingText "f.c" = .ok tokens ∧
      (parse { file := "f.c" } tokens).2.journal.faults = [] ∧
      ((parse { file := "f.c" } tokens).1.toOption.any fun program =>
        program.externals.any fun external =>
          decide (external.outline.span.stop.offset < external.outline.span.start.offset)) =
        true :=
    ⟨_, tokenize_repeated_append (by decide) hsequence hstop (by decide), by decide +kernel,
      by decide +kernel⟩
  obtain ⟨program, hprogram, hexternals⟩ := (Option.any_eq_true _ _).1 hreads
  have hparse : parse { file := "f.c" } tokens =
      (.ok program, (parse { file := "f.c" } tokens).2) :=
    Prod.ext (eq_ok_of_toOption hprogram) rfl
  refine ⟨tokens, program, _, htokens, hparse, hfaults, fun hnests => ?_⟩
  obtain ⟨external, hmem, hshifted⟩ := List.any_eq_true.1 hexternals
  obtain ⟨-, -, hnode⟩ := hnests.within external hmem
  have hbackwards := of_decide_eq_true hshifted
  have hforwards := hnode.start_lt_stop
  omega

end SubsetC
