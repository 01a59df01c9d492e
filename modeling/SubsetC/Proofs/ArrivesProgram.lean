import SubsetC.Proofs.ArrivesStmt
import SubsetC.Proofs.QuietProgram
import SubsetC.Proofs.Scanned
import SubsetC.Proofs.Shadows

/-!
# Where a checked program arrives

A text that is read without checks and with nothing reported is also read with checks, and
then only misuses are reported, unless a construct is passed over in which brackets nest.
Such a construct is passed over up to the first closing bracket, and what is left of it is
reported as a fault.
-/

namespace SubsetC

theorem Cursor.ofTokens_toList {body : List Token} {last : Token} (hlast : last.kind = .eof)
    (file : String) : (ofTokens (body ++ [last]) file).toList = body ++ [last] := by
  unfold ofTokens toList
  rw [List.getLast?_concat]
  simp only
  rw [dif_pos hlast, List.dropLast_concat]

namespace Parse

variable {tokens : List Token} {settings other : Settings} {state next : ParseState}
  {start stop : Cursor}

/-! ## Functions -/

theorem declareFunction_moves (name : Token) (signature : Signature) :
    Moves tokens settings start start (declareFunction name signature) :=
  .get_bind fun _ _ => (adopt_moves _ _).after fun _ => .pure trivial

theorem setReturnType_moves (ty? : Option Ty) :
    Moves tokens settings start start (setReturnType ty?) :=
  .of_run (fun _ => rfl) (fun _ hstate => ⟨hstate, trivial⟩) fun _ => rfl

theorem functionRest_moves (hchecks : settings.checks = true)
    (hwithin : state.cursor.Within tokens) {returns : Ty} {name : Token}
    {readPosition : Position} {found : FunctionDef}
    (hquiet : Quiet (functionRest returns name readPosition) other state found next)
    (position : Position) :
    Moves tokens settings state.cursor next.cursor (functionRest returns name position) := by
  obtain ⟨params, listed, declared, body, hparams, hclose, hdeclares, hbody, -⟩ :=
    quiet_functionRest.1 hquiet
  have hsame : declared.cursor = listed.cursor.advance := hdeclares.cursor_eq
  have hinside : declared.cursor.Within tokens := by
    rw [hsame]
    exact within_advanced (hparams.within hwithin)
  have hblock := block_moves (stmtWithin_moves hchecks _) (by exact hinside) hbody
  rw [ParseState.inBody_cursor, hsame] at hblock
  have hbody : Moves tokens settings listed.cursor.advance next.cursor (functionBody returns) := by
    unfold functionBody
    exact (setReturnType_moves _).after fun _ => .remaining_bind hblock
  unfold functionRest
  refine (parameters_moves hparams).after fun params => .expect_bind hclose ?_
  refine (declareFunction_moves _ _).after fun symbol => (note_moves _).after fun _ => ?_
  exact hbody.after fun body => .pure trivial

theorem function_moves (hchecks : settings.checks = true)
    (hwithin : state.cursor.Within tokens) {returns : Ty} {name : Token}
    {readPosition : Position} {found : FunctionDef}
    (hquiet : Quiet (function returns name readPosition) other state found next)
    (position : Position) :
    Moves tokens settings state.cursor next.cursor (function returns name position) := by
  obtain ⟨hopen, last, hrest, rfl⟩ := quiet_function.1 hquiet
  have hinside := functionRest_moves hchecks (by exact within_advanced hwithin) hrest position
  unfold function
  refine .expect_bind hopen ?_
  exact hinside.bracket (fun _ => ⟨rfl, rfl⟩) fun _ => ⟨rfl, rfl⟩

theorem external_moves (hchecks : settings.checks = true)
    (hwithin : state.cursor.Within tokens) {found : External}
    (hquiet : Quiet external other state found next) :
    Moves tokens settings state.cursor next.cursor external := by
  obtain ⟨base, hbase, hname, hrest⟩ := quiet_external.1 hquiet
  have hafter : state.advanced.advanced.cursor.Within tokens :=
    within_advanced (within_advanced hwithin)
  unfold external
  refine .position_bind fun start => (typeSpecifier_arrives hbase).bind fun found hfound => ?_
  rw [hfound]
  refine .expectFor_bind hname (.kind_bind ?_)
  rcases hrest with ⟨hopen, defined, hdefined, -⟩ | ⟨hopen, declared, hdeclared, -⟩
  · have hkind : state.cursor.advance.advance.kind = .openParen := hopen
    rw [if_pos hkind]
    exact (function_moves hchecks hafter hdefined start).map fun _ _ => trivial
  · have hkind : state.cursor.advance.advance.kind ≠ .openParen := hopen
    rw [if_neg hkind]
    exact (declarator_moves hchecks hafter hdeclared start).map fun _ _ => trivial

/-! ## Programs -/

theorem Arrives.hasTokens_bind {α : Type} {P : α → Prop} {continued : Bool → Parse α}
    (hcontinued : Arrives tokens settings start stop P (continued (start.kind ≠ .eof))) :
    Arrives tokens settings start stop P (hasTokens >>= continued) := by
  intro state hstate
  subst hstate
  exact hcontinued state rfl

theorem externals_moves (hchecks : settings.checks = true)
    (hwithin : state.cursor.Within tokens) {budget : Nat} {found : List External}
    (hquiet : Quiet (externals budget) other state found next) :
    Moves tokens settings state.cursor next.cursor (externals budget) := by
  induction budget generalizing state found with
  | zero =>
      obtain ⟨-, rfl⟩ := quiet_externals_zero.1 hquiet
      exact .pure trivial
  | succ budget ih =>
      unfold externals
      refine .hasTokens_bind ?_
      rcases quiet_externals_succ.1 hquiet with ⟨heof, -, rfl⟩ |
        ⟨heof, first, middle, others, hfirst, hothers, -⟩
      · rw [if_neg (by simp [heof])]
        exact .pure trivial
      · rw [if_pos (by simp [heof])]
        have hattempt := (external_moves hchecks hwithin hfirst).attempt
        refine hattempt.bind_of (fun result => by cases result <;> infer_instance) ?_
        rintro result ⟨found, rfl, -⟩
        exact (ih (hfirst.within hwithin) hothers).after fun others => .pure trivial

instance : Respects KeepsEvents takeStrings :=
  .of_run (fun _ _ => rfl) fun _ _ => List.prefix_rfl

instance : Respects KeepsEvents program := by
  unfold program
  infer_instance

theorem takeStrings_moves : Moves tokens settings start start takeStrings :=
  .of_run (fun _ => takeStrings_run) (fun _ hstate => ⟨hstate, trivial⟩) fun _ => rfl

theorem program_moves (hchecks : settings.checks = true) (hwithin : state.cursor.Within tokens)
    {found : Program} (hquiet : Quiet program other state found next) :
    Moves tokens settings state.cursor next.cursor program := by
  obtain ⟨externals, last, hexternals, -, rfl⟩ := quiet_program.1 hquiet
  have hmoves : Moves tokens settings _ _ _ := externals_moves hchecks hwithin hexternals
  unfold program
  refine .position_bind fun start => .remaining_bind <| hmoves.after fun externals =>
    .position_bind fun stop => takeStrings_moves.after fun strings => ?_
  exact .get_bind fun _ _ => .pure trivial

theorem journaled_moves (hchecks : settings.checks = true)
    (hwithin : state.cursor.Within tokens) {found : Program}
    (hquiet : Quiet journaled other state found next) :
    Moves tokens settings state.cursor next.cursor journaled := by
  obtain ⟨last, hprogram, rfl⟩ := quiet_journaled.1 hquiet
  have hmoves := program_moves hchecks (by exact hwithin) hprogram
  unfold journaled
  refine .read_bind <| .remaining_bind <| (note_moves _).after fun _ => ?_
  refine hmoves.attempt.bind fun result hresult => .get_bind fun _ _ => ?_
  obtain ⟨found, rfl, -⟩ := hresult
  exact (note_moves _).after fun _ => .pure trivial

end Parse

open Parse

/-- A text that is read without checks and with nothing reported is read with checks too,
and only misuses are reported, unless a construct is passed over in which brackets
nest. -/
theorem parse_reports_misuses {text file : String} {tokens : List Token} {settings : Settings}
    {program : Program} (htokens : tokenize text file = .ok tokens)
    (hchecks : settings.checks = true)
    (hunchecked : (parse settings.unchecked tokens).1 = .ok program)
    (hclean : (parse settings.unchecked tokens).2.journal.diagnostics = #[])
    (hflat : ∀ diagnostic ∈ (parse settings tokens).2.journal.passedOver,
      diagnostic.tangled tokens = false) :
    (∃ checked, (parse settings tokens).1 = .ok checked) ∧
      ∀ diagnostic ∈ (parse settings tokens).2.journal.diagnostics.toList,
        diagnostic.isMisuse = true := by
  obtain ⟨body, last, rfl, hlast, -⟩ := tokenize_scanned htokens
  have hquiet := parse_eq_ok_iff.1 ⟨Prod.ext hunchecked rfl, hclean⟩
  have hwithin : (Cursor.ofTokens (body ++ [last]) settings.file).Within (body ++ [last]) := by
    unfold Cursor.Within
    rw [Cursor.ofTokens_toList hlast]
  have hmoves := journaled_moves hchecks (by exact hwithin) hquiet
  rcases hmoves (.ofTokens (body ++ [last]) settings.file) rfl with
    ⟨diagnostic, hmem, htangled⟩ | ⟨checked, next, hrun, -, hfaults, -⟩
  · rw [hflat diagnostic hmem] at htangled
    contradiction
  · have hparse : parse settings (body ++ [last]) = (.ok checked, next) := run_of_ok hrun
    rw [hparse]
    refine ⟨⟨checked, rfl⟩, fun diagnostic hmem => ?_⟩
    have hnone : next.journal.faults = [] := hfaults
    simpa using List.filter_eq_nil_iff.1 hnone diagnostic hmem

/-- A function that subscripts a number and calls it, with other brackets inside.  The address
of an element is read even if there is no such element, so its brackets may nest. -/
def flatText : String :=
  "int f(int x) \x7b int a[2]; x[(1)] = 2; x(2); f(&x[a[0]]); return x[3]; \x7d"

theorem flatText_reports_misuses :
    ∃ tokens program, tokenize flatText "f.c" = .ok tokens ∧
      (parse { file := "f.c", checks := false } tokens).1 = .ok program ∧
      (parse { file := "f.c", checks := false } tokens).2.journal.diagnostics = #[] ∧
      (parse { file := "f.c" } tokens).2.journal.passedOver.map
        (Diagnostic.tangled tokens) = [false, false, false] ∧
      (∃ checked, (parse { file := "f.c" } tokens).1 = .ok checked) ∧
      ∀ diagnostic ∈ (parse { file := "f.c" } tokens).2.journal.diagnostics.toList,
        diagnostic.isMisuse = true := by
  have hreads : ((tokenize flatText "f.c").toOption.any fun tokens => decide
      ((parse { file := "f.c", checks := false } tokens).1.toOption.isSome = true ∧
        (parse { file := "f.c", checks := false } tokens).2.journal.size = 0 ∧
        (parse { file := "f.c" } tokens).2.journal.passedOver.map
          (Diagnostic.tangled tokens) = [false, false, false])) = true := by
    decide +kernel
  obtain ⟨tokens, htokens, hsome, hsize, htangled⟩ := exists_tokens hreads
  obtain ⟨program, hprogram⟩ := Option.isSome_iff_exists.1 hsome
  have hparsed := eq_ok_of_toOption hprogram
  have hclean := Array.size_eq_zero_iff.1 hsize
  have hchecks : ({ file := "f.c" } : Settings).checks = true := rfl
  have hflat : ∀ diagnostic ∈ (parse { file := "f.c" } tokens).2.journal.passedOver,
      diagnostic.tangled tokens = false := by
    intro diagnostic hmem
    have hmem := List.mem_map_of_mem (f := Diagnostic.tangled tokens) hmem
    rw [htangled] at hmem
    simpa using hmem
  have hmisuses := parse_reports_misuses htokens hchecks hparsed hclean hflat
  exact ⟨tokens, program, htokens, hparsed, hclean, htangled, hmisuses⟩

/-- A function that subscripts a number by an element of it. -/
def nestedText : String :=
  "void f(int x) \x7b x[x[0]]; \x7d"

/-- A misuse of a name can show up as a fault of the syntax: the subscript that is passed
over ends at the bracket that closes the inner one. -/
theorem nestedText_reports_fault :
    ∃ tokens program, tokenize nestedText "f.c" = .ok tokens ∧
      (parse { file := "f.c", checks := false } tokens).1 = .ok program ∧
      (parse { file := "f.c", checks := false } tokens).2.journal.diagnostics = #[] ∧
      (parse { file := "f.c" } tokens).2.journal.diagnostics.toList.map
        Diagnostic.isMisuse = [true, false] := by
  have hreads : ((tokenize nestedText "f.c").toOption.any fun tokens => decide
      ((parse { file := "f.c", checks := false } tokens).1.toOption.isSome = true ∧
        (parse { file := "f.c", checks := false } tokens).2.journal.size = 0 ∧
        (parse { file := "f.c" } tokens).2.journal.diagnostics.toList.map
          Diagnostic.isMisuse = [true, false])) = true := by
    decide +kernel
  obtain ⟨tokens, htokens, hsome, hsize, hreported⟩ := exists_tokens hreads
  obtain ⟨program, hprogram⟩ := Option.isSome_iff_exists.1 hsome
  have hparsed := eq_ok_of_toOption hprogram
  exact ⟨tokens, program, htokens, hparsed, Array.size_eq_zero_iff.1 hsize, hreported⟩

end SubsetC
