import SubsetC.Proofs.Brackets
import SubsetC.Proofs.CompleteExpr
import SubsetC.Proofs.Enclosure
import SubsetC.Proofs.Handoffs
import SubsetC.Proofs.ShadowsExpr
import SubsetC.Proofs.SoundExpr

/-!
# Subscripts that cannot be read

A subscript is contained in its brackets.  Whatever tokens are between them, if none of these
is a bracket or a parenthesis, a name with this subscript is read up to behind the closing
bracket, in an expression and at the beginning of a statement alike.  The subscript is built
exactly if the grammar derives an expression from the tokens.  Otherwise there is one fault, and
the placeholder stands for the name.
-/

namespace SubsetC

/-- What is between brackets, up to the closing one. -/
def Enclosure.brackets : Enclosure where
  admits := TokenKind.isPlain
  closing := .closeBracket
  isDelimiter := rfl
  admits_closing := rfl
  admits_eof := rfl
  admits_openBracket := rfl
  admits_openParen := rfl

theorem SymbolTable.placeholder_name (table : SymbolTable) :
    table.placeholder.name = Symbol.placeholder.name := by
  unfold placeholder
  cases hfind : table.globals.find? Symbol.placeholder.name with
  | none => rfl
  | some symbol => exact Scope.name_eq_of_find? hfind

/-- Tokens in brackets are ahead, without brackets, parentheses or the end of input among
them. -/
structure ParseState.FacesSubscript (body : List Token) (closing : Token) (rest : List Token)
    (state : ParseState) : Prop where
  plain : ∀ token ∈ body, token.kind.isPlain = true
  closes : closing.kind = .closeBracket
  ahead : ∃ opening, opening.kind = .openBracket ∧
    state.cursor.ahead = opening :: (body ++ closing :: rest)

namespace ParseState.FacesSubscript

variable {body rest : List Token} {closing : Token} {state next : ParseState}

theorem kind (hfaces : state.FacesSubscript body closing rest) :
    state.cursor.kind = .openBracket := by
  obtain ⟨opening, hopen, hahead⟩ := hfaces.ahead
  simp [Cursor.kind, Cursor.current, hahead, hopen]

theorem advanced_ahead (hfaces : state.FacesSubscript body closing rest) :
    state.advanced.cursor.ahead = body ++ closing :: rest := by
  obtain ⟨opening, -, hahead⟩ := hfaces.ahead
  simp [Cursor.advance, hahead]

theorem enclosed (hfaces : state.FacesSubscript body closing rest) :
    state.advanced.Enclosed .brackets rest :=
  ⟨body, closing, hfaces.plain, hfaces.closes, hfaces.advanced_ahead⟩

theorem of_cursor (hfaces : state.FacesSubscript body closing rest)
    (hcursor : next.cursor = state.cursor) : next.FacesSubscript body closing rest :=
  ⟨hfaces.plain, hfaces.closes, by rw [hcursor]; exact hfaces.ahead⟩

end ParseState.FacesSubscript

namespace Parse

variable {settings : Settings} {state next : ParseState} {body rest : List Token}
  {closing : Token} {array : Symbol} {span : Span} {target : Subscript} {failure : Failure}

/-! ## Between the brackets -/

/-- `Expr ]` after the bracket that opens a subscript. -/
def indexed (array : Symbol) (span : Span) : Parse Subscript := do
  let start ← position
  let index ← orFail expr { fault := .malformed .emptySubscript, position := start }
  let close ← expect .closeBracket
  reportUnless (countsAsScalar index.ty) (.subscriptType index.ty) start
  return { array := array, index := index, span := span.through close.span }

theorem subscript_run (array : Symbol) (span : Span) (settings : Settings)
    (hkind : state.cursor.kind = .openBracket) :
    subscript expr array span settings state = indexed array span settings state.advanced := by
  unfold subscript
  exact bind_of_ok (expect_run hkind)

theorem indexed_closes : Closes settings .brackets rest state (indexed array span) := by
  apply Walks.bind_of_look position_run
  apply Walks.bind (.orFail _ (exprAfter_inside none))
  intro index next
  exact .close fun close => (reportUnless_remarks _ rfl _).bind fun _ => .pure _

theorem subscript_ok (hfaces : state.FacesSubscript body closing rest)
    (hrun : subscript expr array span settings state = .ok target next) :
    next.cursor.ahead = rest ∧ Mild settings state next := by
  rw [subscript_run array span settings hfaces.kind] at hrun
  exact indexed_closes.ok hfaces.enclosed hrun

/-- A subscript that fails does so before its closing bracket. -/
theorem subscript_error (hfaces : state.FacesSubscript body closing rest)
    (hrun : subscript expr array span settings state = .error failure next) :
    next.Enclosed .brackets rest ∧ failure.fault ≠ .endOfInput ∧ Mild settings state next := by
  rw [subscript_run array span settings hfaces.kind] at hrun
  exact indexed_closes.error hfaces.enclosed hrun

theorem subscript_mild (hfaces : state.FacesSubscript body closing rest) :
    Mild settings state ((subscript expr array span).run settings state).2 := by
  have hopened : Mild settings state state.advanced := .of_eq rfl
  rw [run_congr (subscript_run array span settings hfaces.kind)]
  exact hopened.trans (indexed_closes.mild hfaces.enclosed)

/-! ## When a subscript is built -/

/-- Without checks a subscript is read if the grammar derives its index, and only then. -/
theorem subscript_succeeds_unchecked (hchecks : settings.checks = false)
    (hfaces : state.FacesSubscript body closing rest) :
    ((subscript expr array span).run settings state).1.isOk = true ↔ IsExpr body := by
  obtain ⟨opening, hopen, hahead⟩ := hfaces.ahead
  constructor
  · intro hok
    cases hrun : subscript expr array span settings state with
    | error failure next => simp [run, hrun, Except.isOk, Except.toBool] at hok
    | ok target next =>
        obtain ⟨hnext, hmild⟩ := subscript_ok hfaces hrun
        have hexpr : ReadsExprs expr := fun hquiet => exprAfter_reads .none hquiet
        obtain ⟨first, ts, last, index, -, -, hindex, hreads⟩ :=
          subscript_reads hexpr (quiet_of_mild hmild hchecks hrun)
        unfold Reads at hreads
        rw [hahead, hnext, List.cons_append, List.append_assoc] at hreads
        obtain ⟨-, hsame⟩ := List.cons.inj hreads
        obtain ⟨rfl, -⟩ := List.append_inj' hsame (by simp)
        exact ⟨index, hindex⟩
  · rintro ⟨index, hindex⟩
    have hexpr : YieldsExprs expr settings body.length :=
      fun state cursor ts rest e _ hwritten hcursor hstops =>
        expr_yields hchecks hwritten hstops hcursor
    obtain ⟨target, next, hquiet, -⟩ := subscript_yields hchecks hexpr array span hopen
      hfaces.closes le_rfl hindex (Cursor.eq_facing hahead)
    rw [run_of_ok hquiet.1]
    rfl

/-- With checks or without, a subscript is read alike. -/
theorem subscript_succeeds_iff (settings : Settings) (array : Symbol) (span : Span)
    (hfaces : state.FacesSubscript body closing rest) :
    ((subscript expr array span).run settings state).1.isOk = true ↔ IsExpr body := by
  have hbare : state.bare.FacesSubscript body closing rest := hfaces.of_cursor rfl
  have hshadows (hchecks : settings.checks = true) :
      Shadows settings Subscript.relaxed (subscript expr array span) (subscript expr array span) :=
    subscript_shadows (expr_shadows hchecks) array span
  obtain ⟨other, hcursor, hsame⟩ := isOk_unchecked hshadows (subscript_mild hbare)
  rw [← hsame]
  exact subscript_succeeds_unchecked rfl (hfaces.of_cursor hcursor)

/-- The index of a subscript that is built is the expression that is read up to its closing
bracket. -/
theorem subscript_built (hfaces : state.FacesSubscript body closing rest)
    (hrun : subscript expr array span settings state = .ok target next) :
    target.array = array ∧ target.span = span.through closing.span ∧
      ∃ middle, expr settings state.advanced = .ok (some target.index) middle ∧
        middle.cursor.ahead = closing :: rest := by
  rw [subscript_run array span settings hfaces.kind] at hrun
  obtain ⟨start, _, hposition, hrun⟩ := bind_eq_ok.1 hrun
  cases hposition
  obtain ⟨index, middle, hindex, hrun⟩ := bind_eq_ok.1 hrun
  obtain ⟨close, passed, hexpect, hrun⟩ := bind_eq_ok.1 hrun
  obtain ⟨_, reported, -, hrun⟩ := bind_eq_ok.1 hrun
  cases hrun
  have hexpr : expr settings state.advanced = .ok (some index) middle := orFail_eq_ok.1 hindex
  have hkind : middle.cursor.kind = .closeBracket := kind_of_expect hexpect
  rw [expect_run hkind] at hexpect
  cases hexpect
  have hmiddle : middle.Enclosed .brackets rest :=
    ((exprAfter_inside none).ok hfaces.enclosed hexpr).1
  have hahead : middle.cursor.ahead = middle.cursor.current :: rest := by
    rw [Cursor.ahead_eq_cons (by rw [hkind]; decide)]
    exact congrArg _ (hmiddle.passed hkind)
  -- Nothing before the cursor changes, so the bracket it stands on is the one that was ahead.
  have hmoves : MovesOn state.advanced middle := Respects.ok hexpr
  have hsuffix : middle.cursor.ahead <:+ body ++ closing :: rest := by
    rw [← hfaces.advanced_ahead]
    exact hmoves.1
  have hlast : middle.cursor.ahead = closing :: rest := by
    refine (List.suffix_of_suffix_length_le hsuffix (List.suffix_append _ _) ?_).eq_of_length ?_
    · rw [hahead]
      rfl
    · rw [hahead]
      rfl
  have hcurrent : middle.cursor.current = closing := by
    rw [hlast] at hahead
    exact (List.cons.inj hahead).1.symm
  exact ⟨rfl, by rw [hcurrent], middle, hexpr, hlast⟩

/-- A subscript that is ahead is built, or it is passed over with one fault. -/
theorem subscript_outcome (settings : Settings) (array : Symbol) (span : Span)
    (hfaces : state.FacesSubscript body closing rest) :
    (IsExpr body ∧ ∃ target next,
      subscript expr array span settings state = .ok target next ∧
      next.cursor = state.cursor.facing rest ∧ next.journal.faults = state.journal.faults) ∨
    (¬ IsExpr body ∧ ∃ failure failed next,
      subscript expr array span settings state = .error failure failed ∧
      recoverPast .closeBracket failure settings failed = .ok ⟨⟩ next ∧
      next.cursor = state.cursor.facing rest ∧
      next.journal.faults = state.journal.faults ++ [.ofFailure failure]) := by
  have hsucceeds := subscript_succeeds_iff settings array span hfaces
  unfold run at hsucceeds
  cases hrun : subscript expr array span settings state with
  | ok target next =>
      rw [hrun] at hsucceeds
      obtain ⟨hnext, hmild⟩ := subscript_ok hfaces hrun
      have hmoves : MovesOn state next := Respects.ok hrun
      exact .inl ⟨hsucceeds.1 rfl, target, next, rfl, Cursor.eq_facing_of_last hnext hmoves.2,
        hmild.faults⟩
  | error failure failed =>
      rw [hrun] at hsucceeds
      obtain ⟨hfailed, hordinary, hmild⟩ := subscript_error hfaces hrun
      obtain ⟨next, hrecover, hnext, hfaults⟩ :=
        recoverPast_enclosed settings hordinary hfailed
      have hfailedMoves : MovesOn state failed := Respects.error hrun
      have hmoves : MovesOn failed next := Respects.ok hrecover
      refine .inr ⟨fun hexpr => ?_, failure, failed, next, rfl, hrecover,
        Cursor.eq_facing_of_last hnext (hmoves.2.trans hfailedMoves.2), ?_⟩
      · have hok := hsucceeds.2 hexpr
        contradiction
      · rw [hfaults, hmild.faults]

/-! ## Names with subscripts -/

/-- A statement that starts with a name, from what is read of its beginning on. -/
def afterBeginning (name : Token) (handoff : Handoff) : Parse Stmt := do
  if (← kind) = .assignment then
    let sign ← advance
    let value ← requireExpr .missingValue
    let semicolon ← expect .semicolon
    assignment handoff value sign.span.start (name.span.through semicolon.span)
  else
    let expr ← orFail (exprAfter (some handoff))
      { fault := .malformed .missingExpression, position := name.span.start }
    let semicolon ← expect .semicolon
    return .evaluate expr (name.span.through semicolon.span)

/-- From a name on, where it stands for an array once it is resolved, every rule gets past its
subscript: a factor, also one whose name was handed to it, is an expression, and a statement
goes on with what was read. -/
structure PassesSubscript (settings : Settings) (name : Token) (array : Symbol)
    (state resolved : ParseState) (found : Expr) (handoff : Handoff) (next : ParseState) :
    Prop where
  named : named expr settings state = .ok found.widen next
  handed : factor expr (some (.ident array name.span)) settings resolved =
    .ok (some found.widen) next
  beginning : beginning name settings state.advanced = .ok handoff next
  statement : namedStmt settings state = afterBeginning name handoff settings next

theorem passesSubscript {name : Token} {resolved : ParseState} {found : Expr} {handoff : Handoff}
    (hname : state.cursor.current = name)
    (hresolve : resolve name.text name.span.start settings state.advanced = .ok array resolved)
    (hbracket : resolved.cursor.kind = .openBracket)
    (helement : element expr array name.span settings resolved = .ok found next)
    (hbeginning : beginning name settings state.advanced = .ok handoff next) :
    PassesSubscript settings name array state resolved found handoff next := by
  have hafter : afterName expr array name.span settings resolved = .ok found next :=
    (afterName_of_bracket hbracket).trans helement
  refine ⟨?_, ?_, hbeginning, ?_⟩
  · unfold Parse.named
    rw [bind_of_ok advance_run, hname, bind_of_ok hresolve, bind_of_ok hafter, pure_run]
  · exact (bind_of_ok hafter).trans (pure_run _)
  · unfold namedStmt
    rw [bind_of_ok advance_run, hname, bind_of_ok hbeginning]
    rfl

end Parse

open Parse

/-- A name that a subscript may follow is read up to behind the bracket that closes the
subscript, by the rule for factors and by the one for statements, whatever is in the brackets
but brackets and parentheses.  If that is an expression the subscript is built and there is no
fault.  If not, there is one fault, and the placeholder is read in its place. -/
theorem subscript_contained {settings : Settings} {state resolved : ParseState}
    {name opening closing : Token} {body rest : List Token} {array : Symbol}
    (hopen : opening.kind = .openBracket) (hclose : closing.kind = .closeBracket)
    (hbody : ∀ token ∈ body, token.kind.isPlain = true)
    (hahead : state.cursor.ahead = name :: opening :: (body ++ closing :: rest))
    (hresolve : resolve name.text name.span.start settings state.advanced = .ok array resolved)
    (haccepts : Subscriptable settings array) :
    (IsExpr body → ∃ target next,
      PassesSubscript settings name array state resolved target.read (.element target) next ∧
      next.cursor = state.cursor.facing rest ∧
      next.journal.faults = state.journal.faults ∧
      target.array = array ∧ target.span = name.span.through closing.span ∧
      ∃ middle, expr settings resolved.advanced = .ok (some target.index) middle ∧
        middle.cursor.ahead = closing :: rest) ∧
    (¬ IsExpr body → ∃ failure next,
      PassesSubscript settings name array state resolved
        (.ident next.symbols.placeholder name.span) (.ident next.symbols.placeholder name.span)
        next ∧
      next.symbols.placeholder.name = "@@variable" ∧
      next.cursor = state.cursor.facing rest ∧
      next.journal.faults = state.journal.faults ++ [.ofFailure failure]) := by
  obtain ⟨found, reached, hrun, hcursor, hmild⟩ :=
    (resolve_remarks name.text name.span.start : Remarks settings _) state.advanced
  rw [hresolve] at hrun
  cases hrun
  have hname : state.cursor.current = name := by simp [Cursor.current, hahead]
  have hfaces : resolved.FacesSubscript body closing rest := by
    refine ⟨hbody, hclose, opening, hopen, ?_⟩
    rw [hcursor]
    simp [Cursor.advance, hahead]
  have hallowed : acceptsSubscript array settings resolved = .ok true resolved := by
    rw [acceptsSubscript_run, acceptsSubscript_eq_true_iff.2 haccepts]
  have hfaults : resolved.journal.faults = state.journal.faults := hmild.faults
  have hfacing : resolved.cursor.facing rest = state.cursor.facing rest := by
    rw [hcursor]
    rfl
  rcases subscript_outcome settings array name.span hfaces with
    ⟨hexpr, target, next, htarget, hnext, hkept⟩ |
    ⟨hexpr, failure, failed, next, hfails, hrecover, hnext, hadded⟩
  · refine ⟨fun _ => ⟨target, next, ?_, hnext.trans hfacing, hkept.trans hfaults,
      subscript_built hfaces htarget⟩, fun hnot => absurd hexpr hnot⟩
    exact passesSubscript hname hresolve hfaces.kind (element_of_subscript hallowed htarget)
      (beginning_of_subscript hresolve hfaces.kind hallowed htarget)
  · refine ⟨fun hread => absurd hread hexpr, fun _ => ⟨failure, next, ?_,
      next.symbols.placeholder_name, hnext.trans hfacing, by rw [hadded, hfaults]⟩⟩
    apply passesSubscript hname hresolve hfaces.kind
    · rw [element_of_failure hallowed hfails, bind_of_ok hrecover]
      rfl
    · rw [beginning_of_failure hresolve hfaces.kind hallowed hfails, bind_of_ok hrecover]
      rfl

/-- The state before a text in which `a` is an array. -/
def arrayState (tokens : List Token) : ParseState :=
  { ParseState.ofTokens tokens "f.c" with
    symbols := ({} : SymbolTable).bind (.variable "a" .intArray) }

/-- A subscript with the end of a statement and of a block in it. -/
def spilledText : String := "a[1 ; x \x7d] = 2;"

theorem spilledText_contained :
    ∃ tokens name opening closing body rest failure next,
      tokenize spilledText "f.c" = .ok tokens ∧ opening.kind = .openBracket ∧
      closing.kind = .closeBracket ∧ (∀ token ∈ body, token.kind.isPlain = true) ∧
      (arrayState tokens).cursor.ahead = name :: opening :: (body ++ closing :: rest) ∧
      resolve name.text name.span.start { file := "f.c" } (arrayState tokens).advanced =
        .ok (.variable "a" .intArray) (arrayState tokens).advanced ∧
      Subscriptable { file := "f.c" } (.variable "a" .intArray) ∧ ¬ IsExpr body ∧
      PassesSubscript { file := "f.c" } name (.variable "a" .intArray) (arrayState tokens)
        (arrayState tokens).advanced (.ident next.symbols.placeholder name.span)
        (.ident next.symbols.placeholder name.span) next ∧
      next.cursor = (arrayState tokens).cursor.facing rest ∧
      next.journal.faults = [.ofFailure failure] := by
  have hreads : ((tokenize spilledText "f.c").toOption.any fun tokens => decide
      ((arrayState tokens).cursor.ahead = tokens.headI :: tokens.tail.headI ::
          ((tokens.drop 2).take 4 ++ (tokens.drop 6).headI :: (tokens.drop 7).dropLast) ∧
        tokens.headI.text = "a" ∧ tokens.tail.headI.kind = .openBracket ∧
        (tokens.drop 6).headI.kind = .closeBracket ∧
        (∀ token ∈ (tokens.drop 2).take 4, token.kind.isPlain = true) ∧
        ((named expr).run { file := "f.c" } (arrayState tokens)).2.journal.faults.length = 1)) =
          true := by
    decide +kernel
  obtain ⟨tokens, htokens, hahead, hname, hopen, hclose, hbody, hfaults⟩ := exists_tokens hreads
  have hresolve : resolve tokens.headI.text tokens.headI.span.start { file := "f.c" }
      (arrayState tokens).advanced =
        .ok (.variable "a" .intArray) (arrayState tokens).advanced := by
    have hlookup : (({} : SymbolTable).bind (.variable "a" .intArray)).lookup? "a" =
        some (.variable "a" .intArray) := by decide
    rw [hname]
    exact resolve_found hlookup
  have haccepts : Subscriptable { file := "f.c" } (.variable "a" .intArray) :=
    fun _ => .inr rfl
  have hnothing : (arrayState tokens).journal.faults = [] := rfl
  obtain ⟨hread, hpassed⟩ :=
    subscript_contained hopen hclose hbody hahead hresolve haccepts
  rw [hnothing] at hread hpassed
  have hexpr : ¬ IsExpr ((tokens.drop 2).take 4) := by
    intro hexpr
    obtain ⟨target, next, hpasses, -, hnone, -⟩ := hread hexpr
    simp [run_of_ok hpasses.named, hnone] at hfaults
  obtain ⟨failure, next, hpasses, -, hnext, hadded⟩ := hpassed hexpr
  exact ⟨tokens, _, _, _, _, _, failure, next, htokens, hopen, hclose, hbody, hahead, hresolve,
    haccepts, hexpr, hpasses, hnext, hadded⟩

end SubsetC
