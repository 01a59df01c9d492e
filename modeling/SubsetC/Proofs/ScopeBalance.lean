import SubsetC.Proofs.Scanned
import SubsetC.Proofs.TableScopes
import SubsetC.Proofs.Termination

/-!
# Balanced scopes

A statement enters a scope for every block in it and leaves each of them again, also when it
fails half way.  So the scopes that were open before are open afterwards.  In the innermost
one names may have been declared, and only a dummy gives way to a declaration; the others are
as they were.

A function is read in a scope of its own, and its declaration, which reaches out of that scope,
is the one change to the global scope.  Between the functions and declarations of a program
only the global scope is open and there is no return type, and this is also where a program
ends.
-/

namespace SubsetC

/-! ## Tables with the same scopes open -/

namespace SymbolTable

variable {table next : SymbolTable} {symbol : Symbol}

theorem depth_eq_length (table : SymbolTable) : table.depth = table.scopes.length := by
  simp [depth, scopes]

theorem scopes_injective (hscopes : table.scopes = next.scopes) : table = next := by
  obtain ⟨inner, globals⟩ := table
  obtain ⟨nextInner, nextGlobals⟩ := next
  obtain ⟨hinner, hglobals⟩ := List.append_inj' hscopes rfl
  simp only at hinner hglobals
  rw [hinner, List.singleton_inj.1 hglobals]

@[simp] theorem innermost_bind (table : SymbolTable) (symbol : Symbol) :
    (table.bind symbol).innermost = table.innermost.bind symbol := by
  unfold bind innermost
  cases table.inner <;> rfl

/-- A later table with the same scopes open.  All but the innermost are as they were, and the
innermost has kept its symbols, dummies apart. -/
structure Balances (table next : SymbolTable) : Prop where
  depth : next.depth = table.depth
  outer : next.scopes.tail = table.scopes.tail
  kept : ∀ name symbol, table.innermost.find? name = some symbol → symbol.isDummy = false →
    next.innermost.find? name = some symbol

theorem Balances.refl (table : SymbolTable) : table.Balances table :=
  ⟨rfl, rfl, fun _ _ hfind _ => hfind⟩

theorem Balances.trans {last : SymbolTable} (hfirst : table.Balances next)
    (hsecond : next.Balances last) : table.Balances last where
  depth := hsecond.depth.trans hfirst.depth
  outer := hsecond.outer.trans hfirst.outer
  kept name symbol hfind hdummy :=
    hsecond.kept name symbol (hfirst.kept name symbol hfind hdummy) hdummy

/-- A symbol may be bound if at most a dummy gives way to it. -/
theorem Balances.bind
    (hfree : ∀ existing, table.innermost.find? symbol.name = some existing →
      existing.isDummy = true) : table.Balances (table.bind symbol) := by
  refine ⟨?_, ?_, ?_⟩
  · rw [depth_eq_length, depth_eq_length, bind_scopes, table.scopes_eq_cons]
    rfl
  · rw [bind_scopes, List.tail_cons]
  · intro name found hfind hdummy
    have hname : symbol.name ≠ name := by
      intro hsame
      rw [← hsame] at hfind
      rw [hfree found hfind] at hdummy
      contradiction
    rw [innermost_bind, Scope.find?_bind_of_ne hname, hfind]

theorem Balances.plant {name : String} (hlookup : table.lookup? name = none) :
    table.Balances (table.bind (.dummy name)) := by
  apply Balances.bind
  intro existing hfind
  have hscopes := table.scopes_eq_cons
  unfold lookup? at hlookup
  rw [hscopes, List.findSome?_cons] at hlookup
  change table.innermost.find? name = some existing at hfind
  rw [hfind] at hlookup
  contradiction

theorem Balances.declare (hdeclare : table.declare symbol = .ok next) : table.Balances next := by
  unfold SymbolTable.declare at hdeclare
  cases hfind : table.innermost.find? symbol.name with
  | none =>
      simp only [hfind, Except.ok.injEq] at hdeclare
      subst hdeclare
      apply Balances.bind
      intro existing hexisting
      rw [hfind] at hexisting
      contradiction
  | some existing =>
      by_cases hdummy : existing.isDummy
      · simp only [hfind, hdummy, if_true, Except.ok.injEq] at hdeclare
        subst hdeclare
        apply Balances.bind
        intro found hfound
        rw [hfind, Option.some.injEq] at hfound
        rw [← hfound]
        exact hdummy
      · simp [hfind, hdummy] at hdeclare

/-- Leaving a scope undoes all that was done in it. -/
theorem Balances.exitScope (hbalances : table.enterScope.Balances next) :
    next.exitScope = table := by
  have hdepth : next.inner.length = table.inner.length + 1 := by
    have hdepth := hbalances.depth
    simpa [SymbolTable.depth, SymbolTable.enterScope] using hdepth
  obtain ⟨left, outer, hinner⟩ := List.exists_cons_of_length_eq_add_one hdepth
  apply scopes_injective
  have hleft : next.exitScope.scopes = next.scopes.tail := by
    simp [SymbolTable.exitScope, scopes, hinner]
  rw [hleft, hbalances.outer]
  rfl

end SymbolTable

/-- What is left of the global scope when at most a function of one name was declared in it. -/
def Scope.GainsFunction (name : String) (globals after : Scope) : Prop :=
  after = globals ∨
    globals.find? name = none ∧
      ∃ signature, after = globals.bind (.function name signature)

theorem Scope.GainsFunction.trans {name : String} {globals middle after : Scope}
    (hfirst : globals.GainsFunction name middle) (hsecond : middle.GainsFunction name after) :
    globals.GainsFunction name after := by
  rcases hfirst with rfl | ⟨hnew, signature, rfl⟩
  · exact hsecond
  · rcases hsecond with rfl | ⟨hnone, -⟩
    · exact .inr ⟨hnew, signature, rfl⟩
    · have hfind := Scope.find?_bind_self globals (.function name signature)
      change Scope.find? _ name = _ at hfind
      rw [hfind] at hnone
      contradiction

namespace Parse

/-! ## Statements -/

def KeepsScopes (state next : ParseState) : Prop := state.symbols.Balances next.symbols

instance : StmtRelation KeepsScopes where
  refl state := .refl state.symbols
  trans := .trans
  move state _ _ _ := .refl state.symbols
  note state _ := .refl state.symbols
  report state _ := .refl state.symbols
  plant _ _ hlookup := .plant hlookup
  intern state _ := .refl state.symbols
  markPrintf state := .refl state.symbols
  declare _ _ _ hdeclare := .declare hdeclare
  inScope {state next} hbalances := by
    have hexit := SymbolTable.Balances.exitScope hbalances
    unfold KeepsScopes
    change state.symbols.Balances next.symbols.exitScope
    rw [hexit]
    exact .refl state.symbols

/-! ## Functions -/

/-- The number of scopes stays, and inside of a scope only a function of one name may be
declared globally. -/
def KeepsGlobals (name : String) (state next : ParseState) : Prop :=
  next.symbols.inner.length = state.symbols.inner.length ∧
    (state.symbols.inner ≠ [] → state.symbols.globals.GainsFunction name next.symbols.globals)

theorem KeepsGlobals.of_symbols_eq {name : String} {state next : ParseState}
    (hsymbols : next.symbols = state.symbols) : KeepsGlobals name state next := by
  refine ⟨?_, fun _ => .inl ?_⟩
  · rw [hsymbols]
  · rw [hsymbols]

theorem KeepsGlobals.bind {name : String} (state : ParseState) (symbol : Symbol) :
    KeepsGlobals name state { state with symbols := state.symbols.bind symbol } := by
  unfold KeepsGlobals SymbolTable.bind
  cases hinner : state.symbols.inner with
  | nil => exact ⟨by simp, fun hne => absurd rfl hne⟩
  | cons scope outer => exact ⟨by simp, fun _ => .inl rfl⟩

instance (name : String) : StmtRelation (KeepsGlobals name) where
  refl _ := .of_symbols_eq rfl
  trans {first second third} hfirst hsecond := by
    refine ⟨hsecond.1.trans hfirst.1, fun hinner => ?_⟩
    have hmiddle : second.symbols.inner ≠ [] := by
      rw [← List.length_pos_iff] at hinner ⊢
      rw [hfirst.1]
      exact hinner
    exact (hfirst.2 hinner).trans (hsecond.2 hmiddle)
  move _ _ _ _ := .of_symbols_eq rfl
  note _ _ := .of_symbols_eq rfl
  report _ _ := .of_symbols_eq rfl
  plant state name _ := .bind state (.dummy name)
  intern _ _ := .of_symbols_eq rfl
  markPrintf _ := .of_symbols_eq rfl
  declare state symbol symbols hdeclare := by
    have hbound : symbols = state.symbols.bind symbol := by
      unfold SymbolTable.declare at hdeclare
      split at hdeclare
      · split at hdeclare
        · exact (Except.ok.inj hdeclare).symm
        · contradiction
      · exact (Except.ok.inj hdeclare).symm
    rw [hbound]
    exact .bind state symbol
  inScope {state next} hkeeps := by
    have hlength : next.symbols.inner.length = state.symbols.inner.length + 1 := hkeeps.1
    refine ⟨?_, fun _ => hkeeps.2 (List.cons_ne_nil _ _)⟩
    simp [SymbolTable.exitScope, hlength]

theorem declareFunction_keepsGlobals (name : Token) (signature : Signature) :
    Respects (KeepsGlobals name.text) (declareFunction name signature) := by
  refine .of_step fun settings state => ?_
  cases hdeclare : state.symbols.declareGlobal (.function name.text signature) with
  | ok symbols =>
      refine ⟨pure _, _, declareFunction_declared hdeclare, ?_, inferInstance⟩
      unfold SymbolTable.declareGlobal at hdeclare
      split at hdeclare
      · contradiction
      · rename_i hnew
        rw [← Except.ok.inj hdeclare]
        exact ⟨rfl, fun _ => .inr ⟨hnew, signature, rfl⟩⟩
  | error existing =>
      exact ⟨_, _, declareFunction_refused hdeclare, StepRelation.refl state, inferInstance⟩

theorem functionRest_keepsGlobals (returns : Ty) (name : Token) (start : Position) :
    Respects (KeepsGlobals name.text) (functionRest returns name start) := by
  have hreturn : Respects (KeepsGlobals name.text) (setReturnType (some returns)) :=
    .of_run (fun _ _ => rfl) fun _ _ => .of_symbols_eq rfl
  have hbody : Respects (KeepsGlobals name.text) (functionBody returns) := by
    unfold functionBody
    infer_instance
  unfold functionRest
  refine .bind inferInstance fun params => .bind inferInstance fun _ => ?_
  exact .bind (declareFunction_keepsGlobals name _) fun _ => inferInstance

/-- Behind its opening parenthesis a function may fail in any place: its scope is left and the
return type is unset all the same. -/
theorem function_globals (settings : Settings) {state : ParseState} (returns : Ty) (name : Token)
    (start : Position) (hopening : state.cursor.kind = .openParen) :
    ((function returns name start).run settings state).2.symbols.inner.length =
        state.symbols.inner.length ∧
      state.symbols.globals.GainsFunction name.text
        ((function returns name start).run settings state).2.symbols.globals ∧
      ((function returns name start).run settings state).2.returnType? = none := by
  have hopened : expect .openParen settings state = .ok state.cursor.current state.advanced := by
    unfold expect
    rw [bind_of_ok current_run, expectOr_run_of_eq hopening]
  have hkeeps := (functionRest_keepsGlobals returns name start).run settings
    { state.advanced with symbols := state.symbols.enterScope }
  unfold function
  rw [run_congr (bind_of_ok hopened), run_bracket]
  refine ⟨?_, hkeeps.2 (List.cons_ne_nil _ _), rfl⟩
  change (List.tail _).length = _
  rw [List.length_tail]
  exact Nat.sub_eq_of_eq_add hkeeps.1

/-- A type, a name and a parenthesis are ahead, and nothing else begins a function. -/
def OpensFunction (name : Token) (state : ParseState) : Prop :=
  ∃ specifier opening rest, state.cursor.ahead = specifier :: name :: opening :: rest ∧
    specifier.kind.isTypeSpecifier = true ∧ name.kind = .identifier ∧
    opening.kind = .openParen

/-- Up to its parenthesis a function is read like a declaration. -/
theorem external_function (settings : Settings) {state : ParseState} {name : Token}
    (hopens : OpensFunction name state) :
    ∃ returns start,
      (external.run settings state).2 =
        ((function returns name start).run settings state.advanced.advanced).2 ∧
      state.advanced.advanced.cursor.kind = .openParen := by
  obtain ⟨specifier, opening, rest, hahead, hspecifier, hname, hopening⟩ := hopens
  have hcurrent : state.cursor.current = specifier := by
    simp [Cursor.current, hahead]
  have hsecond : state.advanced.cursor.current = name := by
    simp [Cursor.current, Cursor.advance, hahead]
  have hthird : state.advanced.advanced.cursor.kind = .openParen := by
    rw [← hopening]
    simp [Cursor.kind, Cursor.current, Cursor.advance, hahead]
  obtain ⟨returns, hreturns⟩ : ∃ returns, Ty.ofSpecifier? specifier.kind = some returns := by
    revert hspecifier
    cases specifier.kind <;> simp [TokenKind.isTypeSpecifier, Ty.ofSpecifier?]
  have htype : typeSpecifier settings state = .ok returns state.advanced := by
    unfold typeSpecifier
    rw [bind_of_ok current_run, hcurrent]
    simp only [hreturns]
    rw [bind_of_ok advance_run, pure_run]
  have hnamed : expectFor .identifier .declaredName settings state.advanced =
      .ok name state.advanced.advanced := by
    have hkind : state.advanced.cursor.kind = .identifier := by
      rw [Cursor.kind, hsecond, hname]
    unfold expectFor
    rw [bind_of_ok current_run, expectOr_run_of_eq hkind, hsecond]
  refine ⟨returns, state.cursor.current.span.start, ?_, hthird⟩
  unfold external
  rw [run_congr (bind_of_ok position_run), run_congr (bind_of_ok htype),
    run_congr (bind_of_ok hnamed), run_congr (bind_of_ok kind_run), if_pos hthird,
    map_eq_pure_bind, run_bind]
  cases (function returns name state.cursor.current.span.start).run settings
    state.advanced.advanced with
  | mk result last => cases result <;> rfl

/-! ## Programs -/

/-- Between the declarations and functions of a program. -/
def AtTop (state : ParseState) : Prop :=
  state.symbols.depth = 1 ∧ state.returnType? = none

/-- What starts between declarations and functions ends there. -/
def StaysAtTop (state next : ParseState) : Prop := AtTop state → AtTop next

theorem StaysAtTop.of_eq {state next : ParseState} (hdepth : next.symbols.depth = state.symbols.depth)
    (hreturn : next.returnType? = state.returnType?) : StaysAtTop state next :=
  fun htop => ⟨hdepth.trans htop.1, hreturn.trans htop.2⟩

instance : StepRelation StaysAtTop where
  refl _ := id
  trans hfirst hsecond htop := hsecond (hfirst htop)
  move _ _ _ _ := .of_eq rfl rfl
  note _ _ := .of_eq rfl rfl
  report _ _ := .of_eq rfl rfl
  plant _ _ hlookup := .of_eq (SymbolTable.Balances.plant hlookup).depth rfl
  intern _ _ := .of_eq rfl rfl
  markPrintf _ := .of_eq rfl rfl

instance (base : Ty) (name : Token) (start : Position) :
    Respects StaysAtTop (declarator base name start) where
  ok hrun := .of_eq (Respects.ok (R := KeepsScopes) hrun).depth
    (Respects.ok (R := KeepsReturnType) hrun)
  error hrun := .of_eq (Respects.error (R := KeepsScopes) hrun).depth
    (Respects.error (R := KeepsReturnType) hrun)

instance (returns : Ty) (name : Token) (start : Position) :
    Respects StaysAtTop (function returns name start) := by
  apply Respects.of_forall_run
  intro settings state htop
  by_cases hopening : state.cursor.kind = .openParen
  · obtain ⟨hlength, -, hreturn⟩ :=
      function_globals settings returns name start hopening
    refine ⟨?_, hreturn⟩
    rw [← htop.1]
    exact congrArg (· + 1) hlength
  · have hmissing : expect .openParen settings state =
        .error (mismatch .openParen state.cursor.current) state := by
      unfold expect
      rw [bind_of_ok current_run, expectOr_run_of_ne hopening]
    have hfailed : function returns name start settings state =
        .error (mismatch .openParen state.cursor.current) state := bind_of_error hmissing
    simp only [run, hfailed]
    exact htop

instance : Respects StaysAtTop external := by
  unfold external
  infer_instance

instance (budget : Nat) : Respects StaysAtTop (externals budget) := by
  induction budget with
  | zero =>
      unfold externals
      infer_instance
  | succ budget ih =>
      unfold externals
      refine .bind inferInstance fun more => ?_
      split
      · refine .bind inferInstance fun result => ?_
        cases result <;> infer_instance
      · infer_instance

instance : Respects StaysAtTop takeStrings :=
  .of_run (fun _ _ => rfl) fun _ _ => .of_eq rfl rfl

instance : Respects StaysAtTop program := by
  unfold program
  infer_instance

instance : Respects StaysAtTop journaled := by
  unfold journaled
  infer_instance

/-- Parsing leaves every scope that it enters, whether it succeeds or fails.  A statement keeps
the scopes that are open, and all but the innermost as they are; a function that is defined
outside of all others adds at most its own name to the global scope; and behind a whole
program only the global scope is open, and there is no return type. -/
theorem parsing_balances_scopes :
    (∀ (settings : Settings) (state : ParseState),
      state.symbols.Balances (stmt.run settings state).2.symbols) ∧
    (∀ (settings : Settings) (state : ParseState) (name : Token), OpensFunction name state →
      state.symbols.depth = 1 →
      (external.run settings state).2.symbols.depth = 1 ∧
        (external.run settings state).2.returnType? = none ∧
        state.symbols.globals.GainsFunction name.text
          (external.run settings state).2.symbols.globals) ∧
    ∀ settings tokens, (parse settings tokens).2.symbols.depth = 1 ∧
      (parse settings tokens).2.returnType? = none := by
  refine ⟨?_, ?_, ?_⟩
  · intro settings state
    have hkeeps : Respects KeepsScopes stmt := inferInstance
    exact hkeeps.run settings state
  · intro settings state name hopens hdepth
    obtain ⟨returns, start, hfunction, hopening⟩ := external_function settings hopens
    obtain ⟨hlength, hgains, hreturn⟩ :=
      function_globals settings returns name start hopening
    rw [hfunction]
    refine ⟨?_, hreturn, hgains⟩
    rw [← hdepth]
    exact congrArg (· + 1) hlength
  · intro settings tokens
    have hstays : Respects StaysAtTop journaled := inferInstance
    exact hstays.run settings (.ofTokens tokens settings.file) ⟨rfl, rfl⟩

/-- A function that is broken off in a block, with an unknown name and a broken statement. -/
def unclosedText : String := "int f(char c) \x7b c = d; \x7b int c = ; c"

theorem unclosedText_balanced :
    ∃ tokens name, tokenize unclosedText "f.c" = .ok tokens ∧
      OpensFunction name (.ofTokens tokens "f.c") ∧
      (external.run { file := "f.c" } (.ofTokens tokens "f.c")).1.toOption.isNone = true ∧
      (external.run { file := "f.c" } (.ofTokens tokens "f.c")).2.symbols.depth = 1 ∧
      (external.run { file := "f.c" } (.ofTokens tokens "f.c")).2.returnType? = none ∧
      Scope.GainsFunction name.text (ParseState.ofTokens tokens "f.c").symbols.globals
        (external.run { file := "f.c" } (.ofTokens tokens "f.c")).2.symbols.globals := by
  have hreads : ((tokenize unclosedText "f.c").toOption.any fun tokens => decide
      ((external.run { file := "f.c" } (.ofTokens tokens "f.c")).1.toOption.isNone = true ∧
        (ParseState.ofTokens tokens "f.c").cursor.ahead = tokens.dropLast ∧
        (tokens.dropLast.take 3).map Token.kind = [.intWord, .identifier, .openParen])) = true := by
    decide +kernel
  obtain ⟨tokens, htokens, hfails, hahead, hkinds⟩ := exists_tokens hreads
  obtain ⟨specifier, name, opening, rest, hsplit, hspecifier, hname, hopening⟩ :
      ∃ specifier name opening rest, tokens.dropLast = specifier :: name :: opening :: rest ∧
        specifier.kind = .intWord ∧ name.kind = .identifier ∧ opening.kind = .openParen := by
    rcases hlist : tokens.dropLast with - | ⟨specifier, - | ⟨name, - | ⟨opening, rest⟩⟩⟩ <;>
      simp [hlist] at hkinds
    exact ⟨specifier, name, opening, rest, rfl, hkinds⟩
  have hopens : OpensFunction name (.ofTokens tokens "f.c") :=
    ⟨specifier, opening, rest, hahead.trans hsplit, by rw [hspecifier]; rfl, hname, hopening⟩
  have hbalances := parsing_balances_scopes.2.1 { file := "f.c" } _ _ hopens rfl
  exact ⟨tokens, name, htokens, hopens, hfails, hbalances⟩

end Parse

end SubsetC
