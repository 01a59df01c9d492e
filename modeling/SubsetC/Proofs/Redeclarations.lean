import SubsetC.Proofs.Scanned
import SubsetC.Proofs.TableHistory

/-!
# Redeclarations

A name is declared a second time in a scope only against a symbol that was declared there.  A
dummy gives way in the innermost scope.  In the global scope it does not: a name that was used
undeclared outside of all functions is taken, and the function of that name is refused.

Apart from these names, a function is refused only for the built-in function or for a variable
or a function that was declared globally before.
-/

namespace SubsetC

/-- The symbol that is in the way when a name is declared in a scope.  A dummy is in nobody's
way. -/
def Scope.conflict? (scope : Scope) (name : String) : Option Symbol :=
  (scope.find? name).filter fun existing => !existing.isDummy

namespace SymbolTable

variable {table : SymbolTable} {symbol existing : Symbol} {name : String} {ops : List TableOp}

/-! ## The rule of a scope -/

theorem declare_eq (table : SymbolTable) (symbol : Symbol) :
    table.declare symbol =
      (table.innermost.conflict? symbol.name).elim (.ok (table.bind symbol)) .error := by
  unfold declare Scope.conflict?
  cases table.innermost.find? symbol.name with
  | none => rfl
  | some existing => cases hdummy : existing.isDummy <;> simp [hdummy, Option.filter_some]

/-- The global scope keeps the rule exactly for the names that no dummy has there. -/
theorem declareGlobal_eq_iff (table : SymbolTable) (symbol : Symbol) :
    table.declareGlobal symbol = (table.globals.conflict? symbol.name).elim
        (.ok { table with globals := table.globals.bind symbol }) .error ↔
      ∀ existing ∈ table.globals.find? symbol.name, existing.isDummy = false := by
  unfold declareGlobal Scope.conflict?
  cases table.globals.find? symbol.name with
  | none => simp
  | some existing => cases hdummy : existing.isDummy <;> simp [hdummy, Option.filter_some]

/-- A refused declaration leaves the table as it is. -/
theorem perform_of_misuse {op : TableOp}
    (hrefused : op.misuse? table = some (.redeclaration name)) : op.perform table = table := by
  cases op with
  | enterScope => contradiction
  | exitScope => contradiction
  | declare symbol =>
      cases hdeclare : table.declare symbol with
      | error existing => simp [TableOp.perform, hdeclare]
      | ok next => simp [TableOp.misuse?, hdeclare] at hrefused
  | declareGlobal symbol =>
      cases hdeclare : table.declareGlobal symbol with
      | error existing => simp [TableOp.perform, hdeclare]
      | ok next => simp [TableOp.misuse?, hdeclare] at hrefused
  | resolve other =>
      cases hresolve : table.resolve other <;> simp [TableOp.misuse?, hresolve] at hrefused

/-! ## Where global symbols come from -/

/-- An operation that binds a symbol in the global scope. -/
inductive BindsGlobally (table : SymbolTable) : TableOp → Symbol → Prop
  | declare {symbol : Symbol} : table.inner = [] →
      table.declare symbol = .ok (table.bind symbol) →
      BindsGlobally table (.declare symbol) symbol
  | declareGlobal {symbol : Symbol} :
      table.declareGlobal symbol = .ok { table with globals := table.globals.bind symbol } →
      BindsGlobally table (.declareGlobal symbol) symbol
  | resolve {name : String} : table.inner = [] → table.lookup? name = none →
      BindsGlobally table (.resolve name) (.dummy name)

theorem bind_globals (table : SymbolTable) (symbol : Symbol) :
    (table.bind symbol).globals = table.globals ∨
      table.inner = [] ∧ (table.bind symbol).globals = table.globals.bind symbol := by
  unfold bind
  cases hinner : table.inner with
  | nil => exact .inr ⟨rfl, rfl⟩
  | cons scope outer => exact .inl rfl

/-- One operation leaves the globals alone or binds one symbol among them. -/
theorem perform_globals (table : SymbolTable) (op : TableOp) :
    (op.perform table).globals = table.globals ∨
      ∃ symbol, table.BindsGlobally op symbol ∧
        (op.perform table).globals = table.globals.bind symbol := by
  have heffect := op.perform_effect table
  generalize op.perform table = next at heffect ⊢
  cases heffect with
  | enterScope => exact .inl rfl
  | exitScope => exact .inl rfl
  | kept => exact .inl rfl
  | @declared symbol hdeclare =>
      rcases table.bind_globals symbol with hsame | ⟨hinner, hbound⟩
      · exact .inl hsame
      · exact .inr ⟨symbol, .declare hinner hdeclare, hbound⟩
  | @declaredGlobal symbol hdeclare => exact .inr ⟨symbol, .declareGlobal hdeclare, rfl⟩
  | @planted name hunknown =>
      rcases table.bind_globals (.dummy name) with hsame | ⟨hinner, hbound⟩
      · exact .inl hsame
      · exact .inr ⟨.dummy name, .resolve hinner hunknown, hbound⟩

/-- A symbol among the globals was there at first, or some operation has bound it. -/
theorem exists_binding (hfind : (table.after ops).globals.find? name = some existing) :
    table.globals.find? name = some existing ∨
      ∃ before op later, ops = before ++ op :: later ∧
        (table.after before).BindsGlobally op existing := by
  induction ops generalizing table with
  | nil => exact .inl hfind
  | cons op ops ih =>
      rcases ih hfind with hnext | ⟨before, binding, later, rfl, hbinds⟩
      · rcases perform_globals table op with hsame | ⟨symbol, hbinds, hbound⟩
        · rw [hsame] at hnext
          exact .inl hnext
        · rw [hbound] at hnext
          by_cases hname : symbol.name = name
          · rw [← hname, Scope.find?_bind_self, Option.some.injEq] at hnext
            subst hnext
            exact .inr ⟨[], op, ops, rfl, hbinds⟩
          · rw [Scope.find?_bind_of_ne hname] at hnext
            exact .inl hnext
      · exact .inr ⟨op :: before, binding, later, rfl, hbinds⟩

theorem eq_of_initial (hfind : ({} : SymbolTable).globals.find? name = some existing) :
    existing = .placeholder ∨ existing = .printf := by
  have hmem : existing ∈ ({} : SymbolTable).globals := List.mem_of_find?_eq_some hfind
  simpa using hmem

/-! ## Functions that are refused -/

/-- A name was used outside of all functions before it was known. -/
def UsedAtTop (ops : List TableOp) (name : String) : Prop :=
  ∃ before later, ops = before ++ .resolve name :: later ∧
    (after {} before).inner = [] ∧ (after {} before).lookup? name = none

/-- A real symbol of a name was declared among the globals. -/
def DeclaredAtTop (ops : List TableOp) (name : String) : Prop :=
  ∃ before op later real, ops = before ++ op :: later ∧ (after {} before).BindsGlobally op real ∧
    real.name = name ∧ real.isDummy = false

/-- What a refused global declaration comes against.  A real symbol is the built-in function, or
it was declared globally before; a dummy is the placeholder, or its name was used at the top. -/
def RefusesForCause (ops : List TableOp) : Prop :=
  ∀ before symbol later existing, ops = before ++ .declareGlobal symbol :: later →
    (after {} before).declareGlobal symbol = .error existing →
    (existing.isDummy = false →
      symbol.name = Symbol.printfName ∨ DeclaredAtTop before symbol.name) ∧
    (existing.isDummy = true →
      symbol.name = Symbol.placeholder.name ∨ UsedAtTop before symbol.name)

theorem find?_of_refused (hrefused : table.declareGlobal symbol = .error existing) :
    table.globals.find? symbol.name = some existing := by
  unfold declareGlobal at hrefused
  split at hrefused
  · rename_i other hfind
    rw [hfind, Except.error.inj hrefused]
  · contradiction

theorem refusesForCause (hreal : ∀ op ∈ ops, op.DeclaresReal) : RefusesForCause ops := by
  rintro before symbol later existing rfl hrefused
  have hfind := find?_of_refused hrefused
  have hname : existing.name = symbol.name := Scope.name_eq_of_find? hfind
  rcases exists_binding hfind with hinitial | ⟨earlier, op, between, rfl, hbinds⟩
  · rcases eq_of_initial hinitial with rfl | rfl
    · exact ⟨nofun, fun _ => .inl hname.symm⟩
    · exact ⟨fun _ => .inl hname.symm, nofun⟩
  · have hop : op.DeclaresReal := hreal op (by simp)
    have hdeclared (hdummy : existing.isDummy = false) :
        DeclaredAtTop (earlier ++ op :: between) symbol.name :=
      ⟨earlier, op, between, existing, rfl, hbinds, hname, hdummy⟩
    refine ⟨fun hdummy => .inr (hdeclared hdummy), fun hdummy => .inr ?_⟩
    -- What is declared is real, so a dummy comes from a use.
    cases hbinds with
    | declare => exact absurd hdummy (Bool.eq_false_iff.1 hop)
    | declareGlobal => exact absurd hdummy (Bool.eq_false_iff.1 hop)
    | @resolve name hinner hunknown =>
        rw [← hname]
        exact ⟨earlier, between, rfl, hinner, hunknown⟩

end SymbolTable

/-- Declarations in the innermost scope and in the global scope keep one rule, the global ones
for exactly the names that no dummy has among the globals, and a refused declaration changes
nothing.  In every history of real declarations, such as that of a parse, a function that is
refused for a real symbol has the name of the built-in function or of a variable or a function
declared globally before, and one that is refused for a dummy was used before at the top. -/
theorem declarations_give_way (table : SymbolTable) (symbol : Symbol) (ops : List TableOp)
    (settings : Settings) (tokens : List Token) :
    (table.declare symbol =
        (table.innermost.conflict? symbol.name).elim (.ok (table.bind symbol)) .error ∧
      (table.declareGlobal symbol = (table.globals.conflict? symbol.name).elim
          (.ok { table with globals := table.globals.bind symbol }) .error ↔
        ∀ existing ∈ table.globals.find? symbol.name, existing.isDummy = false) ∧
      ∀ (op : TableOp) (name : String), op.misuse? table = some (.redeclaration name) →
        op.perform table = table) ∧
    ((∀ op ∈ ops, op.DeclaresReal) → SymbolTable.RefusesForCause ops) ∧
    ∃ performed,
      Parse.Performs settings Parse.journaled (.ofTokens tokens settings.file) performed ∧
      (parse settings tokens).2.journal.nameMisuses =
        (if settings.checks then SymbolTable.misuses {} performed else []) ∧
      SymbolTable.RefusesForCause performed := by
  refine ⟨⟨table.declare_eq symbol, table.declareGlobal_eq_iff symbol, ?_⟩,
    SymbolTable.refusesForCause, ?_⟩
  · intro op name hrefused
    exact SymbolTable.perform_of_misuse hrefused
  · obtain ⟨performed, hperforms, -, hnames⟩ := parse_performs settings tokens
    exact ⟨performed, hperforms, hnames, SymbolTable.refusesForCause hperforms.declaresReal⟩

/-- A function, and a second one of its name that uses what is not declared. -/
def twiceText : String := "int f() { return 1; } int f(int x) { return y; }"

/-- The function is declared at the top while a scope is open, then once more. -/
theorem twiceText_gives_way :
    SymbolTable.DeclaredAtTop
      [.resolve "x", .enterScope, .declareGlobal (.function "f" ⟨.int, [], false⟩)] "f" ∧
    ∃ tokens ops, tokenize twiceText "f.c" = .ok tokens ∧
      Parse.Performs { file := "f.c" } Parse.journaled (.ofTokens tokens "f.c") ops ∧
      SymbolTable.misuses {} ops = [.redeclaration "f", .undeclared "y"] ∧
      SymbolTable.RefusesForCause ops := by
  have hreads : ((tokenize twiceText "f.c").toOption.any fun tokens => decide
      ((parse { file := "f.c" } tokens).2.journal.nameMisuses =
        [.redeclaration "f", .undeclared "y"])) = true := by
    decide +kernel
  obtain ⟨tokens, htokens, hnames⟩ := exists_tokens hreads
  obtain ⟨-, hcause, performed, hperforms, hmisuses, hperformed⟩ :=
    declarations_give_way {} (.function "f" ⟨.int, [.int], false⟩)
      [.resolve "x", .enterScope, .declareGlobal (.function "f" ⟨.int, [], false⟩),
        .declareGlobal (.function "f" ⟨.int, [.int], false⟩)]
      { file := "f.c" } tokens
  have hrefused := hcause (by simp [TableOp.DeclaresReal, Symbol.isDummy])
    [.resolve "x", .enterScope, .declareGlobal (.function "f" ⟨.int, [], false⟩)]
    (.function "f" ⟨.int, [.int], false⟩) [] (.function "f" ⟨.int, [], false⟩) rfl
    (by decide +kernel)
  exact ⟨(hrefused.1 rfl).resolve_left (by decide), tokens, performed, htokens, hperforms,
    hmisuses.symm.trans hnames, hperformed⟩

/-- A function that is defined after a global initializer has used it. -/
def earlyText : String := "int g = f(1); int f(int x) { return x; }"

/-- The dummy of a name used at the top is in the way of the function of that name. -/
theorem earlyText_refused :
    (SymbolTable.after {} [.resolve "f"]).globals.conflict? "f" = none ∧
    (SymbolTable.after {} [.resolve "f"]).declareGlobal (.function "f" ⟨.int, [.int], false⟩) =
      .error (.dummy "f") ∧
    ∃ tokens, tokenize earlyText "f.c" = .ok tokens ∧
      (parse { file := "f.c" } tokens).2.journal.nameMisuses =
        [.undeclared "f", .redeclaration "f"] ∧
      (parse { file := "f.c" } tokens).2.symbols.globals.find? "f" = some (.dummy "f") := by
  refine ⟨by decide +kernel, by decide +kernel, ?_⟩
  have hreads : ((tokenize earlyText "f.c").toOption.any fun tokens => decide
      ((parse { file := "f.c" } tokens).2.journal.nameMisuses =
          [.undeclared "f", .redeclaration "f"] ∧
        (parse { file := "f.c" } tokens).2.symbols.globals.find? "f" = some (.dummy "f"))) =
      true := by
    decide +kernel
  exact exists_tokens hreads

end SubsetC
