import Mathlib.Data.List.Infix
import SubsetC.Proofs.Redeclarations

/-!
# Scopes that were left

While a scope is open, operations on the table change only that scope, the scopes inside it,
and the globals.  Among the globals nothing is replaced, and a symbol is added only by a global
declaration that was not refused.

So what was done between entering a scope and leaving it again is undone for every name that
was known before.  A name that was unknown stands for what was declared globally under it, if
anything was.
-/

namespace SubsetC.SymbolTable

variable {table next : SymbolTable} {outer : List Scope} {ops : List TableOp} {name : String}
  {symbol : Symbol}

/-- The globals are asked last. -/
theorem lookup?_eq_or (table : SymbolTable) (name : String) :
    table.lookup? name =
      (table.inner.findSome? fun scope => scope.find? name).or (table.globals.find? name) := by
  simp [lookup?, scopes, List.findSome?_append]

theorem declareGlobal_eq_ok :
    table.declareGlobal symbol = .ok next ↔
      table.globals.find? symbol.name = none ∧
        next = { table with globals := table.globals.bind symbol } := by
  unfold declareGlobal
  cases table.globals.find? symbol.name with
  | none => simp [eq_comm]
  | some existing => simp

/-! ## Scopes around the innermost one -/

theorem bind_inner (table : SymbolTable) (symbol : Symbol) :
    table.inner.tail <:+ (table.bind symbol).inner := by
  unfold bind
  cases hinner : table.inner with
  | nil => simp
  | cons scope others => simp

/-- An operation leaves the scopes around the innermost one alone. -/
theorem perform_inner (table : SymbolTable) (op : TableOp) :
    table.inner.tail <:+ (op.perform table).inner := by
  have heffect := op.perform_effect table
  generalize op.perform table = next at heffect ⊢
  cases heffect with
  | enterScope => exact (List.tail_suffix _).trans (List.suffix_cons [] table.inner)
  | exitScope => exact List.suffix_rfl
  | kept => exact List.tail_suffix _
  | declared _ => exact table.bind_inner _
  | declaredGlobal _ => exact List.tail_suffix _
  | planted _ => exact table.bind_inner _

/-- Scopes that are never the innermost ones stay as they are. -/
theorem suffix_after (houter : outer <:+ table.inner)
    (hinside : ∀ part, part <+: ops → outer.length + 1 < (table.after part).depth) :
    outer <:+ (table.after ops).inner := by
  induction ops generalizing table with
  | nil => exact houter
  | cons op ops ih =>
      have hlength : outer.length + 1 < table.depth := hinside [] List.nil_prefix
      have htail : outer <:+ table.inner.tail := by
        cases hinner : table.inner with
        | nil => simp [depth, hinner] at hlength
        | cons scope others =>
            rw [hinner] at houter
            rcases List.suffix_cons_iff.1 houter with hall | hothers
            · simp [depth, hinner, hall] at hlength
            · exact hothers
      apply ih (htail.trans (table.perform_inner op))
      intro part hpart
      exact hinside (op :: part) ((List.prefix_cons_inj op).2 hpart)

/-! ## Globals while a scope is open -/

/-- One of the operations declares the symbol globally, and it is not refused. -/
def Installs (table : SymbolTable) (ops : List TableOp) (symbol : Symbol) : Prop :=
  ∃ before later installed, ops = before ++ .declareGlobal symbol :: later ∧
    (table.after before).declareGlobal symbol = .ok installed

/-- Inside of a scope only global declarations reach the globals. -/
theorem BindsGlobally.eq_declareGlobal {op : TableOp} (hbinds : table.BindsGlobally op symbol)
    (hinner : table.inner ≠ []) :
    op = .declareGlobal symbol ∧
      table.declareGlobal symbol = .ok { table with globals := table.globals.bind symbol } := by
  cases hbinds with
  | declare hnil _ => exact absurd hnil hinner
  | declareGlobal hdeclare => exact ⟨rfl, hdeclare⟩
  | resolve hnil _ => exact absurd hnil hinner

theorem find?_globals_perform (hfind : table.globals.find? name = some symbol)
    (hinner : table.inner ≠ []) (op : TableOp) :
    (op.perform table).globals.find? name = some symbol := by
  rcases table.perform_globals op with hsame | ⟨other, hbinds, hbound⟩
  · rw [hsame, hfind]
  · obtain ⟨hnew, -⟩ := declareGlobal_eq_ok.1 (hbinds.eq_declareGlobal hinner).2
    have hname : other.name ≠ name := by
      intro hsame
      rw [hsame, hfind] at hnew
      contradiction
    rw [hbound, Scope.find?_bind_of_ne hname, hfind]

/-- Inside of a scope no global symbol gives way. -/
theorem find?_globals_after (hfind : table.globals.find? name = some symbol)
    (hinside : ∀ part, part <+: ops → (table.after part).inner ≠ []) :
    (table.after ops).globals.find? name = some symbol := by
  induction ops generalizing table with
  | nil => exact hfind
  | cons op ops ih =>
      have hinner : table.inner ≠ [] := hinside [] List.nil_prefix
      apply ih (find?_globals_perform hfind hinner op)
      intro part hpart
      exact hinside (op :: part) ((List.prefix_cons_inj op).2 hpart)

theorem Installs.find? (hinstalls : table.Installs ops symbol)
    (hinside : ∀ part, part <+: ops → (table.after part).inner ≠ []) :
    (table.after ops).globals.find? symbol.name = some symbol := by
  obtain ⟨before, later, installed, rfl, hdeclare⟩ := hinstalls
  have hperform : TableOp.perform (table.after before) (.declareGlobal symbol) = installed := by
    simp [TableOp.perform, hdeclare]
  have hinstalled : installed.globals.find? symbol.name = some symbol := by
    rw [(declareGlobal_eq_ok.1 hdeclare).2]
    exact Scope.find?_bind_self _ symbol
  rw [after_append, after_cons, hperform]
  apply find?_globals_after hinstalled
  intro part hpart
  have hlater := hinside (before ++ .declareGlobal symbol :: part)
    ((List.prefix_append_right_inj before).2 ((List.prefix_cons_inj _).2 hpart))
  rwa [after_append, after_cons, hperform] at hlater

/-- What was added to the globals inside of a scope was declared globally. -/
theorem find?_globals_after_iff
    (hinside : ∀ part, part <+: ops → (table.after part).inner ≠ []) :
    (table.after ops).globals.find? name = some symbol ↔
      table.globals.find? name = some symbol ∨ symbol.name = name ∧ table.Installs ops symbol := by
  constructor
  · intro hfind
    rcases exists_binding hfind with hinitial | ⟨before, op, later, rfl, hbinds⟩
    · exact .inl hinitial
    · have hinner := hinside before (List.prefix_append _ _)
      obtain ⟨rfl, hdeclare⟩ := hbinds.eq_declareGlobal hinner
      exact .inr ⟨Scope.name_eq_of_find? hfind, before, later, _, rfl, hdeclare⟩
  · rintro (hinitial | ⟨rfl, hinstalls⟩)
    · exact find?_globals_after hinitial hinside
    · exact hinstalls.find? hinside

/-! ## Leaving -/

/-- The scopes inside the global one are those from before. -/
theorem exitScope_inner
    (hinside : ∀ part, part <+: ops → table.depth < (table.enterScope.after part).depth)
    (hends : (table.enterScope.after ops).depth = table.enterScope.depth) :
    (table.enterScope.after ops).exitScope.inner = table.inner := by
  have hsuffix : table.inner <:+ (table.enterScope.after ops).inner :=
    suffix_after (List.suffix_cons [] table.inner) hinside
  have hlength : (table.enterScope.after ops).inner.length = table.inner.length + 1 := by
    simpa [depth, enterScope] using hends
  obtain ⟨above, habove⟩ := hsuffix
  have hone : above.length = 1 := by
    rw [← habove, List.length_append] at hlength
    omega
  obtain ⟨scope, rfl⟩ := List.length_eq_one_iff.1 hone
  simp [exitScope, ← habove]

/-- Operations that are performed in a scope of their own, and that do not leave it before
their end, change nothing about the names that were known before.  Any other name stands
afterwards for the symbol that they declared globally under it, and for none if they did
not. -/
theorem left_scope_undone
    (hinside : ∀ part, part <+: ops → table.depth < (table.enterScope.after part).depth)
    (hends : (table.enterScope.after ops).depth = table.enterScope.depth) :
    (table.enterScope.after ops).exitScope.depth = table.depth ∧
    (∀ name symbol, table.lookup? name = some symbol →
      (table.enterScope.after ops).exitScope.lookup? name = some symbol) ∧
    ∀ name, table.lookup? name = none → ∀ symbol,
      ((table.enterScope.after ops).exitScope.lookup? name = some symbol ↔
        symbol.name = name ∧ table.enterScope.Installs ops symbol) := by
  have hinner := exitScope_inner hinside hends
  have hopen (part : List TableOp) (hpart : part <+: ops) :
      (table.enterScope.after part).inner ≠ [] := by
    intro hnil
    have hdepth := hinside part hpart
    simp [depth, hnil] at hdepth
  have hglobals (name : String) (symbol : Symbol) :
      (table.enterScope.after ops).exitScope.globals.find? name = some symbol ↔
        table.globals.find? name = some symbol ∨
          symbol.name = name ∧ table.enterScope.Installs ops symbol :=
    find?_globals_after_iff hopen
  refine ⟨?_, ?_, ?_⟩
  · simp [depth, hinner]
  · intro name symbol hlookup
    rw [lookup?_eq_or] at hlookup ⊢
    rw [hinner]
    rcases Option.or_eq_some_iff.1 hlookup with hfound | ⟨hnone, hglobal⟩
    · exact Option.or_eq_some_iff.2 (.inl hfound)
    · exact Option.or_eq_some_iff.2 (.inr ⟨hnone, (hglobals name symbol).2 (.inl hglobal)⟩)
  · intro name hlookup symbol
    rw [lookup?_eq_or, Option.or_eq_none_iff] at hlookup
    rw [lookup?_eq_or, hinner, hlookup.1, Option.none_or, hglobals, hlookup.2]
    simp

/-- A table in which `x` is a number, in a scope inside the global one. -/
def numberTable : SymbolTable := ({} : SymbolTable).enterScope.bind (.variable "x" .int)

/-- The use of an unknown name, a block that shadows `x` and declares it and a function
globally, and a second declaration of that function. -/
def shadowingOps : List TableOp :=
  [.resolve "y", .enterScope, .declare (.variable "x" .char),
    .declareGlobal (.function "x" ⟨.void, [], false⟩),
    .declareGlobal (.function "f" ⟨.int, [], false⟩), .exitScope, .declare (.variable "y" .int),
    .declareGlobal (.function "f" ⟨.void, [.int], false⟩)]

theorem numberTable_undone :
    (∀ part, part <+: shadowingOps →
      numberTable.depth < (numberTable.enterScope.after part).depth) ∧
    (numberTable.enterScope.after shadowingOps).depth = numberTable.enterScope.depth ∧
    (numberTable.enterScope.after shadowingOps).exitScope.depth = numberTable.depth ∧
    (numberTable.enterScope.after shadowingOps).exitScope.lookup? "x" =
      some (.variable "x" .int) ∧
    (numberTable.enterScope.after shadowingOps).exitScope.lookup? "f" =
      some (.function "f" ⟨.int, [], false⟩) ∧
    (numberTable.enterScope.after shadowingOps).exitScope.lookup? "y" = none := by
  have hinside (part : List TableOp) (hpart : part <+: shadowingOps) :
      numberTable.depth < (numberTable.enterScope.after part).depth := by
    have hinits : ∀ part ∈ shadowingOps.inits,
        numberTable.depth < (numberTable.enterScope.after part).depth := by
      decide +kernel
    exact hinits part ((List.mem_inits part shadowingOps).2 hpart)
  have hends : (numberTable.enterScope.after shadowingOps).depth = numberTable.enterScope.depth := by
    decide +kernel
  obtain ⟨hdepth, hknown, hunknown⟩ := left_scope_undone hinside hends
  have hinstalls : numberTable.enterScope.Installs shadowingOps (.function "f" ⟨.int, [], false⟩) :=
    ⟨shadowingOps.take 4, shadowingOps.drop 5, _, by decide, rfl⟩
  refine ⟨hinside, hends, hdepth, hknown "x" _ (by decide +kernel), ?_, ?_⟩
  · exact (hunknown "f" (by decide +kernel) _).2 ⟨rfl, hinstalls⟩
  · apply Option.eq_none_iff_forall_ne_some.2
    intro symbol hsymbol
    obtain ⟨hname, before, later, installed, hops, -⟩ :=
      (hunknown "y" (by decide +kernel) symbol).1 hsymbol
    have hmem : .declareGlobal symbol ∈ shadowingOps := by
      rw [hops]
      simp
    simp only [shadowingOps, List.mem_cons, reduceCtorEq, TableOp.declareGlobal.injEq,
      List.not_mem_nil, false_or, or_false] at hmem
    rcases hmem with rfl | rfl | rfl <;> simp [Symbol.name] at hname

end SubsetC.SymbolTable
