import SubsetC.Proofs.Handoffs
import SubsetC.Proofs.ScopeBalance
import SubsetC.Proofs.StringIds

/-!
# The footprint of expressions

Reading an expression changes little beside the cursor, also when it fails half way.  Of the
symbol table it touches only the innermost scope, where it puts dummies under names that were
unknown; every name that was known stands for the same symbol afterwards.  Strings and reports
are added behind those from before, and the need for `printf` is not taken back.
-/

namespace SubsetC

namespace SymbolTable

variable {table next last : SymbolTable} {name : String} {symbol : Symbol}

/-- The innermost scope is asked first. -/
theorem lookup?_eq_innermost_or (table : SymbolTable) (name : String) :
    table.lookup? name =
      (table.innermost.find? name).or
        (table.scopes.tail.findSome? fun scope => scope.find? name) := by
  unfold lookup?
  rw [scopes_eq_cons, List.tail_cons, List.findSome?_cons]
  cases table.innermost.find? name <;> rfl

/-- A later table that differs by dummies of unknown names in its innermost scope. -/
structure Plants (table next : SymbolTable) : Prop where
  depth : next.depth = table.depth
  outer : next.scopes.tail = table.scopes.tail
  kept : ∀ name symbol, table.innermost.find? name = some symbol →
    next.innermost.find? name = some symbol
  gained : ∀ name symbol, next.innermost.find? name = some symbol →
    table.innermost.find? name = some symbol ∨
      symbol = .dummy name ∧ table.lookup? name = none

theorem Plants.refl (table : SymbolTable) : table.Plants table :=
  ⟨rfl, rfl, fun _ _ hfind => hfind, fun _ _ hfind => .inl hfind⟩

/-- Names that were known keep their symbols: a dummy would stand only for an unknown one. -/
theorem Plants.lookup?_eq (hplants : table.Plants next) (hlookup : table.lookup? name = some symbol) :
    next.lookup? name = some symbol := by
  rw [lookup?_eq_innermost_or, hplants.outer]
  cases hfind : next.innermost.find? name with
  | none =>
      rw [lookup?_eq_innermost_or] at hlookup
      cases hbefore : table.innermost.find? name with
      | none => rwa [hbefore] at hlookup
      | some found =>
          rw [hplants.kept name found hbefore] at hfind
          contradiction
  | some found =>
      rcases hplants.gained name found hfind with hbefore | ⟨-, hunknown⟩
      · rwa [lookup?_eq_innermost_or, hbefore] at hlookup
      · rw [hunknown] at hlookup
        contradiction

theorem Plants.unknown (hplants : table.Plants next) (hlookup : next.lookup? name = none) :
    table.lookup? name = none := by
  cases hbefore : table.lookup? name with
  | none => rfl
  | some symbol =>
      rw [hplants.lookup?_eq hbefore] at hlookup
      contradiction

theorem Plants.trans (hfirst : table.Plants next) (hsecond : next.Plants last) :
    table.Plants last where
  depth := hsecond.depth.trans hfirst.depth
  outer := hsecond.outer.trans hfirst.outer
  kept name symbol hfind := hsecond.kept name symbol (hfirst.kept name symbol hfind)
  gained name symbol hfind := by
    rcases hsecond.gained name symbol hfind with hmiddle | ⟨hdummy, hunknown⟩
    · exact hfirst.gained name symbol hmiddle
    · exact .inr ⟨hdummy, hfirst.unknown hunknown⟩

theorem plants_bind_dummy (hlookup : table.lookup? name = none) :
    table.Plants (table.bind (.dummy name)) := by
  have hbalances := Balances.plant hlookup
  have hfree : table.innermost.find? name = none := by
    rw [lookup?_eq_innermost_or, Option.or_eq_none_iff] at hlookup
    exact hlookup.1
  constructor
  · exact hbalances.depth
  · exact hbalances.outer
  · intro other symbol hfind
    have hname : (Symbol.dummy name).name ≠ other := by
      rintro rfl
      exact absurd (hfree.symm.trans hfind) (by simp)
    rw [innermost_bind, Scope.find?_bind_of_ne hname, hfind]
  · intro other symbol hfind
    rw [innermost_bind] at hfind
    by_cases hname : (Symbol.dummy name).name = other
    · subst hname
      rw [Scope.find?_bind_self, Option.some.injEq] at hfind
      exact .inr ⟨hfind.symm, hlookup⟩
    · rw [Scope.find?_bind_of_ne hname] at hfind
      exact .inl hfind

end SymbolTable

namespace Parse

/-- All that reading an expression may have changed, the cursor apart. -/
structure Footprint (state next : ParseState) : Prop where
  symbols : state.symbols.Plants next.symbols
  returnType : next.returnType? = state.returnType?
  strings : state.strings.texts.toList <+: next.strings.texts.toList
  reports : state.journal.diagnostics.toList <+: next.journal.diagnostics.toList
  printf : state.needsPrintf = true → next.needsPrintf = true

instance : StepRelation Footprint where
  refl state := ⟨.refl state.symbols, rfl, List.prefix_rfl, List.prefix_rfl, id⟩
  trans hfirst hsecond :=
    ⟨hfirst.symbols.trans hsecond.symbols, hsecond.returnType.trans hfirst.returnType,
      hfirst.strings.trans hsecond.strings, hfirst.reports.trans hsecond.reports,
      fun hmarked => hsecond.printf (hfirst.printf hmarked)⟩
  move state _ _ _ := ⟨.refl state.symbols, rfl, List.prefix_rfl, List.prefix_rfl, id⟩
  note state _ := ⟨.refl state.symbols, rfl, List.prefix_rfl, List.prefix_rfl, id⟩
  report state diagnostic :=
    ⟨.refl state.symbols, rfl, List.prefix_rfl,
      StepRelation.report (R := KeepsReports) state diagnostic, id⟩
  plant _ _ hlookup :=
    ⟨SymbolTable.plants_bind_dummy hlookup, rfl, List.prefix_rfl, List.prefix_rfl, id⟩
  intern state text :=
    ⟨.refl state.symbols, rfl, state.strings.intern_prefix text, List.prefix_rfl, id⟩
  markPrintf state := ⟨.refl state.symbols, rfl, List.prefix_rfl, List.prefix_rfl, fun _ => rfl⟩

/-- An expression, whether it was begun before or not and whether it succeeds or fails, leaves
all of a state but its footprint alone: the names that were known stand for the same symbols
and the ids of strings for the same texts. -/
theorem expr_footprint (settings : Settings) (state : ParseState) :
    Footprint state (expr.run settings state).2 ∧
    ∀ handoff?, Footprint state ((exprAfter handoff?).run settings state).2 ∧
      (∀ name symbol, state.symbols.lookup? name = some symbol →
        ((exprAfter handoff?).run settings state).2.symbols.lookup? name = some symbol) ∧
      ∀ id text, state.strings.get? id = some text →
        ((exprAfter handoff?).run settings state).2.strings.get? id = some text := by
  have hafter (handoff? : Option Handoff) :
      Footprint state ((exprAfter handoff?).run settings state).2 :=
    Respects.run inferInstance settings state
  refine ⟨hafter none, fun handoff? => ⟨hafter handoff?, ?_, ?_⟩⟩
  · intro name symbol hlookup
    exact (hafter handoff?).symbols.lookup?_eq hlookup
  · intro id text hget
    exact StringTable.get?_of_prefix (hafter handoff?).strings hget

/-- The state before a text in which `x` is a number and one string was used. -/
def usedState (tokens : List Token) : ParseState :=
  { numberState tokens with strings := (({} : StringTable).intern "a").2 }

/-- A sum broken off in a call, with an unknown name and a new string on the way. -/
def brokenSumText : String := "x + y * printf(\"s\", 1 2"

theorem brokenSumText_footprint :
    ∃ tokens, tokenize brokenSumText "f.c" = .ok tokens ∧
      (expr.run { file := "f.c" } (usedState tokens)).1.toOption.isNone = true ∧
      (expr.run { file := "f.c" } (usedState tokens)).2.symbols.lookup? "y" = some (.dummy "y") ∧
      (expr.run { file := "f.c" } (usedState tokens)).2.strings.texts = #["a", "s"] ∧
      (expr.run { file := "f.c" } (usedState tokens)).2.needsPrintf = true ∧
      Footprint (usedState tokens) (expr.run { file := "f.c" } (usedState tokens)).2 ∧
      (expr.run { file := "f.c" } (usedState tokens)).2.symbols.lookup? "x" =
        some (.variable "x" .int) ∧
      (expr.run { file := "f.c" } (usedState tokens)).2.strings.get? 0 = some "a" := by
  have hreads : ((tokenize brokenSumText "f.c").toOption.any fun tokens => decide
      ((expr.run { file := "f.c" } (usedState tokens)).1.toOption.isNone = true ∧
        (expr.run { file := "f.c" } (usedState tokens)).2.symbols.lookup? "y" =
          some (.dummy "y") ∧
        (expr.run { file := "f.c" } (usedState tokens)).2.strings.texts = #["a", "s"] ∧
        (expr.run { file := "f.c" } (usedState tokens)).2.needsPrintf = true)) = true := by
    decide +kernel
  obtain ⟨tokens, htokens, hfails, hdummy, htexts, hmarked⟩ := exists_tokens hreads
  obtain ⟨hfootprint, hafter⟩ := expr_footprint { file := "f.c" } (usedState tokens)
  obtain ⟨-, hknown, hids⟩ := hafter none
  have hx : (usedState tokens).symbols.lookup? "x" = some (.variable "x" .int) := by
    change (({} : SymbolTable).bind (.variable "x" .int)).lookup? "x" = _
    decide +kernel
  exact ⟨tokens, htokens, hfails, hdummy, htexts, hmarked, hfootprint, hknown _ _ hx,
    hids 0 "a" rfl⟩

end Parse

end SubsetC
