import Mathlib.Data.List.Forall2
import Mathlib.Data.List.Nodup
import SubsetC.Proofs.Scoping

/-!
# Symbol tables and scopes

The table of a parse against the scopes that the tree gives.  They agree on every
name but the placeholder's, which no identifier has, as long as nothing was declared
twice in one scope and no dummy was planted.  Declaring a symbol and entering and
leaving scopes keep the agreement, and a name that the table has stands for the
symbol that the scopes let it see.
-/

namespace SubsetC

/-- The symbols that a clean program declares, and `printf`. -/
inductive Symbol.IsRegular : Symbol → Prop
  | ofVariable {name : String} {ty : Ty} : ty ≠ .error → IsRegular (.variable name ty)
  | ofFunction {name : String} {signature : Signature} : signature.returns ≠ .error →
      (name = printfName → Symbol.function name signature = .printf) →
      IsRegular (.function name signature)

namespace Symbol.IsRegular

variable {symbol : Symbol}

theorem isDummy_eq_false (hregular : symbol.IsRegular) : symbol.isDummy = false := by
  cases hregular <;> rfl

theorem ty_ne_error (hregular : symbol.IsRegular) : symbol.ty ≠ .error := by
  cases hregular with
  | ofVariable hty => exact hty
  | ofFunction => simp [Symbol.ty]

theorem eq_variable_of_isScalar (hregular : symbol.IsRegular)
    (hscalar : symbol.ty.isScalar = true) : ∃ name, symbol = .variable name symbol.ty := by
  cases hregular with
  | ofVariable => exact ⟨_, rfl⟩
  | ofFunction => simp [Symbol.ty, Ty.isScalar] at hscalar

theorem printf : Symbol.printf.IsRegular := .ofFunction (by decide) fun _ => rfl

end Symbol.IsRegular

/-! ## One scope -/

namespace Scope

variable {scope bound declared : Scope} {symbol : Symbol} {name : String}

theorem find?_eq_none_iff : scope.find? name = none ↔ name ∉ scope.map Symbol.name := by
  simp [find?]

/-- A scope of a table against the symbols that were declared in it. -/
structure Mirrors (bound declared : Scope) : Prop where
  find?_eq : ∀ name, name ≠ Symbol.placeholder.name → bound.find? name = declared.find? name
  distinct : (declared.map Symbol.name).Nodup
  regular : ∀ symbol ∈ declared, symbol.IsRegular

theorem Mirrors.nil : Mirrors [] [] := ⟨fun _ _ => rfl, List.nodup_nil, nofun⟩

theorem Mirrors.bind (hmirrors : bound.Mirrors declared)
    (hnew : declared.find? symbol.name = none) (hregular : symbol.IsRegular) :
    (bound.bind symbol).Mirrors (declared ++ [symbol]) := by
  refine ⟨?_, ?_, ?_⟩
  · intro name hname
    have happend : Scope.find? (declared ++ [symbol]) name =
        (declared.find? name).or (Scope.find? [symbol] name) := List.find?_append
    rw [happend]
    by_cases hsame : symbol.name = name
    · subst hsame
      rw [find?_bind_self, hnew]
      simp [find?]
    · rw [find?_bind_of_ne hsame, hmirrors.find?_eq name hname]
      simp [find?, hsame]
  · rw [List.map_append, List.nodup_append]
    refine ⟨hmirrors.distinct, List.nodup_singleton _, ?_⟩
    intro first hfirst second hsecond hsame
    rw [List.mem_singleton.1 hsecond] at hsame
    exact find?_eq_none_iff.1 hnew (hsame ▸ hfirst)
  · intro other hother
    rcases List.mem_append.1 hother with hold | hadded
    · exact hmirrors.regular other hold
    · rw [List.mem_singleton.1 hadded]
      exact hregular

/-- The only symbol of its name is the one that is found. -/
theorem Mirrors.unique (hmirrors : bound.Mirrors declared)
    (hfind : declared.find? name = some symbol) :
    symbol ∈ declared ∧ ∀ other ∈ declared, other.name = symbol.name → other = symbol := by
  have hmem : symbol ∈ declared := List.mem_of_find?_eq_some hfind
  refine ⟨hmem, fun other hother hname => ?_⟩
  exact List.inj_on_of_nodup_map hmirrors.distinct hother hmem hname

end Scope

/-! ## Stacks of scopes -/

theorem extended_append (scopes : List Scope) (first second : List Symbol) :
    extended (extended scopes first) second = extended scopes (first ++ second) := by
  cases scopes with
  | nil => rfl
  | cons scope outer => simp [extended]

@[simp] theorem extended_nil (scopes : List Scope) : extended scopes [] = scopes := by
  cases scopes with
  | nil => rfl
  | cons scope outer => simp [extended]

namespace SymbolTable

variable {table next : SymbolTable} {scopes : List Scope} {symbol : Symbol} {name : String}

theorem scopes_eq_cons (table : SymbolTable) :
    table.scopes = table.innermost :: table.scopes.tail := by
  unfold scopes innermost
  cases table.inner <;> rfl

theorem bind_scopes (table : SymbolTable) (symbol : Symbol) :
    (table.bind symbol).scopes = table.innermost.bind symbol :: table.scopes.tail := by
  unfold bind scopes innermost
  cases table.inner <;> rfl

/-- A table against the symbols that were declared in each of its scopes. -/
def Mirrors (table : SymbolTable) (scopes : List Scope) : Prop :=
  List.Forall₂ Scope.Mirrors table.scopes scopes

theorem Mirrors.initial : Mirrors {} [[.printf]] := by
  refine .cons ⟨?_, List.nodup_singleton _, ?_⟩ .nil
  · intro name hname
    unfold Scope.find?
    rw [List.find?_cons_of_neg (by simpa using hname.symm)]
  · intro symbol hsymbol
    rw [List.mem_singleton.1 hsymbol]
    exact .printf

/-- The global scope is never left. -/
theorem Mirrors.exists_cons (hmirrors : table.Mirrors scopes) :
    ∃ scope outer, scopes = scope :: outer := by
  unfold Mirrors at hmirrors
  rw [scopes_eq_cons] at hmirrors
  cases hmirrors with
  | @cons _ scope _ outer _ _ => exact ⟨scope, outer, rfl⟩

theorem Mirrors.regular (hmirrors : table.Mirrors scopes) {scope : Scope}
    (hscope : scope ∈ scopes) (hsymbol : symbol ∈ scope) : symbol.IsRegular := by
  unfold Mirrors at hmirrors
  generalize table.scopes = stack at hmirrors
  induction hmirrors with
  | nil => contradiction
  | cons hhere _ ih =>
      rcases List.mem_cons.1 hscope with rfl | hscope
      · exact hhere.regular symbol hsymbol
      · exact ih hscope

/-- A name that the table has stands for the symbol that the scopes let it see. -/
theorem Mirrors.sees (hmirrors : table.Mirrors scopes)
    (hname : name ≠ Symbol.placeholder.name) (hlookup : table.lookup? name = some symbol) :
    Sees scopes symbol ∧ symbol.IsRegular := by
  unfold Mirrors at hmirrors
  unfold lookup? at hlookup
  generalize table.scopes = stack at hmirrors hlookup
  induction hmirrors with
  | nil => contradiction
  | @cons _ declared _ outer hhere houter ih =>
      rw [List.findSome?_cons, hhere.find?_eq name hname] at hlookup
      cases hfind : declared.find? name with
      | some found =>
          simp only [hfind, Option.some.injEq] at hlookup
          subst hlookup
          obtain ⟨hmem, hunique⟩ := hhere.unique hfind
          exact ⟨.here hmem hunique, hhere.regular _ hmem⟩
      | none =>
          -- The name that was looked up is that of the symbol, so no symbol here has it.
          simp only [hfind] at hlookup
          obtain ⟨hseen, hregular⟩ := ih hlookup
          obtain ⟨scope, -, hscope⟩ := List.exists_of_findSome?_eq_some hlookup
          rw [← Scope.name_eq_of_find? hscope, Scope.find?_eq_none_iff] at hfind
          refine ⟨.outside (fun other hother hsame => hfind ?_) hseen, hregular⟩
          exact List.mem_map.2 ⟨other, hother, hsame⟩

/-- A regular symbol is declared only under a name that its scope does not have. -/
theorem Mirrors.declare (hmirrors : table.Mirrors scopes)
    (hname : symbol.name ≠ Symbol.placeholder.name) (hregular : symbol.IsRegular)
    (hdeclare : table.declare symbol = .ok next) :
    next.Mirrors (extended scopes [symbol]) := by
  unfold Mirrors at hmirrors
  rw [scopes_eq_cons] at hmirrors
  cases hmirrors with
  | @cons _ declared _ outer hhere houter =>
      unfold SymbolTable.declare at hdeclare
      rw [hhere.find?_eq symbol.name hname] at hdeclare
      cases hfind : declared.find? symbol.name with
      | some existing =>
          have hexisting := hhere.regular existing (hhere.unique hfind).1
          simp [hfind, hexisting.isDummy_eq_false] at hdeclare
      | none =>
          simp only [hfind, Except.ok.injEq] at hdeclare
          subst hdeclare
          unfold Mirrors
          rw [bind_scopes]
          exact .cons (hhere.bind hfind hregular) houter

theorem Mirrors.enterScope (hmirrors : table.Mirrors scopes) :
    table.enterScope.Mirrors ([] :: scopes) :=
  .cons .nil hmirrors

theorem Mirrors.exitScope {scope outer : Scope} {others : List Scope}
    (hmirrors : table.Mirrors (scope :: outer :: others)) :
    table.exitScope.Mirrors (outer :: others) := by
  obtain ⟨inner, globals⟩ := table
  unfold Mirrors scopes at hmirrors
  cases inner with
  | nil =>
      cases hmirrors with
      | cons _ hothers => cases hothers
  | cons left inner =>
      cases hmirrors with
      | cons _ hothers => exact hothers

/-- A function is declared globally from inside the scope of its parameters. -/
theorem Mirrors.declareGlobal {params globals : Scope}
    (hmirrors : table.Mirrors [params, globals])
    (hname : symbol.name ≠ Symbol.placeholder.name)
    (hregular : globals.find? symbol.name = none → symbol.IsRegular)
    (hdeclare : table.declareGlobal symbol = .ok next) :
    next.Mirrors [params, globals ++ [symbol]] := by
  obtain ⟨inner, bound⟩ := table
  have hlength : (inner ++ [bound]).length = 2 := List.Forall₂.length_eq hmirrors
  rw [List.length_append, List.length_singleton] at hlength
  obtain ⟨left, rfl⟩ := List.length_eq_one_iff.1 (show inner.length = 1 by omega)
  cases hmirrors with
  | cons hparams hothers =>
      cases hothers with
      | cons hglobals _ =>
          unfold SymbolTable.declareGlobal at hdeclare
          rw [hglobals.find?_eq symbol.name hname] at hdeclare
          cases hfind : globals.find? symbol.name with
          | some existing => simp [hfind] at hdeclare
          | none =>
              simp only [hfind, Except.ok.injEq] at hdeclare
              subst hdeclare
              exact .cons hparams (.cons (hglobals.bind hfind (hregular hfind)) .nil)

end SymbolTable

end SubsetC
