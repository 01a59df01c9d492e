import SubsetC.Proofs.Typing
import SubsetC.Symbol.Table
import SubsetC.Token.Basic

/-!
# Lexical scoping

The scopes at each place of a finished tree, read off the tree alone, and what it
means that the symbols in it are those that the scopes give their names.  The names
in a tree, in the order in which it is written, tell which name of the source each
symbol stands for.

A variable is visible from its own declarator on, a function from its own body on.
The parameters of a function share a scope with its body, every block inside opens
one, and the body of an `if` or a `while` that is no block does not: what it declares
stays visible after it.
-/

namespace SubsetC

/-! ## Names -/

/-- The names in some tokens, in order. -/
def identifiers (tokens : List Token) : List String :=
  (tokens.filter fun token => token.kind = .identifier).map Token.text

namespace Expr

mutual

/-- The names of the symbols in an expression, in the order in which it is written. -/
def names : Expr → List String
  | constant _ _ _ => []
  | string _ _ _ => []
  | ident symbol _ => [symbol.name]
  | element array index _ => array.name :: index.names
  | address array index _ _ => array.name :: index.names
  | call callee arguments _ => callee.name :: allNames arguments
  | step _ operand _ _ => [operand.name]
  | not operand _ _ => operand.names
  | binary _ lhs rhs _ => lhs.names ++ rhs.names
  | toInt operand => operand.names
  | toChar operand => operand.names

def allNames : List Expr → List String
  | [] => []
  | expr :: others => expr.names ++ allNames others

end

end Expr

def Subscript.names (target : Subscript) : List String :=
  target.array.name :: target.index.names

/-- The name that is declared and those in the initial value. -/
def Declaration.names (declaration : Declaration) : List String :=
  declaration.symbol.name :: (declaration.initial?.map Expr.names).getD []

namespace Stmt

mutual

def names : Stmt → List String
  | declare declaration => declaration.names
  | assign target value _ => target.name :: value.names
  | assignElement target value _ => target.names ++ value.names
  | evaluate expr _ => expr.names
  | ret (some value) _ => value.names
  | ret none _ => []
  | conditional condition accepted none _ => condition.names ++ accepted.names
  | conditional condition accepted (some rejected) _ =>
      condition.names ++ accepted.names ++ rejected.names
  | whileLoop condition body _ => condition.names ++ body.names
  | block body _ => allNames body
  | null _ => []

def allNames : List Stmt → List String
  | [] => []
  | stmt :: others => stmt.names ++ allNames others

end

end Stmt

def FunctionDef.names (function : FunctionDef) : List String :=
  function.symbol.name :: function.params.map Symbol.name ++ Stmt.allNames function.body.body

def External.names : External → List String
  | .global declaration => declaration.names
  | .function defined => defined.names

def Program.names (program : Program) : List String :=
  program.externals.flatMap External.names

/-! ## Scopes -/

/-- Whether a symbol is the one of its name in the innermost scope that declares the
name.  The scopes stand with the innermost first. -/
inductive Sees : List Scope → Symbol → Prop
  | here {scope : Scope} {outer : List Scope} {symbol : Symbol} : symbol ∈ scope →
      (∀ other ∈ scope, other.name = symbol.name → other = symbol) →
      Sees (scope :: outer) symbol
  | outside {scope : Scope} {outer : List Scope} {symbol : Symbol} :
      (∀ other ∈ scope, other.name ≠ symbol.name) → Sees outer symbol →
      Sees (scope :: outer) symbol

/-- The scopes after more symbols were declared in the innermost one. -/
def extended (scopes : List Scope) (declared : List Symbol) : List Scope :=
  match scopes with
  | [] => []
  | scope :: outer => (scope ++ declared) :: outer

/-- An expression with the symbol of every node seen. -/
abbrev Expr.Scoped (scopes : List Scope) (e : Expr) : Prop :=
  e.Everywhere fun node => ∀ symbol, node.symbol? = some symbol → Sees scopes symbol

/-- A declared variable is visible in its own initial value. -/
def Declaration.Scoped (scopes : List Scope) (declaration : Declaration) : Prop :=
  ∀ value, declaration.initial? = some value →
    value.Scoped (extended scopes [declaration.symbol])

namespace Stmt

/-- The symbols that a statement declares in the scope it stands in. -/
def declared : Stmt → List Symbol
  | declare declaration => [declaration.symbol]
  | conditional _ accepted none _ => accepted.declared
  | conditional _ accepted (some rejected) _ => accepted.declared ++ rejected.declared
  | whileLoop _ body _ => body.declared
  | _ => []

mutual

/-- A statement with the symbol of every occurrence seen at its place. -/
def Scoped (scopes : List Scope) : Stmt → Prop
  | declare declaration => declaration.Scoped scopes
  | assign target value _ => Sees scopes target ∧ value.Scoped scopes
  | assignElement target value _ =>
      Sees scopes target.array ∧ target.index.Scoped scopes ∧ value.Scoped scopes
  | evaluate expr _ => expr.Scoped scopes
  | ret (some value) _ => value.Scoped scopes
  | ret none _ => True
  | conditional condition accepted none _ => condition.Scoped scopes ∧ accepted.Scoped scopes
  | conditional condition accepted (some rejected) _ =>
      condition.Scoped scopes ∧ accepted.Scoped scopes ∧
        rejected.Scoped (extended scopes accepted.declared)
  | whileLoop condition body _ => condition.Scoped scopes ∧ body.Scoped scopes
  | block body _ => AllScoped ([] :: scopes) body
  | null _ => True

/-- Statements after each other: each sees what those before it declared. -/
def AllScoped (scopes : List Scope) : List Stmt → Prop
  | [] => True
  | stmt :: others =>
      stmt.Scoped scopes ∧ AllScoped (extended scopes stmt.declared) others

end

end Stmt

/-- The symbol that an external declares globally. -/
def External.symbol : External → Symbol
  | .global declaration => declaration.symbol
  | .function defined => defined.symbol

/-- An external after some globals. -/
def External.Scoped (globals : Scope) : External → Prop
  | .global declaration => declaration.Scoped [globals]
  | .function defined =>
      Stmt.AllScoped [defined.params, globals ++ [defined.symbol]] defined.body.body

def External.AllScoped (globals : Scope) : List External → Prop
  | [] => True
  | external :: others =>
      external.Scoped globals ∧ AllScoped (globals ++ [external.symbol]) others

/-- A program in which every symbol is the one that lexical scoping gives its name,
where `printf` is declared before everything else. -/
def Program.Scoped (program : Program) : Prop :=
  External.AllScoped [.printf] program.externals

end SubsetC
