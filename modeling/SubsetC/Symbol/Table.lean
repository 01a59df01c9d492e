import SubsetC.Symbol.Basic

/-!
# Scopes

A symbol table is a stack of scopes over a global scope that is never left.  A
name is looked up from the innermost scope outwards.  Declaring a name twice in
one scope is refused, except that a dummy gives way to a declaration in the
innermost scope.
-/

namespace SubsetC

/-- The symbols of one scope, one to a name. -/
abbrev Scope := List Symbol

namespace Scope

def find? (scope : Scope) (name : String) : Option Symbol :=
  List.find? (fun symbol => symbol.name = name) scope

/-- Binds a symbol's name to it, in place of any symbol of that name. -/
def bind (scope : Scope) (symbol : Symbol) : Scope :=
  symbol :: scope.filter fun other => other.name ≠ symbol.name

@[simp] theorem find?_bind_self (scope : Scope) (symbol : Symbol) :
    (scope.bind symbol).find? symbol.name = some symbol := by
  simp [bind, find?]

theorem find?_bind_of_ne {scope : Scope} {symbol : Symbol} {name : String}
    (hname : symbol.name ≠ name) : (scope.bind symbol).find? name = scope.find? name := by
  simp only [bind, find?, List.find?_cons, hname, decide_false, List.find?_filter]
  congr 1
  funext other
  by_cases hother : other.name = name
  · simp [hother, Ne.symm hname]
  · simp [hother]

theorem name_eq_of_find? {scope : Scope} {name : String} {symbol : Symbol}
    (hfind : scope.find? name = some symbol) : symbol.name = name := by
  simpa using List.find?_some hfind

end Scope

/-- The scopes inside the global one, the innermost first. -/
structure SymbolTable where
  inner : List Scope := []
  globals : Scope := [.placeholder, .printf]
deriving DecidableEq, Repr

namespace SymbolTable

def scopes (table : SymbolTable) : List Scope := table.inner ++ [table.globals]

def depth (table : SymbolTable) : Nat := table.inner.length + 1

/-- The scope in which declarations are made. -/
def innermost (table : SymbolTable) : Scope := table.inner.headD table.globals

def enterScope (table : SymbolTable) : SymbolTable :=
  { table with inner := [] :: table.inner }

/-- Leaves the innermost scope; the global scope is never left. -/
def exitScope (table : SymbolTable) : SymbolTable :=
  { table with inner := table.inner.tail }

/-- Binds a symbol in the innermost scope. -/
def bind (table : SymbolTable) (symbol : Symbol) : SymbolTable :=
  match table.inner with
  | [] => { table with globals := table.globals.bind symbol }
  | scope :: outer => { table with inner := scope.bind symbol :: outer }

/-- The symbol of a name in the innermost scope that has one. -/
def lookup? (table : SymbolTable) (name : String) : Option Symbol :=
  table.scopes.findSome? fun scope => scope.find? name

theorem name_eq_of_lookup? {table : SymbolTable} {name : String} {symbol : Symbol}
    (hlookup : table.lookup? name = some symbol) : symbol.name = name := by
  obtain ⟨scope, -, hfind⟩ := List.exists_of_findSome?_eq_some hlookup
  exact Scope.name_eq_of_find? hfind

/-- Declares a symbol in the innermost scope.  A symbol of its name in that scope
is returned and kept unless it is a dummy. -/
def declare (table : SymbolTable) (symbol : Symbol) : Except Symbol SymbolTable :=
  match table.innermost.find? symbol.name with
  | some existing => if existing.isDummy then .ok (table.bind symbol) else .error existing
  | none => .ok (table.bind symbol)

/-- Declares a symbol in the global scope, at any depth.  Any symbol of its name
there is returned and kept. -/
def declareGlobal (table : SymbolTable) (symbol : Symbol) : Except Symbol SymbolTable :=
  match table.globals.find? symbol.name with
  | some existing => .error existing
  | none => .ok { table with globals := table.globals.bind symbol }

/-- What resolving a name gave: a symbol that was there, or a dummy that was put
into the innermost scope, so that later uses of the name find it. -/
inductive Resolution where
  | found (symbol : Symbol)
  | planted (dummy : Symbol) (table : SymbolTable)

def resolve (table : SymbolTable) (name : String) : Resolution :=
  match table.lookup? name with
  | some symbol => .found symbol
  | none => .planted (.dummy name) (table.bind (.dummy name))

/-- The symbol that the global scope holds for the placeholder. -/
def placeholder (table : SymbolTable) : Symbol :=
  (table.globals.find? Symbol.placeholder.name).getD .placeholder

end SymbolTable

end SubsetC
