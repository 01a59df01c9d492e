import SubsetC.Stmt.Render
import SubsetC.StringTable

/-!
# Programs

A program is the list of its global declarations and functions in source order,
with the table of its string literals.
-/

namespace SubsetC

inductive External where
  | global (declaration : Declaration)
  | function (function : FunctionDef)

structure Program where
  externals : List External
  strings : StringTable
  needsPrintf : Bool
  span : Span

namespace Program

def globals (program : Program) : List Declaration :=
  program.externals.filterMap fun
    | .global declaration => some declaration
    | .function _ => none

def functions (program : Program) : List FunctionDef :=
  program.externals.filterMap fun
    | .global _ => none
    | .function function => some function

/-- The first function of a name. -/
def function? (program : Program) (name : String) : Option FunctionDef :=
  program.functions.find? fun function => function.symbol.name = name

/-- The texts of the global declarations, then those of the functions. -/
def render (program : Program) : List String :=
  program.globals.map Declaration.render ++ program.functions.map FunctionDef.render

end Program

end SubsetC
