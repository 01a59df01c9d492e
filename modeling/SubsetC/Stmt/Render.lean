import SubsetC.Expr.Render
import SubsetC.Stmt.Basic

/-!
# Statements as text

The canonical text of statements and functions, in the form used for
expressions.
-/

namespace SubsetC

def Declaration.render (declaration : Declaration) : String :=
  "(decl " ++ declaration.symbol.ty.name ++ " " ++ declaration.symbol.name ++
    (match declaration.size? with
      | some size => " " ++ Nat.repr size
      | none => "") ++
    (match declaration.initial? with
      | some value => " " ++ value.render
      | none => "") ++
    ")"

namespace Stmt

mutual

def render : Stmt → String
  | declare declaration => declaration.render
  | assign target value _ => "(= " ++ target.name ++ " " ++ value.render ++ ")"
  | assignElement target value _ => "(= " ++ target.render ++ " " ++ value.render ++ ")"
  | evaluate expr _ => expr.render
  | ret none _ => "(return)"
  | ret (some value) _ => "(return " ++ value.render ++ ")"
  | conditional condition accepted none _ =>
      "(if " ++ condition.render ++ " " ++ accepted.render ++ ")"
  | conditional condition accepted (some rejected) _ =>
      "(if " ++ condition.render ++ " " ++ accepted.render ++ " " ++ rejected.render ++ ")"
  | whileLoop condition body _ => "(while " ++ condition.render ++ " " ++ body.render ++ ")"
  | block body _ => "(block" ++ renderAll body ++ ")"
  | null _ => "(null)"

/-- The texts of the statements of a block, each after a space. -/
def renderAll : List Stmt → String
  | [] => ""
  | stmt :: others => " " ++ stmt.render ++ renderAll others

end

end Stmt

def FunctionDef.render (function : FunctionDef) : String :=
  let params := function.params.map fun param => param.ty.name ++ " " ++ param.name
  "(fn " ++ function.symbol.name ++ " (" ++ String.intercalate ", " params ++ ") " ++
    function.body.toStmt.render ++ ")"

end SubsetC
