import SubsetC.Expr.Basic

/-!
# Statements

The tree of a statement.  The null statement is a lone semicolon; it also stands
for a statement that was malformed and passed over.
-/

namespace SubsetC

/-- A declared variable, with the number of its elements if it is an array whose
size is written. -/
structure Declaration where
  symbol : Symbol
  size? : Option Nat
  initial? : Option Expr
  span : Span

inductive Stmt where
  | declare (declaration : Declaration)
  | assign (target : Symbol) (value : Expr) (span : Span)
  | assignElement (target : Subscript) (value : Expr) (span : Span)
  | evaluate (expr : Expr) (span : Span)
  | ret (value? : Option Expr) (span : Span)
  | conditional (condition : Expr) (accepted : Stmt) (rejected? : Option Stmt) (span : Span)
  | whileLoop (condition : Expr) (body : Stmt) (span : Span)
  | block (body : List Stmt) (span : Span)
  | null (span : Span)

namespace Stmt

def span : Stmt → Span
  | declare declaration => declaration.span
  | assign _ _ span => span
  | assignElement _ _ span => span
  | evaluate _ span => span
  | ret _ span => span
  | conditional _ _ _ span => span
  | whileLoop _ _ span => span
  | block _ span => span
  | null span => span

def isNull : Stmt → Bool
  | null _ => true
  | _ => false

end Stmt

/-- The statements between two braces. -/
structure Block where
  body : List Stmt
  span : Span

def Block.toStmt (block : Block) : Stmt := .block block.body block.span

structure FunctionDef where
  symbol : Symbol
  params : List Symbol
  body : Block
  span : Span

end SubsetC
