import SubsetC.Expr.Basic
import SubsetC.Text.Decimal
import SubsetC.Text.Quoted

/-!
# Expressions as text

The canonical text of an expression is an S-expression: a leaf is written as
itself and any other node as its operator and its parts in parentheses.
-/

namespace SubsetC

open Text

/-- Whether a number is the code point of a character. -/
def isCodePoint (value : Int) : Bool := 0 ≤ value && decide value.toNat.isValidChar

/-- The text of a constant; a character that is none is shown as `'?'`. -/
def renderConstant (value : Int) (ty : Ty) : String :=
  if ty = .char then
    String.ofList (quotedConstant (if isCodePoint value then Char.ofNat value.toNat else '?'))
  else decimal value

def renderSubscript (array index : String) : String :=
  "(index " ++ array ++ " " ++ index ++ ")"

namespace Expr

mutual

def render : Expr → String
  | constant value ty _ => renderConstant value ty
  | string text _ _ => quoteString text
  | ident symbol _ => symbol.name
  | element array index _ => renderSubscript array.name index.render
  | address array index _ _ => "(& " ++ renderSubscript array.name index.render ++ ")"
  | call callee arguments _ => "(call " ++ callee.name ++ renderAll arguments ++ ")"
  | step operator operand _ _ => "(" ++ operator.symbol ++ " " ++ operand.name ++ ")"
  | not operand _ _ => "(! " ++ operand.render ++ ")"
  | binary operator lhs rhs _ =>
      "(" ++ operator.symbol ++ " " ++ lhs.render ++ " " ++ rhs.render ++ ")"
  | toInt operand => "(int " ++ operand.render ++ ")"
  | toChar operand => "(char " ++ operand.render ++ ")"

/-- The texts of the arguments of a call, each after a space. -/
def renderAll : List Expr → String
  | [] => ""
  | argument :: others => " " ++ argument.render ++ renderAll others

end

end Expr

def Subscript.render (subscript : Subscript) : String :=
  renderSubscript subscript.array.name subscript.index.render

end SubsetC
