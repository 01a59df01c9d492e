import SubsetC.Source.Position
import SubsetC.Symbol.Basic
import SubsetC.Ty.Rules

/-!
# Expressions

The tree of an expression.  Identifiers are resolved to symbols, and the nodes
whose type is a matter of the type rules carry it; every other type follows from
the node's parts.  The span of a binary node or a conversion is that of its
operands.
-/

namespace SubsetC

inductive Expr where
  | constant (value : Int) (ty : Ty) (span : Span)
  | string (text : String) (id : Nat) (span : Span)
  | ident (symbol : Symbol) (span : Span)
  | element (array : Symbol) (index : Expr) (span : Span)
  | address (array : Symbol) (index : Expr) (elementSpan span : Span)
  | call (callee : Symbol) (arguments : List Expr) (span : Span)
  | step (operator : Step) (operand : Symbol) (ty : Ty) (span : Span)
  | not (operand : Expr) (ty : Ty) (span : Span)
  | binary (operator : BinaryOp) (lhs rhs : Expr) (ty : Ty)
  | toInt (operand : Expr)
  | toChar (operand : Expr)

/-- An array name with an index in brackets: what `Expr.element` reads, what
`Expr.address` points to and what an assignment may have on its left. -/
structure Subscript where
  array : Symbol
  index : Expr
  span : Span

namespace Expr

def ty : Expr → Ty
  | constant _ ty _ => ty
  | string _ _ _ => .charArray
  | ident symbol _ => symbol.ty
  | element array _ _ => array.ty.element?.getD .error
  | address array _ _ _ => if array.ty.isArray then array.ty else .error
  | call callee _ _ =>
      match callee.signature? with
      | some signature => signature.returns
      | none => .error
  | step _ _ ty _ => ty
  | not _ ty _ => ty
  | binary _ _ _ ty => ty
  | toInt _ => .int
  | toChar _ => .char

/-- The position at which an expression starts. -/
def start : Expr → Position
  | constant _ _ span => span.start
  | string _ _ span => span.start
  | ident _ span => span.start
  | element _ _ span => span.start
  | address _ _ _ span => span.start
  | call _ _ span => span.start
  | step _ _ _ span => span.start
  | not _ _ span => span.start
  | binary _ lhs _ _ => lhs.start
  | toInt operand => operand.start
  | toChar operand => operand.start

/-- The position at which an expression stops. -/
def stop : Expr → Position
  | constant _ _ span => span.stop
  | string _ _ span => span.stop
  | ident _ span => span.stop
  | element _ _ span => span.stop
  | address _ _ _ span => span.stop
  | call _ _ span => span.stop
  | step _ _ _ span => span.stop
  | not _ _ span => span.stop
  | binary _ _ rhs _ => rhs.stop
  | toInt operand => operand.stop
  | toChar operand => operand.stop

def span (expr : Expr) : Span := { start := expr.start, stop := expr.stop }

/-- Makes a `char` an `int`; leaves anything else as it is. -/
def widen (expr : Expr) : Expr := if expr.ty = .char then .toInt expr else expr

/-- Makes an `int` a `char`; leaves anything else as it is. -/
def narrow (expr : Expr) : Expr := if expr.ty = .int then .toChar expr else expr

end Expr

namespace Subscript

/-- The type of the element; `error` if the symbol is no array. -/
def ty (subscript : Subscript) : Ty := subscript.array.ty.element?.getD .error

/-- The expression that reads the element. -/
def read (subscript : Subscript) : Expr :=
  .element subscript.array subscript.index subscript.span

end Subscript

end SubsetC
