import Mathlib.Tactic.Common
import SubsetC.Program

/-!
# Well-typed programs

What it means for a finished tree that its types fit: no node is of type `error`
or holds a dummy, and every operand, index, argument, condition, assigned value
and returned value has a type that its place takes.
-/

namespace SubsetC

/-! ## Expressions -/

namespace Expr

/-- The expressions directly inside an expression. -/
def children : Expr → List Expr
  | constant _ _ _ => []
  | string _ _ _ => []
  | ident _ _ => []
  | element _ index _ => [index]
  | address _ index _ _ => [index]
  | call _ arguments _ => arguments
  | step _ _ _ _ => []
  | not operand _ _ => [operand]
  | binary _ lhs rhs _ => [lhs, rhs]
  | toInt operand => [operand]
  | toChar operand => [operand]

/-- The symbol that a node itself holds, if any. -/
def symbol? : Expr → Option Symbol
  | ident symbol _ => some symbol
  | element array _ _ => some array
  | address array _ _ _ => some array
  | call callee _ _ => some callee
  | step _ operand _ _ => some operand
  | _ => none

/-- Whether a property holds at every node of an expression. -/
inductive Everywhere (P : Expr → Prop) : Expr → Prop
  | intro {e : Expr} : P e → (∀ child ∈ e.children, Everywhere P child) → Everywhere P e

theorem Everywhere.here {P : Expr → Prop} {e : Expr} (he : e.Everywhere P) : P e := by
  cases he with
  | intro hhere _ => exact hhere

theorem Everywhere.leaf {P : Expr → Prop} {e : Expr} (hchildren : e.children = [])
    (hhere : P e) : e.Everywhere P := by
  refine .intro hhere ?_
  rw [hchildren]
  exact List.forall_mem_nil _

theorem Everywhere.single {P : Expr → Prop} {e child : Expr} (hchildren : e.children = [child])
    (hhere : P e) (hchild : child.Everywhere P) : e.Everywhere P := by
  refine .intro hhere ?_
  rw [hchildren, List.forall_mem_singleton]
  exact hchild

theorem Everywhere.mono {P Q : Expr → Prop} {e : Expr} (himplies : ∀ node, P node → Q node)
    (he : e.Everywhere P) : e.Everywhere Q := by
  induction he with
  | intro hhere _ ih => exact .intro (himplies _ hhere) ih

/-- Whether an argument may stand for a parameter: it has the parameter's type, or is
a `char` for an `int`. -/
def ArgumentFits (parameter : Ty) (argument : Expr) : Prop :=
  argument.ty = parameter ∨ parameter = .int ∧ argument.ty = .char

/-- Whether the parts of a node have types that the node takes. -/
def PartsFit : Expr → Prop
  | constant _ ty _ => ty.isScalar = true
  | string _ _ _ => True
  | ident _ _ => True
  | element array index _ => array.ty.isArray = true ∧ index.ty.isScalar = true
  | address array index _ _ => array.ty.isArray = true ∧ index.ty.isScalar = true
  | call callee arguments _ =>
      ∃ name signature, callee = .function name signature ∧
        (signature.variadic = false → List.Forall₂ ArgumentFits signature.params arguments) ∧
        (name = Symbol.printfName →
          ∃ format others, arguments = format :: others ∧ format.ty = .charArray)
  | step _ operand ty _ => ∃ name, operand = .variable name ty ∧ ty.isScalar = true
  | not operand ty _ => operand.ty.isScalar = true ∧ ty = .int
  | binary _ lhs rhs ty => lhs.ty.isScalar = true ∧ rhs.ty.isScalar = true ∧ ty = .int
  | toInt operand => operand.ty = .char
  | toChar operand => operand.ty = .int

/-- A node that is not of type `error`, holds no dummy, and has parts that fit. -/
structure NodeTyped (node : Expr) : Prop where
  ty : node.ty ≠ .error
  symbol : ∀ symbol, node.symbol? = some symbol → symbol.isDummy = false
  parts : node.PartsFit

abbrev Typed (e : Expr) : Prop := e.Everywhere NodeTyped

end Expr

/-! ## Statements and programs -/

/-- A value with every node typed and of exactly the type that its place has. -/
def Expr.TypedAs (value : Expr) (ty : Ty) : Prop := value.ty = ty ∧ value.Typed

/-- A condition or index: an `int` or a `char`. -/
def Expr.TypedScalar (e : Expr) : Prop := e.ty.isScalar = true ∧ e.Typed

def Declaration.Typed (declaration : Declaration) : Prop :=
  declaration.symbol.isDummy = false ∧
    ∀ value, declaration.initial? = some value → value.TypedAs declaration.symbol.ty

namespace Stmt

mutual

/-- A statement that fits in a function with the given return type. -/
def Typed (returns : Ty) : Stmt → Prop
  | declare declaration => declaration.Typed
  | assign target value _ => target.isDummy = false ∧ value.TypedAs target.ty
  | assignElement target value _ =>
      target.array.isDummy = false ∧ target.array.ty.isArray = true ∧
        target.index.TypedScalar ∧ value.TypedAs target.ty
  | evaluate expr _ => expr.Typed
  | ret (some value) _ => value.TypedAs returns
  | ret none _ => returns = .void
  | conditional condition accepted none _ => condition.TypedScalar ∧ accepted.Typed returns
  | conditional condition accepted (some rejected) _ =>
      condition.TypedScalar ∧ accepted.Typed returns ∧ rejected.Typed returns
  | whileLoop condition body _ => condition.TypedScalar ∧ body.Typed returns
  | block body _ => AllTyped returns body
  | null _ => True

def AllTyped (returns : Ty) : List Stmt → Prop
  | [] => True
  | stmt :: others => stmt.Typed returns ∧ AllTyped returns others

end

end Stmt

def FunctionDef.Typed (function : FunctionDef) : Prop :=
  (∀ param ∈ function.params, param.isDummy = false) ∧
    ∃ name signature, function.symbol = .function name signature ∧
      Stmt.AllTyped signature.returns function.body.body

def External.Typed : External → Prop
  | .global declaration => declaration.Typed
  | .function defined => defined.Typed

def Program.Typed (program : Program) : Prop :=
  ∀ external ∈ program.externals, external.Typed

end SubsetC
