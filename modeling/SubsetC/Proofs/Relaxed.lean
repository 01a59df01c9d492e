import Mathlib.Tactic.Common
import SubsetC.Diagnostic.Journal
import SubsetC.Program

/-!
# Relaxed trees

A call that is checked narrows an `int` argument for a `char` parameter.  A relaxed
tree has such arguments as they were read, and is the same elsewhere: no node changes
its type or its place in the source.
-/

namespace SubsetC

namespace Expr

/-- An argument before it was narrowed. -/
def unnarrowed : Expr → Expr
  | toChar operand => operand
  | e => e

/-- Whether an expression is not narrowed. -/
def Unnarrowed (e : Expr) : Prop := e.unnarrowed = e

mutual

/-- The expression with the arguments of its calls as they were read. -/
def relaxed : Expr → Expr
  | constant value ty span => constant value ty span
  | string text id span => string text id span
  | ident symbol span => ident symbol span
  | element array index span => element array index.relaxed span
  | address array index elementSpan span => address array index.relaxed elementSpan span
  | call callee arguments span => call callee (relaxedArguments arguments) span
  | step operator operand ty span => step operator operand ty span
  | not operand ty span => not operand.relaxed ty span
  | binary operator lhs rhs ty => binary operator lhs.relaxed rhs.relaxed ty
  | toInt operand => toInt operand.relaxed
  | toChar operand => toChar operand.relaxed

def relaxedArguments : List Expr → List Expr
  | [] => []
  | toChar operand :: others => operand.relaxed :: relaxedArguments others
  | argument :: others => argument.relaxed :: relaxedArguments others

end

theorem relaxedArguments_cons (argument : Expr) (others : List Expr) :
    relaxedArguments (argument :: others) =
      argument.unnarrowed.relaxed :: relaxedArguments others := by
  cases argument <;> rfl

@[simp] theorem relaxed_ty (e : Expr) : e.relaxed.ty = e.ty := by
  cases e <;> rfl

theorem relaxed_start : ∀ e : Expr, e.relaxed.start = e.start
  | constant _ _ _ | string _ _ _ | ident _ _ | element _ _ _ | address _ _ _ _ | call _ _ _
  | step _ _ _ _ | not _ _ _ => rfl
  | binary _ lhs _ _ => relaxed_start lhs
  | toInt operand => relaxed_start operand
  | toChar operand => relaxed_start operand

theorem relaxed_stop : ∀ e : Expr, e.relaxed.stop = e.stop
  | constant _ _ _ | string _ _ _ | ident _ _ | element _ _ _ | address _ _ _ _ | call _ _ _
  | step _ _ _ _ | not _ _ _ => rfl
  | binary _ _ rhs _ => relaxed_stop rhs
  | toInt operand => relaxed_stop operand
  | toChar operand => relaxed_stop operand

@[simp] theorem relaxed_span (e : Expr) : e.relaxed.span = e.span := by
  simp only [span, relaxed_start, relaxed_stop]

theorem relaxed_widen (e : Expr) : e.widen.relaxed = e.relaxed.widen := by
  unfold widen
  rw [relaxed_ty]
  split
  · rfl
  · rfl

theorem relaxed_narrow (e : Expr) : e.narrow.relaxed = e.relaxed.narrow := by
  unfold narrow
  rw [relaxed_ty]
  split
  · rfl
  · rfl

theorem Unnarrowed.widen {e : Expr} (he : e.Unnarrowed) : e.widen.Unnarrowed := by
  unfold Expr.widen
  split
  · rfl
  · exact he

theorem Unnarrowed.unnarrowed_narrow {e : Expr} (he : e.Unnarrowed) : e.narrow.unnarrowed = e := by
  unfold Expr.narrow
  split
  · rfl
  · exact he

end Expr

def Subscript.relaxed (target : Subscript) : Subscript :=
  { target with index := target.index.relaxed }

def Declaration.relaxed (declaration : Declaration) : Declaration :=
  { declaration with initial? := declaration.initial?.map Expr.relaxed }

namespace Stmt

mutual

def relaxed : Stmt → Stmt
  | declare declaration => declare declaration.relaxed
  | assign target value span => assign target value.relaxed span
  | assignElement target value span => assignElement target.relaxed value.relaxed span
  | evaluate expr span => evaluate expr.relaxed span
  | ret value? span => ret (value?.map Expr.relaxed) span
  | conditional condition accepted none span =>
      conditional condition.relaxed accepted.relaxed none span
  | conditional condition accepted (some rejected) span =>
      conditional condition.relaxed accepted.relaxed (some rejected.relaxed) span
  | whileLoop condition body span => whileLoop condition.relaxed body.relaxed span
  | block body span => block (allRelaxed body) span
  | null span => null span

def allRelaxed : List Stmt → List Stmt
  | [] => []
  | stmt :: others => stmt.relaxed :: allRelaxed others

end

@[simp] theorem relaxed_span (stmt : Stmt) : stmt.relaxed.span = stmt.span := by
  cases stmt with
  | conditional condition accepted rejected? span => cases rejected? <;> rfl
  | _ => rfl

end Stmt

def Block.relaxed (block : Block) : Block := { block with body := Stmt.allRelaxed block.body }

def FunctionDef.relaxed (defined : FunctionDef) : FunctionDef :=
  { defined with body := defined.body.relaxed }

def External.relaxed : External → External
  | .global declaration => .global declaration.relaxed
  | .function defined => .function defined.relaxed

def Program.relaxed (program : Program) : Program :=
  { program with externals := program.externals.map External.relaxed }

end SubsetC
