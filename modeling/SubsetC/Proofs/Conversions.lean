import SubsetC.Proofs.Typing
import SubsetC.Ty.Rules

/-!
# Conversions

How the types of the nodes in a finished tree hang together, whether or not anything
was reported: every operator node has the type that the standard rules give it, and
every expression that reads a `char` is widened where it stands.  What computes with a
`char` therefore computes with a constant.
-/

namespace SubsetC

namespace Expr

/-! ## Nodes -/

/-- Whether a node has the type that the standard rules give it, and a conversion an
operand that it converts. -/
def Ruled : Expr → Prop
  | step _ operand ty _ => ty = if operand.ty.isScalar then operand.ty else .error
  | not operand ty _ => ty = if operand.ty.isScalar then .int else .error
  | binary _ lhs rhs ty => ty = if lhs.ty.isScalar && rhs.ty.isScalar then .int else .error
  | toInt operand => operand.ty = .char
  | toChar operand => operand.ty = .int
  | _ => True

/-- Whether an expression is a name, a subscript, a call or a step. -/
def isReading : Expr → Bool
  | ident _ _ | element _ _ _ | call _ _ _ | step _ _ _ _ => true
  | _ => false

def isConstant : Expr → Bool
  | constant _ _ _ => true
  | _ => false

def isToInt : Expr → Bool
  | toInt _ => true
  | _ => false

/-- The operands and the index that a node computes with. -/
def operands : Expr → List Expr
  | element _ index _ => [index]
  | address _ index _ _ => [index]
  | not operand _ _ => [operand]
  | binary _ lhs rhs _ => [lhs, rhs]
  | _ => []

/-- A reading of a `char` that is not widened. -/
def IsBare (e : Expr) : Prop := e.isReading = true ∧ e.ty = .char

/-- Whether an expression is a `char` only as a constant. -/
def CharIsConstant (e : Expr) : Prop := e.ty = .char → e.isConstant = true

structure NodeConverted (node : Expr) : Prop where
  ruled : node.Ruled
  operands : ∀ operand ∈ node.operands, operand.CharIsConstant
  children : node.isToInt = false → ∀ child ∈ node.children, ¬ child.IsBare

/-- An expression of which every node is converted and which is not bare itself. -/
structure Converted (e : Expr) : Prop where
  nodes : e.Everywhere NodeConverted
  bare : ¬ e.IsBare

/-- A converted expression for a place that computes with it. -/
structure ConvertedScalar (e : Expr) : Prop extends Converted e where
  constant : e.CharIsConstant

/-! ## Building nodes -/

theorem Converted.of_not_reading {e : Expr} (hreading : e.isReading = false)
    (hnodes : e.Everywhere NodeConverted) : e.Converted := by
  refine ⟨hnodes, fun hbare => ?_⟩
  rw [hbare.1] at hreading
  contradiction

theorem ConvertedScalar.of_ty_ne {e : Expr} (hty : e.ty ≠ .char)
    (hnodes : e.Everywhere NodeConverted) : e.ConvertedScalar :=
  ⟨⟨hnodes, fun hbare => hty hbare.2⟩, fun hchar => (hty hchar).elim⟩

theorem converted_leaf {e : Expr} (hchildren : e.children = []) (hoperands : e.operands = [])
    (hruled : e.Ruled) : e.Everywhere NodeConverted := by
  refine .leaf hchildren ⟨hruled, ?_, fun _ => ?_⟩
  · rw [hoperands]
    exact List.forall_mem_nil _
  · rw [hchildren]
    exact List.forall_mem_nil _

/-- A node over parts that it may compute with. -/
theorem converted_node {e : Expr} (hruled : e.Ruled) (hoperands : e.operands ⊆ e.children)
    (hchildren : ∀ child ∈ e.children, child.ConvertedScalar) : e.Everywhere NodeConverted := by
  refine .intro ⟨hruled, fun operand hoperand => ?_, fun _ child hchild => ?_⟩ fun child hchild => ?_
  · exact (hchildren operand (hoperands hoperand)).constant
  · exact (hchildren child hchild).bare
  · exact (hchildren child hchild).nodes

/-- The widening of an expression is fit to compute with, whatever it reads. -/
theorem widen_converted {e : Expr} (hnodes : e.Everywhere NodeConverted) :
    e.widen.ConvertedScalar := by
  unfold Expr.widen
  split
  · rename_i hty
    have hnode : (Expr.toInt e).NodeConverted :=
      ⟨hty, List.forall_mem_nil _, fun htoInt => by contradiction⟩
    exact .of_ty_ne (by simp [Expr.ty]) (.single rfl hnode hnodes)
  · rename_i hty
    exact .of_ty_ne hty hnodes

theorem narrow_converted {e : Expr} (he : e.Converted) : e.narrow.Converted := by
  unfold Expr.narrow
  split
  · rename_i hty
    have hnode : (Expr.toChar e).NodeConverted := by
      refine ⟨hty, List.forall_mem_nil _, fun _ child hchild => ?_⟩
      rw [List.mem_singleton.1 hchild]
      exact he.bare
    exact .of_not_reading rfl (.single rfl hnode he.nodes)
  · exact he

end Expr

/-! ## Statements and programs -/

def Subscript.Converted (target : Subscript) : Prop := target.index.ConvertedScalar

def Declaration.Converted (declaration : Declaration) : Prop :=
  ∀ value, declaration.initial? = some value → value.Converted

namespace Stmt

mutual

/-- A statement with every expression converted, and conditions and indices that are a
`char` only as constants. -/
def Converted : Stmt → Prop
  | declare declaration => declaration.Converted
  | assign _ value _ => value.Converted
  | assignElement target value _ => target.Converted ∧ value.Converted
  | evaluate expr _ => expr.Converted
  | ret (some value) _ => value.Converted
  | ret none _ => True
  | conditional condition accepted none _ => condition.ConvertedScalar ∧ accepted.Converted
  | conditional condition accepted (some rejected) _ =>
      condition.ConvertedScalar ∧ accepted.Converted ∧ rejected.Converted
  | whileLoop condition body _ => condition.ConvertedScalar ∧ body.Converted
  | block body _ => AllConverted body
  | null _ => True

def AllConverted : List Stmt → Prop
  | [] => True
  | stmt :: others => stmt.Converted ∧ AllConverted others

end

end Stmt

def External.Converted : External → Prop
  | .global declaration => declaration.Converted
  | .function defined => Stmt.AllConverted defined.body.body

def Program.Converted (program : Program) : Prop :=
  ∀ external ∈ program.externals, external.Converted

end SubsetC
