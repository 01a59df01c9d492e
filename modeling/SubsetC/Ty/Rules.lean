import SubsetC.Operator
import SubsetC.Ty.Basic

/-!
# Type rules

Which operand types an operator takes, and the type it then has, is a policy
that a parser is given.  The rules are asked only about operands that have not
failed yet: an operand of type `error` makes the whole node `error` and counts
as accepted, since its failure was reported where it arose.
-/

namespace SubsetC

structure TypeRules where
  binary : BinaryOp → Ty → Ty → Option Ty
  not : Ty → Option Ty
  step : Ty → Option Ty

/-- The type given to an operator node, and whether its operands were accepted. -/
structure Verdict where
  ty : Ty
  accepted : Bool
deriving DecidableEq, Repr

/-- The verdict for the result that the rules give. -/
def Verdict.ofResult : Option Ty → Verdict
  | some ty => { ty := ty, accepted := true }
  | none => { ty := .error, accepted := false }

/-- The verdict over an operand that failed before. -/
def Verdict.failedBefore : Verdict := { ty := .error, accepted := true }

namespace TypeRules

/-- Every operator takes scalars; all yield `int` but the steps, which yield the
type of their variable. -/
def standard : TypeRules where
  binary _ lhs rhs := if lhs.isScalar && rhs.isScalar then some .int else none
  not operand := if operand.isScalar then some .int else none
  step operand := if operand.isScalar then some operand else none

def judgeBinary (rules : TypeRules) (operator : BinaryOp) (lhs rhs : Ty) : Verdict :=
  if lhs = .error ∨ rhs = .error then .failedBefore
  else .ofResult (rules.binary operator lhs rhs)

def judgeNot (rules : TypeRules) (operand : Ty) : Verdict :=
  if operand = .error then .failedBefore else .ofResult (rules.not operand)

def judgeStep (rules : TypeRules) (operand : Ty) : Verdict :=
  if operand = .error then .failedBefore else .ofResult (rules.step operand)

end TypeRules

end SubsetC
