import SubsetC.Ty.Basic

/-!
# Misuses

A misuse is a breach of the rules for names and types in a text that follows the
grammar.  It never stops a parse: the construct is kept, with a placeholder
where one is needed, so that one run reports many of them.
-/

namespace SubsetC

inductive Misuse where
  | invalidOperands (lhs rhs : Ty)
  | invalidOperand (operand : Ty)
  | undeclared (name : String)
  | notAnArray (name : String)
  | notAFunction (name : String)
  | tooManyArguments (function : String) (expected : Nat)
  | tooFewArguments (function : String) (expected : Nat)
  | argumentType (expected : Ty)
  | formatRequired
  | formatArgumentsRequired
  | redeclaration (name : String)
  | assignmentType (target value : Ty)
  | returnType (expected received : Ty)
  | subscriptType (received : Ty)
  | conditionType (received : Ty)
deriving DecidableEq, Repr

namespace Misuse

/-- The name of the kind of misuse, as reports show it. -/
def name : Misuse → String
  | invalidOperands _ _ => "InvalidOperands"
  | invalidOperand _ => "InvalidOperand"
  | undeclared _ => "UndeclaredIdentifier"
  | notAnArray _ => "NotAnArray"
  | notAFunction _ => "NotAFunction"
  | tooManyArguments _ _ => "TooManyArguments"
  | tooFewArguments _ _ => "TooFewArguments"
  | argumentType _ => "ArgumentType"
  | formatRequired => "FormatStringRequired"
  | formatArgumentsRequired => "FormatArgumentsRequired"
  | redeclaration _ => "Redeclaration"
  | assignmentType _ _ => "AssignmentType"
  | returnType _ _ => "ReturnType"
  | subscriptType _ => "SubscriptType"
  | conditionType _ => "ConditionType"

def message : Misuse → String
  | invalidOperands lhs rhs =>
      "cannot perform operation between type `" ++ lhs.name ++ "` and `" ++ rhs.name ++ "`"
  | invalidOperand operand => "cannot perform operation on type `" ++ operand.name ++ "`"
  | undeclared name => "use of undeclared identifier '" ++ name ++ "'"
  | notAnArray name => "'" ++ name ++ "' is not an array"
  | notAFunction name => "'" ++ name ++ "' is not a function"
  | tooManyArguments function expected =>
      "function " ++ function ++ " takes only " ++ Nat.repr expected ++ " arguments"
  | tooFewArguments function expected =>
      "function " ++ function ++ " requires " ++ Nat.repr expected ++ " arguments"
  | argumentType expected => "expected expression of type `" ++ expected.name ++ "`"
  | formatRequired => "the first parameter to printf must be a char[]"
  | formatArgumentsRequired => "printf requires a minimum of one argument"
  | redeclaration name => "invalid redeclaration of identifier '" ++ name ++ "'"
  | assignmentType target value =>
      "cannot assign an expression of type `" ++ value.name ++ "` to `" ++ target.name ++ "`"
  | returnType expected received =>
      "expected a return value of type `" ++ expected.name ++ "`, received `" ++
        received.name ++ "`"
  | subscriptType received =>
      "array subscript must be an integer, received `" ++ received.name ++ "`"
  | conditionType received =>
      "condition must be an integer expression, received `" ++ received.name ++ "`"

end Misuse

end SubsetC
