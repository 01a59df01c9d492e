import SubsetC.Source.Position
import SubsetC.Operator
import SubsetC.Text.Quoted
import SubsetC.Ty.Basic

/-!
# Faults

A fault is a reason for which the text is not a program: it cannot be cut into
tokens, or its tokens do not follow the grammar.  A fault together with its
position is a failure, which unwinds to the nearest construct that can find its
place in the token stream again.
-/

namespace SubsetC

open Text

/-- What should have stood in the place of an unexpected token. -/
inductive Expectation where
  | token (kind : TokenKind)
  | typeSpecifier
  | declaredName
  | parameterName
  | statement
  | other (description : String)
deriving DecidableEq, Repr

/-- What is wrong with a construct that begins well. -/
inductive Malformation where
  | operandOfNot
  | operandOfStep (step : Step)
  | operandOfAddress
  | addressOfNonElement
  | emptySubscript
  | emptyParentheses
  | missingArgument
  | missingValue
  | missingCondition
  | missingExpression
  | arrayOf (element : Ty)
  | voidParameter (name : String)
  | voidVariable (name : String)
  | other (description : String)
deriving DecidableEq, Repr

inductive Fault where
  | unrecognised (character : String)
  | unexpected (token : String)
  | unexpectedFor (token : String) (expectation : Expectation)
  | badConstant (token : String)
  | operandMissing (operator : TokenKind)
  | malformed (malformation : Malformation)
  | endOfInput
deriving DecidableEq, Repr

def Expectation.message : Expectation → String
  | token kind => "expected `" ++ kind.lexeme ++ "`"
  | typeSpecifier => "expected a type specifier"
  | declaredName => "expected an identifier after the type specifier"
  | parameterName => "expected a parameter name"
  | statement => "expected a statement"
  | other description => description

def Malformation.message : Malformation → String
  | operandOfNot => "`!` must be followed by an expression"
  | operandOfStep step => "`" ++ step.symbol ++ "` must be followed by an identifier"
  | operandOfAddress => "`&` must be followed by an identifier"
  | addressOfNonElement => "`&` only applies to an array element"
  | emptySubscript => "not a valid expression inside brackets"
  | emptyParentheses => "not a valid expression inside parenthesis"
  | missingArgument => "expected an argument expression"
  | missingValue => "expected an expression after `=`"
  | missingCondition => "expected a condition"
  | missingExpression => "expected an expression"
  | arrayOf element => "cannot declare an array of `" ++ element.name ++ "`"
  | voidParameter name => "parameter `" ++ name ++ "` declared void"
  | voidVariable name => "variable `" ++ name ++ "` declared void"
  | other description => description

namespace Fault

/-- The name of the kind of fault, as reports show it. -/
def name : Fault → String
  | unrecognised _ => "UnrecognisedToken"
  | unexpected _ => "UnexpectedToken"
  | unexpectedFor _ _ => "UnexpectedTokenDetailed"
  | badConstant _ => "NumberParseError"
  | operandMissing _ => "OperandMissing"
  | malformed _ => "InvalidSyntax"
  | endOfInput => "UnexpectedEof"

def message : Fault → String
  | unrecognised character => "unrecognised token: " ++ quoteString character
  | unexpected token => "unexpected token: " ++ quoteString token
  | unexpectedFor token expectation =>
      "unexpected token (" ++ expectation.message ++ "): " ++ quoteString token
  | badConstant token => "error parsing constant: " ++ quoteString token
  | operandMissing operator => "missing operand for operator `" ++ operator.lexeme ++ "`"
  | malformed malformation => malformation.message
  | endOfInput => "unexpected end of file"

/-- Advice that a report adds below the excerpt. -/
def tip? : Fault → Option String
  | unrecognised _ => none
  | unexpected token =>
      some ("Unexpected token: `" ++ token ++ "`, did you miss a semicolon?")
  | unexpectedFor token expectation =>
      some ("Unexpected token: `" ++ token ++ "`, " ++ expectation.message)
  | badConstant token =>
      some ("Invalid constant: `" ++ token ++ "`, is it above the integer limit?")
  | operandMissing operator =>
      some ("Operator `" ++ operator.lexeme ++ "` must be followed by an operand")
  | malformed _ => none
  | endOfInput =>
      some "Reached the end of the file while recovering from an earlier error"

end Fault

/-- A fault where it was met. -/
structure Failure where
  fault : Fault
  position : Position
deriving DecidableEq, Repr

namespace Failure

def describe (failure : Failure) : String :=
  failure.position.describe ++ ": " ++ failure.fault.message

/-- Whether the input ended, after which there is nothing to recover at. -/
def isEndOfInput (failure : Failure) : Bool := failure.fault = .endOfInput

end Failure

end SubsetC
