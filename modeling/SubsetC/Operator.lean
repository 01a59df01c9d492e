import SubsetC.Token.Kind

/-!
# Operators

The binary operators with their precedence levels, and the two operators that
step a variable.  Every binary operator is written with a token of its own, so
the table from tokens to operators is all that a parser needs.
-/

namespace SubsetC

/-- The levels of the binary operators, the loosest first. -/
inductive Precedence where
  | logicalOr
  | logicalAnd
  | relational
  | additive
  | multiplicative
deriving DecidableEq, Inhabited, Repr

inductive BinaryOp where
  | or
  | and
  | equal
  | notEqual
  | less
  | greater
  | add
  | subtract
  | multiply
  | divide
  | modulo
deriving DecidableEq, Inhabited, Repr

namespace BinaryOp

def symbol : BinaryOp → String
  | or => "||"
  | and => "&&"
  | equal => "=="
  | notEqual => "!="
  | less => "<"
  | greater => ">"
  | add => "+"
  | subtract => "-"
  | multiply => "*"
  | divide => "/"
  | modulo => "%"

def precedence : BinaryOp → Precedence
  | or => .logicalOr
  | and => .logicalAnd
  | equal | notEqual | less | greater => .relational
  | add | subtract => .additive
  | multiply | divide | modulo => .multiplicative

/-- The operator that a token is written for. -/
def ofToken? : TokenKind → Option BinaryOp
  | .or => some or
  | .and => some and
  | .equals => some equal
  | .notEquals => some notEqual
  | .less => some less
  | .greater => some greater
  | .plus => some add
  | .dash => some subtract
  | .star => some multiply
  | .slash => some divide
  | .percent => some modulo
  | _ => none

end BinaryOp

/-- The operator that a token is written for, if it belongs to this level. -/
def Precedence.operator? (level : Precedence) (kind : TokenKind) : Option BinaryOp :=
  (BinaryOp.ofToken? kind).filter fun operator => operator.precedence = level

/-- The operators that change a variable by one, written before it. -/
inductive Step where
  | increment
  | decrement
deriving DecidableEq, Inhabited, Repr

namespace Step

def symbol : Step → String
  | increment => "++"
  | decrement => "--"

end Step

end SubsetC
