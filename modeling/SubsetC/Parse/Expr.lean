import SubsetC.Parse.Factor

/-!
# Expressions

```text
Expr     --> AndTerm Expr'        Expr'    --> || AndTerm Expr'   | ε
AndTerm  --> RelExpr AndTerm'     AndTerm' --> && RelExpr AndTerm' | ε
RelExpr  --> NumExpr RelExpr'     RelExpr' --> (== | != | < | >) NumExpr RelExpr' | ε
NumExpr  --> Term NumExpr'        NumExpr' --> (+ | -) Term NumExpr' | ε
Term     --> Value Term'          Term'    --> (* | / | %) Value Term' | ε
Value    --> ! Factor | Factor
```

Each level reads one operand and then as many operators with their right
operands as follow.  The node built so far is the left operand of the next, so
chains of one level lean to the left.  An operand that does not match is no
expression if it is the first, and a failure after an operator.

Every whole expression inside another begins after a token of the outer one, so
the number of tokens ahead bounds the nesting; `expr` takes it as its budget.
-/

namespace SubsetC.Parse

/-- A rule for expressions.  It may be handed the beginning of the first operand. -/
abbrev Rule := Option Handoff → Parse (Option Expr)

/-- `! Factor` -/
def negated (whole : Parse (Option Expr)) : Parse Expr := do
  let token ← advance
  let start ← position
  let operand ← orFail (factor whole none)
    { fault := .malformed .operandOfNot, position := start }
  let verdict := (← read).rules.judgeNot operand.ty
  reportUnless verdict.accepted (.invalidOperand operand.ty) token.span.start
  return .not operand verdict.ty (token.span.through operand.span)

/-- Value -/
def value (whole : Parse (Option Expr)) : Rule
  | some handoff => factor whole (some handoff)
  | none => do
      if (← kind) = .not then some <$> negated whole else factor whole none

/-- The node of a binary operator that stands at a position. -/
def joined (operator : BinaryOp) (lhs rhs : Expr) (position : Position) : Parse Expr := do
  let verdict := (← read).rules.judgeBinary operator lhs.ty rhs.ty
  let node := Expr.binary operator lhs rhs verdict.ty
  reportUnless verdict.accepted (.invalidOperands lhs.ty rhs.ty) position
  note (.built node)
  return node

/-- The operators of a level that follow an operand, with their right operands. -/
def operatorsAfter (level : Precedence) (operand : Parse (Option Expr)) :
    Nat → Expr → Parse Expr
  | 0, lhs => return lhs
  | budget + 1, lhs => do
      match level.operator? (← kind) with
      | none => return lhs
      | some operator =>
          let token ← advance
          let rhs ← orFail operand
            { fault := .operandMissing token.kind, position := token.span.start }
          let node ← joined operator lhs rhs token.span.start
          operatorsAfter level operand budget node

/-- A chain of operators of one level.  Every operator is a token, so there are no
more of them than tokens ahead. -/
def chain (level : Precedence) (operand : Rule) : Rule := fun handoff => do
  match ← operand handoff with
  | none => return none
  | some lhs => some <$> operatorsAfter level (operand none) (← remaining) lhs

/-- Term -/
def term (whole : Parse (Option Expr)) : Rule := chain .multiplicative (value whole)

/-- NumExpr -/
def numExpr (whole : Parse (Option Expr)) : Rule := chain .additive (term whole)

/-- RelExpr -/
def relExpr (whole : Parse (Option Expr)) : Rule := chain .relational (numExpr whole)

/-- AndTerm -/
def andTerm (whole : Parse (Option Expr)) : Rule := chain .logicalAnd (relExpr whole)

/-- Expr, with the parse of the whole expressions inside it. -/
def orExpr (whole : Parse (Option Expr)) : Rule := chain .logicalOr (andTerm whole)

/-- An expression that nests no deeper than the budget. -/
def exprWithin : Nat → Rule
  | 0 => fun _ => do failAt .endOfInput (← position)
  | budget + 1 => orExpr (exprWithin budget none)

/-- Runs a rule with the parse of whole expressions that the tokens ahead allow. -/
def withExpr {α : Type} (rule : Parse (Option Expr) → Parse α) : Parse α := do
  rule (exprWithin ((← remaining) + 1) none)

/-- An expression, of which the first operand may already have been begun. -/
def exprAfter (handoff : Option Handoff) : Parse (Option Expr) :=
  withExpr fun whole => orExpr whole handoff

/-- An expression. -/
def expr : Parse (Option Expr) := exprAfter none

/-- An expression that has to be there. -/
def requireExpr (malformation : Malformation) : Parse Expr := do
  orFail expr { fault := .malformed malformation, position := ← position }

end SubsetC.Parse
