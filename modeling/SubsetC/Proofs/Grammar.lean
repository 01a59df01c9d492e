import Mathlib.Tactic.Common
import SubsetC.Expr.Constant
import SubsetC.Operator
import SubsetC.Token.Basic

/-!
# The grammar

Which lists of tokens the grammar of the language derives.  An expression is
derived together with its surface tree, which records how it is written: names
are texts, nothing is typed, and parentheses leave no trace.

```text
Program  --> (Decl | Function)* EOF
Function --> (int | char | void) id ( Params ) CompoundStmt
Params   --> void | ε | Param (, Param)*
Param    --> (int | char) id [ '[' ']' ]
Decl     --> (int | char) id [ '[' constant? ']' ] [ = Expr ] ;
Stmt     --> Decl | CompoundStmt | if ( Expr ) Stmt [else Stmt] | while ( Expr ) Stmt
           | return [Expr] ; | ; | id = Expr ; | id [ Expr ] = Expr ; | Expr ;
Expr     --> five binary levels over Value
Value    --> ! Factor | Factor
Factor   --> id | id [ Expr ] | id ( Args ) | string | constant
           | ( Expr ) | ++ id | -- id | & id [ Expr ]
```
-/

namespace SubsetC

/-! ## Expressions -/

/-- An expression as it is written. -/
inductive Surface where
  | constant (value : Constant)
  | string (text : String)
  | name (name : String)
  | element (array : String) (index : Surface)
  | address (array : String) (index : Surface)
  | call (callee : String) (arguments : List Surface)
  | step (operator : Step) (operand : String)
  | not (operand : Surface)
  | binary (operator : BinaryOp) (lhs rhs : Surface)

/-- The token that a step is written with. -/
def Step.token : Step → TokenKind
  | increment => .plusPlus
  | decrement => .minusMinus

/-- A token that is at no place in particular. -/
def Token.unplaced (kind : TokenKind) (text : String) : Token :=
  { kind := kind, text := text, span := .empty (.first "") }

/-- The nonterminals of the grammar of expressions: the binary levels, and below them
values and factors. -/
inductive Tier where
  | chain (level : Precedence)
  | value
  | factor
deriving DecidableEq, Repr

/-- The nonterminal of the operands of a level. -/
def Precedence.operand : Precedence → Tier
  | logicalOr => .chain .logicalAnd
  | logicalAnd => .chain .relational
  | relational => .chain .additive
  | additive => .chain .multiplicative
  | multiplicative => .value

/-- Lists of tokens with a comma between each and the next. -/
inductive Separated : List (List Token) → List Token → Prop
  | none : Separated [] []
  | one {ts : List Token} : Separated [ts] ts
  | more {first second : List Token} {others : List (List Token)} {rest : List Token}
      {comma : Token} : comma.kind = .comma → Separated (second :: others) rest →
      Separated (first :: second :: others) (first ++ comma :: rest)

/-- The tokens and the surface tree that a nonterminal derives. -/
inductive Written : Tier → List Token → Surface → Prop
  | operand {level : Precedence} {ts : List Token} {e : Surface} :
      Written level.operand ts e → Written (.chain level) ts e
  | binary {level : Precedence} {operator : BinaryOp} {lhs rhs : List Token} {sign : Token}
      {left right : Surface} : level.operator? sign.kind = some operator →
      Written (.chain level) lhs left → Written level.operand rhs right →
      Written (.chain level) (lhs ++ sign :: rhs) (.binary operator left right)
  | not {sign : Token} {ts : List Token} {e : Surface} : sign.kind = .not →
      Written .factor ts e → Written .value (sign :: ts) (.not e)
  | factor {ts : List Token} {e : Surface} : Written .factor ts e → Written .value ts e
  | name {name : Token} : name.kind = .identifier → Written .factor [name] (.name name.text)
  | element {name opening closing : Token} {ts : List Token} {index : Surface} :
      name.kind = .identifier → opening.kind = .openBracket → closing.kind = .closeBracket →
      Written (.chain .logicalOr) ts index →
      Written .factor (name :: opening :: (ts ++ [closing])) (.element name.text index)
  | call {name opening closing : Token} {arguments : List (List Token × Surface)}
      {ts : List Token} : name.kind = .identifier → opening.kind = .openParen →
      closing.kind = .closeParen →
      (∀ argument ∈ arguments, Written (.chain .logicalOr) argument.1 argument.2) →
      Separated (arguments.map Prod.fst) ts →
      Written .factor (name :: opening :: (ts ++ [closing]))
        (.call name.text (arguments.map Prod.snd))
  | string {token : Token} : token.kind = .string → Written .factor [token] (.string token.text)
  | constant {token : Token} {value : Constant} : token.kind = .constant →
      Constant.ofText token.text = .ok value → Written .factor [token] (.constant value)
  | parenthesized {opening closing : Token} {ts : List Token} {e : Surface} :
      opening.kind = .openParen → closing.kind = .closeParen →
      Written (.chain .logicalOr) ts e → Written .factor (opening :: (ts ++ [closing])) e
  | step {operator : Step} {sign name : Token} : sign.kind = operator.token →
      name.kind = .identifier → Written .factor [sign, name] (.step operator name.text)
  | address {sign name opening closing : Token} {ts : List Token} {index : Surface} :
      sign.kind = .ampersand → name.kind = .identifier → opening.kind = .openBracket →
      closing.kind = .closeBracket → Written (.chain .logicalOr) ts index →
      Written .factor (sign :: name :: opening :: (ts ++ [closing]))
        (.address name.text index)

def IsExpr (ts : List Token) : Prop := ∃ e, Written (.chain .logicalOr) ts e

/-! ## Declarations -/

/-- `[ '[' constant? ']' ]` -/
inductive IsBounds : List Token → Prop
  | none : IsBounds []
  | unsized {opening closing : Token} : opening.kind = .openBracket →
      closing.kind = .closeBracket → IsBounds [opening, closing]
  | sized {opening size closing : Token} : opening.kind = .openBracket →
      size.kind = .constant → (arraySize? size.text).isSome = true →
      closing.kind = .closeBracket → IsBounds [opening, size, closing]

/-- `[ = Expr ]` -/
inductive IsInitializer : List Token → Prop
  | none : IsInitializer []
  | value {sign : Token} {ts : List Token} : sign.kind = .assignment → IsExpr ts →
      IsInitializer (sign :: ts)

/-- `int` or `char`, the types that a variable may have. -/
def IsVariableWord (kind : TokenKind) : Prop := kind = .intWord ∨ kind = .charWord

inductive IsDecl : List Token → Prop
  | intro {word name semicolon : Token} {bounds initializer : List Token} :
      IsVariableWord word.kind → name.kind = .identifier → IsBounds bounds →
      IsInitializer initializer → semicolon.kind = .semicolon →
      IsDecl (word :: name :: (bounds ++ (initializer ++ [semicolon])))

inductive IsParam : List Token → Prop
  | scalar {word name : Token} : IsVariableWord word.kind → name.kind = .identifier →
      IsParam [word, name]
  | array {word name opening closing : Token} : IsVariableWord word.kind →
      name.kind = .identifier → opening.kind = .openBracket → closing.kind = .closeBracket →
      IsParam [word, name, opening, closing]

inductive IsParams : List Token → Prop
  | none : IsParams []
  | void {word : Token} : word.kind = .voidWord → IsParams [word]
  | some {parts : List (List Token)} {ts : List Token} : parts ≠ [] →
      (∀ part ∈ parts, IsParam part) → Separated parts ts → IsParams ts

/-! ## Statements and programs -/

/-- The statements with no other statement inside. -/
inductive IsSimple : List Token → Prop
  | decl {ts : List Token} : IsDecl ts → IsSimple ts
  | ret {word semicolon : Token} : word.kind = .returnWord → semicolon.kind = .semicolon →
      IsSimple [word, semicolon]
  | retValue {word semicolon : Token} {ts : List Token} : word.kind = .returnWord →
      semicolon.kind = .semicolon → IsExpr ts → IsSimple (word :: (ts ++ [semicolon]))
  | null {semicolon : Token} : semicolon.kind = .semicolon → IsSimple [semicolon]
  | assign {name sign semicolon : Token} {ts : List Token} : name.kind = .identifier →
      sign.kind = .assignment → semicolon.kind = .semicolon → IsExpr ts →
      IsSimple (name :: sign :: (ts ++ [semicolon]))
  | assignElement {name opening closing sign semicolon : Token} {index ts : List Token} :
      name.kind = .identifier → opening.kind = .openBracket → closing.kind = .closeBracket →
      sign.kind = .assignment → semicolon.kind = .semicolon → IsExpr index → IsExpr ts →
      IsSimple (name :: opening :: (index ++ closing :: sign :: (ts ++ [semicolon])))
  | evaluate {semicolon : Token} {ts : List Token} : semicolon.kind = .semicolon →
      IsExpr ts → IsSimple (ts ++ [semicolon])

inductive IsStmt : List Token → Prop
  | simple {ts : List Token} : IsSimple ts → IsStmt ts
  | block {opening closing : Token} {parts : List (List Token)} :
      opening.kind = .openCurly → closing.kind = .closeCurly →
      (∀ part ∈ parts, IsStmt part) → IsStmt (opening :: (parts.flatten ++ [closing]))
  | conditional {word opening closing : Token} {test accepted : List Token} :
      word.kind = .ifWord → opening.kind = .openParen → closing.kind = .closeParen →
      IsExpr test → IsStmt accepted →
      IsStmt (word :: opening :: (test ++ closing :: accepted))
  | alternative {word opening closing otherwise : Token} {test accepted rejected : List Token} :
      word.kind = .ifWord → opening.kind = .openParen → closing.kind = .closeParen →
      otherwise.kind = .elseWord → IsExpr test → IsStmt accepted → IsStmt rejected →
      IsStmt (word :: opening :: (test ++ closing :: (accepted ++ otherwise :: rejected)))
  | whileLoop {word opening closing : Token} {test body : List Token} :
      word.kind = .whileWord → opening.kind = .openParen → closing.kind = .closeParen →
      IsExpr test → IsStmt body → IsStmt (word :: opening :: (test ++ closing :: body))

inductive IsFunction : List Token → Prop
  | intro {word name opening closing openCurly closeCurly : Token} {params : List Token}
      {body : List (List Token)} : (Ty.ofSpecifier? word.kind).isSome = true →
      name.kind = .identifier → opening.kind = .openParen → IsParams params →
      closing.kind = .closeParen → openCurly.kind = .openCurly →
      (∀ part ∈ body, IsStmt part) → closeCurly.kind = .closeCurly →
      IsFunction
        (word :: name :: opening ::
          (params ++ closing :: openCurly :: (body.flatten ++ [closeCurly])))

inductive IsProgram : List Token → Prop
  | intro {parts : List (List Token)} {last : Token} :
      (∀ part ∈ parts, IsDecl part ∨ IsFunction part) → last.kind = .eof →
      IsProgram (parts.flatten ++ [last])

end SubsetC
