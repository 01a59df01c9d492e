import SubsetC.Parse.Expr
import SubsetC.Stmt.Basic

/-!
# Declarations

```text
TypeSpec --> int | char | void
Decl     --> TypeSpec id [ '[' constant? ']' ] [ = Expr ] ;
Params   --> void | ε | Param (, Param)*
Param    --> TypeSpec id [ '[' ']' ]
```

A name is declared before its initial value is read, so the value may use it.  A
name that is already declared in the scope keeps its first meaning there.
-/

namespace SubsetC.Parse

/-- A token of a kind that the grammar demands in a given role. -/
def expectFor (expected : TokenKind) (expectation : Expectation) : Parse Token := do
  let found ← current
  expectOr expected
    { fault := .unexpectedFor found.describe expectation, position := found.span.start }

/-- TypeSpec -/
def typeSpecifier : Parse Ty := do
  let token ← current
  match Ty.ofSpecifier? token.kind with
  | some ty =>
      let _ ← advance
      return ty
  | none => failAt (.unexpectedFor token.describe .typeSpecifier) token.span.start

/-- The type of an array with the given elements. -/
def arrayType (element : Ty) (position : Position) : Parse Ty :=
  match element.arrayOf? with
  | some ty => return ty
  | none => failAt (.malformed (.arrayOf element)) position

/-- Takes over the symbol table that a declaration gave.  A name declared twice is
reported, and the table stays as it was. -/
def adopt (name : Token) : Except Symbol SymbolTable → Parse Unit
  | .ok symbols => modify fun state => { state with symbols := symbols }
  | .error _ => reportMisuse (.redeclaration name.text) name.span.start

/-- Declares a variable in the innermost scope.  Its declaration refers to the new
symbol even if the name was declared before. -/
def declareVariable (name : Token) (ty : Ty) : Parse Symbol := do
  let symbol := Symbol.variable name.text ty
  adopt name ((← get).symbols.declare symbol)
  return symbol

/-- Declares a function in the global scope, in the same way. -/
def declareFunction (name : Token) (signature : Signature) : Parse Symbol := do
  let symbol := Symbol.function name.text signature
  adopt name ((← get).symbols.declareGlobal symbol)
  return symbol

/-- Fits a value to the type that its context demands.  A `char` and an `int` are
converted into each other; any other difference is reported, unless a part of it
failed before. -/
def coerce (target : Ty) (value : Expr) (misuse : Ty → Ty → Misuse) (position : Position) :
    Parse Expr :=
  if target = .error ∨ value.ty = .error ∨ target = value.ty then return value
  else
    match target, value.ty with
    | .char, .int => return value.narrow
    | .int, .char => return value.widen
    | _, _ => do
        reportMisuse (misuse target value.ty) position
        return value

/-- The type of a declared variable and the size written for it, from the token
after its name on. -/
def declaredType (base : Ty) (name : Token) : Parse (Ty × Option Nat) := do
  if ← accept .openBracket then
    let ty ← arrayType base name.span.start
    if (← kind) = .constant then
      let token ← advance
      match arraySize? token.text with
      | some size =>
          let _ ← expect .closeBracket
          return (ty, some size)
      | none => failAt (.badConstant token.text) token.span.start
    else
      let _ ← expect .closeBracket
      return (ty, none)
  else return (base, none)

/-- `[ = Expr ]`, for a variable of the given type. -/
def initialValue (ty : Ty) : Parse (Option Expr) := do
  if (← kind) = .assignment then
    let sign ← advance
    let value ← requireExpr .missingValue
    some <$> coerce ty value .assignmentType sign.span.start
  else return none

/-- A declaration from the token after its name on. -/
def declarator (base : Ty) (name : Token) (start : Position) : Parse Declaration := do
  let (ty, size?) ← declaredType base name
  if ty = .void then failAt (.malformed (.voidVariable name.text)) name.span.start
  else
    let symbol ← declareVariable name ty
    let initial? ← initialValue ty
    let semicolon ← expect .semicolon
    return {
      symbol := symbol
      size? := size?
      initial? := initial?
      span := { start := start, stop := semicolon.span.stop } }

/-- Decl -/
def declaration : Parse Declaration := do
  let start ← position
  let base ← typeSpecifier
  let name ← expectFor .identifier .declaredName
  declarator base name start

/-- A parameter from the token after its type specifier on. -/
def parameter (base : Ty) : Parse Symbol := do
  let name ← expectFor .identifier .parameterName
  if ← accept .openBracket then
    let _ ← expect .closeBracket
    let ty ← arrayType base name.span.start
    declareVariable name ty
  else if base = .void then failAt (.malformed (.voidParameter name.text)) name.span.start
  else declareVariable name base

/-- The parameters after those already read.  Each but the first follows a comma. -/
def parametersFrom (isFirst : Bool) : Nat → Parse (List Symbol)
  | 0 => return []
  | budget + 1 => do
      let base ← typeSpecifier
      if base = .void ∧ isFirst ∧ (← kind) = .closeParen then return []
      else
        let symbol ← parameter base
        if ← accept .comma then
          let others ← parametersFrom false budget
          return symbol :: others
        else return [symbol]

/-- Params -/
def parameters : Parse (List Symbol) := do
  if (← kind) = .closeParen then return [] else parametersFrom true ((← remaining) + 1)

end SubsetC.Parse
