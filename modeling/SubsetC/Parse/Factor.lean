import SubsetC.Expr.Constant
import SubsetC.Parse.Basic

/-!
# Factors

```text
Factor --> id | id [ Expr ] | id ( Args ) | string | constant
         | ( Expr ) | ++ id | -- id | & id [ Expr ]
```

A factor may hold whole expressions, so each rule is given the parse of one.
That parse is only run after a token of the factor has been passed.  A rule that
does not match yields no expression and has no effect.

A fault between the brackets of a subscript or among the arguments of a call is
reported and passed over together with the closing delimiter.
-/

namespace SubsetC

/-- The beginning of an expression that a statement has already read: a name, or
a name with its subscript. -/
inductive Handoff where
  | ident (symbol : Symbol) (span : Span)
  | element (subscript : Subscript)

namespace Parse

/-- How the arguments of a call are checked. -/
inductive CallCheck where
  | unchecked
  | format
  | against (signature : Signature)

/-- A function is checked against its signature, except that the variadic
`printf` is checked for its format. -/
def CallCheck.ofCallee (checks : Bool) (callee : Symbol) : CallCheck :=
  match callee.signature? with
  | some signature =>
      if !checks then .unchecked
      else if callee.name = Symbol.printfName ∧ signature.variadic then .format
      else .against signature
  | none => .unchecked

/-- Whether a symbol may be followed by a subscript; other subscripts are passed
over. -/
def acceptsSubscript (symbol : Symbol) : Parse Bool :=
  return !(← read).checks || symbol.isDummy || symbol.ty.isArray

/-- Whether a type will do for an index or a condition.  A failed expression is not
reported again. -/
def countsAsScalar (ty : Ty) : Bool := ty.isScalar || ty = .error

/-- `[ Expr ]` after the name of an array. -/
def subscript (expr : Parse (Option Expr)) (array : Symbol) (span : Span) :
    Parse Subscript := do
  let _ ← expect .openBracket
  let start ← position
  let index ← orFail expr { fault := .malformed .emptySubscript, position := start }
  let close ← expect .closeBracket
  reportUnless (countsAsScalar index.ty) (.subscriptType index.ty) start
  return { array := array, index := index, span := span.through close.span }

/-- Reports that a symbol is no array and passes over its subscript. -/
def rejectSubscript (symbol : Symbol) (span : Span) : Parse Unit := do
  reportMisuse (.notAnArray symbol.name) span.start
  skipPast .closeBracket

/-- `id [ Expr ]` from the bracket on. -/
def element (expr : Parse (Option Expr)) (array : Symbol) (span : Span) : Parse Expr := do
  if ← acceptsSubscript array then
    match ← attempt (subscript expr array span) with
    | .ok subscript => return subscript.read
    | .error failure =>
        recoverPast .closeBracket failure
        placeholder span
  else
    rejectSubscript array span
    placeholder span

/-- Checks the argument at an index of a call.  An `int` passed for a `char` is
narrowed. -/
def checkArgument (check : CallCheck) (callee : Symbol) (index : Nat) (argument : Expr) :
    Parse Expr :=
  match check with
  | .unchecked => return argument
  | .format => do
      reportUnless (0 < index || argument.ty = .charArray || argument.ty = .error)
        .formatRequired argument.start
      return argument
  | .against signature =>
      match signature.params[index]? with
      | none => do
          reportUnless signature.variadic
            (.tooManyArguments callee.name signature.params.length) argument.start
          return argument
      | some parameter => do
          if parameter = .char ∧ argument.ty = .int then return argument.narrow
          else
            reportUnless (signature.accepts index argument.ty) (.argumentType parameter)
              argument.start
            return argument

/-- Checks the number of arguments of a call that opens and stops at the given
positions. -/
def checkCount (check : CallCheck) (callee : Symbol) (count : Nat) (opening stop : Position) :
    Parse Unit :=
  match check with
  | .unchecked => pure ()
  | .format => reportUnless (0 < count) .formatArgumentsRequired opening
  | .against signature =>
      reportUnless (signature.params.length ≤ count)
        (.tooFewArguments callee.name signature.params.length) stop

/-- The arguments from an index on, up to the closing parenthesis or to a failure.
The arguments before the failure are kept. -/
def argumentsFrom (expr : Parse (Option Expr)) (check : CallCheck) (callee : Symbol) :
    Nat → Nat → Parse (List Expr × Except Failure Token)
  | 0, _ => return ([], .error (mismatch .closeParen (← current)))
  | budget + 1, index => do
      let start ← position
      match ← attempt (orFail expr { fault := .malformed .missingArgument, position := start })
        with
      | .error failure => return ([], .error failure)
      | .ok argument =>
          let argument ← checkArgument check callee index argument
          if ← accept .comma then
            let (others, closing) ← argumentsFrom expr check callee budget (index + 1)
            return (argument :: others, closing)
          else
            let closing ← attempt (expect .closeParen)
            return ([argument], closing)

/-- The arguments of a call after its opening parenthesis.  Each but the first
follows a comma, so there are at most as many as tokens and one more. -/
def arguments (expr : Parse (Option Expr)) (check : CallCheck) (callee : Symbol) :
    Parse (List Expr × Except Failure Token) := do
  if (← kind) = .closeParen then
    let closing ← attempt (expect .closeParen)
    return ([], closing)
  else argumentsFrom expr check callee ((← remaining) + 1) 0

/-- A program that calls `printf` needs its support, checked or not. -/
def noteCallee (callee : Symbol) : Parse Unit :=
  if callee.name = Symbol.printfName then markPrintf else pure ()

/-- `id ( Args )` from the parenthesis on, for a callee that may be called. -/
def checkedCall (expr : Parse (Option Expr)) (callee : Symbol) (span : Span) : Parse Expr := do
  let check := CallCheck.ofCallee (← read).checks callee
  noteCallee callee
  let opening ← expect .openParen
  let (arguments, closing) ← arguments expr check callee
  match closing with
  | .ok close =>
      checkCount check callee arguments.length opening.span.start close.span.start
      return .call callee arguments (span.through close.span)
  | .error failure =>
      recoverPast .closeParen failure
      checkCount check callee arguments.length opening.span.start failure.position
      return .call callee arguments span

/-- `id ( Args )` from the parenthesis on.  The arguments of what is no function
are passed over. -/
def call (expr : Parse (Option Expr)) (callee : Symbol) (span : Span) : Parse Expr := do
  if (← read).checks ∧ callee.signature?.isNone ∧ !callee.isDummy then
    reportMisuse (.notAFunction callee.name) span.start
    skipPast .openParen
    skipPast .closeParen
    placeholder span
  else checkedCall expr callee span

/-- `id`, `id [ Expr ]` or `id ( Args )` from the token after the name on. -/
def afterName (expr : Parse (Option Expr)) (symbol : Symbol) (span : Span) : Parse Expr := do
  match ← kind with
  | .openBracket => element expr symbol span
  | .openParen => call expr symbol span
  | _ => return .ident symbol span

/-- A factor that begins with a name.  A `char` is widened. -/
def named (expr : Parse (Option Expr)) : Parse Expr := do
  let name ← advance
  let symbol ← resolve name.text name.span.start
  let factor ← afterName expr symbol name.span
  return factor.widen

def stringLiteral : Parse Expr := do
  let token ← advance
  let id ← intern token.text
  return .string token.text id token.span

def constant : Parse Expr := do
  let token ← advance
  match Constant.ofText token.text with
  | .ok constant => return .constant constant.value constant.ty token.span
  | .error fault => failAt fault token.span.start

/-- `( Expr )` -/
def parenthesized (expr : Parse (Option Expr)) : Parse Expr := do
  let _ ← advance
  let start ← position
  let inner ← orFail expr { fault := .malformed .emptyParentheses, position := start }
  let _ ← expect .closeParen
  return inner

/-- `++ id` or `-- id` -/
def stepped (operator : Step) : Parse Expr := do
  let token ← advance
  let start ← position
  let name ← expectOr .identifier
    { fault := .malformed (.operandOfStep operator), position := start }
  let symbol ← resolve name.text name.span.start
  let verdict := (← read).rules.judgeStep symbol.ty
  reportUnless verdict.accepted (.invalidOperand symbol.ty) token.span.start
  return (Expr.step operator symbol verdict.ty (token.span.through name.span)).widen

/-- `& id [ Expr ]` -/
def addressed (expr : Parse (Option Expr)) : Parse Expr := do
  let token ← advance
  let start ← position
  let name ← expectOr .identifier { fault := .malformed .operandOfAddress, position := start }
  let symbol ← resolve name.text name.span.start
  if (← kind) = .openBracket then
    reportUnless (← acceptsSubscript symbol) (.notAnArray symbol.name) name.span.start
    let target ← subscript expr symbol name.span
    note (.addressed target)
    return .address target.array target.index target.span (token.span.through target.span)
  else failAt (.malformed .addressOfNonElement) (← position)

/-- A factor from its first token on, if there is one. -/
def freshFactor (expr : Parse (Option Expr)) : Parse (Option Expr) := do
  match ← kind with
  | .identifier => some <$> named expr
  | .string => some <$> stringLiteral
  | .constant => some <$> constant
  | .openParen => some <$> parenthesized expr
  | .plusPlus => some <$> stepped .increment
  | .minusMinus => some <$> stepped .decrement
  | .ampersand => some <$> addressed expr
  | _ => return none

/-- A factor, which may already have been begun. -/
def factor (expr : Parse (Option Expr)) : Option Handoff → Parse (Option Expr)
  | some (.element subscript) => return some subscript.read.widen
  | some (.ident symbol span) => do
      let factor ← afterName expr symbol span
      return some factor.widen
  | none => freshFactor expr

end Parse

end SubsetC
