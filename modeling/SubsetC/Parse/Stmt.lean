import SubsetC.Parse.Declaration

/-!
# Statements

```text
Stmt       --> CompoundStmt | if ( Expr ) Stmt [else Stmt] | while ( Expr ) Stmt
             | return [Expr] ; | ; | Decl | AssignStmt | Expr ;
AssignStmt --> id = Expr ; | id [ Expr ] = Expr ;
```

A statement that begins with a name is an assignment only if `=` follows the name
or its subscript.  Otherwise what was read is handed to the expression that it
begins.

A statement inside a block that cannot be read is reported, passed over up to its
semicolon and replaced by a null statement.  Every statement inside another
begins after a token of the outer one, so the number of tokens ahead bounds the
nesting.
-/

namespace SubsetC.Parse

/-- `( Expr )` after `if` or `while`. -/
def condition : Parse Expr := do
  let _ ← expect .openParen
  let condition ← requireExpr .missingCondition
  let _ ← expect .closeParen
  reportUnless (countsAsScalar condition.ty) (.conditionType condition.ty) condition.start
  return condition

/-- `return [Expr] ;` -/
def returned : Parse Stmt := do
  let word ← advance
  let expected := (← get).returnType?.getD .void
  let value? ← expr
  match value? with
  | some value =>
      let value ← coerce expected value .returnType word.span.start
      let semicolon ← expect .semicolon
      return .ret (some value) (word.span.through semicolon.span)
  | none =>
      reportUnless (expected = .void) (.returnType expected .void) word.span.start
      let semicolon ← expect .semicolon
      return .ret none (word.span.through semicolon.span)

/-- The beginning of a statement that starts with a name.  A name whose subscript
was passed over is replaced by the placeholder. -/
def beginning (name : Token) : Parse Handoff := do
  let symbol ← resolve name.text name.span.start
  if (← kind) = .openBracket then
    if ← acceptsSubscript symbol then
      match ← attempt (withExpr fun whole => subscript whole symbol name.span) with
      | .ok subscript => return .element subscript
      | .error failure =>
          recoverPast .closeBracket failure
          return .ident (← get).symbols.placeholder name.span
    else
      rejectSubscript symbol name.span
      return .ident (← get).symbols.placeholder name.span
  else return .ident symbol name.span

/-- The assignment of a value to what begins a statement. -/
def assignment (target : Handoff) (value : Expr) (position : Position) (span : Span) :
    Parse Stmt :=
  match target with
  | .ident symbol _ => do
      let value ← coerce symbol.ty value .assignmentType position
      return .assign symbol value span
  | .element subscript => do
      let value ← coerce subscript.ty value .assignmentType position
      return .assignElement subscript value span

/-- A statement that starts with a name: an assignment, or an expression. -/
def namedStmt : Parse Stmt := do
  let name ← advance
  let handoff ← beginning name
  if (← kind) = .assignment then
    let sign ← advance
    let value ← requireExpr .missingValue
    let semicolon ← expect .semicolon
    assignment handoff value sign.span.start (name.span.through semicolon.span)
  else
    let expr ← orFail (exprAfter (some handoff))
      { fault := .malformed .missingExpression, position := name.span.start }
    let semicolon ← expect .semicolon
    return .evaluate expr (name.span.through semicolon.span)

/-- `Expr ;` -/
def evaluated : Parse Stmt := do
  let token ← current
  let expr ← orFail expr
    { fault := .unexpectedFor token.describe .statement, position := token.span.start }
  let semicolon ← expect .semicolon
  return .evaluate expr (token.span.through semicolon.span)

/-- Reports a failure and passes over the rest of the statement it was met in,
which becomes a null statement. -/
def recoverStmt (failure : Failure) : Parse Stmt := do
  recoverPast .semicolon failure
  return .null { start := failure.position, stop := ← position }

/-- The statements up to the brace that closes a block.  Each takes a token, so
there are no more of them than tokens ahead. -/
def stmtsUntilClose (stmt : Parse Stmt) : Nat → Parse (List Stmt)
  | 0 => do failAt .endOfInput (← position)
  | budget + 1 => do
      match ← kind with
      | .closeCurly => return []
      | .eof => failAt .endOfInput (← position)
      | _ =>
          match ← attempt stmt with
          | .ok first =>
              let others ← stmtsUntilClose stmt budget
              return first :: others
          | .error failure =>
              let first ← recoverStmt failure
              let others ← stmtsUntilClose stmt budget
              return first :: others

/-- CompoundStmt, in the scope that is open. -/
def block (stmt : Parse Stmt) : Parse Block := do
  let opening ← expect .openCurly
  let body ← stmtsUntilClose stmt ((← remaining) + 1)
  let closing ← expect .closeCurly
  return { body := body, span := opening.span.through closing.span }

/-- `if ( Expr ) Stmt [else Stmt]` -/
def conditional (stmt : Parse Stmt) : Parse Stmt := do
  let word ← advance
  let condition ← condition
  let accepted ← stmt
  if ← accept .elseWord then
    let rejected ← stmt
    return .conditional condition accepted (some rejected) (word.span.through rejected.span)
  else return .conditional condition accepted none (word.span.through accepted.span)

/-- `while ( Expr ) Stmt` -/
def whileLoop (stmt : Parse Stmt) : Parse Stmt := do
  let word ← advance
  let condition ← condition
  let body ← stmt
  return .whileLoop condition body (word.span.through body.span)

/-- Stmt, with the parse of the statements inside it. -/
def stmtWith (stmt : Parse Stmt) : Parse Stmt := do
  match ← kind with
  | .openCurly => Block.toStmt <$> inScope (block stmt)
  | .ifWord => conditional stmt
  | .whileWord => whileLoop stmt
  | .returnWord => returned
  | .semicolon =>
      let token ← advance
      return .null token.span
  | .identifier => namedStmt
  | .intWord | .charWord | .voidWord => Stmt.declare <$> declaration
  | _ => evaluated

/-- A statement that nests no deeper than the budget. -/
def stmtWithin : Nat → Parse Stmt
  | 0 => do failAt .endOfInput (← position)
  | budget + 1 => stmtWith (stmtWithin budget)

/-- A statement. -/
def stmt : Parse Stmt := do
  stmtWithin ((← remaining) + 1)

end SubsetC.Parse
