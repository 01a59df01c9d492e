import SubsetC.Parse.Stmt
import SubsetC.Program

/-!
# Programs

```text
Program  --> (Decl | Function)* EOF
Function --> TypeSpec id ( Params ) CompoundStmt
```

The parameters of a function and its body share one scope, and the function is
declared globally before its body is read.  A declaration or function that cannot
be read is reported and passed over up to the next semicolon.

`parse` runs the grammar on the tokens of a file.  It gives the program, or the
failure that could not be recovered from, and in both cases the final state with
the journal of what was reported.
-/

namespace SubsetC

namespace Parse

def setReturnType (ty? : Option Ty) : Parse Unit :=
  modify fun state => { state with returnType? := ty? }

/-- The body of a function, in the scope of its parameters. -/
def functionBody (returns : Ty) : Parse Block := do
  setReturnType (some returns)
  block (stmtWithin ((← remaining) + 1))

/-- A function from its parameters on, in a scope of its own. -/
def functionRest (returns : Ty) (name : Token) (start : Position) : Parse FunctionDef := do
  let params ← parameters
  let _ ← expect .closeParen
  let symbol ← declareFunction name { returns := returns, params := params.map Symbol.ty }
  note (.enteredBody name.text)
  let body ← functionBody returns
  return {
    symbol := symbol
    params := params
    body := body
    span := { start := start, stop := body.span.stop } }

/-- A function from its opening parenthesis on.  Outside of a body there is no
return type. -/
def function (returns : Ty) (name : Token) (start : Position) : Parse FunctionDef := do
  let _ ← expect .openParen
  bracket (fun state => { state with symbols := state.symbols.enterScope })
    (fun state => { state with symbols := state.symbols.exitScope, returnType? := none })
    (functionRest returns name start)

/-- Decl or Function -/
def external : Parse External := do
  let start ← position
  let base ← typeSpecifier
  let name ← expectFor .identifier .declaredName
  if (← kind) = .openParen then External.function <$> function base name start
  else External.global <$> declarator base name start

/-- The declarations and functions up to the end of input.  Each takes a token, so
there are no more of them than tokens ahead. -/
def externals : Nat → Parse (List External)
  | 0 => return []
  | budget + 1 => do
      if ← hasTokens then
        match ← attempt external with
        | .ok first =>
            let others ← externals budget
            return first :: others
        | .error failure =>
            recoverPast .semicolon failure
            externals budget
      else return []

/-- Takes the string table out of the state. -/
def takeStrings : Parse StringTable := do
  let state ← get
  set { state with strings := {} }
  return state.strings

/-- Program -/
def program : Parse Program := do
  let start ← position
  let externals ← externals (← remaining)
  let stop ← position
  return {
    externals := externals
    strings := ← takeStrings
    needsPrintf := (← get).needsPrintf
    span := { start := start, stop := stop } }

/-- Program, with its beginning and its end in the journal. -/
def journaled : Parse Program := do
  let file := (← read).file
  note (.started file ((← remaining) + 1))
  let result ← attempt program
  note (.finished file (← get).journal.size)
  ofAttempt result

end Parse

/-- Parses the tokens of a file. -/
def parse (settings : Settings) (tokens : List Token) : Except Failure Program × ParseState :=
  Parse.journaled.run settings (.ofTokens tokens settings.file)

end SubsetC
