import SubsetC.Parse.State

/-!
# Basic parses

Reading single tokens, skipping to a place from which to go on, and the access to
names, strings and the journal that the grammar is built from.
-/

namespace SubsetC.Parse

/-- The token at the cursor. -/
def current : Parse Token := return (← get).cursor.current

/-- The kind of the token at the cursor. -/
def kind : Parse TokenKind := return (← get).cursor.kind

/-- The position at which the token at the cursor starts. -/
def position : Parse Position := return (← get).cursor.current.span.start

/-- The number of tokens before the closing one, which bounds every recursion. -/
def remaining : Parse Nat := return (← get).cursor.remaining

def hasTokens : Parse Bool := return (← get).cursor.kind ≠ .eof

/-- Moves past a token, which is returned. -/
def advance : Parse Token := do
  let state ← get
  set { state with cursor := state.cursor.advance }
  return state.cursor.current

/-- Moves past a token of the given kind if it is next. -/
def accept (expected : TokenKind) : Parse Bool := do
  if (← kind) = expected then
    let _ ← advance
    return true
  else return false

/-- The failure that the token at the cursor is not of the expected kind.  A
missing semicolon is not named. -/
def mismatch (expected : TokenKind) (found : Token) : Failure :=
  { fault :=
      if expected = .semicolon then .unexpected found.describe
      else .unexpectedFor found.describe (.token expected)
    position := found.span.start }

/-- Moves past a token of the given kind, or fails in the given way. -/
def expectOr (expected : TokenKind) (failure : Failure) : Parse Token := do
  if (← kind) = expected then advance else throw failure

/-- Moves past a token of the given kind. -/
def expect (expected : TokenKind) : Parse Token := do
  expectOr expected (mismatch expected (← current))

/-- Moves on to the first token of a kind, or to the end of input. -/
def skipTo (target : TokenKind) : Parse Unit :=
  modify fun state => { state with cursor := state.cursor.skipTo target }

def note (event : Event) : Parse Unit :=
  modify fun state => { state with journal := state.journal.note event }

/-- Moves on to the first token of a kind after a failure.  If the input ends
first there is no place to go on from. -/
def resynchronize (target : TokenKind) : Parse Unit := do
  note (.resynchronizing target (← position))
  skipTo target
  if (← kind) = .eof ∧ target ≠ .eof then failAt .endOfInput (← position) else pure ()

/-- Moves past the first token of a kind after a failure. -/
def skipPast (target : TokenKind) : Parse Unit := do
  resynchronize target
  let _ ← advance

def record (diagnostic : Diagnostic) : Parse Unit :=
  modify fun state => { state with journal := state.journal.report diagnostic }

/-- Reports a misuse, if misuses are checked for. -/
def reportMisuse (misuse : Misuse) (position : Position) : Parse Unit := do
  if (← read).checks then record { cause := .misuse misuse, position := position } else pure ()

/-- Reports a misuse where a condition is broken. -/
def reportUnless (condition : Bool) (misuse : Misuse) (position : Position) : Parse Unit :=
  if condition then pure () else reportMisuse misuse position

/-- Reports a failure that was recovered from. -/
def reportFailure (failure : Failure) : Parse Unit := record (.ofFailure failure)

/-- Reports a failure and moves past the delimiter that closes the construct.  The
end of input cannot be recovered from. -/
def recoverPast (delimiter : TokenKind) (failure : Failure) : Parse Unit := do
  if failure.isEndOfInput then throw failure
  else
    reportFailure failure
    skipPast delimiter

/-- The symbol of a name.  An unknown name is reported once: it then stands for a
dummy. -/
def resolve (name : String) (position : Position) : Parse Symbol := do
  let state ← get
  match state.symbols.resolve name with
  | .found symbol => return symbol
  | .planted dummy symbols =>
      set { state with symbols := symbols }
      reportMisuse (.undeclared name) position
      return dummy

/-- The stand-in for an expression that failed a check. -/
def placeholder (span : Span) : Parse Expr :=
  return .ident (← get).symbols.placeholder span

/-- The id of a string literal. -/
def intern (text : String) : Parse Nat := do
  let state ← get
  let (id, strings) := state.strings.intern text
  set { state with strings := strings }
  return id

def markPrintf : Parse Unit := modify fun state => { state with needsPrintf := true }

/-- Runs a parse in a scope of its own, which is left also when it fails. -/
def inScope {α : Type} (parse : Parse α) : Parse α :=
  bracket (fun state => { state with symbols := state.symbols.enterScope })
    (fun state => { state with symbols := state.symbols.exitScope }) parse

/-- The result of a parse that may not match, or a failure if it did not. -/
def orFail {α : Type} (parse : Parse (Option α)) (failure : Failure) : Parse α := do
  match ← parse with
  | some value => return value
  | none => throw failure

end SubsetC.Parse
