import SubsetC.Diagnostic.Journal
import SubsetC.Parse.Cursor
import SubsetC.StringTable
import SubsetC.Symbol.Table

/-!
# Parsing

A parse runs under fixed settings and changes a state, and it may fail.  The
state survives a failure: what was read, declared and reported before stays, so
that a construct which recovers goes on from there.
-/

namespace SubsetC

/-- What a parse is given beside its tokens.  Without checks, misuses are not
reported and no construct is passed over because of one. -/
structure Settings where
  file : String
  checks : Bool := true
  rules : TypeRules := .standard

/-- What a parse has accumulated and where it stands. -/
structure ParseState where
  cursor : Cursor
  symbols : SymbolTable := {}
  strings : StringTable := {}
  journal : Journal := {}
  needsPrintf : Bool := false
  /-- The return type of the function whose body is being parsed. -/
  returnType? : Option Ty := none

namespace ParseState

def ofTokens (tokens : List Token) (file : String) : ParseState :=
  { cursor := .ofTokens tokens file }

end ParseState

abbrev Parse := ReaderT Settings (EStateM Failure ParseState)

namespace Parse

/-- Runs a parse on a state: its result or its failure, and the state it left. -/
def run {α : Type} (parse : Parse α) (settings : Settings) (state : ParseState) :
    Except Failure α × ParseState :=
  match parse settings state with
  | .ok value state => (.ok value, state)
  | .error failure state => (.error failure, state)

/-- Makes a failure a result. -/
def attempt {α : Type} (parse : Parse α) : Parse (Except Failure α) := fun settings state =>
  match parse settings state with
  | .ok value state => .ok (.ok value) state
  | .error failure state => .ok (.error failure) state

/-- Changes the state before a parse and again after it, also when it fails. -/
def bracket {α : Type} (before after : ParseState → ParseState) (parse : Parse α) : Parse α :=
  fun settings state =>
    match parse settings (before state) with
    | .ok value state => .ok value (after state)
    | .error failure state => .error failure (after state)

/-- The result of an attempt, or its failure again. -/
def ofAttempt {α : Type} : Except Failure α → Parse α
  | .ok value => pure value
  | .error failure => throw failure

def failAt {α : Type} (fault : Fault) (position : Position) : Parse α :=
  throw { fault := fault, position := position }

end Parse

end SubsetC
