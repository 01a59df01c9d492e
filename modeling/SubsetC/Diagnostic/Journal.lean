import SubsetC.Diagnostic.Basic
import SubsetC.Expr.Render

/-!
# Journal

A parse keeps a journal: the diagnostics in the order in which they arose, and
among them the steps worth tracing.  Events are kept as data and put into words
only when a log is asked for.
-/

namespace SubsetC

inductive Event where
  | reported (diagnostic : Diagnostic)
  | started (file : String) (tokens : Nat)
  | finished (file : String) (diagnostics : Nat)
  | enteredBody (function : String)
  | resynchronizing (kind : TokenKind) (position : Position)
  | built (expr : Expr)
  | addressed (subscript : Subscript)

namespace Event

/-- The level at which an event is logged. -/
def level : Event → String
  | reported _ | started _ _ | finished _ _ | enteredBody _ => "DEBUG"
  | resynchronizing _ _ | built _ | addressed _ => "TRACE"

def message : Event → String
  | reported diagnostic =>
      (if diagnostic.isMisuse then "semantic" else "syntax") ++ " error at " ++ diagnostic.describe
  | started file tokens => "parsing " ++ file ++ " (" ++ Nat.repr tokens ++ " tokens)"
  | finished file diagnostics =>
      "finished parsing " ++ file ++ ": " ++ Nat.repr diagnostics ++ " diagnostics"
  | enteredBody function => "parsing body of " ++ function
  | resynchronizing kind position =>
      "resynchronizing to `" ++ kind.lexeme ++ "` from " ++ position.describe
  | built expr => "built " ++ expr.render ++ " : " ++ expr.ty.name
  | addressed subscript => "address of " ++ subscript.render

def render (event : Event) : String := event.level ++ " " ++ event.message

end Event

structure Journal where
  diagnostics : Array Diagnostic := #[]
  events : Array Event := #[]

namespace Journal

def note (journal : Journal) (event : Event) : Journal :=
  { journal with events := journal.events.push event }

/-- Records a diagnostic, which is an event too. -/
def report (journal : Journal) (diagnostic : Diagnostic) : Journal :=
  { journal with diagnostics := journal.diagnostics.push diagnostic }.note (.reported diagnostic)

def size (journal : Journal) : Nat := journal.diagnostics.size

def misuseCount (journal : Journal) : Nat :=
  journal.diagnostics.toList.countP Diagnostic.isMisuse

def faultCount (journal : Journal) : Nat :=
  journal.size - journal.misuseCount

end Journal

end SubsetC
