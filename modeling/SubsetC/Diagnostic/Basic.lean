import SubsetC.Diagnostic.Fault
import SubsetC.Diagnostic.Misuse
import SubsetC.Source.Report

/-!
# Diagnostics

A diagnostic is what a parse reports and survives: a misuse, or a failure that
some construct recovered from.  Both are reported at a position and rendered
against the source.
-/

namespace SubsetC

inductive Cause where
  | fault (fault : Fault)
  | misuse (misuse : Misuse)
deriving DecidableEq, Repr

structure Diagnostic where
  cause : Cause
  position : Position
deriving DecidableEq, Repr

namespace Diagnostic

/-- The diagnostic of a failure. -/
def ofFailure (failure : Failure) : Diagnostic :=
  { cause := .fault failure.fault, position := failure.position }

def isMisuse (diagnostic : Diagnostic) : Bool :=
  match diagnostic.cause with
  | .fault _ => false
  | .misuse _ => true

def name (diagnostic : Diagnostic) : String :=
  match diagnostic.cause with
  | .fault fault => fault.name
  | .misuse misuse => misuse.name

def message (diagnostic : Diagnostic) : String :=
  match diagnostic.cause with
  | .fault fault => fault.message
  | .misuse misuse => misuse.message

def describe (diagnostic : Diagnostic) : String :=
  diagnostic.position.describe ++ ": " ++ diagnostic.message

def severity (diagnostic : Diagnostic) : String :=
  if diagnostic.isMisuse then "Semantic error" else "Error"

/-- The line of advice below a fault's report. -/
def advice (diagnostic : Diagnostic) : String :=
  match diagnostic.cause with
  | .fault fault =>
      match fault.tip? with
      | some tip => "\n= " ++ tip
      | none => ""
  | .misuse _ => ""

/-- The full report of a diagnostic against the source text, if it can be written. -/
def render? (diagnostic : Diagnostic) (source : String) : Option String :=
  let headline := diagnostic.severity ++ ": " ++ diagnostic.name ++
    " (" ++ diagnostic.message ++ ")"
  (report? headline diagnostic.position source).map (· ++ diagnostic.advice)

end Diagnostic

end SubsetC
