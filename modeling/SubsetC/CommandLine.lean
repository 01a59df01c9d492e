import SubsetC.Parse.Program
import SubsetC.Token.Scanner

/-!
# Command line

The program checks one source file.  It prints a report for every diagnostic and
on demand the canonical text of what was parsed.  Its exit code is 0 for a clean
file, 1 for a file with diagnostics, and 2 for a wrong command line or a file that
cannot be read.  A report that cannot be written ends the run with exit code 101.
-/

namespace SubsetC

/-- What a command line asks for. -/
structure CheckRequest where
  path : String
  checks : Bool := true
  showTree : Bool := false
deriving DecidableEq, Repr

inductive Command where
  | check (request : CheckRequest)
  | showVersion
  | showHelp
  | refuse
deriving DecidableEq, Repr

namespace Command

/-- The part of a command line that was read so far. -/
structure Partial where
  path? : Option String := none
  noChecks : Bool := false
  showTree : Bool := false
deriving DecidableEq, Repr

namespace Partial

/-- Takes the path; a second or an empty one is refused. -/
def withPath? (parsed : Partial) (path : String) : Option Partial :=
  if parsed.path?.isSome || path.isEmpty then none else some { parsed with path? := some path }

def finish (parsed : Partial) : Command :=
  match parsed.path? with
  | some path =>
      .check { path := path, checks := !parsed.noChecks, showTree := parsed.showTree }
  | none => .refuse

end Partial

/-- Reads arguments of which none is a flag any more. -/
def ofPaths (parsed : Partial) : List String → Command
  | [] => parsed.finish
  | argument :: others =>
      match parsed.withPath? argument with
      | some parsed => ofPaths parsed others
      | none => .refuse

/-- The letter of a short flag.  A dash alone is no flag. -/
def shortFlag? (argument : String) : Option Char :=
  match argument.toList with
  | '-' :: letter :: _ => some letter
  | _ => none

/-- Reads arguments from left to right.  The first mistake refuses the command
line, unless a request for the version or for help came before it. -/
def ofArguments (parsed : Partial) : List String → Command
  | [] => parsed.finish
  | argument :: others =>
      if argument = "--" then ofPaths parsed others
      else if argument = "--no-semantics" then
        if parsed.noChecks then .refuse else ofArguments { parsed with noChecks := true } others
      else if argument = "--ast" then
        if parsed.showTree then .refuse else ofArguments { parsed with showTree := true } others
      else if argument = "--version" then .showVersion
      else if argument = "--help" then .showHelp
      else
        match shortFlag? argument with
        | some letter =>
            if letter = 'V' then .showVersion
            else if letter = 'h' then .showHelp
            else .refuse
        | none =>
            match parsed.withPath? argument with
            | some parsed => ofArguments parsed others
            | none => .refuse

end Command

/-- The exit code of a run and what it printed. -/
structure Outcome where
  exitCode : Nat
  printed : String
deriving DecidableEq, Repr

namespace CommandLine

def version : String := "minic 0.1.0\n"

def help : String :=
  "Front end for a small C-like language\n\n" ++
  "Usage: minic [OPTIONS] <FILE>\n\n" ++
  "Arguments:\n" ++
  "  <FILE>  Source file to check\n\n" ++
  "Options:\n" ++
  "      --no-semantics  Parse only, skipping the array/function/argument checks\n" ++
  "      --ast           Print the AST as S-expressions\n" ++
  "  -h, --help          Print help\n" ++
  "  -V, --version       Print version\n"

/-- The last component of a path, by which reports name the file. -/
def fileName (path : String) : String :=
  let components := (path.splitOn "/").filter fun component => component ≠ "" ∧ component ≠ "."
  components.getLast?.getD path

/-- Prints texts as lines and exits.  The first text that cannot be written ends the run
with what was printed before it. -/
def printLines (exitCode : Nat) : List (Option String) → Outcome
  | [] => { exitCode := exitCode, printed := "" }
  | none :: _ => { exitCode := 101, printed := "" }
  | some text :: others =>
      let outcome := printLines exitCode others
      { outcome with printed := text ++ "\n" ++ outcome.printed }

/-- Checks a source text. -/
def check (request : CheckRequest) (source : String) : Outcome :=
  let file := fileName request.path
  match tokenize source file with
  | .error failure => printLines 1 [(Diagnostic.ofFailure failure).render? source]
  | .ok tokens =>
      let (result, state) := parse { file := file, checks := request.checks } tokens
      let reports := state.journal.diagnostics.toList.map (·.render? source)
      match result with
      | .error failure => printLines 1 (reports ++ [(Diagnostic.ofFailure failure).render? source])
      | .ok program =>
          let tree := if request.showTree then program.render.map some else []
          printLines (if reports.isEmpty then 0 else 1) (reports ++ tree)

/-- Runs a command; the text of the file is none if it cannot be read. -/
def run (command : Command) (readFile : String → Option String) : Outcome :=
  match command with
  | .showVersion => { exitCode := 0, printed := version }
  | .showHelp => { exitCode := 0, printed := help }
  | .refuse => { exitCode := 2, printed := "" }
  | .check request =>
      match readFile request.path with
      | some source => check request source
      | none => { exitCode := 2, printed := "" }

end CommandLine

end SubsetC
