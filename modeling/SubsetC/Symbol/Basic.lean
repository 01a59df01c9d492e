import SubsetC.Ty.Basic

/-!
# Symbols

What an identifier stands for: a variable, a function, or a dummy that takes the
place of a name whose use was already reported.  A dummy has type `error`, so
nothing built from it is reported again.
-/

namespace SubsetC

/-- The parameters and the return type of a function.  A variadic function takes
arguments beyond its parameters. -/
structure Signature where
  returns : Ty
  params : List Ty
  variadic : Bool := false
deriving DecidableEq, Inhabited, Repr

namespace Signature

/-- Whether an argument fits a parameter: a `char` fits an `int` parameter, and a
failed argument fits anything. -/
def fits (parameter argument : Ty) : Bool :=
  argument = .error || parameter = argument || (parameter = .int && argument = .char)

/-- Whether an argument may stand at an index of a call. -/
def accepts (signature : Signature) (index : Nat) (argument : Ty) : Bool :=
  match signature.params[index]? with
  | some parameter => fits parameter argument
  | none => signature.variadic

end Signature

inductive Symbol where
  | variable (name : String) (ty : Ty)
  | function (name : String) (signature : Signature)
  | dummy (name : String)
deriving DecidableEq, Inhabited, Repr

namespace Symbol

def name : Symbol → String
  | .variable name _ => name
  | .function name _ => name
  | .dummy name => name

def ty : Symbol → Ty
  | .variable _ ty => ty
  | .function _ _ => .function
  | .dummy _ => .error

def isDummy : Symbol → Bool
  | .dummy _ => true
  | _ => false

def signature? : Symbol → Option Signature
  | .function _ signature => some signature
  | _ => none

/-- The placeholder for a variable that was misused.  No identifier has its
name. -/
def placeholder : Symbol := .dummy "@@variable"

/-- The name of the built-in output function. -/
def printfName : String := "printf"

/-- The built-in output function: a format and any arguments. -/
def printf : Symbol :=
  .function printfName { returns := .int, params := [.charArray], variadic := true }

end Symbol

end SubsetC
