import SubsetC.Token.Kind

/-!
# Types

The types of identifiers and expressions.  `Ty.error` marks a node that failed
a check: anything built from it is `error` again, without a further diagnostic.
-/

namespace SubsetC

inductive Ty where
  | void
  | int
  | char
  | intArray
  | charArray
  | function
  | error
deriving DecidableEq, Inhabited, Repr

namespace Ty

def name : Ty → String
  | void => "void"
  | int => "int"
  | char => "char"
  | intArray => "int[]"
  | charArray => "char[]"
  | function => "function"
  | error => "error"

def isScalar : Ty → Bool
  | int | char => true
  | _ => false

def isArray : Ty → Bool
  | intArray | charArray => true
  | _ => false

/-- The type of the elements of an array type. -/
def element? : Ty → Option Ty
  | intArray => some int
  | charArray => some char
  | _ => none

/-- The array type with elements of the given type. -/
def arrayOf? : Ty → Option Ty
  | int => some intArray
  | char => some charArray
  | _ => none

/-- The type that a type specifier names. -/
def ofSpecifier? : TokenKind → Option Ty
  | .intWord => some int
  | .charWord => some char
  | .voidWord => some void
  | _ => none

end Ty

end SubsetC
