import SubsetC.Diagnostic.Fault
import SubsetC.Text.Decimal
import SubsetC.Text.Escape
import SubsetC.Ty.Basic

/-!
# Constants

What the text of a constant denotes.  Between single quotes it is a character,
the first one that the escapes decode to; anything else has to be an integer of
32 bits.
-/

namespace SubsetC

open Text

/-- A constant's value, which for a character is its code point. -/
structure Constant where
  value : Int
  ty : Ty
deriving DecidableEq, Repr

namespace Constant

/-- The text between the quotes of a character constant. -/
def body? : List Char → Option (List Char)
  | '\'' :: rest => if rest.getLast? = some '\'' then some rest.dropLast else none
  | _ => none

def character? (body : List Char) : Option Constant :=
  (unescape body).head?.map fun c => { value := c.toNat, ty := .char }

def integer? (text : List Char) : Option Constant :=
  match signed? text with
  | some value =>
      if -0x80000000 ≤ value ∧ value < 0x80000000 then some { value := value, ty := .int }
      else none
  | none => none

def read? (text : List Char) : Option Constant :=
  match body? text with
  | some body => character? body
  | none => integer? text

/-- The constant that a text denotes. -/
def ofText (text : String) : Except Fault Constant :=
  match read? text.toList with
  | some constant => .ok constant
  | none => .error (.badConstant text)

end Constant

/-- The number of elements that the text of a constant gives an array: a number of
64 bits without a sign. -/
def arraySize? (text : String) : Option Nat :=
  (unsigned? text.toList).filter fun size => size < 0x10000000000000000

end SubsetC
