/-!
# Decimal numbers

Reading and writing numbers in decimal ASCII digits.  Leading zeros are allowed
and the length is unbounded: whether a number fits its type is decided by the
reader of the literal.
-/

namespace SubsetC.Text

/-- A nonempty run of digits. -/
def natural? (text : List Char) : Option Nat :=
  if !text.isEmpty && text.all Char.isDigit then
    some (text.foldl (fun value c => 10 * value + (c.toNat - 48)) 0)
  else none

/-- Digits after an optional plus sign. -/
def unsigned? : List Char → Option Nat
  | '+' :: digits => natural? digits
  | digits => natural? digits

/-- Digits after an optional sign. -/
def signed? : List Char → Option Int
  | '-' :: digits => (natural? digits).map fun value => -(value : Int)
  | text => (unsigned? text).map fun value => (value : Int)

/-- The shortest decimal form of an integer. -/
def decimal (value : Int) : String :=
  if value < 0 then "-" ++ Nat.repr value.natAbs else Nat.repr value.natAbs

end SubsetC.Text
