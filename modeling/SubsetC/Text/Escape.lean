/-!
# Escapes in literals

The body of a string literal or a character constant is decoded in one pass.  A
backslash starts an escape; one that starts no known escape stands for itself.
-/

namespace SubsetC.Text

/-- The character that a one-letter escape stands for. -/
def letterEscape? : Char → Option Char
  | 'n' => some '\n'
  | 't' => some '\t'
  | 'r' => some '\r'
  | '0' => some '\x00'
  | '\\' => some '\\'
  | '"' => some '"'
  | '\'' => some '\''
  | _ => none

/-- The value of a hexadecimal digit of either case. -/
def hexValue? (c : Char) : Option Nat :=
  let n := c.toNat
  if 48 ≤ n ∧ n ≤ 57 then some (n - 48)
  else if 97 ≤ n ∧ n ≤ 102 then some (n - 87)
  else if 65 ≤ n ∧ n ≤ 70 then some (n - 55)
  else none

def isHexDigit (c : Char) : Bool := (hexValue? c).isSome

/-- Decodes the escapes of a literal's body.  A hexadecimal escape takes at most
two digits and stays as written if it has none. -/
def unescape : List Char → List Char
  | [] => []
  | '\\' :: 'x' :: first :: second :: rest =>
      match hexValue? first, hexValue? second with
      | some high, some low => Char.ofNat (16 * high + low) :: unescape rest
      | some value, none => Char.ofNat value :: unescape (second :: rest)
      | none, _ => '\\' :: 'x' :: unescape (first :: second :: rest)
  | ['\\', 'x', digit] =>
      match hexValue? digit with
      | some value => [Char.ofNat value]
      | none => '\\' :: 'x' :: unescape [digit]
  | '\\' :: c :: rest =>
      match letterEscape? c with
      | some decoded => decoded :: unescape rest
      | none => '\\' :: unescape (c :: rest)
  | c :: rest => c :: unescape rest

end SubsetC.Text
