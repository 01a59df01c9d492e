import SubsetC.Text.Unprintable

/-!
# Quoted text

Two ways to show characters so that each is visible and none ends the quotes
early.  A string stands between double quotes and keeps every printable
character; a character constant stands between single quotes and keeps only
printable ASCII.
-/

namespace SubsetC.Text

/-- The code point of a character, in hexadecimal without padding. -/
def codePointEscape (c : Char) : List Char :=
  ['\\', 'u', '\x7b'] ++ Nat.toDigits 16 c.toNat ++ ['\x7d']

/-- A character inside double quotes. -/
def escapeInString (c : Char) : List Char :=
  if c = '\x00' then ['\\', '0']
  else if c = '\t' then ['\\', 't']
  else if c = '\r' then ['\\', 'r']
  else if c = '\n' then ['\\', 'n']
  else if c = '\\' then ['\\', '\\']
  else if c = '"' then ['\\', '"']
  else if isUnprintable c then codePointEscape c
  else [c]

/-- A character inside single quotes. -/
def escapeInConstant (c : Char) : List Char :=
  if c = '\t' then ['\\', 't']
  else if c = '\r' then ['\\', 'r']
  else if c = '\n' then ['\\', 'n']
  else if c = '\'' then ['\\', '\'']
  else if c = '"' then ['\\', '"']
  else if c = '\\' then ['\\', '\\']
  else if 0x20 ≤ c.toNat ∧ c.toNat ≤ 0x7E then [c]
  else codePointEscape c

def quoted (text : List Char) : List Char :=
  '"' :: (text.flatMap escapeInString ++ ['"'])

def quotedConstant (c : Char) : List Char :=
  '\'' :: (escapeInConstant c ++ ['\''])

/-- A string between double quotes. -/
def quoteString (text : String) : String :=
  String.ofList (quoted text.toList)

end SubsetC.Text
