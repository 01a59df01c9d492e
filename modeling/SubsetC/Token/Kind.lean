/-!
# Token kinds

The kinds of tokens of the language.  Most have a fixed text; identifiers,
constants and strings vary, and the end of input has no text of its own.
-/

namespace SubsetC

inductive TokenKind where
  | eof
  | identifier
  | constant
  | string
  | openBracket
  | closeBracket
  | openCurly
  | closeCurly
  | openParen
  | closeParen
  | assignment
  | equals
  | not
  | notEquals
  | less
  | greater
  | or
  | and
  | ampersand
  | plusPlus
  | minusMinus
  | plus
  | dash
  | star
  | slash
  | percent
  | semicolon
  | comma
  | intWord
  | charWord
  | voidWord
  | ifWord
  | elseWord
  | whileWord
  | returnWord
deriving DecidableEq, Inhabited, Repr

namespace TokenKind

/-- The text of a token whose text is fixed, and a description of the others. -/
def lexeme : TokenKind → String
  | eof => "end of file"
  | identifier => "identifier"
  | constant => "constant"
  | string => "string"
  | openBracket => "["
  | closeBracket => "]"
  | openCurly => "\x7b"
  | closeCurly => "\x7d"
  | openParen => "("
  | closeParen => ")"
  | assignment => "="
  | equals => "=="
  | not => "!"
  | notEquals => "!="
  | less => "<"
  | greater => ">"
  | or => "||"
  | and => "&&"
  | ampersand => "&"
  | plusPlus => "++"
  | minusMinus => "--"
  | plus => "+"
  | dash => "-"
  | star => "*"
  | slash => "/"
  | percent => "%"
  | semicolon => ";"
  | comma => ","
  | intWord => "int"
  | charWord => "char"
  | voidWord => "void"
  | ifWord => "if"
  | elseWord => "else"
  | whileWord => "while"
  | returnWord => "return"

/-- The reserved words; every other word is an identifier. -/
def reserved : List TokenKind :=
  [intWord, charWord, voidWord, ifWord, elseWord, whileWord, returnWord]

/-- The kind of a reserved word. -/
def ofReserved? (word : String) : Option TokenKind :=
  reserved.find? fun kind => kind.lexeme = word

def isTypeSpecifier : TokenKind → Bool
  | intWord | charWord | voidWord => true
  | _ => false

end TokenKind

end SubsetC
