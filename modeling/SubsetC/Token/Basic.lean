import SubsetC.Source.Position
import SubsetC.Text.Quoted
import SubsetC.Token.Kind

/-!
# Tokens

A token carries its kind, its span and a text.  The text of a string token is
already decoded; a character constant keeps its quotes and escapes, which tell
it apart from an integer.
-/

namespace SubsetC

structure Token where
  kind : TokenKind
  text : String
  span : Span
deriving DecidableEq, Inhabited, Repr

namespace Token

/-- The form in which messages show a token. -/
def describe (token : Token) : String :=
  match token.kind with
  | .identifier | .constant => token.text
  | .string => Text.quoteString token.text
  | kind => kind.lexeme

/-- The token that closes every token stream. -/
def endOfInput (position : Position) : Token :=
  { kind := .eof, text := "EOF", span := Span.empty position }

end Token

end SubsetC
