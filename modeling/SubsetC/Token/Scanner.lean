import SubsetC.Diagnostic.Fault
import SubsetC.Source.Line
import SubsetC.Token.Basic
import SubsetC.Token.Lexeme

/-!
# Scanning

A scanner stands at a byte offset of a source and has emitted the tokens found
so far.  `tokenize` drives it over the whole text, lexeme by lexeme, and closes
the tokens with the end of input.  The only failure is a character that begins
no lexeme.
-/

namespace SubsetC

structure Scanner where
  source : Source
  offset : Nat := 0
  tokens : Array Token := #[]

namespace Scanner

/-- Moves past a number of bytes. -/
def advance (scanner : Scanner) (count : Nat) : Scanner :=
  { scanner with offset := scanner.offset + count }

/-- Emits a token that spans the next bytes and moves past them. -/
def emit (scanner : Scanner) (kind : TokenKind) (text : String) (length : Nat) : Scanner :=
  let token := { kind := kind, text := text, span := scanner.source.spanAt scanner.offset length }
  { scanner with tokens := scanner.tokens.push token }.advance length

/-- The text that is left; none past the end or inside a character. -/
def remainder? (scanner : Scanner) : Option String :=
  (Text.dropBytes scanner.offset scanner.source.text.toList).map String.ofList

def atEnd (scanner : Scanner) : Bool := scanner.source.size ≤ scanner.offset

/-- Takes a lexeme: a gap is passed over, anything else emitted. -/
def take (scanner : Scanner) (lexeme : Lexeme) : Scanner :=
  let length := Text.byteLength lexeme.text
  match lexeme.kind? with
  | none => scanner.advance length
  | some kind => scanner.emit kind lexeme.value length

/-- Takes lexemes until the text is used up.  Each is at least one character
long, so the length of the text is budget enough. -/
def run : Nat → Scanner → List Char → Except Failure Scanner
  | _, scanner, [] => .ok scanner
  | 0, scanner, _ :: _ => .ok scanner
  | budget + 1, scanner, c :: rest =>
      match Lexeme.next? (c :: rest) with
      | some (lexeme, rest) => run budget (scanner.take lexeme) rest
      | none =>
          .error
            { fault := .unrecognised (String.singleton c)
              position := scanner.source.positionAt scanner.offset }

/-- Closes the tokens with the end of input. -/
def close (scanner : Scanner) : List Token :=
  (scanner.tokens.push (.endOfInput (scanner.source.positionAt scanner.offset))).toList

end Scanner

/-- The tokens of a source text. -/
def tokenize (text file : String) : Except Failure (List Token) :=
  let characters := text.toList
  match Scanner.run characters.length { source := .ofText text file } characters with
  | .ok scanner => .ok scanner.close
  | .error failure => .error failure

end SubsetC
