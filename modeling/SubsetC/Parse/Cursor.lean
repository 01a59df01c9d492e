import SubsetC.Token.Basic

/-!
# Token cursors

A cursor stands on a token of a stream that the end of input closes.  Only what
is still ahead is kept: moving on drops a token, and the closing token is never
passed.
-/

namespace SubsetC

/-- The tokens ahead of a cursor and the one that closes them. -/
structure Cursor where
  ahead : List Token
  last : Token
  last_kind : last.kind = .eof

namespace Cursor

/-- A cursor on the first of some tokens.  A stream that the end of input does
not close is closed where its last token stops. -/
def ofTokens (tokens : List Token) (file : String) : Cursor :=
  match tokens.getLast? with
  | some token =>
      if h : token.kind = .eof then
        { ahead := tokens.dropLast, last := token, last_kind := h }
      else { ahead := tokens, last := .endOfInput token.span.stop, last_kind := rfl }
  | none => { ahead := [], last := .endOfInput (.first file), last_kind := rfl }

/-- The token that the cursor stands on. -/
def current (cursor : Cursor) : Token := cursor.ahead.headD cursor.last

/-- The kind of the token that the cursor stands on. -/
def kind (cursor : Cursor) : TokenKind := cursor.current.kind

/-- The number of tokens that can still be passed. -/
def remaining (cursor : Cursor) : Nat := cursor.ahead.length

def advance (cursor : Cursor) : Cursor := { cursor with ahead := cursor.ahead.tail }

/-- Moves on to the first token of a kind, or to the end of input. -/
def skipTo (kind : TokenKind) (cursor : Cursor) : Cursor :=
  { cursor with
    ahead := cursor.ahead.dropWhile fun token => token.kind ≠ kind ∧ token.kind ≠ .eof }

theorem remaining_advance (cursor : Cursor) :
    cursor.advance.remaining = cursor.remaining - 1 := by
  simp [advance, remaining]

/-- Passing a token that does not close the stream leaves fewer. -/
theorem remaining_advance_lt {cursor : Cursor} (hkind : cursor.kind ≠ .eof) :
    cursor.advance.remaining < cursor.remaining := by
  rw [remaining_advance]
  cases hahead : cursor.ahead with
  | nil => simp [kind, current, hahead, cursor.last_kind] at hkind
  | cons token others => simp [remaining, hahead]

end Cursor

end SubsetC
