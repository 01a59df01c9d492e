import SubsetC.Parse.Factor
import SubsetC.Program
import SubsetC.Proofs.Grammar

/-!
# Placeless trees

What a parse reads, builds and leaves carries the places in the source that it comes from.  A
placeless token, tree or state has one and the same place everywhere and keeps all the rest:
kinds and texts of tokens, nodes, symbols and types, the causes of reports, and what was
declared and interned.
-/

namespace SubsetC

/-- The place that stands for every place. -/
def Position.nowhere : Position := .first ""

def Span.nowhere : Span := .empty .nowhere

def Token.placeless (token : Token) : Token := .unplaced token.kind token.text

theorem Token.placeless_kind (token : Token) : token.placeless.kind = token.kind := rfl

theorem Token.placeless_text (token : Token) : token.placeless.text = token.text := rfl

theorem Token.placeless_eq_of_same {token other : Token} (hkind : token.kind = other.kind)
    (htext : token.text = other.text) : token.placeless = other.placeless := by
  unfold placeless
  rw [hkind, htext]

/-! ## Expressions -/

namespace Expr

mutual

def placeless : Expr → Expr
  | constant value ty _ => constant value ty .nowhere
  | string text id _ => string text id .nowhere
  | ident symbol _ => ident symbol .nowhere
  | element array index _ => element array index.placeless .nowhere
  | address array index _ _ => address array index.placeless .nowhere .nowhere
  | call callee arguments _ => call callee (allPlaceless arguments) .nowhere
  | step operator operand ty _ => step operator operand ty .nowhere
  | not operand ty _ => not operand.placeless ty .nowhere
  | binary operator lhs rhs ty => binary operator lhs.placeless rhs.placeless ty
  | toInt operand => toInt operand.placeless
  | toChar operand => toChar operand.placeless

def allPlaceless : List Expr → List Expr
  | [] => []
  | e :: others => e.placeless :: allPlaceless others

end

@[simp] theorem placeless_ty (e : Expr) : e.placeless.ty = e.ty := by
  cases e <;> rfl

@[simp] theorem placeless_start : ∀ e : Expr, e.placeless.start = .nowhere
  | constant _ _ _ | string _ _ _ | ident _ _ | element _ _ _ | address _ _ _ _ | call _ _ _
  | step _ _ _ _ | not _ _ _ => rfl
  | binary _ lhs _ _ => placeless_start lhs
  | toInt operand => placeless_start operand
  | toChar operand => placeless_start operand

theorem placeless_stop : ∀ e : Expr, e.placeless.stop = .nowhere
  | constant _ _ _ | string _ _ _ | ident _ _ | element _ _ _ | address _ _ _ _ | call _ _ _
  | step _ _ _ _ | not _ _ _ => rfl
  | binary _ _ rhs _ => placeless_stop rhs
  | toInt operand => placeless_stop operand
  | toChar operand => placeless_stop operand

@[simp] theorem placeless_span (e : Expr) : e.placeless.span = .nowhere := by
  unfold span
  rw [placeless_start, placeless_stop]
  rfl

theorem placeless_widen (e : Expr) : e.widen.placeless = e.placeless.widen := by
  unfold widen
  rw [placeless_ty]
  split
  · rfl
  · rfl

theorem placeless_narrow (e : Expr) : e.narrow.placeless = e.placeless.narrow := by
  unfold narrow
  rw [placeless_ty]
  split
  · rfl
  · rfl

@[simp] theorem length_allPlaceless (es : List Expr) : (allPlaceless es).length = es.length := by
  induction es with
  | nil => rfl
  | cons e others ih => simp [allPlaceless, ih]

end Expr

def Subscript.placeless (target : Subscript) : Subscript :=
  { array := target.array, index := target.index.placeless, span := .nowhere }

def Handoff.placeless : Handoff → Handoff
  | .ident symbol _ => .ident symbol .nowhere
  | .element target => .element target.placeless

/-! ## Statements and programs -/

def Declaration.placeless (declaration : Declaration) : Declaration :=
  { declaration with initial? := declaration.initial?.map Expr.placeless, span := .nowhere }

namespace Stmt

mutual

def placeless : Stmt → Stmt
  | declare declaration => declare declaration.placeless
  | assign target value _ => assign target value.placeless .nowhere
  | assignElement target value _ => assignElement target.placeless value.placeless .nowhere
  | evaluate expr _ => evaluate expr.placeless .nowhere
  | ret value? _ => ret (value?.map Expr.placeless) .nowhere
  | conditional condition accepted none _ =>
      conditional condition.placeless accepted.placeless none .nowhere
  | conditional condition accepted (some rejected) _ =>
      conditional condition.placeless accepted.placeless (some rejected.placeless) .nowhere
  | whileLoop condition body _ => whileLoop condition.placeless body.placeless .nowhere
  | block body _ => block (allPlaceless body) .nowhere
  | null _ => null .nowhere

def allPlaceless : List Stmt → List Stmt
  | [] => []
  | stmt :: others => stmt.placeless :: allPlaceless others

end

@[simp] theorem placeless_span (stmt : Stmt) : stmt.placeless.span = .nowhere := by
  cases stmt with
  | conditional condition accepted rejected? span => cases rejected? <;> rfl
  | _ => rfl

end Stmt

def Block.placeless (block : Block) : Block :=
  { body := Stmt.allPlaceless block.body, span := .nowhere }

def FunctionDef.placeless (defined : FunctionDef) : FunctionDef :=
  { defined with body := defined.body.placeless, span := .nowhere }

def External.placeless : External → External
  | .global declaration => .global declaration.placeless
  | .function defined => .function defined.placeless

def Program.placeless (program : Program) : Program :=
  { program with externals := program.externals.map External.placeless, span := .nowhere }

/-! ## Reports and states -/

def Failure.placeless (failure : Failure) : Failure := { failure with position := .nowhere }

def Diagnostic.placeless (diagnostic : Diagnostic) : Diagnostic :=
  { diagnostic with position := .nowhere }

/-- An event without places, of which the name of the file is one. -/
def Event.placeless : Event → Event
  | .reported diagnostic => .reported diagnostic.placeless
  | .started _ tokens => .started "" tokens
  | .finished _ diagnostics => .finished "" diagnostics
  | .enteredBody function => .enteredBody function
  | .resynchronizing kind _ => .resynchronizing kind .nowhere
  | .built expr => .built expr.placeless
  | .addressed target => .addressed target.placeless

def Journal.placeless (journal : Journal) : Journal :=
  { diagnostics := journal.diagnostics.map Diagnostic.placeless
    events := journal.events.map Event.placeless }

@[simp] theorem Journal.placeless_empty : ({} : Journal).placeless = {} := by
  simp [placeless]

theorem Journal.placeless_note (journal : Journal) (event : Event) :
    (journal.note event).placeless = journal.placeless.note event.placeless := by
  simp [note, placeless]

theorem Journal.placeless_report (journal : Journal) (diagnostic : Diagnostic) :
    (journal.report diagnostic).placeless = journal.placeless.report diagnostic.placeless := by
  simp [report, note, placeless, Event.placeless]

@[simp] theorem Journal.placeless_size (journal : Journal) :
    journal.placeless.size = journal.size := by
  simp [size, placeless]

theorem Journal.placeless_causes (journal : Journal) :
    journal.placeless.diagnostics.map Diagnostic.cause =
      journal.diagnostics.map Diagnostic.cause := by
  unfold placeless
  rw [Array.map_map]
  rfl

namespace Cursor

def placeless (cursor : Cursor) : Cursor where
  ahead := cursor.ahead.map Token.placeless
  last := cursor.last.placeless
  last_kind := cursor.last_kind

@[simp] theorem placeless_current (cursor : Cursor) :
    cursor.placeless.current = cursor.current.placeless := by
  cases hahead : cursor.ahead <;> simp [current, placeless, hahead]

@[simp] theorem placeless_kind (cursor : Cursor) : cursor.placeless.kind = cursor.kind := by
  unfold kind
  rw [placeless_current]
  rfl

@[simp] theorem placeless_remaining (cursor : Cursor) :
    cursor.placeless.remaining = cursor.remaining :=
  List.length_map _

theorem placeless_advance (cursor : Cursor) :
    cursor.advance.placeless = cursor.placeless.advance := by
  simp [advance, placeless]

theorem placeless_skipTo (cursor : Cursor) (kind : TokenKind) :
    (cursor.skipTo kind).placeless = cursor.placeless.skipTo kind := by
  unfold skipTo placeless
  simp only [List.dropWhile_map]
  rfl

theorem placeless_ofTokens (tokens : List Token) (file : String) :
    (ofTokens tokens file).placeless = ofTokens (tokens.map Token.placeless) "" := by
  unfold ofTokens
  rw [List.getLast?_map]
  cases tokens.getLast? with
  | none => rfl
  | some token =>
      by_cases hkind : token.kind = .eof
      · have hplaceless : token.placeless.kind = .eof := hkind
        simp [hkind, hplaceless, placeless, List.map_dropLast]
      · have hplaceless : token.placeless.kind ≠ .eof := hkind
        simp [hkind, hplaceless, placeless]
        rfl

end Cursor

namespace ParseState

def placeless (state : ParseState) : ParseState :=
  { state with cursor := state.cursor.placeless, journal := state.journal.placeless }

theorem placeless_causes (state : ParseState) :
    state.placeless.journal.diagnostics.map Diagnostic.cause =
      state.journal.diagnostics.map Diagnostic.cause :=
  state.journal.placeless_causes

theorem placeless_strings (state : ParseState) : state.placeless.strings = state.strings := rfl

theorem placeless_needsPrintf (state : ParseState) :
    state.placeless.needsPrintf = state.needsPrintf := rfl

theorem placeless_symbols (state : ParseState) : state.placeless.symbols = state.symbols := rfl

end ParseState

def Settings.placeless (settings : Settings) : Settings := { settings with file := "" }

end SubsetC
