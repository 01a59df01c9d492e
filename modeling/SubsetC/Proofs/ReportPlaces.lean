import SubsetC.Proofs.QuietProgram
import SubsetC.Proofs.Scanned
import SubsetC.Proofs.TreeInvariantProgram

/-!
# Places of reports

Whatever is reported, and the failure that ends a parse, lies at the start of a token
that the cursor has reached.  Positions are taken from tokens, from the starts of
operands and from failures that were caught, and none of them from the tokens ahead.
-/

namespace SubsetC

/-- The index of the token that a cursor stands on, in the tokens of its stream. -/
def Cursor.index (cursor : Cursor) (tokens : List Token) : Nat :=
  tokens.length - (cursor.remaining + 1)

/-- Whether a token that starts at the position comes no later than the cursor. -/
def Cursor.Reached (cursor : Cursor) (tokens : List Token) (position : Position) : Prop :=
  ∃ index token, tokens[index]? = some token ∧ index ≤ cursor.index tokens ∧
    position = token.span.start

/-- A cursor that has moved on stands on a later token. -/
theorem Cursor.index_le {cursor later : Cursor} (hmoves : later.ahead <:+ cursor.ahead)
    (tokens : List Token) : cursor.index tokens ≤ later.index tokens := by
  have hremaining := hmoves.length_le
  simp only [index, remaining]
  omega

/-- A cursor somewhere in the stream of some tokens and the one that closes them. -/
structure Cursor.Inside (cursor : Cursor) (body : List Token) (last : Token) : Prop where
  ahead : cursor.ahead <:+ body
  last : cursor.last = last

variable {body : List Token} {last : Token}

theorem Cursor.inside_ofTokens (hlast : last.kind = .eof) (file : String) :
    (ofTokens (body ++ [last]) file).Inside body last := by
  constructor
  · simp [ofTokens_ahead hlast]
  · exact ofTokens_last hlast file

theorem Cursor.Inside.current {cursor : Cursor} (hinside : cursor.Inside body last) :
    (body ++ [last])[cursor.index (body ++ [last])]? = some cursor.current := by
  obtain ⟨passed, rfl⟩ := hinside.ahead
  have hindex : cursor.index (passed ++ cursor.ahead ++ [last]) = passed.length := by
    simp only [index, remaining, List.length_append, List.length_singleton]
    omega
  rw [hindex, List.append_assoc, List.getElem?_append_right (Nat.le_refl _), Nat.sub_self]
  cases hahead : cursor.ahead with
  | nil => simp [Cursor.current, hahead, hinside.last]
  | cons token others => simp [Cursor.current, hahead]

namespace Parse

variable {settings : Settings}

/-- Reports lie at tokens that a later cursor has reached. -/
def reaching (body : List Token) (last : Token) (later : ParseState) : TreeInvariant where
  before state := MovesOn state later
  sound state := state.cursor.Inside body last ∧
    ∀ diagnostic ∈ state.journal.diagnostics.toList,
      later.cursor.Reached (body ++ [last]) diagnostic.position
  place := later.cursor.Reached (body ++ [last])
  tree e := later.cursor.Reached (body ++ [last]) e.start
  before_of hgrows hbefore := StepRelation.trans hgrows.cursor hbefore
  sound_of {state next} hgrows hdiagnostics hsound := by
    refine ⟨⟨hgrows.cursor.1.trans hsound.1.ahead, hgrows.cursor.2.trans hsound.1.last⟩, ?_⟩
    rw [hdiagnostics]
    exact hsound.2
  report {state diagnostic} hplace hsound := by
    refine ⟨hsound.1, ?_⟩
    rw [ParseState.reported_diagnostics]
    exact List.forall_mem_append.2 ⟨hsound.2, List.forall_mem_singleton.2 hplace⟩
  current hsound hbefore := ⟨_, _, hsound.1.current, Cursor.index_le hbefore.1 _, rfl⟩
  start htree := htree
  string _ hplace := hplace
  node _ hplace _ := hplace

end Parse

open Parse

/-- Every diagnostic of a parse, and the failure that ends it, lies at the start of a token
that comes no later than the one where the parse has stopped. -/
theorem reports_reached {settings : Settings} {body : List Token} {last : Token}
    (hlast : last.kind = .eof) :
    (∀ diagnostic ∈ (parse settings (body ++ [last])).2.journal.diagnostics.toList,
      (parse settings (body ++ [last])).2.cursor.Reached (body ++ [last]) diagnostic.position) ∧
    ∀ failure, (parse settings (body ++ [last])).1 = .error failure →
      (parse settings (body ++ [last])).2.cursor.Reached (body ++ [last]) failure.position := by
  obtain ⟨hcursor, hdiagnostics, hfailure⟩ := parse_last settings (body ++ [last])
  have hmaintains : Maintains (reaching body last (externalsOf settings (body ++ [last])).2)
      settings _ _ :=
    externals_maintains (started settings (body ++ [last])).cursor.remaining
  have hstarted : (reaching body last (externalsOf settings (body ++ [last])).2).sound
      (started settings (body ++ [last])) :=
    ⟨Cursor.inside_ofTokens hlast settings.file, by simp [started, ParseState.ofTokens,
      ParseState.noted, Journal.note]⟩
  obtain ⟨hsound, hfine⟩ := hmaintains.fine _ hstarted ⟨List.suffix_rfl, rfl⟩
  rw [hcursor, hdiagnostics]
  refine ⟨hsound.2, fun failure hparse => ?_⟩
  have hfailed := hfailure failure hparse
  unfold externalsOf at hfailed
  rw [hfailed] at hfine
  exact hfine

/-- Misuses at an operator, at an operand in parentheses and at the end of a call, a fault
that is passed over, and one that the input ends in. -/
def misplacedText : String :=
  "int f(int x) \x7b int a[2]; x = a + (a); f((((a)))); f(); x = ; f(x"

theorem misplacedText_reached :
    ∃ body last, tokenize misplacedText "f.c" = .ok (body ++ [last]) ∧ last.kind = .eof ∧
      (parse { file := "f.c" } (body ++ [last])).2.journal.size = 5 ∧
      (parse { file := "f.c" } (body ++ [last])).1.toOption.isNone = true ∧
      (∀ diagnostic ∈ (parse { file := "f.c" } (body ++ [last])).2.journal.diagnostics.toList,
        (parse { file := "f.c" } (body ++ [last])).2.cursor.Reached (body ++ [last])
          diagnostic.position) ∧
      ∀ failure, (parse { file := "f.c" } (body ++ [last])).1 = .error failure →
        (parse { file := "f.c" } (body ++ [last])).2.cursor.Reached (body ++ [last])
          failure.position := by
  have hreads : ((tokenize misplacedText "f.c").toOption.any fun tokens => decide
      ((parse { file := "f.c" } tokens).2.journal.size = 5 ∧
        (parse { file := "f.c" } tokens).1.toOption.isNone = true)) = true := by
    decide +kernel
  obtain ⟨tokens, htokens, hsize, hfails⟩ := exists_tokens hreads
  obtain ⟨body, last, rfl, hlast, -⟩ := tokenize_scanned htokens
  have hreached := @reports_reached { file := "f.c" } body last hlast
  exact ⟨body, last, htokens, hlast, hsize, hfails, hreached⟩

end SubsetC
