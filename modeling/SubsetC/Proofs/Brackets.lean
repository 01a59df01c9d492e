import SubsetC.Proofs.LeadingValue
import SubsetC.Proofs.Quiet

/-!
# Brackets

In what the grammar derives brackets and parentheses are matched.  A cursor that skips
from an opening bracket to the next closing one therefore gets past exactly what the
bracket opens, as long as no other bracket of its kind is opened in between.
-/

namespace SubsetC

namespace TokenKind

/-- The kind that closes what an opening bracket or parenthesis opens. -/
def closing? : TokenKind → Option TokenKind
  | openBracket => some closeBracket
  | openParen => some closeParen
  | _ => none

theorem closing?_eq_some_iff {opening closing : TokenKind} :
    opening.closing? = some closing ↔
      opening = openBracket ∧ closing = closeBracket ∨ opening = openParen ∧ closing = closeParen := by
  cases opening <;> simp [closing?, eq_comm]

/-- Whether a token is neither a bracket nor a parenthesis nor the end of input. -/
def isPlain : TokenKind → Bool
  | eof | openBracket | closeBracket | openParen | closeParen => false
  | _ => true

end TokenKind

/-- Lists of tokens in which brackets and parentheses are matched. -/
inductive Bracketed : List Token → Prop
  | nil : Bracketed []
  | token {token : Token} : token.kind.isPlain = true → Bracketed [token]
  | append {ts us : List Token} : Bracketed ts → Bracketed us → Bracketed (ts ++ us)
  | enclose {opening closing : Token} {ts : List Token} :
      opening.kind.closing? = some closing.kind → Bracketed ts →
      Bracketed (opening :: (ts ++ [closing]))

/-! ## Derived tokens are bracketed -/

theorem Bracketed.cons {token : Token} {ts : List Token} (htoken : token.kind.isPlain = true)
    (hts : Bracketed ts) : Bracketed (token :: ts) :=
  .append (.token htoken) hts

theorem isPlain_of_operator? {level : Precedence} {kind : TokenKind} {operator : BinaryOp}
    (hoperator : level.operator? kind = some operator) : kind.isPlain = true := by
  have htoken := (Precedence.operator?_eq_some.1 hoperator).1
  cases kind with
  | eof => contradiction
  | openBracket => contradiction
  | closeBracket => contradiction
  | openParen => contradiction
  | closeParen => contradiction
  | _ => rfl

theorem Separated.bracketed {parts : List (List Token)} {ts : List Token}
    (hseparated : Separated parts ts) (hparts : ∀ part ∈ parts, Bracketed part) :
    Bracketed ts := by
  induction hseparated with
  | none => exact .nil
  | one => exact hparts _ (List.mem_singleton_self _)
  | more hcomma _ ih =>
      obtain ⟨hfirst, hothers⟩ := List.forall_mem_cons.1 hparts
      have hplain : TokenKind.comma.isPlain = true := rfl
      exact .append hfirst (.cons (hcomma ▸ hplain) (ih hothers))

theorem Written.bracketed {tier : Tier} {ts : List Token} {e : Surface}
    (hwritten : Written tier ts e) : Bracketed ts := by
  have hidentifier : TokenKind.identifier.isPlain = true := rfl
  induction hwritten with
  | operand _ ih => exact ih
  | binary hoperator _ _ ihleft ihright =>
      exact .append ihleft (.cons (isPlain_of_operator? hoperator) ihright)
  | not hsign _ ih => exact .cons (by rw [hsign]; rfl) ih
  | factor _ ih => exact ih
  | name hname => exact .token (hname ▸ hidentifier)
  | element hname hopen hclose _ ih =>
      exact .cons (hname ▸ hidentifier) (.enclose (by rw [hopen, hclose]; rfl) ih)
  | call hname hopen hclose _ hseparated ih =>
      have hts := hseparated.bracketed fun part hpart => by
        obtain ⟨argument, hargument, rfl⟩ := List.mem_map.1 hpart
        exact ih argument hargument
      exact .cons (hname ▸ hidentifier) (.enclose (by rw [hopen, hclose]; rfl) hts)
  | string htoken => exact .token (by rw [htoken]; rfl)
  | constant htoken _ => exact .token (by rw [htoken]; rfl)
  | parenthesized hopen hclose _ ih => exact .enclose (by rw [hopen, hclose]; rfl) ih
  | step hsign hname =>
      rename_i operator sign name
      have hplain : operator.token.isPlain = true := by cases operator <;> rfl
      exact .cons (hsign ▸ hplain) (.token (hname ▸ hidentifier))
  | address hsign hname hopen hclose _ ih =>
      exact .cons (by rw [hsign]; rfl)
        (.cons (hname ▸ hidentifier) (.enclose (by rw [hopen, hclose]; rfl) ih))

theorem Bracketed.ne_eof {ts : List Token} (hts : Bracketed ts) :
    ∀ token ∈ ts, token.kind ≠ .eof := by
  induction hts with
  | nil => exact List.forall_mem_nil _
  | @token token hplain =>
      have htoken : token.kind ≠ .eof := fun heof => by simp [heof, TokenKind.isPlain] at hplain
      exact List.forall_mem_singleton.2 htoken
  | append _ _ ihfirst ihsecond => exact List.forall_mem_append.2 ⟨ihfirst, ihsecond⟩
  | @enclose opening closing ts hpair _ ih =>
      have hkinds : opening.kind ≠ .eof ∧ closing.kind ≠ .eof := by
        rcases TokenKind.closing?_eq_some_iff.1 hpair with ⟨hopen, hclose⟩ | ⟨hopen, hclose⟩
        · simp [hopen, hclose]
        · simp [hopen, hclose]
      have hlast := List.forall_mem_singleton (p := fun token : Token => token.kind ≠ .eof).2
        hkinds.2
      exact List.forall_mem_cons.2 ⟨hkinds.1, List.forall_mem_append.2 ⟨ih, hlast⟩⟩

/-! ## Closing brackets follow opening ones -/

/-- A closing token comes only after an opening one. -/
def Guarded (opening closing : TokenKind) : List Token → Prop
  | [] => True
  | token :: others =>
      token.kind = opening ∨ token.kind ≠ closing ∧ Guarded opening closing others

theorem Guarded.append {opening closing : TokenKind} {ts us : List Token}
    (hts : Guarded opening closing ts) (hus : Guarded opening closing us) :
    Guarded opening closing (ts ++ us) := by
  induction ts with
  | nil => exact hus
  | cons token others ih =>
      rcases hts with hopening | ⟨hclosing, hothers⟩
      · exact .inl hopening
      · exact .inr ⟨hclosing, ih hothers⟩

theorem Bracketed.guarded {ts : List Token} (hts : Bracketed ts) {opening closing : TokenKind}
    (hpair : opening.closing? = some closing) : Guarded opening closing ts := by
  have hpairs := TokenKind.closing?_eq_some_iff.1 hpair
  induction hts with
  | nil => trivial
  | @token token hplain =>
      refine .inr ⟨?_, trivial⟩
      rintro hclosing
      rcases hpairs with ⟨-, rfl⟩ | ⟨-, rfl⟩ <;> simp [hclosing, TokenKind.isPlain] at hplain
  | append _ _ ihfirst ihsecond => exact ihfirst.append ihsecond
  | @enclose first last ts hother _ ih =>
      by_cases hfirst : first.kind = opening
      · exact .inl hfirst
      · have hkinds : first.kind ≠ closing ∧ last.kind ≠ closing := by
          rcases TokenKind.closing?_eq_some_iff.1 hother with ⟨hopen, hclose⟩ | ⟨hopen, hclose⟩ <;>
            rcases hpairs with ⟨rfl, rfl⟩ | ⟨rfl, rfl⟩ <;> simp_all
        exact .inr ⟨hkinds.1, ih.append (.inr ⟨hkinds.2, trivial⟩)⟩

/-! ## Skipping over brackets -/

/-- Whether another bracket of a kind is opened before the next one is closed. -/
def nests (opening : TokenKind) (tokens : List Token) : Bool :=
  match opening.closing? with
  | some closing =>
      (tokens.takeWhile fun token => token.kind ≠ closing).any fun token => token.kind = opening
  | none => false

/-- In matched tokens that nest no bracket there is no closing one. -/
theorem Guarded.no_closing {opening closing : TokenKind} {ts rest : List Token}
    (hguarded : Guarded opening closing ts) (hpair : opening.closing? = some closing)
    (hflat : nests opening (ts ++ rest) = false) : ∀ token ∈ ts, token.kind ≠ closing := by
  unfold nests at hflat
  simp only [hpair] at hflat
  have hne : opening ≠ closing := by
    rcases TokenKind.closing?_eq_some_iff.1 hpair with ⟨rfl, rfl⟩ | ⟨rfl, rfl⟩ <;> decide
  induction ts with
  | nil => exact List.forall_mem_nil _
  | cons token others ih =>
      have hopening : token.kind ≠ opening := by
        intro hopening
        simp [hopening, hne] at hflat
      obtain ⟨hclosing, hothers⟩ := hguarded.resolve_left hopening
      refine List.forall_mem_cons.2 ⟨hclosing, ih hothers ?_⟩
      simpa [hclosing, hopening] using hflat

theorem Bracketed.passed {ts rest : List Token} (hts : Bracketed ts)
    {opening closing : TokenKind} (hpair : opening.closing? = some closing)
    (hflat : nests opening (ts ++ rest) = false) :
    ∀ token ∈ ts, token.kind ≠ closing ∧ token.kind ≠ .eof := by
  intro token hmem
  have hclosing := (hts.guarded hpair).no_closing hpair hflat token hmem
  exact ⟨hclosing, hts.ne_eof token hmem⟩

namespace Cursor

/-- All tokens from the cursor on, the closing one included. -/
def toList (cursor : Cursor) : List Token := cursor.ahead ++ [cursor.last]

theorem toList_eq_cons {cursor : Cursor} (hkind : cursor.kind ≠ .eof) :
    cursor.toList = cursor.current :: cursor.advance.toList := by
  unfold toList
  rw [ahead_eq_cons hkind]
  rfl

/-- Skipping to a kind of token that none of the tokens passed over has. -/
theorem skipTo_eq {start stop : Cursor} {ts : List Token} {token : Token}
    (hahead : start.ahead = ts ++ token :: stop.ahead) (hlast : stop.last = start.last)
    (hts : ∀ passed ∈ ts, passed.kind ≠ token.kind ∧ passed.kind ≠ .eof) :
    (start.skipTo token.kind).kind = token.kind ∧ (start.skipTo token.kind).advance = stop := by
  have hskipped : (start.skipTo token.kind).ahead = token :: stop.ahead := by
    simp only [skipTo]
    rw [hahead, List.dropWhile_append_of_pos (by simpa using hts)]
    simp
  constructor
  · simp [kind, current, hskipped]
  · obtain ⟨ahead, last, hkind⟩ := stop
    simp only [advance, skipTo] at *
    simp_all

end Cursor

end SubsetC
