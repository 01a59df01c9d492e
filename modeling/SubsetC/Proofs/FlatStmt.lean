import SubsetC.Proofs.Enclosure

/-!
# Flat statements

A flat statement is a semicolon with tokens before it that nest nothing and close
nothing.  Whatever these tokens are, a statement read there ends behind the semicolon, or it
fails and stands before the semicolon still.
-/

namespace SubsetC

/-- Whether tokens of a kind neither end a statement nor have others nested in it. -/
def TokenKind.isFlat : TokenKind → Bool
  | semicolon | openParen | closeParen | openBracket | closeBracket | openCurly | closeCurly
  | ifWord | whileWord | eof => false
  | _ => true

/-- A statement in which no other nests, up to its semicolon. -/
def Enclosure.statement : Enclosure where
  admits := TokenKind.isFlat
  closing := .semicolon
  isDelimiter := rfl
  admits_closing := rfl
  admits_eof := rfl
  admits_openBracket := rfl
  admits_openParen := rfl

/-- Tokens up to a semicolon that nest nothing. -/
def IsFlat (part : List Token) : Prop :=
  ∃ body semicolon, (∀ token ∈ body, token.kind.isFlat = true) ∧
    semicolon.kind = .semicolon ∧ part = body ++ [semicolon]

theorem IsFlat.enclosed {part rest : List Token} {state : ParseState} (hflat : IsFlat part)
    (hahead : state.cursor.ahead = part ++ rest) : state.Enclosed .statement rest := by
  obtain ⟨body, semicolon, hbody, hend, rfl⟩ := hflat
  exact ⟨body, semicolon, hbody, hend, by rw [hahead, List.append_assoc]; rfl⟩

theorem IsFlat.kind_ne {token : Token} {tail : List Token} {kind : TokenKind}
    (hflat : IsFlat (token :: tail)) (hkind : kind.isFlat = false)
    (hsemicolon : kind ≠ .semicolon) : token.kind ≠ kind := by
  obtain ⟨body, semicolon, hbody, hend, hpart⟩ := hflat
  cases body with
  | nil =>
      cases hpart
      rw [hend]
      exact hsemicolon.symm
  | cons first body =>
      obtain ⟨rfl, -⟩ := List.cons.inj hpart
      have hfirst : Enclosure.statement.admits token.kind = true :=
        hbody token List.mem_cons_self
      exact Enclosure.ne_of_admits hfirst hkind

theorem isFlat_iff {part : List Token} : IsFlat part ↔
    (∀ token ∈ part.dropLast, token.kind.isFlat = true) ∧
      ∃ semicolon ∈ part.getLast?, semicolon.kind = .semicolon := by
  constructor
  · rintro ⟨body, semicolon, hbody, hend, rfl⟩
    rw [List.dropLast_concat]
    exact ⟨hbody, semicolon, List.getLast?_concat, hend⟩
  · rintro ⟨hbody, semicolon, hlast, hend⟩
    exact ⟨part.dropLast, semicolon, hbody, hend, (List.dropLast_append_getLast? _ hlast).symm⟩

instance : DecidablePred IsFlat := fun _ => decidable_of_iff _ isFlat_iff.symm

namespace Parse

variable {α β : Type} {settings : Settings} {state : ParseState} {rest : List Token}

/-! ## Statements -/

theorem isDelimiter_of_ofSpecifier? {kind : TokenKind} {ty : Ty}
    (hspecifier : Ty.ofSpecifier? kind = some ty) : kind.isDelimiter = false := by
  cases hdelimiter : kind.isDelimiter with
  | false => rfl
  | true => cases kind <;> contradiction

theorem typeSpecifier_inside : Stays settings .statement rest state typeSpecifier := by
  unfold typeSpecifier
  apply Walks.bind_of_look current_run
  cases hty : Ty.ofSpecifier? state.cursor.current.kind with
  | none => exact .failAt _ _
  | some ty =>
      exact .advance_bind (isDelimiter_of_ofSpecifier? hty) (.pure ty)

theorem initialValue_inside (ty : Ty) : Stays settings .statement rest state (initialValue ty) := by
  apply Walks.bind_of_look kind_run
  split
  · apply Walks.advance_bind (by simp [*, TokenKind.isDelimiter])
    apply Walks.bind (requireExpr_inside _)
    intro value next
    exact Walks.map (.of_remarks (coerce_remarks ty value (fun _ _ => rfl) _))
  · exact .pure none

theorem declaredType_inside (base : Ty) (name : Token) :
    Stays settings .statement rest state (declaredType base name) := by
  apply Walks.of_enclosed
  intro henclosed
  unfold declaredType
  apply Walks.bind_of_look (accept_run_of_ne (henclosed.kind_ne rfl (by decide)))
  exact .pure _

theorem declarator_closes (base : Ty) (name : Token) (start : Position) :
    Closes settings .statement rest state (declarator base name start) := by
  unfold declarator
  apply Walks.bind (declaredType_inside base name)
  rintro ⟨ty, size?⟩ next
  dsimp only
  split
  · exact .failAt _ _
  · apply Walks.bind (.of_remarks (declareVariable_remarks name ty))
    intro symbol next
    exact (initialValue_inside ty).bind fun _ _ => .close_pure _

theorem declaration_closes : Closes settings .statement rest state declaration := by
  apply Walks.bind_of_look position_run
  apply Walks.bind typeSpecifier_inside
  intro base next
  have hname : Stays settings .statement rest next (expectFor .identifier .declaredName) :=
    .bind_of_look current_run (.expectOr rfl)
  exact hname.bind fun name _ => declarator_closes base name _

theorem returned_closes (hkind : state.cursor.kind = .returnWord) :
    Closes settings .statement rest state returned := by
  unfold returned
  apply Walks.advance_bind (by rw [hkind]; rfl)
  apply Walks.bind_of_look get_run
  apply Walks.bind (exprAfter_inside none)
  intro value? next
  cases value? with
  | none =>
      apply Walks.bind (.of_remarks (reportUnless_remarks _ rfl _))
      intro _ next
      exact .close_pure _
  | some value =>
      apply Walks.bind (.of_remarks (coerce_remarks _ value (fun _ _ => rfl) _))
      intro value next
      exact .close_pure _

theorem beginning_inside (name : Token) :
    Stays settings .statement rest state (beginning name) := by
  unfold beginning
  apply Walks.bind (.of_remarks (resolve_remarks _ _))
  intro symbol next
  apply Walks.of_enclosed
  intro henclosed
  apply Walks.bind_of_look kind_run
  rw [if_neg (henclosed.kind_ne rfl (by decide))]
  exact .pure _

theorem namedStmt_closes (hkind : state.cursor.kind = .identifier) :
    Closes settings .statement rest state namedStmt := by
  unfold namedStmt
  apply Walks.advance_bind (by rw [hkind]; rfl)
  apply Walks.bind (beginning_inside _)
  intro handoff next
  apply Walks.bind_of_look kind_run
  split
  · apply Walks.advance_bind (by simp [*, TokenKind.isDelimiter])
    apply Walks.bind (requireExpr_inside _)
    intro value next
    exact .close fun semicolon => assignment_remarks handoff value _ _
  · apply Walks.bind (.orFail _ (exprAfter_inside _))
    intro value next
    exact .close_pure _

theorem evaluated_closes : Closes settings .statement rest state evaluated := by
  apply Walks.bind_of_look current_run
  apply Walks.bind (.orFail _ (exprAfter_inside none))
  intro value next
  exact .close_pure _

/-- No statement stands inside a flat one. -/
theorem stmtWith_closes (inner : Parse Stmt) :
    Closes settings .statement rest state (stmtWith inner) := by
  apply Walks.of_enclosed
  intro henclosed
  unfold stmtWith
  apply Walks.bind_of_look kind_run
  split
  case h_1 hkind => exact absurd hkind (henclosed.kind_ne rfl (by decide))
  case h_2 hkind => exact absurd hkind (henclosed.kind_ne rfl (by decide))
  case h_3 hkind => exact absurd hkind (henclosed.kind_ne rfl (by decide))
  case h_4 hkind => exact returned_closes hkind
  case h_5 hkind =>
      intro _
      exact ⟨henclosed.passed hkind, .refl _⟩
  case h_6 hkind => exact namedStmt_closes hkind
  case h_10 => exact evaluated_closes
  all_goals exact declaration_closes.map

theorem stmt_closes : Closes settings .statement rest state stmt := by
  rw [stmt_eq]
  exact stmtWith_closes stmt

end Parse

end SubsetC
