import SubsetC.Proofs.Grammar

/-!
# The first value of an expression

The grammar derives a chain of operators from its end, and a parser reads it from
its beginning.  The two meet in the first value: an expression is its first value
and what continues it, level by level, where a level continues what its operand
gave by operators with their right operands.
-/

namespace SubsetC

/-! ## How tightly a nonterminal binds -/

/-- The levels counted from the loosest. -/
def Precedence.rank : Precedence → Nat
  | logicalOr => 0
  | logicalAnd => 1
  | relational => 2
  | additive => 3
  | multiplicative => 4

def Tier.rank : Tier → Nat
  | chain level => level.rank
  | value => 5
  | factor => 6

theorem Precedence.rank_operand (level : Precedence) :
    level.operand.rank = level.rank + 1 := by
  cases level <;> rfl

theorem Tier.rank_injective : Function.Injective Tier.rank := by
  intro first second
  rcases first with ⟨⟨⟩⟩ | _ | _ <;> rcases second with ⟨⟨⟩⟩ | _ | _ <;> decide

theorem Tier.rank_le_factor (tier : Tier) : tier.rank ≤ Tier.factor.rank := by
  rcases tier with ⟨⟨⟩⟩ | _ | _ <;> decide

theorem Written.loosen {tier looser : Tier} {ts : List Token} {e : Surface}
    (hwritten : Written tier ts e) (hrank : looser.rank ≤ tier.rank) :
    Written looser ts e := by
  induction hgap : tier.rank - looser.rank generalizing looser with
  | zero =>
      have hsame : looser.rank = tier.rank := by omega
      rw [Tier.rank_injective hsame]
      exact hwritten
  | succ gap ih =>
      have htightest := tier.rank_le_factor
      cases looser with
      | chain level =>
          have hoperand : level.operand.rank = (Tier.chain level).rank + 1 := level.rank_operand
          exact .operand (ih (by omega) (by omega))
      | value =>
          have hnext : Tier.factor.rank = Tier.value.rank + 1 := rfl
          exact .factor (ih (by omega) (by omega))
      | factor => omega

/-- Whether a token may stand after an expression without being a part of it. -/
def Stops (tier : Tier) (kind : TokenKind) : Prop :=
  kind ≠ .openBracket ∧ kind ≠ .openParen ∧
    ∀ operator, BinaryOp.ofToken? kind = some operator → operator.precedence.rank < tier.rank

theorem stops_of_no_operator {tier : Tier} {kind : TokenKind} (hbracket : kind ≠ .openBracket)
    (hparen : kind ≠ .openParen) (hoperator : BinaryOp.ofToken? kind = none) :
    Stops tier kind := by
  refine ⟨hbracket, hparen, ?_⟩
  intro operator hsome
  rw [hoperator] at hsome
  contradiction

theorem Precedence.operator?_eq_some {level : Precedence} {kind : TokenKind}
    {operator : BinaryOp} :
    level.operator? kind = some operator ↔
      BinaryOp.ofToken? kind = some operator ∧ operator.precedence = level := by
  simp [Precedence.operator?, Option.filter_eq_some_iff]

theorem Stops.operand {level : Precedence} {kind : TokenKind}
    (hstops : Stops (.chain level) kind) : Stops level.operand kind := by
  refine ⟨hstops.1, hstops.2.1, ?_⟩
  intro operator hoperator
  have hless : operator.precedence.rank < level.rank := hstops.2.2 operator hoperator
  rw [Precedence.rank_operand]
  omega

theorem stops_factor {kind : TokenKind} (hstops : Stops .value kind) : Stops .factor kind := by
  refine ⟨hstops.1, hstops.2.1, ?_⟩
  intro operator hoperator
  exact Nat.lt_succ_of_lt (hstops.2.2 operator hoperator)

theorem Stops.operator?_eq_none {level : Precedence} {kind : TokenKind}
    (hstops : Stops (.chain level) kind) : level.operator? kind = none := by
  cases hoperator : level.operator? kind with
  | none => rfl
  | some operator =>
      obtain ⟨htoken, hlevel⟩ := Precedence.operator?_eq_some.1 hoperator
      have hless : operator.precedence.rank < level.rank := hstops.2.2 operator htoken
      rw [hlevel] at hless
      omega

theorem stops_of_operator {level : Precedence} {kind : TokenKind} {operator : BinaryOp}
    (hoperator : level.operator? kind = some operator) : Stops level.operand kind := by
  obtain ⟨htoken, hlevel⟩ := Precedence.operator?_eq_some.1 hoperator
  refine ⟨?_, ?_, ?_⟩
  · rintro rfl
    contradiction
  · rintro rfl
    contradiction
  · intro other hother
    rw [htoken] at hother
    cases hother
    rw [hlevel, Precedence.rank_operand]
    omega

/-! ## What continues a value -/

/-- The operators of a level with their right operands, after a left operand. -/
inductive Operators (level : Precedence) : Surface → List Token → Surface → Prop
  | nil {left : Surface} : Operators level left [] left
  | cons {operator : BinaryOp} {sign : Token} {rhs tail : List Token}
      {left right result : Surface} : level.operator? sign.kind = some operator →
      Written level.operand rhs right →
      Operators level (.binary operator left right) tail result →
      Operators level left (sign :: (rhs ++ tail)) result

theorem Operators.snoc {level : Precedence} {operator : BinaryOp} {sign : Token}
    {us rhs : List Token} {left middle right : Surface}
    (hoperators : Operators level left us middle)
    (hoperator : level.operator? sign.kind = some operator)
    (hright : Written level.operand rhs right) :
    Operators level left (us ++ sign :: rhs) (.binary operator middle right) := by
  induction hoperators with
  | @nil left =>
      have hone : Operators level left (sign :: (rhs ++ [])) (.binary operator left right) :=
        .cons hoperator hright .nil
      rw [List.append_nil] at hone
      exact hone
  | cons hfirst hrhs _ ih =>
      rw [List.cons_append, List.append_assoc]
      exact .cons hfirst hrhs ih

/-- The tokens that complete a value to an expression of a tier. -/
inductive Continues (first : Surface) : Tier → List Token → Surface → Prop
  | value : Continues first .value [] first
  | chain {level : Precedence} {us vs : List Token} {left result : Surface} :
      Continues first level.operand us left → Operators level left vs result →
      Continues first (.chain level) (us ++ vs) result

/-- Every expression is its first value and what continues it. -/
theorem Written.leading_value {tier : Tier} {ts : List Token} {e : Surface}
    (hwritten : Written tier ts e) (htier : tier ≠ .factor) :
    ∃ lead first us, Written .value lead first ∧ Continues first tier us e ∧
      ts = lead ++ us := by
  induction hwritten with
  | operand hoperand ih =>
      rename_i level _ _
      have hnotFactor : level.operand ≠ .factor := by cases level <;> decide
      obtain ⟨lead, first, us, hlead, hcontinues, rfl⟩ := ih hnotFactor
      refine ⟨lead, first, us, hlead, ?_, rfl⟩
      have hchain := Continues.chain hcontinues .nil
      rw [List.append_nil] at hchain
      exact hchain
  | binary hoperator _ hright ihleft _ =>
      obtain ⟨lead, first, us, hlead, hcontinues, rfl⟩ := ihleft (by simp)
      cases hcontinues with
      | chain hus hoperators =>
          refine ⟨lead, first, _, hlead, .chain hus (hoperators.snoc hoperator hright), ?_⟩
          simp only [List.append_assoc]
  | not hsign hoperand => exact ⟨_, _, [], .not hsign hoperand, .value, by simp⟩
  | factor hfactor => exact ⟨_, _, [], .factor hfactor, .value, by simp⟩
  | _ => exact (htier rfl).elim

/-! ## Lengths -/

theorem Separated.length_le {parts : List (List Token)} {ts : List Token}
    (hseparated : Separated parts ts) : parts.length ≤ ts.length + 1 := by
  induction hseparated with
  | none => simp
  | one => simp
  | more _ _ ih =>
      simp only [List.length_cons, List.length_append] at ih ⊢
      omega

theorem Separated.length_part_le {parts : List (List Token)} {ts part : List Token}
    (hseparated : Separated parts ts) (hpart : part ∈ parts) : part.length ≤ ts.length := by
  induction hseparated with
  | none => contradiction
  | one => exact Nat.le_of_eq (by rw [List.mem_singleton.1 hpart])
  | more _ _ ih =>
      rw [List.length_append, List.length_cons]
      rcases List.mem_cons.1 hpart with rfl | hpart
      · omega
      · have hless := ih hpart
        omega

end SubsetC
