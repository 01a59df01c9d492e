import SubsetC.Proofs.Grammar
import SubsetC.Proofs.Progress

/-!
# Budgets of expressions

The rules of the grammar recur on budgets.  A budget is not a bound: every whole expression
inside a rule is read behind a token of the rule, and every round of a loop passes one, so
as many rounds as tokens are ahead are enough.

This is shown as agreement of two runs.  Two parses agree below a number if they have the
same outcome on every state with fewer tokens ahead than it says.  A rule that is given two
parses of whole expressions that agree below `n` agrees below `n + 1`, and an induction on
the budget then frees the rules of it: an expression is read by the rules with `expr` itself
for the expressions inside.
-/

namespace SubsetC.Parse

variable {α β : Type} {n : Nat}

/-- The same outcome on every state with fewer tokens ahead. -/
def AgreeBelow (n : Nat) (parse other : Parse α) : Prop :=
  ∀ ⦃settings state⦄, state.cursor.remaining < n → parse settings state = other settings state

theorem map_congr {settings : Settings} {state : ParseState} {parse other : Parse α} {f : α → β}
    (hrun : parse settings state = other settings state) :
    (f <$> parse) settings state = (f <$> other) settings state := by
  rw [map_eq_pure_bind, map_eq_pure_bind]
  exact bind_of_eq hrun

namespace AgreeBelow

variable {parse other : Parse α} {continued rest : α → Parse β}

theorem refl (n : Nat) (parse : Parse α) : AgreeBelow n parse parse := by
  intro settings state _
  rfl

theorem mono {smaller : Nat} (hparse : AgreeBelow n parse other) (hle : smaller ≤ n) :
    AgreeBelow smaller parse other := by
  intro settings state hstate
  exact hparse (Nat.lt_of_lt_of_le hstate hle)

theorem bind [Respects MovesOn parse] (hparse : AgreeBelow n parse other)
    (hcontinued : ∀ value, AgreeBelow n (continued value) (rest value)) :
    AgreeBelow n (parse >>= continued) (other >>= rest) := by
  intro settings state hstate
  have hsame : parse settings state = other settings state := hparse hstate
  cases hrun : parse settings state with
  | ok value middle =>
      have hle := remaining_le hrun
      rw [bind_of_ok hrun, bind_of_ok (hsame.symm.trans hrun)]
      exact hcontinued value (Nat.lt_of_le_of_lt hle hstate)
  | error failure middle => rw [bind_of_error hrun, bind_of_error (hsame.symm.trans hrun)]

/-- A first part that both parses have in common. -/
theorem after [Respects MovesOn parse]
    (hcontinued : ∀ value, AgreeBelow n (continued value) (rest value)) :
    AgreeBelow n (parse >>= continued) (parse >>= rest) :=
  (refl n parse).bind hcontinued

/-- Behind a token one less is enough. -/
theorem after_consumed (hparse : Consumes parse)
    (hcontinued : ∀ value, AgreeBelow n (continued value) (rest value)) :
    AgreeBelow (n + 1) (parse >>= continued) (parse >>= rest) := by
  intro settings state hstate
  cases hrun : parse settings state with
  | ok value middle =>
      have hlt := hparse hrun
      rw [bind_of_ok hrun, bind_of_ok hrun]
      exact hcontinued value (by omega)
  | error failure middle => rw [bind_of_error hrun, bind_of_error hrun]

theorem advance_bind {settings : Settings} {state : ParseState} {continued rest : Token → Parse β}
    (hkind : state.cursor.kind ≠ .eof) (hstate : state.cursor.remaining < n + 1)
    (hcontinued : ∀ token, AgreeBelow n (continued token) (rest token)) :
    (advance >>= continued) settings state = (advance >>= rest) settings state := by
  have hlt := remaining_advanced_lt hkind
  rw [bind_of_ok advance_run, bind_of_ok advance_run]
  exact hcontinued _ (by omega)

/-- The number of tokens ahead is below `n`, and what follows starts from no more of them. -/
theorem remaining_bind {continued rest : Nat → Parse β}
    (hcontinued : ∀ count, count < n → AgreeBelow (count + 1) (continued count) (rest count)) :
    AgreeBelow n (remaining >>= continued) (remaining >>= rest) := by
  intro settings state hstate
  rw [bind_of_ok remaining_run, bind_of_ok remaining_run]
  exact hcontinued _ hstate (Nat.lt_succ_self _)

theorem accept_bind {expected : TokenKind} {continued rest : Bool → Parse β}
    (hexpected : expected ≠ .eof) (haccepted : AgreeBelow n (continued true) (rest true))
    (hrejected : AgreeBelow (n + 1) (continued false) (rest false)) :
    AgreeBelow (n + 1) (accept expected >>= continued) (accept expected >>= rest) := by
  intro settings state hstate
  by_cases hkind : state.cursor.kind = expected
  · have hlt : state.advanced.cursor.remaining < state.cursor.remaining := by
      apply remaining_advanced_lt
      rw [hkind]
      exact hexpected
    rw [bind_of_ok (accept_run_of_eq hkind), bind_of_ok (accept_run_of_eq hkind)]
    exact haccepted (by omega)
  · rw [bind_of_ok (accept_run_of_ne hkind), bind_of_ok (accept_run_of_ne hkind)]
    exact hrejected hstate

theorem map (f : α → β) (hparse : AgreeBelow n parse other) :
    AgreeBelow n (f <$> parse) (f <$> other) := by
  intro settings state hstate
  exact map_congr (hparse hstate)

theorem ite {condition : Prop} [Decidable condition]
    {accepted rejected accepted' rejected' : Parse α}
    (haccepted : AgreeBelow n accepted accepted') (hrejected : AgreeBelow n rejected rejected') :
    AgreeBelow n (if condition then accepted else rejected)
      (if condition then accepted' else rejected') := by
  split
  · exact haccepted
  · exact hrejected

theorem attempt (hparse : AgreeBelow n parse other) :
    AgreeBelow n (attempt parse) (Parse.attempt other) := by
  intro settings state hstate
  unfold Parse.attempt
  rw [hparse hstate]

theorem orFail {parse other : Parse (Option α)} [Respects MovesOn parse]
    (hparse : AgreeBelow n parse other) (failure : Failure) :
    AgreeBelow n (orFail parse failure) (Parse.orFail other failure) := by
  unfold Parse.orFail
  apply hparse.bind
  intro value?
  exact .refl _ _

theorem bracket {before after : ParseState → ParseState} (hparse : AgreeBelow n parse other)
    (hbefore : ∀ state, (before state).cursor = state.cursor) :
    AgreeBelow n (bracket before after parse) (Parse.bracket before after other) := by
  intro settings state hstate
  unfold Parse.bracket
  rw [hparse (by rwa [hbefore])]

end AgreeBelow

/-! ## Factors -/

section Factors

variable {whole other : Parse (Option Expr)} [Respects MovesOn whole]

theorem subscript_agree (hwhole : AgreeBelow n whole other) (array : Symbol) (span : Span) :
    AgreeBelow (n + 1) (subscript whole array span) (subscript other array span) := by
  unfold subscript
  apply AgreeBelow.after_consumed (expect_consumes (by decide))
  intro opening
  apply AgreeBelow.after
  intro start
  apply (hwhole.orFail _).bind
  intro index
  exact .refl _ _

theorem element_agree (hwhole : AgreeBelow n whole other) (array : Symbol) (span : Span) :
    AgreeBelow (n + 1) (element whole array span) (element other array span) := by
  unfold element
  apply AgreeBelow.after
  intro accepted
  apply AgreeBelow.ite
  · apply (subscript_agree hwhole array span).attempt.bind
    intro result
    exact .refl _ _
  · exact .refl _ _

/-- Neither the whole expressions nor the budget matter, as long as it covers the tokens. -/
theorem argumentsFrom_agree (hwhole : AgreeBelow n whole other) (check : CallCheck)
    (callee : Symbol) {budget larger : Nat} (hbudget : n ≤ budget) (hlarger : n ≤ larger)
    (index : Nat) :
    AgreeBelow n (argumentsFrom whole check callee budget index)
      (argumentsFrom other check callee larger index) := by
  induction budget generalizing n larger index with
  | zero =>
      intro settings state hstate
      omega
  | succ budget ih =>
      cases n with
      | zero =>
          intro settings state hstate
          omega
      | succ n =>
          obtain ⟨larger, rfl⟩ : ∃ rest, larger = rest + 1 := ⟨larger - 1, by omega⟩
          unfold argumentsFrom
          apply AgreeBelow.after
          intro start
          apply (hwhole.orFail _).attempt.bind
          intro result
          cases result with
          | error failure => exact .refl _ _
          | ok argument =>
              apply AgreeBelow.after
              intro kept
              apply AgreeBelow.accept_bind (by decide)
              · have hsmaller : AgreeBelow n whole other := hwhole.mono (by omega)
                apply (ih hsmaller (by omega) (by omega) (index + 1)).bind
                intro result
                exact .refl _ _
              · exact .refl _ _

theorem arguments_agree (hwhole : AgreeBelow n whole other) (check : CallCheck)
    (callee : Symbol) :
    AgreeBelow n (arguments whole check callee) (arguments other check callee) := by
  unfold arguments
  apply AgreeBelow.after
  intro found
  apply AgreeBelow.ite
  · exact .refl _ _
  · apply AgreeBelow.remaining_bind
    intro count hcount
    exact argumentsFrom_agree (hwhole.mono hcount) check callee (Nat.le_refl _) (Nat.le_refl _) 0

theorem checkedCall_agree (hwhole : AgreeBelow n whole other) (callee : Symbol) (span : Span) :
    AgreeBelow (n + 1) (checkedCall whole callee span) (checkedCall other callee span) := by
  unfold checkedCall
  apply AgreeBelow.after
  intro settings
  apply AgreeBelow.after
  intro _
  apply AgreeBelow.after_consumed (expect_consumes (by decide))
  intro opening
  apply (arguments_agree hwhole _ callee).bind
  intro result
  exact .refl _ _

theorem call_agree (hwhole : AgreeBelow n whole other) (callee : Symbol) (span : Span) :
    AgreeBelow (n + 1) (call whole callee span) (call other callee span) := by
  unfold call
  apply AgreeBelow.after
  intro settings
  exact .ite (.refl _ _) (checkedCall_agree hwhole callee span)

theorem afterName_agree (hwhole : AgreeBelow n whole other) (symbol : Symbol) (span : Span) :
    AgreeBelow (n + 1) (afterName whole symbol span) (afterName other symbol span) := by
  unfold afterName
  apply AgreeBelow.after
  intro found
  split
  · exact element_agree hwhole symbol span
  · exact call_agree hwhole symbol span
  · exact .refl _ _

theorem named_agree (hwhole : AgreeBelow n whole other) :
    AgreeBelow (n + 1) (named whole) (named other) := by
  unfold named
  apply AgreeBelow.after
  intro name
  apply AgreeBelow.after
  intro symbol
  apply (afterName_agree hwhole symbol name.span).bind
  intro found
  exact .refl _ _

theorem addressed_agree (hwhole : AgreeBelow n whole other) :
    AgreeBelow (n + 1) (addressed whole) (addressed other) := by
  unfold addressed
  apply AgreeBelow.after
  intro token
  apply AgreeBelow.after
  intro start
  apply AgreeBelow.after
  intro name
  apply AgreeBelow.after
  intro symbol
  apply AgreeBelow.after
  intro found
  apply AgreeBelow.ite
  · apply AgreeBelow.after
    intro accepted
    apply AgreeBelow.after
    intro _
    apply (subscript_agree hwhole symbol name.span).bind
    intro target
    exact .refl _ _
  · exact .refl _ _

/-- The one factor that reads a whole expression right behind its first token. -/
theorem parenthesized_agree (hwhole : AgreeBelow n whole other) {settings : Settings}
    {state : ParseState} (hkind : state.cursor.kind ≠ .eof)
    (hstate : state.cursor.remaining < n + 1) :
    parenthesized whole settings state = parenthesized other settings state := by
  unfold parenthesized
  apply AgreeBelow.advance_bind hkind hstate
  intro opening
  apply AgreeBelow.after
  intro start
  apply (hwhole.orFail _).bind
  intro inner
  exact .refl _ _

theorem freshFactor_agree (hwhole : AgreeBelow n whole other) :
    AgreeBelow (n + 1) (freshFactor whole) (freshFactor other) := by
  intro settings state hstate
  unfold freshFactor
  rw [bind_of_ok kind_run, bind_of_ok kind_run]
  generalize hkind : state.cursor.kind = found
  split
  · exact map_congr (named_agree hwhole hstate)
  · rfl
  · rfl
  · exact map_congr (parenthesized_agree hwhole (by rw [hkind]; decide) hstate)
  · rfl
  · rfl
  · exact map_congr (addressed_agree hwhole hstate)
  · rfl

theorem factor_agree (hwhole : AgreeBelow n whole other) (handoff? : Option Handoff) :
    AgreeBelow (n + 1) (factor whole handoff?) (factor other handoff?) := by
  cases handoff? with
  | none => exact freshFactor_agree hwhole
  | some handoff =>
      cases handoff with
      | element target => exact .refl _ _
      | ident symbol span =>
          apply (afterName_agree hwhole symbol span).bind
          intro found
          exact .refl _ _

end Factors

/-! ## Rules by the rules that they call -/

/-- `! Factor`, with the rule for the factor. -/
def negatedWith (factor : Parse (Option Expr)) : Parse Expr := do
  let token ← advance
  let start ← position
  let operand ← orFail factor { fault := .malformed .operandOfNot, position := start }
  let verdict := (← read).rules.judgeNot operand.ty
  reportUnless verdict.accepted (.invalidOperand operand.ty) token.span.start
  return .not operand verdict.ty (token.span.through operand.span)

/-- Value, with the rule for factors. -/
def valueWith (factor : Rule) : Rule
  | some handoff => factor (some handoff)
  | none => do
      if (← kind) = .not then some <$> negatedWith (factor none) else factor none

/-- The rule of a nonterminal, with the rules for the nonterminals that it calls: a level
calls its operands, a value factors, and a factor whole expressions. -/
def ruleWith (rules : Tier → Rule) : Tier → Rule
  | .chain level => chain level (rules level.operand)
  | .value => valueWith (rules .factor)
  | .factor => factor (rules (.chain .logicalOr) none)

/-- The rule of a nonterminal, with the parse of the whole expressions inside it. -/
def ruleIn (whole : Parse (Option Expr)) : Tier → Rule
  | .chain .logicalOr => orExpr whole
  | .chain .logicalAnd => andTerm whole
  | .chain .relational => relExpr whole
  | .chain .additive => numExpr whole
  | .chain .multiplicative => term whole
  | .value => value whole
  | .factor => factor whole

theorem value_eq_valueWith (whole : Parse (Option Expr)) :
    value whole = valueWith (factor whole) := by
  funext handoff?
  cases handoff? <;> rfl

theorem ruleIn_chain (whole : Parse (Option Expr)) (level : Precedence) :
    ruleIn whole (.chain level) = chain level (ruleIn whole level.operand) := by
  cases level <;> rfl

instance (whole : Parse (Option Expr)) [Respects MovesOn whole] (tier : Tier)
    (handoff? : Option Handoff) : Respects MovesOn (ruleIn whole tier handoff?) := by
  unfold ruleIn
  split <;> infer_instance

/-! ## Chains -/

section Chains

variable {level : Precedence}

/-- At the end of input there is no operator. -/
theorem operatorsAfter_at_end {operand : Parse (Option Expr)} {settings : Settings}
    {state : ParseState} (hkind : state.cursor.kind = .eof) (budget : Nat) (lhs : Expr) :
    operatorsAfter level operand budget lhs settings state = .ok lhs state := by
  have hnone : level.operator? .eof = none := rfl
  cases budget with
  | zero => rfl
  | succ budget =>
      unfold operatorsAfter
      rw [bind_of_ok kind_run, hkind]
      simp only [hnone, pure_run]

/-- The operands are read behind an operator. -/
theorem operatorsAfter_agree {operand other : Parse (Option Expr)} [Respects MovesOn operand]
    (hoperand : AgreeBelow n operand other) {budget larger : Nat} (hbudget : n ≤ budget)
    (hlarger : n ≤ larger) (lhs : Expr) :
    AgreeBelow (n + 1) (operatorsAfter level operand budget lhs)
      (operatorsAfter level other larger lhs) := by
  induction budget generalizing n larger lhs with
  | zero =>
      intro settings state hstate
      have hkind : state.cursor.kind = .eof := kind_eq_eof (by omega)
      rw [operatorsAfter_at_end hkind, operatorsAfter_at_end hkind]
  | succ budget ih =>
      intro settings state hstate
      by_cases hkind : state.cursor.kind = .eof
      · rw [operatorsAfter_at_end hkind, operatorsAfter_at_end hkind]
      · have hlt := remaining_advanced_lt hkind
        obtain ⟨n, rfl⟩ : ∃ rest, n = rest + 1 := ⟨n - 1, by omega⟩
        obtain ⟨larger, rfl⟩ : ∃ rest, larger = rest + 1 := ⟨larger - 1, by omega⟩
        unfold operatorsAfter
        rw [bind_of_ok kind_run, bind_of_ok kind_run]
        cases level.operator? state.cursor.kind with
        | none => rfl
        | some operator =>
            have hsmaller : AgreeBelow n operand other := hoperand.mono (by omega)
            apply AgreeBelow.advance_bind hkind hstate
            intro token
            apply (hoperand.orFail _).bind
            intro rhs
            apply AgreeBelow.after
            intro node
            exact ih hsmaller (by omega) (by omega) node

/-- A chain reads its first operand where it stands and the others behind an operator. -/
theorem chain_local {operand other : Rule} [∀ handoff?, Respects MovesOn (operand handoff?)]
    {settings : Settings} {state : ParseState} (handoff? : Option Handoff)
    (hhere : operand handoff? settings state = other handoff? settings state)
    (hbehind : AgreeBelow state.cursor.remaining (operand none) (other none)) :
    chain level operand handoff? settings state = chain level other handoff? settings state := by
  unfold chain
  cases hrun : operand handoff? settings state with
  | error failure middle => rw [bind_of_error hrun, bind_of_error (hhere.symm.trans hrun)]
  | ok lhs? middle =>
      rw [bind_of_ok hrun, bind_of_ok (hhere.symm.trans hrun)]
      cases lhs? with
      | none => rfl
      | some lhs =>
          have hnext := hbehind.mono (remaining_le hrun)
          have hoperators : AgreeBelow (middle.cursor.remaining + 1)
              (operatorsAfter level (operand none) middle.cursor.remaining lhs)
              (operatorsAfter level (other none) middle.cursor.remaining lhs) :=
            operatorsAfter_agree hnext (Nat.le_refl _) (Nat.le_refl _) lhs
          simp only [bind_of_ok remaining_run]
          apply map_congr
          exact hoperators (Nat.lt_succ_self _)

theorem chain_agree {operand other : Rule} [∀ handoff?, Respects MovesOn (operand handoff?)]
    (hoperand : ∀ handoff?, AgreeBelow n (operand handoff?) (other handoff?))
    (handoff? : Option Handoff) :
    AgreeBelow n (chain level operand handoff?) (chain level other handoff?) := by
  intro settings state hstate
  apply chain_local handoff? (hoperand handoff? hstate)
  exact (hoperand none).mono (Nat.le_of_lt hstate)

end Chains

/-! ## Values -/

/-- A value reads a factor where it stands or behind the sign of a negation. -/
theorem valueWith_local {rule other : Rule} [∀ handoff?, Respects MovesOn (rule handoff?)]
    {settings : Settings} {state : ParseState} (handoff? : Option Handoff)
    (hhere : rule handoff? settings state = other handoff? settings state)
    (hbehind : AgreeBelow state.cursor.remaining (rule none) (other none)) :
    valueWith rule handoff? settings state = valueWith other handoff? settings state := by
  cases handoff? with
  | some handoff => exact hhere
  | none =>
      simp only [valueWith, bind_of_ok kind_run]
      by_cases hnot : state.cursor.kind = .not
      · rw [if_pos hnot, if_pos hnot]
        apply map_congr
        unfold negatedWith
        apply AgreeBelow.advance_bind (by rw [hnot]; decide) (Nat.lt_succ_self _)
        intro token
        apply AgreeBelow.after
        intro start
        apply (hbehind.orFail _).bind
        intro operand
        exact .refl _ _
      · rw [if_neg hnot, if_neg hnot]
        exact hhere

theorem valueWith_agree {rule other : Rule} [∀ handoff?, Respects MovesOn (rule handoff?)]
    (hrule : ∀ handoff?, AgreeBelow n (rule handoff?) (other handoff?))
    (handoff? : Option Handoff) :
    AgreeBelow n (valueWith rule handoff?) (valueWith other handoff?) := by
  intro settings state hstate
  apply valueWith_local handoff? (hrule handoff? hstate)
  exact (hrule none).mono (Nat.le_of_lt hstate)

/-! ## Expressions -/

/-- Every rule reads the whole expressions inside it behind a token. -/
theorem ruleIn_agree {whole other : Parse (Option Expr)} [Respects MovesOn whole]
    (hwhole : AgreeBelow n whole other) (tier : Tier) (handoff? : Option Handoff) :
    AgreeBelow (n + 1) (ruleIn whole tier handoff?) (ruleIn other tier handoff?) := by
  have hvalue (handoff? : Option Handoff) :
      AgreeBelow (n + 1) (value whole handoff?) (value other handoff?) := by
    rw [value_eq_valueWith, value_eq_valueWith]
    exact valueWith_agree (factor_agree hwhole) handoff?
  have hterm (handoff? : Option Handoff) :
      AgreeBelow (n + 1) (term whole handoff?) (term other handoff?) :=
    chain_agree hvalue handoff?
  have hnumExpr (handoff? : Option Handoff) :
      AgreeBelow (n + 1) (numExpr whole handoff?) (numExpr other handoff?) :=
    chain_agree hterm handoff?
  have hrelExpr (handoff? : Option Handoff) :
      AgreeBelow (n + 1) (relExpr whole handoff?) (relExpr other handoff?) :=
    chain_agree hnumExpr handoff?
  have handTerm (handoff? : Option Handoff) :
      AgreeBelow (n + 1) (andTerm whole handoff?) (andTerm other handoff?) :=
    chain_agree hrelExpr handoff?
  rcases tier with ⟨_ | _ | _ | _ | _⟩ | _ | _
  · exact chain_agree handTerm handoff?
  · exact handTerm handoff?
  · exact hrelExpr handoff?
  · exact hnumExpr handoff?
  · exact hterm handoff?
  · exact hvalue handoff?
  · exact factor_agree hwhole handoff?

/-- Two budgets that cover the tokens ahead give the same outcome. -/
theorem exprWithin_agree {budget larger : Nat} (hbudget : n ≤ budget) (hlarger : n ≤ larger)
    (handoff? : Option Handoff) :
    AgreeBelow n (exprWithin budget handoff?) (exprWithin larger handoff?) := by
  induction budget generalizing n larger handoff? with
  | zero =>
      intro settings state hstate
      omega
  | succ budget ih =>
      cases n with
      | zero =>
          intro settings state hstate
          omega
      | succ n =>
          obtain ⟨larger, rfl⟩ : ∃ rest, larger = rest + 1 := ⟨larger - 1, by omega⟩
          have hwhole : AgreeBelow n (exprWithin budget none) (exprWithin larger none) :=
            ih (by omega) (by omega) none
          exact ruleIn_agree hwhole (.chain .logicalOr) handoff?

theorem exprWithin_agree_expr {budget : Nat} (hbudget : n ≤ budget) :
    AgreeBelow n (exprWithin budget none) expr := by
  intro settings state hstate
  have hsame : AgreeBelow (state.cursor.remaining + 1) (exprWithin budget none)
      (exprWithin (state.cursor.remaining + 2) none) :=
    exprWithin_agree (by omega) (by omega) none
  rw [hsame (Nat.lt_succ_self _)]
  rfl

/-- What is run with the parse of expressions that the tokens ahead allow is run with the
parse of an expression. -/
theorem withExpr_eq {rule : Parse (Option Expr) → Parse α}
    (hrule : ∀ {n} {whole other : Parse (Option Expr)} [Respects MovesOn whole],
      AgreeBelow n whole other → AgreeBelow (n + 1) (rule whole) (rule other)) :
    withExpr rule = rule expr := by
  funext settings state
  have hwhole := exprWithin_agree_expr (Nat.le_refl (state.cursor.remaining + 1))
  unfold withExpr
  rw [bind_of_ok remaining_run]
  exact hrule hwhole (by omega)

theorem exprAfter_eq (handoff? : Option Handoff) : exprAfter handoff? = orExpr expr handoff? :=
  withExpr_eq fun hwhole => ruleIn_agree hwhole (.chain .logicalOr) handoff?

theorem withExpr_subscript (array : Symbol) (span : Span) :
    withExpr (fun whole => subscript whole array span) = subscript expr array span :=
  withExpr_eq fun hwhole => subscript_agree hwhole array span

/-- The rules satisfy the equations of the grammar, of which no budget is a part. -/
theorem ruleIn_expr_eq (tier : Tier) : ruleIn expr tier = ruleWith (ruleIn expr) tier := by
  cases tier with
  | chain level => exact ruleIn_chain expr level
  | value => exact value_eq_valueWith expr
  | factor =>
      have hexpr : orExpr expr none = expr := (exprAfter_eq none).symm
      change factor expr = factor (orExpr expr none)
      rw [hexpr]

end SubsetC.Parse
