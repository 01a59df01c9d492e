import SubsetC.Proofs.BudgetsProgram
import SubsetC.Proofs.LeadingValue
import SubsetC.Proofs.Scanned

/-!
# Termination

Parsing always moves on.  No rule takes the cursor back or past the closing token, and a
statement, a function or a recovery that succeeds has passed a token.  A rule for expressions
runs other rules behind a token, or it runs a rule of a tighter tier where it stands, so the
equations of the grammar determine every outcome; and no loop has more rounds than tokens are
ahead.
-/

namespace SubsetC.Parse

variable {α : Type}

/-- What reads tokens: the moves of the cursor, the recoveries and the rules of the grammar,
each with any reading of the expressions or statements inside it. -/
inductive Reading : {α : Type} → Parse α → Prop
  | advance : Reading advance
  | accept (expected : TokenKind) : Reading (accept expected)
  | expectOr (expected : TokenKind) (failure : Failure) : Reading (expectOr expected failure)
  | expect (expected : TokenKind) : Reading (expect expected)
  | expectFor (expected : TokenKind) (expectation : Expectation) :
      Reading (expectFor expected expectation)
  | skipTo (target : TokenKind) : Reading (skipTo target)
  | resynchronize (target : TokenKind) : Reading (resynchronize target)
  | skipPast (target : TokenKind) : Reading (skipPast target)
  | recoverPast (delimiter : TokenKind) (failure : Failure) :
      Reading (recoverPast delimiter failure)
  | recoverStmt (failure : Failure) : Reading (recoverStmt failure)
  | subscript {whole : Parse (Option Expr)} (array : Symbol) (span : Span) :
      Reading whole → Reading (subscript whole array span)
  | rejectSubscript (symbol : Symbol) (span : Span) : Reading (rejectSubscript symbol span)
  | element {whole : Parse (Option Expr)} (array : Symbol) (span : Span) :
      Reading whole → Reading (element whole array span)
  | argumentsFrom {whole : Parse (Option Expr)} (check : CallCheck) (callee : Symbol)
      (budget index : Nat) : Reading whole →
      Reading (argumentsFrom whole check callee budget index)
  | arguments {whole : Parse (Option Expr)} (check : CallCheck) (callee : Symbol) :
      Reading whole → Reading (arguments whole check callee)
  | checkedCall {whole : Parse (Option Expr)} (callee : Symbol) (span : Span) :
      Reading whole → Reading (checkedCall whole callee span)
  | call {whole : Parse (Option Expr)} (callee : Symbol) (span : Span) :
      Reading whole → Reading (call whole callee span)
  | afterName {whole : Parse (Option Expr)} (symbol : Symbol) (span : Span) :
      Reading whole → Reading (afterName whole symbol span)
  | named {whole : Parse (Option Expr)} : Reading whole → Reading (named whole)
  | stringLiteral : Reading stringLiteral
  | constant : Reading constant
  | parenthesized {whole : Parse (Option Expr)} :
      Reading whole → Reading (parenthesized whole)
  | stepped (operator : Step) : Reading (stepped operator)
  | addressed {whole : Parse (Option Expr)} : Reading whole → Reading (addressed whole)
  | freshFactor {whole : Parse (Option Expr)} : Reading whole → Reading (freshFactor whole)
  | negated {whole : Parse (Option Expr)} : Reading whole → Reading (negated whole)
  | operatorsAfter {operand : Parse (Option Expr)} (level : Precedence) (budget : Nat)
      (lhs : Expr) : Reading operand → Reading (operatorsAfter level operand budget lhs)
  | ruleIn {whole : Parse (Option Expr)} (tier : Tier) (handoff? : Option Handoff) :
      Reading whole → Reading (ruleIn whole tier handoff?)
  | exprWithin (budget : Nat) (handoff? : Option Handoff) : Reading (exprWithin budget handoff?)
  | exprAfter (handoff? : Option Handoff) : Reading (exprAfter handoff?)
  | expr : Reading expr
  | requireExpr (malformation : Malformation) : Reading (requireExpr malformation)
  | typeSpecifier : Reading typeSpecifier
  | declaredType (base : Ty) (name : Token) : Reading (declaredType base name)
  | initialValue (ty : Ty) : Reading (initialValue ty)
  | declarator (base : Ty) (name : Token) (start : Position) :
      Reading (declarator base name start)
  | declaration : Reading declaration
  | parameter (base : Ty) : Reading (parameter base)
  | parametersFrom (isFirst : Bool) (budget : Nat) : Reading (parametersFrom isFirst budget)
  | parameters : Reading parameters
  | condition : Reading condition
  | returned : Reading returned
  | beginning (name : Token) : Reading (beginning name)
  | namedStmt : Reading namedStmt
  | evaluated : Reading evaluated
  | stmtsUntilClose {inner : Parse Stmt} (budget : Nat) :
      Reading inner → Reading (stmtsUntilClose inner budget)
  | block {inner : Parse Stmt} : Reading inner → Reading (block inner)
  | conditional {inner : Parse Stmt} : Reading inner → Reading (conditional inner)
  | whileLoop {inner : Parse Stmt} : Reading inner → Reading (whileLoop inner)
  | stmtWith {inner : Parse Stmt} : Reading inner → Reading (stmtWith inner)
  | stmtWithin (budget : Nat) : Reading (stmtWithin budget)
  | stmt : Reading stmt
  | functionBody (returns : Ty) : Reading (functionBody returns)
  | functionRest (returns : Ty) (name : Token) (start : Position) :
      Reading (functionRest returns name start)
  | function (returns : Ty) (name : Token) (start : Position) :
      Reading (function returns name start)
  | external : Reading external
  | externals (budget : Nat) : Reading (externals budget)
  | program : Reading program
  | journaled : Reading journaled

instance : Respects MovesOn takeStrings :=
  .of_run (fun _ _ => rfl) fun _ _ => ⟨List.suffix_rfl, rfl⟩

instance : Respects MovesOn program := by
  unfold program
  infer_instance

instance : Respects MovesOn journaled := by
  unfold journaled
  infer_instance

theorem Reading.movesOn {parse : Parse α} (hreading : Reading parse) :
    Respects MovesOn parse := by
  induction hreading <;> infer_instance

/-! ## Rounds -/

/-- A round of a block: a statement, or what stands for it when it is passed over. -/
def stmtRound (stmt : Parse Stmt) : Parse Stmt := do
  match ← attempt stmt with
  | .ok found => return found
  | .error failure => recoverStmt failure

/-- A round of a program: a declaration or function, or none when it is passed over. -/
def externalRound : Parse (Option External) := do
  match ← attempt external with
  | .ok found => return some found
  | .error failure =>
      recoverPast .semicolon failure
      return none

theorem stmtsUntilClose_succ (stmt : Parse Stmt) (budget : Nat) :
    stmtsUntilClose stmt (budget + 1) = do
      match ← kind with
      | .closeCurly => return []
      | .eof => failAt .endOfInput (← position)
      | _ =>
          let first ← stmtRound stmt
          let others ← stmtsUntilClose stmt budget
          return first :: others := by
  have hround : (do
        let first ← stmtRound stmt
        let others ← stmtsUntilClose stmt budget
        return first :: others) = (do
        match ← attempt stmt with
        | .ok first =>
            let others ← stmtsUntilClose stmt budget
            return first :: others
        | .error failure =>
            let first ← recoverStmt failure
            let others ← stmtsUntilClose stmt budget
            return first :: others) := by
    rw [stmtRound, bind_assoc]
    apply bind_congr
    intro result
    cases result <;> simp
  rewrite [stmtsUntilClose, hround]
  rfl

theorem externals_succ (budget : Nat) :
    externals (budget + 1) = do
      if ← hasTokens then
        let found? ← externalRound
        let others ← externals budget
        return found?.toList ++ others
      else return [] := by
  rw [externals]
  apply bind_congr
  intro more
  split
  · rw [externalRound, bind_assoc]
    apply bind_congr
    intro result
    cases result <;> simp
  · rfl

theorem Consumes.recovered {β : Type} {parse : Parse α} {continued : Except Failure α → Parse β}
    [Respects MovesOn parse] (hparse : Consumes parse)
    (hok : ∀ value, Respects MovesOn (continued (.ok value)))
    (herror : ∀ failure, Consumes (continued (.error failure))) :
    Consumes (attempt parse >>= continued) := by
  intro settings state result next hrun
  obtain ⟨outcome, middle, hattempt, hcontinued⟩ := bind_eq_ok.1 hrun
  cases hparsed : parse settings state with
  | ok value found =>
      rw [attempt_of_ok hparsed] at hattempt
      cases hattempt
      have hlt := hparse hparsed
      have hmoves := (hok value).ok hcontinued
      have hle := hmoves.remaining_le
      omega
  | error failure found =>
      rw [attempt_of_error hparsed] at hattempt
      cases hattempt
      have hle := remaining_le_of_error hparsed
      have hlt := herror failure hcontinued
      omega

theorem stmtRound_consumes {stmt : Parse Stmt} [Respects MovesOn stmt]
    (hstmt : Consumes stmt) : Consumes (stmtRound stmt) := by
  unfold stmtRound
  apply hstmt.recovered
  · intro found
    exact (inferInstance : Respects MovesOn (pure found : Parse Stmt))
  · exact recoverStmt_consumes

theorem externalRound_consumes : Consumes externalRound := by
  unfold externalRound
  apply external_consumes.recovered
  · intro found
    exact (inferInstance : Respects MovesOn (pure (some found) : Parse (Option External)))
  · intro failure
    exact (recoverPast_consumes (by decide) failure).bind_left

/-! ## Recursion of the rules for expressions -/

/-- A rule runs the rules that it calls behind a token, except that it runs tighter ones where
it stands. -/
theorem ruleWith_local {rules other : Tier → Rule}
    [∀ tier handoff?, Respects MovesOn (rules tier handoff?)] {settings : Settings}
    {state : ParseState} {tier : Tier} (handoff? : Option Handoff)
    (hbehind : ∀ called handoff?,
      AgreeBelow state.cursor.remaining (rules called handoff?) (other called handoff?))
    (htighter : ∀ called, tier.rank < called.rank → ∀ handoff?,
      rules called handoff? settings state = other called handoff? settings state) :
    ruleWith rules tier handoff? settings state = ruleWith other tier handoff? settings state := by
  cases tier with
  | chain level =>
      have hlt : (Tier.chain level).rank < level.operand.rank := by
        rw [level.rank_operand]
        exact Nat.lt_succ_self _
      exact chain_local handoff? (htighter level.operand hlt handoff?) (hbehind level.operand none)
  | value =>
      have hlt : Tier.value.rank < Tier.factor.rank := by decide
      exact valueWith_local handoff? (htighter .factor hlt handoff?) (hbehind .factor none)
  | factor =>
      have hwhole := hbehind (.chain .logicalOr) none
      exact factor_agree hwhole handoff? (Nat.lt_succ_self _)

/-- The equations of the grammar have one solution: by induction on the tokens ahead, and for
the same number of them from the tightest tier outwards. -/
theorem ruleWith_unique {rules : Tier → Rule} (hrules : rules = ruleWith rules) :
    rules = ruleIn expr := by
  have hagree (n : Nat) :
      ∀ tier handoff?, AgreeBelow n (ruleIn expr tier handoff?) (rules tier handoff?) := by
    induction n with
    | zero =>
        intro tier handoff? settings state hstate
        omega
    | succ n ih =>
        intro tier handoff? settings state hstate
        have hbehind (called : Tier) (handoff? : Option Handoff) :
            AgreeBelow state.cursor.remaining (ruleIn expr called handoff?)
              (rules called handoff?) :=
          (ih called handoff?).mono (by omega)
        induction hgap : Tier.factor.rank - tier.rank using Nat.strongRecOn
          generalizing tier handoff? with
        | ind gap tighter =>
            rw [ruleIn_expr_eq, hrules]
            apply ruleWith_local handoff? hbehind
            intro called hrank handoff?
            have hle := called.rank_le_factor
            exact tighter _ (by omega) called handoff? rfl
  funext tier handoff? settings state
  exact (hagree (state.cursor.remaining + 1) tier handoff? (Nat.lt_succ_self _)).symm

theorem stmtWith_unique {rule : Parse Stmt} (hrule : rule = stmtWith rule) : rule = stmt := by
  have hagree (n : Nat) : AgreeBelow n stmt rule := by
    induction n with
    | zero =>
        intro settings state hstate
        omega
    | succ n ih =>
        rw [stmt_eq, hrule]
        exact stmtWith_agree ih stmt_consumes
  funext settings state
  exact (hagree (state.cursor.remaining + 1) (Nat.lt_succ_self _)).symm

/-! ## Budgets -/

/-- As many rounds as tokens are ahead, and some to spare, are as good as any more. -/
def Settles (spare : Nat) (rounds : Nat → Parse α) : Prop :=
  ∀ settings (state : ParseState) budget, state.cursor.remaining + spare ≤ budget →
    rounds budget settings state = rounds (state.cursor.remaining + spare) settings state

theorem Settles.of_agree {spare : Nat} {rounds : Nat → Parse α}
    (hagree : ∀ {n budget larger}, n + spare ≤ budget + 1 → n + spare ≤ larger + 1 →
      AgreeBelow n (rounds budget) (rounds larger)) : Settles spare rounds := by
  intro settings state budget hbudget
  exact hagree (n := state.cursor.remaining + 1) (by omega) (by omega) (Nat.lt_succ_self _)

theorem exprWithin_settles (handoff? : Option Handoff) :
    Settles 1 fun budget => exprWithin budget handoff? := by
  apply Settles.of_agree
  intro n budget larger hbudget hlarger
  exact exprWithin_agree (Nat.le_of_succ_le_succ hbudget) (Nat.le_of_succ_le_succ hlarger) handoff?

theorem stmtWithin_settles : Settles 1 stmtWithin := by
  apply Settles.of_agree
  intro n budget larger hbudget hlarger
  exact stmtWithin_agree (Nat.le_of_succ_le_succ hbudget) (Nat.le_of_succ_le_succ hlarger)

theorem argumentsFrom_settles (check : CallCheck) (callee : Symbol) (index : Nat) :
    Settles 1 fun budget => argumentsFrom expr check callee budget index := by
  apply Settles.of_agree
  intro n budget larger hbudget hlarger
  exact argumentsFrom_agree (.refl n expr) check callee (Nat.le_of_succ_le_succ hbudget)
    (Nat.le_of_succ_le_succ hlarger) index

theorem parametersFrom_settles (isFirst : Bool) : Settles 1 (parametersFrom isFirst) := by
  apply Settles.of_agree
  intro n budget larger hbudget hlarger
  exact parametersFrom_agree (Nat.le_of_succ_le_succ hbudget) (Nat.le_of_succ_le_succ hlarger)
    isFirst

theorem operatorsAfter_settles (level : Precedence) (lhs : Expr) :
    Settles 0 fun budget =>
      operatorsAfter level (ruleIn expr level.operand none) budget lhs := by
  intro settings state budget hbudget
  have hoperand : AgreeBelow state.cursor.remaining (ruleIn expr level.operand none)
      (ruleIn expr level.operand none) := .refl _ _
  have hoperators : AgreeBelow (state.cursor.remaining + 1)
      (operatorsAfter level (ruleIn expr level.operand none) budget lhs)
      (operatorsAfter level (ruleIn expr level.operand none) state.cursor.remaining lhs) :=
    operatorsAfter_agree hoperand hbudget (Nat.le_refl _) lhs
  exact hoperators (Nat.lt_succ_self _)

theorem stmtsUntilClose_settles : Settles 0 (stmtsUntilClose stmt) := by
  apply Settles.of_agree
  intro n budget larger hbudget hlarger
  exact stmtsUntilClose_agree (.refl n stmt) stmt_consumes hbudget hlarger

theorem externals_settles : Settles 0 externals := by
  apply Settles.of_agree
  intro n budget larger hbudget hlarger
  exact externals_agree hbudget hlarger

/-! ## Progress -/

/-- Parsing moves on and ends, whatever the tokens.  The rules never take the cursor back or
past the closing token, and what makes up a round passes a token; the rules for expressions
and statements recur with fewer tokens ahead or in a tighter tier, so that their equations
have one solution; and no loop has more rounds than tokens are ahead. -/
theorem parsing_progresses :
    (∀ {α : Type} {parse : Parse α}, Reading parse → ∀ settings state,
      MovesOn state (parse.run settings state).2) ∧
    Consumes stmt ∧ Consumes external ∧ (∀ failure, Consumes (recoverStmt failure)) ∧
    Consumes (stmtRound stmt) ∧ Consumes externalRound ∧
    (∀ {rules other : Tier → Rule} {settings : Settings} {state : ParseState} {tier : Tier}
      (handoff? : Option Handoff), (∀ called handoff?, Respects MovesOn (rules called handoff?)) →
      (∀ called handoff?,
        AgreeBelow state.cursor.remaining (rules called handoff?) (other called handoff?)) →
      (∀ called, tier.rank < called.rank → ∀ handoff?,
        rules called handoff? settings state = other called handoff? settings state) →
      ruleWith rules tier handoff? settings state = ruleWith other tier handoff? settings state) ∧
    (∀ rules, rules = ruleWith rules ↔ rules = ruleIn expr) ∧
    (∀ rule, rule = stmtWith rule ↔ rule = stmt) ∧
    (∀ returns, functionBody returns = (do setReturnType (some returns); block stmt)) ∧
    (∀ handoff?, Settles 1 fun budget => exprWithin budget handoff?) ∧
    Settles 1 stmtWithin ∧
    (∀ check callee index, Settles 1 fun budget => argumentsFrom expr check callee budget index) ∧
    (∀ isFirst, Settles 1 (parametersFrom isFirst)) ∧
    (∀ level lhs, Settles 0 fun budget =>
      operatorsAfter level (ruleIn expr level.operand none) budget lhs) ∧
    Settles 0 (stmtsUntilClose stmt) ∧ Settles 0 externals := by
  refine ⟨?_, stmt_consumes, external_consumes, recoverStmt_consumes,
    stmtRound_consumes stmt_consumes, externalRound_consumes, ?_, ?_, ?_, functionBody_eq,
    exprWithin_settles, stmtWithin_settles, argumentsFrom_settles, parametersFrom_settles,
    operatorsAfter_settles, stmtsUntilClose_settles, externals_settles⟩
  · intro α parse hreading settings state
    have hrespects := hreading.movesOn
    unfold run
    cases hrun : parse settings state with
    | ok value next => exact hrespects.ok hrun
    | error failure next => exact hrespects.error hrun
  · intro rules other settings state tier handoff? hrules hbehind htighter
    exact ruleWith_local handoff? hbehind htighter
  · intro rules
    constructor
    · exact ruleWith_unique
    · rintro rfl
      funext tier
      exact ruleIn_expr_eq tier
  · intro rule
    constructor
    · exact stmtWith_unique
    · rintro rfl
      exact stmt_eq

/-- An assignment without its value, before another statement. -/
def valuelessText : String := "x = ; y;"

theorem valuelessText_progresses :
    ∃ tokens, tokenize valuelessText "f.c" = .ok tokens ∧
      (stmt.run { file := "f.c" } (.ofTokens tokens "f.c")).1.toOption.isNone ∧
      ∃ passed next,
        stmtRound stmt { file := "f.c" } (.ofTokens tokens "f.c") = .ok passed next ∧
        next.cursor.remaining < (ParseState.ofTokens tokens "f.c").cursor.remaining := by
  have hreads : ((tokenize valuelessText "f.c").toOption.any fun tokens => decide
      ((stmt.run { file := "f.c" } (.ofTokens tokens "f.c")).1.toOption.isNone = true ∧
        ((stmtRound stmt).run { file := "f.c" }
          (.ofTokens tokens "f.c")).1.toOption.isSome = true)) = true := by
    decide +kernel
  obtain ⟨tokens, htokens, hfails, hpasses⟩ := exists_tokens hreads
  obtain ⟨passed, hpassed⟩ := Option.isSome_iff_exists.1 hpasses
  have hround := run_eq_ok (Prod.ext (eq_ok_of_toOption hpassed) rfl)
  have hconsumes := parsing_progresses.2.2.2.2.1
  exact ⟨tokens, htokens, hfails, passed, _, hround, hconsumes hround⟩

end SubsetC.Parse
