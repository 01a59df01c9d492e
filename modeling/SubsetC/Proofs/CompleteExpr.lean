import SubsetC.Proofs.LeadingValue
import SubsetC.Proofs.QuietProgram

/-!
# What the grammar derives for expressions is read quietly

Without checks, an expression is read from any state that it is ahead in, as long
as the token after it does not extend it.  The tree that is built has the shape of
the surface tree, with conversions to `int` in between.
-/

namespace SubsetC

/-- The trees of a surface tree: names are resolved to symbols, and any expression may
be widened. -/
inductive Elaborates : Surface → Expr → Prop
  | constant {value : Constant} {span : Span} :
      Elaborates (.constant value) (.constant value.value value.ty span)
  | string {text : String} {id : Nat} {span : Span} :
      Elaborates (.string text) (.string text id span)
  | name {symbol : Symbol} {span : Span} : Elaborates (.name symbol.name) (.ident symbol span)
  | element {array : Symbol} {index : Surface} {indexExpr : Expr} {span : Span} :
      Elaborates index indexExpr →
      Elaborates (.element array.name index) (.element array indexExpr span)
  | address {array : Symbol} {index : Surface} {indexExpr : Expr} {elementSpan span : Span} :
      Elaborates index indexExpr →
      Elaborates (.address array.name index) (.address array indexExpr elementSpan span)
  | call {callee : Symbol} {arguments : List Surface} {trees : List Expr} {span : Span} :
      List.Forall₂ Elaborates arguments trees →
      Elaborates (.call callee.name arguments) (.call callee trees span)
  | step {operator : Step} {operand : Symbol} {ty : Ty} {span : Span} :
      Elaborates (.step operator operand.name) (.step operator operand ty span)
  | not {operand : Surface} {tree : Expr} {ty : Ty} {span : Span} :
      Elaborates operand tree → Elaborates (.not operand) (.not tree ty span)
  | binary {operator : BinaryOp} {lhs rhs : Surface} {left right : Expr} {ty : Ty} :
      Elaborates lhs left → Elaborates rhs right →
      Elaborates (.binary operator lhs rhs) (.binary operator left right ty)
  | widened {e : Surface} {tree : Expr} : Elaborates e tree → Elaborates e (.toInt tree)

theorem Elaborates.widen {e : Surface} {tree : Expr} (htree : Elaborates e tree) :
    Elaborates e tree.widen := by
  unfold Expr.widen
  split
  · exact .widened htree
  · exact htree

/-- Whether an expression may begin with a token of a kind. -/
def beginsExpr (kind : TokenKind) : Bool := kind = .not || Parse.beginsFactor kind

theorem Written.begins {tier : Tier} {ts : List Token} {e : Surface}
    (hwritten : Written tier ts e) :
    ∃ token tail, ts = token :: tail ∧ beginsExpr token.kind = true := by
  induction hwritten with
  | operand _ ih => exact ih
  | factor _ ih => exact ih
  | binary _ _ _ ihleft _ =>
      obtain ⟨token, tail, rfl, hbegins⟩ := ihleft
      exact ⟨token, _, rfl, hbegins⟩
  | @step operator _ _ hsign _ =>
      refine ⟨_, _, rfl, ?_⟩
      rw [hsign]
      cases operator <;> rfl
  | not hkind => exact ⟨_, _, rfl, by rw [hkind]; rfl⟩
  | name hkind => exact ⟨_, _, rfl, by rw [hkind]; rfl⟩
  | element hkind => exact ⟨_, _, rfl, by rw [hkind]; rfl⟩
  | call hkind => exact ⟨_, _, rfl, by rw [hkind]; rfl⟩
  | string hkind => exact ⟨_, _, rfl, by rw [hkind]; rfl⟩
  | constant hkind => exact ⟨_, _, rfl, by rw [hkind]; rfl⟩
  | parenthesized hkind => exact ⟨_, _, rfl, by rw [hkind]; rfl⟩
  | address hkind => exact ⟨_, _, rfl, by rw [hkind]; rfl⟩

theorem Written.first_ne_not {token : Token} {tail : List Token} {e : Surface}
    (hwritten : Written .factor (token :: tail) e) : token.kind ≠ .not := by
  cases hwritten with
  | @step operator _ _ hsign _ =>
      rw [hsign]
      cases operator <;> decide
  | name hkind => rw [hkind]; decide
  | element hkind => rw [hkind]; decide
  | call hkind => rw [hkind]; decide
  | string hkind => rw [hkind]; decide
  | constant hkind => rw [hkind]; decide
  | parenthesized hkind => rw [hkind]; decide
  | address hkind => rw [hkind]; decide

theorem Separated.begins {first : List Token × Surface} {others : List (List Token × Surface)}
    {ts : List Token} (hseparated : Separated ((first :: others).map Prod.fst) ts)
    (hwritten : ∀ argument ∈ first :: others,
      Written (.chain .logicalOr) argument.1 argument.2) :
    ∃ token tail, ts = token :: tail ∧ beginsExpr token.kind = true := by
  obtain ⟨token, tail, hfirst, hbegins⟩ := (hwritten first List.mem_cons_self).begins
  cases others with
  | nil =>
      cases hseparated
      exact ⟨token, tail, hfirst, hbegins⟩
  | cons second others =>
      cases hseparated
      rw [hfirst]
      exact ⟨token, _, rfl, hbegins⟩

/-! ## Tokens ahead of a cursor -/

namespace Cursor

/-- The cursor with other tokens ahead, up to the same last one. -/
def facing (cursor : Cursor) (ts : List Token) : Cursor := { cursor with ahead := ts }

theorem eq_facing {cursor : Cursor} {ts : List Token} (hahead : cursor.ahead = ts) :
    cursor = cursor.facing ts := by
  rw [← hahead]
  rfl

theorem eq_facing_of_last {cursor start : Cursor} {ts : List Token}
    (hahead : cursor.ahead = ts) (hlast : cursor.last = start.last) : cursor = start.facing ts := by
  cases cursor
  cases start
  subst hahead hlast
  rfl

@[simp] theorem facing_cons_current (cursor : Cursor) (token : Token) (ts : List Token) :
    (cursor.facing (token :: ts)).current = token := rfl

@[simp] theorem facing_cons_kind (cursor : Cursor) (token : Token) (ts : List Token) :
    (cursor.facing (token :: ts)).kind = token.kind := rfl

@[simp] theorem facing_cons_advance (cursor : Cursor) (token : Token) (ts : List Token) :
    (cursor.facing (token :: ts)).advance = cursor.facing ts := rfl

@[simp] theorem facing_remaining (cursor : Cursor) (ts : List Token) :
    (cursor.facing ts).remaining = ts.length := rfl

end Cursor

/-- A token that stops a tier or an operator before it stops a level of operands. -/
theorem Operators.stops {cursor : Cursor} {level : Precedence} {us rest : List Token}
    {left result : Surface}
    (hoperators : Operators level left us result)
    (hstops : Stops (.chain level) (cursor.facing rest).kind) :
    Stops level.operand (cursor.facing (us ++ rest)).kind := by
  cases hoperators with
  | nil => exact hstops.operand
  | cons hoperator _ _ =>
      rw [List.cons_append, Cursor.facing_cons_kind]
      exact stops_of_operator hoperator

/-- What follows the first value of an expression does not extend that value. -/
theorem Continues.stops {cursor : Cursor} {first e : Surface} {tier : Tier} {us rest : List Token}
    (hcontinues : Continues first tier us e) (hstops : Stops tier (cursor.facing rest).kind) :
    Stops .value (cursor.facing (us ++ rest)).kind := by
  induction hcontinues generalizing rest with
  | value => exact hstops
  | chain _ hoperators ih =>
      rw [List.append_assoc]
      exact ih (hoperators.stops hstops)

namespace Parse

variable {settings : Settings} {state : ParseState} {cursor : Cursor}

section

variable {token : Token} {ts : List Token}

theorem kind_of_facing (hcursor : state.cursor = cursor.facing (token :: ts)) :
    state.cursor.kind = token.kind := by
  rw [hcursor, Cursor.facing_cons_kind]

theorem current_of_facing (hcursor : state.cursor = cursor.facing (token :: ts)) :
    state.cursor.current = token := by
  rw [hcursor, Cursor.facing_cons_current]

theorem advanced_of_facing (hcursor : state.cursor = cursor.facing (token :: ts)) :
    state.advanced.cursor = cursor.facing ts := by
  rw [ParseState.advanced_cursor, hcursor, Cursor.facing_cons_advance]

end

theorem resolve_unchecked (hchecks : settings.checks = false) (name : String)
    (position : Position) (state : ParseState) :
    ∃ symbol next, Quiet (resolve name position) settings state symbol next ∧
      next.cursor = state.cursor ∧ symbol.name = name := by
  cases hlookup : state.symbols.lookup? name with
  | some symbol =>
      exact ⟨symbol, state, quiet_resolve.2 (.inl ⟨hlookup, rfl⟩), rfl,
        SymbolTable.name_eq_of_lookup? hlookup⟩
  | none =>
      exact ⟨.dummy name, _, quiet_resolve.2 (.inr ⟨hlookup, hchecks, rfl, rfl⟩), rfl, rfl⟩

/-! ## Factors -/

/-- A parse gives a tree of a surface tree and stops at a cursor. -/
def Yields (parse : Parse (Option Expr)) (settings : Settings) (state : ParseState)
    (e : Surface) (stop : Cursor) : Prop :=
  ∃ tree next, Quiet parse settings state (some tree) next ∧ next.cursor = stop ∧
    Elaborates e tree

/-- A parse of whole expressions reads those that have at most a number of tokens. -/
def YieldsExprs (expr : Parse (Option Expr)) (settings : Settings) (size : Nat) : Prop :=
  ∀ ⦃state : ParseState⦄ ⦃cursor : Cursor⦄ ⦃ts rest : List Token⦄ ⦃e : Surface⦄,
    ts.length ≤ size → Written (.chain .logicalOr) ts e →
    state.cursor = cursor.facing (ts ++ rest) →
    Stops (.chain .logicalOr) (cursor.facing rest).kind →
    Yields expr settings state e (cursor.facing rest)

section Factors

variable {expr : Parse (Option Expr)} [Respects ReportsMore expr] {size : Nat}
  {ts rest : List Token}

omit [Respects ReportsMore expr] in
/-- An expression is read up to a token that closes it. -/
theorem YieldsExprs.before {e : Surface} {closing : Token} {kind : TokenKind}
    (hexpr : YieldsExprs expr settings size) (hsize : ts.length ≤ size)
    (hwritten : Written (.chain .logicalOr) ts e) (hclosing : closing.kind = kind)
    (hstops : Stops (.chain .logicalOr) kind)
    (hcursor : state.cursor = cursor.facing (ts ++ closing :: rest)) :
    ∃ tree next, Quiet expr settings state (some tree) next ∧
      next.cursor = cursor.facing (closing :: rest) ∧ next.cursor.kind = kind ∧
      next.cursor.current = closing ∧ next.advanced.cursor = cursor.facing rest ∧
      Elaborates e tree := by
  obtain ⟨tree, next, hquiet, hnext, htree⟩ := hexpr hsize hwritten hcursor (by
    rw [Cursor.facing_cons_kind, hclosing]
    exact hstops)
  refine ⟨tree, next, hquiet, hnext, ?_, current_of_facing hnext, advanced_of_facing hnext, htree⟩
  rw [kind_of_facing hnext, hclosing]

theorem stops_closeBracket {tier : Tier} : Stops tier .closeBracket :=
  stops_of_no_operator (by decide) (by decide) rfl

theorem stops_closeParen {tier : Tier} : Stops tier .closeParen :=
  stops_of_no_operator (by decide) (by decide) rfl

theorem stops_comma {tier : Tier} : Stops tier .comma :=
  stops_of_no_operator (by decide) (by decide) rfl

theorem stops_semicolon {tier : Tier} : Stops tier .semicolon :=
  stops_of_no_operator (by decide) (by decide) rfl

theorem subscript_yields (hchecks : settings.checks = false)
    (hexpr : YieldsExprs expr settings size) (array : Symbol) (span : Span)
    {opening closing : Token} {index : Surface} (hopen : opening.kind = .openBracket)
    (hclose : closing.kind = .closeBracket) (hsize : ts.length ≤ size)
    (hindex : Written (.chain .logicalOr) ts index)
    (hcursor : state.cursor = cursor.facing (opening :: (ts ++ closing :: rest))) :
    ∃ target next, Quiet (subscript expr array span) settings state target next ∧
      next.cursor = cursor.facing rest ∧ target.array = array ∧
      Elaborates index target.index := by
  obtain ⟨tree, next, hquiet, hnext, hkind, -, hstop, htree⟩ :=
    hexpr.before hsize hindex hclose stops_closeBracket (advanced_of_facing hcursor)
  have hopenKind := (kind_of_facing hcursor).trans hopen
  refine ⟨_, next.advanced, quiet_subscript.2 ⟨hopenKind, tree, next, hquiet, hkind, ?_, rfl, rfl⟩,
    hstop, rfl, htree⟩
  intro hchecked
  rw [hchecks] at hchecked
  contradiction

theorem argumentsFrom_yields (hexpr : YieldsExprs expr settings size) (callee : Symbol)
    (budget index : Nat) {first : List Token × Surface}
    {others : List (List Token × Surface)} {close : Token}
    (hclose : close.kind = .closeParen) (hbudget : others.length < budget)
    (hwritten : ∀ argument ∈ first :: others,
      Written (.chain .logicalOr) argument.1 argument.2)
    (hsize : ∀ argument ∈ first :: others, argument.1.length ≤ size)
    (hseparated : Separated ((first :: others).map Prod.fst) ts)
    (hcursor : state.cursor = cursor.facing (ts ++ close :: rest)) :
    ∃ kept next, Quiet (argumentsFrom expr .unchecked callee budget index) settings state
        (kept, .ok close) next ∧
      next.cursor = cursor.facing rest ∧
      List.Forall₂ Elaborates ((first :: others).map Prod.snd) kept := by
  induction others generalizing state ts budget index first with
  | nil =>
      obtain ⟨budget, rfl⟩ : ∃ smaller, budget = smaller + 1 := ⟨budget - 1, by omega⟩
      cases hseparated
      obtain ⟨tree, next, hquiet, hnext, hkind, hcurrent, hstop, htree⟩ :=
        hexpr.before (hsize first List.mem_cons_self) (hwritten first List.mem_cons_self) hclose
          stops_closeParen hcursor
      refine ⟨[tree], next.advanced, quiet_argumentsFrom_succ.2 ?_, hstop, .cons htree .nil⟩
      exact ⟨tree, next, hquiet, fun _ => trivial, .inr ⟨hkind, rfl, hcurrent.symm, rfl⟩⟩
  | cons second others ih =>
      obtain ⟨budget, rfl⟩ : ∃ smaller, budget = smaller + 1 := ⟨budget - 1, by omega⟩
      cases hseparated with
      | more hcomma hseparated =>
          rw [List.append_assoc, List.cons_append] at hcursor
          obtain ⟨tree, next, hquiet, hnext, hkind, -, hstop, htree⟩ :=
            hexpr.before (hsize first List.mem_cons_self) (hwritten first List.mem_cons_self)
              hcomma stops_comma hcursor
          obtain ⟨kept, last, hkept, hlast, htrees⟩ := ih budget (index + 1)
            (Nat.lt_of_succ_lt_succ hbudget)
            (fun argument hmem => hwritten argument (List.mem_cons_of_mem _ hmem))
            (fun argument hmem => hsize argument (List.mem_cons_of_mem _ hmem))
            hseparated hstop
          refine ⟨tree :: kept, last, quiet_argumentsFrom_succ.2 ?_, hlast, .cons htree htrees⟩
          exact ⟨tree, next, hquiet, fun _ => trivial, .inl ⟨hkind, kept, hkept, rfl⟩⟩

theorem arguments_yield (hexpr : YieldsExprs expr settings size) (callee : Symbol)
    {parts : List (List Token × Surface)} {close : Token} (hclose : close.kind = .closeParen)
    (hwritten : ∀ argument ∈ parts, Written (.chain .logicalOr) argument.1 argument.2)
    (hsize : ts.length ≤ size) (hseparated : Separated (parts.map Prod.fst) ts)
    (hcursor : state.cursor = cursor.facing (ts ++ close :: rest)) :
    ∃ kept next, Quiet (arguments expr .unchecked callee) settings state (kept, .ok close)
        next ∧
      next.cursor = cursor.facing rest ∧
      List.Forall₂ Elaborates (parts.map Prod.snd) kept := by
  cases parts with
  | nil =>
      cases hseparated
      have hkind := (kind_of_facing hcursor).trans hclose
      exact ⟨[], state.advanced,
        quiet_arguments.2 (.inl ⟨hkind, rfl, (current_of_facing hcursor).symm, rfl⟩),
        advanced_of_facing hcursor, .nil⟩
  | cons first others =>
      have hcount := hseparated.length_le
      have hparts : ∀ argument ∈ first :: others, argument.1.length ≤ size := by
        intro argument hmem
        exact Nat.le_trans (hseparated.length_part_le (List.mem_map_of_mem hmem)) hsize
      have hbudget : others.length < state.cursor.remaining + 1 := by
        rw [hcursor, Cursor.facing_remaining, List.length_append]
        simp only [List.map_cons, List.length_cons, List.length_map] at hcount
        omega
      obtain ⟨kept, next, hkept, hnext, htrees⟩ :=
        argumentsFrom_yields hexpr callee _ 0 hclose hbudget hwritten hparts hseparated hcursor
      refine ⟨kept, next, quiet_arguments.2 (.inr ⟨?_, hkept⟩), hnext, htrees⟩
      intro hkind
      obtain ⟨token, tail, rfl, hbegins⟩ := hseparated.begins hwritten
      have htoken := kind_of_facing hcursor
      rw [← htoken, hkind] at hbegins
      revert hbegins
      decide

theorem subscriptable_unchecked (hchecks : settings.checks = false) (symbol : Symbol) :
    Subscriptable settings symbol := by
  intro hchecked
  rw [hchecks] at hchecked
  contradiction

theorem afterName_yields (hchecks : settings.checks = false)
    (hexpr : YieldsExprs expr settings size) {symbol : Symbol} {name : Token} {e : Surface}
    (span : Span) (hname : name.kind = .identifier) (hsymbol : symbol.name = name.text)
    (hwritten : Written .factor (name :: ts) e) (hsize : ts.length ≤ size)
    (hstops : Stops .factor (cursor.facing rest).kind)
    (hcursor : state.cursor = cursor.facing (ts ++ rest)) :
    ∃ tree next, Quiet (afterName expr symbol span) settings state tree next ∧
      next.cursor = cursor.facing rest ∧ Elaborates e tree := by
  have hunchecked : ∀ {goal : Prop}, settings.checks = true → goal := by
    intro goal hchecked
    rw [hchecks] at hchecked
    contradiction
  cases hwritten with
  | name =>
      rw [List.nil_append] at hcursor
      rw [← hsymbol, ← hcursor]
      rw [← hcursor] at hstops
      exact ⟨_, state, quiet_afterName.2 (.inr (.inr ⟨hstops.1, hstops.2.1, rfl, rfl⟩)), rfl,
        .name⟩
  | element _ hopen hclose hindex =>
      simp only [List.cons_append, List.append_assoc, List.nil_append] at hcursor
      simp only [List.length_cons, List.length_append] at hsize
      obtain ⟨target, next, htarget, hnext, rfl, htree⟩ :=
        subscript_yields hchecks hexpr symbol span hopen hclose (by omega) hindex hcursor
      have helement := quiet_element.2
        ⟨subscriptable_unchecked hchecks _, target, htarget, rfl⟩
      have hkind := (kind_of_facing hcursor).trans hopen
      rw [← hsymbol]
      exact ⟨_, next, quiet_afterName.2 (.inl ⟨hkind, helement⟩), hnext, .element htree⟩
  | call _ hopen hclose hwritten hseparated =>
      simp only [List.cons_append, List.append_assoc, List.nil_append] at hcursor
      simp only [List.length_cons, List.length_append] at hsize
      have hcalled : (state.called symbol).cursor = state.cursor := state.called_cursor symbol
      obtain ⟨kept, next, hkept, hnext, htrees⟩ :=
        arguments_yield hexpr symbol hclose hwritten (by omega) hseparated
          (advanced_of_facing (hcalled.trans hcursor))
      have hkind := (kind_of_facing hcursor).trans hopen
      have hcheck : CallCheck.ofCallee settings.checks symbol = .unchecked := by
        unfold CallCheck.ofCallee
        rw [hchecks]
        cases symbol.signature? <;> rfl
      have hcall : Quiet (call expr symbol span) settings state _ next := quiet_call.2
        ⟨hunchecked, quiet_checkedCall.2
          ⟨hkind, kept, _, by rw [hcheck]; exact hkept, hunchecked, rfl⟩⟩
      rw [← hsymbol]
      exact ⟨_, next, quiet_afterName.2 (.inr (.inl ⟨hkind, hcall⟩)), hnext, .call htrees⟩
  | string hkind => rw [hname] at hkind; contradiction
  | constant hkind => rw [hname] at hkind; contradiction
  | parenthesized hkind => rw [hname] at hkind; contradiction
  | @step operator _ _ hkind => rw [hname] at hkind; cases operator <;> contradiction
  | address hkind => rw [hname] at hkind; contradiction

theorem named_yields (hchecks : settings.checks = false)
    (hexpr : YieldsExprs expr settings size) {name : Token} {e : Surface}
    (hname : name.kind = .identifier) (hwritten : Written .factor (name :: ts) e)
    (hsize : ts.length ≤ size) (hstops : Stops .factor (cursor.facing rest).kind)
    (hcursor : state.cursor = cursor.facing (name :: (ts ++ rest))) :
    Yields (freshFactor expr) settings state e (cursor.facing rest) := by
  obtain ⟨symbol, middle, hresolve, hmiddle, hsymbol⟩ :=
    resolve_unchecked hchecks name.text name.span.start state.advanced
  have hrest := hmiddle.trans (advanced_of_facing hcursor)
  obtain ⟨tree, next, htree, hnext, helaborates⟩ :=
    afterName_yields hchecks hexpr name.span hname hsymbol hwritten hsize hstops hrest
  rw [← current_of_facing hcursor] at hresolve htree
  have hkind := (kind_of_facing hcursor).trans hname
  have hnamed := quiet_named.2 ⟨symbol, middle, tree, hresolve, htree, rfl⟩
  exact ⟨tree.widen, next, quiet_freshFactor_some.2 (.inl ⟨hkind, hnamed⟩), hnext,
    helaborates.widen⟩

omit [Respects ReportsMore expr] in
theorem stepped_yields (hchecks : settings.checks = false) (operator : Step)
    {sign name : Token} (hname : name.kind = .identifier)
    (hcursor : state.cursor = cursor.facing (sign :: name :: rest)) :
    ∃ tree next, Quiet (stepped operator) settings state tree next ∧
      next.cursor = cursor.facing rest ∧ Elaborates (.step operator name.text) tree := by
  have hadvanced := advanced_of_facing hcursor
  obtain ⟨symbol, next, hresolve, hnext, hsymbol⟩ :=
    resolve_unchecked hchecks name.text name.span.start state.advanced.advanced
  rw [← current_of_facing hadvanced] at hresolve
  refine ⟨_, next, quiet_stepped.2 ⟨(kind_of_facing hadvanced).trans hname, symbol, hresolve,
    ?_, rfl⟩, hnext.trans (advanced_of_facing hadvanced), ?_⟩
  · intro hchecked
    rw [hchecks] at hchecked
    contradiction
  · rw [← hsymbol]
    exact Elaborates.step.widen

theorem addressed_yields (hchecks : settings.checks = false)
    (hexpr : YieldsExprs expr settings size) {sign name opening closing : Token}
    {index : Surface} (hname : name.kind = .identifier) (hopen : opening.kind = .openBracket)
    (hclose : closing.kind = .closeBracket) (hsize : ts.length ≤ size)
    (hindex : Written (.chain .logicalOr) ts index)
    (hcursor : state.cursor =
      cursor.facing (sign :: name :: opening :: (ts ++ closing :: rest))) :
    ∃ tree next, Quiet (addressed expr) settings state tree next ∧
      next.cursor = cursor.facing rest ∧ Elaborates (.address name.text index) tree := by
  have hadvanced := advanced_of_facing hcursor
  obtain ⟨symbol, middle, hresolve, hmiddle, hsymbol⟩ :=
    resolve_unchecked hchecks name.text name.span.start state.advanced.advanced
  obtain ⟨target, next, htarget, hnext, rfl, htree⟩ :=
    subscript_yields hchecks hexpr symbol name.span hopen hclose hsize hindex
      (hmiddle.trans (advanced_of_facing hadvanced))
  rw [← current_of_facing hadvanced] at hresolve htarget
  have hnameKind := (kind_of_facing hadvanced).trans hname
  refine ⟨_, _, quiet_addressed.2 ⟨hnameKind, _, middle, target, next, hresolve,
    subscriptable_unchecked hchecks _, htarget, rfl, rfl⟩, hnext, ?_⟩
  rw [← hsymbol]
  exact .address htree

theorem freshFactor_yields (hchecks : settings.checks = false)
    (hexpr : YieldsExprs expr settings size) {e : Surface} (hwritten : Written .factor ts e)
    (hsize : ts.length ≤ size + 1) (hstops : Stops .factor (cursor.facing rest).kind)
    (hcursor : state.cursor = cursor.facing (ts ++ rest)) :
    Yields (freshFactor expr) settings state e (cursor.facing rest) := by
  cases hwritten with
  | name hkind =>
      exact named_yields hchecks hexpr hkind (.name hkind) (Nat.zero_le _) hstops hcursor
  | element hkind hopen hclose hindex =>
      exact named_yields hchecks hexpr hkind (.element hkind hopen hclose hindex)
        (Nat.le_of_succ_le_succ hsize) hstops hcursor
  | call hkind hopen hclose hparts hseparated =>
      exact named_yields hchecks hexpr hkind (.call hkind hopen hclose hparts hseparated)
        (Nat.le_of_succ_le_succ hsize) hstops hcursor
  | string hkind =>
      refine ⟨_, _, quiet_freshFactor_some.2 (.inr (.inl
        ⟨(kind_of_facing hcursor).trans hkind, quiet_stringLiteral.2 ⟨rfl, rfl⟩⟩)),
        advanced_of_facing hcursor, ?_⟩
      rw [current_of_facing hcursor]
      exact .string
  | constant hkind hvalue =>
      rw [← current_of_facing hcursor] at hvalue
      exact ⟨_, _, quiet_freshFactor_some.2 (.inr (.inr (.inl
        ⟨(kind_of_facing hcursor).trans hkind, quiet_constant.2 ⟨_, hvalue, rfl, rfl⟩⟩))),
        advanced_of_facing hcursor, .constant⟩
  | parenthesized hopen hclose hinner =>
      simp only [List.cons_append, List.append_assoc, List.nil_append] at hcursor
      simp only [List.length_cons, List.length_append] at hsize
      obtain ⟨tree, next, hquiet, -, hkind, -, hstop, htree⟩ :=
        hexpr.before (by omega) hinner hclose stops_closeParen (advanced_of_facing hcursor)
      exact ⟨tree, next.advanced, quiet_freshFactor_some.2 (.inr (.inr (.inr (.inl
        ⟨(kind_of_facing hcursor).trans hopen,
          quiet_parenthesized.2 ⟨next, hquiet, hkind, rfl⟩⟩)))), hstop, htree⟩
  | @step operator _ _ hsign hname =>
      obtain ⟨tree, next, hquiet, hnext, htree⟩ :=
        stepped_yields hchecks operator hname hcursor
      have hkind := (kind_of_facing hcursor).trans hsign
      cases operator with
      | increment =>
          exact ⟨tree, next, quiet_freshFactor_some.2
            (.inr (.inr (.inr (.inr (.inl ⟨hkind, hquiet⟩))))), hnext, htree⟩
      | decrement =>
          exact ⟨tree, next, quiet_freshFactor_some.2
            (.inr (.inr (.inr (.inr (.inr (.inl ⟨hkind, hquiet⟩)))))), hnext, htree⟩
  | address hsign hname hopen hclose hindex =>
      simp only [List.cons_append, List.append_assoc, List.nil_append] at hcursor
      simp only [List.length_cons, List.length_append] at hsize
      obtain ⟨tree, next, hquiet, hnext, htree⟩ :=
        addressed_yields hchecks hexpr hname hopen hclose (by omega) hindex hcursor
      have hkind := (kind_of_facing hcursor).trans hsign
      exact ⟨tree, next, quiet_freshFactor_some.2
        (.inr (.inr (.inr (.inr (.inr (.inr ⟨hkind, hquiet⟩)))))), hnext, htree⟩

theorem value_yields (hchecks : settings.checks = false)
    (hexpr : YieldsExprs expr settings size) {e : Surface} (hwritten : Written .value ts e)
    (hsize : ts.length ≤ size + 1) (hstops : Stops .value (cursor.facing rest).kind)
    (hcursor : state.cursor = cursor.facing (ts ++ rest)) :
    Yields (value expr none) settings state e (cursor.facing rest) := by
  have hfactorStops := stops_factor hstops
  cases hwritten with
  | not hsign hoperand =>
      have hlength := Nat.le_of_lt (Nat.lt_of_succ_le hsize)
      obtain ⟨tree, next, hquiet, hnext, htree⟩ :=
        freshFactor_yields hchecks hexpr hoperand hlength hfactorStops
          (advanced_of_facing hcursor)
      have hkind := (kind_of_facing hcursor).trans hsign
      refine ⟨_, next, quiet_value_fresh_some.2
        (.inl ⟨hkind, quiet_negated.2 ⟨tree, hquiet, ?_, rfl⟩⟩), hnext, .not htree⟩
      intro hchecked
      rw [hchecks] at hchecked
      contradiction
  | factor hfactor =>
      obtain ⟨tree, next, hquiet, hnext, htree⟩ :=
        freshFactor_yields hchecks hexpr hfactor hsize hfactorStops hcursor
      obtain ⟨token, tail, rfl, hbegins⟩ := hfactor.begins
      refine ⟨tree, next, quiet_value_fresh_some.2 (.inr ⟨?_, hquiet⟩), hnext, htree⟩
      rw [kind_of_facing hcursor]
      exact hfactor.first_ne_not

end Factors

/-! ## Chains of operators -/

/-- A rule reads on after any first value, up to what the grammar has for its tier. -/
def YieldsAfter (expr : Parse (Option Expr)) (settings : Settings) (tier : Tier)
    (rule : Rule) (size : Nat) : Prop :=
  ∀ ⦃handoff? : Option Handoff⦄ ⦃state : ParseState⦄ ⦃cursor : Cursor⦄
    ⦃us rest : List Token⦄ ⦃first e : Surface⦄, us.length ≤ size →
    Continues first tier us e → Stops tier (cursor.facing rest).kind →
    Yields (value expr handoff?) settings state first (cursor.facing (us ++ rest)) →
    Yields (rule handoff?) settings state e (cursor.facing rest)

theorem yieldsAfter_value {expr : Parse (Option Expr)} {size : Nat} :
    YieldsAfter expr settings .value (value expr) size := by
  intro handoff? state cursor us rest first e hsize hcontinues hstops hfirst
  cases hcontinues
  exact hfirst

section Chains

variable {expr : Parse (Option Expr)} [Respects ReportsMore expr] {size : Nat}

/-- A fresh expression of a tier is read from its first value on. -/
theorem fresh_yields (hchecks : settings.checks = false)
    (hexpr : YieldsExprs expr settings size) {tier : Tier} {rule : Rule} {ts rest : List Token}
    {e : Surface} (htier : tier ≠ .factor) (hrule : YieldsAfter expr settings tier rule size)
    (hwritten : Written tier ts e) (hsize : ts.length ≤ size + 1)
    (hstops : Stops tier (cursor.facing rest).kind)
    (hcursor : state.cursor = cursor.facing (ts ++ rest)) :
    Yields (rule none) settings state e (cursor.facing rest) := by
  obtain ⟨lead, first, us, hlead, hcontinues, rfl⟩ := hwritten.leading_value htier
  rw [List.append_assoc] at hcursor
  rw [List.length_append] at hsize
  obtain ⟨token, tail, rfl, -⟩ := hlead.begins
  rw [List.length_cons] at hsize
  have hvalue := value_yields hchecks hexpr hlead (by rw [List.length_cons]; omega)
    (hcontinues.stops hstops) hcursor
  exact hrule (by omega) hcontinues hstops hvalue

variable {level : Precedence} {operand : Rule}
  [∀ handoff?, Respects ReportsMore (operand handoff?)]

theorem operatorsAfter_yields (hchecks : settings.checks = false)
    (hexpr : YieldsExprs expr settings size)
    (hoperand : YieldsAfter expr settings level.operand operand size) {us rest : List Token}
    {budget : Nat} {left result : Surface} {lhs : Expr}
    (hoperators : Operators level left us result) (hlhs : Elaborates left lhs)
    (hsize : us.length ≤ size + 1) (hbudget : us.length ≤ budget)
    (hstops : Stops (.chain level) (cursor.facing rest).kind)
    (hcursor : state.cursor = cursor.facing (us ++ rest)) :
    ∃ tree next, Quiet (operatorsAfter level (operand none) budget lhs) settings state tree
        next ∧
      next.cursor = cursor.facing rest ∧ Elaborates result tree := by
  induction hoperators generalizing state budget lhs with
  | nil =>
      have hnone : level.operator? state.cursor.kind = none := by
        rw [hcursor]
        exact hstops.operator?_eq_none
      exact ⟨lhs, state, (quiet_operatorsAfter_of_none hnone).2 ⟨rfl, rfl⟩, hcursor, hlhs⟩
  | @cons operator _ _ tail _ _ _ hoperator hright hrest ih =>
      simp only [List.cons_append, List.append_assoc] at hcursor
      simp only [List.length_cons, List.length_append] at hsize hbudget
      obtain ⟨budget, rfl⟩ : ∃ smaller, budget = smaller + 1 := ⟨budget - 1, by omega⟩
      rw [← kind_of_facing hcursor] at hoperator
      have htier : level.operand ≠ .factor := by cases level <;> decide
      obtain ⟨rhs, middle, hrhs, hmiddle, hrhsTree⟩ :=
        fresh_yields hchecks hexpr htier hoperand hright (by omega) (hrest.stops hstops)
          (advanced_of_facing hcursor)
      let node := Expr.binary operator lhs rhs
        (settings.rules.judgeBinary operator lhs.ty rhs.ty).ty
      have hnode : (middle.noted (.built node)).cursor = middle.cursor := rfl
      have hbudgetTail : tail.length ≤ budget := by omega
      obtain ⟨tree, next, hquiet, hnext, htree⟩ :=
        ih (.binary hlhs hrhsTree) (by omega) hbudgetTail (hnode.trans hmiddle)
      refine ⟨tree, next, (quiet_operatorsAfter_of_some hoperator).2
        ⟨rhs, node, middle, _, hrhs, quiet_joined.2 ⟨?_, rfl, rfl⟩, hquiet⟩, hnext, htree⟩
      intro hchecked
      rw [hchecks] at hchecked
      contradiction

theorem yieldsAfter_chain (hchecks : settings.checks = false)
    (hexpr : YieldsExprs expr settings size)
    (hoperand : YieldsAfter expr settings level.operand operand size) :
    YieldsAfter expr settings (.chain level) (chain level operand) size := by
  intro handoff? state cursor us rest first e hsize hcontinues hstops hfirst
  cases hcontinues with
  | @chain _ us vs _ _ hus hoperators =>
      rw [List.length_append] at hsize
      rw [List.append_assoc] at hfirst
      obtain ⟨lhs, middle, hlhs, hmiddle, hlhsTree⟩ :=
        hoperand (by omega) hus (hoperators.stops hstops) hfirst
      have hbudget : vs.length ≤ middle.cursor.remaining := by
        rw [hmiddle, Cursor.facing_remaining, List.length_append]
        exact Nat.le_add_right _ _
      obtain ⟨tree, next, hquiet, hnext, htree⟩ :=
        operatorsAfter_yields hchecks hexpr hoperand hoperators hlhsTree (by omega) hbudget hstops
          hmiddle
      exact ⟨tree, next, quiet_chain_some.2 ⟨lhs, middle, hlhs, hquiet⟩, hnext, htree⟩

omit [∀ handoff?, Respects ReportsMore (operand handoff?)] in
theorem yieldsAfter_orExpr (hchecks : settings.checks = false)
    (hexpr : YieldsExprs expr settings size) :
    YieldsAfter expr settings (.chain .logicalOr) (orExpr expr) size := by
  have hterm : YieldsAfter expr settings (.chain .multiplicative) (term expr) size :=
    yieldsAfter_chain hchecks hexpr yieldsAfter_value
  have hnumExpr : YieldsAfter expr settings (.chain .additive) (numExpr expr) size :=
    yieldsAfter_chain hchecks hexpr hterm
  have hrelExpr : YieldsAfter expr settings (.chain .relational) (relExpr expr) size :=
    yieldsAfter_chain hchecks hexpr hnumExpr
  have handTerm : YieldsAfter expr settings (.chain .logicalAnd) (andTerm expr) size :=
    yieldsAfter_chain hchecks hexpr hrelExpr
  exact yieldsAfter_chain hchecks hexpr handTerm

end Chains

/-! ## Whole expressions -/

/-- A budget of as many tokens as an expression has is enough to read it. -/
theorem exprWithin_yields (hchecks : settings.checks = false) (budget : Nat) :
    YieldsExprs (exprWithin budget none) settings budget := by
  induction budget with
  | zero =>
      intro state cursor ts rest e hsize hwritten
      obtain ⟨token, tail, rfl, -⟩ := hwritten.begins
      rw [List.length_cons] at hsize
      omega
  | succ budget ih =>
      intro state cursor ts rest e hsize hwritten hcursor hstops
      obtain ⟨tree, next, hquiet, hnext, htree⟩ :=
        fresh_yields hchecks ih (by decide) (yieldsAfter_orExpr hchecks ih) hwritten hsize hstops
          hcursor
      exact ⟨tree, next, quiet_exprWithin.2 ⟨budget, rfl, hquiet⟩, hnext, htree⟩

theorem expr_yields (hchecks : settings.checks = false) {ts rest : List Token} {e : Surface}
    (hwritten : Written (.chain .logicalOr) ts e)
    (hstops : Stops (.chain .logicalOr) (cursor.facing rest).kind)
    (hcursor : state.cursor = cursor.facing (ts ++ rest)) :
    Yields expr settings state e (cursor.facing rest) := by
  have hsize : ts.length ≤ state.cursor.remaining + 1 + 1 := by
    rw [hcursor, Cursor.facing_remaining, List.length_append]
    omega
  have hwhole := exprWithin_yields hchecks (state.cursor.remaining + 1)
  obtain ⟨tree, next, hquiet, hnext, htree⟩ :=
    fresh_yields hchecks hwhole (by decide) (yieldsAfter_orExpr hchecks hwhole) hwritten hsize
      hstops hcursor
  exact ⟨tree, next, quiet_exprAfter.2 hquiet, hnext, htree⟩

theorem exprAfter_yields (hchecks : settings.checks = false) {handoff : Handoff}
    {us rest : List Token} {first e : Surface}
    (hfirst : Yields (value (exprWithin (state.cursor.remaining + 1) none) (some handoff))
      settings state first (cursor.facing (us ++ rest)))
    (hcontinues : Continues first (.chain .logicalOr) us e)
    (hsize : us.length ≤ state.cursor.remaining + 1)
    (hstops : Stops (.chain .logicalOr) (cursor.facing rest).kind) :
    Yields (exprAfter (some handoff)) settings state e (cursor.facing rest) := by
  have hwhole := exprWithin_yields hchecks (state.cursor.remaining + 1)
  obtain ⟨tree, next, hquiet, hnext, htree⟩ :=
    yieldsAfter_orExpr hchecks hwhole hsize hcontinues hstops hfirst
  exact ⟨tree, next, quiet_exprAfter.2 hquiet, hnext, htree⟩

end Parse

end SubsetC
