import SubsetC.Proofs.Grammar
import SubsetC.Proofs.QuietProgram

/-!
# Quiet runs read what the grammar derives

Each rule is shown to read a list of tokens that its nonterminal derives.  The
beginning of an expression may have been read before, by a statement that was
not yet known to be one: a handoff stands for those tokens, and what is derived
is they together with the tokens that are read.
-/

namespace SubsetC.Parse

variable {settings : Settings} {state middle next : ParseState}

/-! ## Reading tokens -/

/-- The tokens that are ahead in one state and no longer in another. -/
def Reads (state : ParseState) (ts : List Token) (next : ParseState) : Prop :=
  state.cursor.ahead = ts ++ next.cursor.ahead

theorem Reads.of_cursor_eq (hcursor : next.cursor = state.cursor) : Reads state [] next := by
  unfold Reads
  rw [hcursor, List.nil_append]

theorem Reads.refl : Reads state [] state := .of_cursor_eq rfl

theorem Reads.trans {ts us : List Token} (hfirst : Reads state ts middle)
    (hsecond : Reads middle us next) : Reads state (ts ++ us) next := by
  unfold Reads at hfirst hsecond ⊢
  rw [hfirst, hsecond, List.append_assoc]

/-- A token other than the last is read by moving past it. -/
theorem Reads.cons {ts : List Token} (hkind : state.cursor.kind ≠ .eof)
    (hrest : Reads state.advanced ts next) : Reads state (state.cursor.current :: ts) next := by
  unfold Reads at hrest ⊢
  rw [Cursor.ahead_eq_cons hkind, List.cons_append, ← hrest]
  rfl

theorem Reads.token (hkind : state.cursor.kind ≠ .eof) :
    Reads state [state.cursor.current] state.advanced :=
  .cons hkind .refl

/-- Changes beside the cursor do not matter. -/
theorem Reads.from_eq {ts : List Token} (hread : Reads middle ts next)
    (hcursor : middle.cursor = state.cursor) : Reads state ts next := by
  unfold Reads at hread ⊢
  rw [← hcursor, hread]

theorem Reads.to_eq {ts : List Token} (hread : Reads state ts middle)
    (hcursor : next.cursor = middle.cursor) : Reads state ts next := by
  unfold Reads at hread ⊢
  rw [hcursor, hread]

/-! ## Factors -/

/-- What a parse of whole expressions reads is an expression. -/
def ReadsExprs (expr : Parse (Option Expr)) : Prop :=
  ∀ {settings state result next}, Quiet expr settings state (some result) next →
    ∃ ts e, Reads state ts next ∧ Written (.chain .logicalOr) ts e

section Factors

variable {expr : Parse (Option Expr)} [Respects ReportsMore expr]

theorem subscript_reads (hexpr : ReadsExprs expr) {array : Symbol} {span : Span}
    {result : Subscript}
    (hquiet : Quiet (subscript expr array span) settings state result next) :
    ∃ opening ts closing index, opening.kind = .openBracket ∧ closing.kind = .closeBracket ∧
      Written (.chain .logicalOr) ts index ∧
      Reads state (opening :: (ts ++ [closing])) next := by
  obtain ⟨hopen, found, middle, hfound, hclose, -, -, rfl⟩ := quiet_subscript.1 hquiet
  obtain ⟨ts, index, hread, hindex⟩ := hexpr hfound
  refine ⟨state.cursor.current, ts, middle.cursor.current, index, hopen, hclose, hindex, ?_⟩
  have hlast : Reads middle [middle.cursor.current] middle.advanced :=
    .token (by rw [hclose]; decide)
  exact .cons (by rw [hopen]; decide) (hread.trans hlast)

theorem argumentsFrom_reads (hexpr : ReadsExprs expr) {check : CallCheck} {callee : Symbol}
    {budget index : Nat} {kept : List Expr} {close : Token}
    (hquiet : Quiet (argumentsFrom expr check callee budget index) settings state
      (kept, .ok close) next) :
    ∃ first others ts,
      (∀ argument ∈ first :: others, Written (.chain .logicalOr) argument.1 argument.2) ∧
      Separated ((first :: others).map Prod.fst) ts ∧ close.kind = .closeParen ∧
      Reads state (ts ++ [close]) next := by
  induction budget generalizing state index kept with
  | zero => exact (not_quiet_argumentsFrom_zero hquiet).elim
  | succ budget ih =>
      obtain ⟨argument, middle, hargument, -, hrest⟩ := quiet_argumentsFrom_succ.1 hquiet
      obtain ⟨ts, e, hread, hwritten⟩ := hexpr hargument
      rcases hrest with ⟨hcomma, others, hothers, -⟩ | ⟨hparen, -, rfl, rfl⟩
      · obtain ⟨second, others, rest, hothersWritten, hseparated, hclose, hothersRead⟩ :=
          ih hothers
        refine ⟨(ts, e), second :: others, ts ++ middle.cursor.current :: rest, ?_,
          .more hcomma hseparated, hclose, ?_⟩
        · intro part hpart
          rcases List.mem_cons.1 hpart with rfl | hpart
          · exact hwritten
          · exact hothersWritten part hpart
        · have hcommaRead := Reads.cons (by rw [hcomma]; decide) hothersRead
          have hall := hread.trans hcommaRead
          rw [List.append_assoc]
          exact hall
      · refine ⟨(ts, e), [], ts, ?_, .one, hparen, ?_⟩
        · intro part hpart
          rw [List.mem_singleton.1 hpart]
          exact hwritten
        · exact hread.trans (.token (by rw [hparen]; decide))

theorem arguments_reads (hexpr : ReadsExprs expr) {check : CallCheck} {callee : Symbol}
    {kept : List Expr} {close : Token}
    (hquiet : Quiet (arguments expr check callee) settings state (kept, .ok close) next) :
    ∃ (parts : List (List Token × Surface)) (ts : List Token),
      (∀ argument ∈ parts, Written (.chain .logicalOr) argument.1 argument.2) ∧
      Separated (parts.map Prod.fst) ts ∧ close.kind = .closeParen ∧
      Reads state (ts ++ [close]) next := by
  rcases quiet_arguments.1 hquiet with ⟨hparen, -, rfl, rfl⟩ | ⟨-, hrest⟩
  · exact ⟨[], [], by simp, .none, hparen, .token (by rw [hparen]; decide)⟩
  · obtain ⟨first, others, ts, hwritten, hseparated, hclose, hread⟩ :=
      argumentsFrom_reads hexpr hrest
    exact ⟨first :: others, ts, hwritten, hseparated, hclose, hread⟩

theorem afterName_reads (hexpr : ReadsExprs expr) {name : Token} {symbol : Symbol}
    {span : Span} {result : Expr} (hname : name.kind = .identifier)
    (hquiet : Quiet (afterName expr symbol span) settings state result next) :
    ∃ ts e, Reads state ts next ∧ Written .factor (name :: ts) e := by
  rcases quiet_afterName.1 hquiet with ⟨-, helement⟩ | ⟨-, hcall⟩ | ⟨-, -, -, rfl⟩
  · obtain ⟨-, target, htarget, -⟩ := quiet_element.1 helement
    obtain ⟨opening, ts, closing, index, hopen, hclose, hindex, hread⟩ :=
      subscript_reads hexpr htarget
    exact ⟨_, _, hread, .element hname hopen hclose hindex⟩
  · obtain ⟨-, hchecked⟩ := quiet_call.1 hcall
    obtain ⟨hopen, kept, close, harguments, -, -⟩ := quiet_checkedCall.1 hchecked
    obtain ⟨parts, ts, hparts, hseparated, hclose, hread⟩ := arguments_reads hexpr harguments
    have hstart : (state.called symbol).advanced.cursor = state.advanced.cursor := by
      simp only [ParseState.advanced_cursor, ParseState.called_cursor]
    refine ⟨_, _, ?_, .call hname hopen hclose hparts hseparated⟩
    exact .cons (by rw [hopen]; decide) (hread.from_eq hstart)
  · exact ⟨[], _, .refl, .name hname⟩

theorem freshFactor_reads (hexpr : ReadsExprs expr) {result : Expr}
    (hquiet : Quiet (freshFactor expr) settings state (some result) next) :
    ∃ ts e, Reads state ts next ∧ Written .factor ts e := by
  rcases quiet_freshFactor_some.1 hquiet with ⟨hkind, hnamed⟩ | ⟨hkind, hstring⟩ |
    ⟨hkind, hconstant⟩ | ⟨hkind, hinner⟩ | ⟨hkind, hstep⟩ | ⟨hkind, hstep⟩ | ⟨hkind, haddress⟩
  · obtain ⟨symbol, middle, found, hresolve, hfound, -⟩ := quiet_named.1 hnamed
    obtain ⟨ts, e, hread, hwritten⟩ := afterName_reads hexpr hkind hfound
    exact ⟨_, e, .cons (by rw [hkind]; decide) (hread.from_eq hresolve.resolve_cursor), hwritten⟩
  · obtain ⟨-, rfl⟩ := quiet_stringLiteral.1 hstring
    exact ⟨_, _, (Reads.token (by rw [hkind]; decide)).to_eq rfl, .string hkind⟩
  · obtain ⟨value, hvalue, -, rfl⟩ := quiet_constant.1 hconstant
    exact ⟨_, _, .token (by rw [hkind]; decide), .constant hkind hvalue⟩
  · obtain ⟨middle, hfound, hclose, rfl⟩ := quiet_parenthesized.1 hinner
    obtain ⟨ts, e, hread, hwritten⟩ := hexpr hfound
    have hlast : Reads middle [middle.cursor.current] middle.advanced :=
      .token (by rw [hclose]; decide)
    exact ⟨_, e, .cons (by rw [hkind]; decide) (hread.trans hlast),
      .parenthesized hkind hclose hwritten⟩
  · obtain ⟨hname, symbol, hresolve, -, -⟩ := quiet_stepped.1 hstep
    have hlast : Reads state.advanced [state.advanced.cursor.current] next :=
      (Reads.token (by rw [hname]; decide)).to_eq hresolve.resolve_cursor
    exact ⟨_, _, .cons (by rw [hkind]; decide) hlast,
      .step (show _ = Step.token .increment from hkind) hname⟩
  · obtain ⟨hname, symbol, hresolve, -, -⟩ := quiet_stepped.1 hstep
    have hlast : Reads state.advanced [state.advanced.cursor.current] next :=
      (Reads.token (by rw [hname]; decide)).to_eq hresolve.resolve_cursor
    exact ⟨_, _, .cons (by rw [hkind]; decide) hlast,
      .step (show _ = Step.token .decrement from hkind) hname⟩
  · obtain ⟨hname, symbol, middle, target, after, hresolve, -, htarget, -, rfl⟩ :=
      quiet_addressed.1 haddress
    obtain ⟨opening, ts, closing, index, hopen, hclose, hindex, hread⟩ :=
      subscript_reads hexpr htarget
    have hrest : Reads state.advanced.advanced (opening :: (ts ++ [closing]))
        (after.noted (.addressed target)) :=
      (hread.from_eq hresolve.resolve_cursor).to_eq rfl
    exact ⟨_, _, .cons (by rw [hkind]; decide) (.cons (by rw [hname]; decide) hrest),
      .address hkind hname hopen hclose hindex⟩

end Factors

/-! ## Expressions -/

/-- The tokens that a handoff stands for. -/
inductive StandsFor : Option Handoff → List Token → Prop
  | none : StandsFor none []
  | ident {symbol : Symbol} {span : Span} {name : Token} : name.kind = .identifier →
      StandsFor (some (.ident symbol span)) [name]
  | element {target : Subscript} {lead : List Token} {e : Surface} :
      Written .factor lead e → StandsFor (some (.element target)) lead

/-- What a rule reads after a beginning that was handed to it completes the beginning
to something of a tier. -/
def ReadsAfter (tier : Tier) (rule : Rule) : Prop :=
  ∀ {handoff? lead settings state result next}, StandsFor handoff? lead →
    Quiet (rule handoff?) settings state (some result) next →
    ∃ ts e, Reads state ts next ∧ Written tier (lead ++ ts) e

theorem readsAfter_factor {expr : Parse (Option Expr)} [Respects ReportsMore expr]
    (hexpr : ReadsExprs expr) : ReadsAfter .factor (factor expr) := by
  intro handoff? lead settings state result next hlead hquiet
  cases hlead with
  | none => exact freshFactor_reads hexpr hquiet
  | ident hname =>
      obtain ⟨found, hfound, -⟩ := quiet_factor_ident.1 hquiet
      exact afterName_reads hexpr hname hfound
  | element hwritten =>
      obtain ⟨-, rfl⟩ := quiet_factor_element.1 hquiet
      rename_i lead e
      refine ⟨[], e, .refl, ?_⟩
      rw [List.append_nil]
      exact hwritten

theorem readsAfter_value {expr : Parse (Option Expr)} [Respects ReportsMore expr]
    (hexpr : ReadsExprs expr) : ReadsAfter .value (value expr) := by
  intro handoff? lead settings state result next hlead hquiet
  have hfactor {handoff} (hlead : StandsFor (some handoff) lead)
      (hquiet : Quiet (factor expr (some handoff)) settings state (some result) next) :
      ∃ ts e, Reads state ts next ∧ Written .value (lead ++ ts) e := by
    obtain ⟨ts, e, hread, hwritten⟩ := readsAfter_factor hexpr hlead hquiet
    exact ⟨ts, e, hread, .factor hwritten⟩
  cases hlead with
  | ident hname => exact hfactor (.ident hname) hquiet
  | element hwritten => exact hfactor (.element hwritten) hquiet
  | none =>
      rcases quiet_value_fresh_some.1 hquiet with ⟨hkind, hnegated⟩ | ⟨-, hfresh⟩
      · obtain ⟨operand, hoperand, -, -⟩ := quiet_negated.1 hnegated
        obtain ⟨ts, e, hread, hwritten⟩ := freshFactor_reads hexpr hoperand
        exact ⟨_, _, .cons (by rw [hkind]; decide) hread, .not hkind hwritten⟩
      · obtain ⟨ts, e, hread, hwritten⟩ := freshFactor_reads hexpr hfresh
        exact ⟨ts, e, hread, .factor hwritten⟩

/-- The operators of a level extend what the level derived so far. -/
theorem operatorsAfter_reads {level : Precedence} {operand : Rule}
    [∀ handoff?, Respects ReportsMore (operand handoff?)]
    (hoperand : ReadsAfter level.operand operand) {budget : Nat} {lhs result : Expr}
    {done : List Token} {left : Surface} (hdone : Written (.chain level) done left)
    (hquiet : Quiet (operatorsAfter level (operand none) budget lhs) settings state result
      next) :
    ∃ ts e, Reads state ts next ∧ Written (.chain level) (done ++ ts) e := by
  induction budget generalizing state lhs done left with
  | zero =>
      rw [operatorsAfter, quiet_pure] at hquiet
      obtain ⟨-, rfl⟩ := hquiet
      refine ⟨[], left, .refl, ?_⟩
      rw [List.append_nil]
      exact hdone
  | succ budget ih =>
      cases hoperator : level.operator? state.cursor.kind with
      | none =>
          obtain ⟨-, rfl⟩ := (quiet_operatorsAfter_of_none hoperator).1 hquiet
          refine ⟨[], left, .refl, ?_⟩
          rw [List.append_nil]
          exact hdone
      | some operator =>
          obtain ⟨rhs, node, middle, after, hrhs, hnode, hrest⟩ :=
            (quiet_operatorsAfter_of_some hoperator).1 hquiet
          obtain ⟨ts, right, hread, hright⟩ := hoperand .none hrhs
          obtain ⟨-, -, rfl⟩ := quiet_joined.1 hnode
          obtain ⟨rest, e, hrestRead, he⟩ := ih (.binary hoperator hdone hright) hrest
          have hsign := (kind_ne_of_operator? hoperator).1
          refine ⟨state.cursor.current :: (ts ++ rest), e,
            .cons hsign (hread.trans (hrestRead.from_eq rfl)), ?_⟩
          rw [List.append_assoc] at he
          exact he

theorem readsAfter_chain {level : Precedence} {operand : Rule}
    [∀ handoff?, Respects ReportsMore (operand handoff?)]
    (hoperand : ReadsAfter level.operand operand) :
    ReadsAfter (.chain level) (chain level operand) := by
  intro handoff? lead settings state result next hlead hquiet
  obtain ⟨lhs, middle, hlhs, hrest⟩ := quiet_chain_some.1 hquiet
  obtain ⟨ts, left, hread, hleft⟩ := hoperand hlead hlhs
  obtain ⟨rest, e, hrestRead, he⟩ := operatorsAfter_reads hoperand (.operand hleft) hrest
  rw [List.append_assoc] at he
  exact ⟨ts ++ rest, e, hread.trans hrestRead, he⟩

theorem readsAfter_orExpr {expr : Parse (Option Expr)} [Respects ReportsMore expr]
    (hexpr : ReadsExprs expr) : ReadsAfter (.chain .logicalOr) (orExpr expr) :=
  readsAfter_chain (readsAfter_chain (readsAfter_chain (readsAfter_chain (readsAfter_chain
    (readsAfter_value hexpr)))))

theorem exprWithin_reads (budget : Nat) : ReadsExprs (exprWithin budget none) := by
  induction budget with
  | zero =>
      intro settings state result next hquiet
      obtain ⟨smaller, hsmaller, -⟩ := quiet_exprWithin.1 hquiet
      contradiction
  | succ budget ih =>
      intro settings state result next hquiet
      obtain ⟨smaller, hsmaller, horExpr⟩ := quiet_exprWithin.1 hquiet
      cases hsmaller
      exact readsAfter_orExpr ih .none horExpr

theorem exprAfter_reads : ReadsAfter (.chain .logicalOr) exprAfter := by
  intro handoff? lead settings state result next hlead hquiet
  exact readsAfter_orExpr (exprWithin_reads _) hlead (quiet_exprAfter.1 hquiet)

theorem expr_reads {result : Expr}
    (hquiet : Quiet expr settings state (some result) next) :
    ∃ ts, Reads state ts next ∧ IsExpr ts := by
  obtain ⟨ts, e, hread, hwritten⟩ := exprAfter_reads .none hquiet
  exact ⟨ts, hread, e, hwritten⟩

end SubsetC.Parse
