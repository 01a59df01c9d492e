import SubsetC.Proofs.Interning
import SubsetC.Proofs.Respects
import SubsetC.Proofs.Typing

/-!
# Invariants of trees

A tree is built while the state still changes, so what is known of it is told from a
later state: its ids of strings from a table that has grown since, its positions from a
cursor that has moved on.  An invariant fixes such a later point and says which states
lie before it, what their journals hold, and what every tree and every reported position
looks like from there.  A parse maintains it if that is so of what it gives, or of the
failure that it ends with.
-/

namespace SubsetC

namespace Parse

/-- The cursor has moved forward in the same stream, and the string table has grown. -/
structure Grows (state next : ParseState) : Prop where
  cursor : MovesOn state next
  strings : state.strings.texts.toList <+: next.strings.texts.toList

theorem Grows.of_eq {state next : ParseState} (hcursor : next.cursor = state.cursor)
    (hstrings : next.strings = state.strings) : Grows state next := by
  constructor <;> simp [MovesOn, hcursor, hstrings]

instance : ProgramRelation Grows where
  refl _ := .of_eq rfl rfl
  trans hfirst hsecond :=
    ⟨StepRelation.trans hfirst.cursor hsecond.cursor, hfirst.strings.trans hsecond.strings⟩
  move _ _ hahead hlast := ⟨⟨hahead, hlast⟩, List.prefix_rfl⟩
  note _ _ := .of_eq rfl rfl
  report _ _ := .of_eq rfl rfl
  plant _ _ _ := .of_eq rfl rfl
  intern state text := ⟨StepRelation.intern state text, state.strings.intern_prefix text⟩
  markPrintf _ := .of_eq rfl rfl
  declare _ _ _ _ := .of_eq rfl rfl
  inScope h := ⟨StmtRelation.inScope h.cursor, h.strings⟩
  declareGlobal _ _ _ _ := .of_eq rfl rfl
  setReturnType _ _ := .of_eq rfl rfl

-- Instances of their own keep the search for `Respects Grows` short.
instance : StmtRelation Grows := inferInstance

instance : StepRelation Grows := inferInstance

structure TreeInvariant where
  before : ParseState → Prop
  sound : ParseState → Prop
  place : Position → Prop
  tree : Expr → Prop
  before_of : ∀ {state next}, Grows state next → before next → before state
  sound_of : ∀ {state next}, Grows state next →
    next.journal.diagnostics = state.journal.diagnostics → sound state → sound next
  report : ∀ {state diagnostic}, place diagnostic.position → sound state →
    sound (state.reported diagnostic)
  current : ∀ {state}, sound state → before state → place state.cursor.current.span.start
  start : ∀ {e}, tree e → place e.start
  /-- A string has its id once the text is in the table. -/
  string : ∀ {state : ParseState} {text span},
    before { state with strings := (state.strings.intern text).2 } → place span.start →
      tree (.string text (state.strings.intern text).1 span)
  node : ∀ {e}, (∀ text id span, e ≠ .string text id span) → place e.start →
    (∀ child ∈ e.children, tree child) → tree e

variable {α β : Type} {I : TreeInvariant}
  {settings : Settings} {P : α → Prop} {Q : β → Prop}

namespace TreeInvariant

/-- A result of which the value has a property or the failure lies at a place. -/
def Fine (I : TreeInvariant) (P : α → Prop) : Except Failure α → Prop
  | .ok value => P value
  | .error failure => I.place failure.position

def tree? (I : TreeInvariant) (e? : Option Expr) : Prop := ∀ e, e? = some e → I.tree e

def token (I : TreeInvariant) (token : Token) : Prop := I.place token.span.start

def subscript (I : TreeInvariant) (target : Subscript) : Prop :=
  I.place target.span.start ∧ I.tree target.index

def handoff (I : TreeInvariant) : Handoff → Prop
  | .ident _ span => I.place span.start
  | .element target => I.subscript target

theorem ident {symbol : Symbol} {span : Span} (hspan : I.place span.start) :
    I.tree (.ident symbol span) :=
  I.node (by simp) hspan (by simp [Expr.children])

theorem toInt {e : Expr} (he : I.tree e) : I.tree (.toInt e) := by
  have hstart := I.start he
  exact I.node (by simp) hstart (by simpa [Expr.children])

theorem toChar {e : Expr} (he : I.tree e) : I.tree (.toChar e) := by
  have hstart := I.start he
  exact I.node (by simp) hstart (by simpa [Expr.children])

theorem widen {e : Expr} (he : I.tree e) : I.tree e.widen := by
  by_cases hty : e.ty = .char
  · simpa [Expr.widen, hty] using toInt he
  · simpa [Expr.widen, hty] using he

theorem narrow {e : Expr} (he : I.tree e) : I.tree e.narrow := by
  by_cases hty : e.ty = .int
  · simpa [Expr.narrow, hty] using toChar he
  · simpa [Expr.narrow, hty] using he

theorem read {target : Subscript} (htarget : I.subscript target) : I.tree target.read :=
  I.node (by simp [Subscript.read]) htarget.1
    (by simpa [Subscript.read, Expr.children] using htarget.2)

theorem call {callee : Symbol} {arguments : List Expr} {span : Span}
    (hspan : I.place span.start) (harguments : ∀ argument ∈ arguments, I.tree argument) :
    I.tree (.call callee arguments span) :=
  I.node (by simp) hspan (by simpa [Expr.children])

theorem tree?_none : I.tree? none := by simp [tree?]

theorem tree?_some {e : Expr} (he : I.tree e) : I.tree? (some e) := by simpa [tree?]

end TreeInvariant

/-- From every state before the later point of an invariant, what a parse gives has a
property, and what it reports or fails with lies at a place of the invariant. -/
structure Maintains (I : TreeInvariant) (settings : Settings) (P : α → Prop)
    (parse : Parse α) : Prop where
  leads : Respects Grows parse
  fine : ∀ state, I.sound state → I.before (parse.run settings state).2 →
    I.sound (parse.run settings state).2 ∧ I.Fine P (parse.run settings state).1

namespace Maintains

/-! ## Combinators -/

section Combinators

/-- A change of the state that reports nothing. -/
theorem of_run {parse : Parse α} [hleads : Respects Grows parse] {value : ParseState → α}
    {change : ParseState → ParseState}
    (hrun : ∀ state, parse.run settings state = (.ok (value state), change state))
    (hdiagnostics : ∀ state, (change state).journal.diagnostics = state.journal.diagnostics)
    (hvalue : ∀ state, I.sound state → I.before state → I.before (change state) →
      P (value state)) :
    Maintains I settings P parse where
  leads := hleads
  fine state hsound hbefore := by
    have hleads := hleads.run settings state
    rw [hrun] at hleads hbefore ⊢
    have hvalue := hvalue state hsound (I.before_of hleads hbefore) hbefore
    exact ⟨I.sound_of hleads (hdiagnostics state) hsound, hvalue⟩

/-- A change of the state that reports nothing, and gives nothing to be told of. -/
theorem of_still {parse : Parse α} [Respects Grows parse] {value : ParseState → α}
    {change : ParseState → ParseState}
    (hrun : ∀ state, parse.run settings state = (.ok (value state), change state))
    (hdiagnostics : ∀ state, (change state).journal.diagnostics = state.journal.diagnostics) :
    Maintains I settings (fun _ => True) parse :=
  of_run hrun hdiagnostics fun _ _ _ _ => trivial

theorem ite {condition : Prop} [Decidable condition] {accepted rejected : Parse α}
    (haccepted : Maintains I settings P accepted)
    (hrejected : Maintains I settings P rejected) :
    Maintains I settings P (if condition then accepted else rejected) := by
  split
  · exact haccepted
  · exact hrejected

theorem attempt {parse : Parse α} (hparse : Maintains I settings P parse) :
    Maintains I settings (I.Fine P) (attempt parse) where
  leads := by
    have hleads := hparse.leads
    infer_instance
  fine state hsound hbefore := by
    rw [run_attempt] at hbefore ⊢
    exact hparse.fine state hsound hbefore

theorem bracket {parse : Parse α} {enter leave : ParseState → ParseState}
    (hparse : Maintains I settings P parse) (henter : ∀ state, Grows state (enter state))
    (henter' : ∀ state, (enter state).journal = state.journal)
    (hleave : ∀ state, Grows state (leave state))
    (hleave' : ∀ state, (leave state).journal = state.journal) :
    Maintains I settings P (bracket enter leave parse) where
  leads := by
    have hleads := hparse.leads
    exact .bracket fun state next hinner =>
      StepRelation.trans (henter state) (StepRelation.trans hinner (hleave next))
  fine state hsound hbefore := by
    rw [run_bracket] at hbefore ⊢
    have hentered := I.sound_of (henter state) (by rw [henter']) hsound
    have hinner := hparse.fine _ hentered (I.before_of (hleave _) hbefore)
    exact ⟨I.sound_of (hleave _) (by rw [hleave']) hinner.1, hinner.2⟩

theorem pure {value : α} (hvalue : P value) : Maintains I settings P (pure value : Parse α) :=
  of_run (fun _ => rfl) (fun _ => rfl) fun _ _ _ _ => hvalue

theorem get : Maintains I settings (fun _ => True) (get : Parse ParseState) :=
  of_still (fun _ => rfl) fun _ => rfl

theorem read : Maintains I settings (fun _ => True) (read : Parse Settings) :=
  of_still (fun _ => rfl) fun _ => rfl

theorem throw {failure : Failure} (hfailure : I.place failure.position) :
    Maintains I settings P (throw failure : Parse α) where
  leads := inferInstance
  fine _ hsound _ := ⟨hsound, hfailure⟩

theorem failAt {fault : Fault} {position : Position} (hposition : I.place position) :
    Maintains I settings P (failAt fault position : Parse α) :=
  throw hposition

/-- The state that the first part leaves lies before the point too, since the second part
leads on from there.  That it does must not rest on what the first part gives. -/
theorem bind_of {parse : Parse α} {continued : α → Parse β}
    (hparse : Maintains I settings P parse)
    (hleads : ∀ value, Respects Grows (continued value))
    (hcontinued : ∀ value, P value → Maintains I settings Q (continued value)) :
    Maintains I settings Q (parse >>= continued) where
  leads := hparse.leads.bind hleads
  fine state hsound hbefore := by
    have hfirst := hparse.fine state hsound
    rw [run_bind] at hbefore ⊢
    cases hrun : parse.run settings state with
    | mk result middle =>
        simp only [hrun] at hfirst hbefore ⊢
        cases result with
        | error failure => exact hfirst hbefore
        | ok value =>
            have hmiddle := hfirst (I.before_of ((hleads value).run settings middle) hbefore)
            exact (hcontinued value hmiddle.2).fine middle hmiddle.1 hbefore

theorem bind {parse : Parse α} {continued : α → Parse β}
    [hleads : ∀ value, Respects Grows (continued value)] (hparse : Maintains I settings P parse)
    (hcontinued : ∀ value, P value → Maintains I settings Q (continued value)) :
    Maintains I settings Q (parse >>= continued) :=
  hparse.bind_of hleads hcontinued

/-- A first part of which the values do not matter. -/
theorem after {parse : Parse α} {continued : α → Parse β}
    (hparse : Maintains I settings P parse)
    (hcontinued : ∀ value, Maintains I settings Q (continued value)) :
    Maintains I settings Q (parse >>= continued) :=
  hparse.bind_of (fun value => (hcontinued value).leads) fun value _ => hcontinued value

theorem map {f : α → β} {parse : Parse α} (hparse : Maintains I settings P parse)
    (hf : ∀ value, P value → Q (f value)) : Maintains I settings Q (f <$> parse) := by
  rw [map_eq_pure_bind]
  exact hparse.bind fun value hvalue => pure (hf value hvalue)

theorem attempt_bind {parse : Parse α} {continued : Except Failure α → Parse β}
    [hleads : ∀ value, Respects Grows (continued (.ok value))]
    [hleads' : ∀ failure, Respects Grows (continued (.error failure))]
    (hparse : Maintains I settings P parse)
    (hok : ∀ value, P value → Maintains I settings Q (continued (.ok value)))
    (herror : ∀ failure, I.place failure.position →
      Maintains I settings Q (continued (.error failure))) :
    Maintains I settings Q (Parse.attempt parse >>= continued) := by
  refine hparse.attempt.bind_of (fun result => ?_) fun result hresult => ?_
  · cases result with
    | ok value => exact hleads value
    | error failure => exact hleads' failure
  · cases result with
    | ok value => exact hok value hresult
    | error failure => exact herror failure hresult

theorem option_bind {parse : Parse (Option α)} {continued : Option α → Parse β}
    [hleads : ∀ value, Respects Grows (continued (some value))]
    (hparse : Maintains I settings (fun value? => ∀ value, value? = some value → P value) parse)
    (hsome : ∀ value, P value → Maintains I settings Q (continued (some value)))
    (hnone : Maintains I settings Q (continued none)) :
    Maintains I settings Q (parse >>= continued) := by
  refine hparse.bind_of (fun value? => ?_) fun value? hvalue => ?_
  · cases value? with
    | some value => exact hleads value
    | none => exact hnone.leads
  · cases value? with
    | some value => exact hsome value (hvalue value rfl)
    | none => exact hnone

theorem orFail {parse : Parse (Option α)} {failure : Failure}
    (hparse : Maintains I settings (fun value? => ∀ value, value? = some value → P value) parse)
    (hfailure : I.place failure.position) : Maintains I settings P (orFail parse failure) :=
  hparse.option_bind (fun _ hvalue => pure hvalue) (throw hfailure)

end Combinators

end Maintains

/-! ## Elementary parses -/

section Elementary

theorem current_maintains : Maintains I settings I.token current :=
  .of_run (fun _ => rfl) (fun _ => rfl) fun _ hsound hbefore _ => I.current hsound hbefore

theorem position_maintains : Maintains I settings I.place position :=
  .of_run (fun _ => rfl) (fun _ => rfl) fun _ hsound hbefore _ => I.current hsound hbefore

theorem kind_maintains : Maintains I settings (fun _ => True) kind :=
  .of_still (fun _ => rfl) fun _ => rfl

theorem remaining_maintains : Maintains I settings (fun _ => True) remaining :=
  .of_still (fun _ => rfl) fun _ => rfl

theorem hasTokens_maintains : Maintains I settings (fun _ => True) hasTokens :=
  .of_still (fun _ => rfl) fun _ => rfl

theorem advance_maintains : Maintains I settings I.token advance :=
  .of_run (fun _ => rfl) (fun _ => rfl) fun _ hsound hbefore _ => I.current hsound hbefore

theorem skipTo_maintains (target : TokenKind) :
    Maintains I settings (fun _ => True) (skipTo target) :=
  .of_still (fun _ => rfl) fun _ => rfl

theorem note_maintains (event : Event) : Maintains I settings (fun _ => True) (note event) :=
  .of_still (fun _ => rfl) fun _ => rfl

theorem markPrintf_maintains : Maintains I settings (fun _ => True) markPrintf :=
  .of_still (fun _ => rfl) fun _ => rfl

theorem intern_maintains (text : String) :
    Maintains I settings (fun id => ∀ span, I.place span.start → I.tree (.string text id span))
      (intern text) :=
  .of_run (fun _ => rfl) (fun _ => rfl) fun _ _ _ hbefore _ hspan => I.string hbefore hspan

theorem record_maintains {diagnostic : Diagnostic} (hplace : I.place diagnostic.position) :
    Maintains I settings (fun _ => True) (record diagnostic) :=
  ⟨inferInstance, fun _ hsound _ => ⟨I.report hplace hsound, trivial⟩⟩

theorem accept_maintains (expected : TokenKind) :
    Maintains I settings (fun _ => True) (accept expected) := by
  unfold accept
  refine kind_maintains.after fun kind => .ite ?_ (.pure trivial)
  exact advance_maintains.after fun _ => .pure trivial

theorem expectOr_maintains (expected : TokenKind) {failure : Failure}
    (hfailure : I.place failure.position) :
    Maintains I settings I.token (expectOr expected failure) := by
  unfold expectOr
  exact kind_maintains.after fun kind => .ite advance_maintains (.throw hfailure)

theorem expect_maintains (expected : TokenKind) :
    Maintains I settings I.token (expect expected) := by
  unfold expect
  exact current_maintains.bind fun found hfound => expectOr_maintains expected hfound

theorem resynchronize_maintains (target : TokenKind) :
    Maintains I settings (fun _ => True) (resynchronize target) := by
  unfold resynchronize
  refine position_maintains.after fun start => (note_maintains _).after fun _ => ?_
  refine (skipTo_maintains target).after fun _ => kind_maintains.after fun kind => ?_
  have hended : Maintains I settings (fun _ : Unit => True)
      (do failAt .endOfInput (← position)) :=
    position_maintains.bind fun _ hposition => .failAt hposition
  exact .ite hended (.pure trivial)

theorem skipPast_maintains (target : TokenKind) :
    Maintains I settings (fun _ => True) (skipPast target) := by
  unfold skipPast
  refine (resynchronize_maintains target).after fun _ => ?_
  exact advance_maintains.after fun _ => .pure trivial

theorem reportMisuse_maintains (misuse : Misuse) {position : Position}
    (hposition : I.place position) :
    Maintains I settings (fun _ => True) (reportMisuse misuse position) := by
  unfold reportMisuse
  exact Maintains.read.after fun _ => .ite (record_maintains hposition) (.pure trivial)

theorem reportUnless_maintains (condition : Bool) (misuse : Misuse) {position : Position}
    (hposition : I.place position) :
    Maintains I settings (fun _ => True) (reportUnless condition misuse position) := by
  unfold reportUnless
  exact .ite (.pure trivial) (reportMisuse_maintains misuse hposition)

theorem recoverPast_maintains (delimiter : TokenKind) {failure : Failure}
    (hfailure : I.place failure.position) :
    Maintains I settings (fun _ => True) (recoverPast delimiter failure) := by
  have hreported : Maintains I settings (fun _ => True) (reportFailure failure) :=
    record_maintains hfailure
  unfold recoverPast
  exact .ite (.throw hfailure) (hreported.after fun _ => skipPast_maintains delimiter)

/-- An unknown name changes the symbols, of which an invariant tells nothing. -/
theorem resolve_maintains (name : String) {position : Position} (hposition : I.place position) :
    Maintains I settings (fun _ => True) (resolve name position) where
  leads := inferInstance
  fine state hsound hbefore := by
    cases hlookup : state.symbols.lookup? name with
    | some symbol =>
        rw [run_of_ok (resolve_found hlookup)] at hbefore ⊢
        exact ⟨hsound, trivial⟩
    | none =>
        rw [run_congr (resolve_planted hlookup)] at hbefore ⊢
        have hplanted := I.sound_of (StepRelation.plant state name hlookup) rfl hsound
        have hreport : Maintains I settings (fun _ => True)
            (do reportMisuse (.undeclared name) position; return Symbol.dummy name) :=
          (reportMisuse_maintains _ hposition).after fun _ => .pure trivial
        exact hreport.fine _ hplanted hbefore

theorem placeholder_maintains {span : Span} (hspan : I.place span.start) :
    Maintains I settings I.tree (placeholder span) := by
  unfold placeholder
  exact Maintains.get.after fun _ => .pure (TreeInvariant.ident hspan)

end Elementary

end Parse

end SubsetC
