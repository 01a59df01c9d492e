import SubsetC.Proofs.QuietProgram
import SubsetC.Proofs.TableScopes

/-!
# Checked nodes

What checks with the standard rules give: nodes that are typed, of symbols that the
table gives the names that were read.  A failed check would be reported, and an
exemption from a check takes a part of type `error` or a dummy.
-/

namespace SubsetC

/-! ## The standard rules -/

section Rules

variable {operator : BinaryOp} {lhs rhs operand : Ty}

theorem judgeBinary_standard (hlhs : lhs ≠ .error) (hrhs : rhs ≠ .error)
    (haccepted : (TypeRules.standard.judgeBinary operator lhs rhs).accepted = true) :
    lhs.isScalar = true ∧ rhs.isScalar = true ∧
      (TypeRules.standard.judgeBinary operator lhs rhs).ty = .int := by
  unfold TypeRules.judgeBinary at haccepted ⊢
  rw [if_neg (by simp [hlhs, hrhs])] at haccepted ⊢
  cases hl : lhs.isScalar <;> cases hr : rhs.isScalar <;>
    simp_all [TypeRules.standard, Verdict.ofResult]

theorem judgeNot_standard (hoperand : operand ≠ .error)
    (haccepted : (TypeRules.standard.judgeNot operand).accepted = true) :
    operand.isScalar = true ∧ (TypeRules.standard.judgeNot operand).ty = .int := by
  unfold TypeRules.judgeNot at haccepted ⊢
  rw [if_neg hoperand] at haccepted ⊢
  cases hscalar : operand.isScalar <;> simp_all [TypeRules.standard, Verdict.ofResult]

theorem judgeStep_standard (hoperand : operand ≠ .error)
    (haccepted : (TypeRules.standard.judgeStep operand).accepted = true) :
    operand.isScalar = true ∧ (TypeRules.standard.judgeStep operand).ty = operand := by
  unfold TypeRules.judgeStep at haccepted ⊢
  rw [if_neg hoperand] at haccepted ⊢
  cases hscalar : operand.isScalar <;> simp_all [TypeRules.standard, Verdict.ofResult]

end Rules

theorem Ty.element?_of_isArray {ty : Ty} (harray : ty.isArray = true) :
    ty.element?.getD .error ≠ .error := by
  cases ty <;> simp_all [Ty.isArray, Ty.element?]

theorem Ty.ne_error_of_isScalar {ty : Ty} (hscalar : ty.isScalar = true) : ty ≠ .error := by
  rintro rfl
  contradiction

theorem Constant.isScalar_of_ofText {text : String} {value : Constant}
    (hvalue : ofText text = .ok value) : value.ty.isScalar = true := by
  unfold ofText at hvalue
  cases hread : read? text.toList with
  | none => simp [hread] at hvalue
  | some found =>
      simp only [hread, Except.ok.injEq] at hvalue
      subst hvalue
      unfold read? at hread
      cases hbody : body? text.toList with
      | some body =>
          simp only [hbody, character?, Option.map_eq_some_iff] at hread
          obtain ⟨c, -, rfl⟩ := hread
          rfl
      | none =>
          simp only [hbody, integer?] at hread
          split at hread
          · split at hread
            · cases hread
              rfl
            · contradiction
          · contradiction

/-! ## Checked nodes -/

namespace Expr

/-- A typed node whose symbol has a property. -/
structure NodeChecked (P : Symbol → Prop) (node : Expr) : Prop where
  typed : node.NodeTyped
  symbol : ∀ symbol, node.symbol? = some symbol → P symbol

abbrev Checked (P : Symbol → Prop) (e : Expr) : Prop := e.Everywhere (NodeChecked P)

variable {P : Symbol → Prop} {e : Expr}

theorem NodeChecked.of_symbol {symbol : Symbol} (hholds : e.symbol? = some symbol)
    (hsymbol : P symbol) (hregular : symbol.IsRegular) (hty : e.ty ≠ .error)
    (hparts : e.PartsFit) : e.NodeChecked P := by
  have hsame (other : Symbol) (hother : e.symbol? = some other) : other = symbol :=
    Option.some.inj (hother.symm.trans hholds)
  refine ⟨⟨hty, fun other hother => ?_, hparts⟩, fun other hother => ?_⟩
  · rw [hsame other hother]
    exact hregular.isDummy_eq_false
  · rw [hsame other hother]
    exact hsymbol

theorem NodeChecked.of_none (hnone : e.symbol? = none) (hty : e.ty ≠ .error)
    (hparts : e.PartsFit) : e.NodeChecked P := by
  refine ⟨⟨hty, fun other hother => ?_, hparts⟩, fun other hother => ?_⟩
  · rw [hnone] at hother
    contradiction
  · rw [hnone] at hother
    contradiction

theorem narrow_ty (hty : e.ty = .int) : e.narrow.ty = .char := by
  unfold Expr.narrow
  rw [if_pos hty]
  rfl

theorem widen_ty (hty : e.ty = .char) : e.widen.ty = .int := by
  unfold Expr.widen
  rw [if_pos hty]
  rfl

@[simp] theorem widen_names (e : Expr) : e.widen.names = e.names := by
  unfold Expr.widen
  split
  · rfl
  · rfl

@[simp] theorem narrow_names (e : Expr) : e.narrow.names = e.names := by
  unfold Expr.narrow
  split
  · rfl
  · rfl

theorem Everywhere.ty_ne_error (he : e.Checked P) : e.ty ≠ .error := he.here.typed.ty

theorem Everywhere.widen (he : e.Checked P) : e.widen.Checked P := by
  unfold Expr.widen
  split
  · rename_i hty
    exact .single rfl (.of_none rfl (by simp [Expr.ty]) hty) he
  · exact he

theorem Everywhere.narrow (he : e.Checked P) : e.narrow.Checked P := by
  unfold Expr.narrow
  split
  · rename_i hty
    exact .single rfl (.of_none rfl (by simp [Expr.ty]) hty) he
  · exact he

end Expr

/-- A subscript of a scalar to an array that has a property. -/
structure Subscript.Checked (P : Symbol → Prop) (target : Subscript) : Prop where
  array : P target.array
  isArray : target.array.ty.isArray = true
  isScalar : target.index.ty.isScalar = true
  index : target.index.Checked P

theorem Subscript.Checked.read {P : Symbol → Prop} (hP : ∀ symbol, P symbol → symbol.IsRegular)
    {target : Subscript} (htarget : target.Checked P) : target.read.Checked P := by
  have hnode : target.read.NodeChecked P :=
    .of_symbol rfl htarget.array (hP _ htarget.array) (Ty.element?_of_isArray htarget.isArray)
      ⟨htarget.isArray, htarget.isScalar⟩
  exact .single rfl hnode htarget.index

def Handoff.Checked (P : Symbol → Prop) : Handoff → Prop
  | .ident symbol _ => P symbol
  | .element target => target.Checked P

def Handoff.names : Handoff → List String
  | .ident symbol _ => [symbol.name]
  | .element target => target.names

theorem Handoff.checked_of_none {P : Symbol → Prop} :
    ∀ handoff, none = some handoff → Handoff.Checked P handoff := nofun

/-! ## Names ahead -/

namespace ParseState

variable {state next : ParseState}

def names (state : ParseState) : List String := identifiers state.cursor.ahead

theorem names_eq_of_cursor_eq (hcursor : next.cursor = state.cursor) :
    next.names = state.names := by
  unfold names
  rw [hcursor]

theorem names_suffix (hahead : next.cursor.ahead <:+ state.cursor.ahead) :
    next.names <:+ state.names := by
  obtain ⟨read, hread⟩ := hahead
  unfold names identifiers
  rw [← hread, List.filter_append, List.map_append]
  exact List.suffix_append _ _

theorem names_of_identifier (hkind : state.cursor.kind = .identifier) :
    state.names = state.cursor.current.text :: state.advanced.names := by
  have hcurrent : state.cursor.current.kind = .identifier := hkind
  unfold names identifiers
  rw [Cursor.ahead_eq_cons (by rw [hkind]; decide), List.filter_cons_of_pos (by simp [hcurrent])]
  rfl

theorem names_of_ne (hkind : state.cursor.kind ≠ .identifier) :
    state.names = state.advanced.names := by
  unfold names identifiers ParseState.advanced
  cases hahead : state.cursor.ahead with
  | nil => simp [Cursor.advance, hahead]
  | cons token others =>
      have htoken : token.kind ≠ .identifier := by
        simpa [Cursor.kind, Cursor.current, hahead] using hkind
      simp [Cursor.advance, hahead, htoken]

theorem names_of_kind {kind : TokenKind} (hkind : state.cursor.kind = kind)
    (hother : kind ≠ .identifier) : state.names = state.advanced.names :=
  names_of_ne (by rw [hkind]; exact hother)

end ParseState

namespace Parse

/-- A state with a given table in which the names ahead stand for symbols with a
property, if for any. -/
structure Knows (P : Symbol → Prop) (table : SymbolTable) (state : ParseState) : Prop where
  symbols : state.symbols = table
  names : ∀ name ∈ state.names, ∀ symbol, table.lookup? name = some symbol → P symbol

variable {settings : Settings} {state next : ParseState} {P : Symbol → Prop}
  {table : SymbolTable}

theorem Knows.of_suffix (hknows : Knows P table state) (hsymbols : next.symbols = table)
    (hahead : next.cursor.ahead <:+ state.cursor.ahead) : Knows P table next :=
  ⟨hsymbols, fun name hmem =>
    hknows.names name ((ParseState.names_suffix hahead).subset hmem)⟩

theorem Knows.after {α : Type} {parse : Parse α} [Respects ReadsOn parse] {value : α}
    (hknows : Knows P table state) (hquiet : Quiet parse settings state value next)
    (hsymbols : next.symbols = table) : Knows P table next :=
  hknows.of_suffix hsymbols hquiet.readsOn

theorem Knows.advanced (hknows : Knows P table state) : Knows P table state.advanced :=
  hknows.of_suffix hknows.symbols (List.tail_suffix _)

/-- With checks, a name is quiet only if the table has it, and it changes nothing. -/
theorem quiet_resolve_checked (hchecks : settings.checks = true) {name : String}
    {position : Position} {symbol : Symbol} :
    Quiet (resolve name position) settings state symbol next ↔
      state.symbols.lookup? name = some symbol ∧ next = state := by
  rw [quiet_resolve]
  simp [hchecks]

theorem Knows.resolve_current (hchecks : settings.checks = true) (hknows : Knows P table state)
    (hkind : state.cursor.kind = .identifier) {position : Position} {symbol : Symbol}
    (hresolve : Quiet (resolve state.cursor.current.text position) settings state.advanced symbol
      next) :
    P symbol ∧ state.names = symbol.name :: state.advanced.names ∧ next = state.advanced := by
  obtain ⟨hlookup, rfl⟩ := (quiet_resolve_checked hchecks).1 hresolve
  have hnames := ParseState.names_of_identifier hkind
  have hname := SymbolTable.name_eq_of_lookup? hlookup
  have hfound : table.lookup? state.cursor.current.text = some symbol := by
    rw [← hknows.symbols]
    exact hlookup
  refine ⟨hknows.names _ ?_ symbol hfound, ?_, rfl⟩
  · rw [hnames]
    exact List.mem_cons_self
  · rw [hname]
    exact hnames

structure Strict (settings : Settings) : Prop where
  checks : settings.checks = true
  rules : settings.rules = .standard

/-- A strict parse among regular symbols. -/
structure Checking (settings : Settings) (P : Symbol → Prop) : Prop extends Strict settings where
  regular : ∀ symbol, P symbol → symbol.IsRegular

/-- A checked expression of the names read between two states with the same table,
after some that were read before. -/
structure Built (P : Symbol → Prop) (table : SymbolTable) (lead : List String)
    (state next : ParseState) (tree : Expr) : Prop where
  symbols : next.symbols = table
  names : lead ++ state.names = tree.names ++ next.names
  checked : tree.Checked P

theorem Built.names_eq {tree : Expr} (hbuilt : Built P table [] state next tree) :
    state.names = tree.names ++ next.names := hbuilt.names

theorem Built.widen {lead : List String} {tree : Expr}
    (hbuilt : Built P table lead state next tree) :
    Built P table lead state next tree.widen := by
  refine ⟨hbuilt.symbols, ?_, hbuilt.checked.widen⟩
  rw [Expr.widen_names]
  exact hbuilt.names

def BuildsChecked (settings : Settings) (P : Symbol → Prop) (table : SymbolTable)
    (expr : Parse (Option Expr)) : Prop :=
  ∀ ⦃state : ParseState⦄ ⦃tree : Expr⦄ ⦃next : ParseState⦄, Knows P table state →
    Quiet expr settings state (some tree) next → Built P table [] state next tree

theorem isScalar_of_countsAsScalar {e : Expr} (hcounts : countsAsScalar e.ty = true)
    (he : e.ty ≠ .error) : e.ty.isScalar = true := by
  simpa [countsAsScalar, he] using hcounts

end Parse

end SubsetC
