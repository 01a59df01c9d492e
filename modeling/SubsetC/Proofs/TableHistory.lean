import SubsetC.Proofs.Composed
import SubsetC.Proofs.Reports

/-!
# Histories of symbol tables

A symbol table is changed by five operations, and some of them find that a name is misused.
A parse performs operations in the order in which it is put together from them: it leaves the
table that they lead to, and with checks it reports about names exactly what they find.
-/

namespace SubsetC

/-- An operation on a symbol table. -/
inductive TableOp where
  | enterScope
  | exitScope
  | declare (symbol : Symbol)
  | declareGlobal (symbol : Symbol)
  | resolve (name : String)
deriving DecidableEq, Repr

namespace TableOp

/-- The table after an operation.  A declaration that is refused leaves it as it is. -/
def perform (table : SymbolTable) : TableOp → SymbolTable
  | enterScope => table.enterScope
  | exitScope => table.exitScope
  | declare symbol =>
      match table.declare symbol with
      | .ok next => next
      | .error _ => table
  | declareGlobal symbol =>
      match table.declareGlobal symbol with
      | .ok next => next
      | .error _ => table
  | resolve name =>
      match table.resolve name with
      | .found _ => table
      | .planted _ next => next

/-- What an operation finds wrong with its name. -/
def misuse? (table : SymbolTable) : TableOp → Option Misuse
  | enterScope | exitScope => none
  | declare symbol =>
      match table.declare symbol with
      | .ok _ => none
      | .error _ => some (.redeclaration symbol.name)
  | declareGlobal symbol =>
      match table.declareGlobal symbol with
      | .ok _ => none
      | .error _ => some (.redeclaration symbol.name)
  | resolve name =>
      match table.resolve name with
      | .found _ => none
      | .planted _ _ => some (.undeclared name)

/-- Dummies are not declared, they only stand in for names that are not. -/
def DeclaresReal : TableOp → Prop
  | declare symbol | declareGlobal symbol => symbol.isDummy = false
  | _ => True

end TableOp

namespace SymbolTable

variable {table next : SymbolTable} {symbol : Symbol} {name : String}

/-- The table that operations lead to. -/
def after (table : SymbolTable) (ops : List TableOp) : SymbolTable :=
  ops.foldl TableOp.perform table

/-- What operations find, one after the other. -/
def misuses (table : SymbolTable) : List TableOp → List Misuse
  | [] => []
  | op :: ops => (op.misuse? table).toList ++ misuses (op.perform table) ops

@[simp] theorem after_nil (table : SymbolTable) : table.after [] = table := rfl

@[simp] theorem after_cons (table : SymbolTable) (op : TableOp) (ops : List TableOp) :
    table.after (op :: ops) = (op.perform table).after ops := rfl

@[simp] theorem after_append (table : SymbolTable) (ops later : List TableOp) :
    table.after (ops ++ later) = (table.after ops).after later :=
  List.foldl_append

@[simp] theorem misuses_append (table : SymbolTable) (ops later : List TableOp) :
    table.misuses (ops ++ later) = table.misuses ops ++ (table.after ops).misuses later := by
  induction ops generalizing table with
  | nil => rfl
  | cons op ops ih => simp [misuses, ih]

/-- What is declared is bound in the innermost scope. -/
theorem eq_bind_of_declare (hdeclare : table.declare symbol = .ok next) :
    next = table.bind symbol := by
  unfold declare at hdeclare
  split at hdeclare
  · split at hdeclare
    · exact (Except.ok.inj hdeclare).symm
    · contradiction
  · exact (Except.ok.inj hdeclare).symm

theorem eq_bind_of_declareGlobal (hdeclare : table.declareGlobal symbol = .ok next) :
    next = { table with globals := table.globals.bind symbol } := by
  unfold declareGlobal at hdeclare
  split at hdeclare
  · contradiction
  · exact (Except.ok.inj hdeclare).symm

theorem resolve_of_lookup (hlookup : table.lookup? name = some symbol) :
    table.resolve name = .found symbol := by
  unfold resolve
  rw [hlookup]

theorem resolve_of_unknown (hlookup : table.lookup? name = none) :
    table.resolve name = .planted (.dummy name) (table.bind (.dummy name)) := by
  unfold resolve
  rw [hlookup]

end SymbolTable

/-- What an operation can make of a table. -/
inductive TableOp.Effect (table : SymbolTable) : TableOp → SymbolTable → Prop
  | enterScope : Effect table .enterScope table.enterScope
  | exitScope : Effect table .exitScope table.exitScope
  | kept {op : TableOp} : Effect table op table
  | declared {symbol : Symbol} : table.declare symbol = .ok (table.bind symbol) →
      Effect table (.declare symbol) (table.bind symbol)
  | declaredGlobal {symbol : Symbol} :
      table.declareGlobal symbol = .ok { table with globals := table.globals.bind symbol } →
      Effect table (.declareGlobal symbol) { table with globals := table.globals.bind symbol }
  | planted {name : String} : table.lookup? name = none →
      Effect table (.resolve name) (table.bind (.dummy name))

theorem TableOp.perform_effect (table : SymbolTable) (op : TableOp) :
    op.Effect table (op.perform table) := by
  cases op with
  | enterScope => exact .enterScope
  | exitScope => exact .exitScope
  | declare symbol =>
      cases hdeclare : table.declare symbol with
      | error existing => simpa only [perform, hdeclare] using .kept
      | ok next =>
          rw [SymbolTable.eq_bind_of_declare hdeclare] at hdeclare
          simpa only [perform, hdeclare] using .declared hdeclare
  | declareGlobal symbol =>
      cases hdeclare : table.declareGlobal symbol with
      | error existing => simpa only [perform, hdeclare] using .kept
      | ok next =>
          rw [SymbolTable.eq_bind_of_declareGlobal hdeclare] at hdeclare
          simpa only [perform, hdeclare] using .declaredGlobal hdeclare
  | resolve name =>
      cases hlookup : table.lookup? name with
      | some symbol => simpa only [perform, SymbolTable.resolve_of_lookup hlookup] using .kept
      | none =>
          simpa only [perform, SymbolTable.resolve_of_unknown hlookup] using .planted hlookup

/-! ## What is reported about names -/

/-- The misuse of a name that a diagnostic reports, if it reports one. -/
def Diagnostic.nameMisuse? (diagnostic : Diagnostic) : Option Misuse :=
  match diagnostic.cause with
  | .fault _ => none
  | .misuse misuse => if misuse.isOfName then some misuse else none

/-- The misuses of names, in the order of their reports. -/
def Journal.nameMisuses (journal : Journal) : List Misuse :=
  journal.diagnostics.toList.filterMap Diagnostic.nameMisuse?

theorem ParseState.reported_nameMisuses (state : ParseState) (diagnostic : Diagnostic) :
    (state.reported diagnostic).journal.nameMisuses =
      state.journal.nameMisuses ++ diagnostic.nameMisuse?.toList := by
  unfold Journal.nameMisuses
  rw [reported_diagnostics, List.filterMap_append]
  cases hmisuse : diagnostic.nameMisuse? <;> simp [hmisuse]

namespace Parse

variable {α β : Type} {settings : Settings} {state : ParseState}

/-- A parse that has nothing to do with names. -/
def KeepsNames (settings : Settings) (parse : Parse α) : Prop :=
  ∀ state, (parse.run settings state).2.symbols = state.symbols ∧
    (parse.run settings state).2.journal.nameMisuses = state.journal.nameMisuses

theorem KeepsNames.bind {parse : Parse α} {continued : α → Parse β}
    (hparse : KeepsNames settings parse)
    (hcontinued : ∀ value, KeepsNames settings (continued value)) :
    KeepsNames settings (parse >>= continued) := by
  intro state
  obtain ⟨hsymbols, hnames⟩ := hparse state
  rw [run_bind]
  rcases hrun : parse.run settings state with ⟨failure | value, middle⟩
  · rw [hrun] at hsymbols hnames
    exact ⟨hsymbols, hnames⟩
  · rw [hrun] at hsymbols hnames
    obtain ⟨hlater, hlaterNames⟩ := hcontinued value middle
    exact ⟨hlater.trans hsymbols, hlaterNames.trans hnames⟩

theorem note_keepsNames (event : Event) : KeepsNames settings (note event) :=
  fun _ => ⟨rfl, rfl⟩

theorem skipPast_keepsNames (target : TokenKind) : KeepsNames settings (skipPast target) := by
  have hskip : KeepsNames settings (skipTo target) := fun _ => ⟨rfl, rfl⟩
  have hkind : KeepsNames settings kind := fun _ => ⟨rfl, rfl⟩
  have hposition : KeepsNames settings position := fun _ => ⟨rfl, rfl⟩
  have hadvance : KeepsNames settings advance := fun _ => ⟨rfl, rfl⟩
  unfold skipPast resynchronize
  refine .bind (hposition.bind fun _ => (note_keepsNames _).bind fun _ => hskip.bind fun _ =>
    hkind.bind fun _ => ?_) fun _ => hadvance.bind fun _ => fun _ => ⟨rfl, rfl⟩
  split
  · exact hposition.bind fun _ _ => ⟨rfl, rfl⟩
  · exact fun _ => ⟨rfl, rfl⟩

theorem recoverPast_keepsNames (delimiter : TokenKind) (failure : Failure) :
    KeepsNames settings (recoverPast delimiter failure) := by
  have hreport : KeepsNames settings (reportFailure failure) := fun state => by
    have hnames := ParseState.reported_nameMisuses state (.ofFailure failure)
    exact ⟨rfl, hnames.trans (List.append_nil _)⟩
  unfold recoverPast
  split
  · exact fun _ => ⟨rfl, rfl⟩
  · exact hreport.bind fun _ => skipPast_keepsNames delimiter

/-- With checks a misuse of a name is added to what was reported about names. -/
theorem reportMisuse_names (settings : Settings) (misuse : Misuse) (position : Position)
    (state : ParseState) :
    ∃ next, reportMisuse misuse position settings state = .ok () next ∧
      next.symbols = state.symbols ∧
      next.journal.nameMisuses = state.journal.nameMisuses ++
        if settings.checks && misuse.isOfName then [misuse] else [] := by
  cases hchecks : settings.checks with
  | false => exact ⟨state, reportMisuse_unchecked hchecks misuse position state, rfl, by simp⟩
  | true =>
      refine ⟨_, reportMisuse_checked hchecks misuse position state, rfl, ?_⟩
      rw [ParseState.reported_nameMisuses]
      cases hname : misuse.isOfName <;> simp [Diagnostic.nameMisuse?, hname]

theorem reportMisuse_keepsNames {misuse : Misuse} (hname : misuse.isOfName = false)
    (position : Position) : KeepsNames settings (reportMisuse misuse position) := by
  intro state
  obtain ⟨next, hrun, hsymbols, hnames⟩ := reportMisuse_names settings misuse position state
  rw [run_of_ok hrun]
  simp only [hname, Bool.and_false, Bool.false_eq_true, if_false, List.append_nil] at hnames
  exact ⟨hsymbols, hnames⟩

/-! ## What a parse performs -/

/-- Run on a state, a parse performs operations on the symbol table in a given order. -/
inductive Performs (settings : Settings) :
    {α : Type} → Parse α → ParseState → List TableOp → Prop
  | still {α : Type} {parse : Parse α} {state : ParseState} : KeepsNames settings parse →
      Performs settings parse state []
  | resolve {name : String} {position : Position} {state : ParseState} :
      Performs settings (resolve name position) state [.resolve name]
  | declareVariable {name : Token} {ty : Ty} {state : ParseState} :
      Performs settings (declareVariable name ty) state [.declare (.variable name.text ty)]
  | declareFunction {name : Token} {signature : Signature} {state : ParseState} :
      Performs settings (declareFunction name signature) state
        [.declareGlobal (.function name.text signature)]
  | bind_ok {α β : Type} {parse : Parse α} {continued : α → Parse β} {value : α}
      {state middle : ParseState} {ops later : List TableOp} :
      parse settings state = .ok value middle → Performs settings parse state ops →
      Performs settings (continued value) middle later →
      Performs settings (parse >>= continued) state (ops ++ later)
  | bind_error {α β : Type} {parse : Parse α} {continued : α → Parse β} {failure : Failure}
      {state failed : ParseState} {ops : List TableOp} :
      parse settings state = .error failure failed → Performs settings parse state ops →
      Performs settings (parse >>= continued) state ops
  | attempt {α : Type} {parse : Parse α} {state : ParseState} {ops : List TableOp} :
      Performs settings parse state ops → Performs settings (attempt parse) state ops
  | bracket {α : Type} {before after : ParseState → ParseState} {parse : Parse α}
      {state : ParseState} {ops : List TableOp} :
      (∀ state, (before state).symbols = state.symbols.enterScope ∧
        (before state).journal = state.journal) →
      (∀ state, (after state).symbols = state.symbols.exitScope ∧
        (after state).journal = state.journal) →
      Performs settings parse (before state) ops →
      Performs settings (bracket before after parse) state (.enterScope :: (ops ++ [.exitScope]))

/-- Every composed parse performs operations, whether it succeeds or fails. -/
theorem Composes.performs {caught : Option Failure} {carries : α → Option Failure}
    {parse : Parse α} (hparse : Composes caught carries parse) (settings : Settings)
    (state : ParseState) : ∃ ops, Performs settings parse state ops := by
  induction hparse generalizing state with
  | @act α caught carries parse hacts =>
      refine ⟨[], .still fun state => ?_⟩
      obtain ⟨value, next, hrun, -, hsymbols, hjournal, -⟩ := hacts settings state
      rw [run_of_ok hrun, hjournal]
      exact ⟨hsymbols, rfl⟩
  | note => exact ⟨[], .still (note_keepsNames _)⟩
  | throw => exact ⟨[], .still fun _ => ⟨rfl, rfl⟩⟩
  | @bind α β caught between carries parse continued _ _ ihparse ihcontinued =>
      obtain ⟨ops, hops⟩ := ihparse state
      cases hrun : parse settings state with
      | error failure failed => exact ⟨ops, .bind_error hrun hops⟩
      | ok value middle =>
          obtain ⟨later, hlater⟩ := ihcontinued value middle
          exact ⟨ops ++ later, .bind_ok hrun hops hlater⟩
  | attempt _ ih =>
      obtain ⟨ops, hops⟩ := ih state
      exact ⟨ops, .attempt hops⟩
  | recoverPast => exact ⟨[], .still (recoverPast_keepsNames _ _)⟩
  | skipPast => exact ⟨[], .still (skipPast_keepsNames _)⟩
  | reportMisuse hname => exact ⟨[], .still (reportMisuse_keepsNames hname _)⟩
  | resolve => exact ⟨_, .resolve⟩
  | declareVariable => exact ⟨_, .declareVariable⟩
  | declareFunction => exact ⟨_, .declareFunction⟩
  | @bracket α before after parse hbefore hafter _ ih =>
      obtain ⟨ops, hops⟩ := ih (before state)
      refine ⟨_, .bracket (fun state => ?_) (fun state => ?_) hops⟩
      · exact ⟨(hbefore state).1, (hbefore state).2.1⟩
      · exact ⟨(hafter state).1, (hafter state).2.1⟩

/-! ## What comes of it -/

/-- The state holds the table that the operations lead to and the reports of what they find. -/
def Records (settings : Settings) (state : ParseState) (ops : List TableOp) (next : ParseState) :
    Prop :=
  next.symbols = state.symbols.after ops ∧
    next.journal.nameMisuses = state.journal.nameMisuses ++
      if settings.checks then state.symbols.misuses ops else []

theorem Records.trans {middle next : ParseState} {ops later : List TableOp}
    (hfirst : Records settings state ops middle) (hsecond : Records settings middle later next) :
    Records settings state (ops ++ later) next := by
  obtain ⟨hsymbols, hnames⟩ := hfirst
  obtain ⟨hlater, hlaterNames⟩ := hsecond
  refine ⟨by rw [hlater, hsymbols, SymbolTable.after_append], ?_⟩
  rw [hlaterNames, hnames, hsymbols]
  cases settings.checks <;> simp

/-- A misuse of a name is reported for the one operation that finds it. -/
theorem records_reportMisuse {op : TableOp} {misuse : Misuse} {position : Position} {value : α}
    {changed : ParseState} (hop : op.misuse? state.symbols = some misuse)
    (hname : misuse.isOfName = true) (hsymbols : changed.symbols = op.perform state.symbols)
    (hjournal : changed.journal = state.journal) :
    Records settings state [op] ((do
      reportMisuse misuse position
      return value : Parse α).run settings changed).2 := by
  obtain ⟨next, hrun, hnext, hnames⟩ := reportMisuse_names settings misuse position changed
  rw [run_of_ok ((bind_of_ok hrun).trans (pure_run value))]
  refine ⟨hnext.trans hsymbols, ?_⟩
  rw [hnames, hjournal]
  simp [SymbolTable.misuses, hop, hname]

/-- An operation that finds nothing. -/
theorem records_of_eq {op : TableOp} {next : ParseState} (hop : op.misuse? state.symbols = none)
    (hsymbols : next.symbols = op.perform state.symbols)
    (hjournal : next.journal = state.journal) : Records settings state [op] next := by
  refine ⟨hsymbols, ?_⟩
  rw [hjournal]
  simp [SymbolTable.misuses, hop]

theorem resolve_records (name : String) (position : Position) :
    Records settings state [.resolve name] ((resolve name position).run settings state).2 := by
  cases hlookup : state.symbols.lookup? name with
  | some symbol =>
      have hresolve := SymbolTable.resolve_of_lookup hlookup
      rw [run_of_ok (resolve_found hlookup)]
      exact records_of_eq (by simp [TableOp.misuse?, hresolve])
        (by simp [TableOp.perform, hresolve]) rfl
  | none =>
      have hresolve := SymbolTable.resolve_of_unknown hlookup
      rw [run_congr (resolve_planted hlookup)]
      exact records_reportMisuse (by simp [TableOp.misuse?, hresolve]) rfl
        (by simp [TableOp.perform, hresolve]) rfl

theorem declareVariable_records (name : Token) (ty : Ty) :
    Records settings state [.declare (.variable name.text ty)]
      ((declareVariable name ty).run settings state).2 := by
  cases hdeclare : state.symbols.declare (.variable name.text ty) with
  | ok symbols =>
      rw [run_of_ok (declareVariable_declared hdeclare)]
      exact records_of_eq (by simp [TableOp.misuse?, hdeclare])
        (by simp [TableOp.perform, hdeclare]) rfl
  | error existing =>
      rw [run_congr (declareVariable_refused hdeclare)]
      exact records_reportMisuse (by simp [TableOp.misuse?, hdeclare, Symbol.name]) rfl
        (by simp [TableOp.perform, hdeclare]) rfl

theorem declareFunction_records (name : Token) (signature : Signature) :
    Records settings state [.declareGlobal (.function name.text signature)]
      ((declareFunction name signature).run settings state).2 := by
  cases hdeclare : state.symbols.declareGlobal (.function name.text signature) with
  | ok symbols =>
      rw [run_of_ok (declareFunction_declared hdeclare)]
      exact records_of_eq (by simp [TableOp.misuse?, hdeclare])
        (by simp [TableOp.perform, hdeclare]) rfl
  | error existing =>
      rw [run_congr (declareFunction_refused hdeclare)]
      exact records_reportMisuse (by simp [TableOp.misuse?, hdeclare, Symbol.name]) rfl
        (by simp [TableOp.perform, hdeclare]) rfl

/-- The operations of a run account for its table and for its reports about names. -/
theorem Performs.records {parse : Parse α} {ops : List TableOp}
    (hperforms : Performs settings parse state ops) :
    Records settings state ops (parse.run settings state).2 := by
  induction hperforms with
  | @still α parse state hkeeps =>
      obtain ⟨hsymbols, hnames⟩ := hkeeps state
      exact ⟨hsymbols, by simpa [SymbolTable.misuses] using hnames⟩
  | resolve => exact resolve_records _ _
  | declareVariable => exact declareVariable_records _ _
  | declareFunction => exact declareFunction_records _ _
  | bind_ok hrun _ _ ihparse ihcontinued =>
      rw [run_of_ok hrun] at ihparse
      rw [run_congr (bind_of_ok hrun)]
      exact ihparse.trans ihcontinued
  | bind_error hrun _ ih =>
      rw [run, hrun] at ih
      rw [run, bind_of_error hrun]
      exact ih
  | attempt _ ih =>
      rw [run_attempt]
      exact ih
  | @bracket α before after parse state ops hbefore hafter _ ih =>
      rw [run_bracket]
      have hentered : Records settings state [.enterScope] (before state) :=
        records_of_eq rfl (hbefore state).1 (hbefore state).2
      exact hentered.trans (ih.trans (records_of_eq rfl (hafter _).1 (hafter _).2))

/-- Only variables and functions are declared. -/
theorem Performs.declaresReal {parse : Parse α} {ops : List TableOp}
    (hperforms : Performs settings parse state ops) : ∀ op ∈ ops, op.DeclaresReal := by
  induction hperforms with
  | still => simp
  | resolve => simp [TableOp.DeclaresReal]
  | declareVariable => simp [TableOp.DeclaresReal, Symbol.isDummy]
  | declareFunction => simp [TableOp.DeclaresReal, Symbol.isDummy]
  | bind_ok _ _ _ ihparse ihcontinued =>
      intro op hop
      rcases List.mem_append.1 hop with hop | hop
      · exact ihparse op hop
      · exact ihcontinued op hop
  | bind_error _ _ ih => exact ih
  | attempt _ ih => exact ih
  | bracket _ _ _ ih =>
      intro op hop
      simp only [List.mem_cons, List.mem_append, List.not_mem_nil, or_false] at hop
      rcases hop with rfl | hop | rfl
      · trivial
      · exact ih op hop
      · trivial

end Parse

/-- The operations of parsing a file, from the initial table on. -/
theorem parse_performs (settings : Settings) (tokens : List Token) :
    ∃ ops, Parse.Performs settings Parse.journaled (.ofTokens tokens settings.file) ops ∧
      (parse settings tokens).2.symbols = ({} : SymbolTable).after ops ∧
      (parse settings tokens).2.journal.nameMisuses =
        if settings.checks then ({} : SymbolTable).misuses ops else [] := by
  have hcomposed : Parse.Composed Parse.journaled := inferInstance
  obtain ⟨ops, hperforms⟩ :=
    hcomposed.composes.performs settings (.ofTokens tokens settings.file)
  obtain ⟨hsymbols, hnames⟩ := hperforms.records
  exact ⟨ops, hperforms, hsymbols, hnames⟩

end SubsetC
