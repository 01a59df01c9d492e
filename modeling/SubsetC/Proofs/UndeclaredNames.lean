import Mathlib.Data.List.Infix
import SubsetC.Proofs.Scanned
import SubsetC.Proofs.ScopeBalance
import SubsetC.Proofs.TableHistory

/-!
# Undeclared names

An undeclared name is reported once while the scope in which it was met is open.  Its dummy is
bound there, and no operation takes a binding away: a declaration puts another symbol in its
place, and only leaving the scope drops it.

So a parse that reports a name twice has left a scope in between, the one that was innermost at
the first report.
-/

namespace SubsetC

/-- Binding a symbol takes no name out of a scope. -/
theorem Scope.isSome_find?_bind {scope : Scope} {name : String} (symbol : Symbol)
    (hfind : (scope.find? name).isSome = true) :
    ((scope.bind symbol).find? name).isSome = true := by
  by_cases hname : symbol.name = name
  · rw [← hname, Scope.find?_bind_self]
    rfl
  · rwa [Scope.find?_bind_of_ne hname]

namespace SymbolTable

variable {table : SymbolTable} {depth : Nat} {name : String}

/-! ## Names held by open scopes -/

/-- One of the outer scopes, up to a depth, has a symbol of a name. -/
def Holds (depth : Nat) (name : String) (table : SymbolTable) : Prop :=
  ∃ above kept, table.scopes = above ++ kept ∧ kept.length = depth ∧
    ∃ scope ∈ kept, (scope.find? name).isSome = true

theorem Holds.known (hholds : table.Holds depth name) :
    ∃ symbol, table.lookup? name = some symbol := by
  obtain ⟨above, kept, hscopes, -, scope, hscope, hfind⟩ := hholds
  apply Option.isSome_iff_exists.1
  unfold lookup?
  rw [List.findSome?_isSome_iff, hscopes]
  exact ⟨scope, List.mem_append_right _ hscope, hfind⟩

theorem Holds.bind (hholds : table.Holds depth name) (symbol : Symbol) :
    (table.bind symbol).Holds depth name := by
  obtain ⟨above, kept, hscopes, hlength, scope, hscope, hfind⟩ := hholds
  rw [scopes_eq_cons] at hscopes
  unfold Holds
  rw [bind_scopes]
  cases above with
  | nil =>
      -- The innermost scope is one of those that hold the name.
      rw [List.nil_append] at hscopes
      subst hscopes
      refine ⟨[], _, rfl, hlength, ?_⟩
      rcases List.mem_cons.1 hscope with rfl | houter
      · exact ⟨_, List.mem_cons_self, Scope.isSome_find?_bind symbol hfind⟩
      · exact ⟨scope, List.mem_cons_of_mem _ houter, hfind⟩
  | cons first above =>
      obtain ⟨-, htail⟩ := List.cons.inj hscopes
      exact ⟨table.innermost.bind symbol :: above, kept, by rw [htail]; rfl, hlength, scope, hscope,
        hfind⟩

theorem Holds.bindGlobal (hholds : table.Holds depth name) (symbol : Symbol) :
    Holds depth name { table with globals := table.globals.bind symbol } := by
  obtain ⟨above, kept, hscopes, hlength, scope, hscope, hfind⟩ := hholds
  have hkept : kept ≠ [] := List.ne_nil_of_mem hscope
  have hsplit :
      table.inner ++ [table.globals] = (above ++ kept.dropLast) ++ [kept.getLast hkept] := by
    rw [List.append_assoc, List.dropLast_concat_getLast]
    exact hscopes
  obtain ⟨hinner, hglobals⟩ := List.append_inj' hsplit rfl
  refine ⟨above, kept.dropLast ++ [table.globals.bind symbol], ?_, ?_, ?_⟩
  · unfold scopes
    rw [← List.append_assoc, ← hinner]
  · rw [← hlength, List.length_append, List.length_dropLast, List.length_singleton]
    have hpositive := List.length_pos_iff.2 hkept
    omega
  · rw [← List.dropLast_concat_getLast hkept] at hscope
    rcases List.mem_append.1 hscope with houter | hlast
    · exact ⟨scope, List.mem_append_left _ houter, hfind⟩
    · rw [List.mem_singleton.1 hlast, ← List.singleton_inj.1 hglobals] at hfind
      exact ⟨_, List.mem_append_right _ (List.mem_singleton_self _),
        Scope.isSome_find?_bind symbol hfind⟩

theorem Holds.enterScope (hholds : table.Holds depth name) : table.enterScope.Holds depth name := by
  obtain ⟨above, kept, hscopes, hkept⟩ := hholds
  refine ⟨[] :: above, kept, ?_, hkept⟩
  rw [List.cons_append, ← hscopes]
  rfl

/-- Only a scope above those that hold the name may be left. -/
theorem Holds.exitScope (hholds : table.Holds depth name)
    (hopen : depth ≤ table.exitScope.depth) : table.exitScope.Holds depth name := by
  obtain ⟨above, kept, hscopes, hlength, hscope⟩ := hholds
  cases hinner : table.inner with
  | nil =>
      refine ⟨above, kept, ?_, hlength, hscope⟩
      rw [← hscopes]
      simp [scopes, SymbolTable.exitScope, hinner]
  | cons left outer =>
      have hleft : table.scopes = left :: table.exitScope.scopes := by
        simp [scopes, SymbolTable.exitScope, hinner]
      rw [depth_eq_length] at hopen
      rw [hleft] at hscopes
      cases above with
      | nil =>
          have hcount := congrArg List.length hscopes
          rw [List.length_cons, List.nil_append, hlength] at hcount
          omega
      | cons first above => exact ⟨above, kept, (List.cons.inj hscopes).2, hlength, hscope⟩

/-! ## Operations while the scopes stay open -/

/-- One operation that leaves none of the scopes keeps the name. -/
theorem Holds.perform (hholds : table.Holds depth name) (op : TableOp)
    (hopen : depth ≤ (op.perform table).depth) : (op.perform table).Holds depth name := by
  have heffect := op.perform_effect table
  generalize op.perform table = next at heffect hopen ⊢
  cases heffect with
  | enterScope => exact hholds.enterScope
  | exitScope => exact hholds.exitScope hopen
  | kept => exact hholds
  | declared _ => exact hholds.bind _
  | declaredGlobal _ => exact hholds.bindGlobal _
  | planted _ => exact hholds.bind _

theorem Holds.after {ops : List TableOp} (hholds : table.Holds depth name)
    (hopen : ∀ part, part <+: ops → depth ≤ (table.after part).depth) :
    (table.after ops).Holds depth name := by
  induction ops generalizing table with
  | nil => exact hholds
  | cons op ops ih =>
      have hfirst : depth ≤ (op.perform table).depth :=
        hopen [op] ((List.prefix_cons_inj op).2 List.nil_prefix)
      refine ih (hholds.perform op hfirst) fun part hpart => ?_
      exact hopen (op :: part) ((List.prefix_cons_inj op).2 hpart)

/-- The dummy of an unknown name is bound in the innermost scope. -/
theorem holds_bind_dummy (table : SymbolTable) (name : String) :
    (table.bind (.dummy name)).Holds table.depth name := by
  refine ⟨[], (table.bind (.dummy name)).scopes, rfl, ?_, ?_⟩
  · rw [bind_scopes, depth_eq_length, table.scopes_eq_cons]
    rfl
  · rw [bind_scopes]
    have hfind : (table.innermost.bind (.dummy name)).find? name = some (.dummy name) :=
      Scope.find?_bind_self _ (.dummy name)
    exact ⟨_, List.mem_cons_self, by rw [hfind]; rfl⟩

/-- While the scope in which a name was unknown is open, the name is known. -/
theorem known_after {dummy : Symbol} {planted : SymbolTable}
    (hresolve : table.resolve name = .planted dummy planted) {ops : List TableOp}
    (hopen : ∀ part, part <+: ops → table.depth ≤ (planted.after part).depth) :
    ∃ symbol, (planted.after ops).lookup? name = some symbol ∧
      (planted.after ops).resolve name = .found symbol := by
  cases hlookup : table.lookup? name with
  | some symbol =>
      rw [resolve_of_lookup hlookup] at hresolve
      contradiction
  | none =>
      rw [resolve_of_unknown hlookup] at hresolve
      cases hresolve
      obtain ⟨symbol, hknown⟩ := ((holds_bind_dummy table name).after hopen).known
      exact ⟨symbol, hknown, resolve_of_lookup hknown⟩

/-! ## What is found twice -/

/-- Each misuse that operations find is found by one of them. -/
theorem exists_split_of_misuses {ops : List TableOp} {earlier later : List Misuse}
    {misuse : Misuse} (hmisuses : table.misuses ops = earlier ++ misuse :: later) :
    ∃ first op last, ops = first ++ op :: last ∧ table.misuses first = earlier ∧
      op.misuse? (table.after first) = some misuse ∧
      (op.perform (table.after first)).misuses last = later := by
  induction ops generalizing table earlier with
  | nil => simp [misuses] at hmisuses
  | cons op ops ih =>
      unfold misuses at hmisuses
      cases hop : op.misuse? table with
      | none =>
          rw [hop] at hmisuses
          obtain ⟨first, found, last, rfl, hearlier, hfound, hlater⟩ := ih hmisuses
          exact ⟨op :: first, found, last, rfl, by simp [misuses, hop, hearlier], hfound, hlater⟩
      | some here =>
          rw [hop] at hmisuses
          cases earlier with
          | nil =>
              obtain ⟨rfl, hlater⟩ := List.cons.inj hmisuses
              exact ⟨[], op, ops, rfl, rfl, hop, hlater⟩
          | cons before earlier =>
              obtain ⟨rfl, hrest⟩ := List.cons.inj hmisuses
              obtain ⟨first, found, last, rfl, hearlier, hfound, hlater⟩ := ih hrest
              exact ⟨op :: first, found, last, rfl, by simp [misuses, hop, hearlier], hfound,
                hlater⟩

theorem eq_resolve_of_undeclared {op : TableOp}
    (hop : op.misuse? table = some (.undeclared name)) :
    op = .resolve name ∧ table.lookup? name = none := by
  unfold TableOp.misuse? at hop
  cases op with
  | enterScope => contradiction
  | exitScope => contradiction
  | declare symbol => cases hdeclare : table.declare symbol <;> simp [hdeclare] at hop
  | declareGlobal symbol => cases hdeclare : table.declareGlobal symbol <;> simp [hdeclare] at hop
  | resolve other =>
      cases hlookup : table.lookup? other with
      | some symbol => simp [resolve_of_lookup hlookup] at hop
      | none =>
          simp only [resolve_of_unknown hlookup, Option.some.injEq, Misuse.undeclared.injEq] at hop
          subst hop
          exact ⟨rfl, hlookup⟩

/-- Between two finds of one unknown name the scope of the first is left. -/
theorem exists_left_of_misuses {ops : List TableOp} {earlier between later : List Misuse}
    (hmisuses : table.misuses ops =
      earlier ++ .undeclared name :: (between ++ .undeclared name :: later)) :
    ∃ first middle last part, ops = first ++ .resolve name :: (middle ++ .resolve name :: last) ∧
      table.misuses first = earlier ∧
      table.misuses (first ++ .resolve name :: middle) =
        earlier ++ .undeclared name :: between ∧
      part <+: middle ∧
      (table.after (first ++ .resolve name :: part)).depth < (table.after first).depth := by
  obtain ⟨first, found, rest, rfl, hearlier, hfound, hrest⟩ := exists_split_of_misuses hmisuses
  obtain ⟨rfl, hunknown⟩ := eq_resolve_of_undeclared hfound
  obtain ⟨middle, again, last, rfl, hbetween, hagain, -⟩ := exists_split_of_misuses hrest
  obtain ⟨rfl, hunknownAgain⟩ := eq_resolve_of_undeclared hagain
  have hresolve := resolve_of_unknown hunknown
  have hplanted : (TableOp.resolve name).perform (table.after first) =
      (table.after first).bind (.dummy name) := by
    simp only [TableOp.perform, hresolve]
  have hleft : ∃ part, part <+: middle ∧
      (((table.after first).bind (.dummy name)).after part).depth < (table.after first).depth := by
    by_contra hstays
    push Not at hstays
    obtain ⟨symbol, hknown, -⟩ := known_after hresolve hstays
    rw [hplanted, hknown] at hunknownAgain
    contradiction
  obtain ⟨part, hpart, hdepth⟩ := hleft
  refine ⟨first, middle, last, part, rfl, hearlier, ?_, hpart, ?_⟩
  · rw [misuses_append, hearlier]
    simp only [misuses, hfound, hbetween]
    rfl
  · rwa [after_append, after_cons, hplanted]

end SymbolTable

/-- Once a name was found unknown it is known to every sequence of operations in which the
scope of that find stays open.  So in a parse with checks a name is reported as undeclared a
second time only if the scope that was innermost at the first report was left in between. -/
theorem undeclared_once :
    (∀ (table : SymbolTable) (name : String) (dummy : Symbol) (planted : SymbolTable),
      table.resolve name = .planted dummy planted → ∀ ops : List TableOp,
      (∀ part, part <+: ops → table.depth ≤ (planted.after part).depth) →
      ∃ symbol, (planted.after ops).lookup? name = some symbol ∧
        (planted.after ops).resolve name = .found symbol) ∧
    ∀ (settings : Settings) (tokens : List Token) (name : String)
      (earlier between later : List Diagnostic) (first second : Diagnostic),
      settings.checks = true → first.cause = .misuse (.undeclared name) →
      second.cause = .misuse (.undeclared name) →
      (parse settings tokens).2.journal.diagnostics.toList =
        earlier ++ first :: (between ++ second :: later) →
      ∃ before middle after part,
        Parse.Performs settings Parse.journaled (.ofTokens tokens settings.file)
          (before ++ .resolve name :: (middle ++ .resolve name :: after)) ∧
        SymbolTable.misuses {} before = earlier.filterMap Diagnostic.nameMisuse? ∧
        SymbolTable.misuses {} (before ++ .resolve name :: middle) =
          (earlier ++ first :: between).filterMap Diagnostic.nameMisuse? ∧
        part <+: middle ∧
        (SymbolTable.after {} (before ++ .resolve name :: part)).depth <
          (SymbolTable.after {} before).depth := by
  refine ⟨fun table name dummy planted hresolve ops hopen =>
    SymbolTable.known_after hresolve hopen, ?_⟩
  intro settings tokens name earlier between later first second hchecks hfirst hsecond hreports
  obtain ⟨ops, hperforms, -, hnames⟩ := parse_performs settings tokens
  have hmisuse : ∀ {diagnostic : Diagnostic}, diagnostic.cause = .misuse (.undeclared name) →
      diagnostic.nameMisuse? = some (.undeclared name) := by
    intro diagnostic hcause
    simp [Diagnostic.nameMisuse?, hcause, Misuse.isOfName]
  rw [Journal.nameMisuses, hreports, hchecks, if_pos rfl] at hnames
  simp only [List.filterMap_append, List.filterMap_cons, hmisuse hfirst, hmisuse hsecond]
    at hnames
  obtain ⟨before, middle, after, part, rfl, hbefore, hbetween, hpart, hdepth⟩ :=
    SymbolTable.exists_left_of_misuses hnames.symm
  refine ⟨before, middle, after, part, hperforms, hbefore, ?_, hpart, hdepth⟩
  rw [hbetween]
  simp [hmisuse hfirst]

/-- Two functions that use the same name, which neither of them declares. -/
def strayText : String := "int f() { { x; x; } int x; } int g() { return x; }"

/-- Operations under a scope in which a name is unknown: it is shadowed inside, and declared
there in the end. -/
def shadowingOps : List TableOp :=
  [.enterScope, .declare (.variable "x" .int), .exitScope, .declareGlobal (.variable "x" .int),
    .declare (.variable "x" .char)]

theorem strayText_undeclared_once :
    (∃ planted, (SymbolTable.enterScope {}).resolve "x" = .planted (.dummy "x") planted ∧
      ∃ symbol, (planted.after shadowingOps).lookup? "x" = some symbol ∧
        (planted.after shadowingOps).resolve "x" = .found symbol) ∧
    ∃ tokens first second, tokenize strayText "f.c" = .ok tokens ∧
      first.cause = .misuse (.undeclared "x") ∧ second.cause = .misuse (.undeclared "x") ∧
      (parse { file := "f.c" } tokens).2.journal.diagnostics.toList = [first, second] ∧
      ∃ before middle after part,
        Parse.Performs { file := "f.c" } Parse.journaled (.ofTokens tokens "f.c")
          (before ++ .resolve "x" :: (middle ++ .resolve "x" :: after)) ∧
        SymbolTable.misuses {} before = [] ∧ part <+: middle ∧
        (SymbolTable.after {} (before ++ .resolve "x" :: part)).depth <
          (SymbolTable.after {} before).depth := by
  constructor
  · have hresolve : (SymbolTable.enterScope {}).resolve "x" =
        .planted (.dummy "x") ((SymbolTable.enterScope {}).bind (.dummy "x")) := rfl
    refine ⟨_, hresolve, undeclared_once.1 _ _ _ _ hresolve _ ?_⟩
    simp only [← List.mem_inits]
    decide
  · have hreads : ((tokenize strayText "f.c").toOption.any fun tokens => decide
        ((parse { file := "f.c" } tokens).2.journal.diagnostics.toList.map Diagnostic.cause =
          [.misuse (.undeclared "x"), .misuse (.undeclared "x")])) = true := by
      decide +kernel
    obtain ⟨tokens, htokens, hcauses⟩ := exists_tokens hreads
    obtain ⟨first, rest, hreports, hfirst, hrest⟩ := List.map_eq_cons_iff.1 hcauses
    obtain ⟨second, rest, rfl, hsecond, hnone⟩ := List.map_eq_cons_iff.1 hrest
    rw [List.map_eq_nil_iff.1 hnone] at hreports
    obtain ⟨before, middle, after, part, hperforms, hbefore, -, hpart, hdepth⟩ :=
      undeclared_once.2 { file := "f.c" } tokens "x" [] [] [] first second rfl hfirst hsecond
        hreports
    exact ⟨tokens, first, second, htokens, hfirst, hsecond, hreports, before, middle, after, part,
      hperforms, hbefore, hpart, hdepth⟩

end SubsetC
