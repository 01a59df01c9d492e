import SubsetC.Proofs.Gives
import SubsetC.Proofs.Quiet
import SubsetC.Proofs.Scanned

/-!
# An `else` and its `if`

A statement may end in an `if` that has no `else`, and an `else` behind it belongs to that `if`.
The rule for `if` asks for an `else` as soon as its first statement is read, so the innermost
one asks first: a statement that was read and ends in this way has no `else` behind it.
-/

namespace SubsetC

namespace Stmt

/-- Whether a statement ends in an `if` without `else`. -/
def endsOpen : Stmt → Bool
  | conditional _ _ none _ => true
  | conditional _ _ (some rejected) _ => rejected.endsOpen
  | whileLoop _ body _ => body.endsOpen
  | _ => false

mutual

/-- A statement and all those inside it. -/
def nodes : Stmt → List Stmt
  | conditional condition accepted none span =>
      conditional condition accepted none span :: accepted.nodes
  | conditional condition accepted (some rejected) span =>
      conditional condition accepted (some rejected) span :: (accepted.nodes ++ rejected.nodes)
  | whileLoop condition body span => whileLoop condition body span :: body.nodes
  | block body span => block body span :: allNodes body
  | stmt => [stmt]

def allNodes : List Stmt → List Stmt
  | [] => []
  | stmt :: others => stmt.nodes ++ allNodes others

end

/-- No `else` in a statement is behind an `if` without one, which it would belong to. -/
def ElseNearest (stmt : Stmt) : Prop :=
  ∀ condition accepted rejected span,
    conditional condition accepted (some rejected) span ∈ stmt.nodes → accepted.endsOpen = false

/-- Whether a statement has no other inside it. -/
def isLeaf : Stmt → Bool
  | conditional .. | whileLoop .. | block .. => false
  | _ => true

variable {stmt accepted rejected body : Stmt} {condition : Expr} {span : Span}

theorem nodes_of_isLeaf (hleaf : stmt.isLeaf = true) : stmt.nodes = [stmt] := by
  cases stmt <;> first | rfl | contradiction

theorem endsOpen_of_isLeaf (hleaf : stmt.isLeaf = true) : stmt.endsOpen = false := by
  cases stmt <;> first | rfl | contradiction

theorem elseNearest_of_isLeaf (hleaf : stmt.isLeaf = true) : stmt.ElseNearest := by
  intro condition accepted rejected span hmem
  rw [nodes_of_isLeaf hleaf, List.mem_singleton] at hmem
  rw [← hmem] at hleaf
  contradiction

theorem mem_allNodes {node : Stmt} {stmts : List Stmt} :
    node ∈ allNodes stmts ↔ ∃ stmt ∈ stmts, node ∈ stmt.nodes := by
  induction stmts with
  | nil => simp [allNodes]
  | cons stmt others ih => simp [allNodes, ih]

@[simp] theorem elseNearest_conditional_none :
    (conditional condition accepted none span).ElseNearest ↔ accepted.ElseNearest := by
  simp [ElseNearest, nodes]

@[simp] theorem elseNearest_conditional_some :
    (conditional condition accepted (some rejected) span).ElseNearest ↔
      accepted.endsOpen = false ∧ accepted.ElseNearest ∧ rejected.ElseNearest := by
  simp only [ElseNearest, nodes, List.mem_cons, List.mem_append]
  constructor
  · intro hnodes
    refine ⟨hnodes _ _ _ _ (.inl rfl), ?_, ?_⟩
    · intro condition inner other span hmem
      exact hnodes _ _ _ _ (.inr (.inl hmem))
    · intro condition inner other span hmem
      exact hnodes _ _ _ _ (.inr (.inr hmem))
  · rintro ⟨hclosed, haccepted, hrejected⟩ condition inner other span (hself | hmem | hmem)
    · cases hself
      exact hclosed
    · exact haccepted _ _ _ _ hmem
    · exact hrejected _ _ _ _ hmem

@[simp] theorem elseNearest_whileLoop :
    (whileLoop condition body span).ElseNearest ↔ body.ElseNearest := by
  simp [ElseNearest, nodes]

@[simp] theorem elseNearest_block {stmts : List Stmt} :
    (block stmts span).ElseNearest ↔ ∀ stmt ∈ stmts, stmt.ElseNearest := by
  simp only [ElseNearest, nodes, List.mem_cons, mem_allNodes]
  constructor
  · intro hnodes stmt hstmt condition accepted rejected span hmem
    exact hnodes _ _ _ _ (.inr ⟨stmt, hstmt, hmem⟩)
  · rintro hstmts condition accepted rejected span (hself | ⟨stmt, hstmt, hmem⟩)
    · contradiction
    · exact hstmts stmt hstmt _ _ _ _ hmem

end Stmt

namespace Parse

variable {α : Type} {settings : Settings} {state next : ParseState} {found : Stmt}

section Nested

variable {stmt : Parse Stmt}

/-- Every `else` of a statement that is read belongs to the nearest `if`, and none is ahead
that belongs to an `if` in it. -/
def Attaches (settings : Settings) (stmt : Parse Stmt) : Prop :=
  ∀ ⦃state found next⦄, stmt settings state = .ok found next →
    found.ElseNearest ∧ (found.endsOpen = true → next.cursor.kind ≠ .elseWord)

theorem Attaches.gives (hstmt : Attaches settings stmt) : Gives settings Stmt.ElseNearest stmt :=
  fun _ _ _ hrun => (hstmt hrun).1

/-- A statement that ends in no such `if` may be followed by anything. -/
theorem Attaches.of_closed
    (hstmt : Gives settings (fun found => found.ElseNearest ∧ found.endsOpen = false) stmt) :
    Attaches settings stmt := by
  intro state found next hrun
  obtain ⟨hnearest, hclosed⟩ := hstmt hrun
  exact ⟨hnearest, by simp [hclosed]⟩

theorem Attaches.of_isLeaf (hstmt : Gives settings (fun found => found.isLeaf = true) stmt) :
    Attaches settings stmt := by
  apply Attaches.of_closed
  intro state found next hrun
  have hleaf := hstmt hrun
  exact ⟨Stmt.elseNearest_of_isLeaf hleaf, Stmt.endsOpen_of_isLeaf hleaf⟩

theorem Attaches.after {parse : Parse α} {continued : α → Parse Stmt}
    (hcontinued : ∀ value, Attaches settings (continued value)) :
    Attaches settings (parse >>= continued) := by
  intro state found next hrun
  obtain ⟨value, middle, -, hrest⟩ := bind_eq_ok.1 hrun
  exact hcontinued value hrest

/-! ## Statements with no other inside -/

theorem returned_isLeaf : Gives settings (fun found => found.isLeaf = true) returned := by
  unfold returned
  refine .after fun word => .after fun state => .after fun value? => ?_
  cases value? with
  | none => exact .after fun _ => .after fun semicolon => .pure rfl
  | some value => exact .after fun fitted => .after fun semicolon => .pure rfl

theorem assignment_isLeaf (target : Handoff) (value : Expr) (position : Position) (span : Span) :
    Gives settings (fun found => found.isLeaf = true) (assignment target value position span) := by
  unfold assignment
  cases target <;> exact .after fun fitted => .pure rfl

theorem namedStmt_isLeaf : Gives settings (fun found => found.isLeaf = true) namedStmt := by
  unfold namedStmt
  refine .after fun name => .after fun handoff => .after fun kind => .ite ?_ ?_
  · exact .after fun sign => .after fun value => .after fun semicolon => assignment_isLeaf _ _ _ _
  · exact .after fun whole => .after fun semicolon => .pure rfl

theorem evaluated_isLeaf : Gives settings (fun found => found.isLeaf = true) evaluated := by
  unfold evaluated
  exact .after fun token => .after fun whole => .after fun semicolon => .pure rfl

/-! ## Statements inside others -/

theorem recoverStmt_isLeaf (failure : Failure) :
    Gives settings (fun found => found.isLeaf = true) (recoverStmt failure) := by
  unfold recoverStmt
  exact .after fun _ => .after fun stop => .pure rfl

theorem stmtsUntilClose_elseNearest (hstmt : Attaches settings stmt) (budget : Nat) :
    Gives settings (fun found => ∀ stmt ∈ found, stmt.ElseNearest)
      (stmtsUntilClose stmt budget) := by
  induction budget with
  | zero =>
      unfold stmtsUntilClose
      exact .after fun _ => .failAt
  | succ budget ih =>
      have hcons (first : Stmt) (hfirst : first.ElseNearest) :
          Gives settings (fun found => ∀ stmt ∈ found, stmt.ElseNearest)
            (do return first :: (← stmtsUntilClose stmt budget)) :=
        .bind ih fun others hothers => .pure (by simpa [hfirst] using hothers)
      unfold stmtsUntilClose
      refine .after fun kind => ?_
      split
      · exact .pure (by simp)
      · exact .after fun _ => .failAt
      · refine .bind hstmt.gives.attempt fun result hresult => ?_
        cases result with
        | ok first => exact hcons first (hresult first rfl)
        | error failure =>
            refine .bind (recoverStmt_isLeaf failure) fun first hleaf => ?_
            exact hcons first (Stmt.elseNearest_of_isLeaf hleaf)

theorem block_elseNearest (hstmt : Attaches settings stmt) :
    Gives settings (fun block => ∀ stmt ∈ block.body, stmt.ElseNearest) (block stmt) := by
  unfold block
  refine .after fun opening => .after fun count =>
    .bind (stmtsUntilClose_elseNearest hstmt _) fun body hbody => ?_
  exact .after fun closing => .pure hbody

theorem scoped_attaches (hstmt : Attaches settings stmt) :
    Attaches settings (Block.toStmt <$> inScope (block stmt)) := by
  apply Attaches.of_closed
  refine .map (.bracket (block_elseNearest hstmt)) fun block hblock => ?_
  exact ⟨Stmt.elseNearest_block.2 hblock, rfl⟩

theorem conditional_attaches (hstmt : Attaches settings stmt) :
    Attaches settings (conditional stmt) := by
  unfold conditional
  refine .after fun word => .after fun test => ?_
  intro state found next hrun
  obtain ⟨accepted, middle, haccepted, hrest⟩ := bind_eq_ok.1 hrun
  obtain ⟨hnearest, hwaits⟩ := hstmt haccepted
  by_cases helse : middle.cursor.kind = .elseWord
  · -- The accepted part would have taken the `else` itself.
    have hclosed : accepted.endsOpen = false := by simpa [helse] using hwaits
    rw [bind_of_ok (accept_run_of_eq helse), if_pos rfl] at hrest
    obtain ⟨rejected, last, hrejected, hpure⟩ := bind_eq_ok.1 hrest
    cases hpure
    obtain ⟨hothers, hopen⟩ := hstmt hrejected
    exact ⟨by simp [hclosed, hnearest, hothers], hopen⟩
  · rw [bind_of_ok (accept_run_of_ne helse), if_neg Bool.false_ne_true] at hrest
    cases hrest
    exact ⟨by simp [hnearest], fun _ => helse⟩

theorem whileLoop_attaches (hstmt : Attaches settings stmt) :
    Attaches settings (whileLoop stmt) := by
  unfold whileLoop
  refine .after fun word => .after fun test => ?_
  intro state found next hrun
  obtain ⟨body, last, hbody, hpure⟩ := bind_eq_ok.1 hrun
  cases hpure
  obtain ⟨hnearest, hopen⟩ := hstmt hbody
  exact ⟨by simp [hnearest], hopen⟩

theorem stmtWith_attaches (hstmt : Attaches settings stmt) :
    Attaches settings (stmtWith stmt) := by
  have hdeclaration : Attaches settings (Stmt.declare <$> declaration) := by
    apply Attaches.of_isLeaf
    rw [map_eq_pure_bind]
    exact .after fun declaration => .pure rfl
  unfold stmtWith
  refine .after fun kind => ?_
  split
  · exact scoped_attaches hstmt
  · exact conditional_attaches hstmt
  · exact whileLoop_attaches hstmt
  · exact .of_isLeaf returned_isLeaf
  · exact .of_isLeaf (.after fun token => .pure rfl)
  · exact .of_isLeaf namedStmt_isLeaf
  · exact hdeclaration
  · exact hdeclaration
  · exact hdeclaration
  · exact .of_isLeaf evaluated_isLeaf

end Nested

theorem stmtWithin_attaches (budget : Nat) : Attaches settings (stmtWithin budget) := by
  induction budget with
  | zero => exact .of_isLeaf (.after fun position => .failAt)
  | succ budget ih => exact stmtWith_attaches ih

/-- In every statement that is read, wherever it begins, no `else` is behind an `if` without
one; and if the statement itself ends in such an `if`, no `else` is the next token. -/
theorem else_joins_nearest_if (hrun : stmt settings state = .ok found next) :
    (∀ condition accepted rejected span,
      .conditional condition accepted (some rejected) span ∈ found.nodes →
        accepted.endsOpen = false) ∧
    (found.endsOpen = true → next.cursor.kind ≠ .elseWord) := by
  have hstmt : Attaches settings stmt := .after fun count => stmtWithin_attaches _
  exact hstmt hrun

/-- Four `if` and two `else`: the first `else` joins the `if` in the loop, the other one the
`if` around the loop. -/
def nestedIfText : String := "if (1) if (2) while (3) if (4) ; else ; else if (5) ; ;"

theorem nestedIfText_joins :
    ∃ tokens found next, tokenize nestedIfText "f.c" = .ok tokens ∧
      stmt { file := "f.c" } (.ofTokens tokens "f.c") = .ok found next ∧
      found.nodes.length = 8 ∧ found.endsOpen = true ∧
      (∀ condition accepted rejected span,
        .conditional condition accepted (some rejected) span ∈ found.nodes →
          accepted.endsOpen = false) ∧
      (found.endsOpen = true → next.cursor.kind ≠ .elseWord) := by
  have hreads : ((tokenize nestedIfText "f.c").toOption.any fun tokens => decide
      ((stmt.run { file := "f.c" } (.ofTokens tokens "f.c")).1.toOption.map
        (fun found => (found.nodes.length, found.endsOpen)) = some (8, true))) = true := by
    decide +kernel
  obtain ⟨tokens, htokens, hread⟩ := exists_tokens hreads
  obtain ⟨found, hfound, hshape⟩ := Option.map_eq_some_iff.1 hread
  obtain ⟨hlength, hopen⟩ := Prod.mk.inj hshape
  have hrun := run_eq_ok (Prod.ext (eq_ok_of_toOption hfound) rfl)
  exact ⟨tokens, found, _, htokens, hrun, hlength, hopen, else_joins_nearest_if hrun⟩

end Parse

end SubsetC
