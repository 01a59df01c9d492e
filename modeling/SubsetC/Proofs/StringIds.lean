import SubsetC.Proofs.Scanned
import SubsetC.Proofs.TreeInvariantProgram

/-!
# Ids of strings

The table of a program names its strings: the id of every string in the tree leads to
its text, and strings with one text share one id.  Ids are given out while the table
still grows, and what a recovery drops from the tree stays in the table.
-/

namespace SubsetC

/-! ## The strings of a tree -/

namespace Expr

mutual

/-- An expression and every expression inside it. -/
def nodes : Expr → List Expr
  | constant value ty span => [.constant value ty span]
  | string text id span => [.string text id span]
  | ident symbol span => [.ident symbol span]
  | element array index span => .element array index span :: index.nodes
  | address array index elementSpan span =>
      .address array index elementSpan span :: index.nodes
  | call callee arguments span => .call callee arguments span :: allNodes arguments
  | step operator operand ty span => [.step operator operand ty span]
  | not operand ty span => .not operand ty span :: operand.nodes
  | binary operator lhs rhs ty => .binary operator lhs rhs ty :: (lhs.nodes ++ rhs.nodes)
  | toInt operand => .toInt operand :: operand.nodes
  | toChar operand => .toChar operand :: operand.nodes

def allNodes : List Expr → List Expr
  | [] => []
  | e :: others => e.nodes ++ allNodes others

end

theorem mem_allNodes {node : Expr} {es : List Expr} :
    node ∈ allNodes es ↔ ∃ e ∈ es, node ∈ e.nodes := by
  induction es with
  | nil => simp [allNodes]
  | cons e others ih => simp [allNodes, ih]

theorem mem_nodes {node e : Expr} :
    node ∈ e.nodes ↔ node = e ∨ ∃ child ∈ e.children, node ∈ child.nodes := by
  cases e <;> simp [nodes, children, mem_allNodes]

theorem Everywhere.of_mem {P : Expr → Prop} {e node : Expr} (he : e.Everywhere P)
    (hnode : node ∈ e.nodes) : P node := by
  induction he with
  | intro hhere _ ih =>
      obtain rfl | ⟨child, hchild, hnode⟩ := mem_nodes.1 hnode
      · exact hhere
      · exact ih child hchild hnode

/-- A string has the id that a table gives its text. -/
def Interned (table : StringTable) : Expr → Prop
  | string text id _ => table.get? id = some text
  | _ => True

end Expr

/-- Every node of every expression of a program. -/
def Program.nodes (program : Program) : List Expr := program.exprs.flatMap Expr.nodes

namespace Parse

variable {settings : Settings} {tokens : List Token}

/-- Strings have their ids in a table that the table of every earlier state begins. -/
def interning (table : StringTable) : TreeInvariant where
  before state := state.strings.texts.toList <+: table.texts.toList
  sound _ := True
  place _ := True
  tree e := e.Everywhere (Expr.Interned table)
  before_of hgrows hbefore := hgrows.strings.trans hbefore
  sound_of _ _ _ := trivial
  report _ _ := trivial
  current _ _ := trivial
  start _ := trivial
  string {state text _} hbefore _ :=
    .leaf rfl (StringTable.get?_of_prefix hbefore (state.strings.intern_get? text))
  node {e} hstring _ hchildren := by
    refine .intro ?_ hchildren
    cases e with
    | string text id span => exact absurd rfl (hstring text id span)
    | _ => trivial

theorem externalsOf_interned {found : List External} {text : String} {id : Nat} {span : Span}
    (hfound : (externalsOf settings tokens).1 = .ok found)
    (hnode : .string text id span ∈ (found.flatMap External.exprs).flatMap Expr.nodes) :
    (externalsOf settings tokens).2.strings.get? id = some text := by
  have hmaintains : Maintains (interning (externalsOf settings tokens).2.strings) settings _ _ :=
    externals_maintains (started settings tokens).cursor.remaining
  have hfine := (hmaintains.fine (started settings tokens) trivial List.prefix_rfl).2
  unfold externalsOf at hfound
  rw [hfound] at hfine
  obtain ⟨e, he, hnode⟩ := List.mem_flatMap.1 hnode
  obtain ⟨external, hexternal, he⟩ := List.mem_flatMap.1 he
  exact (hfine external hexternal e he).of_mem hnode

end Parse

open Parse

/-- In every program that is parsed, with checks or without and whatever was recovered from,
the id of each string leads to its text in the program's table, and two strings have one id
just when they have one text. -/
theorem parsed_string_ids {settings : Settings} {tokens : List Token} {program : Program}
    {state : ParseState} (hparse : parse settings tokens = (.ok program, state)) :
    (∀ text id span, .string text id span ∈ program.nodes →
      program.strings.get? id = some text) ∧
    ∀ text id span text' id' span', .string text id span ∈ program.nodes →
      .string text' id' span' ∈ program.nodes → (id = id' ↔ text = text') := by
  obtain ⟨hfound, hstrings⟩ := parse_eq_ok hparse
  have hget (text id span) (hnode : Expr.string text id span ∈ program.nodes) :
      program.strings.get? id = some text := by
    rw [hstrings]
    exact externalsOf_interned hfound hnode
  refine ⟨hget, fun text id span text' id' span' hnode hnode' => ?_⟩
  have hfirst := hget text id span hnode
  have hsecond := hget text' id' span' hnode'
  constructor
  · rintro rfl
    exact Option.some.inj (hfirst.symm.trans hsecond)
  · rintro rfl
    exact StringTable.id_unique hfirst hsecond

/-- A text with a string that is only in the table, since its statement was passed over. -/
def repeatedText : String :=
  "int f() \x7b f(\"a\"); x = \"lost\" \"a\"; printf(\"b\", \"a\"); \x7d"

theorem repeatedText_ids :
    ∃ tokens program state, tokenize repeatedText "f.c" = .ok tokens ∧
      parse { file := "f.c" } tokens = (.ok program, state) ∧
      program.strings.texts = #["a", "lost", "b"] ∧
      (∀ text id span, .string text id span ∈ program.nodes →
        program.strings.get? id = some text) ∧
      ∀ text id span text' id' span', .string text id span ∈ program.nodes →
        .string text' id' span' ∈ program.nodes → (id = id' ↔ text = text') := by
  have hreads : ((tokenize repeatedText "f.c").toOption.any fun tokens => decide
      (((parse { file := "f.c" } tokens).1.toOption.map fun program => program.strings.texts) =
        some #["a", "lost", "b"])) = true := by
    decide +kernel
  obtain ⟨tokens, htokens, hstrings⟩ := exists_tokens hreads
  obtain ⟨program, hprogram, htexts⟩ := Option.map_eq_some_iff.1 hstrings
  have hparse : parse { file := "f.c" } tokens =
      (.ok program, (parse { file := "f.c" } tokens).2) :=
    Prod.ext (eq_ok_of_toOption hprogram) rfl
  exact ⟨tokens, program, _, htokens, hparse, htexts, parsed_string_ids hparse⟩

end SubsetC
