import Mathlib.Data.List.Nodup
import SubsetC.Proofs.Literals
import SubsetC.Proofs.Placeless
import SubsetC.Proofs.QuotedReading
import SubsetC.Proofs.Typing

/-!
# S-expressions are read in one way

The text of an S-expression tells its leaves and nodes (`Sexp.text_append_inj`), and so the text
of an expression tells all of its tree that is shown (`Expr.render_eq_iff`): kinds and operators
of the nodes, constants, texts of strings, names, and which node is a part of which.
-/

namespace SubsetC

open Text

/-! ## Keywords -/

/-- What a node begins with. -/
inductive Keyword where
  | index
  | address
  | call
  | step (operator : Step)
  | not
  | binary (operator : BinaryOp)
  | toInt
  | toChar
deriving DecidableEq

namespace Keyword

def text : Keyword → List Char
  | index => "index".toList
  | address => ['&']
  | call => "call".toList
  | step operator => operator.symbol.toList
  | not => ['!']
  | binary operator => operator.symbol.toList
  | toInt => "int".toList
  | toChar => "char".toList

def all : List Keyword :=
  [index, address, call, step .increment, step .decrement, not, binary .or, binary .and,
    binary .equal, binary .notEqual, binary .less, binary .greater, binary .add, binary .subtract,
    binary .multiply, binary .divide, binary .modulo, toInt, toChar]

theorem mem_all (keyword : Keyword) : keyword ∈ all := by
  cases keyword with
  | step operator => cases operator <;> decide
  | binary operator => cases operator <;> decide
  | _ => decide

theorem text_injective {keyword other : Keyword} (htext : keyword.text = other.text) :
    keyword = other := by
  have hnodup : (all.map text).Nodup := by decide
  exact List.inj_on_of_nodup_map hnodup (mem_all keyword) (mem_all other) htext

end Keyword

/-! ## Words -/

/-- Whether a character goes on with the word that it stands behind. -/
def staysInWord (c : Char) : Bool := c ≠ ' ' && c ≠ ')'

/-- A word of an S-expression. -/
def IsWord (text : List Char) : Prop := ∀ c ∈ text, staysInWord c = true

/-- What ends a word before it: nothing at all, a space or a closing parenthesis. -/
def EndsWord (rest : List Char) : Prop := ∀ c, rest.head? = some c → staysInWord c = false

theorem endsWord_nil : EndsWord [] := by
  intro c hc
  contradiction

theorem endsWord_cons {c : Char} (hc : staysInWord c = false) (rest : List Char) :
    EndsWord (c :: rest) := by
  intro first hfirst
  obtain rfl := Option.some.inj hfirst
  exact hc

/-- Any character greater than the closing parenthesis goes on with a word. -/
theorem staysInWord_of_lt {c : Char} (hc : 41 < c.toNat) : staysInWord c = true := by
  simp only [staysInWord, ne_eq, Bool.and_eq_true, decide_eq_true_eq]
  constructor
  · rintro rfl
    exact absurd hc (by decide)
  · rintro rfl
    exact absurd hc (by decide)

theorem Keyword.isWord (keyword : Keyword) : IsWord keyword.text := by
  have hall : ∀ keyword ∈ all, keyword.text.all staysInWord = true := by decide
  exact List.all_eq_true.1 (hall keyword (mem_all keyword))

/-! ## Leaves -/

inductive Leaf where
  | constant (value : Int) (ty : Ty)
  | string (text : String)
  | name (text : String)

def Leaf.text : Leaf → List Char
  | constant value ty => (renderConstant value ty).toList
  | string text => quoted text.toList
  | name text => text.toList

/-- A name that an expression may hold: an identifier, or the name of the placeholder. -/
def IsName (name : String) : Prop :=
  Lexeme.Form .identifier name.toList ∨ name = Symbol.placeholder.name

/-- The leaves that an expression may have: a number, the code point of a character, any string
and a name. -/
inductive Leaf.Legible : Leaf → Prop
  | number (value : Nat) : Legible (.constant value .int)
  | character (c : Char) : Legible (.constant c.toNat .char)
  | string (text : String) : Legible (.string text)
  | name {name} : IsName name → Legible (.name name)

/-- What a leaf or a node is, as far as the first character of its text tells. -/
inductive Shape where
  | number
  | character
  | string
  | name
  | node
deriving DecidableEq

def Shape.ofFirst (c : Char) : Shape :=
  if c.isDigit then .number
  else if c = '\'' then .character
  else if c = '"' then .string
  else if c = '(' then .node
  else .name

def Leaf.shape : Leaf → Shape
  | constant _ ty => if ty = .char then .character else .number
  | string _ => .string
  | name _ => .name

/-- A text begins as a leaf or a node of the given shape does. -/
def BeginsAs (shape : Shape) (text : List Char) : Prop :=
  ∃ c others, text = c :: others ∧ Shape.ofFirst c = shape

theorem BeginsAs.shape_unique {shape other : Shape} {text text' rest rest' : List Char}
    (htext : BeginsAs shape text) (htext' : BeginsAs other text')
    (heq : text ++ rest = text' ++ rest') : shape = other := by
  obtain ⟨c, others, rfl, rfl⟩ := htext
  obtain ⟨d, others', rfl, rfl⟩ := htext'
  exact congrArg Shape.ofFirst (List.cons.inj heq).1

section Numbers

variable {m n : Nat}

theorem number_text (n : Nat) : (renderConstant n .int).toList = Nat.toDigits 10 n := by
  rw [renderConstant, if_neg (by decide), decimal, if_neg (by omega), Int.natAbs_natCast,
    Nat.toList_repr]

theorem isDigit_of_mem_number {c : Char} (hc : c ∈ (renderConstant n .int).toList) :
    c.isDigit = true := by
  rw [number_text] at hc
  exact Nat.isDigit_of_mem_toDigits (by decide) (by decide) hc

theorem number_isWord (n : Nat) : IsWord (renderConstant n .int).toList := by
  intro c hc
  have hbounds := Lexeme.toNat_of_isDigit (isDigit_of_mem_number hc)
  exact staysInWord_of_lt (by omega)

theorem number_beginsAs (n : Nat) : BeginsAs .number (renderConstant n .int).toList := by
  obtain ⟨c, others, htext⟩ := List.exists_cons_of_ne_nil (number_text n ▸ Nat.toDigits_ne_nil)
  have hdigit : c.isDigit = true := isDigit_of_mem_number (htext ▸ List.mem_cons_self)
  exact ⟨c, others, htext, if_pos hdigit⟩

end Numbers

section Names

variable {name : String}

theorem IsName.text (hname : IsName name) :
    name.toList = "@@variable".toList ∨ ∃ c others, name.toList = c :: others ∧
      isWordStart c = true ∧ ∀ d ∈ others, isWordPart d = true := by
  obtain hidentifier | rfl := hname
  · generalize hkind : TokenKind.identifier = kind at hidentifier
    generalize name.toList = text at hidentifier ⊢
    cases hidentifier with
    | word hc hothers => exact .inr ⟨_, _, rfl, hc, hothers⟩
    | mark hmem => exact absurd (hkind ▸ hmem) (by decide)
    | number | character | string => contradiction
  · exact .inl rfl

theorem IsName.isWord (hname : IsName name) : IsWord name.toList := by
  obtain htext | ⟨c, others, htext, hc, hothers⟩ := hname.text
  · rw [htext]
    exact List.all_eq_true.1 (by decide)
  · rw [htext]
    refine List.forall_mem_cons.2 ⟨?_, ?_⟩
    · have hbounds := Lexeme.toNat_of_isWordStart hc
      exact staysInWord_of_lt (by omega)
    · intro d hd
      have hbounds := Lexeme.toNat_of_isWordPart (hothers d hd)
      exact staysInWord_of_lt (by omega)

theorem IsName.beginsAs (hname : IsName name) : BeginsAs .name name.toList := by
  obtain htext | ⟨c, others, htext, hc, -⟩ := hname.text
  · exact ⟨'@', "@variable".toList, htext, by decide⟩
  · refine ⟨c, others, htext, ?_⟩
    have hbounds := Lexeme.toNat_of_isWordStart hc
    have hdigit : ¬ c.isDigit = true := by
      intro hdigit
      have := Lexeme.toNat_of_isDigit hdigit
      omega
    -- The marks that begin other leaves and nodes all stand before the letters.
    have hmark : ∀ mark : Char, mark.toNat < 65 → c ≠ mark := by
      rintro mark hmark rfl
      omega
    rw [Shape.ofFirst, if_neg hdigit, if_neg (hmark _ (by decide)), if_neg (hmark _ (by decide)),
      if_neg (hmark _ (by decide))]

end Names

namespace Leaf

theorem shape_ne_node (leaf : Leaf) : leaf.shape ≠ .node := by
  cases leaf with
  | constant value ty =>
      simp only [shape]
      split_ifs <;> decide
  | string => exact Shape.noConfusion
  | name => exact Shape.noConfusion

theorem character_text (c : Char) : (constant c.toNat .char).text = quotedConstant c := by
  have hrender := render_character c .nowhere
  rw [Expr.render] at hrender
  rw [text, hrender, String.toList_ofList]

theorem Legible.beginsAs {leaf : Leaf} (hleaf : leaf.Legible) :
    BeginsAs leaf.shape leaf.text := by
  cases hleaf with
  | number value => exact number_beginsAs value
  | character c => exact ⟨'\'', _, character_text c, rfl⟩
  | string text => exact ⟨'"', _, rfl, rfl⟩
  | name hname => exact hname.beginsAs

/-- A leaf and the place where its text stops are told by what the text goes on with. -/
theorem text_append_inj {leaf other : Leaf} {rest rest' : List Char} (hleaf : leaf.Legible)
    (hother : other.Legible) (hrest : EndsWord rest) (hrest' : EndsWord rest')
    (heq : leaf.text ++ rest = other.text ++ rest') : leaf = other ∧ rest = rest' := by
  have hshape : leaf.shape = other.shape := hleaf.beginsAs.shape_unique hother.beginsAs heq
  -- Leaves of different shapes begin with different characters, so only like ones are left.
  cases hleaf with
  | number value =>
      cases hother with
      | number value' =>
          obtain ⟨htext, hsame⟩ := append_inj_of_stop (number_isWord value)
            (number_isWord value') hrest hrest' heq
          rw [number_text, number_text] at htext
          obtain rfl := toDigits_injective (by decide) (by decide) htext
          exact ⟨rfl, hsame⟩
      | character | string | name => exact Shape.noConfusion hshape
  | character c =>
      cases hother with
      | character d =>
          rw [character_text, character_text] at heq
          obtain ⟨rfl, hsame⟩ := quotedConstant_append_inj heq
          exact ⟨rfl, hsame⟩
      | number | string | name => exact Shape.noConfusion hshape
  | string text =>
      cases hother with
      | string text' =>
          obtain ⟨htext, hsame⟩ := quoted_append_inj heq
          exact ⟨congrArg string (String.toList_inj.1 htext), hsame⟩
      | number | character | name => exact Shape.noConfusion hshape
  | name hname =>
      cases hother with
      | name hname' =>
          obtain ⟨htext, hsame⟩ := append_inj_of_stop hname.isWord hname'.isWord hrest hrest' heq
          exact ⟨congrArg Leaf.name (String.toList_inj.1 htext), hsame⟩
      | number | character | string => exact Shape.noConfusion hshape

end Leaf

/-! ## Trees of leaves and nodes -/

inductive Sexp where
  | leaf (content : Leaf)
  | node (keyword : Keyword) (parts : List Sexp)

namespace Sexp

mutual

def text : Sexp → List Char
  | leaf content => content.text
  | node keyword parts => '(' :: (keyword.text ++ (partsText parts ++ [')']))

def partsText : List Sexp → List Char
  | [] => []
  | part :: parts => ' ' :: (part.text ++ partsText parts)

end

inductive Legible : Sexp → Prop
  | leaf {content} : content.Legible → Legible (.leaf content)
  | node {keyword parts} : (∀ part ∈ parts, Legible part) → Legible (.node keyword parts)

theorem Legible.content {content : Leaf} (hleaf : (Sexp.leaf content).Legible) :
    content.Legible := by
  cases hleaf with
  | leaf hcontent => exact hcontent

theorem Legible.parts {keyword : Keyword} {parts : List Sexp}
    (hnode : (Sexp.node keyword parts).Legible) : ∀ part ∈ parts, part.Legible := by
  cases hnode with
  | node hparts => exact hparts

theorem node_beginsAs (keyword : Keyword) (parts : List Sexp) :
    BeginsAs .node (node keyword parts).text :=
  ⟨'(', _, rfl, rfl⟩

/-- A keyword and any part but the last end where the next part or the node does. -/
theorem endsWord_partsText (parts : List Sexp) (rest : List Char) :
    EndsWord (partsText parts ++ ')' :: rest) := by
  cases parts with
  | nil => exact endsWord_cons rfl _
  | cons => exact endsWord_cons rfl _

mutual

/-- An S-expression and the place where its text stops are told by what the text goes on with. -/
theorem text_append_inj : ∀ {sexp other : Sexp} {rest rest' : List Char}, sexp.Legible →
    other.Legible → EndsWord rest → EndsWord rest' → sexp.text ++ rest = other.text ++ rest' →
    sexp = other ∧ rest = rest'
  | leaf content, leaf content', _, _, hleaf, hleaf', hrest, hrest', heq => by
      obtain ⟨rfl, hsame⟩ := Leaf.text_append_inj hleaf.content hleaf'.content hrest hrest' heq
      exact ⟨rfl, hsame⟩
  | leaf content, node keyword parts, _, _, hleaf, _, _, _, heq => by
      have hshape := hleaf.content.beginsAs.shape_unique (node_beginsAs keyword parts) heq
      exact absurd hshape content.shape_ne_node
  | node keyword parts, leaf content, _, _, _, hleaf, _, _, heq => by
      have hshape := hleaf.content.beginsAs.shape_unique (node_beginsAs keyword parts) heq.symm
      exact absurd hshape content.shape_ne_node
  | node keyword parts, node keyword' parts', _, _, hnode, hnode', _, _, heq => by
      simp only [text, List.cons_append, List.append_assoc, List.nil_append, List.cons.injEq,
        true_and] at heq
      obtain ⟨hkeyword, hparts⟩ := append_inj_of_stop keyword.isWord keyword'.isWord
        (endsWord_partsText parts _) (endsWord_partsText parts' _) heq
      obtain ⟨rfl, hsame⟩ := partsText_append_inj hnode.parts hnode'.parts hparts
      rw [Keyword.text_injective hkeyword]
      exact ⟨rfl, hsame⟩

theorem partsText_append_inj : ∀ {parts others : List Sexp} {rest rest' : List Char},
    (∀ part ∈ parts, part.Legible) → (∀ part ∈ others, part.Legible) →
    partsText parts ++ ')' :: rest = partsText others ++ ')' :: rest' →
    parts = others ∧ rest = rest'
  | [], [], _, _, _, _, heq => ⟨rfl, (List.cons.inj heq).2⟩
  | [], _ :: _, _, _, _, _, heq => by
      have hfirst := (List.cons.inj heq).1
      contradiction
  | _ :: _, [], _, _, _, _, heq => by
      have hfirst := (List.cons.inj heq).1
      contradiction
  | part :: parts, other :: others, _, _, hall, hall', heq => by
      obtain ⟨hpart, hparts⟩ := List.forall_mem_cons.1 hall
      obtain ⟨hother, hothers⟩ := List.forall_mem_cons.1 hall'
      simp only [partsText, List.cons_append, List.append_assoc, List.cons.injEq, true_and] at heq
      obtain ⟨rfl, hbehind⟩ := text_append_inj hpart hother (endsWord_partsText parts _)
        (endsWord_partsText others _) heq
      obtain ⟨rfl, hsame⟩ := partsText_append_inj hparts hothers hbehind
      exact ⟨rfl, hsame⟩

end

end Sexp

namespace Expr

mutual

/-- The S-expression that an expression is shown as. -/
def sexp : Expr → Sexp
  | constant value ty _ => .leaf (.constant value ty)
  | string text _ _ => .leaf (.string text)
  | ident symbol _ => .leaf (.name symbol.name)
  | element array index _ => .node .index [.leaf (.name array.name), index.sexp]
  | address array index _ _ =>
      .node .address [.node .index [.leaf (.name array.name), index.sexp]]
  | call callee arguments _ => .node .call (.leaf (.name callee.name) :: sexps arguments)
  | step operator operand _ _ => .node (.step operator) [.leaf (.name operand.name)]
  | not operand _ _ => .node .not [operand.sexp]
  | binary operator lhs rhs _ => .node (.binary operator) [lhs.sexp, rhs.sexp]
  | toInt operand => .node .toInt [operand.sexp]
  | toChar operand => .node .toChar [operand.sexp]

def sexps : List Expr → List Sexp
  | [] => []
  | e :: others => e.sexp :: sexps others

end

mutual

theorem render_toList : ∀ e : Expr, e.render.toList = e.sexp.text
  | constant _ _ _ => rfl
  | string text _ _ => by simp [render, sexp, Sexp.text, Leaf.text, quoteString]
  | ident _ _ => rfl
  | element array index _ => by
      simp [render, renderSubscript, sexp, Sexp.text, Sexp.partsText, Leaf.text, Keyword.text,
        render_toList index]
  | address array index _ _ => by
      simp [render, renderSubscript, sexp, Sexp.text, Sexp.partsText, Leaf.text, Keyword.text,
        render_toList index]
  | call callee arguments _ => by
      simp [render, sexp, Sexp.text, Sexp.partsText, Leaf.text, Keyword.text,
        renderAll_toList arguments]
  | step operator operand _ _ => by
      simp [render, sexp, Sexp.text, Sexp.partsText, Leaf.text, Keyword.text]
  | not operand _ _ => by
      simp [render, sexp, Sexp.text, Sexp.partsText, Keyword.text, render_toList operand]
  | binary operator lhs rhs _ => by
      simp [render, sexp, Sexp.text, Sexp.partsText, Keyword.text, render_toList lhs,
        render_toList rhs]
  | toInt operand => by
      simp [render, sexp, Sexp.text, Sexp.partsText, Keyword.text, render_toList operand]
  | toChar operand => by
      simp [render, sexp, Sexp.text, Sexp.partsText, Keyword.text, render_toList operand]

theorem renderAll_toList : ∀ es : List Expr, (renderAll es).toList = Sexp.partsText (sexps es)
  | [] => rfl
  | e :: others => by
      simp [renderAll, sexps, Sexp.partsText, render_toList e, renderAll_toList others]

end

theorem sexps_eq_map (es : List Expr) : sexps es = es.map sexp := by
  induction es with
  | nil => rfl
  | cons e others ih => rw [sexps, ih, List.map_cons]

/-! ## What is shown of an expression -/

mutual

/-- An expression without what its text leaves out: spans, the types of nodes other than
constants, ids of strings, and all of a symbol but its name. -/
def visible : Expr → Expr
  | constant value ty _ => constant value ty .nowhere
  | string text _ _ => string text 0 .nowhere
  | ident symbol _ => ident (.dummy symbol.name) .nowhere
  | element array index _ => element (.dummy array.name) index.visible .nowhere
  | address array index _ _ => address (.dummy array.name) index.visible .nowhere .nowhere
  | call callee arguments _ => call (.dummy callee.name) (allVisible arguments) .nowhere
  | step operator operand _ _ => step operator (.dummy operand.name) .void .nowhere
  | not operand _ _ => not operand.visible .void .nowhere
  | binary operator lhs rhs _ => binary operator lhs.visible rhs.visible .void
  | toInt operand => toInt operand.visible
  | toChar operand => toChar operand.visible

def allVisible : List Expr → List Expr
  | [] => []
  | e :: others => e.visible :: allVisible others

end

mutual

theorem sexp_visible : ∀ e : Expr, e.visible.sexp = e.sexp
  | constant _ _ _ | string _ _ _ | ident _ _ | step _ _ _ _ => rfl
  | element _ index _ => by rw [visible, sexp, sexp, sexp_visible index]; rfl
  | address _ index _ _ => by rw [visible, sexp, sexp, sexp_visible index]; rfl
  | call _ arguments _ => by rw [visible, sexp, sexp, sexps_allVisible arguments]; rfl
  | not operand _ _ => by rw [visible, sexp, sexp, sexp_visible operand]
  | binary _ lhs rhs _ => by rw [visible, sexp, sexp, sexp_visible lhs, sexp_visible rhs]
  | toInt operand => by rw [visible, sexp, sexp, sexp_visible operand]
  | toChar operand => by rw [visible, sexp, sexp, sexp_visible operand]

theorem sexps_allVisible : ∀ es : List Expr, sexps (allVisible es) = sexps es
  | [] => rfl
  | e :: others => by rw [allVisible, sexps, sexps, sexp_visible e, sexps_allVisible others]

end

mutual

/-- The expression that an S-expression shows, with a fixed answer where it shows none. -/
def ofSexp : Sexp → Expr
  | .leaf (.constant value ty) => constant value ty .nowhere
  | .leaf (.string text) => string text 0 .nowhere
  | .leaf (.name name) => ident (.dummy name) .nowhere
  | .node .index [.leaf (.name array), index] => element (.dummy array) (ofSexp index) .nowhere
  | .node .address [.node .index [.leaf (.name array), index]] =>
      address (.dummy array) (ofSexp index) .nowhere .nowhere
  | .node .call (.leaf (.name callee) :: arguments) =>
      call (.dummy callee) (ofSexps arguments) .nowhere
  | .node (.step operator) [.leaf (.name operand)] =>
      step operator (.dummy operand) .void .nowhere
  | .node .not [operand] => not (ofSexp operand) .void .nowhere
  | .node (.binary operator) [lhs, rhs] => binary operator (ofSexp lhs) (ofSexp rhs) .void
  | .node .toInt [operand] => toInt (ofSexp operand)
  | .node .toChar [operand] => toChar (ofSexp operand)
  | .node _ _ => string "" 0 .nowhere

def ofSexps : List Sexp → List Expr
  | [] => []
  | part :: parts => ofSexp part :: ofSexps parts

end

mutual

/-- The S-expression of an expression shows all of it that is visible. -/
theorem ofSexp_sexp : ∀ e : Expr, ofSexp e.sexp = e.visible
  | constant _ _ _ | string _ _ _ | ident _ _ | step _ _ _ _ => rfl
  | element _ index _ => by rw [sexp, ofSexp, ofSexp_sexp index, visible]
  | address _ index _ _ => by rw [sexp, ofSexp, ofSexp_sexp index, visible]
  | call _ arguments _ => by rw [sexp, ofSexp, ofSexps_sexps arguments, visible]
  | not operand _ _ => by rw [sexp, ofSexp, ofSexp_sexp operand, visible]
  | binary _ lhs rhs _ => by rw [sexp, ofSexp, ofSexp_sexp lhs, ofSexp_sexp rhs, visible]
  | toInt operand => by rw [sexp, ofSexp, ofSexp_sexp operand, visible]
  | toChar operand => by rw [sexp, ofSexp, ofSexp_sexp operand, visible]

theorem ofSexps_sexps : ∀ es : List Expr, ofSexps (sexps es) = allVisible es
  | [] => rfl
  | e :: others => by rw [sexps, ofSexps, ofSexp_sexp e, ofSexps_sexps others, allVisible]

end

/-! ## The text of an expression -/

/-- The leaf that a node itself is or holds. -/
def leaf? : Expr → Option Leaf
  | constant value ty _ => some (.constant value ty)
  | string text _ _ => some (.string text)
  | e => e.symbol?.map fun symbol => .name symbol.name

/-- A node whose name is an identifier or that of the placeholder and whose constant is a number
or the code point of a character. -/
def NodeLegible (node : Expr) : Prop := ∀ leaf, node.leaf? = some leaf → leaf.Legible

theorem NodeLegible.of_leaf {node : Expr} {leaf : Leaf} (hnode : node.leaf? = some leaf)
    (hleaf : leaf.Legible) : NodeLegible node := by
  intro other hother
  obtain rfl := Option.some.inj (hnode.symm.trans hother)
  exact hleaf

theorem NodeLegible.of_none {node : Expr} (hnode : node.leaf? = none) : NodeLegible node := by
  intro other hother
  rw [hnode] at hother
  contradiction

theorem Everywhere.legible {e : Expr} (he : e.Everywhere NodeLegible) : e.sexp.Legible := by
  induction he with
  | @intro e hhere _ ih =>
    have hleaf : ∀ {leaf}, e.leaf? = some leaf → (Sexp.leaf leaf).Legible :=
      fun hsome => .leaf (hhere _ hsome)
    have hparts : ∀ part ∈ e.children.map sexp, part.Legible := List.forall_mem_map.2 ih
    cases e with
    | constant | string | ident => exact hleaf rfl
    | not | binary | toInt | toChar => exact .node hparts
    | step => exact .node (List.forall_mem_singleton.2 (hleaf rfl))
    | element => exact .node (List.forall_mem_cons.2 ⟨hleaf rfl, hparts⟩)
    | address =>
        have hsubscript : (Sexp.node .index _).Legible :=
          .node (List.forall_mem_cons.2 ⟨hleaf rfl, hparts⟩)
        exact .node (List.forall_mem_singleton.2 hsubscript)
    | call callee arguments =>
        rw [sexp, sexps_eq_map]
        exact .node (List.forall_mem_cons.2 ⟨hleaf rfl, hparts⟩)

/-- The texts of two expressions are equal just if all that they show of the expressions is. -/
theorem render_eq_iff {e f : Expr} (he : e.Everywhere NodeLegible) (hf : f.Everywhere NodeLegible) :
    e.render = f.render ↔ e.visible = f.visible := by
  constructor
  · intro hrender
    have htext : e.sexp.text ++ [] = f.sexp.text ++ [] := by
      rw [← render_toList, ← render_toList, hrender]
    obtain ⟨hsexp, -⟩ := Sexp.text_append_inj he.legible hf.legible endsWord_nil endsWord_nil htext
    rw [← ofSexp_sexp, ← ofSexp_sexp, hsexp]
  · intro hvisible
    rw [← String.toList_inj, render_toList, render_toList, ← sexp_visible e, ← sexp_visible f,
      hvisible]

/-- The call of `printf` with `") (int \""`, `'\''` and `c != 10`: the symbol of its callee, the id
of its string and the type of its comparison may be any. -/
def oddCall (callee : Symbol) (id : Nat) (ty : Ty) : Expr :=
  .call callee
    [.string ") (int \"" id .nowhere, .constant 39 .char .nowhere,
      .binary .notEqual (.toInt (.ident (.variable "c" .char) .nowhere))
        (.constant 10 .int .nowhere) ty] .nowhere

theorem oddCall_legible (callee : Symbol) (id : Nat) (ty : Ty)
    (hcallee : callee.name = Symbol.printfName) :
    (oddCall callee id ty).Everywhere NodeLegible := by
  have hprintf : IsName Symbol.printfName :=
    .inl (@Lexeme.Form.word 'p' "rintf".toList (by decide) (List.all_eq_true.1 (by decide)))
  have hvariable : IsName "c" := .inl (@Lexeme.Form.word 'c' [] (by decide) (List.forall_mem_nil _))
  have hstring : (Expr.string ") (int \"" id .nowhere).Everywhere NodeLegible :=
    .leaf rfl (.of_leaf rfl (.string _))
  have hquote : (Expr.constant 39 .char .nowhere).Everywhere NodeLegible :=
    .leaf rfl (.of_leaf rfl (.character '\''))
  have hlhs : (Expr.toInt (.ident (.variable "c" .char) .nowhere)).Everywhere NodeLegible :=
    .single rfl (.of_none rfl) (.leaf rfl (.of_leaf rfl (.name hvariable)))
  have hrhs : (Expr.constant 10 .int .nowhere).Everywhere NodeLegible :=
    .leaf rfl (.of_leaf rfl (.number 10))
  have hcompare : (Expr.binary .notEqual _ _ ty).Everywhere NodeLegible :=
    .intro (.of_none rfl) (List.forall_mem_cons.2 ⟨hlhs, List.forall_mem_singleton.2 hrhs⟩)
  refine .intro (.of_leaf rfl (.name (hcallee ▸ hprintf))) ?_
  exact List.forall_mem_cons.2 ⟨hstring, List.forall_mem_cons.2
    ⟨hquote, List.forall_mem_singleton.2 hcompare⟩⟩

theorem oddCall_told :
    ((oddCall .printf 0 .int).Everywhere NodeLegible ∧
      (oddCall (.dummy Symbol.printfName) 7 .error).Everywhere NodeLegible) ∧
    (oddCall .printf 0 .int).render = (oddCall (.dummy Symbol.printfName) 7 .error).render ∧
    (oddCall .printf 0 .int).visible = (oddCall (.dummy Symbol.printfName) 7 .error).visible := by
  have hfirst := oddCall_legible .printf 0 .int rfl
  have hother := oddCall_legible (.dummy Symbol.printfName) 7 .error rfl
  have hrender : (oddCall .printf 0 .int).render =
      (oddCall (.dummy Symbol.printfName) 7 .error).render := by decide +kernel
  exact ⟨⟨hfirst, hother⟩, hrender, (render_eq_iff hfirst hother).1 hrender⟩

end Expr

end SubsetC
