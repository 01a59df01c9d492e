import SubsetC.Program
import SubsetC.Proofs.Partition

/-!
# Outlines of trees

The outline of a tree keeps the span of each node and the order of its parts, and
nothing else.  Outlines lie among tokens (`Among`) if each node reaches from the
first to the last of some tokens in a row, its parts among these, and the nodes
beside each other take up tokens that follow each other.  The same is said of
the text itself (`Nested`); as long as offsets fit in 32 bits it can be read off
the spans (`Outline.Nests`).
-/

namespace SubsetC

open Text

inductive Outline where
  | node (span : Span) (parts : List Outline)

def Outline.span : Outline → Span
  | node span _ => span

/-! ## Trees -/

namespace Expr

mutual

/-- The subscript of an element is a node of its own. -/
def outline : Expr → Outline
  | constant _ _ span => .node span []
  | string _ _ span => .node span []
  | ident _ span => .node span []
  | element _ index span => .node span [.node span [index.outline]]
  | address _ index elementSpan span => .node span [.node elementSpan [index.outline]]
  | call _ arguments span => .node span (outlines arguments)
  | step _ _ _ span => .node span []
  | not operand _ span => .node span [operand.outline]
  | binary _ lhs rhs _ =>
      .node { start := lhs.start, stop := rhs.stop } [lhs.outline, rhs.outline]
  | toInt operand => .node operand.span [operand.outline]
  | toChar operand => .node operand.span [operand.outline]

def outlines : List Expr → List Outline
  | [] => []
  | e :: others => e.outline :: outlines others

end

theorem outline_span (e : Expr) : e.outline.span = e.span := by
  cases e <;> rfl

end Expr

def Subscript.outline (target : Subscript) : Outline :=
  .node target.span [target.index.outline]

def Declaration.outline (declaration : Declaration) : Outline :=
  .node declaration.span (declaration.initial?.map Expr.outline).toList

namespace Stmt

mutual

/-- The declaration of a statement is a node of its own. -/
def outline : Stmt → Outline
  | declare declaration => .node declaration.span [declaration.outline]
  | assign _ value span => .node span [value.outline]
  | assignElement target value span => .node span [target.outline, value.outline]
  | evaluate expr span => .node span [expr.outline]
  | ret value? span => .node span (value?.map Expr.outline).toList
  | conditional condition accepted none span =>
      .node span [condition.outline, accepted.outline]
  | conditional condition accepted (some rejected) span =>
      .node span [condition.outline, accepted.outline, rejected.outline]
  | whileLoop condition body span => .node span [condition.outline, body.outline]
  | block body span => .node span (outlines body)
  | null span => .node span []

def outlines : List Stmt → List Outline
  | [] => []
  | stmt :: others => stmt.outline :: outlines others

end

theorem outline_span (stmt : Stmt) : stmt.outline.span = stmt.span := by
  rcases stmt with _ | _ | _ | _ | _ | ⟨_, _, _ | _, _⟩ | _ | _ | _ <;> rfl

end Stmt

def Block.outline (block : Block) : Outline := .node block.span (Stmt.outlines block.body)

def FunctionDef.outline (function : FunctionDef) : Outline :=
  .node function.span [function.body.outline]

def External.outline : External → Outline
  | .global declaration => declaration.outline
  | .function defined => defined.outline

/-! ## Nesting in the text -/

/-- Nodes in a row within the text behind a beginning of a file: each spans a slice that is not
empty, with its parts within that slice, and the next ones lie behind it. -/
inductive Nested (file : String) : List Char → List Char → List Outline → Prop
  | nil {before text} : Nested file before text []
  | cons {before gap slice rest parts others} : slice ≠ [] →
      Nested file (before ++ gap) slice parts →
      Nested file (before ++ gap ++ slice) rest others →
      Nested file before (gap ++ slice ++ rest)
        (.node (.around file (before ++ gap) slice) parts :: others)

/-- A node that spans something, with its parts within it, in order and disjoint. -/
inductive Outline.Nests : Outline → Prop
  | node {span parts} : span.start.offset < span.stop.offset →
      (∀ part ∈ parts, span.start.offset ≤ part.span.start.offset ∧
        part.span.stop.offset ≤ span.stop.offset) →
      (parts.Pairwise fun first second => first.span.stop.offset ≤ second.span.start.offset) →
      (∀ part ∈ parts, part.Nests) → Nests (.node span parts)

theorem Outline.Nests.start_lt_stop {outline : Outline} (hnests : outline.Nests) :
    outline.span.start.offset < outline.span.stop.offset := by
  cases hnests with
  | node hspan => exact hspan

section Nested

variable {file : String} {before text : List Char} {outlines others : List Outline}

theorem Nested.widen {gap : List Char} (hnested : Nested file (before ++ gap) text outlines) :
    Nested file before (gap ++ text) outlines := by
  cases hnested with
  | nil => exact .nil
  | cons hslice hparts hothers =>
      simp only [← List.append_assoc] at hparts hothers ⊢
      rw [List.append_assoc before] at hparts hothers ⊢
      exact .cons hslice hparts hothers

theorem Nested.split (hnested : Nested file before text (outlines ++ others)) :
    ∃ first second, text = first ++ second ∧ Nested file before first outlines ∧
      Nested file (before ++ first) second others := by
  induction outlines generalizing before text with
  | nil =>
      refine ⟨[], text, rfl, .nil, ?_⟩
      rwa [List.append_nil]
  | cons outline outlines ih =>
      rw [List.cons_append] at hnested
      cases hnested with
      | @cons _ gap slice rest parts _ hslice hparts hrest =>
          obtain ⟨first, second, rfl, hfirst, hsecond⟩ := ih hrest
          refine ⟨gap ++ slice ++ first, second, by simp, .cons hslice hparts hfirst, ?_⟩
          rw [← List.append_assoc before, ← List.append_assoc before]
          exact hsecond

theorem Span.around_offsets (file : String) {before slice rest : List Char}
    (hsize : byteLength (before ++ slice ++ rest) < 2 ^ 32) :
    (Span.around file before slice).start.offset = byteLength before ∧
      (Span.around file before slice).stop.offset = byteLength before + byteLength slice := by
  refine ⟨Position.offset_behind hsize (List.append_assoc _ _ _), ?_⟩
  rw [← byteLength_append]
  exact Position.offset_behind hsize rfl

/-- As long as the offsets fit, nesting in the text is nesting of the spans. -/
theorem Nested.nests (hnested : Nested file before text outlines)
    (hsize : byteLength (before ++ text) < 2 ^ 32) :
    (∀ outline ∈ outlines, byteLength before ≤ outline.span.start.offset ∧
      outline.span.stop.offset ≤ byteLength (before ++ text) ∧ outline.Nests) ∧
    outlines.Pairwise fun first second =>
      first.span.stop.offset ≤ second.span.start.offset := by
  induction hnested with
  | nil => simp
  | @cons before gap slice rest parts others hslice hparts hothers ihParts ihOthers =>
      have hwhole : before ++ (gap ++ slice ++ rest) = before ++ gap ++ slice ++ rest := by simp
      rw [hwhole] at hsize ⊢
      obtain ⟨hstart, hstop⟩ := Span.around_offsets file hsize
      have hinner : byteLength (before ++ gap ++ slice) < 2 ^ 32 := by
        rw [byteLength_append _ rest] at hsize
        omega
      obtain ⟨hwithin, hordered⟩ := ihParts hinner
      obtain ⟨hlater, hlaterOrdered⟩ := ihOthers hsize
      have hpositive := byteLength_pos hslice
      have hnode : (Outline.node (.around file (before ++ gap) slice) parts).Nests := by
        refine .node (by omega) (fun part hpart => ?_) hordered fun part hpart =>
          (hwithin part hpart).2.2
        obtain ⟨hbelow, habove, -⟩ := hwithin part hpart
        rw [byteLength_append] at habove
        omega
      simp only [byteLength_append] at hstart hstop hlater ⊢
      constructor
      · intro outline hmem
        rcases List.mem_cons.1 hmem with rfl | hothers
        · refine ⟨?_, ?_, hnode⟩
          · rw [Outline.span, hstart]
            omega
          · rw [Outline.span, hstop]
            omega
        · obtain ⟨hbelow, habove, hnests⟩ := hlater outline hothers
          exact ⟨by omega, habove, hnests⟩
      · refine List.pairwise_cons.2 ⟨fun later hmem => ?_, hlaterOrdered⟩
        rw [Outline.span, hstop]
        exact (hlater later hmem).1

end Nested

/-! ## Lying among tokens -/

/-- The place at which the first of some tokens starts. -/
def Begins (ts : List Token) (position : Position) : Prop :=
  ∃ token others, ts = token :: others ∧ token.span.start = position

/-- The place at which the last of some tokens stops. -/
def Ends (ts : List Token) (position : Position) : Prop :=
  ∃ others token, ts = others ++ [token] ∧ token.span.stop = position

/-- Nodes in a row among tokens: each reaches from the first to the last of some tokens, with its
parts among these, and the next ones lie among those behind. -/
inductive Among : List Token → List Outline → Prop
  | nil {ts} : Among ts []
  | next {gap ts rest span parts others} : Begins ts span.start → Ends ts span.stop →
      Among ts parts → Among rest others →
      Among (gap ++ ts ++ rest) (.node span parts :: others)

def Token.outline (token : Token) : Outline := .node token.span []

section Among

variable {file : String} {before text : List Char} {ts us : List Token}
  {outlines others : List Outline}

theorem ends_cons {token : Token} {position : Position} :
    Ends (token :: ts) position ↔
      (ts = [] ∧ token.span.stop = position) ∨ Ends ts position := by
  constructor
  · rintro ⟨more, last, hsplit, hlast⟩
    rcases List.cons_eq_append_iff.1 hsplit with ⟨-, hsingle⟩ | ⟨inner, -, hinner⟩
    · cases hsingle
      exact .inl ⟨rfl, hlast⟩
    · exact .inr ⟨inner, last, hinner, hlast⟩
  · rintro (⟨rfl, hlast⟩ | ⟨inner, last, rfl, hlast⟩)
    · exact ⟨[], token, rfl, hlast⟩
    · exact ⟨token :: inner, last, rfl, hlast⟩

theorem Nested.leaf {slice : List Char} (hslice : slice ≠ [])
    (hothers : Nested file (before ++ slice) text outlines) :
    Nested file before (slice ++ text) (.node (.around file before slice) [] :: outlines) := by
  have hnode : Nested file before ([] ++ slice ++ text)
      (.node (.around file (before ++ []) slice) [] :: outlines) :=
    .cons hslice .nil (by rwa [List.append_nil])
  rwa [List.append_nil, List.nil_append] at hnode

/-- Tokens that lie in a text lie in a slice of it that starts and stops with them. -/
theorem Nested.trim (hne : ts ≠ []) (hnested : Nested file before text (ts.map Token.outline)) :
    ∃ gap slice rest, text = gap ++ slice ++ rest ∧ slice ≠ [] ∧
      Nested file (before ++ gap) slice (ts.map Token.outline) ∧
      (∀ position, Begins ts position → position = .behind file (before ++ gap)) ∧
      ∀ position, Ends ts position → position = .behind file (before ++ gap ++ slice) := by
  induction ts generalizing before text with
  | nil => contradiction
  | cons token others ih =>
      rw [List.map_cons, Token.outline] at hnested ⊢
      generalize hspan : token.span = span at hnested ⊢
      cases hnested with
      | @cons _ gap slice rest _ _ hslice _ hrest =>
          have hbegins : ∀ position, Begins (token :: others) position →
              position = .behind file (before ++ gap) := by
            rintro position ⟨first, more, hsplit, rfl⟩
            cases hsplit
            rw [hspan]
            rfl
          by_cases hothers : others = []
          · subst hothers
            have hleaf : Nested file (before ++ gap) (slice ++ [])
                [.node (.around file (before ++ gap) slice) []] := .leaf hslice .nil
            rw [List.append_nil] at hleaf
            refine ⟨gap, slice, rest, rfl, hslice, hleaf, hbegins, fun position hends => ?_⟩
            obtain ⟨-, rfl⟩ | ⟨_, _, hnil, -⟩ := ends_cons.1 hends
            · rw [hspan]
              rfl
            · simp at hnil
          · obtain ⟨inner, last, trail, rfl, hlast, hmore, -, hends⟩ := ih hothers hrest
            refine ⟨gap, slice ++ (inner ++ last), trail, by simp, by simp [hslice],
              .leaf hslice hmore.widen, hbegins, fun position hlater => ?_⟩
            obtain ⟨hnil, -⟩ | hlater := ends_cons.1 hlater
            · exact absurd hnil hothers
            · rw [hends position hlater]
              simp

/-- What lies among tokens lies in the text that these lie in. -/
theorem Among.nested (hamong : Among ts outlines)
    (hnested : Nested file before text (ts.map Token.outline)) :
    Nested file before text outlines := by
  induction hamong generalizing before text with
  | nil => exact .nil
  | @next gap ts rest span parts others hbegins hends _ _ ihParts ihOthers =>
      rw [List.map_append, List.map_append] at hnested
      obtain ⟨front, behind, rfl, hfront, hbehind⟩ := hnested.split
      obtain ⟨first, middle, rfl, -, hmiddle⟩ := hfront.split
      have hne : ts ≠ [] := by
        obtain ⟨token, others, rfl, -⟩ := hbegins
        exact List.cons_ne_nil _ _
      obtain ⟨lead, slice, trail, rfl, hslice, htokens, hstart, hstop⟩ := hmiddle.trim hne
      have hspan : span = .around file (before ++ first ++ lead) slice := by
        cases span
        rw [Span.around, ← hstart _ hbegins, ← hstop _ hends]
      have hothers : Nested file (before ++ first ++ lead ++ slice ++ trail) behind others := by
        have hlater := ihOthers hbehind
        simpa using hlater
      have hnode : Nested file (before ++ first) (lead ++ slice ++ (trail ++ behind))
          (.node span parts :: others) := by
        rw [hspan]
        exact .cons hslice (ihParts htokens) hothers.widen
      have hall := hnode.widen
      simpa using hall

/-- The tokens of a text but the end of input lie in it. -/
theorem Tiles.nested {slices : List (List Char)} {tokens : List Token}
    (htiles : Tiles file before text slices tokens) :
    Nested file before text (tokens.dropLast.map Token.outline) := by
  induction htiles with
  | last => exact .nil
  | @token before gap slice rest slices token tokens _ hslice _ _ hspan hrest ih =>
      obtain ⟨body, htokens, -⟩ := hrest.ends
      have hne : tokens ≠ [] := by simp [htokens]
      rw [List.dropLast_cons_of_ne_nil hne, List.map_cons, Token.outline, hspan]
      exact .cons hslice .nil ih

/-- What lies among the tokens of a text lies behind its first gap, where the first token
starts. -/
theorem Among.behind_gap {slices : List (List Char)} {tokens : List Token}
    (hamong : Among tokens.dropLast outlines) (htiles : Tiles file before text slices tokens) :
    ∃ gap body, text = gap ++ body ∧ Begins tokens (.behind file (before ++ gap)) ∧
      Nested file (before ++ gap) body outlines := by
  cases htiles with
  | last => exact ⟨text, [], (List.append_nil text).symm, ⟨_, [], rfl, rfl⟩, hamong.nested .nil⟩
  | @token _ gap slice rest slices token tokens _ hslice _ _ hspan hrest =>
      obtain ⟨body, htokens, -⟩ := hrest.ends
      have hne : tokens ≠ [] := by simp [htokens]
      have hfirst : Nested file (before ++ gap) (slice ++ rest)
          ((token :: tokens).dropLast.map Token.outline) := by
        rw [List.dropLast_cons_of_ne_nil hne, List.map_cons, Token.outline, hspan]
        exact .leaf hslice hrest.nested
      refine ⟨gap, slice ++ rest, List.append_assoc _ _ _, ⟨token, tokens, rfl, ?_⟩,
        hamong.nested hfirst⟩
      rw [hspan]
      rfl

theorem Begins.append {position : Position} (hbegins : Begins ts position) (us : List Token) :
    Begins (ts ++ us) position := by
  obtain ⟨token, others, rfl, hstart⟩ := hbegins
  exact ⟨token, others ++ us, rfl, hstart⟩

theorem Ends.append {position : Position} (hends : Ends us position) (ts : List Token) :
    Ends (ts ++ us) position := by
  obtain ⟨others, token, rfl, hstop⟩ := hends
  exact ⟨ts ++ others, token, (List.append_assoc _ _ _).symm, hstop⟩

theorem begins_cons (token : Token) (ts : List Token) : Begins (token :: ts) token.span.start :=
  ⟨token, ts, rfl, rfl⟩

theorem ends_concat (ts : List Token) (token : Token) : Ends (ts ++ [token]) token.span.stop :=
  ⟨ts, token, rfl, rfl⟩

namespace Among

theorem preceded (hamong : Among ts outlines) (gap : List Token) : Among (gap ++ ts) outlines := by
  cases hamong with
  | nil => exact .nil
  | next hbegins hends hparts hothers =>
      rw [← List.append_assoc, ← List.append_assoc]
      exact .next hbegins hends hparts hothers

theorem append (hfirst : Among ts outlines) (hsecond : Among us others) :
    Among (ts ++ us) (outlines ++ others) := by
  induction hfirst with
  | nil => exact hsecond.preceded _
  | next hbegins hends hparts _ _ ih =>
      rw [List.append_assoc _ _ us]
      exact .next hbegins hends hparts ih

theorem followed (hamong : Among ts outlines) (rest : List Token) :
    Among (ts ++ rest) outlines := by
  have hboth := hamong.append (nil : Among rest [])
  rwa [List.append_nil] at hboth

/-- A node that reaches from the first to the last of some tokens. -/
theorem node {span : Span} (hbegins : Begins ts span.start) (hends : Ends ts span.stop)
    (hparts : Among ts outlines) : Among ts [.node span outlines] := by
  have hnode : Among ([] ++ ts ++ []) [.node span outlines] := .next hbegins hends hparts .nil
  rwa [List.append_nil, List.nil_append] at hnode

/-- A node that the last of its tokens closes. -/
theorem closed {start : Position} (hbegins : Begins ts start) (hparts : Among ts outlines)
    (close : Token) :
    Among (ts ++ [close]) [.node { start := start, stop := close.span.stop } outlines] :=
  node (hbegins.append _) (ends_concat _ _) (hparts.followed _)

theorem cons (token : Token) (hamong : Among ts outlines) : Among (token :: ts) outlines :=
  hamong.preceded [token]

variable {outline : Outline}

/-- A node takes at least one token. -/
theorem exists_cons (hamong : Among ts [outline]) : ∃ token others, ts = token :: others := by
  cases hamong with
  | next hbegins =>
      obtain ⟨token, others, rfl, -⟩ := hbegins
      exact List.exists_cons_of_ne_nil (by simp)

/-- A node of the same span around a node. -/
theorem wrap (hamong : Among ts [outline]) : Among ts [.node outline.span [outline]] := by
  cases hamong with
  | next hbegins hends hparts hothers =>
      exact .next hbegins hends (.node hbegins hends hparts) hothers

/-- A node that starts with some tokens and stops with its last part. -/
theorem reach {start : Position} (hbegins : Begins ts start) (hlead : Among ts outlines)
    (hlast : Among us [outline]) :
    Among (ts ++ us) [.node { start := start, stop := outline.span.stop }
      (outlines ++ [outline])] := by
  cases hlast with
  | @next gap last rest span parts _ hlastBegins hlastEnds hparts _ =>
      have hparts := hlead.append ((node hlastBegins hlastEnds hparts).preceded gap)
      rw [← List.append_assoc]
      have hstop : Ends (ts ++ (gap ++ last)) span.stop := (hlastEnds.append gap).append ts
      have hnode : Among (ts ++ (gap ++ last)) [.node { start := start, stop := span.stop }
          (outlines ++ [.node span parts])] := node (hbegins.append _) hstop hparts
      exact hnode.followed rest

/-- A node from the start of one part to the end of another. -/
theorem join {first last : Outline} (hfirst : Among ts [first]) (hlast : Among us [last]) :
    Among (ts ++ us)
      [.node { start := first.span.start, stop := last.span.stop } [first, last]] := by
  cases hfirst with
  | @next gap inner rest span parts _ hbegins hends hparts _ =>
      have hlead := (node hbegins hends hparts).followed rest
      rw [List.append_assoc gap, List.append_assoc gap]
      exact (reach (hbegins.append rest) hlead hlast).preceded gap

theorem widen {e : Expr} (hamong : Among ts [e.outline]) : Among ts [e.widen.outline] := by
  unfold Expr.widen
  split
  · have hwrapped := hamong.wrap
    rwa [Expr.outline_span] at hwrapped
  · exact hamong

theorem narrow {e : Expr} (hamong : Among ts [e.outline]) : Among ts [e.narrow.outline] := by
  unfold Expr.narrow
  split
  · have hwrapped := hamong.wrap
    rwa [Expr.outline_span] at hwrapped
  · exact hamong

theorem read {target : Subscript} (hamong : Among ts [target.outline]) :
    Among ts [target.read.outline] :=
  hamong.wrap

end Among

end Among

end SubsetC
