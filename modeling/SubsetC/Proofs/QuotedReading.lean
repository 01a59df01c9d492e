import Mathlib.Data.List.Basic
import Mathlib.Tactic.Common
import SubsetC.Proofs.LexicalGrammar
import SubsetC.Text.Quoted

/-!
# Quoted text is read in one way

A character inside quotes is written as itself, by a letter behind a backslash or by its code
point, and where one character ends does not depend on what follows.  So a text between quotes
tells its characters and where it stops (`flatMap_append_inj`).
-/

namespace SubsetC.Text

/-- A beginning of a text that takes all up to the first character of some kind is told by the
whole text. -/
theorem append_inj_of_stop {p : Char → Bool} {first other rest rest' : List Char}
    (hfirst : ∀ c ∈ first, p c = true) (hother : ∀ c ∈ other, p c = true)
    (hrest : ∀ c, rest.head? = some c → p c = false)
    (hrest' : ∀ c, rest'.head? = some c → p c = false)
    (heq : first ++ rest = other ++ rest') : first = other ∧ rest = rest' := by
  obtain ⟨htake, hdrop⟩ := Lexeme.run_ends hfirst hrest
  obtain ⟨htake', hdrop'⟩ := Lexeme.run_ends hother hrest'
  rw [heq] at htake hdrop
  exact ⟨htake.symm.trans htake', hdrop.symm.trans hdrop'⟩

/-! ## Digits -/

section Digits

variable {base m n : Nat}

theorem digitChar_injective (hm : m < 16) (hn : n < 16) (hdigits : m.digitChar = n.digitChar) :
    m = n := by
  have hall : ∀ m : Fin 16, ∀ n : Fin 16, m.val.digitChar = n.val.digitChar → m = n := by decide
  exact congrArg Fin.val (hall ⟨m, hm⟩ ⟨n, hn⟩ hdigits)

/-- A number is told by its digits. -/
theorem toDigits_injective (hbase : 1 < base) (hbound : base ≤ 16)
    (hdigits : Nat.toDigits base m = Nat.toDigits base n) : m = n := by
  induction m using Nat.strongRecOn generalizing n with
  | _ m ih =>
    have hsplit : ∀ k, Nat.toDigits base k =
        (if k < base then [] else Nat.toDigits base (k / base)) ++ [(k % base).digitChar] := by
      intro k
      rw [Nat.toDigits_eq_if hbase]
      split
      · rename_i hk
        rw [Nat.mod_eq_of_lt hk, List.nil_append]
      · rfl
    rw [hsplit m, hsplit n] at hdigits
    obtain ⟨hinit, hlast⟩ := List.append_inj' hdigits rfl
    have hmod : m % base = n % base := by
      have hpositive : 0 < base := Nat.lt_trans Nat.zero_lt_one hbase
      have hm := Nat.mod_lt m hpositive
      have hn := Nat.mod_lt n hpositive
      exact digitChar_injective (by omega) (by omega) (List.singleton_inj.1 hlast)
    split at hinit
    · rename_i hm
      split at hinit
      · rename_i hn
        rwa [Nat.mod_eq_of_lt hm, Nat.mod_eq_of_lt hn] at hmod
      · exact absurd hinit.symm Nat.toDigits_ne_nil
    · rename_i hm
      split at hinit
      · exact absurd hinit Nat.toDigits_ne_nil
      · have hdiv := ih (m / base) (Nat.div_lt_self (by omega) hbase) hinit
        rw [← Nat.div_add_mod m base, hdiv, hmod, Nat.div_add_mod]

/-- No digit is the brace that ends a code point. -/
theorem ne_brace_of_mem_toDigits (hbase : 1 < base) {c : Char} (hc : c ∈ Nat.toDigits base n) :
    c ≠ '\x7d' := by
  induction n using Nat.strongRecOn with
  | _ n ih =>
    rw [Nat.toDigits_eq_if hbase] at hc
    split at hc
    · rw [List.mem_singleton.1 hc]
      exact Nat.digitChar_ne '\x7d' rfl
    · obtain hinit | hlast := List.mem_append.1 hc
      · exact ih (n / base) (Nat.div_lt_self (by omega) hbase) hinit
      · rw [List.mem_singleton.1 hlast]
        exact Nat.digitChar_ne '\x7d' rfl

end Digits

/-! ## Characters -/

/-- The ways in which a character may be spelled inside quotes of some kind. -/
inductive Spells (quote : Char) : Char → List Char → Prop
  | plain {c} : c ≠ quote → c ≠ '\\' → Spells quote c [c]
  | letter {letter c} : letterEscape? letter = some c → Spells quote c ['\\', letter]
  | codePoint {c} : Spells quote c (codePointEscape c)

theorem codePointEscape_append_inj {c d : Char} {rest rest' : List Char}
    (heq : codePointEscape c ++ rest = codePointEscape d ++ rest') : c = d ∧ rest = rest' := by
  simp only [codePointEscape, List.append_assoc, List.append_cancel_left_eq] at heq
  obtain ⟨hdigits, hrest⟩ := @append_inj_of_stop (fun c => c ≠ '\x7d') _ _ _ _
    (fun c hc => by simpa using ne_brace_of_mem_toDigits (by decide) hc)
    (fun c hc => by simpa using ne_brace_of_mem_toDigits (by decide) hc) (by simp) (by simp) heq
  have hvalue := toDigits_injective (by decide) (by decide) hdigits
  exact ⟨Char.toNat_inj.1 hvalue, (List.cons.inj hrest).2⟩

variable {quote : Char}

/-- The spelling of a character ends where it ends, whatever follows. -/
theorem Spells.append_inj {c d : Char} {first other rest rest' : List Char}
    (hfirst : Spells quote c first) (hother : Spells quote d other)
    (heq : first ++ rest = other ++ rest') : c = d ∧ rest = rest' := by
  cases hfirst with
  | plain _ hc =>
      cases hother with
      | plain => exact List.cons.inj heq
      | letter => exact absurd (List.cons.inj heq).1 hc
      | codePoint => exact absurd (List.cons.inj heq).1 hc
  | letter hletter =>
      cases hother with
      | plain _ hd => exact absurd (List.cons.inj heq).1.symm hd
      | letter hletter' =>
          simp only [List.cons_append, List.nil_append, List.cons.injEq, true_and] at heq
          obtain ⟨rfl, hrest⟩ := heq
          exact ⟨Option.some.inj (hletter.symm.trans hletter'), hrest⟩
      | codePoint =>
          simp only [codePointEscape, List.cons_append, List.cons.injEq, true_and] at heq
          obtain ⟨rfl, -⟩ := heq
          contradiction
  | codePoint =>
      cases hother with
      | plain _ hd => exact absurd (List.cons.inj heq).1.symm hd
      | letter hletter =>
          simp only [codePointEscape, List.cons_append, List.cons.injEq, true_and] at heq
          obtain ⟨rfl, -⟩ := heq
          contradiction
      | codePoint => exact codePointEscape_append_inj heq

/-- No character is spelled with a quote at its beginning. -/
theorem Spells.head {c : Char} {text : List Char} (hspells : Spells quote c text)
    (hquote : quote ≠ '\\') : ∃ first others, text = first :: others ∧ first ≠ quote := by
  cases hspells with
  | plain hc => exact ⟨_, [], rfl, hc⟩
  | letter => exact ⟨'\\', _, rfl, hquote.symm⟩
  | codePoint => exact ⟨'\\', _, rfl, hquote.symm⟩

/-! ## Texts -/

/-- A text between quotes is told by its spelling, and so is the place where it stops. -/
theorem flatMap_append_inj {spell : Char → List Char} (hquote : quote ≠ '\\')
    (hspell : ∀ c, Spells quote c (spell c)) {text other rest rest' : List Char}
    (heq : text.flatMap spell ++ quote :: rest = other.flatMap spell ++ quote :: rest') :
    text = other ∧ rest = rest' := by
  induction text generalizing other with
  | nil =>
      cases other with
      | nil => exact ⟨rfl, (List.cons.inj heq).2⟩
      | cons d others =>
          obtain ⟨first, tail, hd, hfirst⟩ := (hspell d).head hquote
          simp only [List.flatMap_cons, hd, List.append_assoc] at heq
          exact absurd (List.cons.inj heq).1.symm hfirst
  | cons c text ih =>
      cases other with
      | nil =>
          obtain ⟨first, tail, hc, hfirst⟩ := (hspell c).head hquote
          simp only [List.flatMap_cons, hc, List.append_assoc] at heq
          exact absurd (List.cons.inj heq).1 hfirst
      | cons d others =>
          simp only [List.flatMap_cons, List.append_assoc] at heq
          obtain ⟨rfl, htail⟩ := (hspell c).append_inj (hspell d) heq
          obtain ⟨rfl, hrest⟩ := ih htail
          exact ⟨rfl, hrest⟩

theorem spells_escapeInString (c : Char) : Spells '"' c (escapeInString c) := by
  unfold escapeInString
  split_ifs with hnul htab hreturn hline hslash hquote hunprintable
  · exact .letter (by rw [hnul]; rfl)
  · exact .letter (by rw [htab]; rfl)
  · exact .letter (by rw [hreturn]; rfl)
  · exact .letter (by rw [hline]; rfl)
  · exact .letter (by rw [hslash]; rfl)
  · exact .letter (by rw [hquote]; rfl)
  · exact .codePoint
  · exact .plain hquote hslash

theorem spells_escapeInConstant (c : Char) : Spells '\'' c (escapeInConstant c) := by
  unfold escapeInConstant
  split_ifs with htab hreturn hline hquote hquotes hslash hprintable
  · exact .letter (by rw [htab]; rfl)
  · exact .letter (by rw [hreturn]; rfl)
  · exact .letter (by rw [hline]; rfl)
  · exact .letter (by rw [hquote]; rfl)
  · exact .letter (by rw [hquotes]; rfl)
  · exact .letter (by rw [hslash]; rfl)
  · exact .plain hquote hslash
  · exact .codePoint

theorem quoted_append_inj {text other rest rest' : List Char}
    (heq : quoted text ++ rest = quoted other ++ rest') : text = other ∧ rest = rest' := by
  simp only [quoted, List.cons_append, List.append_assoc, List.nil_append, List.cons.injEq,
    true_and] at heq
  exact flatMap_append_inj (by decide) spells_escapeInString heq

theorem quotedConstant_append_inj {c d : Char} {rest rest' : List Char}
    (heq : quotedConstant c ++ rest = quotedConstant d ++ rest') : c = d ∧ rest = rest' := by
  simp only [quotedConstant, List.cons_append, List.append_assoc, List.nil_append,
    List.cons.injEq, true_and] at heq
  obtain ⟨rfl, htail⟩ := (spells_escapeInConstant c).append_inj (spells_escapeInConstant d) heq
  exact ⟨rfl, (List.cons.inj htail).2⟩

end SubsetC.Text
