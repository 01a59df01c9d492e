import Mathlib.Data.List.Infix
import SubsetC.StringTable

/-!
# Interning

Texts that are interned one after the other into an empty table are numbered by it.  One
call either finds the id of its text or gives it the next one, and nothing that is in the
table ever moves; so ids stay what they were, and each text is listed where it was first used.
-/

namespace SubsetC.StringTable

variable {table later : StringTable} {text : String} {texts : List String}

/-! ## One text -/

/-- Interning finds the text or adds it. -/
theorem intern_cases (table : StringTable) (text : String) :
    (∃ id, table.get? id = some text ∧ table.intern text = (id, table)) ∨
      ∃ hnew, table.intern text = (table.size, table.add text hnew) := by
  unfold intern
  split
  case h_1 id hid => exact .inl ⟨id, (table.coupled text id).1 hid, rfl⟩
  case h_2 hnew => exact .inr ⟨hnew, rfl⟩

theorem not_mem_of_lookup (hnew : table.ids.lookup text = none) : text ∉ table.texts.toList := by
  intro hmem
  obtain ⟨id, hid⟩ := List.mem_iff_getElem?.1 hmem
  rw [Array.getElem?_toList, ← table.coupled, hnew] at hid
  contradiction

theorem intern_get? (table : StringTable) (text : String) :
    (table.intern text).2.get? (table.intern text).1 = some text := by
  obtain ⟨id, hget, hintern⟩ | ⟨hnew, hintern⟩ := table.intern_cases text
  · rw [hintern]
    exact hget
  · simp [hintern, get?, size]

theorem intern_prefix (table : StringTable) (text : String) :
    table.texts.toList <+: (table.intern text).2.texts.toList := by
  obtain ⟨id, -, hintern⟩ | ⟨hnew, hintern⟩ := table.intern_cases text
  · rw [hintern]
  · simp [hintern]

/-- A text keeps its id as the table grows. -/
theorem get?_of_prefix {id : Nat} (hextends : table.texts.toList <+: later.texts.toList)
    (hget : table.get? id = some text) : later.get? id = some text := by
  rw [get?, ← Array.getElem?_toList] at hget ⊢
  obtain ⟨others, hothers⟩ := hextends
  have hid : id < table.texts.toList.length := (List.getElem?_eq_some_iff.1 hget).1
  rw [← hothers, List.getElem?_append_left hid, hget]

/-- A text has one id. -/
theorem id_unique {first second : Nat} (hfirst : table.get? first = some text)
    (hsecond : table.get? second = some text) : first = second := by
  have hlookup := (table.coupled text first).2 hfirst
  rw [(table.coupled text second).2 hsecond] at hlookup
  exact (Option.some.inj hlookup).symm

/-! ## Texts one after the other -/

/-- The ids that texts get one after the other, and the table in the end. -/
def internAll (table : StringTable) : List String → List Nat × StringTable
  | [] => ([], table)
  | text :: texts =>
      let (id, next) := table.intern text
      let (ids, last) := next.internAll texts
      (id :: ids, last)

theorem internAll_cons :
    table.internAll (text :: texts) =
      ((table.intern text).1 :: ((table.intern text).2.internAll texts).1,
        ((table.intern text).2.internAll texts).2) := rfl

theorem texts_prefix_internAll (table : StringTable) (texts : List String) :
    table.texts.toList <+: (table.internAll texts).2.texts.toList := by
  induction texts generalizing table with
  | nil => exact List.prefix_rfl
  | cons text texts ih => exact (table.intern_prefix text).trans (ih _)

/-- The ids lead to their texts in every table that has grown from the last one. -/
theorem map_get?_internAll (table : StringTable) (texts : List String)
    (hextends : (table.internAll texts).2.texts.toList <+: later.texts.toList) :
    (table.internAll texts).1.map later.get? = texts.map some := by
  induction texts generalizing table with
  | nil => rfl
  | cons text texts ih =>
      rw [internAll_cons] at hextends ⊢
      have hget : later.get? (table.intern text).1 = some text :=
        get?_of_prefix ((texts_prefix_internAll _ texts).trans hextends) (table.intern_get? text)
      rw [List.map_cons, List.map_cons, hget, ih _ hextends]

theorem exists_id (table : StringTable) {call : Nat}
    (hextends : (table.internAll texts).2.texts.toList <+: later.texts.toList)
    (htext : texts[call]? = some text) :
    ∃ id, (table.internAll texts).1[call]? = some id ∧ later.get? id = some text := by
  have hget : ((table.internAll texts).1.map later.get?)[call]? = some (some text) := by
    rw [map_get?_internAll table texts hextends, List.getElem?_map, htext, Option.map_some]
  rw [List.getElem?_map] at hget
  exact Option.map_eq_some_iff.1 hget

/-- Two ids are one id just when they are those of one text. -/
theorem same_id_iff {first second : Nat} (hfirst : first < texts.length)
    (hsecond : second < texts.length) :
    (table.internAll texts).1[first]? = (table.internAll texts).1[second]? ↔
      texts[first]? = texts[second]? := by
  have htext := List.getElem?_eq_getElem hfirst
  have htext' := List.getElem?_eq_getElem hsecond
  obtain ⟨id, hid, hget⟩ := exists_id table List.prefix_rfl htext
  obtain ⟨id', hid', hget'⟩ := exists_id table List.prefix_rfl htext'
  rw [hid, hid', htext, htext', Option.some.injEq, Option.some.injEq]
  constructor
  · rintro rfl
    exact Option.some.inj (hget.symm.trans hget')
  · intro hsame
    rw [hsame] at hget
    exact id_unique hget hget'

/-- What is new to the table is put behind it, once each and in the order of first use. -/
theorem texts_internAll (table : StringTable) (texts : List String) :
    (table.internAll texts).2.texts.toList =
      table.texts.toList ++ (texts.removeAll table.texts.toList).eraseDups := by
  induction texts generalizing table with
  | nil => simp [internAll]
  | cons text texts ih =>
      rw [internAll_cons, ih]
      obtain ⟨id, hget, hintern⟩ | ⟨hnew, hintern⟩ := table.intern_cases text
      · have hmem : text ∈ table.texts.toList := by
          rw [get?, ← Array.getElem?_toList] at hget
          exact List.mem_of_getElem? hget
        rw [hintern, List.cons_removeAll]
        simp [hmem]
      · have hmem := not_mem_of_lookup hnew
        have hothers : texts.removeAll (table.texts.toList ++ [text]) =
            (texts.removeAll table.texts.toList).filter fun other => !other == text := by
          simp [List.removeAll, List.filter_filter, Bool.and_comm, Bool.beq_eq_decide_eq]
        rw [hintern, texts_add, Array.toList_push, hothers, List.cons_removeAll]
        simp [hmem, List.eraseDups_cons]

/-! ## The list of a table -/

theorem map_fst_toList (table : StringTable) :
    table.toList.map Prod.fst = List.range table.size := by
  simp [toList, size, Function.comp_def, List.range_eq_range']

theorem map_snd_toList (table : StringTable) :
    table.toList.map Prod.snd = table.texts.toList := by
  simp [toList, Function.comp_def]

/-- Texts that are interned one after the other into an empty table are numbered by it.  Two of
them get one id just when they are one text, an id leads to its text whatever is interned after
it, and the table lists each text once, with ids from 0 on in the order of first use. -/
theorem interning_numbers (texts : List String) :
    ∃ ids table, ({} : StringTable).internAll texts = (ids, table) ∧
      ids.length = texts.length ∧
      (∀ first second, first < texts.length → second < texts.length →
        (ids[first]? = ids[second]? ↔ texts[first]? = texts[second]?)) ∧
      (∀ further, ids.map (table.internAll further).2.get? = texts.map some) ∧
      table.toList.map Prod.fst = List.range table.size ∧
      table.toList.map Prod.snd = texts.eraseDups ∧
      table.size = texts.eraseDups.length := by
  have hget (further : List String) :=
    map_get?_internAll {} texts (texts_prefix_internAll _ further)
  have htexts : (({} : StringTable).internAll texts).2.texts.toList = texts.eraseDups := by
    simp [texts_internAll]
  refine ⟨_, _, rfl, ?_, fun first second => same_id_iff, hget, map_fst_toList _, ?_, ?_⟩
  · simpa using congrArg List.length (hget [])
  · rw [map_snd_toList, htexts]
  · rw [size, ← Array.length_toList, htexts]

/-- Texts that come back, the empty one among them. -/
def returningTexts : List String := ["b", "a", "b", "", "a"]

theorem returningTexts_numbers :
    ∃ ids table, ({} : StringTable).internAll returningTexts = (ids, table) ∧
      ids = [0, 1, 0, 2, 1] ∧ table.toList = [(0, "b"), (1, "a"), (2, "")] ∧
      1 < returningTexts.length ∧ 4 < returningTexts.length ∧
      (ids[1]? = ids[4]? ↔ returningTexts[1]? = returningTexts[4]?) ∧
      ids.map (table.internAll ["c", "a"]).2.get? = returningTexts.map some := by
  obtain ⟨ids, table, hrun, -, hsame, hstable, -⟩ := interning_numbers returningTexts
  have hreads : (({} : StringTable).internAll returningTexts).1 = [0, 1, 0, 2, 1] ∧
      (({} : StringTable).internAll returningTexts).2.toList = [(0, "b"), (1, "a"), (2, "")] := by
    decide
  rw [hrun] at hreads
  have hfirst : 1 < returningTexts.length := by decide
  have hsecond : 4 < returningTexts.length := by decide
  exact ⟨ids, table, hrun, hreads.1, hreads.2, hfirst, hsecond, hsame 1 4 hfirst hsecond,
    hstable ["c", "a"]⟩

end SubsetC.StringTable
