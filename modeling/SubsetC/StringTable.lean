/-!
# String table

The distinct string literals of a program, in the order of their first use.  The
place of a text in the table is its id.
-/

namespace SubsetC

/-- The texts by their ids and the ids by their texts, which tell the same. -/
structure StringTable where
  texts : Array String
  ids : List (String × Nat)
  coupled (text : String) (id : Nat) : ids.lookup text = some id ↔ texts[id]? = some text
deriving DecidableEq, Repr

namespace StringTable

instance : EmptyCollection StringTable where
  emptyCollection := { texts := #[], ids := [], coupled := by simp }

@[simp] theorem texts_empty : (∅ : StringTable).texts = #[] := rfl

/-- Gives the next id to a text that has none. -/
def add (table : StringTable) (text : String) (hnew : table.ids.lookup text = none) :
    StringTable where
  texts := table.texts.push text
  ids := (text, table.texts.size) :: table.ids
  coupled other id := by
    by_cases hother : other = text
    · subst hother
      -- No older id leads to the new text.
      have hold : table.texts[id]? ≠ some other := by simp [← table.coupled, hnew]
      rw [List.lookup_cons_self, Array.getElem?_push]
      by_cases hid : id = table.texts.size
      · simp [hid]
      · simp [hid, Ne.symm hid, hold]
    · have hother' : text ≠ other := Ne.symm hother
      -- The new id leads to no older text.
      have hnext : table.ids.lookup other ≠ some table.texts.size := by simp [table.coupled]
      rw [List.lookup_cons, beq_false_of_ne hother, Array.getElem?_push]
      by_cases hid : id = table.texts.size
      · simp [hid, hnext, hother']
      · simp [hid, table.coupled]

@[simp] theorem texts_add (table : StringTable) (text : String)
    (hnew : table.ids.lookup text = none) :
    (table.add text hnew).texts = table.texts.push text := rfl

/-- The id of a text, which is added unless it is there. -/
def intern (table : StringTable) (text : String) : Nat × StringTable :=
  match hid : table.ids.lookup text with
  | some id => (id, table)
  | none => (table.texts.size, table.add text hid)

def get? (table : StringTable) (id : Nat) : Option String := table.texts[id]?

def size (table : StringTable) : Nat := table.texts.size

/-- The texts with their ids. -/
def toList (table : StringTable) : List (Nat × String) :=
  table.texts.toList.zipIdx.map fun (text, id) => (id, text)

end StringTable

end SubsetC
