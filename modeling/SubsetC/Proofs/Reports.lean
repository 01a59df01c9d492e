import Mathlib.Data.List.Defs
import SubsetC.Proofs.Respects

/-!
# What a journal reports

The faults among the diagnostics of a journal, the misuses of operators, and what was
passed over after its report.  All of them only grow, since the journal does.
-/

namespace SubsetC

theorem mem_consecutivePairs_iff {α : Type} {x y : α} {list : List α} :
    (x, y) ∈ list.consecutivePairs ↔ [x, y] <:+: list := by
  induction list with
  | nil => simp
  | cons first others ih =>
      cases others with
      | nil => simp [List.consecutivePairs, List.infix_cons_iff]
      | cons second others =>
          rw [List.infix_cons_iff, ← ih]
          simp [List.consecutivePairs]

/-- Whether a construct is passed over because of a misuse. -/
def Misuse.rejects : Misuse → Bool
  | notAnArray _ | notAFunction _ => true
  | _ => false

def Diagnostic.rejects (diagnostic : Diagnostic) : Bool :=
  match diagnostic.cause with
  | .fault _ => false
  | .misuse misuse => misuse.rejects

def Misuse.isOfOperator : Misuse → Bool
  | invalidOperands _ _ | invalidOperand _ => true
  | _ => false

/-- The misuse of an operator that a diagnostic reports, if it reports one. -/
def Diagnostic.operatorMisuse? (diagnostic : Diagnostic) : Option Misuse :=
  match diagnostic.cause with
  | .fault _ => none
  | .misuse misuse => if misuse.isOfOperator then some misuse else none

namespace Journal

/-- The diagnostics that are no misuses, in their order. -/
def faults (journal : Journal) : List Diagnostic :=
  journal.diagnostics.toList.filter fun diagnostic => !diagnostic.isMisuse

/-- The misuses of operators, in the order of their reports. -/
def operatorMisuses (journal : Journal) : List Misuse :=
  journal.diagnostics.toList.filterMap Diagnostic.operatorMisuse?

/-- The diagnostics that a skip follows at once: what they are about is passed over. -/
def passedOver (journal : Journal) : List Diagnostic :=
  journal.events.toList.consecutivePairs.filterMap fun
    | (.reported diagnostic, .resynchronizing _ _) => some diagnostic
    | _ => none

theorem mem_passedOver {journal : Journal} {diagnostic : Diagnostic} :
    diagnostic ∈ journal.passedOver ↔ ∃ kind position,
      [.reported diagnostic, .resynchronizing kind position] <:+: journal.events.toList := by
  unfold passedOver
  rw [List.mem_filterMap]
  constructor
  · rintro ⟨⟨first, second⟩, hmem, hpair⟩
    split at hpair
    · rename_i kind position heq
      cases heq
      cases hpair
      exact ⟨kind, position, mem_consecutivePairs_iff.1 hmem⟩
    · contradiction
  · rintro ⟨kind, position, hinfix⟩
    exact ⟨_, mem_consecutivePairs_iff.2 hinfix, rfl⟩

theorem faultCount_eq (journal : Journal) :
    journal.faultCount = journal.faults.length := by
  have hsplit := journal.diagnostics.toList.length_eq_countP_add_countP Diagnostic.isMisuse
  have hfaults : journal.faults.length =
      journal.diagnostics.toList.countP fun diagnostic => !diagnostic.isMisuse := by
    rw [Journal.faults, List.countP_eq_length_filter]
  simp only [Bool.not_eq_true, Bool.decide_eq_false] at hsplit
  unfold Journal.faultCount Journal.misuseCount Journal.size
  rw [hfaults, ← Array.length_toList, hsplit]
  omega

end Journal

namespace ParseState

theorem reported_diagnostics (state : ParseState) (diagnostic : Diagnostic) :
    (state.reported diagnostic).journal.diagnostics.toList =
      state.journal.diagnostics.toList ++ [diagnostic] := by
  simp [reported, Journal.report, Journal.note]

theorem reported_faults (state : ParseState) (diagnostic : Diagnostic) :
    (state.reported diagnostic).journal.faults =
      state.journal.faults ++ if diagnostic.isMisuse then [] else [diagnostic] := by
  unfold Journal.faults
  rw [reported_diagnostics, List.filter_append]
  cases hmisuse : diagnostic.isMisuse <;> simp [hmisuse]

theorem reported_operatorMisuses (state : ParseState) (diagnostic : Diagnostic) :
    (state.reported diagnostic).journal.operatorMisuses =
      state.journal.operatorMisuses ++ diagnostic.operatorMisuse?.toList := by
  unfold Journal.operatorMisuses
  rw [reported_diagnostics, List.filterMap_append]
  cases hmisuse : diagnostic.operatorMisuse? <;> simp [hmisuse]

/-- A diagnostic of some sort was reported. -/
def Shows (sort : Diagnostic → Bool) (state : ParseState) : Prop :=
  ∃ diagnostic ∈ state.journal.diagnostics.toList, sort diagnostic = true

theorem shows_reported {sort : Diagnostic → Bool} {state : ParseState} {diagnostic : Diagnostic}
    (hsort : sort diagnostic = true) : (state.reported diagnostic).Shows sort := by
  refine ⟨diagnostic, ?_, hsort⟩
  rw [reported_diagnostics]
  exact List.mem_append_right _ (List.mem_singleton_self _)

end ParseState

namespace Parse

/-- What was reported stays reported. -/
theorem run_shows {α : Type} (parse : Parse α) [hparse : Respects KeepsReports parse]
    {settings : Settings} {sort : Diagnostic → Bool} {state : ParseState}
    (hshows : state.Shows sort) : (parse.run settings state).2.Shows sort := by
  obtain ⟨diagnostic, hmem, hsort⟩ := hshows
  exact ⟨diagnostic, (hparse.run settings state).subset hmem, hsort⟩

end Parse

namespace Parse.KeepsReports

variable {state next : ParseState}

theorem faults (hkeeps : KeepsReports state next) : state.journal.faults <+: next.journal.faults :=
  hkeeps.filter _

theorem operatorMisuses (hkeeps : KeepsReports state next) :
    state.journal.operatorMisuses <+: next.journal.operatorMisuses :=
  hkeeps.filterMap _

end Parse.KeepsReports

theorem Parse.KeepsEvents.passedOver {state next : ParseState} (hkeeps : KeepsEvents state next)
    {diagnostic : Diagnostic} (hpassed : diagnostic ∈ state.journal.passedOver) :
    diagnostic ∈ next.journal.passedOver := by
  obtain ⟨kind, position, hinfix⟩ := Journal.mem_passedOver.1 hpassed
  exact Journal.mem_passedOver.2 ⟨kind, position, hinfix.trans hkeeps.isInfix⟩

end SubsetC
