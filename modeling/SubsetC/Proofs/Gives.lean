import SubsetC.Proofs.Run

/-!
# What a parse gives

A property of every value that a parse gives, from any state.  Nothing is said about
runs that fail or about the states that are left, so a sequence needs no more than
what its last part gives for the values of the parts before it.
-/

namespace SubsetC.Parse

variable {α β : Type} {settings : Settings} {P : α → Prop} {Q : β → Prop}

def Gives (settings : Settings) (P : α → Prop) (parse : Parse α) : Prop :=
  ∀ ⦃state value next⦄, parse settings state = .ok value next → P value

theorem Gives.pure {value : α} (hvalue : P value) :
    Gives settings P (pure value : Parse α) := by
  intro state found next hrun
  cases hrun
  exact hvalue

theorem Gives.throw {failure : Failure} : Gives settings P (throw failure : Parse α) :=
  fun _ _ _ hrun => by simp at hrun

theorem Gives.failAt {fault : Fault} {position : Position} :
    Gives settings P (failAt fault position : Parse α) :=
  .throw

theorem Gives.read : Gives settings (· = settings) (read : Parse Settings) := by
  intro state found next hrun
  cases hrun
  rfl

theorem Gives.bind {parse : Parse α} {continued : α → Parse β} (hparse : Gives settings P parse)
    (hcontinued : ∀ value, P value → Gives settings Q (continued value)) :
    Gives settings Q (parse >>= continued) := by
  intro state result next hrun
  obtain ⟨value, middle, hfirst, hsecond⟩ := bind_eq_ok.1 hrun
  exact hcontinued value (hparse hfirst) hsecond

/-- A first part of which the values do not matter. -/
theorem Gives.after {parse : Parse α} {continued : α → Parse β}
    (hcontinued : ∀ value, Gives settings Q (continued value)) :
    Gives settings Q (parse >>= continued) := by
  intro state result next hrun
  obtain ⟨value, middle, -, hsecond⟩ := bind_eq_ok.1 hrun
  exact hcontinued value hsecond

theorem Gives.map {f : α → β} {parse : Parse α} (hparse : Gives settings P parse)
    (hf : ∀ value, P value → Q (f value)) : Gives settings Q (f <$> parse) := by
  rw [map_eq_pure_bind]
  exact .bind hparse fun value hvalue => .pure (hf value hvalue)

theorem Gives.ite {condition : Prop} [Decidable condition] {accepted rejected : Parse α}
    (haccepted : Gives settings P accepted) (hrejected : Gives settings P rejected) :
    Gives settings P (if condition then accepted else rejected) := by
  split
  · exact haccepted
  · exact hrejected

theorem Gives.attempt {parse : Parse α} (hparse : Gives settings P parse) :
    Gives settings (fun result => ∀ value, result = .ok value → P value) (attempt parse) := by
  intro state result next hrun value hvalue
  subst hvalue
  unfold Parse.attempt at hrun
  cases hresult : parse settings state with
  | ok found after =>
      rw [hresult] at hrun
      cases hrun
      exact hparse hresult
  | error failure after =>
      rw [hresult] at hrun
      cases hrun

theorem Gives.ofAttempt {result : Except Failure α}
    (hresult : ∀ value, result = .ok value → P value) :
    Gives settings P (ofAttempt result) := by
  cases result with
  | ok value => exact .pure (hresult value rfl)
  | error failure => exact .throw

theorem Gives.bracket {before after : ParseState → ParseState} {parse : Parse α}
    (hparse : Gives settings P parse) : Gives settings P (bracket before after parse) := by
  intro state value next hrun
  obtain ⟨middle, hresult, -⟩ := bracket_eq_ok.1 hrun
  exact hparse hresult

theorem Gives.orFail {parse : Parse (Option α)} {failure : Failure}
    (hparse : Gives settings (fun value? => ∀ value, value? = some value → P value) parse) :
    Gives settings P (orFail parse failure) := by
  unfold Parse.orFail
  refine .bind hparse fun value? hvalue? => ?_
  cases value? with
  | none => exact .throw
  | some value => exact .pure (hvalue? value rfl)

end SubsetC.Parse
