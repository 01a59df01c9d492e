import SubsetC.Proofs.Traced

/-!
# The flag for `printf`

A parse raises a flag when it meets a call of `printf`, before it reads the arguments.  Whether
it does is related to the value that it gives.  Only runs that report no fault are considered:
what is passed over after a failure may have raised the flag, and no tree holds it.
-/

namespace SubsetC.Parse

variable {α β : Type} {settings : Settings}

/-- If the parse succeeds and reports no fault, whether it raises the flag is related to its
value. -/
structure Flags (settings : Settings) (Q : Bool → α → Prop) (parse : Parse α) : Prop where
  keeps : ∀ {state value next}, parse settings state = .ok value next →
    state.journal.faults <+: next.journal.faults
  flags : ∀ {state value next}, parse settings state = .ok value next →
    next.journal.faults = state.journal.faults →
      ∃ raised, next.needsPrintf = (state.needsPrintf || raised) ∧ Q raised value

/-- A parse of which the value tells whether it raises the flag. -/
abbrev Tells (settings : Settings) (tell : α → Bool) (parse : Parse α) : Prop :=
  Flags settings (fun raised value => raised = tell value) parse

/-- A parse that leaves the flag as it is. -/
class Unflagged (parse : Parse α) : Prop where
  leaves : ∀ {settings state value next}, parse settings state = .ok value next →
    next.needsPrintf = state.needsPrintf

/-- The flag is never lowered. -/
def KeepsFlag (state next : ParseState) : Prop :=
  state.needsPrintf = true → next.needsPrintf = true

instance : ProgramRelation KeepsFlag where
  refl _ hraised := hraised
  trans hfirst hsecond hraised := hsecond (hfirst hraised)
  move _ _ _ _ hraised := hraised
  note _ _ hraised := hraised
  report _ _ hraised := hraised
  plant _ _ _ hraised := hraised
  intern _ _ hraised := hraised
  markPrintf _ _ := rfl
  declare _ _ _ _ hraised := hraised
  inScope hinner hraised := hinner hraised
  declareGlobal _ _ _ _ hraised := hraised
  setReturnType _ _ hraised := hraised

/-! ## Combinators -/

namespace Flags

variable {P : Bool → α → Prop} {Q : Bool → β → Prop} {parse : Parse α} {continued : α → Parse β}

theorem imp {R : Bool → α → Prop} (hparse : Flags settings P parse)
    (himplies : ∀ raised value, P raised value → R raised value) : Flags settings R parse where
  keeps := hparse.keeps
  flags hrun hfaults := by
    obtain ⟨raised, hraised, hvalue⟩ := hparse.flags hrun hfaults
    exact ⟨raised, hraised, himplies raised _ hvalue⟩

theorem of_unflagged [Respects KeepsReports parse] [Unflagged parse]
    (hvalue : ∀ value, P false value) : Flags settings P parse where
  keeps hrun := KeepsReports.faults (Respects.ok hrun)
  flags hrun _ := ⟨false, by rw [Unflagged.leaves hrun, Bool.or_false], hvalue _⟩

theorem throw (failure : Failure) : Flags settings P (throw failure : Parse α) where
  keeps hrun := by simp at hrun
  flags hrun := by simp at hrun

theorem failAt (fault : Fault) (position : Position) :
    Flags settings P (failAt fault position : Parse α) :=
  throw _

theorem pure {value : α} (hvalue : P false value) : Flags settings P (pure value) where
  keeps hrun := by
    cases hrun
    exact List.prefix_rfl
  flags {state value next} hrun _ := by
    cases hrun
    exact ⟨false, (Bool.or_false _).symm, hvalue⟩

/-- The flag is raised if either part raises it, and neither reports a fault if the whole does
not. -/
theorem bind (hparse : Flags settings P parse)
    (hcontinued : ∀ value, Flags settings
      (fun later result => ∀ raised, P raised value → Q (raised || later) result)
      (continued value)) :
    Flags settings Q (parse >>= continued) where
  keeps hrun := by
    obtain ⟨value, middle, hfirst, hsecond⟩ := bind_eq_ok.1 hrun
    exact (hparse.keeps hfirst).trans ((hcontinued value).keeps hsecond)
  flags hrun hfaults := by
    obtain ⟨value, middle, hfirst, hsecond⟩ := bind_eq_ok.1 hrun
    have hbefore := hparse.keeps hfirst
    have hafter := (hcontinued value).keeps hsecond
    have hmiddle := (hbefore.eq_of_length_le (hfaults ▸ hafter.length_le)).symm
    obtain ⟨raised, hraised, hvalue⟩ := hparse.flags hfirst hmiddle
    obtain ⟨later, hlater, hresult⟩ :=
      (hcontinued value).flags hsecond (hfaults.trans hmiddle.symm)
    exact ⟨raised || later, by rw [hlater, hraised, Bool.or_assoc], hresult raised hvalue⟩

/-- What follows a first part whose value tells whether it raises the flag. -/
theorem collect {tell : α → Bool} (hparse : Tells settings tell parse)
    (hcontinued : ∀ value, Flags settings (fun later => Q (tell value || later))
      (continued value)) :
    Flags settings Q (parse >>= continued) := by
  apply hparse.bind
  intro value
  apply (hcontinued value).imp
  rintro later result hresult raised rfl
  exact hresult

theorem after [Respects KeepsReports parse] [Unflagged parse]
    (hcontinued : ∀ value, Flags settings Q (continued value)) :
    Flags settings Q (parse >>= continued) := by
  have hparse : Tells settings (fun _ => false) parse := of_unflagged fun _ => rfl
  exact hparse.collect hcontinued

theorem map {f : α → β} (hparse : Flags settings (fun raised value => Q raised (f value)) parse) :
    Flags settings Q (f <$> parse) := by
  rw [map_eq_pure_bind]
  apply hparse.bind
  intro value
  apply pure
  intro raised hvalue
  rwa [Bool.or_false]

theorem ite {condition : Prop} [Decidable condition] {accepted rejected : Parse α}
    (haccepted : Flags settings P accepted) (hrejected : Flags settings P rejected) :
    Flags settings P (if condition then accepted else rejected) := by
  split
  · exact haccepted
  · exact hrejected

theorem orFail {parse : Parse (Option α)} (failure : Failure)
    (hparse : Flags settings (fun raised value? => ∀ value ∈ value?, P raised value) parse) :
    Flags settings P (orFail parse failure) := by
  unfold Parse.orFail
  apply hparse.bind
  intro value?
  cases value? with
  | none => exact throw failure
  | some value =>
      apply pure
      intro raised hvalue
      rw [Bool.or_false]
      exact hvalue value rfl

theorem attempt [Respects KeepsReports parse] [Respects KeepsFlag parse]
    (hparse : Flags settings P parse) :
    Flags settings (fun raised result => ∀ value, result = .ok value → P raised value)
      (attempt parse) where
  keeps hrun := KeepsReports.faults (Respects.ok hrun)
  flags {state result next} hrun hfaults := by
    cases hfirst : parse settings state with
    | ok value middle =>
        rw [attempt_of_ok hfirst] at hrun
        cases hrun
        obtain ⟨raised, hraised, hvalue⟩ := hparse.flags hfirst hfaults
        refine ⟨raised, hraised, ?_⟩
        rintro found ⟨⟩
        exact hvalue
    | error failure middle =>
        rw [attempt_of_error hfirst] at hrun
        cases hrun
        -- What a failed parse has raised is only known not to be lowered again.
        have hkept : KeepsFlag state next := Respects.error hfirst
        refine ⟨next.needsPrintf, ?_, fun value hvalue => by contradiction⟩
        cases hbefore : state.needsPrintf with
        | false => rfl
        | true => exact hkept hbefore

/-- Nothing relates a flag that was raised before a failure to a value. -/
theorem attempt_bind {continued : Except Failure α → Parse β} [Respects KeepsReports parse]
    [Respects KeepsFlag parse] (hparse : Flags settings P parse)
    (hok : ∀ value, Flags settings
      (fun later result => ∀ raised, P raised value → Q (raised || later) result)
      (continued (.ok value)))
    (herror : ∀ failure, Flags settings (fun later result => ∀ raised, Q (raised || later) result)
      (continued (.error failure))) :
    Flags settings Q (Parse.attempt parse >>= continued) := by
  apply hparse.attempt.bind
  intro result
  cases result with
  | ok value =>
      apply (hok value).imp
      intro later result hresult raised hvalue
      exact hresult raised (hvalue value rfl)
  | error failure =>
      apply (herror failure).imp
      intro later result hresult raised _
      exact hresult raised

/-- A recovery reports a fault, and what follows it is not considered. -/
theorem recoverPast_bind {delimiter : TokenKind} {failure : Failure} {continued : Unit → Parse β}
    [Respects KeepsReports (continued ⟨⟩)] :
    Flags settings Q (recoverPast delimiter failure >>= continued) where
  keeps {state _ _} hrun := by
    have htraces : Traces settings state (fun _ _ => False)
        (recoverPast delimiter failure >>= continued) := .recoverPast_bind
    exact htraces.keeps hrun
  flags {state _ _} hrun hfaults := by
    have htraces : Traces settings state (fun _ _ => False)
        (recoverPast delimiter failure >>= continued) := .recoverPast_bind
    obtain ⟨-, -, hfalse⟩ := htraces.reads hrun hfaults
    exact hfalse.elim

theorem bracket {before after : ParseState → ParseState}
    (hbefore : ∀ state, (before state).journal = state.journal ∧
      (before state).needsPrintf = state.needsPrintf)
    (hafter : ∀ state, (after state).journal = state.journal ∧
      (after state).needsPrintf = state.needsPrintf)
    (hparse : Flags settings P parse) : Flags settings P (bracket before after parse) where
  keeps {state _ _} hrun := by
    obtain ⟨middle, hparsed, rfl⟩ := bracket_eq_ok.1 hrun
    rw [(hafter middle).1, ← (hbefore state).1]
    exact hparse.keeps hparsed
  flags {state _ _} hrun hfaults := by
    obtain ⟨middle, hparsed, rfl⟩ := bracket_eq_ok.1 hrun
    rw [(hafter middle).1, ← (hbefore state).1] at hfaults
    rw [(hafter middle).2, ← (hbefore state).2]
    exact hparse.flags hparsed hfaults

end Flags

theorem Tells.orFail {tell : α → Bool} {parse : Parse (Option α)} (failure : Failure)
    (hparse : Tells settings (fun value? => value?.any tell) parse) :
    Tells settings tell (Parse.orFail parse failure) := by
  apply Flags.orFail
  apply hparse.imp
  rintro raised value? rfl value ⟨⟩
  rfl

namespace Unflagged

variable {parse : Parse α}

theorem of_run {value : Settings → ParseState → α} {change : Settings → ParseState → ParseState}
    (hrun : ∀ settings state,
      parse settings state = .ok (value settings state) (change settings state))
    (hchange : ∀ settings state, (change settings state).needsPrintf = state.needsPrintf) :
    Unflagged parse where
  leaves {settings state _ _} h := by
    rw [hrun] at h
    cases h
    exact hchange settings state

theorem bind {continued : α → Parse β} (hparse : Unflagged parse)
    (hcontinued : ∀ value, Unflagged (continued value)) : Unflagged (parse >>= continued) where
  leaves h := by
    obtain ⟨value, middle, hfirst, hsecond⟩ := bind_eq_ok.1 h
    exact ((hcontinued value).leaves hsecond).trans (hparse.leaves hfirst)

/-- A parse that changes its state beside the flag and then runs another one. -/
theorem of_step (hstep : ∀ settings state, ∃ (rest : Parse α) (changed : ParseState),
      parse settings state = rest settings changed ∧
        changed.needsPrintf = state.needsPrintf ∧ Unflagged rest) : Unflagged parse where
  leaves {settings state _ _} h := by
    obtain ⟨rest, changed, hrun, hchanged, hrest⟩ := hstep settings state
    rw [hrun] at h
    exact (hrest.leaves h).trans hchanged

end Unflagged

instance (value : α) : Unflagged (pure value : Parse α) := .of_run (fun _ _ => rfl) fun _ _ => rfl

instance : Unflagged (get : Parse ParseState) := .of_run (fun _ _ => rfl) fun _ _ => rfl

instance : Unflagged (read : Parse Settings) := .of_run (fun _ _ => rfl) fun _ _ => rfl

instance (failure : Failure) : Unflagged (throw failure : Parse α) where
  leaves h := by simp at h

instance (fault : Fault) (position : Position) :
    Unflagged (failAt fault position : Parse α) := by
  unfold failAt
  infer_instance

instance (parse : Parse α) (continued : α → Parse β) [Unflagged parse]
    [∀ value, Unflagged (continued value)] : Unflagged (parse >>= continued) :=
  .bind inferInstance inferInstance

instance (condition : Prop) [Decidable condition] (accepted rejected : Parse α)
    [Unflagged accepted] [Unflagged rejected] :
    Unflagged (if condition then accepted else rejected) := by
  split <;> infer_instance

/-! ## Elementary parses -/

instance : Unflagged current := .of_run (fun _ _ => rfl) fun _ _ => rfl

instance : Unflagged kind := .of_run (fun _ _ => rfl) fun _ _ => rfl

instance : Unflagged position := .of_run (fun _ _ => rfl) fun _ _ => rfl

instance : Unflagged remaining := .of_run (fun _ _ => rfl) fun _ _ => rfl

instance : Unflagged hasTokens := .of_run (fun _ _ => rfl) fun _ _ => rfl

instance : Unflagged advance := .of_run (fun _ _ => rfl) fun _ _ => rfl

instance (target : TokenKind) : Unflagged (skipTo target) :=
  .of_run (fun _ _ => rfl) fun _ _ => rfl

instance (event : Event) : Unflagged (note event) := .of_run (fun _ _ => rfl) fun _ _ => rfl

instance (diagnostic : Diagnostic) : Unflagged (record diagnostic) :=
  .of_run (fun _ _ => rfl) fun _ _ => rfl

instance (text : String) : Unflagged (intern text) := .of_run (fun _ _ => rfl) fun _ _ => rfl

instance (expected : TokenKind) : Unflagged (accept expected) := by
  unfold accept
  infer_instance

instance (expected : TokenKind) (failure : Failure) : Unflagged (expectOr expected failure) := by
  unfold expectOr
  infer_instance

instance (expected : TokenKind) : Unflagged (expect expected) := by
  unfold expect
  infer_instance

instance (target : TokenKind) : Unflagged (skipPast target) := by
  unfold skipPast resynchronize
  infer_instance

instance (misuse : Misuse) (position : Position) : Unflagged (reportMisuse misuse position) := by
  unfold reportMisuse
  infer_instance

instance (condition : Bool) (misuse : Misuse) (position : Position) :
    Unflagged (reportUnless condition misuse position) := by
  unfold reportUnless
  infer_instance

instance (name : String) (position : Position) : Unflagged (resolve name position) := by
  refine .of_step fun settings state => ?_
  cases hlookup : state.symbols.lookup? name with
  | some symbol => exact ⟨pure symbol, state, resolve_found hlookup, rfl, inferInstance⟩
  | none => exact ⟨_, _, resolve_planted hlookup, rfl, inferInstance⟩

instance (symbol : Symbol) : Unflagged (acceptsSubscript symbol) := by
  unfold acceptsSubscript
  infer_instance

instance (symbol : Symbol) (span : Span) : Unflagged (rejectSubscript symbol span) := by
  unfold rejectSubscript
  infer_instance

instance (check : CallCheck) (callee : Symbol) (count : Nat) (opening stop : Position) :
    Unflagged (checkCount check callee count opening stop) := by
  unfold checkCount
  split <;> infer_instance

/-! ## Declarations -/

instance (expected : TokenKind) (expectation : Expectation) :
    Unflagged (expectFor expected expectation) := by
  unfold expectFor
  infer_instance

instance : Unflagged typeSpecifier := by
  unfold typeSpecifier
  refine .bind inferInstance fun token => ?_
  split <;> infer_instance

instance (element : Ty) (position : Position) : Unflagged (arrayType element position) := by
  unfold arrayType
  split <;> infer_instance

instance (base : Ty) (name : Token) : Unflagged (declaredType base name) := by
  unfold declaredType
  refine .bind inferInstance fun bracketed => ?_
  split
  · refine .bind inferInstance fun ty => .bind inferInstance fun kind => ?_
    split
    · refine .bind inferInstance fun token => ?_
      split <;> infer_instance
    · infer_instance
  · infer_instance

instance (name : Token) (declared : Except Symbol SymbolTable) :
    Unflagged (adopt name declared) := by
  cases declared with
  | ok symbols => exact .of_run (fun _ _ => rfl) fun _ _ => rfl
  | error existing =>
      unfold adopt
      infer_instance

instance (name : Token) (ty : Ty) : Unflagged (declareVariable name ty) := by
  unfold declareVariable
  infer_instance

instance (name : Token) (signature : Signature) : Unflagged (declareFunction name signature) := by
  unfold declareFunction
  infer_instance

instance (base : Ty) : Unflagged (parameter base) := by
  unfold parameter
  infer_instance

instance (isFirst : Bool) (budget : Nat) : Unflagged (parametersFrom isFirst budget) := by
  induction budget generalizing isFirst with
  | zero =>
      unfold parametersFrom
      infer_instance
  | succ budget ih =>
      unfold parametersFrom
      refine .bind inferInstance fun base => .bind inferInstance fun kind => ?_
      infer_instance

instance : Unflagged parameters := by
  unfold parameters
  infer_instance

instance (ty? : Option Ty) : Unflagged (setReturnType ty?) :=
  .of_run (fun _ _ => rfl) fun _ _ => rfl

end SubsetC.Parse
