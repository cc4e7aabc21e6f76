import LiveGrid.Proofs.Script.Faults

/-!
Contract: reasoning about evaluation step by step.

Owns:
- triples: every fault and every result of an evaluation has a property, whatever
  random numbers are drawn;
- pairs: two evaluations fail alike, or succeed with related results;
- the rules of triples and pairs for the ways in which evaluations are built.

Does not own: what any expression evaluates to.
-/

namespace LiveGrid.Script.Evaluation

variable {First Second : Type}

/-! ## Triples -/

/-- Every fault of an evaluation has one property, and every result another. -/
def Ensures (onFault : Fault → Prop) (onResult : First → Prop) (action : Evaluation First) :
    Prop :=
  ∀ stream, match (action stream).1 with
    | .ok value => onResult value
    | .error fault => onFault fault

namespace Ensures

variable {onFault : Fault → Prop} {onFirst : First → Prop} {onSecond : Second → Prop}

protected theorem true {action : Evaluation First} :
    Ensures (fun _ => True) (fun _ => True) action := by
  intro stream
  split <;> trivial

protected theorem pure {value : First} (holds : onFirst value) :
    Ensures onFault onFirst (pure value) := fun _ => holds

protected theorem throw {fault : Fault} (holds : onFault fault) :
    Ensures onFault onFirst (throw fault) := fun _ => holds

protected theorem bind {action : Evaluation First} {next : First → Evaluation Second}
    (first : Ensures onFault onFirst action)
    (second : ∀ value, onFirst value → Ensures onFault onSecond (next value)) :
    Ensures onFault onSecond (action >>= next) := by
  intro stream
  have firstHolds := first stream
  rw [bind_apply]
  generalize action stream = outcome at firstHolds ⊢
  rcases outcome with ⟨fault | value, after⟩
  · exact firstHolds
  · exact second value firstHolds after

theorem ofExcept {result : Except Fault First} (faults : FaultsSatisfy onFault result)
    (results : ∀ value, result = .ok value → onFirst value) :
    Ensures onFault onFirst (Evaluation.ofExcept result) := by
  intro stream
  cases result with
  | ok value => exact results value rfl
  | error fault => exact faults fault rfl

protected theorem imp {action : Evaluation First} {onOtherFault : Fault → Prop}
    {onOther : First → Prop} (faults : ∀ {fault}, onFault fault → onOtherFault fault)
    (results : ∀ {value}, onFirst value → onOther value)
    (ensures : Ensures onFault onFirst action) : Ensures onOtherFault onOther action := by
  intro stream
  have holds := ensures stream
  generalize action stream = outcome at holds ⊢
  rcases outcome with ⟨fault | value, after⟩
  · exact faults holds
  · exact results holds

protected theorem and {action : Evaluation First} {onOtherFault : Fault → Prop}
    {onOther : First → Prop} (ensures : Ensures onFault onFirst action)
    (ensuresOther : Ensures onOtherFault onOther action) :
    Ensures (fun fault => onFault fault ∧ onOtherFault fault)
      (fun value => onFirst value ∧ onOther value) action := by
  intro stream
  have holds := ensures stream
  have holdsOther := ensuresOther stream
  generalize action stream = outcome at holds holdsOther ⊢
  rcases outcome with ⟨fault | value, after⟩
  · exact ⟨holds, holdsOther⟩
  · exact ⟨holds, holdsOther⟩

/-- An evaluation without possible faults gives a result. -/
theorem exists_ok {action : Evaluation First} (ensures : Ensures (fun _ => False) onFirst action)
    (stream : RandomStream) :
    ∃ value after, action stream = (.ok value, after) ∧ onFirst value := by
  have holds := ensures stream
  generalize action stream = outcome at holds ⊢
  rcases outcome with ⟨fault | value, after⟩
  · exact holds.elim
  · exact ⟨value, after, rfl, holds⟩

theorem of_ok {action : Evaluation First} (ensures : Ensures onFault onFirst action)
    {stream after : RandomStream} {value : First} (success : action stream = (.ok value, after)) :
    onFirst value := by
  have holds := ensures stream
  rw [success] at holds
  exact holds

theorem of_error {action : Evaluation First} (ensures : Ensures onFault onFirst action)
    {stream after : RandomStream} {fault : Fault}
    (failure : action stream = (.error fault, after)) : onFault fault := by
  have holds := ensures stream
  rw [failure] at holds
  exact holds

end Ensures

/-! ## Pairs -/

/-- Faults that are related, or results that are; in both cases the same random numbers are left. -/
inductive Matches (onFault : Fault → Fault → Prop) (onResult : First → Second → Prop) :
    Except Fault First × RandomStream → Except Fault Second × RandomStream → Prop where
  | ok {value : First} {other : Second} {after : RandomStream} (related : onResult value other) :
      Matches onFault onResult (.ok value, after) (.ok other, after)
  | error {fault other : Fault} {after : RandomStream} (related : onFault fault other) :
      Matches onFault onResult (.error fault, after) (.error other, after)

/-- Two evaluations always end alike, with related faults or with related results. -/
def Relates (onFault : Fault → Fault → Prop) (onResult : First → Second → Prop)
    (action : Evaluation First) (other : Evaluation Second) : Prop :=
  ∀ stream, Matches onFault onResult (action stream) (other stream)

namespace Relates

variable {Third Fourth : Type} {onFault : Fault → Fault → Prop} {onFirst : First → Second → Prop}
  {onSecond : Third → Fourth → Prop} {action : Evaluation First} {other : Evaluation Second}

protected theorem pure {value : First} {otherValue : Second} (related : onFirst value otherValue) :
    Relates onFault onFirst (pure value) (pure otherValue) := fun _ => .ok related

protected theorem refl (sameFault : ∀ fault, onFault fault fault) :
    Relates onFault Eq action action := by
  intro stream
  rcases action stream with ⟨fault | value, after⟩
  · exact .error (sameFault fault)
  · exact .ok rfl

protected theorem bind {next : First → Evaluation Third} {otherNext : Second → Evaluation Fourth}
    (first : Relates onFault onFirst action other)
    (second : ∀ value otherValue, onFirst value otherValue →
      Relates onFault onSecond (next value) (otherNext otherValue)) :
    Relates onFault onSecond (action >>= next) (other >>= otherNext) := by
  intro stream
  have firstMatches := first stream
  rw [bind_apply, bind_apply]
  generalize action stream = outcome, other stream = otherOutcome at firstMatches ⊢
  cases firstMatches with
  | ok related => exact second _ _ related _
  | error related => exact .error related

/-- The same evaluation goes on in two ways. -/
theorem bind_same (sameFault : ∀ fault, onFault fault fault) {next : First → Evaluation Third}
    {otherNext : First → Evaluation Fourth}
    (second : ∀ value, Relates onFault onSecond (next value) (otherNext value)) :
    Relates onFault onSecond (action >>= next) (action >>= otherNext) := by
  refine (Relates.refl sameFault).bind fun value _ same => ?_
  rw [← same]
  exact second value

theorem eq {first second : Evaluation First} (relates : Relates Eq Eq first second) :
    first = second := by
  funext stream
  have outcomesMatch := relates stream
  generalize first stream = outcome, second stream = otherOutcome at outcomesMatch ⊢
  cases outcomesMatch with
  | ok same => rw [same]
  | error same => rw [same]

/-- What follows related evaluations is the same, if it is for related results. -/
theorem bind_eq {next : First → Evaluation Third} {otherNext : Second → Evaluation Third}
    (relates : Relates Eq onFirst action other)
    (same : ∀ value otherValue, onFirst value otherValue → next value = otherNext otherValue) :
    action >>= next = other >>= otherNext := by
  refine (relates.bind fun value otherValue related => ?_).eq
  rw [same value otherValue related]
  exact Relates.refl fun _ => rfl

theorem ok_left (relates : Relates onFault onFirst action other) {stream after : RandomStream}
    {otherValue : Second} (success : other stream = (.ok otherValue, after)) :
    ∃ value, action stream = (.ok value, after) ∧ onFirst value otherValue := by
  have outcomesMatch := relates stream
  rw [success] at outcomesMatch
  generalize action stream = outcome at outcomesMatch ⊢
  cases outcomesMatch with
  | ok related => exact ⟨_, rfl, related⟩

end Relates

end LiveGrid.Script.Evaluation
