/-!
Contract: results that may be faults.

Owns:
- equality of results is decided by that of values and faults;
- a chain of two steps succeeds exactly if both steps do, and what it does to a state; a function
  of a result succeeds exactly if there is one;
- results of which every fault has a property, and how steps pass the property on.

Does not own: which faults there are.
-/

namespace LiveGrid

variable {Fault First Second : Type}

instance decidableEqExcept [DecidableEq Fault] [DecidableEq First] :
    DecidableEq (Except Fault First)
  | .ok value, .ok other => decidable_of_iff (value = other) (by simp)
  | .error fault, .error other => decidable_of_iff (fault = other) (by simp)
  | .ok _, .error _ => isFalse (by simp)
  | .error _, .ok _ => isFalse (by simp)

theorem bind_eq_ok_iff {result : Except Fault First} {next : First → Except Fault Second}
    {value : Second} :
    (result >>= next) = .ok value ↔ ∃ first, result = .ok first ∧ next first = .ok value := by
  cases result with
  | ok first => simp [bind, Except.bind]
  | error fault => simp [bind, Except.bind]

theorem map_eq_ok_iff {result : Except Fault First} {function : First → Second} {value : Second} :
    result.map function = .ok value ↔ ∃ first, result = .ok first ∧ function first = value := by
  cases result with
  | ok first => simp [Except.map]
  | error fault => simp [Except.map]

/-- A chain of two actions on a state ends with the fault of the first one, if that has one. -/
theorem bind_apply {State : Type} (action : ExceptT Fault (StateM State) First)
    (next : First → ExceptT Fault (StateM State) Second) (state : State) :
    (action >>= next) state =
      match action state with
      | (.ok value, after) => next value after
      | (.error fault, after) => (.error fault, after) := by
  change (ExceptT.bindCont next (action state).1) (action state).2 = _
  rcases action state with ⟨_ | _, _⟩ <;> rfl

section Chains

variable {State : Type} {action : ExceptT Fault (StateM State) First}
  {next : First → ExceptT Fault (StateM State) Second} {state : State}

theorem bind_apply_of_ok {value : First} (succeeded : (action state).1 = .ok value) :
    (action >>= next) state = next value (action state).2 := by
  rw [bind_apply]
  generalize action state = outcome at succeeded ⊢
  obtain ⟨result, after⟩ := outcome
  obtain rfl : result = .ok value := succeeded
  rfl

theorem bind_apply_of_error {fault : Fault} (failed : (action state).1 = .error fault) :
    (action >>= next) state = (.error fault, (action state).2) := by
  rw [bind_apply]
  generalize action state = outcome at failed ⊢
  obtain ⟨result, after⟩ := outcome
  obtain rfl : result = .error fault := failed
  rfl

end Chains

/-- If the result is a fault, it has the property. -/
def FaultsSatisfy (property : Fault → Prop) (result : Except Fault First) : Prop :=
  ∀ fault, result = .error fault → property fault

namespace FaultsSatisfy

variable {property : Fault → Prop}

@[simp] theorem ok {value : First} :
    FaultsSatisfy property (.ok value : Except Fault First) := by
  intro fault failed
  cases failed

@[simp] theorem pure {value : First} :
    FaultsSatisfy property (Pure.pure value : Except Fault First) := ok

@[simp] theorem error_iff {fault : Fault} :
    FaultsSatisfy property (.error fault : Except Fault First) ↔ property fault := by
  constructor
  · exact fun satisfied => satisfied fault rfl
  · rintro satisfied _ ⟨rfl⟩
    exact satisfied

@[simp] theorem throw_iff {fault : Fault} :
    FaultsSatisfy property (throw fault : Except Fault First) ↔ property fault := error_iff

@[simp] theorem bind_iff {result : Except Fault First} {next : First → Except Fault Second} :
    FaultsSatisfy property (result >>= next) ↔
      FaultsSatisfy property result ∧
        ∀ value, result = .ok value → FaultsSatisfy property (next value) := by
  cases result with
  | ok value =>
      have step : (Except.ok value >>= next) = next value := rfl
      simp [step]
  | error fault =>
      have step : (Except.error fault >>= next) = .error fault := rfl
      simp [step]

@[simp] theorem ite_iff {condition : Prop} [Decidable condition]
    {first second : Except Fault First} :
    FaultsSatisfy property (if condition then first else second) ↔
      (condition → FaultsSatisfy property first) ∧
        (¬ condition → FaultsSatisfy property second) := by
  split <;> simp [*]

@[simp] theorem map_iff {result : Except Fault First} {function : First → Second} :
    FaultsSatisfy property (result.map function) ↔ FaultsSatisfy property result := by
  cases result with
  | ok value => simp [Except.map]
  | error fault => simp [Except.map]

@[simp] theorem functorMap_iff {result : Except Fault First} {function : First → Second} :
    FaultsSatisfy property (function <$> result) ↔ FaultsSatisfy property result := map_iff

end FaultsSatisfy

end LiveGrid
