import LiveGrid.Proofs.Script.Evaluation
import LiveGrid.Proofs.Script.Simulation

/-!
Contract: the operations that an evaluation performs.

Owns:
- evaluations that record their operations, and that recording changes nothing else;
- the operations of a tree for the inputs of a cell;
- a fault that an operation can have is one of the last operation.

Does not own: what any operation gives.
-/

namespace LiveGrid.Script

open Evaluation

/-! ## Records of operations -/

/-- Evaluation with the operations that it performs, in their order. -/
def Recorded (Result : Type) : Type :=
  RandomStream → (Except Fault Result × RandomStream) × List Operation

namespace Recorded

instance : Monad Recorded where
  pure value := fun stream => ((.ok value, stream), [])
  bind action next := fun stream =>
    match action stream with
    | ((.ok value, after), earlier) =>
        ((next value after).1, earlier ++ (next value after).2)
    | ((.error fault, after), earlier) => ((.error fault, after), earlier)

theorem bind_apply {First Second : Type} {action : Recorded First}
    {next : First → Recorded Second} {stream : RandomStream} :
    (action >>= next) stream =
      match action stream with
      | ((.ok value, after), earlier) =>
          ((next value after).1, earlier ++ (next value after).2)
      | ((.error fault, after), earlier) => ((.error fault, after), earlier) := rfl

end Recorded

/-- Evaluation as cells run it, with a record of every operation. -/
def Reading.recorded : Reading Recorded where
  embed action := fun stream => (action stream, [])
  perform operation := fun stream => (operation.perform stream, [operation])

/-- A recorded evaluation of a tree for the inputs of a cell, up to the double of the cell. -/
def recordedTree (tree : List Statement) (inputs : Inputs) : Recorded Value := do
  let result ← Reading.recorded.tree inputs tree
  Reading.recorded.perform (.toCell result)

/-- The operations that a cell of a tree performs, in their order. -/
def operations (tree : List Statement) (inputs : Inputs) (stream : RandomStream) :
    List Operation :=
  (recordedTree tree inputs stream).2

theorem mem_operations_of_mem_tree {tree : List Statement} {inputs : Inputs}
    {stream : RandomStream} {operation : Operation}
    (member : operation ∈ (Reading.recorded.tree inputs tree stream).2) :
    operation ∈ operations tree inputs stream := by
  rw [operations, recordedTree, Recorded.bind_apply]
  generalize Reading.recorded.tree inputs tree stream = record at member ⊢
  rcases record with ⟨⟨fault | value, after⟩, earlier⟩
  · exact member
  · exact List.mem_append_left _ member

/-! ## What is recorded -/

/-- A fault that an operation can have. -/
def Operation.Raises (operation : Operation) (fault : Fault) : Prop :=
  ∃ stream, (operation.perform stream).1 = .error fault

/-- Faults that do not come from a name without a value or a node outside the language. -/
def Fault.IsRaised (fault : Fault) : Prop :=
  fault.className ≠ "NameError" ∧ fault.className ≠ "NotImplementedError"

/-- A recorded evaluation does what the evaluation does, and a fault of an operation is one of the
last operation in the record. -/
def Records {Result : Type} (recorded : Recorded Result) (action : Evaluation Result) : Prop :=
  ∀ stream, (recorded stream).1 = action stream ∧
    ∀ fault, (action stream).1 = .error fault → fault.IsRaised →
      ∃ operation, (recorded stream).2.getLast? = some operation ∧ operation.Raises fault

namespace Records

variable {First Second : Type} {recorded : Recorded First} {action : Evaluation First}

protected theorem pure {value : First} : Records (pure value) (pure value) :=
  fun _ => ⟨rfl, fun _ failed => by cases failed⟩

/-- A fault of the first part ends the record; else the last operation is one of the second part. -/
protected theorem bind {next : First → Recorded Second} {nextAction : First → Evaluation Second}
    (first : Records recorded action) (second : ∀ value, Records (next value) (nextAction value)) :
    Records (recorded >>= next) (action >>= nextAction) := by
  intro stream
  obtain ⟨same, raised⟩ := first stream
  rw [LiveGrid.bind_apply, Recorded.bind_apply]
  generalize recorded stream = record, action stream = outcome at same raised ⊢
  obtain ⟨recordedOutcome, earlier⟩ := record
  obtain rfl : recordedOutcome = outcome := same
  rcases recordedOutcome with ⟨fault | value, after⟩
  · refine ⟨rfl, fun failedFault failed isRaised => ?_⟩
    cases failed
    exact raised fault rfl isRaised
  · obtain ⟨sameSecond, raisedSecond⟩ := second value after
    refine ⟨sameSecond, fun fault failed isRaised => ?_⟩
    obtain ⟨operation, isLast, raises⟩ := raisedSecond fault failed isRaised
    refine ⟨operation, ?_, raises⟩
    rw [List.getLast?_append, isLast, Option.some_or]

theorem embed {action : Evaluation First}
    (quiet : Ensures (fun fault => ¬ fault.IsRaised) (fun _ => True) action) :
    Records (Reading.recorded.embed action) action := by
  refine fun stream => ⟨rfl, fun fault failed isRaised => absurd isRaised ?_⟩
  exact quiet.of_error (Prod.ext failed rfl)

theorem perform {operation : Operation} :
    Records (Reading.recorded.perform operation) operation.perform :=
  fun stream => ⟨rfl, fun _ failed _ => ⟨operation, rfl, stream, failed⟩⟩

end Records

theorem Fault.not_isRaised_foreignNode {nodeName : String} :
    ¬ (Fault.foreignNode nodeName).IsRaised := fun isRaised => isRaised.2 rfl

theorem simulates_recorded : Reading.recorded.Simulates Reading.plain Records where
  pure _ := Records.pure
  bind := Records.bind
  literal value := by
    cases value with
    | whole value | real value | truth value => exact Records.embed (Ensures.pure trivial)
    | _ => exact Records.embed (Ensures.throw Fault.not_isRaised_foreignNode)
  readName scope name := by
    refine Records.embed ?_
    unfold readName
    split
    · exact Ensures.pure trivial
    · exact Ensures.throw fun isRaised => isRaised.1 rfl
  foreign nodeName := Records.embed (Ensures.throw Fault.not_isRaised_foreignNode)
  perform _ := Records.perform

theorem error_of_meaning {tree : List Statement} {inputs : Inputs} {stream : RandomStream}
    {fault : Fault} (failed : (meaning tree inputs stream).1 = .error fault) :
    ((Reading.plain.tree inputs tree >>= fun result => Operation.perform (.toCell result))
      stream).1 = .error fault := by
  rw [meaning, bind_apply] at failed
  rw [bind_apply]
  generalize Reading.plain.tree inputs tree stream = outcome at failed ⊢
  rcases outcome with ⟨resultFault | result, after⟩
  · cases failed
    rfl
  · have cellFailed : result.toCell = .error fault := failed
    show result.toCell.map _ = .error fault
    rw [cellFailed]
    rfl

/-- The fault of a cell is one of its last operation, unless a name or a node has no value. -/
theorem exists_last_operation {tree : List Statement} {inputs : Inputs} {stream : RandomStream}
    {fault : Fault} (failed : (meaning tree inputs stream).1 = .error fault)
    (isRaised : fault.IsRaised) :
    ∃ operation, (operations tree inputs stream).getLast? = some operation ∧
      operation.Raises fault := by
  have records : Records (recordedTree tree inputs)
      (Reading.plain.tree inputs tree >>= fun result => Operation.perform (.toCell result)) :=
    simulates_recorded.tree.bind fun _ => Records.perform
  exact (records stream).2 fault (error_of_meaning failed) isRaised

end LiveGrid.Script
