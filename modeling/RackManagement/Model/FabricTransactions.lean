import RackManagement.Library.Transaction
import RackManagement.Model.FabricOperation

/-!
# The registry's calls, statement by statement

The bodies of the registry's calls, over a registry that keeps every write made before a failure.
-/

namespace RackManagement

open Library

abbrev FabricTransaction := EStateM RmsError FabricOperationRegistry

namespace FabricTransaction

open FabricOperationRegistry

variable (jobId : String)

def operationOf : FabricTransaction FabricOperation := do
  let s ← get
  okOr ownerChanged (s.operations.lookup jobId)

def writePending (f : Finset ControllerIdentity → Finset ControllerIdentity) :
    FabricTransaction Unit :=
  modify (fun s =>
    match s.operations.lookup jobId with
    | none => s
    | some operation =>
      { s with
        operations := s.operations.insert jobId
          { operation with pendingControllers := f operation.pendingControllers } })

def removeOperation : FabricTransaction Unit :=
  modify (fun s => { s with operations := s.operations.erase jobId })

def removePrevious : Option String → FabricTransaction Unit
  | some previousJobId => removeOperation previousJobId
  | none => pure ()

def insertOperation (operation : FabricOperation) : FabricTransaction Unit :=
  modify (fun s => { s with operations := s.operations.insert jobId operation })

def retainProofs (keep : ActivationProof → Bool) : FabricTransaction Unit :=
  modify (fun s => { s with proofs := s.proofs.filter keep })

def pushBackProof (proof : ActivationProof) : FabricTransaction Unit :=
  modify (fun s => { s with proofs := s.proofs ++ [proof] })

def evictOldestProof : FabricTransaction Unit :=
  modify (fun s => if s.proofs.length > maxActivationProofs then { s with proofs := s.proofs.tail } else s)

def admitOperation (intent : FabricOperationIntent) (jobId : String) (previousJobId : Option String) :
    FabricTransaction FabricOperation := do
  let intent ← fromExcept intent.normalize
  refuseIf (isBlank jobId) (.invalidArgument "fabric operation requires a job ID")
  let s ← get
  refuseIf (s.operations.lookup jobId).isSome (.alreadyExists "fabric job already owns an operation")
  let overlapping := s.operations.valuesInOrder.filter (fun operation =>
    operation.intent.scopeKeys.any (fun key => (binarySearch intent.scopeKeys key).isOk))
  let previous := overlapping.head?
  refuseIf overlapping.tail.head?.isSome (.alreadyExists "multiple fabric operations own overlapping scope")
  let pendingControllers ← fromExcept (s.admissionPending intent previous previousJobId)
  let operation : FabricOperation := ⟨jobId, intent, pendingControllers⟩
  removePrevious previousJobId
  insertOperation jobId operation
  return operation

def markPending (controllers : List ControllerIdentity) : FabricTransaction Unit := do
  let s ← get
  refuseIf (s.operations.lookup jobId).isNone ownerChanged
  refuseIf
    (s.operations.valuesInOrder.any (fun operation => operation.jobId != jobId &&
      controllers.any (fun controller => controller ∈ operation.pendingControllers)))
    (.alreadyExists "controller activation is pending under another fabric operation")
  let _ ← operationOf jobId
  writePending jobId (fun pending =>
    controllers.foldl (fun pending controller => insert controller pending) pending)
  retainProofs (fun proof => !controllers.contains proof.controller)

def clearInactive (controller : ControllerIdentity) : FabricTransaction Unit := do
  let _ ← operationOf jobId
  writePending jobId (fun pending => pending.erase controller)

def recordActivation (controller : ControllerIdentity) (digest : String)
    (scopeKeys : List String) : FabricTransaction Unit := do
  refuseIf (isBlank digest || scopeKeys.isEmpty || scopeKeys.any isBlank)
    (.invalidArgument "activation proof requires a digest and scope aliases")
  let scopeKeys := sortDedup scopeKeys
  let operation ← operationOf jobId
  refuseIf (!scopeKeys.any (fun key => (binarySearch operation.intent.scopeKeys key).isOk))
    (.failedPrecondition "activation proof does not overlap the owned scope")
  refuseIf (controller ∉ operation.pendingControllers)
    (.failedPrecondition "controller activation is not pending for the current owner")
  writePending jobId (fun pending => pending.erase controller)
  retainProofs (fun proof => proof.controller != controller)
  pushBackProof ⟨controller, digest, scopeKeys⟩
  evictOldestProof

def finish : FabricTransaction Unit := do
  let operation ← operationOf jobId
  refuseIf (operation.pendingControllers ≠ ∅) (.failedPrecondition "controller activation remains pending")
  removeOperation jobId

/-- `remove` has already run when it reports that there was no operation. -/
def releaseFailed : FabricTransaction Unit := do
  let s ← get
  removeOperation jobId
  let operation ← okOr ownerChanged (s.operations.lookup jobId)
  retainProofs (fun proof => proof.controller ∉ operation.pendingControllers)

def invalidateAndRequireClear (scopeKeys : List String) : FabricTransaction Unit := do
  refuseIf (scopeKeys.isEmpty || scopeKeys.any isBlank)
    (.invalidArgument "fabric invalidation requires nonempty scope aliases")
  let s ← get
  refuseIf
    (s.operations.valuesInOrder.any (fun operation =>
      operation.intent.scopeKeys.any (fun key => scopeKeys.contains key)))
    (.alreadyExists "fabric operation owns external mutation scope")
  retainProofs (fun proof => !proof.scopeKeys.any (fun key => scopeKeys.contains key))

end FabricTransaction

def FabricCall.transaction : FabricCall → FabricTransaction Unit
  | .admitOperation intent jobId previousJobId => do
    let _ ← FabricTransaction.admitOperation intent jobId previousJobId
  | .markPending jobId controllers => FabricTransaction.markPending jobId controllers
  | .clearInactive jobId controller => FabricTransaction.clearInactive jobId controller
  | .recordActivation jobId controller digest scopeKeys =>
    FabricTransaction.recordActivation jobId controller digest scopeKeys
  | .finish jobId => FabricTransaction.finish jobId
  | .releaseFailed jobId => FabricTransaction.releaseFailed jobId
  | .invalidateAndRequireClear scopeKeys => FabricTransaction.invalidateAndRequireClear scopeKeys

end RackManagement
