import Mathlib.Data.Finset.Basic
import Mathlib.Data.String.Basic
import RackManagement.Library.SortedKeys
import RackManagement.Library.Text
import RackManagement.Model.RmsError

/-!
# Fabric operations and activation proofs

The registry of `orchestrator/fabric_operation.rs`. A call holds the lock throughout.
-/

namespace RackManagement

open Library

structure ControllerIdentity where
  chassisSerialNumber : String
  trayIndex : UInt32
deriving DecidableEq

structure FabricOperationIntent where
  scopeKeys : List String
  ruleId : String
deriving DecidableEq

structure FabricOperation where
  jobId : String
  intent : FabricOperationIntent
  pendingControllers : Finset ControllerIdentity
deriving DecidableEq

/-- The digest that a controller has activated. -/
structure ActivationProof where
  controller : ControllerIdentity
  digest : String
  scopeKeys : List String
deriving DecidableEq

/-- Active and unresolved operations share capacity and are never evicted. -/
def maxOperations : Nat := 256

/-- The oldest proof becomes unknown when a new proof exceeds this capacity. -/
def maxActivationProofs : Nat := 1024

def isBlank (text : String) : Bool := trim text == ""

def FabricOperationIntent.normalize (intent : FabricOperationIntent) :
    Except RmsError FabricOperationIntent :=
  if intent.scopeKeys.isEmpty || intent.scopeKeys.any isBlank || isBlank intent.ruleId then
    .error (.invalidArgument "fabric operation requires scope keys and a rule identity")
  else .ok { intent with scopeKeys := sortDedup intent.scopeKeys }

/-- The operations by their jobs, and the proofs from the oldest to the newest. -/
structure FabricOperationRegistry where
  operations : FiniteMap String FabricOperation
  proofs : List ActivationProof

namespace FabricOperationRegistry

def empty : FabricOperationRegistry := ⟨∅, []⟩

def ownerChanged : RmsError := .failedPrecondition "fabric operation owner changed"

variable (s : FabricOperationRegistry)

/-- The pending controllers with which an admission starts, given the overlapping operation and the previous owner. -/
def admissionPending (intent : FabricOperationIntent)
    (previous : Option FabricOperation) (previousJobId : Option String) :
    Except RmsError (Finset ControllerIdentity) :=
  match previous, previousJobId with
  | none, none =>
    if s.operations.size ≥ maxOperations then
      .error (.failedPrecondition "fabric operation registry capacity reached")
    else .ok ∅
  | some operation, some previousJobId =>
    if operation.jobId ≠ previousJobId ∨ operation.intent.scopeKeys ≠ intent.scopeKeys ∨
        operation.intent.ruleId ≠ intent.ruleId then
      .error (.failedPrecondition "fabric operation owner, scope, or rule changed")
    else .ok operation.pendingControllers
  | some _, none => .error (.alreadyExists "fabric operation owns overlapping scope")
  | none, some _ => .error (.failedPrecondition "previous fabric operation is absent")

/-- Admits disjoint scope, or transfers the operation of an explicitly named job. -/
def admitOperation (intent : FabricOperationIntent) (jobId : String)
    (previousJobId : Option String) : Except RmsError FabricOperation × FabricOperationRegistry :=
  match intent.normalize with
  | .error error => (.error error, s)
  | .ok intent =>
    if isBlank jobId then (.error (.invalidArgument "fabric operation requires a job ID"), s)
    else if (s.operations.lookup jobId).isSome then
      (.error (.alreadyExists "fabric job already owns an operation"), s)
    else
      let overlapping := s.operations.valuesInOrder.filter (fun operation =>
        operation.intent.scopeKeys.any (fun key => (binarySearch intent.scopeKeys key).isOk))
      -- The source takes the first overlapping operation and refuses if there is a second.
      if 1 < overlapping.length then
        (.error (.alreadyExists "multiple fabric operations own overlapping scope"), s)
      else
        match s.admissionPending intent overlapping.head? previousJobId with
        | .error error => (.error error, s)
        | .ok pendingControllers =>
          let operation := ⟨jobId, intent, pendingControllers⟩
          let operations :=
            match previousJobId with
            | some previousJobId => s.operations.erase previousJobId
            | none => s.operations
          (.ok operation, { s with operations := operations.insert jobId operation })

variable (jobId : String)

def markPending (controllers : List ControllerIdentity) :
    Except RmsError Unit × FabricOperationRegistry :=
  match s.operations.lookup jobId with
  | none => (.error ownerChanged, s)
  | some operation =>
    if s.operations.valuesInOrder.any (fun other => other.jobId != jobId &&
        controllers.any (fun controller => controller ∈ other.pendingControllers)) then
      (.error (.alreadyExists "controller activation is pending under another fabric operation"), s)
    else
      let pendingControllers := operation.pendingControllers ∪ controllers.toFinset
      (.ok (),
        { operations :=
          s.operations.insert jobId { operation with pendingControllers := pendingControllers }
          proofs := s.proofs.filter (fun proof => !controllers.contains proof.controller) })

def clearInactive (controller : ControllerIdentity) :
    Except RmsError Unit × FabricOperationRegistry :=
  match s.operations.lookup jobId with
  | none => (.error ownerChanged, s)
  | some operation =>
    let pendingControllers := operation.pendingControllers.erase controller
    (.ok (), { s with
      operations := s.operations.insert jobId { operation with pendingControllers := pendingControllers } })

def hasActivationProof (controller : ControllerIdentity) (digest : String) : Bool :=
  s.proofs.any (fun proof => proof.controller == controller && proof.digest == digest)

/-- A proof replaces the controller's own, and beyond the capacity the oldest goes. -/
def publishProof (proofs : List ActivationProof) (proof : ActivationProof) : List ActivationProof :=
  let proofs := proofs.filter (fun other => other.controller != proof.controller) ++ [proof]
  if proofs.length > maxActivationProofs then proofs.tail else proofs

def recordActivation (controller : ControllerIdentity)
    (digest : String) (scopeKeys : List String) : Except RmsError Unit × FabricOperationRegistry :=
  if isBlank digest || scopeKeys.isEmpty || scopeKeys.any isBlank then
    (.error (.invalidArgument "activation proof requires a digest and scope aliases"), s)
  else
    let scopeKeys := sortDedup scopeKeys
    match s.operations.lookup jobId with
    | none => (.error ownerChanged, s)
    | some operation =>
      if !scopeKeys.any (fun key => (binarySearch operation.intent.scopeKeys key).isOk) then
        (.error (.failedPrecondition "activation proof does not overlap the owned scope"), s)
      else if controller ∉ operation.pendingControllers then
        (.error (.failedPrecondition "controller activation is not pending for the current owner"), s)
      else
        let pendingControllers := operation.pendingControllers.erase controller
        (.ok (),
          { operations :=
            s.operations.insert jobId { operation with pendingControllers := pendingControllers }
            proofs := publishProof s.proofs ⟨controller, digest, scopeKeys⟩ })

def finish : Except RmsError Unit × FabricOperationRegistry :=
  match s.operations.lookup jobId with
  | none => (.error ownerChanged, s)
  | some operation =>
    if operation.pendingControllers ≠ ∅ then
      (.error (.failedPrecondition "controller activation remains pending"), s)
    else (.ok (), { s with operations := s.operations.erase jobId })

def releaseFailed : Except RmsError Unit × FabricOperationRegistry :=
  match s.operations.lookup jobId with
  | none => (.error ownerChanged, s)
  | some operation =>
    (.ok (),
      { operations := s.operations.erase jobId
        proofs := s.proofs.filter (fun proof => proof.controller ∉ operation.pendingControllers) })

/-- Rejects overlap with an operation, then removes the proofs sharing any key. -/
def invalidateAndRequireClear (scopeKeys : List String) :
    Except RmsError Unit × FabricOperationRegistry :=
  if scopeKeys.isEmpty || scopeKeys.any isBlank then
    (.error (.invalidArgument "fabric invalidation requires nonempty scope aliases"), s)
  else if s.operations.valuesInOrder.any (fun operation =>
      operation.intent.scopeKeys.any (fun key => scopeKeys.contains key)) then
    (.error (.alreadyExists "fabric operation owns external mutation scope"), s)
  else
    let proofs := s.proofs.filter (fun proof => !proof.scopeKeys.any (fun key => scopeKeys.contains key))
    (.ok (), { s with proofs := proofs })

end FabricOperationRegistry

/-- The calls that change the registry. -/
inductive FabricCall
  | admitOperation (intent : FabricOperationIntent) (jobId : String) (previousJobId : Option String)
  | markPending (jobId : String) (controllers : List ControllerIdentity)
  | clearInactive (jobId : String) (controller : ControllerIdentity)
  | recordActivation (jobId : String) (controller : ControllerIdentity) (digest : String)
      (scopeKeys : List String)
  | finish (jobId : String)
  | releaseFailed (jobId : String)
  | invalidateAndRequireClear (scopeKeys : List String)

namespace FabricOperationRegistry

variable (s : FabricOperationRegistry)

def call : FabricCall → Except RmsError Unit × FabricOperationRegistry
  | .admitOperation intent jobId previousJobId =>
    let (outcome, s) := s.admitOperation intent jobId previousJobId
    (outcome.map (fun _ => ()), s)
  | .markPending jobId controllers => s.markPending jobId controllers
  | .clearInactive jobId controller => s.clearInactive jobId controller
  | .recordActivation jobId controller digest scopeKeys =>
    s.recordActivation jobId controller digest scopeKeys
  | .finish jobId => s.finish jobId
  | .releaseFailed jobId => s.releaseFailed jobId
  | .invalidateAndRequireClear scopeKeys => s.invalidateAndRequireClear scopeKeys

def apply (c : FabricCall) : FabricOperationRegistry := (s.call c).2

def succeeds (c : FabricCall) : Bool := (s.call c).1.isOk

/-- The registry that a list of calls leaves. -/
def after (calls : List FabricCall) : FabricOperationRegistry := calls.foldl apply empty

end FabricOperationRegistry

end RackManagement
