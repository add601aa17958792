import RackManagement.Model.JobTracker

/-!
# Reservation of the nodes of a cold reboot

The part of `handle_execute_cold_reboot` that reserves the nodes of the device list, all or none.
-/

namespace RackManagement.ColdReboot

structure NodeReservation where
  rackId : String
  nodeId : String
  inputs : CreateInputs

/-- What the drop of an unfinished handle reads: whether its job was cancelled, and the clock. -/
structure DropInputs where
  cancelled : Bool
  now : Instant

section

variable (D : JobDomain)

def createJobIfNodeIdle (r : JobRegistry) (node : NodeReservation) :
    Option (Except JobFailure JobSnapshot × JobRegistry) :=
  let request := JobRequest.jobIfNodeIdle node.rackId node.nodeId
  r.createJobWithScopes D request.spec request.parentJobId request.requireNodeIdle request.scopes
    node.inputs

def removeQueuedJobs (r : JobRegistry) (reservationIds : List JobId) : JobRegistry :=
  reservationIds.foldl (fun r jobId => (r.removeQueuedLeaf jobId).2) r

def dropHandle (dropped : JobId → DropInputs) (r : JobRegistry) (jobId : JobId) : JobRegistry :=
  let call := HandleCall.drop (dropped jobId).cancelled
  (r.update jobId (call.mark D none).transition (dropped jobId).now).2

/-- Reserves the nodes in order. `none` means that a call does not return. -/
def reserveNodes (dropped : JobId → DropInputs) :
    List NodeReservation → (reservationIds : List JobId) → JobRegistry →
      Option (Except JobFailure (List JobId) × JobRegistry)
  | [], reservationIds, r => some (.ok reservationIds, r)
  | node :: nodes, reservationIds, r =>
    match createJobIfNodeIdle D r node with
    | none => none
    | some (.ok record, r) => reserveNodes dropped nodes (reservationIds ++ [record.jobId]) r
    | some (.error failure, r) =>
      -- the reservations are removed first; the handles are dropped at the return
      let r := removeQueuedJobs r reservationIds
      some (.error failure, reservationIds.foldl (dropHandle D dropped) r)

end

end RackManagement.ColdReboot
