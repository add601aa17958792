import Mathlib.Data.Prod.Lex
import Mathlib.Data.String.Basic
import Mathlib.Order.WithBot
import RackManagement.Library.Interaction
import RackManagement.Library.Json
import RackManagement.Library.SortedKeys
import RackManagement.Library.Text
import RackManagement.Model.RmsError

/-!
# Certificate retention

The reclamation of room in the certificate stores of a switch: `mtls/retention.rs` and
`reclaim_certificate_store_capacity`. The environment answers for the switch, the cancellation token
and the clock.
-/

namespace RackManagement

open Library

inductive CertificateStore
  | entity | ca
deriving DecidableEq

namespace CertificateStore

def all : List CertificateStore := [.entity, .ca]

def asStr : CertificateStore → String
  | entity => "entity-certificate"
  | ca => "ca-certificate"

def collectionEndpoint : CertificateStore → String
  | entity => "/nvue_v1/system/security/certificate"
  | ca => "/nvue_v1/system/security/ca-certificate"

def entryEndpoint (store : CertificateStore) (id : String) : String := s!"{store.collectionEndpoint}/{id}"

end CertificateStore

def nvosCertificateStoreLimit : Nat := 25

def rmsCertificateIdStart : String := "rms-"

def isValidIdentifier (s : String) : Bool :=
  s ≠ "" && s.toList.all (fun c => c.isAlphanum || c = '-' || c = '_')

/-- A response; `excerpt` is what an error message shows of the body. -/
structure NvueResponse where
  status : Nat
  value : Json
  body : String
  excerpt : String
  jsonError : Option String

inductive TransportFailure
  | invalidEndpoint | timedOut | notConnected | notSent | notRead | tooLarge

inductive NvueReply
  | noClient
  | failed (failure : TransportFailure) (message : String)
  | received (response : NvueResponse)

def TransportFailure.code : TransportFailure → ErrorCode
  | invalidEndpoint => .invalidArgument
  | timedOut => .timeout
  | notConnected => .connectionRefused
  | notSent => .unavailable
  | notRead => .internal
  | tooLarge => .internal

def rmsHttpStatusCode (status : Nat) : ErrorCode :=
  if status = 401 then .unauthenticated
  else if status = 404 then .notFound
  else if status = 408 then .timeout
  else if status = 409 then .alreadyExists
  else if status = 503 then .unavailable
  else .internal

namespace NvueResponse

variable (response : NvueResponse)

def isSuccess : Bool := 200 ≤ response.status && response.status < 300

def isBlank : Bool := trim response.body = ""

def intoJson (method path : String) : Except RmsError Json :=
  if !response.isSuccess then
    .error ⟨rmsHttpStatusCode response.status,
      s!"HTTP {method} {path} returned {response.status}{response.excerpt}"⟩
  else
    match response.jsonError with
    | some message => .error (.internal s!"invalid JSON in NVUE {method} {path} response: {message}")
    | none => .ok response.value

end NvueResponse

namespace NvueReply

def result : NvueReply → Except RmsError NvueResponse
  | noClient => .error (.invalidArgument "host_endpoint is required for NVUE operations")
  | failed failure message => .error ⟨failure.code, message⟩
  | received response => .ok response

/-- `get_certificate_document`: a missing body is an error, never an empty document. -/
def certificateDocument (reply : NvueReply) (endpoint : String) : Except RmsError Json :=
  match reply.result with
  | .error error => .error error
  | .ok response =>
    if response.isSuccess && response.isBlank then
      .error (.internal s!"NVUE GET {endpoint} returned {response.status} without a body")
    else response.intoJson "GET" endpoint

def json (reply : NvueReply) (method path : String) : Except RmsError Json :=
  match reply.result with
  | .error error => .error error
  | .ok response => response.intoJson method path

end NvueReply

inductive ReportedUsage
  | none
  | services (names : List String)
  | unrecognized
deriving DecidableEq

namespace ReportedUsage

def ofServices (names : List String) : ReportedUsage := if names.isEmpty then none else services names

def installedField (fields : List (String × Json)) : Option Json :=
  (fields.lookup "installed").or (fields.lookup "[installed]")

def ofInstalled : Option Json → ReportedUsage
  | .none => ofServices []
  | some .null => ofServices []
  | some (.string service) => if service = "" then ofServices [] else ofServices [service]
  | some (.object names) => ofServices ((Json.entries names).map Prod.fst)
  | some (.array names) =>
    match names.mapM Json.asStr with
    | .none => unrecognized
    | some names => ofServices names
  | some _ => unrecognized

def fromEntry : Json → ReportedUsage
  | .null => none
  | .object fields => ofInstalled (installedField fields)
  | _ => unrecognized

end ReportedUsage

structure StoreInventory where
  entries : List (String × ReportedUsage)
  nodup : (entries.map Prod.fst).Nodup

namespace StoreInventory

def empty : StoreInventory := ⟨[], List.nodup_nil⟩

def ofFields (fields : List (String × Json)) : StoreInventory where
  entries := (Json.entries fields).map (fun field => (field.1, ReportedUsage.fromEntry field.2))
  nodup := by
    rw [List.map_map]
    exact Json.nodup_entries fields

def fromCollection (store : CertificateStore) : Json → Except RmsError StoreInventory
  | .null => .ok empty
  | .object fields => .ok (ofFields fields)
  | _ => .error (.internal s!"NVOS {store.asStr} store listing is not a JSON object")

def needsSpace (inventory : StoreInventory) (limit : Nat) : Bool := limit ≤ inventory.entries.length

end StoreInventory

structure CertificateInventory where
  entity : StoreInventory
  ca : StoreInventory

namespace CertificateInventory

def store (inventory : CertificateInventory) : CertificateStore → StoreInventory
  | .entity => inventory.entity
  | .ca => inventory.ca

def needsSpace (inventory : CertificateInventory) (limit : Nat) : Bool :=
  CertificateStore.all.any (fun store => (inventory.store store).needsSpace limit)

end CertificateInventory

inductive SwitchMtlsService
  | nvueApi | scaleUpFabricTelemetry | scaleUpFabricManager | scaleUpFabricTelemetryInterface
deriving DecidableEq

namespace SwitchMtlsService

def all : List SwitchMtlsService :=
  [.nvueApi, .scaleUpFabricTelemetry, .scaleUpFabricManager, .scaleUpFabricTelemetryInterface]

def asStr : SwitchMtlsService → String
  | nvueApi => "nvue-api"
  | scaleUpFabricTelemetry => "scale-up-fabric-telemetry"
  | scaleUpFabricManager => "scale-up-fabric-manager"
  | scaleUpFabricTelemetryInterface => "scale-up-fabric-telemetry-interface"

end SwitchMtlsService

structure UnreadableBinding where
  service : String
  reason : String

/-- The identifiers that services are bound to, and the services whose binding is unknown. -/
structure StoreBindings where
  bound : List (String × SwitchMtlsService) := []
  unreadable : List UnreadableBinding := []

namespace StoreBindings

def isBound (bindings : StoreBindings) (id : String) : Bool :=
  bindings.bound.any (fun entry => entry.1 = id)

def record (bindings : StoreBindings) (service : SwitchMtlsService) :
    Except String (List String) → StoreBindings
  | .ok ids => { bindings with bound := bindings.bound ++ ids.map (fun id => (id, service)) }
  | .error reason => { bindings with unreadable := bindings.unreadable ++ [⟨service.asStr, reason⟩] }

end StoreBindings

structure CertificateBindings where
  entity : StoreBindings := {}
  ca : StoreBindings := {}

namespace CertificateBindings

def store (bindings : CertificateBindings) : CertificateStore → StoreBindings
  | .entity => bindings.entity
  | .ca => bindings.ca

def record (bindings : CertificateBindings) (store : CertificateStore) (service : SwitchMtlsService)
    (read : Except String (List String)) : CertificateBindings :=
  match store with
  | .entity => { bindings with entity := bindings.entity.record service read }
  | .ca => { bindings with ca := bindings.ca.record service read }

end CertificateBindings

/-- The identifiers that the views of a response name; a missing view names none. -/
def viewIds (field : String) : List (String × Option Json) → Except String (List String)
  | [] => .ok []
  | (_, none) :: views => viewIds field views
  | (name, some view) :: views =>
    if !view.isObject then .error s!"{name} view is not a JSON object"
    else
      match view.get field with
      | none => viewIds field views
      | some .null => viewIds field views
      | some (.string id) => if id = "" then viewIds field views else (viewIds field views).map (id :: ·)
      | some _ => .error s!"{field} is not a string"

variable (response : Json)

def bindingViews : List (String × Option Json) :=
  [("response", some response), ("applied", response.get "applied"),
    ("operational", response.get "operational")]

def boundEntryIds (field : String) : Except String (List String) :=
  if !response.isObject then .error "response is not a JSON object"
  else (viewIds field (bindingViews response)).map sortDedup

structure BindingSource where
  service : SwitchMtlsService
  store : CertificateStore
  endpoint : String
  field : String
  absentWhenNotFound : Bool
deriving DecidableEq

def nvueClusterAppManagerSubEndpoint (appName field : String) : String :=
  s!"/nvue_v1/cluster/apps/{appName}/manager/{field}"

def clusterAppSources (service : SwitchMtlsService) (appName : String) : List BindingSource :=
  [⟨service, .entity, nvueClusterAppManagerSubEndpoint appName "certificate", "certificate", true⟩,
    ⟨service, .ca, nvueClusterAppManagerSubEndpoint appName "ca-certificate", "ca-certificate", true⟩]

def bindingSources (service : SwitchMtlsService) : List BindingSource :=
  match service with
  | .nvueApi =>
    [⟨service, .entity, "/nvue_v1/system/api", "certificate", false⟩,
      ⟨service, .ca, "/nvue_v1/system/api/mtls", "ca-certificate", false⟩]
  | .scaleUpFabricTelemetryInterface =>
    [⟨service, .entity, "/nvue_v1/system/gnmi-server", "certificate", true⟩,
      ⟨service, .ca, "/nvue_v1/system/gnmi-server/mtls", "ca-certificate", true⟩]
  | .scaleUpFabricManager => clusterAppSources service "nmx-controller"
  | .scaleUpFabricTelemetry => clusterAppSources service "nmx-telemetry"

def allBindingSources : List BindingSource := SwitchMtlsService.all.flatMap bindingSources

namespace BindingSource

def read (source : BindingSource) (reply : NvueReply) : Except String (List String) :=
  match reply.certificateDocument source.endpoint with
  | .ok response => boundEntryIds response source.field
  | .error error =>
    if error.code = .notFound ∧ source.absentWhenNotFound = true then .ok []
    else .error s!"GET {source.endpoint}: {error.message}"

end BindingSource

structure StoreReclaimPlan where
  store : CertificateStore
  limit : Nat
  entries : Nat
  rmsEntries : Nat
  deletions : List String

section Plan

variable {τ : Type} [LinearOrder τ] (parseFromStr : String → String → Option τ)

/-- The end of a text that takes a number of bytes, unless it would begin inside a character. -/
def byteSuffix (n : Nat) : List Char → Option (List Char)
  | [] => if n = 0 then some [] else none
  | c :: rest =>
    if ((c :: rest).map Char.utf8Size).sum = n then some (c :: rest) else byteSuffix n rest

def remoteRunIdFormat : String := "%Y-%m-%d_%H-%M-%S_%3f"

/-- The length of `2025-06-24_12-30-45_123`. -/
def importTimestampLen : Nat := 23

def importTime (id : String) : Option τ :=
  (byteSuffix importTimestampLen id.toList).bind (fun suffix =>
    parseFromStr (String.ofList suffix) remoteRunIdFormat)

/-- Older entries have smaller keys; those without a timestamp come first. -/
def reclaimKey (id : String) : WithBot τ ×ₗ String := toLex (importTime parseFromStr id, id)

def isCandidate (bindings : StoreBindings) (excluded : List String)
    (entry : String × ReportedUsage) : Bool :=
  startsWith rmsCertificateIdStart entry.1 && isValidIdentifier entry.1 && !excluded.contains entry.1 &&
    entry.2 = .none && !bindings.isBound entry.1

def candidates (inventory : StoreInventory) (bindings : StoreBindings) (excluded : List String) :
    List String :=
  (inventory.entries.filter (isCandidate bindings excluded)).map Prod.fst

def unconfirmed (bindings : StoreBindings) : String :=
  "; ".intercalate (bindings.unreadable.map (fun binding => s!"{binding.service}: {binding.reason}"))

def planStoreReclaim (store : CertificateStore) (inventory : StoreInventory) (bindings : StoreBindings)
    (excluded : List String) (limit : Nat) : Except RmsError StoreReclaimPlan :=
  let entries := inventory.entries.length
  let rmsEntries := inventory.entries.countP (fun entry => startsWith rmsCertificateIdStart entry.1)
  let required := entries + 1 - limit
  if required = 0 then .ok ⟨store, limit, entries, rmsEntries, []⟩
  else if !bindings.unreadable.isEmpty then
    .error (.failedPrecondition
      (s!"NVOS {store.asStr} store is full ({entries} of {limit} entries) and RMS could not " ++
      s!"confirm which entries switch services use ({unconfirmed bindings}); no entries were deleted"))
  else
    let found := candidates inventory bindings excluded
    if found.length < required then
      .error (.failedPrecondition
        (s!"NVOS {store.asStr} store is full ({entries} of {limit} entries, {rmsEntries} created by " ++
        s!"RMS) and {found.length} unused RMS entries can be deleted, {required} needed; delete unused " ++
        "entries on the switch and retry; no entries were deleted"))
    else .ok ⟨store, limit, entries, rmsEntries, leastBy (reclaimKey parseFromStr) required found⟩

end Plan

def optionalText : Json → Option (Option String)
  | .null => some none
  | .string value => some (some value)
  | _ => none

def nonEmptyTrimmed (value : String) : Option String := if trim value = "" then none else some (trim value)

def uriTail (value : Option String) : Option String :=
  value.bind (fun value =>
    let value := trimEndMatches '/' (trim value)
    if value = "" then none else (splitAll '/' value).getLast?.bind nonEmptyTrimmed)

def actionIdNames : List String := ["action_id", "id", "Id", "action-id", "actionId", "job_id", "JobId"]

/-- The fields that may carry an action identifier, in the order in which they are tried. -/
def actionIdOfFields (actionId : Option String) (uris : List (Option String)) : Option String :=
  (actionId.bind nonEmptyTrimmed).or (uris.findSome? uriTail)

/-- `extract_action_id`. Two of the names of the first field do not decode; an array gives the fields by position. -/
def extractJobId : Option String :=
  match response with
  | .string value => nonEmptyTrimmed value
  | .integer value => some (toString value)
  | .float text => some text
  | .object fields =>
    let fields := Json.entries fields
    match fields.filter (fun field => actionIdNames.contains field.1) with
    | _ :: _ :: _ => none
    | named => do
      let actionId ← optionalText (Json.ofOption (named.head?.map Prod.snd))
      let uris ← ["@odata.id", "href", "location", "path", "task"].mapM
        (fun name => optionalText (Json.ofOption (fields.lookup name)))
      actionIdOfFields actionId uris
  | .array elements =>
    if 6 < elements.length then none
    else do
      let texts ← elements.mapM optionalText
      actionIdOfFields (texts.head?.join) texts.tail
  | _ => none

inductive NvueActionPoll
  | running
  | succeeded
  | failed (state message : String)

def extractActionIssueMessage : String :=
  let text (issue : Json) : Option String :=
    match issue with
    | .string value => some value
    | .object _ => (issue.getStr "message").or ((issue.get "data").bind (Json.getStr "msg"))
    | _ => none
  let issues := ((response.get "issue").bind Json.asArray).getD []
  "; ".intercalate ((issues.filterMap text).filter (fun part => part ≠ ""))

def NvueActionPoll.strict : NvueActionPoll :=
  let state := (response.getStr "state").getD ""
  if state = "action_success" then .succeeded
  else if state = "action_error" ∨ state = "action_failed" then
    let texts :=
      [extractActionIssueMessage response, (response.getStr "detail").getD "",
        (response.getStr "status").getD ""]
    .failed state ((texts.find? (fun text => text ≠ "")).getD "")
  else .running

def isRetryableNvueTransportError (error : RmsError) : Bool :=
  error.code ∈ [ErrorCode.connectionRefused, .timeout, .unavailable, .dnsResolutionFailed]

def actionFailure (actionId state message : String) : RmsError :=
  let text := s!"NVUE action {actionId} failed with state {state}"
  .internal (if message = "" then text else s!"{text}: {message}")

def actionTimeout (actionId : String) (lastRetryableError : Option RmsError) : RmsError :=
  let text := s!"timed out waiting for NVUE action {actionId} to complete"
  .timeout (match lastRetryableError with
    | none => text
    | some error => s!"{text}; last retryable error: {error.message}")

/-- What the reclamation asks: the caller, the clock or the switch. -/
inductive SwitchRequest
  | isCancelled
  | beforeDeadline
  | listStore (store : CertificateStore)
  | readBinding (source : BindingSource)
  | deleteEntry (store : CertificateStore) (id : String)
  | actionState (actionId : String)
deriving DecidableEq

structure SwitchAnswer where
  cancelled : Bool
  inTime : Bool
  reply : NvueReply

abbrev SwitchTrace := List (SwitchRequest × SwitchAnswer)

abbrev SwitchProgram (α : Type) := Program Unit SwitchRequest SwitchAnswer α

structure InstallFailure where
  error : RmsError
  details : Json
  configuredServices : List String

structure SwitchMtlsMaterial where
  caCertId : String
  entityCertId : String

namespace Reclaim

def isCancelled : SwitchProgram Bool := Program.ask .isCancelled (fun answer _ => (answer.cancelled, ()))

variable (store : CertificateStore)

def storeListing (reply : NvueReply) : Except RmsError StoreInventory :=
  match reply.certificateDocument store.collectionEndpoint with
  | .ok response => StoreInventory.fromCollection store response
  | .error error =>
    if error.code = .notFound then .ok .empty
    else .error ⟨error.code, s!"failed to list the NVOS {store.asStr} store: {error.message}"⟩

def readCertificateStore : SwitchProgram (Except RmsError StoreInventory) :=
  Program.ask (.listStore store) (fun answer _ => (storeListing store answer.reply, ()))

def readCertificateInventory : SwitchProgram (Except RmsError CertificateInventory) := do
  match ← readCertificateStore .entity with
  | .error error => return .error error
  | .ok entity =>
    match ← readCertificateStore .ca with
    | .error error => return .error error
    | .ok ca => return .ok ⟨entity, ca⟩

def readBinding (source : BindingSource) : SwitchProgram (Except String (List String)) :=
  Program.ask (.readBinding source) (fun answer _ => (source.read answer.reply, ()))

def readBindings : List BindingSource → CertificateBindings → SwitchProgram CertificateBindings
  | [], bindings => return bindings
  | source :: sources, bindings => do
    let read ← readBinding source
    readBindings sources (bindings.record source.store source.service read)

def readCertificateBindings : SwitchProgram CertificateBindings := readBindings allBindingSources {}

def pollNvueActionState (actionId : String) : SwitchProgram (Except RmsError NvueActionPoll) :=
  Program.ask (.actionState actionId) (fun answer _ =>
    ((answer.reply.json "GET" s!"/nvue_v1/action/{actionId}").map NvueActionPoll.strict, ()))

/-- The deadline is 60 s away and every round ends with a pause of 1 s. -/
def waitForNvueAction (actionId : String) : Nat → Option RmsError → SwitchProgram (Except RmsError Unit)
  | 0, lastRetryableError => return .error (actionTimeout actionId lastRetryableError)
  | rounds + 1, lastRetryableError => do
    let inTime ← Program.ask .beforeDeadline (fun answer _ => (answer.inTime, ()))
    if !inTime then return .error (actionTimeout actionId lastRetryableError)
    else
      match ← pollNvueActionState actionId with
      | .ok .succeeded => return .ok ()
      | .ok (.failed state message) => return .error (actionFailure actionId state message)
      | .ok .running => waitForNvueAction actionId rounds lastRetryableError
      | .error error =>
        if isRetryableNvueTransportError error then waitForNvueAction actionId rounds (some error)
        else return .error error

def waitForNvueActionSuccess (actionId : String) : SwitchProgram (Except RmsError Unit) :=
  waitForNvueAction actionId 60 none

def deleteRefused (endpoint : String) (response : NvueResponse) : RmsError :=
  let text := s!"NVUE POST {endpoint} @delete returned {response.status}"
  ⟨rmsHttpStatusCode response.status, if response.isBlank then text else s!"{text}: {response.body}"⟩

def withoutActionId (endpoint : String) (response : NvueResponse) : RmsError :=
  .internal (s!"NVUE POST {endpoint} @delete returned {response.status} without an action " ++
    "ID, so the deletion cannot be confirmed: no action or job ID in NVUE response")

def deleteCertificateEntry (id : String) : SwitchProgram (Except RmsError Unit) := do
  if !(startsWith rmsCertificateIdStart id) || !isValidIdentifier id then
    return .error
      (.invalidArgument s!"refusing to delete NVOS {store.asStr} entry {id}: not an RMS-created ID")
  else
    let endpoint := store.entryEndpoint id
    match ← Program.ask (.deleteEntry store id) (fun answer _ => (answer.reply.result, ())) with
    | .error error => return .error error
    | .ok response =>
      if !response.isSuccess && response.status ≠ 404 then return .error (deleteRefused endpoint response)
      else if response.isSuccess then
        match extractJobId response.value with
        | none => return .error (withoutActionId endpoint response)
        | some actionId => waitForNvueActionSuccess actionId
      else return .ok ()

def deletedJson (id : String) : Json :=
  .object [("store", .string store.asStr), ("certificate_id", .string id)]

def planJson (plan : StoreReclaimPlan) : Json :=
  .object [("store", .string plan.store.asStr), ("limit", .integer plan.limit),
    ("entries", .integer plan.entries),
    ("rms_entries", .integer plan.rmsEntries), ("deletions", .array (plan.deletions.map .string))]

def fail (error : RmsError) (deleted : List Json) : InstallFailure :=
  ⟨error, .object [("error", .string error.message), ("deleted", .array deleted)], []⟩

def cancelled (deleted : List Json) : InstallFailure :=
  fail (.cancelled "certificate store reclamation cancelled; nothing was imported or bound") deleted

/-- The two loops over the plans and their deletions as one. -/
def deleteEntries :
    List (CertificateStore × String) → List Json → SwitchProgram (Except InstallFailure (List Json))
  | [], deleted => return .ok deleted
  | (store, id) :: targets, deleted => do
    if ← isCancelled then return .error (cancelled deleted)
    else
      match ← deleteCertificateEntry store id with
      | .error error =>
        return .error
          (fail ⟨error.code, s!"failed to delete unused NVOS {store.asStr} entry {id}: {error.message}; " ++
          "nothing was imported or bound"⟩ deleted)
      | .ok () => deleteEntries targets (deleted ++ [deletedJson store id])

def stillFull (entries limit : Nat) : RmsError :=
  .failedPrecondition
    (s!"NVOS {store.asStr} store still lists {entries} of {limit} entries after RMS deleted " ++
    "unused entries; nothing was imported or bound")

section Workflow

variable {τ : Type} [LinearOrder τ] (parseFromStr : String → String → Option τ)
  (material : SwitchMtlsMaterial)

def planStores (inventory : CertificateInventory) (bindings : CertificateBindings) :
    Except RmsError (List StoreReclaimPlan) :=
  CertificateStore.all.mapM (fun store =>
    planStoreReclaim parseFromStr store (inventory.store store) (bindings.store store)
      [material.caCertId, material.entityCertId] nvosCertificateStoreLimit)

variable (plans : List StoreReclaimPlan)

def planTargets : List (CertificateStore × String) :=
  plans.flatMap (fun plan => plan.deletions.map (fun id => (plan.store, id)))

def reclaimedJson (deleted : List Json) : List (String × Json) :=
  [("limit", .integer nvosCertificateStoreLimit), ("stores", .array (plans.map planJson)),
    ("deleted", .array deleted)]

def verifyRoom (deleted : List Json) :
    SwitchProgram (Except InstallFailure Json) := do
  match ← readCertificateInventory with
  | .error error => return .error (fail error deleted)
  | .ok after =>
    match CertificateStore.all.find? (fun store =>
      (after.store store).needsSpace nvosCertificateStoreLimit) with
    | some store =>
      return .error
        (fail (stillFull store (after.store store).entries.length nvosCertificateStoreLimit) deleted)
    | none =>
      return .ok (.object (reclaimedJson plans deleted ++
        [("entries_after", .object [("entity-certificate", .integer after.entity.entries.length),
          ("ca-certificate", .integer after.ca.entries.length)])]))

def deletePlanned : SwitchProgram (Except InstallFailure Json) := do
  match ← deleteEntries (planTargets plans) [] with
  | .error failure => return .error failure
  | .ok deleted =>
    if deleted.isEmpty then return .ok (.object (reclaimedJson plans deleted))
    else verifyRoom plans deleted

def neededBindings (inventory : CertificateInventory) : SwitchProgram CertificateBindings :=
  if inventory.needsSpace nvosCertificateStoreLimit then readCertificateBindings else pure {}

/-- Frees room in both certificate stores before an installation. -/
def reclaimCertificateStoreCapacity : SwitchProgram (Except InstallFailure Json) := do
  if ← isCancelled then return .error (cancelled [])
  else
    match ← readCertificateInventory with
    | .error error => return .error (fail error [])
    | .ok inventory =>
      let bindings ← neededBindings inventory
      match planStores parseFromStr material inventory bindings with
      | .error error => return .error (fail error [])
      | .ok plans => deletePlanned plans

end Workflow

end Reclaim

end RackManagement
