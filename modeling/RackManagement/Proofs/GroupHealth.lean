import RackManagement.Model.FabricObservation

/-! # Faults and health of a group -/

namespace RackManagement

open Library Nmx List

namespace FabricObservation

/-! ### Aggregation -/

section

variable (states : List Health)

lemma foldl_combine_eq_abnormal_iff (start : Health) :
    states.foldl combine start = .abnormal ↔ start = .abnormal ∨ .abnormal ∈ states := by
  induction states generalizing start with
  | nil => simp
  | cons state states ih =>
    have hcombine : combine start state = .abnormal ↔ start = .abnormal ∨ .abnormal = state := by
      cases start <;> cases state <;> decide
    rw [foldl_cons, ih, hcombine, mem_cons, or_assoc]

lemma foldl_combine_eq_normal_iff (start : Health) :
    states.foldl combine start = .normal ↔ start = .normal ∧ ∀ state ∈ states, state = .normal := by
  induction states generalizing start with
  | nil => simp
  | cons state states ih =>
    have hcombine : combine start state = .normal ↔ start = .normal ∧ state = .normal := by
      cases start <;> cases state <;> decide
    rw [foldl_cons, ih, hcombine, forall_mem_cons, and_assoc]

lemma aggregateHealth_eq_abnormal_iff : aggregateHealth states = .abnormal ↔ .abnormal ∈ states := by
  cases states with
  | nil => simp [aggregateHealth]
  | cons state states =>
    have hne : ¬(state :: states).isEmpty = true := by simp
    rw [aggregateHealth, if_neg hne, foldl_combine_eq_abnormal_iff]
    simp

lemma aggregateHealth_eq_normal_iff :
    aggregateHealth states = .normal ↔ states ≠ [] ∧ ∀ state ∈ states, state = .normal := by
  cases states with
  | nil => simp [aggregateHealth]
  | cons state states =>
    have hne : ¬(state :: states).isEmpty = true := by simp
    rw [aggregateHealth, if_neg hne, foldl_combine_eq_normal_iff]
    simp

end

/-! ### What is known of one kind -/

structure Member where
  identity : Option (String × UInt64)
  health : Health

/-- A row of a node list. One with a usable identity is reported. -/
structure Row where
  identity : Option (String × UInt64)
  isReported : Bool
  health : Health
  reported_of_identity : identity.isSome = true → isReported = true

/-- The devices of one kind, `none` for an entry of any kind, and the rows of its node list. -/
structure KindView where
  devices : Option (List (Option Member))
  rows : Option (List Row)
  expected : List (String × UInt64)
  requiresMember : Bool

namespace KindView

def matching (rows : List Row) (member : Member) : List Row :=
  rows.filter (fun row => member.identity.isSome && row.identity = member.identity)

def memberStates (rows : Option (List Row)) : Option Member → List Health
  | some member => member.health ::
      (rows.map (fun rows => aggregateHealth ((matching rows member).map Row.health))).toList
  | none => [.unknown]

def observed (devices : List (Option Member)) : List (String × UInt64) :=
  devices.filterMap (fun device => device.bind Member.identity)

variable (view : KindView)

def rowsAlone : Health :=
  aggregateHealth (((view.rows.getD []).filter Row.isReported).map Row.health ++ [.unknown])

def isIncomplete (devices : List (Option Member)) : Bool :=
  (view.requiresMember && (observed devices).isEmpty) ||
    view.expected.any (fun identity => !decide (identity ∈ observed devices))

def states (devices : List (Option Member)) : List Health :=
  (if view.rows.isNone then [.unknown] else []) ++ devices.flatMap (memberStates view.rows) ++
    (if view.isIncomplete devices then [.unknown] else [])

def verdict : Health :=
  if view.rowsAlone = .abnormal then .abnormal
  else
    match view.devices with
    | none => view.rowsAlone
    | some devices => aggregateHealth (view.states devices)

/-- A device or a reported row is abnormal. -/
def HasFault : Prop :=
  (∃ devices, view.devices = some devices ∧ ∃ member, some member ∈ devices ∧ member.health = .abnormal) ∨
    ∃ rows, view.rows = some rows ∧ ∃ row ∈ rows, row.isReported = true ∧ row.health = .abnormal

/-- Both reads are present, every expected identity was observed, and every device and its rows are healthy. -/
def Established : Prop :=
  ∃ devices rows, view.devices = some devices ∧ view.rows = some rows ∧ devices ≠ [] ∧ none ∉ devices ∧
    (∀ identity ∈ view.expected, ∃ member, some member ∈ devices ∧ member.identity = some identity) ∧
    (∀ member, some member ∈ devices → member.health = .normal ∧ member.identity.isSome = true ∧
      (∃ row ∈ rows, row.identity = member.identity) ∧
      ∀ row ∈ rows, row.identity = member.identity → row.health = .normal) ∧
    ∀ row ∈ rows, row.isReported = true → row.health ≠ .abnormal

variable {devices : List (Option Member)} {rows : List Row}

lemma mem_observed {identity : String × UInt64} :
    identity ∈ observed devices ↔ ∃ member, some member ∈ devices ∧ member.identity = some identity := by
  simp [observed, mem_filterMap, Option.bind_eq_some_iff]

lemma mem_matching {member : Member} {row : Row} :
    row ∈ matching rows member ↔ row ∈ rows ∧ member.identity.isSome = true ∧
      row.identity = member.identity := by
  simp [matching, mem_filter]

lemma rowsAlone_eq_abnormal_iff : view.rowsAlone = .abnormal ↔
    ∃ rows, view.rows = some rows ∧ ∃ row ∈ rows, row.isReported = true ∧ row.health = .abnormal := by
  rw [rowsAlone, aggregateHealth_eq_abnormal_iff]
  cases view.rows with
  | none => simp
  | some rows => simp [and_assoc]

lemma rowsAlone_ne_normal : view.rowsAlone ≠ .normal := by
  intro h
  have hall := ((aggregateHealth_eq_normal_iff _).mp h).2
  cases hall .unknown (by simp)

lemma abnormal_mem_states_iff (devices : List (Option Member)) : .abnormal ∈ view.states devices ↔
    ∃ member, some member ∈ devices ∧ (member.health = .abnormal ∨
      ∃ rows, view.rows = some rows ∧ ∃ row ∈ matching rows member, row.health = .abnormal) := by
  have hmember : ∀ device, .abnormal ∈ memberStates view.rows device ↔
      ∃ member, device = some member ∧ (member.health = .abnormal ∨
        ∃ rows, view.rows = some rows ∧ ∃ row ∈ matching rows member, row.health = .abnormal) := by
    intro device
    cases device with
    | none => simp [memberStates]
    | some member =>
      have hagg : ∀ rows, .abnormal = aggregateHealth ((matching rows member).map Row.health) ↔
          ∃ row ∈ matching rows member, row.health = .abnormal := by
        intro rows
        rw [eq_comm, aggregateHealth_eq_abnormal_iff, mem_map]
      cases view.rows with
      | none => simp [memberStates, eq_comm]
      | some rows => simp [memberStates, hagg, eq_comm (b := member.health)]
  have hunknown : ∀ b : Bool, ¬.abnormal ∈ (if b then [ScaleUpFabricReportedStatus.unknown] else []) := by
    intro b
    cases b <;> simp
  rw [states, mem_append, mem_append, mem_flatMap]
  simp only [hunknown, false_or, or_false, hmember]
  constructor
  · rintro ⟨device, hmem, member, rfl, hfault⟩
    exact ⟨member, hmem, hfault⟩
  · rintro ⟨member, hmem, hfault⟩
    exact ⟨some member, hmem, member, rfl, hfault⟩

theorem verdict_eq_abnormal_iff : view.verdict = .abnormal ↔ view.HasFault := by
  have halone := view.rowsAlone_eq_abnormal_iff
  unfold verdict HasFault
  split
  case isTrue habnormal => exact iff_of_true rfl (.inr (halone.mp habnormal))
  case isFalse hnot =>
    have hrows :
        ¬∃ rows, view.rows = some rows ∧ ∃ row ∈ rows, row.isReported = true ∧ row.health = .abnormal :=
      fun hfault => hnot (halone.mpr hfault)
    rw [or_iff_left hrows]
    cases hdevices : view.devices with
    | none => simp [hnot]
    | some devices =>
      rw [aggregateHealth_eq_abnormal_iff, abnormal_mem_states_iff]
      constructor
      · rintro ⟨member, hmem, hfault | ⟨rows, hview, row, hrow, hfault⟩⟩
        · exact ⟨devices, rfl, member, hmem, hfault⟩
        · -- a matching row has a usable identity, so it is reported
          obtain ⟨hmemRow, hidentity, hsame⟩ := mem_matching.mp hrow
          have hreported := row.reported_of_identity (hsame ▸ hidentity)
          exact absurd ⟨rows, hview, row, hmemRow, hreported, hfault⟩ hrows
      · rintro ⟨_, hsame, member, hmem, hfault⟩
        cases hsame
        exact ⟨member, hmem, .inl hfault⟩

lemma memberStates_normal_iff (rows : List Row) (device : Option Member) :
    (∀ state ∈ memberStates (some rows) device, state = .normal) ↔
      ∃ member, device = some member ∧ member.health = .normal ∧ member.identity.isSome = true ∧
        (∃ row ∈ rows, row.identity = member.identity) ∧
        ∀ row ∈ rows, row.identity = member.identity → row.health = .normal := by
  cases device with
  | none => simp [memberStates]
  | some member =>
    simp only [memberStates, Option.map_some, Option.toList_some, forall_mem_cons, not_mem_nil,
      false_implies, implies_true, and_true, aggregateHealth_eq_normal_iff, ne_eq,
      map_eq_nil_iff, forall_mem_map, mem_matching]
    constructor
    · rintro ⟨hhealth, hne, hall⟩
      obtain ⟨row, hrow⟩ := exists_mem_of_ne_nil _ hne
      obtain ⟨hmem, hidentity, hsame⟩ := mem_matching.mp hrow
      refine ⟨member, rfl, hhealth, hidentity, ⟨row, hmem, hsame⟩, ?_⟩
      intro other hother hotherSame
      exact hall other ⟨hother, hidentity, hotherSame⟩
    · rintro ⟨_, heq, hhealth, hidentity, ⟨row, hmem, hsame⟩, hall⟩
      cases heq
      refine ⟨hhealth, ne_nil_of_mem (mem_matching.mpr ⟨hmem, hidentity, hsame⟩), ?_⟩
      rintro other ⟨hother, -, hotherSame⟩
      exact hall other hother hotherSame

lemma states_normal_iff (hrows : view.rows = some rows) (devices : List (Option Member)) :
    (∀ state ∈ view.states devices, state = .normal) ↔
      view.isIncomplete devices = false ∧
        ∀ device ∈ devices, ∀ state ∈ memberStates (some rows) device, state = .normal := by
  have hunknown :
      ∀ b : Bool, (∀ state ∈ (if b then [ScaleUpFabricReportedStatus.unknown] else []), state = .normal) ↔
      b = false := by
    intro b
    cases b <;> simp
  rw [states, hrows, forall_mem_append, forall_mem_append, hunknown, hunknown]
  simp only [Option.isNone_some, true_and, mem_flatMap]
  constructor
  · rintro ⟨hall, hcomplete⟩
    exact ⟨hcomplete, fun device hdevice state hstate => hall state ⟨device, hdevice, hstate⟩⟩
  · rintro ⟨hcomplete, hall⟩
    refine ⟨?_, hcomplete⟩
    rintro state ⟨device, hdevice, hstate⟩
    exact hall device hdevice state hstate

lemma states_eq_nil_iff (hrows : view.rows = some rows)
    (hcomplete : view.isIncomplete devices = false) : view.states devices = [] ↔ devices = [] := by
  have hmember : ∀ device, memberStates (some rows) device ≠ [] := by
    intro device
    cases device <;> simp [memberStates]
  rw [states, hrows, hcomplete]
  cases devices with
  | nil => simp
  | cons device devices => simp [hmember device]

lemma isIncomplete_eq_false_iff : view.isIncomplete devices = false ↔
    (view.requiresMember = true → observed devices ≠ []) ∧
      ∀ identity ∈ view.expected, ∃ member, some member ∈ devices ∧ member.identity = some identity := by
  have hempty : (view.requiresMember && (observed devices).isEmpty) = false ↔
      (view.requiresMember = true → observed devices ≠ []) := by
    cases view.requiresMember <;> simp
  rw [isIncomplete, Bool.or_eq_false_iff, hempty]
  apply and_congr_right'
  simp [mem_observed]

theorem verdict_eq_normal_iff : view.verdict = .normal ↔ view.Established := by
  have halone := view.rowsAlone_eq_abnormal_iff
  unfold verdict
  split
  case isTrue habnormal =>
    refine iff_of_false (by simp) ?_
    rintro ⟨_, rows, -, hrows, -, -, -, -, hsound⟩
    obtain ⟨_, hsame, row, hmem, hreported, hfault⟩ := halone.mp habnormal
    cases hrows.symm.trans hsame
    exact hsound row hmem hreported hfault
  case isFalse hnot =>
    cases hdevices : view.devices with
    | none =>
      refine iff_of_false view.rowsAlone_ne_normal ?_
      rintro ⟨_, _, hsome, -⟩
      cases hdevices.symm.trans hsome
    | some devices =>
      rw [aggregateHealth_eq_normal_iff]
      constructor
      · rintro ⟨hne, hall⟩
        cases hrows : view.rows with
        | none =>
          cases hall .unknown (by simp [states, hrows])
        | some rows =>
          obtain ⟨hcomplete, hdevicesNormal⟩ := (view.states_normal_iff hrows devices).mp hall
          have hmember := fun device hdevice =>
            (memberStates_normal_iff rows device).mp (hdevicesNormal device hdevice)
          refine ⟨devices, rows, hdevices, hrows, ?_, ?_,
            (view.isIncomplete_eq_false_iff.mp hcomplete).2, ?_, ?_⟩
          · exact fun hnil => hne ((view.states_eq_nil_iff hrows hcomplete).mpr hnil)
          · intro hnone
            obtain ⟨member, heq, -⟩ := hmember none hnone
            cases heq
          · intro member hmem
            obtain ⟨_, heq, hsound⟩ := hmember (some member) hmem
            cases heq
            exact hsound
          · intro row hmem hreported hfault
            exact hnot (halone.mpr ⟨rows, hrows, row, hmem, hreported, hfault⟩)
      · rintro ⟨_, rows, hsame, hrows, hne, hnone, hexpected, hsound, -⟩
        cases hdevices.symm.trans hsame
        have hmember : ∀ device ∈ devices, ∃ member, device = some member ∧ member.health = .normal ∧
            member.identity.isSome = true ∧ (∃ row ∈ rows, row.identity = member.identity) ∧
            ∀ row ∈ rows, row.identity = member.identity → row.health = .normal := by
          intro device hdevice
          cases device with
          | none => exact absurd hdevice hnone
          | some member => exact ⟨member, rfl, hsound member hdevice⟩
        have hobserved : observed devices ≠ [] := by
          obtain ⟨device, hdevice⟩ := exists_mem_of_ne_nil devices hne
          obtain ⟨member, rfl, -, hidentity, -⟩ := hmember device hdevice
          obtain ⟨identity, hidentity⟩ := Option.isSome_iff_exists.mp hidentity
          exact ne_nil_of_mem (mem_observed.mpr ⟨member, hdevice, hidentity⟩)
        have hcomplete := view.isIncomplete_eq_false_iff.mpr ⟨fun _ => hobserved, hexpected⟩
        refine ⟨fun hnil => hne ((view.states_eq_nil_iff hrows hcomplete).mp hnil), ?_⟩
        refine (view.states_normal_iff hrows devices).mpr ⟨hcomplete, ?_⟩
        intro device hdevice
        exact (memberStates_normal_iff rows device).mpr (hmember device hdevice)

end KindView

/-! ### The two kinds -/

inductive Kind
  | compute
  | switches

namespace Kind

def status : Kind → ScaleUpFabricComponentStatus → Health
  | compute => ScaleUpFabricComponentStatus.compute
  | switches => ScaleUpFabricComponentStatus.switches

/-- The device of the kind in an entry of the topology. An entry without a device counts for both kinds. -/
def member : Kind → Option Device → Option (Option Member)
  | compute, some (.gpuTopoInfo gpu) => some (some ⟨observationIdentity gpu.loc, gpuHealth gpu⟩)
  | switches, some (.switchTopoInfo switch) =>
    some (some ⟨observationIdentity switch.loc, switchHealth switch⟩)
  | _, some _ => none
  | _, none => some none

end Kind

def computeRow (node : NmxComputeNodeInfo) : Row where
  identity := observationIdentity node.loc
  isReported := isReportedCompute node
  health := computeNodeHealth node
  reported_of_identity h := by simp [isReportedCompute, h]

def switchRow (node : NmxSwitchNodeInfo) : Row where
  identity := observationIdentity node.loc
  isReported := isReportedSwitch node
  health := switchNodeHealth node
  reported_of_identity h := by simp [isReportedSwitch, h]

namespace Kind

def rows (switchNodes : Option (List NmxSwitchNodeInfo)) (computeNodes : Option (List NmxComputeNodeInfo)) :
    Kind → Option (List Row)
  | compute => computeNodes.map (map computeRow)
  | switches => switchNodes.map (map switchRow)

def requiresMember : Kind → Bool
  | compute => true
  | switches => false

def view (kind : Kind) (samples : FabricSamples) (expected : List ObservedIdentity) : KindView where
  devices := samples.topology.toOption.map (fun topology => topology.deviceTopoInfo.filterMap kind.member)
  rows := kind.rows samples.switchNodes.toOption samples.computeNodes.toOption
  expected := expected.map placement
  requiresMember := kind.requiresMember

def states : Kind → DataPlane → List Health
  | compute => DataPlane.compute
  | switches => DataPlane.switches

def observed : Kind → DataPlane → FiniteSet (String × UInt64)
  | compute => DataPlane.observedComputes
  | switches => DataPlane.observedSwitches

def part : Kind → Health × Health × Health → Health
  | compute => fun states => states.1
  | switches => fun states => states.2.1

def expected (expectedSwitches expectedComputes : List ObservedIdentity) : Kind → List ObservedIdentity
  | compute => expectedComputes
  | switches => expectedSwitches

end Kind

section Refinement

variable (switchNodes : Option (List NmxSwitchNodeInfo))
  (computeNodes : Option (List NmxComputeNodeInfo)) (kind : Kind)

lemma rowHealth_eq {ν : Type} {loc : ν → Option NmxLocationInfo} {health : ν → Health} (toRow : ν → Row)
    (hidentity : ∀ node, (toRow node).identity = observationIdentity (loc node))
    (hhealth : ∀ node, (toRow node).health = health node) (member : Member) (nodes : List ν) :
    rowHealth loc health member.identity nodes =
      aggregateHealth ((KindView.matching (nodes.map toRow) member).map Row.health) := by
  have hfilter :
      (fun row : Row => member.identity.isSome && decide (row.identity = member.identity)) ∘ toRow =
      fun node => member.identity.isSome && decide (observationIdentity (loc node) = member.identity) := by
    funext node
    simp only [Function.comp_apply, hidentity]
  have hmap : Row.health ∘ toRow = health := funext hhealth
  rw [rowHealth, KindView.matching, filter_map, map_map, hfilter, hmap]

lemma mem_insertIdentity (set : FiniteSet (String × UInt64)) (added : Option (String × UInt64))
    (identity : String × UInt64) :
    identity ∈ insertIdentity set added ↔ identity ∈ set ∨ added = some identity := by
  cases added with
  | none => simp [insertIdentity]
  | some other => simp [insertIdentity, or_comm, eq_comm]

lemma states_addDevice (plane : DataPlane) (device : Option Device) :
    kind.states (addDevice switchNodes computeNodes plane device) = kind.states plane ++
      (kind.member device).toList.flatMap (KindView.memberStates (kind.rows switchNodes computeNodes)) := by
  cases device with
  | none => cases kind <;> rfl
  | some device =>
    cases device with
    | switchTopoInfo switch =>
      cases kind with
      | compute => exact (append_nil _).symm
      | switches =>
        cases switchNodes with
        | none => rfl
        | some nodes =>
          have hrows := rowHealth_eq switchRow (fun _ => rfl) (fun _ => rfl)
            ⟨observationIdentity switch.loc, switchHealth switch⟩ nodes
          exact congrArg (fun state => plane.switches ++ [switchHealth switch, state]) hrows
    | gpuTopoInfo gpu =>
      cases kind with
      | switches => exact (append_nil _).symm
      | compute =>
        cases computeNodes with
        | none => rfl
        | some nodes =>
          have hrows := rowHealth_eq computeRow (fun _ => rfl) (fun _ => rfl)
            ⟨observationIdentity gpu.loc, gpuHealth gpu⟩ nodes
          exact congrArg (fun state => plane.compute ++ [gpuHealth gpu, state]) hrows

lemma mem_observed_addDevice (plane : DataPlane) (device : Option Device) (identity : String × UInt64) :
    identity ∈ kind.observed (addDevice switchNodes computeNodes plane device) ↔
      identity ∈ kind.observed plane ∨ identity ∈ KindView.observed (kind.member device).toList := by
  cases device with
  | none => cases kind <;> simp [addDevice, Kind.member, Kind.observed, KindView.observed]
  | some device =>
    cases device with
    | switchTopoInfo switch =>
      cases kind with
      | compute => simp [addDevice, Kind.member, Kind.observed, KindView.observed]
      | switches => simp [addDevice, Kind.member, Kind.observed, KindView.mem_observed, mem_insertIdentity]
    | gpuTopoInfo gpu =>
      cases kind with
      | switches => simp [addDevice, Kind.member, Kind.observed, KindView.observed]
      | compute => simp [addDevice, Kind.member, Kind.observed, KindView.mem_observed, mem_insertIdentity]

lemma filterMap_cons_toList {α β : Type} (f : α → Option β) (a : α) (l : List α) :
    (a :: l).filterMap f = (f a).toList ++ l.filterMap f := by
  rw [filterMap_cons]
  cases f a <;> rfl

lemma foldl_addDevice (devices : List (Option Device)) (plane : DataPlane) :
    let final := devices.foldl (addDevice switchNodes computeNodes) plane
    kind.states final = kind.states plane ++ (devices.filterMap kind.member).flatMap
        (KindView.memberStates (kind.rows switchNodes computeNodes)) ∧
      ∀ identity, identity ∈ kind.observed final ↔
        identity ∈ kind.observed plane ∨ identity ∈ KindView.observed (devices.filterMap kind.member) := by
  induction devices generalizing plane with
  | nil => simp [KindView.observed]
  | cons device devices ih =>
    obtain ⟨hstates, hobserved⟩ := ih (addDevice switchNodes computeNodes plane device)
    refine ⟨?_, ?_⟩
    · rw [foldl_cons, hstates, states_addDevice, filterMap_cons_toList, flatMap_append, append_assoc]
    · intro identity
      rw [foldl_cons, hobserved, mem_observed_addDevice, filterMap_cons_toList, KindView.observed,
        KindView.observed, KindView.observed, filterMap_append, mem_append, or_assoc]

lemma reportedStates_eq {ν : Type} {isReported : ν → Bool} {health : ν → Health} (toRow : ν → Row)
    (hreported : ∀ node, (toRow node).isReported = isReported node)
    (hhealth : ∀ node, (toRow node).health = health node) (nodes : Option (List ν)) :
    (((nodes.map (map toRow)).getD []).filter Row.isReported).map Row.health =
      ((nodes.getD []).filter isReported).map health := by
  have hfilter : Row.isReported ∘ toRow = isReported := funext hreported
  have hmap : Row.health ∘ toRow = health := funext hhealth
  cases nodes with
  | none => rfl
  | some nodes =>
    rw [Option.map_some, Option.getD_some, Option.getD_some, filter_map, map_map, hfilter, hmap]

variable (samples : FabricSamples) (expectedSwitches expectedComputes : List ObservedIdentity)

lemma part_healthWithoutTopology (expected : List ObservedIdentity) :
    kind.part (healthWithoutTopology samples.switchNodes.toOption samples.computeNodes.toOption) =
      (kind.view samples expected).rowsAlone := by
  rw [KindView.rowsAlone]
  cases kind with
  | compute =>
    have hstates := reportedStates_eq computeRow (fun _ => rfl) (fun _ => rfl) samples.computeNodes.toOption
    exact congrArg (fun states => aggregateHealth (states ++ [.unknown])) hstates.symm
  | switches =>
    have hstates := reportedStates_eq switchRow (fun _ => rfl) (fun _ => rfl) samples.switchNodes.toOption
    exact congrArg (fun states => aggregateHealth (states ++ [.unknown])) hstates.symm

variable {set : FiniteSet (String × UInt64)} {devices : List (Option Member)}

lemma isMissing_eq
    (h : ∀ identity, identity ∈ set ↔ identity ∈ KindView.observed devices)
    (expected : List ObservedIdentity) :
    isMissing set expected =
      (expected.map placement).any (fun identity => !decide (identity ∈ KindView.observed devices)) := by
  simp only [isMissing, any_map, Function.comp_def, h]

lemma isEmpty_eq (h : ∀ identity, identity ∈ set ↔ identity ∈ KindView.observed devices) :
    set.isEmpty = (KindView.observed devices).isEmpty := by
  rw [Bool.eq_iff_iff, FiniteSet.isEmpty_iff, List.isEmpty_iff, List.eq_nil_iff_forall_not_mem]
  simp only [h]

lemma part_dataPlaneHealth :
    kind.part (dataPlaneHealth samples.topology.toOption samples.switchNodes.toOption
      samples.computeNodes.toOption
        expectedSwitches expectedComputes) =
      match (kind.view samples (kind.expected expectedSwitches expectedComputes)).devices with
      | none => (kind.view samples (kind.expected expectedSwitches expectedComputes)).rowsAlone
      | some devices => aggregateHealth
          ((kind.view samples (kind.expected expectedSwitches expectedComputes)).states devices) := by
  cases htopology : samples.topology.toOption with
  | none =>
    simp only [dataPlaneHealth, Kind.view, htopology, Option.map_none]
    exact part_healthWithoutTopology kind samples (kind.expected expectedSwitches expectedComputes)
  | some topology =>
    simp only [Kind.view, htopology, Option.map_some, dataPlaneHealth, KindView.states,
      KindView.isIncomplete]
    obtain ⟨hstates, hobserved⟩ :=
      foldl_addDevice samples.switchNodes.toOption samples.computeNodes.toOption kind
      topology.deviceTopoInfo
      { compute := if samples.computeNodes.toOption.isNone then [.unknown] else []
        switches := if samples.switchNodes.toOption.isNone then [.unknown] else []
        links := []
        observedSwitches := .empty
        observedComputes := .empty }
    have hmember := fun identity =>
      (hobserved identity).trans (or_iff_right (by cases kind <;> exact FiniteSet.mem_empty identity))
    have hmissing := isMissing_eq hmember
    have hempty := isEmpty_eq hmember
    cases kind with
    | compute =>
      have hnone : (Kind.compute.rows samples.switchNodes.toOption samples.computeNodes.toOption).isNone =
          samples.computeNodes.toOption.isNone := Option.isNone_map
      dsimp only [Kind.part, Kind.states, Kind.observed, Kind.expected, Kind.requiresMember] at *
      rw [hstates, hempty, hmissing, hnone]
      rfl
    | switches =>
      have hnone : (Kind.switches.rows samples.switchNodes.toOption samples.computeNodes.toOption).isNone =
          samples.switchNodes.toOption.isNone := Option.isNone_map
      dsimp only [Kind.part, Kind.states, Kind.observed, Kind.expected, Kind.requiresMember] at *
      rw [hstates, hmissing, hnone]
      rfl

lemma keep_fault (alone other : Health) :
    (if alone = .abnormal then alone else other) = if alone = .abnormal then .abnormal else other := by
  split
  case isTrue hfault => exact hfault
  case isFalse => rfl

lemma status_interpretGroup :
    kind.status (interpretGroup samples expectedSwitches expectedComputes).health =
    (kind.view samples (kind.expected expectedSwitches expectedComputes)).verdict := by
  have hplane := part_dataPlaneHealth kind samples expectedSwitches expectedComputes
  have halone := part_healthWithoutTopology kind samples (kind.expected expectedSwitches expectedComputes)
  rw [KindView.verdict, ← hplane, ← halone]
  cases kind with
  | compute =>
    exact keep_fault _ _
  | switches =>
    exact keep_fault _ _

end Refinement

/-! ### Added faults -/

def deviceHealth : Device → Health
  | .switchTopoInfo switch => switchHealth switch
  | .gpuTopoInfo gpu => gpuHealth gpu

/-- An abnormal device or row is added anywhere to what was reported. -/
inductive AddsFault (samples : FabricSamples) : FabricSamples → Prop
  | device {before after : List (Option Device)} {device : Device}
      (reported : (samples.topology.toOption.map NmxFmTopologyInfo.deviceTopoInfo).getD [] =
        before ++ after)
      (fault : deviceHealth device = .abnormal) :
      AddsFault samples { samples with topology := .ok ⟨before ++ some device :: after⟩ }
  | switchNode {before after : List NmxSwitchNodeInfo} {node : NmxSwitchNodeInfo}
      (reported : samples.switchNodes.toOption.getD [] = before ++ after)
      (fault : switchNodeHealth node = .abnormal) :
      AddsFault samples { samples with switchNodes := .ok (before ++ node :: after) }
  | computeNode {before after : List NmxComputeNodeInfo} {node : NmxComputeNodeInfo}
      (reported : samples.computeNodes.toOption.getD [] = before ++ after)
      (fault : computeNodeHealth node = .abnormal) :
      AddsFault samples { samples with computeNodes := .ok (before ++ node :: after) }

namespace KindView

variable (view : KindView) {added : KindView}

lemma Established.of_added_row {before after : List Row} {row : Row} (h : added.Established)
    (hdevices : added.devices = view.devices) (hexpected : added.expected = view.expected)
    (hadded : added.rows = some (before ++ row :: after)) (hrows : view.rows.getD [] = before ++ after)
    (hfault : row.health = .abnormal) : view.Established := by
  obtain ⟨devices, rows, hsome, hsame, hne, hnone, hall, hsound, hreported⟩ := h
  cases hadded.symm.trans hsame
  have hunidentified : row.identity = none := by
    rw [← Option.not_isSome_iff_eq_none]
    intro hidentity
    exact hreported row (by simp) (row.reported_of_identity hidentity) hfault
  have hother : ∀ member : Member, member.identity.isSome = true → ∀ other ∈ before ++ row :: after,
      other.identity = member.identity → other ∈ before ++ after := by
    intro member hidentity other hmem hidentitySame
    have hrow : other ≠ row := by
      rintro rfl
      rw [← hidentitySame, hunidentified] at hidentity
      cases hidentity
    simpa [hrow] using hmem
  have hread : view.rows = some (before ++ after) := by
    cases hview : view.rows with
    | some rows => exact congrArg some (by simpa [hview] using hrows)
    | none =>
      -- without rows the added one would have to match some device
      rw [hview, Option.getD_none] at hrows
      obtain ⟨device, hdevice⟩ := exists_mem_of_ne_nil devices hne
      cases device with
      | none => exact absurd hdevice hnone
      | some member =>
        obtain ⟨-, hidentity, ⟨other, hmem, hidentitySame⟩, -⟩ := hsound member hdevice
        have hempty := hother member hidentity other hmem hidentitySame
        rw [← hrows] at hempty
        cases hempty
  have hsub : ∀ other ∈ before ++ after, other ∈ before ++ row :: after := by
    intro other hmem
    obtain hmem | hmem := mem_append.mp hmem
    · exact mem_append_left _ hmem
    · exact mem_append_right _ (mem_cons_of_mem row hmem)
  refine ⟨devices, before ++ after, hdevices ▸ hsome, hread, hne, hnone, hexpected ▸ hall, ?_, ?_⟩
  · intro member hmember
    obtain ⟨hhealth, hidentity, ⟨other, hmem, hidentitySame⟩, hrowsNormal⟩ := hsound member hmember
    refine ⟨hhealth, hidentity,
      ⟨other, hother member hidentity other hmem hidentitySame, hidentitySame⟩, ?_⟩
    exact fun another hanother => hrowsNormal another (hsub another hanother)
  · exact fun another hanother => hreported another (hsub another hanother)

lemma Established.of_same_devices {devices : List (Option Member)} (h : added.Established)
    (hrows : added.rows = view.rows) (hexpected : added.expected = view.expected)
    (hadded : added.devices = some devices) (hdevices : view.devices.getD [] = devices) :
    view.Established := by
  obtain ⟨present, rows, hsome, hread, hne, hrest⟩ := h
  cases hadded.symm.trans hsome
  refine ⟨devices, rows, ?_, hrows ▸ hread, hne, hexpected ▸ hrest⟩
  cases hview : view.devices with
  | none =>
    rw [hview, Option.getD_none] at hdevices
    exact absurd hdevices.symm hne
  | some present => exact congrArg some (by simpa [hview] using hdevices)

end KindView

section Added

variable {samples added : FabricSamples} {expected : List ObservedIdentity}

lemma getD_view_devices (kind : Kind) (samples : FabricSamples) (expected : List ObservedIdentity) :
    (kind.view samples expected).devices.getD [] =
      ((samples.topology.toOption.map NmxFmTopologyInfo.deviceTopoInfo).getD []).filterMap kind.member := by
  unfold Kind.view
  cases samples.topology.toOption <;> rfl

lemma getD_map_map {ν : Type} (toRow : ν → Row) (nodes : Option (List ν)) :
    (nodes.map (map toRow)).getD [] = (nodes.getD []).map toRow := by
  cases nodes <;> rfl

lemma member_some (kind : Kind) (device : Device) : kind.member (some device) = none ∨
    ∃ identity, kind.member (some device) = some (some ⟨identity, deviceHealth device⟩) := by
  cases kind <;> cases device
  · exact .inl rfl
  · exact .inr ⟨_, rfl⟩
  · exact .inr ⟨_, rfl⟩
  · exact .inl rfl

lemma AddsFault.established (h : AddsFault samples added) {kind : Kind}
    (hestablished : (kind.view added expected).Established) : (kind.view samples expected).Established := by
  cases h with
  | @device before after device reported fault =>
    obtain hother | ⟨identity, hmember⟩ := member_some kind device
    · refine hestablished.of_same_devices (kind.view samples expected) rfl rfl rfl ?_
      have hsame :
          (before ++ some device :: after).filterMap kind.member =
            (before ++ after).filterMap kind.member := by
        rw [filterMap_append, filterMap_append, filterMap_cons, hother]
      rw [getD_view_devices, reported]
      exact hsame.symm
    · -- the added device would have to be healthy
      obtain ⟨devices, rows, hsome, -, -, -, -, hsound, -⟩ := hestablished
      cases hsome
      have hmem :
          some ⟨identity, deviceHealth device⟩ ∈ (before ++ some device :: after).filterMap kind.member :=
        mem_filterMap.mpr ⟨some device, by simp, hmember⟩
      cases fault.symm.trans (hsound _ hmem).1
  | @switchNode before after node reported fault =>
    cases kind with
    | compute => exact hestablished
    | switches =>
      have hadded :
          (Kind.switches.view { samples with switchNodes := .ok (before ++ node :: after) } expected).rows =
          some (before.map switchRow ++ switchRow node :: after.map switchRow) := congrArg some map_append
      refine hestablished.of_added_row (Kind.switches.view samples expected) rfl rfl hadded ?_ fault
      exact (getD_map_map switchRow _).trans ((congrArg _ reported).trans map_append)
  | @computeNode before after node reported fault =>
    cases kind with
    | switches => exact hestablished
    | compute =>
      have hadded :
          (Kind.compute.view { samples with computeNodes := .ok (before ++ node :: after) } expected).rows =
          some (before.map computeRow ++ computeRow node :: after.map computeRow) :=
            congrArg some map_append
      refine hestablished.of_added_row (Kind.compute.view samples expected) rfl rfl hadded ?_ fault
      exact (getD_map_map computeRow _).trans ((congrArg _ reported).trans map_append)

end Added

/-- Abnormal means exactly that a fault was reported, normal exactly that everything required was
observed to be healthy, and an added fault never turns the verdict to normal. -/
theorem interpretGroup_never_masks (samples : FabricSamples)
    (expectedSwitches expectedComputes : List ObservedIdentity) (kind : Kind) :
    let verdict :=
      fun samples => kind.status (interpretGroup samples expectedSwitches expectedComputes).health
    let view := kind.view samples (kind.expected expectedSwitches expectedComputes)
    (verdict samples = .abnormal ↔ view.HasFault) ∧ (verdict samples = .normal ↔ view.Established) ∧
      ∀ added, AddsFault samples added → verdict added = .normal → verdict samples = .normal := by
  intro verdict view
  have hverdict : ∀ samples, verdict samples =
      (kind.view samples (kind.expected expectedSwitches expectedComputes)).verdict :=
    fun samples => status_interpretGroup kind samples expectedSwitches expectedComputes
  refine ⟨?_, ?_, ?_⟩
  · rw [hverdict]
    exact KindView.verdict_eq_abnormal_iff _
  · rw [hverdict]
    exact KindView.verdict_eq_normal_iff _
  · intro added hadded hnormal
    rw [hverdict, KindView.verdict_eq_normal_iff] at hnormal ⊢
    exact hadded.established hnormal

end FabricObservation

end RackManagement
