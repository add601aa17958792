import RackManagement.Model.ManagedFabric
import RackManagement.Proofs.LayoutPlanning

/-! # Ownership of controller settings -/

namespace RackManagement

open Library List OrderedMap

abbrev SettingKey := String ×ₗ String

/-- What a target does to its setting: a value, or absence. -/
def FabricStaticConfigTarget.assignment (target : FabricStaticConfigTarget) : SettingKey × Option String :=
  (FabricLayoutProfile.targetKey target,
    match target.action with
    | .set value => some value
    | .remove => none)

def ScaleUpFabricStaticConfig.settingKey (entry : ScaleUpFabricStaticConfig) : SettingKey :=
  toLex (entry.configFileName, entry.key)

/-- The settings of a planned controller configuration: those it writes and those it removes. -/
def PlannedFabric.assignments (fabric : PlannedFabric) : List (SettingKey × Option String) :=
  fabric.config.extraStaticConfigs.map (fun entry => (entry.settingKey, some entry.value)) ++
    fabric.absentStaticConfigs.toList.map (fun key => (key, none))

def FabricLayoutProfile.LocatedRule.Selects (located : FabricLayoutProfile.LocatedRule)
    (spec : ScaleUpFabricSpec)
    (topologyType : String) : Prop :=
  located.fabric.computeTrayCount = spec.computeTrayCount ∧
    located.fabric.switchTrayCount = spec.switchTrayCount ∧
    located.rule.topologyType = topologyType

/-- The configuration owns the profile's settings and leaves the rest to the caller. -/
structure PlannedFabric.Owns (profile : FabricLayoutProfile) (config : ScaleUpFabricConfig)
    (spec : ScaleUpFabricSpec)
    (located : FabricLayoutProfile.LocatedRule) (fabric : PlannedFabric) : Prop where
  topology : fabric.config.topologyType = trim config.topologyType
  declared : located ∈ profile.controllerRules
  selected : located.Selects spec fabric.config.topologyType
  unique : ∀ other ∈ profile.controllerRules, other.Selects spec fabric.config.topologyType →
    other = located
  once : (fabric.assignments.map Prod.fst).Nodup
  covers : ∀ key, key ∈ profile.managedKeys ↔
    ∃ target ∈ located.rule.staticConfigs, target.assignment.1 = key
  prescribed : ∀ target ∈ located.rule.staticConfigs, target.assignment ∈ fabric.assignments
  supplied : ∀ assignment ∈ fabric.assignments, assignment.1 ∉ profile.managedKeys →
    ∃ entry ∈ config.extraStaticConfigs.map LayoutPlanner.trimEntry, assignment =
      (entry.settingKey, some entry.value)

/-- The settings of a controller once a configuration has been applied. -/
def ConfigEntries.applyTo (desired : ConfigEntries) (settings : SettingKey → Option String) :
    SettingKey → Option String :=
  fun key => (desired.lookup key).getD (settings key)

/-- Whatever was applied before, the profile's settings are as this configuration assigns them. -/
def PlannedFabric.Restores (profile : FabricLayoutProfile) (fabric : PlannedFabric) : Prop :=
  ∀ key ∈ profile.managedKeys, ∃ value, (key, value) ∈ fabric.assignments ∧
    ∀ (earlier : PlannedFabric) (settings : SettingKey → Option String),
      (desiredConfig fabric).applyTo ((desiredConfig earlier).applyTo settings) key = value

namespace FabricLayoutProfile

variable {profile : FabricLayoutProfile}

lemma checkTarget_spec {location : String} {target : FabricStaticConfigTarget × Nat}
    {keys next : List SettingKey}
    (h : checkTarget location keys target = .ok next) :
    validateStaticConfigKey target.1.configFileName target.1.key = .ok () ∧ targetKey target.1 ∉ keys ∧
      next = targetKey target.1 :: keys := by
  obtain ⟨_, hkey, h⟩ := bind_eq_ok.mp h
  have hkey := mapError_eq_ok hkey
  dsimp only at h
  split at h
  · obtain ⟨_, -, h⟩ := bind_eq_ok.mp h
    obtain ⟨_, hfresh, h⟩ := bind_eq_ok.mp h
    cases h
    exact ⟨hkey, failIf_eq_ok.mp hfresh, rfl⟩
  · obtain ⟨_, -, h⟩ := bind_eq_ok.mp h
    obtain ⟨_, hfresh, h⟩ := bind_eq_ok.mp h
    cases h
    exact ⟨hkey, failIf_eq_ok.mp hfresh, rfl⟩

lemma checkTargets_spec {location : String} {targets : List FabricStaticConfigTarget} {start : Nat}
    {keys result : List SettingKey}
    (h : (targets.zipIdx start).foldlM (checkTarget location) keys = .ok result) :
    result = (targets.map targetKey).reverse ++ keys ∧ (targets.map targetKey).Nodup ∧
      ∀ target ∈ targets, targetKey target ∉ keys ∧
        validateStaticConfigKey target.configFileName target.key = .ok () := by
  induction targets generalizing start keys with
  | nil =>
    cases h
    exact ⟨rfl, nodup_nil, fun _ hmem => absurd hmem not_mem_nil⟩
  | cons target targets ih =>
    rw [zipIdx_cons, foldlM_cons] at h
    obtain ⟨next, hnext, h⟩ := bind_eq_ok.mp h
    obtain ⟨hkey, hfresh, rfl⟩ := checkTarget_spec hnext
    obtain ⟨rfl, hnodup, hrest⟩ := ih h
    refine ⟨by simp, ?_, ?_⟩
    · rw [map_cons, nodup_cons]
      refine ⟨?_, hnodup⟩
      intro hmem
      obtain ⟨other, hother, heq⟩ := mem_map.mp hmem
      exact (hrest other hother).1 (heq ▸ mem_cons_self)
    · intro other hother
      obtain rfl | hother := mem_cons.mp hother
      · exact ⟨hfresh, hkey⟩
      · have hother := hrest other hother
        exact ⟨fun hmem => hother.1 (mem_cons_of_mem _ hmem), hother.2⟩

structure Covered (profile : FabricLayoutProfile) (rule : FabricControllerRule) : Prop where
  nodup : (rule.staticConfigs.map targetKey).Nodup
  keys : ∀ key, key ∈ profile.managedKeys ↔ key ∈ rule.staticConfigs.map targetKey
  valid : ∀ target ∈ rule.staticConfigs, validateStaticConfigKey target.configFileName target.key = .ok ()

def selector (located : LocatedRule) : String × Nat × Nat :=
  (located.rule.topologyType, located.fabric.computeTrayCount, located.fabric.switchTrayCount)

lemma checkControllerRule_spec {seen next : SeenRules} {located : LocatedRule}
    (h : profile.checkControllerRule seen located = .ok next) :
    profile.Covered located.rule ∧ selector located ∉ seen.selectors ∧
      next.selectors = selector located :: seen.selectors := by
  obtain ⟨_, -, h⟩ := bind_eq_ok.mp h
  obtain ⟨_, hunique, h⟩ := bind_eq_ok.mp h
  obtain ⟨keys, hkeys, h⟩ := bind_eq_ok.mp h
  obtain ⟨_, hcover, h⟩ := bind_eq_ok.mp h
  cases h
  obtain ⟨rfl, hnodup, hvalid⟩ := checkTargets_spec hkeys
  have hcover := not_not.mp (failIf_eq_ok.mp hcover)
  refine ⟨⟨hnodup, ?_, fun target htarget => (hvalid target htarget).2⟩, failIf_eq_ok.mp hunique, rfl⟩
  intro key
  rw [← hcover, OrderedSet.mem_ofList, append_nil, mem_reverse]

lemma checkControllerRules_spec {rules : List LocatedRule} {seen result : SeenRules}
    (h : rules.foldlM profile.checkControllerRule seen = .ok result) :
    (∀ located ∈ rules, profile.Covered located.rule ∧ selector located ∉ seen.selectors) ∧
      (rules.map selector).Nodup := by
  induction rules generalizing seen with
  | nil => exact ⟨fun _ hmem => absurd hmem not_mem_nil, nodup_nil⟩
  | cons located rules ih =>
    rw [foldlM_cons] at h
    obtain ⟨next, hnext, h⟩ := bind_eq_ok.mp h
    obtain ⟨hcovered, hfresh, hselectors⟩ := checkControllerRule_spec hnext
    obtain ⟨hrest, hnodup⟩ := ih h
    rw [hselectors] at hrest
    constructor
    · intro other hother
      obtain rfl | hother := mem_cons.mp hother
      · exact ⟨hcovered, hfresh⟩
      · have hother := hrest other hother
        exact ⟨hother.1, fun hmem => hother.2 (mem_cons_of_mem _ hmem)⟩
    · rw [map_cons, nodup_cons]
      refine ⟨?_, hnodup⟩
      intro hmem
      obtain ⟨other, hother, heq⟩ := mem_map.mp hmem
      exact (hrest other hother).2 (heq ▸ mem_cons_self)

lemma validateControllerRules_spec (h : profile.validateControllerRules = .ok ()) :
    (∀ located ∈ profile.controllerRules, profile.Covered located.rule) ∧
      (profile.controllerRules.map selector).Nodup := by
  unfold validateControllerRules at h
  split at h
  case isTrue hempty =>
    rw [isEmpty_iff.mp hempty]
    exact ⟨fun _ hmem => absurd hmem not_mem_nil, nodup_nil⟩
  case isFalse =>
    split at h
    · cases h
    · obtain ⟨_, -, h⟩ := bind_eq_ok.mp h
      obtain ⟨_, -, h⟩ := bind_eq_ok.mp h
      obtain ⟨seen, hseen, -⟩ := bind_eq_ok.mp h
      obtain ⟨hcovered, hnodup⟩ := checkControllerRules_spec hseen
      exact ⟨fun located hlocated => (hcovered located hlocated).1, hnodup⟩

lemma validateControllerRules_of_validate (h : profile.validate = .ok ()) :
    profile.validateControllerRules = .ok () := by
  obtain ⟨_, -, h⟩ := bind_eq_ok.mp h
  obtain ⟨_, -, h⟩ := bind_eq_ok.mp h
  obtain ⟨_, -, h⟩ := bind_eq_ok.mp h
  obtain ⟨_, -, h⟩ := bind_eq_ok.mp h
  obtain ⟨_, -, h⟩ := bind_eq_ok.mp h
  obtain ⟨_, -, h⟩ := bind_eq_ok.mp h
  exact h

variable {rule : FabricControllerRule}

lemma mem_controllerRules {fabric : FabricRule} (hfabric : fabric ∈ profile.fabricRules)
    (hrule : rule ∈ fabric.controllerRules) :
    ∃ located ∈ profile.controllerRules, located.fabric = fabric ∧ located.rule = rule := by
  rw [← zipIdx_map_fst 0 profile.fabricRules] at hfabric
  rw [← zipIdx_map_fst 0 fabric.controllerRules] at hrule
  obtain ⟨⟨fabric, fabricIndex⟩, hfabricEntry, rfl⟩ := mem_map.mp hfabric
  obtain ⟨⟨rule, ruleIndex⟩, hruleEntry, rfl⟩ := mem_map.mp hrule
  refine ⟨⟨fabricIndex, ruleIndex, fabric, rule⟩, ?_, rfl, rfl⟩
  exact mem_flatMap.mpr ⟨(fabric, fabricIndex), hfabricEntry,
    mem_map.mpr ⟨(rule, ruleIndex), hruleEntry, rfl⟩⟩

end FabricLayoutProfile

namespace LayoutPlanner

open FabricLayoutProfile

variable {profile : FabricLayoutProfile} {switches computes : List ObservedPlacement}
  {requested : List ScaleUpFabricSpec}
  {config : ScaleUpFabricConfig}

variable {managed : ScaleUpFabricConfig} {values : OrderedMap SettingKey String} {fabric : PlannedFabric}

lemma controllerRule_spec {spec : ScaleUpFabricSpec}
    (h : controllerRule? profile managed spec.computeTrayCount spec.switchTrayCount = some rule) :
    ∃ located ∈ profile.controllerRules, located.rule = rule ∧
      located.Selects spec managed.topologyType := by
  obtain ⟨fabric, hfabric, hrule⟩ := Option.bind_eq_some_iff.mp h
  obtain ⟨located, hlocated, rfl, rfl⟩ :=
    mem_controllerRules (mem_of_find?_eq_some hfabric) (mem_of_find?_eq_some hrule)
  have hsize := find?_some hfabric
  have htopology := find?_some hrule
  simp only [decide_eq_true_eq] at hsize htopology
  exact ⟨located, hlocated, rfl, hsize.1, hsize.2, htopology⟩

lemma applyTarget_spec {targets next : ControllerTargets} {target : FabricStaticConfigTarget}
    (h : applyTarget targets target = .ok next) :
    (∀ key, key ≠ targetKey target → next.1.lookup key = targets.1.lookup key ∧
      (key ∈ next.2 ↔ key ∈ targets.2)) ∧
      match target.action with
      | .set value => next.1.lookup (targetKey target) = some value ∧ next.2 = targets.2
      | .remove =>
        next.1 = targets.1 ∧ next.1.lookup (targetKey target) = none ∧ targetKey target ∈ next.2 := by
  unfold applyTarget at h
  cases haction : target.action with
  | set value =>
    rw [haction] at h
    dsimp only at h
    split at h
    · cases h
    · cases h
      refine ⟨fun key hne => ⟨?_, Iff.rfl⟩, ?_, rfl⟩
      · rw [lookup_insert, if_neg hne]
      · rw [lookup_insert, if_pos rfl]
  | remove =>
    rw [haction] at h
    dsimp only at h
    split at h
    · cases h
    · rename_i hnone
      cases h
      refine ⟨fun key hne => ⟨rfl, ?_⟩, rfl, ?_, ?_⟩
      · rw [OrderedSet.mem_ofList, mem_cons, OrderedSet.mem_def]
        exact or_iff_right hne
      · simpa using hnone
      · exact OrderedSet.mem_ofList.mpr mem_cons_self

lemma applyTargets_spec {targets : List FabricStaticConfigTarget} {start result : ControllerTargets}
    (hnodup : (targets.map targetKey).Nodup) (h : targets.foldlM applyTarget start = .ok result) :
    (∀ key, key ∉ targets.map targetKey →
      result.1.lookup key = start.1.lookup key ∧ (key ∈ result.2 ↔ key ∈ start.2)) ∧
    ∀ target ∈ targets,
      match target.action with
      | .set value => result.1.lookup (targetKey target) = some value ∧
        (targetKey target ∈ result.2 ↔ targetKey target ∈ start.2)
      | .remove => result.1.lookup (targetKey target) = none ∧ targetKey target ∈ result.2 := by
  induction targets generalizing start with
  | nil =>
    cases h
    exact ⟨fun _ _ => ⟨rfl, Iff.rfl⟩, fun _ hmem => absurd hmem not_mem_nil⟩
  | cons target targets ih =>
    rw [foldlM_cons] at h
    rw [map_cons, nodup_cons] at hnodup
    obtain ⟨next, hnext, h⟩ := bind_eq_ok.mp h
    obtain ⟨hother, hown⟩ := applyTarget_spec hnext
    obtain ⟨hkept, hsettled⟩ := ih hnodup.2 h
    constructor
    · intro key hkey
      rw [map_cons, mem_cons, not_or] at hkey
      rw [(hkept key hkey.2).1, (hkept key hkey.2).2]
      exact hother key hkey.1
    · intro other hmem
      obtain rfl | hmem := mem_cons.mp hmem
      · have hkept := hkept _ hnodup.1
        cases haction : other.action with
        | set value =>
          rw [haction] at hown
          dsimp only at hown ⊢
          rw [hkept.1, hkept.2, hown.2]
          exact ⟨hown.1, Iff.rfl⟩
        | remove =>
          rw [haction] at hown
          dsimp only at hown ⊢
          rw [hkept.1, hkept.2]
          exact hown.2
      · have hne : targetKey other ≠ targetKey target := by
          intro heq
          exact hnodup.1 (heq ▸ mem_map_of_mem hmem)
        have hsettled := hsettled other hmem
        cases haction : other.action with
        | set value =>
          rw [haction] at hsettled
          dsimp only at hsettled ⊢
          rw [← (hother _ hne).2]
          exact hsettled
        | remove =>
          rw [haction] at hsettled
          exact hsettled

lemma normalizeEntries_eq {entries normalized : List ScaleUpFabricStaticConfig}
    {keys : List (String × String)}
    (h : normalizeEntries entries keys = .ok normalized) : normalized = entries.map trimEntry := by
  induction entries generalizing normalized keys with
  | nil =>
    cases h
    rfl
  | cons entry entries ih =>
    obtain ⟨_, -, h⟩ := bind_eq_ok.mp h
    obtain ⟨_, -, h⟩ := bind_eq_ok.mp h
    obtain ⟨_, -, h⟩ := bind_eq_ok.mp h
    obtain ⟨rest, hrest, h⟩ := bind_eq_ok.mp h
    cases h
    rw [map_cons, ih hrest]

lemma validateManagedConfig_eq (h : validateManagedConfig config = .ok managed) :
    managed = ⟨trim config.topologyType, config.extraStaticConfigs.map trimEntry⟩ := by
  obtain ⟨validated, hvalidated, h⟩ := bind_eq_ok.mp h
  obtain ⟨_, -, h⟩ := bind_eq_ok.mp h
  obtain ⟨_, -, h⟩ := bind_eq_ok.mp h
  cases h
  obtain ⟨_, -, h⟩ := bind_eq_ok.mp hvalidated
  obtain ⟨_, -, h⟩ := bind_eq_ok.mp h
  obtain ⟨entries, hentries, h⟩ := bind_eq_ok.mp h
  cases h
  rw [normalizeEntries_eq hentries]

lemma assignments_eq (h : fabric.config.extraStaticConfigs =
      values.entries.map (fun entry => ⟨(ofLex entry.1).1, (ofLex entry.1).2, entry.2⟩)) :
    fabric.assignments = values.entries.map (fun entry => (entry.1, some entry.2)) ++
      fabric.absentStaticConfigs.toList.map (fun key => (key, none)) := by
  rw [PlannedFabric.assignments, h, map_map]
  rfl

variable {absent : OrderedSet SettingKey}

lemma mem_assignments_some {key : SettingKey} {value : String} :
    (key, some value) ∈ values.entries.map (fun entry => (entry.1, some entry.2)) ++
      absent.toList.map (fun key => (key, none)) ↔ values.lookup key = some value := by
  have hentry : (key, value) ∈ values.entries ↔ values.lookup key = some value := mem_entries_iff
  rw [← hentry, mem_append, mem_map, mem_map]
  constructor
  · rintro (⟨⟨_, _⟩, hmem, heq⟩ | ⟨_, -, heq⟩)
    · cases heq
      exact hmem
    · cases heq
  · intro hmem
    exact .inl ⟨(key, value), hmem, rfl⟩

lemma mem_assignments_none {key : SettingKey} :
    (key, none) ∈ values.entries.map (fun entry => (entry.1, some entry.2)) ++
      absent.toList.map (fun key => (key, none)) ↔ key ∈ absent := by
  simp [OrderedSet.mem_def]

lemma owns_of_resolveControllerConfig {spec : ScaleUpFabricSpec}
    (hvalid : profile.validateControllerRules = .ok ())
    (hmanaged : validateManagedConfig config = .ok managed)
    (h : resolveControllerConfig profile managed spec.computeTrayCount spec.switchTrayCount =
      .ok (fabric.config, fabric.absentStaticConfigs)) :
    ∃ located, PlannedFabric.Owns profile config spec located fabric := by
  obtain ⟨hcovered, hselectors⟩ := validateControllerRules_spec hvalid
  have hmanaged := validateManagedConfig_eq hmanaged
  unfold resolveControllerConfig at h
  cases hrule : controllerRule? profile managed spec.computeTrayCount spec.switchTrayCount with
  | none =>
    rw [hrule] at h
    cases h
  | some rule =>
    rw [hrule] at h
    obtain ⟨⟨values, absent⟩, htargets, h⟩ := bind_eq_ok.mp h
    obtain ⟨_, -, h⟩ := bind_eq_ok.mp h
    obtain ⟨hconfig, habsent⟩ := Prod.mk.inj (Except.ok.inj h)
    obtain ⟨located, hlocated, rfl, hselected⟩ := controllerRule_spec hrule
    have hcovered := hcovered located hlocated
    obtain ⟨hkept, hsettled⟩ := applyTargets_spec hcovered.nodup htargets
    have hassignments := assignments_eq (congrArg ScaleUpFabricConfig.extraStaticConfigs hconfig).symm
    have htopology : fabric.config.topologyType = managed.topologyType :=
      (congrArg ScaleUpFabricConfig.topologyType hconfig).symm
    dsimp only at habsent hassignments
    rw [← habsent] at hassignments
    have hempty : ∀ key : SettingKey, key ∉ OrderedSet.ofList ([] : List SettingKey) :=
      fun key hmem => not_mem_nil (OrderedSet.mem_ofList.mp hmem)
    -- Only targets that remove a setting enter the second table.
    have habsent :
        ∀ key ∈ absent, values.lookup key = none ∧ key ∈ located.rule.staticConfigs.map targetKey := by
      intro key hkey
      have hmem : key ∈ located.rule.staticConfigs.map targetKey := by
        by_contra hnot
        exact hempty key ((hkept key hnot).2.mp hkey)
      refine ⟨?_, hmem⟩
      obtain ⟨target, htarget, rfl⟩ := mem_map.mp hmem
      have hsettled := hsettled target htarget
      cases haction : target.action with
      | set value =>
        rw [haction] at hsettled
        exact absurd (hsettled.2.mp hkey) (hempty _)
      | remove =>
        rw [haction] at hsettled
        exact hsettled.1
    refine ⟨located, ?_⟩
    exact {
      topology := by rw [htopology, hmanaged]
      declared := hlocated
      selected := htopology ▸ hselected
      unique := by
        intro other hother hselects
        rw [htopology] at hselects
        have hselector : selector other = selector located := by
          simp only [selector, hselects.1, hselects.2.1, hselects.2.2, hselected.1, hselected.2.1,
            hselected.2.2]
        exact inj_on_of_nodup_map hselectors hother hlocated hselector
      once := by
        rw [hassignments, map_append, map_map, map_map]
        apply List.Nodup.append
        · exact values.nodup_keys
        · exact (map_id absent.toList).symm ▸ absent.nodup_toList
        · intro key hvalue hremoved
          have hremoved : key ∈ absent := by simpa [OrderedSet.mem_def] using hremoved
          have hlookup := mem_keys_iff.mp hvalue
          rw [(habsent key hremoved).1] at hlookup
          cases hlookup
      covers := by
        intro key
        rw [hcovered.keys key, mem_map]
        rfl
      prescribed := by
        intro target htarget
        have hsettled := hsettled target htarget
        rw [hassignments, FabricStaticConfigTarget.assignment]
        cases haction : target.action with
        | set value =>
          rw [haction] at hsettled
          exact mem_assignments_some.mpr hsettled.1
        | remove =>
          rw [haction] at hsettled
          exact mem_assignments_none.mpr hsettled.2
      supplied := by
        rintro ⟨key, value⟩ hmem hunmanaged
        rw [hcovered.keys] at hunmanaged
        rw [hassignments] at hmem
        cases value with
        | none => exact absurd (habsent key (mem_assignments_none.mp hmem)).2 hunmanaged
        | some value =>
          have hvalue := mem_assignments_some.mp hmem
          rw [(hkept key hunmanaged).1] at hvalue
          obtain ⟨entry, hentry, heq⟩ := mem_map.mp (mem_of_lookup_ofList hvalue)
          cases heq
          rw [hmanaged] at hentry
          exact ⟨entry, hentry, rfl⟩ }

lemma resolved_of_planFabrics {pairs : List (ScaleUpFabricSpec × ResolvedPlacement)}
    {fabrics : List PlannedFabric} {links result : OrderedMap String LinkStates}
    (h : planFabrics profile switches computes managed pairs links = .ok (fabrics, result)) :
    List.Forall₂ (fun pair fabric =>
      resolveControllerConfig profile managed pair.1.computeTrayCount pair.1.switchTrayCount =
        .ok (fabric.config, fabric.absentStaticConfigs)) pairs fabrics := by
  induction pairs generalizing links fabrics with
  | nil =>
    cases h
    exact .nil
  | cons pair pairs ih =>
    obtain ⟨⟨fabric, middle⟩, hfabric, h⟩ := bind_eq_ok.mp h
    obtain ⟨⟨rest, final⟩, hrest, h⟩ := bind_eq_ok.mp h
    cases h
    refine .cons ?_ (ih hrest)
    obtain ⟨⟨config, absent⟩, hresolved, hfabric⟩ := bind_eq_ok.mp hfabric
    dsimp only at hfabric
    split at hfabric
    · cases hfabric
    · obtain ⟨_, -, hfabric⟩ := bind_eq_ok.mp hfabric
      cases hfabric
      exact hresolved

lemma resolved_of_planLayout {plan : FabricPlan}
    (h : planLayout profile switches computes requested config = .ok plan) :
    profile.validateControllerRules = .ok () ∧ ∃ managed, validateManagedConfig config = .ok managed ∧
      List.Forall₂ (fun spec fabric =>
        resolveControllerConfig profile managed spec.computeTrayCount spec.switchTrayCount =
          .ok (fabric.config, fabric.absentStaticConfigs)) requested plan.fabrics := by
  obtain ⟨_, hprofile, h⟩ := bind_eq_ok.mp h
  obtain ⟨_, -, h⟩ := bind_eq_ok.mp h
  refine ⟨validateControllerRules_of_validate hprofile, ?_⟩
  split at h
  · rename_i spec hspec
    obtain ⟨hrequested, hcomputeCount, hswitchCount⟩ := fullRackRequest_eq_some hspec
    obtain ⟨_, -, h⟩ := bind_eq_ok.mp h
    obtain ⟨managed, hmanaged, h⟩ := bind_eq_ok.mp h
    obtain ⟨⟨resolved, absent⟩, hresolved, h⟩ := bind_eq_ok.mp h
    obtain ⟨_, -, h⟩ := bind_eq_ok.mp h
    cases h
    refine ⟨managed, hmanaged, ?_⟩
    rw [← hcomputeCount, ← hswitchCount] at hresolved
    rw [hrequested]
    exact .cons hresolved .nil
  · obtain ⟨_, -, h⟩ := bind_eq_ok.mp h
    obtain ⟨managed, hmanaged, h⟩ := bind_eq_ok.mp h
    obtain ⟨_, -, h⟩ := bind_eq_ok.mp h
    obtain ⟨placements, -, h⟩ := bind_eq_ok.mp h
    dsimp only at h
    split at h
    · cases h
    · rename_i selected hselected
      obtain ⟨⟨fabrics, links⟩, hfabrics, h⟩ := bind_eq_ok.mp h
      cases h
      have hlength := (selectPlacements_spec hselected).1.length_eq
      have hresolved := resolved_of_planFabrics hfabrics
      refine ⟨managed, hmanaged, ?_⟩
      have hzip : (requested.zip selected).map Prod.fst = requested := map_fst_zip hlength.le
      rw [← hzip, forall₂_map_left_iff]
      exact hresolved

lemma ne_topology_of_validateStaticConfigKey {file key : String}
    (h : validateStaticConfigKey file key = .ok ()) :
    toLex (file, key) ≠ toLex (nmxCFmConfigFile, nmxCTopologyKey) := by
  obtain ⟨_, -, h⟩ := bind_eq_ok.mp h
  intro heq
  obtain ⟨rfl, rfl⟩ := Prod.mk.inj (toLex.injective heq)
  exact failIf_eq_ok.mp h ⟨decide_eq_true rfl, decide_eq_true rfl⟩

lemma lookup_desiredConfig {assignment : SettingKey × Option String}
    (honce : (fabric.assignments.map Prod.fst).Nodup) (hmem : assignment ∈ fabric.assignments)
    (htopology : assignment.1 ≠ toLex (nmxCFmConfigFile, nmxCTopologyKey)) :
    (desiredConfig fabric).lookup assignment.1 = some assignment.2 := by
  have honce := honce
  rw [PlannedFabric.assignments, map_append] at honce
  obtain ⟨hvalues, habsent, hdisjoint⟩ := nodup_append'.mp honce
  obtain hvalue | hremoved := mem_append.mp hmem
  · have hkept : assignment.1 ∉
      (fabric.absentStaticConfigs.toList.map (fun key => (key, (none : Option String)))).map Prod.fst :=
      fun hkey => hdisjoint (mem_map_of_mem hvalue) hkey
    rw [desiredConfig, lookup_insertAll_of_notMem hkept, lookup_insert, if_neg htopology]
    exact lookup_ofList_of_mem hvalues hvalue
  · exact lookup_insertAll_of_mem habsent hremoved

/-- A validated profile's settings are assigned once, as the rule for the size and topology
prescribes; everything else comes from the caller. -/
theorem planLayout_owns_settings {plan : FabricPlan}
    (h : planLayout profile switches computes requested config = .ok plan) :
    List.Forall₂ (fun spec fabric =>
      (∃ located, PlannedFabric.Owns profile config spec located fabric) ∧
        fabric.Restores profile) requested plan.fabrics := by
  obtain ⟨hvalid, managed, hmanaged, hresolved⟩ := resolved_of_planLayout h
  apply hresolved.imp
  intro spec fabric hfabric
  obtain ⟨located, howns⟩ := owns_of_resolveControllerConfig hvalid hmanaged hfabric
  refine ⟨⟨located, howns⟩, ?_⟩
  intro key hkey
  obtain ⟨target, htarget, rfl⟩ := (howns.covers key).mp hkey
  have hassigned := howns.prescribed target htarget
  refine ⟨target.assignment.2, hassigned, ?_⟩
  intro earlier settings
  have hcovered := (validateControllerRules_spec hvalid).1 located howns.declared
  have htopology := ne_topology_of_validateStaticConfigKey (hcovered.valid target htarget)
  rw [ConfigEntries.applyTo, lookup_desiredConfig howns.once hassigned htopology, Option.getD_some]

/-- The paired rack with settings that the pairs and the whole rack use differently. -/
def ownedRack : FabricLayoutProfile :=
  { pairedRack with
    fabricRules := pairedRack.fabricRules.map (fun rule => { rule with
      controllerRules :=
        if rule.grouping.isSome then
          [⟨"rack", [⟨"fm_config", "PAIRED", .set "1"⟩, ⟨"fm_config", "WHOLE", .remove⟩]⟩]
        else [⟨"rack", [⟨"fm_config", "WHOLE", .set "yes"⟩, ⟨"fm_config", "PAIRED", .remove⟩]⟩] }) }

/-- The pairs are planned with an entry of the caller. -/
theorem ownedRack_owns_settings : ∃ plan,
    planLayout ownedRack pairedSwitches pairedComputes [⟨1, 1, none⟩, ⟨1, 1, none⟩]
      ⟨"rack", [⟨"sm_config", "LIMIT", "4"⟩]⟩ =
        .ok plan ∧
      List.Forall₂ (fun spec fabric =>
        (∃ located, PlannedFabric.Owns ownedRack ⟨"rack", [⟨"sm_config", "LIMIT", "4"⟩]⟩ spec
        located fabric) ∧ fabric.Restores ownedRack) [⟨1, 1, none⟩, ⟨1, 1, none⟩] plan.fabrics := by
  have hok : (planLayout ownedRack pairedSwitches pairedComputes [⟨1, 1, none⟩, ⟨1, 1, none⟩]
      ⟨"rack", [⟨"sm_config", "LIMIT", "4"⟩]⟩).isOk = true := by decide +kernel
  obtain ⟨plan, hplan⟩ := isOk_iff_exists.mp hok
  exact ⟨plan, hplan, planLayout_owns_settings hplan⟩

/-- A caller's value with white space around it is not planned as it was supplied. -/
theorem ownedRack_trims_value :
    (planLayout ownedRack pairedSwitches pairedComputes [⟨2, 2, none⟩]
      ⟨"rack", [⟨"sm_config", "LIMIT", " 4"⟩]⟩).toOption.map
        (fun plan => plan.fabrics.map PlannedFabric.assignments) =
      some [[(toLex ("fm_config", "WHOLE"), some "yes"), (toLex ("sm_config", "LIMIT"), some "4"),
        (toLex ("fm_config", "PAIRED"), none)]] := by
  decide +kernel

end LayoutPlanner

end RackManagement
