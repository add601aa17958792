import Mathlib.Data.List.Find
import RackManagement.Model.NodeSelectors

/-!
# Normalization of node selectors

Both loops over the descriptors are described by one table of node types with settings.
Normalization turns an absent setting into the default one.
-/

namespace RackManagement.Selectors

open Library List

variable {nodeType : NodeType}

lemma protoNodeTypeToDomain_eq_some {key : Int} : protoNodeTypeToDomain key = some nodeType ↔
      domainNodeTypeToProto nodeType ≠ .unspecified ∧ key = (domainNodeTypeToProto nodeType).number := by
  constructor
  · intro h
    obtain ⟨protoType, hfrom, hdomain⟩ := Option.bind_eq_some_iff.mp h
    have hnumber : protoType.number = key := by
      unfold ProtoNodeType.tryFrom at hfrom
      have hfound := find?_some hfrom
      exact of_decide_eq_true hfound
    have hback : domainNodeTypeToProto nodeType = protoType ∧ protoType ≠ .unspecified := by
      cases protoType <;> cases hdomain <;> decide
    rw [hback.1]
    exact ⟨hback.2, hnumber.symm⟩
  · rintro ⟨hspecified, rfl⟩
    cases nodeType <;> first | rfl | exact absurd rfl hspecified

lemma eq_of_number_eq {other : NodeType} (hspecified : domainNodeTypeToProto nodeType ≠ .unspecified)
    (h : (domainNodeTypeToProto other).number = (domainNodeTypeToProto nodeType).number) :
    other = nodeType := by
  have hnodeType := protoNodeTypeToDomain_eq_some.mpr ⟨hspecified, rfl⟩
  have hother : domainNodeTypeToProto other ≠ .unspecified := by
    intro hunspecified
    rw [← h, hunspecified] at hnodeType
    cases hnodeType
  have hsame := protoNodeTypeToDomain_eq_some.mpr ⟨hother, h.symm⟩
  rw [hnodeType] at hsame
  exact (Option.some.inj hsame).symm

def vendors : List String := ["nvidia", "liteon", "delta", "lenovo", "supermicro", "wiwynn", "dell"]

def roles : List String := ["compute", "power_shelf", "switch"]

lemma descriptorVendor_mem (nodeType : NodeType) : descriptorVendor nodeType ∈ vendors := by
  cases nodeType <;> simp [descriptorVendor, vendors]

lemma roleName_mem (kind : NodeKind) : roleName kind ∈ roles := by
  cases kind <;> simp [roleName, roles]

lemma rule_mem {rule : DescriptorRule} (h : rule ∈ descriptorRules) :
    rule.role ∈ roles ∧ rule.vendor ∈ vendors := by
  revert rule
  simp [descriptorRules, roles, vendors]

/-- Values that are stored as they are read. -/
def IsPlain (value : String) : Prop := trim value = value ∧ value.isEmpty = false

lemma isPlain_role : ∀ role ∈ roles, IsPlain role := by
  unfold IsPlain
  decide +kernel

lemma isPlain_vendor : ∀ vendor ∈ vendors, IsPlain vendor := by
  unfold IsPlain
  decide +kernel

lemma isPlain_productFamilyName (productFamily : ProductFamily) :
    IsPlain (productFamilyName productFamily) := by
  unfold IsPlain
  cases productFamily <;> decide +kernel

lemma parseProductFamily_productFamilyName (productFamily : ProductFamily) :
    parseProductFamily (productFamilyName productFamily) = some productFamily := by
  cases productFamily <;> decide +kernel

lemma normalized_role_eq_iff : ∀ role ∈ roles, ∀ other ∈ roles,
    normalizeDescriptorValue role = normalizeDescriptorValue other ↔ role = other := by
  decide +kernel

lemma normalizeDescriptorValue_vendor : ∀ vendor ∈ vendors, normalizeDescriptorValue vendor = vendor := by
  decide +kernel

lemma requiredDescriptorValue_eq_ok {descriptor : NodeDescriptor} {key value : String}
    (hlookup : descriptor.attributes.lookup key = some value) (h : IsPlain value) :
    requiredDescriptorValue descriptor key = .ok value := by
  unfold requiredDescriptorValue
  rw [hlookup, Option.map_some, h.1, Option.filter_some, h.2]
  rfl

lemma find_canonical (nodeType : NodeType) :
    descriptorRules.find? (fun rule =>
      normalizeDescriptorValue (roleName nodeType.kind) = normalizeDescriptorValue rule.role &&
      nodeType.productFamily = rule.productFamily &&
      normalizeDescriptorValue (descriptorVendor nodeType) = normalizeDescriptorValue rule.vendor) =
      some ⟨roleName nodeType.kind, descriptorVendor nodeType, nodeType.productFamily, nodeType⟩ := by
  have hplain : ∀ rule ∈ descriptorRules,
      (decide (normalizeDescriptorValue (roleName nodeType.kind) = normalizeDescriptorValue rule.role) &&
        decide (nodeType.productFamily = rule.productFamily) &&
        decide (normalizeDescriptorValue (descriptorVendor nodeType) =
          normalizeDescriptorValue rule.vendor)) =
      (decide (roleName nodeType.kind = rule.role) &&
        decide (nodeType.productFamily = rule.productFamily) &&
        decide (descriptorVendor nodeType = rule.vendor)) := by
    intro rule hrule
    obtain ⟨hrole, hvendor⟩ := rule_mem hrule
    rw [normalizeDescriptorValue_vendor _ hvendor,
      normalizeDescriptorValue_vendor _ (descriptorVendor_mem nodeType),
      decide_eq_decide.mpr (normalized_role_eq_iff _ (roleName_mem nodeType.kind) _ hrole)]
  rw [find?_congr hplain]
  cases nodeType <;> rfl

lemma resolveNodeType_canonical (nodeType : NodeType) :
    resolveNodeType none (some (domainNodeTypeToDescriptor nodeType)) = .ok nodeType := by
  have hattributes : validateDescriptorAttributes (domainNodeTypeToDescriptor nodeType) = .ok () := rfl
  have hrole :
      requiredDescriptorValue (domainNodeTypeToDescriptor nodeType) "role" = .ok (roleName nodeType.kind) :=
    requiredDescriptorValue_eq_ok rfl (isPlain_role _ (roleName_mem _))
  have hvendor :
      requiredDescriptorValue (domainNodeTypeToDescriptor nodeType) "vendor" =
        .ok (descriptorVendor nodeType) :=
    requiredDescriptorValue_eq_ok rfl (isPlain_vendor _ (descriptorVendor_mem _))
  have hfamily : requiredDescriptorValue (domainNodeTypeToDescriptor nodeType) "product_family" =
      .ok (productFamilyName nodeType.productFamily) :=
    requiredDescriptorValue_eq_ok rfl (isPlain_productFamilyName _)
  unfold resolveNodeType resolveNodeDescriptor
  refine bind_eq_ok.mpr
    ⟨(), hattributes,
      bind_eq_ok.mpr ⟨_, hrole, bind_eq_ok.mpr ⟨_, hvendor, bind_eq_ok.mpr ⟨_, hfamily, ?_⟩⟩⟩⟩
  simp only [parseProductFamily_productFamilyName, find_canonical]

lemma nodeTypeOfKey_eq_ok {key : Int} :
    nodeTypeOfKey key = .ok nodeType ↔ protoNodeTypeToDomain key = some nodeType := by
  unfold nodeTypeOfKey
  cases protoNodeTypeToDomain key with
  | none => simp
  | some other => simp

section Settings

variable {α : Type}

/-- Every number of the settings stands for a node type. -/
def Known (settings : FiniteMap Int α) : Prop :=
  ∀ key ∈ settings, ∃ nodeType, protoNodeTypeToDomain key = some nodeType

def settingFor (settings : FiniteMap Int α) (nodeType : NodeType) : Option α :=
  settings.lookup (domainNodeTypeToProto nodeType).number

variable {settings : FiniteMap Int α} {entries : List (DescriptorEntry α)}
  {table : List (NodeType × Option α)}
  {entry : DescriptorEntry α} {nodeType : NodeType}

lemma known_of_mapM {nodeTypes : List NodeType}
    (h : settings.keys.mapM nodeTypeOfKey = .ok nodeTypes) : Known settings := by
  intro key hkey
  obtain ⟨nodeType, -, htype⟩ := exists_mem_of_mapM h (AList.mem_keys.mpr hkey)
  exact ⟨nodeType, nodeTypeOfKey_eq_ok.mp htype⟩

lemma foldlM_resolveKey {entries : List (Sigma (fun _ : Int => α))} (hnodup : entries.NodupKeys)
    (hknown : ∀ entry ∈ entries, ∃ nodeType, protoNodeTypeToDomain entry.1 = some nodeType)
    (resolved : FiniteMap NodeType α) :
    ∃ final, entries.foldlM resolveKey resolved = .ok final ∧ ∀ nodeType, final.lookup nodeType =
      (entries.dlookup (domainNodeTypeToProto nodeType).number).or (resolved.lookup nodeType) := by
  induction entries generalizing resolved with
  | nil => exact ⟨resolved, rfl, fun _ => rfl⟩
  | cons entry entries ih =>
    obtain ⟨key, setting⟩ := entry
    obtain ⟨hfresh, hrest⟩ := nodupKeys_cons.mp hnodup
    rw [forall_mem_cons] at hknown
    obtain ⟨known, hkey⟩ := hknown.1
    obtain ⟨final, hfinal, hlookup⟩ := ih hrest hknown.2 (resolved.insert known setting)
    refine ⟨final, ?_, ?_⟩
    · rw [foldlM_cons, resolveKey, nodeTypeOfKey_eq_ok.mpr hkey]
      exact hfinal
    · intro nodeType
      rw [hlookup, FiniteMap.lookup_insert_eq_ite]
      obtain ⟨hspecified, hnumber⟩ := protoNodeTypeToDomain_eq_some.mp hkey
      by_cases heq : nodeType = known
      · subst heq
        have hnone : entries.dlookup (domainNodeTypeToProto nodeType).number = none := by
          rw [dlookup_eq_none]
          rw [← hnumber]
          exact hfresh
        rw [if_pos rfl, hnone, ← hnumber, dlookup_cons_eq]
        rfl
      · have hne : (domainNodeTypeToProto nodeType).number ≠ key := by
          intro hsame
          exact heq (eq_of_number_eq hspecified (hsame.trans hnumber))
        rw [if_neg heq, dlookup_cons_ne _ _ hne]

/-- The table lists the settings under the node types of their descriptors. -/
def Described (entries : List (DescriptorEntry α)) (table : List (NodeType × Option α)) : Prop :=
  List.Forall₂ (fun entry row => resolveNodeType none entry.nodeDescriptor = .ok row.1 ∧
    row.2 = entry.setting) entries table

lemma lookup_row (nodeType row : NodeType) (setting : Option α) (table : List (NodeType × Option α)) :
    ((row, setting) :: table).lookup nodeType = if nodeType = row then some setting
      else table.lookup nodeType := by
  rw [lookup_cons]
  by_cases h : nodeType = row
  · rw [if_pos h, beq_iff_eq.mpr h]
  · rw [if_neg h, beq_eq_false_iff_ne.mpr h]

lemma lookup_eq_none_of_notMem (h : nodeType ∉ table.map Prod.fst) : table.lookup nodeType = none := by
  induction table with
  | nil => rfl
  | cons row table ih =>
    rw [map_cons, mem_cons, not_or] at h
    rw [lookup_row, if_neg h.1, ih h.2]

lemma lookup_of_mem {setting : Option α}
    (hnodup : (table.map Prod.fst).Nodup) (h : (nodeType, setting) ∈ table) :
    table.lookup nodeType = some setting := by
  induction table with
  | nil => cases h
  | cons row table ih =>
    rw [map_cons, nodup_cons] at hnodup
    rw [lookup_row]
    obtain rfl | hmem := mem_cons.mp h
    · rw [if_pos rfl]
    · have hne : nodeType ≠ row.1 := by
        intro heq
        apply hnodup.1
        rw [← heq]
        exact mem_map_of_mem hmem
      rw [if_neg hne, ih hnodup.2 hmem]

lemma mem_of_lookup {setting : Option α} (h : table.lookup nodeType = some setting) :
    (nodeType, setting) ∈ table := by
  induction table with
  | nil => cases h
  | cons row table ih =>
    rw [lookup_row] at h
    by_cases heq : nodeType = row.1
    · rw [if_pos heq] at h
      cases h
      rw [heq]
      exact mem_cons_self
    · rw [if_neg heq] at h
      exact mem_cons_of_mem _ (ih h)

lemma lookup_insert_vacant (resolved : FiniteMap NodeType α) (nodeType : NodeType) (setting : α)
    (other : NodeType) :
    (if nodeType ∈ resolved then resolved else resolved.insert nodeType setting).lookup other =
      (resolved.lookup other).or (if other = nodeType then some setting else none) := by
  by_cases hmem : nodeType ∈ resolved
  · rw [if_pos hmem]
    by_cases heq : other = nodeType
    · subst heq
      obtain ⟨present, hpresent⟩ := Option.isSome_iff_exists.mp (AList.lookup_isSome.mpr hmem)
      rw [hpresent]
      rfl
    · rw [if_neg heq, Option.or_none]
  · rw [if_neg hmem, FiniteMap.lookup_insert_eq_ite]
    by_cases heq : other = nodeType
    · subst heq
      rw [if_pos rfl, if_pos rfl, AList.lookup_eq_none.mpr hmem]
      rfl
    · rw [if_neg heq, if_neg heq, Option.or_none]

lemma resolveEntry_eq_ok {seen : List NodeType} (resolved : FiniteMap NodeType α)
    (htype : resolveNodeType none entry.nodeDescriptor = .ok nodeType) (hseen : nodeType ∉ seen) :
    ∃ next, resolveEntry (seen, resolved) entry = .ok (nodeType :: seen, next) ∧
      ∀ other, next.lookup other =
        (resolved.lookup other).or (if other = nodeType then entry.setting else none) := by
  have hfail :
      failIf (nodeType ∈ seen) (NodeTypeResolutionError.duplicateDescriptor nodeType.asStr) = .ok () :=
    failIf_eq_ok.mpr hseen
  unfold resolveEntry
  rw [htype]
  cases hsetting : entry.setting with
  | none =>
    refine ⟨resolved, ?_, fun other => by simp⟩
    change (failIf (nodeType ∈ seen) _ >>= fun _ => _) = _
    rw [hfail]
    rfl
  | some setting =>
    refine ⟨_, ?_, lookup_insert_vacant resolved nodeType setting⟩
    change (failIf (nodeType ∈ seen) _ >>= fun _ => _) = _
    rw [hfail]
    rfl

lemma notMem_cons_of_row {seen : List NodeType}
    (hnodup : ((row :: table).map Prod.fst).Nodup) (hseen : ∀ other ∈ row :: table, other.1 ∉ seen) :
    ∀ other ∈ table, other.1 ∉ row.1 :: seen := by
  intro other hother hmem
  rw [map_cons, nodup_cons] at hnodup
  obtain heq | hmem := mem_cons.mp hmem
  · apply hnodup.1
    rw [← heq]
    exact mem_map_of_mem hother
  · exact hseen other (mem_cons_of_mem row hother) hmem

lemma foldlM_resolveEntry (h : Described entries table)
    (hnodup : (table.map Prod.fst).Nodup) (seen : List NodeType) (hseen : ∀ row ∈ table, row.1 ∉ seen)
    (resolved : FiniteMap NodeType α) :
    ∃ state, entries.foldlM resolveEntry (seen, resolved) = .ok state ∧
      ∀ nodeType, state.2.lookup nodeType = (resolved.lookup nodeType).or (table.lookup nodeType).join := by
  induction h generalizing seen resolved with
  | nil => exact ⟨(seen, resolved), rfl, fun _ => by simp⟩
  | @cons entry row entries table hrow _ ih =>
    obtain ⟨next, hstep, hnext⟩ := resolveEntry_eq_ok resolved hrow.1 (hseen row mem_cons_self)
    obtain ⟨state, hstate, hlookup⟩ := ih (nodup_cons.mp hnodup).2 _ (notMem_cons_of_row hnodup hseen) next
    refine ⟨state, ?_, ?_⟩
    · rw [foldlM_cons, hstep]
      exact hstate
    · intro nodeType
      rw [hlookup, hnext, lookup_row, Option.or_assoc]
      by_cases heq : nodeType = row.1
      · have hnone : table.lookup nodeType = none := by
          rw [heq]
          exact lookup_eq_none_of_notMem (nodup_cons.mp hnodup).1
        rw [if_pos heq, if_pos heq, hnone, hrow.2]
        simp
      · rw [if_neg heq, if_neg heq]
        rfl

lemma resolveSelectors_eq_ok (hknown : Known settings)
    (h : Described entries table) (hnodup : (table.map Prod.fst).Nodup) :
    ∃ resolved, resolveSelectors settings entries = .ok resolved ∧
      ∀ nodeType, resolved.lookup nodeType =
        (settingFor settings nodeType).or (table.lookup nodeType).join := by
  have hkeys : ∀ entry ∈ settings.entries, ∃ nodeType, protoNodeTypeToDomain entry.1 = some nodeType := by
    intro entry hentry
    exact hknown entry.1 (mem_keys_of_mem hentry)
  obtain ⟨numbered, hnumbered, hfirst⟩ := foldlM_resolveKey settings.nodupKeys hkeys ∅
  obtain ⟨state, hstate, hlookup⟩ := foldlM_resolveEntry h hnodup [] (fun _ _ => not_mem_nil) numbered
  refine ⟨state.2, ?_, ?_⟩
  · rw [resolveSelectors, hnumbered]
    change (entries.foldlM resolveEntry ([], numbered) >>= _) = _
    rw [hstate]
    rfl
  · intro nodeType
    rw [hlookup, hfirst, AList.lookup_empty, Option.or_none]
    rfl

variable [Inhabited α]

/-- The rows that stay descriptors, with the default for absent settings. -/
def retainedRows (table : List (NodeType × Option α)) : List (NodeType × Option α) :=
  (table.filter (fun row => domainNodeTypeToProto row.1 = .unspecified)).map (fun row =>
    (row.1, some (row.2.getD default)))

lemma lookup_retainedRows (table : List (NodeType × Option α)) (nodeType : NodeType) :
    (retainedRows table).lookup nodeType =
      if domainNodeTypeToProto nodeType =
        .unspecified then (table.lookup nodeType).map (fun setting => some (setting.getD default))
      else none := by
  induction table with
  | nil => simp [retainedRows]
  | cons row table ih =>
    unfold retainedRows at ih ⊢
    rw [lookup_row, filter_cons]
    by_cases hrow : domainNodeTypeToProto row.1 = .unspecified
    · rw [if_pos (decide_eq_true hrow), map_cons, lookup_row, ih]
      by_cases heq : nodeType = row.1
      · rw [if_pos heq, if_pos heq, heq, if_pos hrow]
        rfl
      · rw [if_neg heq, if_neg heq]
    · rw [if_neg (by simpa using hrow), ih]
      by_cases heq : nodeType = row.1
      · rw [heq, if_neg hrow, if_neg hrow]
      · rw [if_neg heq]

lemma normalizeEntry_eq_ok {state next : Normalizing α} (h : normalizeEntry state entry = .ok next) :
    ∃ nodeType, resolveNodeType none entry.nodeDescriptor = .ok nodeType ∧ nodeType ∉ state.seen ∧
      next.seen = nodeType :: state.seen ∧
      (∃ kept, next.retained = state.retained ++ kept ∧
        Described kept (retainedRows [(nodeType, entry.setting)])) ∧
      (Known state.settings → Known next.settings ∧ ∀ other, settingFor next.settings other =
        (settingFor state.settings other).or
          (if other = nodeType ∧
            domainNodeTypeToProto other ≠ .unspecified then some (entry.setting.getD default)
              else none)) := by
  unfold normalizeEntry at h
  obtain ⟨nodeType, htype, h⟩ := bind_eq_ok.mp h
  obtain ⟨u, hfail, h⟩ := bind_eq_ok.mp h
  refine ⟨nodeType, htype, failIf_eq_ok.mp hfail, ?_⟩
  cases h
  dsimp only
  refine ⟨rfl, ?_, ?_⟩
  · by_cases hproto : domainNodeTypeToProto nodeType = .unspecified
    · rw [if_pos hproto]
      refine ⟨_, rfl, ?_⟩
      unfold retainedRows
      rw [filter_cons, if_pos (decide_eq_true hproto)]
      exact .cons ⟨resolveNodeType_canonical nodeType, rfl⟩ .nil
    · rw [if_neg hproto]
      refine ⟨[], (append_nil _).symm, ?_⟩
      unfold retainedRows
      rw [filter_cons, if_neg (by simpa using hproto)]
      exact .nil
  · intro hknown
    by_cases hkeep :
      domainNodeTypeToProto nodeType = .unspecified ∨
        (domainNodeTypeToProto nodeType).number ∈ state.settings
    · rw [if_pos hkeep]
      refine ⟨hknown, ?_⟩
      intro other
      by_cases hother : other = nodeType ∧ domainNodeTypeToProto other ≠ .unspecified
      · obtain ⟨rfl, hspecified⟩ := hother
        obtain hunspecified | hmem := hkeep
        · exact absurd hunspecified hspecified
        · obtain ⟨present, hpresent⟩ := Option.isSome_iff_exists.mp (AList.lookup_isSome.mpr hmem)
          unfold settingFor
          rw [hpresent]
          rfl
      · rw [if_neg hother, Option.or_none]
    · rw [if_neg hkeep]
      rw [not_or] at hkeep
      refine ⟨?_, ?_⟩
      · intro key hkey
        obtain rfl | hmem := (AList.mem_insert _).mp hkey
        · exact ⟨nodeType, protoNodeTypeToDomain_eq_some.mpr ⟨hkeep.1, rfl⟩⟩
        · exact hknown key hmem
      · intro other
        unfold settingFor
        rw [FiniteMap.lookup_insert_eq_ite]
        by_cases heq : other = nodeType
        · subst heq
          rw [if_pos rfl, if_pos ⟨rfl, hkeep.1⟩, AList.lookup_eq_none.mpr hkeep.2]
          rfl
        · rw [if_neg (fun hnumber => heq (eq_of_number_eq hkeep.1 hnumber)),
            if_neg (fun hboth => heq hboth.1), Option.or_none]

lemma foldlM_normalizeEntry {state final : Normalizing α}
    (h : entries.foldlM normalizeEntry state = .ok final) (hknown : Known state.settings) :
    ∃ table, Described entries table ∧ (table.map Prod.fst).Nodup ∧ (∀ row ∈ table, row.1 ∉ state.seen) ∧
      (∃ kept, final.retained = state.retained ++ kept ∧ Described kept (retainedRows table)) ∧
        Known final.settings ∧
      ∀ nodeType, settingFor final.settings nodeType = (settingFor state.settings nodeType).or
        (if domainNodeTypeToProto nodeType ≠ .unspecified then
          (table.lookup nodeType).map (fun setting => setting.getD default)
        else none) := by
  induction entries generalizing state with
  | nil =>
    cases h
    exact ⟨[], .nil, nodup_nil, by simp, ⟨[], (append_nil _).symm, .nil⟩, hknown, fun _ => by simp⟩
  | cons entry entries ih =>
    rw [foldlM_cons] at h
    obtain ⟨next, hstep, h⟩ := bind_eq_ok.mp h
    obtain ⟨nodeType, htype, hnew, hseen, ⟨first, hfirst, hdescribed⟩, hsettings⟩ :=
      normalizeEntry_eq_ok hstep
    obtain ⟨hknownNext, hlookup⟩ := hsettings hknown
    obtain ⟨table, htable, hnodup, hfresh, ⟨kept, hkept, hrest⟩, hknownFinal, hfinal⟩ := ih h hknownNext
    have hnotSeen : ∀ row ∈ table, row.1 ≠ nodeType ∧ row.1 ∉ state.seen := by
      intro row hrow
      have hnotMem := hfresh row hrow
      rw [hseen, mem_cons, not_or] at hnotMem
      exact hnotMem
    have hnotMem : nodeType ∉ table.map Prod.fst := by
      intro hmem
      obtain ⟨row, hrow, heq⟩ := mem_map.mp hmem
      exact (hnotSeen row hrow).1 heq
    refine ⟨(nodeType, entry.setting) :: table, .cons ⟨htype, rfl⟩ htable,
      nodup_cons.mpr ⟨hnotMem, hnodup⟩, ?_, ?_,
      hknownFinal, ?_⟩
    · rw [forall_mem_cons]
      exact ⟨hnew, fun row hrow => (hnotSeen row hrow).2⟩
    · refine ⟨first ++ kept, ?_, ?_⟩
      · rw [hkept, hfirst, append_assoc]
      · have happend : retainedRows ((nodeType, entry.setting) :: table) =
            retainedRows [(nodeType, entry.setting)] ++ retainedRows table := by
          unfold retainedRows
          rw [← map_append, ← filter_append]
          rfl
        rw [happend]
        exact rel_append hdescribed hrest
    · intro other
      rw [hfinal, hlookup, Option.or_assoc, lookup_row]
      by_cases heq : other = nodeType
      · rw [heq, lookup_eq_none_of_notMem hnotMem, if_pos rfl]
        by_cases hproto : domainNodeTypeToProto nodeType = .unspecified
        · simp [hproto]
        · simp [hproto]
      · simp [heq]

/-- Every entry without a setting gives way to an enum-keyed setting for its node type. -/
def Complete (settings : FiniteMap Int α) (entries : List (DescriptorEntry α)) : Prop :=
  ∀ entry ∈ entries, entry.setting = none →
    ∃ nodeType, resolveNodeType none entry.nodeDescriptor = .ok nodeType ∧
      (domainNodeTypeToProto nodeType).number ∈ settings

omit [Inhabited α] in
lemma complete_iff (h : Described entries table) (hnodup : (table.map Prod.fst).Nodup) :
    Complete settings entries ↔ ∀ nodeType, table.lookup nodeType = some none →
      settingFor settings nodeType ≠ none := by
  constructor
  · intro hcomplete nodeType hlookup
    obtain ⟨entry, hentry, htype, hsetting⟩ := exists_of_mem_right h (mem_of_lookup hlookup)
    obtain ⟨other, hother, hmem⟩ := hcomplete entry hentry hsetting.symm
    rw [htype] at hother
    cases hother
    unfold settingFor
    exact fun hnone => AList.lookup_eq_none.mp hnone hmem
  · intro hlookup entry hentry hsetting
    obtain ⟨row, hrow, htype, hvalue⟩ := exists_of_mem_left h hentry
    refine ⟨row.1, htype, ?_⟩
    have hpresent := hlookup row.1 (lookup_of_mem hnodup (by rw [← hsetting, ← hvalue]; exact hrow))
    by_contra hmem
    exact hpresent (AList.lookup_eq_none.mpr hmem)

lemma normalizeSelectors_eq_ok {settings' : FiniteMap Int α} {entries' : List (DescriptorEntry α)}
    (h : normalizeSelectors settings entries = .ok (settings', entries')) :
    ∃ original normalized, resolveSelectors settings entries = .ok original ∧
      resolveSelectors settings' entries' = .ok normalized ∧
      ((∀ nodeType, normalized.lookup nodeType = original.lookup nodeType) ↔
        Complete settings entries) := by
  unfold normalizeSelectors at h
  obtain ⟨nodeTypes, hkeys, h⟩ := bind_eq_ok.mp h
  obtain ⟨final, hfold, h⟩ := bind_eq_ok.mp h
  cases h
  have hknown := known_of_mapM hkeys
  obtain ⟨table, htable, hnodup, -, ⟨kept, hkept, hdescribed⟩, hknownFinal, hfinal⟩ :=
    foldlM_normalizeEntry hfold hknown
  dsimp only at hkept
  rw [nil_append] at hkept
  have hnodupKept : ((retainedRows table).map Prod.fst).Nodup := by
    unfold retainedRows
    rw [map_map]
    exact hnodup.sublist (filter_sublist.map Prod.fst)
  obtain ⟨original, horiginal, hlookup⟩ := resolveSelectors_eq_ok hknown htable hnodup
  obtain ⟨normalized, hnormalized, hlookup'⟩ := resolveSelectors_eq_ok hknownFinal hdescribed hnodupKept
  refine ⟨original, normalized, horiginal, ?_, ?_⟩
  · rw [hkept]
    exact hnormalized
  · have hvalue : ∀ nodeType, normalized.lookup nodeType =
        (settingFor settings nodeType).or
          ((table.lookup nodeType).map (fun setting => setting.getD default)) := by
      intro nodeType
      rw [hlookup', hfinal, lookup_retainedRows, Option.or_assoc]
      by_cases hproto : domainNodeTypeToProto nodeType = .unspecified
      · cases table.lookup nodeType <;> simp [hproto]
      · cases table.lookup nodeType <;> simp [hproto]
    rw [complete_iff htable hnodup]
    apply forall_congr'
    intro nodeType
    rw [hvalue, hlookup]
    cases hpresent : settingFor settings nodeType with
    | some setting => simp
    | none =>
      cases hrow : table.lookup nodeType with
      | none => simp
      | some setting => cases setting <;> simp

end Settings

lemma selectionForNodeType_congr {filters filters' : FiniteMap NodeType FirmwareObjectComponentFilter}
    (h : ∀ nodeType, filters.lookup nodeType = filters'.lookup nodeType) :
    selectionForNodeType filters = selectionForNodeType filters' := by
  have hempty : filters.isEmpty = filters'.isEmpty := by
    rw [Bool.eq_iff_iff, FiniteMap.isEmpty_iff, FiniteMap.isEmpty_iff]
    exact forall_congr' (fun nodeType => by rw [h])
  funext globalComponents nodeType
  rw [selectionForNodeType, selectionForNodeType, hempty, h]

/-- Normalization keeps what a request resolves to if and only if every entry without a setting
gives way to an enum-keyed one. -/
theorem normalization_preserves_selectors (firmwareTargets : FiniteMap Int FirmwareTargetList)
    (descriptorFirmwareTargets : List (DescriptorEntry FirmwareTargetList))
    (componentFilters : FiniteMap Int FirmwareObjectComponentFilter)
    (descriptorComponentFilters : List (DescriptorEntry FirmwareObjectComponentFilter)) :
    (∀ firmwareTargets' retained,
      normalizeFirmwareTargetSelectors firmwareTargets descriptorFirmwareTargets =
        .ok (firmwareTargets', retained) →
      ∃ original normalized,
        resolveFirmwareTargetSelectors firmwareTargets descriptorFirmwareTargets = .ok original ∧
        resolveFirmwareTargetSelectors firmwareTargets' retained = .ok normalized ∧
        ((∀ nodeType, normalized.lookup nodeType = original.lookup nodeType) ↔
          Complete firmwareTargets descriptorFirmwareTargets)) ∧
    ∀ componentFilters' retained,
      normalizeComponentFilterSelectors componentFilters descriptorComponentFilters =
        .ok (componentFilters', retained) →
      ∃ original normalized,
        resolveComponentFilterSelectors componentFilters descriptorComponentFilters = .ok original ∧
        resolveComponentFilterSelectors componentFilters' retained = .ok normalized ∧
        ((∀ nodeType, normalized.lookup nodeType = original.lookup nodeType) ↔
          Complete componentFilters descriptorComponentFilters) ∧
        (Complete componentFilters descriptorComponentFilters → ∀ globalComponents nodeType,
          selectionForNodeType normalized globalComponents nodeType =
            selectionForNodeType original globalComponents nodeType) := by
  constructor
  · intro firmwareTargets' retained h
    exact normalizeSelectors_eq_ok h
  · intro componentFilters' retained h
    obtain ⟨original, normalized, horiginal, hnormalized, hsame⟩ := normalizeSelectors_eq_ok h
    refine ⟨original, normalized, horiginal, hnormalized, hsame, ?_⟩
    intro hcomplete globalComponents nodeType
    rw [selectionForNodeType_congr (hsame.mpr hcomplete)]

/-- Originally the entry selects the defaults, normalized it selects everything. -/
theorem absentFilter_selects_all :
    let entries : List (DescriptorEntry FirmwareObjectComponentFilter) :=
      [⟨some (domainNodeTypeToDescriptor .computeGb200Nvidia), none⟩]
    ∃ componentFilters' entries' original normalized,
      normalizeComponentFilterSelectors ∅ entries = .ok (componentFilters', entries') ∧
      resolveComponentFilterSelectors ∅ entries = .ok original ∧
      resolveComponentFilterSelectors componentFilters' entries' = .ok normalized ∧
      selectionForNodeType original [] .computeGb200Nvidia = .ok (some .defaultOnly) ∧
      selectionForNodeType normalized [] .computeGb200Nvidia = .ok (some .all) := by
  refine ⟨AList.singleton 1 ⟨[]⟩, [], ∅, AList.singleton .computeGb200Nvidia ⟨[]⟩, ?_, ?_, ?_, ?_, ?_⟩
  · simp only [normalizeComponentFilterSelectors, normalizeSelectors, foldlM_cons, normalizeEntry,
      resolveNodeType_canonical]
    rfl
  · simp only [resolveComponentFilterSelectors, resolveSelectors, foldlM_cons, resolveEntry,
      resolveNodeType_canonical]
    rfl
  · rfl
  · decide
  · decide

end RackManagement.Selectors
