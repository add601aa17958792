import Mathlib.Algebra.BigOperators.Group.List.Basic
import Mathlib.Algebra.Ring.Nat
import Mathlib.Data.List.Perm.Basic
import RackManagement.Model.LinkDocument
import RackManagement.Proofs.LayoutPlanning

/-! # Reading link-state documents -/

namespace RackManagement

open Library List OrderedMap

lemma foldl_digits_toString (number : Nat) :
    (toString number).toList.foldl (fun number c => number * 10 + (c.toNat - 48)) 0 = number := by
  have hdigits : (toString number).toList = Nat.toDigits 10 number := Nat.toList_repr
  have hread : Nat.ofDigitChars 10 (Nat.toDigits 10 number) 0 = number := Nat.ofDigitChars_ten_toDigits
  rw [Nat.ofDigitChars_eq_foldl] at hread
  simp only [Nat.mul_comm 10] at hread
  rw [hdigits]
  exact hread

lemma toString_injective : Function.Injective (fun number : Nat => toString number) := by
  intro number other heq
  rw [← foldl_digits_toString number, ← foldl_digits_toString other]
  exact congrArg (fun text : String =>
    text.toList.foldl (fun number c => number * 10 + (c.toNat - 48)) 0) heq

lemma canonicalU32_eq_some {text : String} {number : Nat} :
    canonicalU32 text = some number ↔ text = toString number ∧ number < 2 ^ 32 := by
  unfold canonicalU32
  constructor
  · intro h
    dsimp only at h
    split at h
    case isTrue hcanonical =>
      cases h
      exact ⟨hcanonical.2.1.symm, hcanonical.2.2⟩
    case isFalse => cases h
  · rintro ⟨rfl, hlt⟩
    dsimp only
    rw [foldl_digits_toString, if_pos ⟨Nat.repr_ne_empty, rfl, hlt⟩]

lemma dash_notMem_toString (number : Nat) : '-' ∉ (toString number).toList := by
  intro h
  have hdigits : (toString number).toList = Nat.toDigits 10 number := Nat.toList_repr
  rw [hdigits] at h
  have hdigit := Nat.isDigit_of_mem_toDigits (by omega) (by omega) h
  cases hdigit

namespace InterfaceRange

variable (range : InterfaceRange)

/-- A text for a range: one name, or the first and the last number. -/
def DenotedBy (expression : String) : Prop :=
  (range.namePrefix = "acp" ∨ range.namePrefix = "fnm") ∧ 0 < range.first ∧ range.last < 2 ^ 32 ∧
    ((range.first = range.last ∧ expression = range.namePrefix ++ toString range.first) ∨
      expression = range.namePrefix ++ (toString range.first ++ "-" ++ toString range.last))

lemma nodup_names : range.names.Nodup := by
  apply List.Nodup.map _ nodup_range'
  intro number other heq
  have hlist := congrArg String.toList heq
  simp only [String.toList_append] at hlist
  exact toString_injective (String.toList_inj.mp (append_cancel_left hlist))

lemma length_names : range.names.length = range.width := by
  rw [names, length_map, length_range']

end InterfaceRange

namespace LinkDocument

lemma parseIndex_eq_ok {text : String} {number : Nat} :
    parseIndex text = .ok number ↔ text = toString number ∧ 0 < number ∧ number < 2 ^ 32 := by
  unfold parseIndex
  constructor
  · intro h
    split at h
    · rename_i read hread
      obtain ⟨htext, hlt⟩ := canonicalU32_eq_some.mp hread
      split at h
      case isTrue hpos =>
        cases h
        exact ⟨htext, hpos, hlt⟩
      case isFalse => cases h
    · cases h
  · rintro ⟨htext, hpos, hlt⟩
    rw [canonicalU32_eq_some.mpr ⟨htext, hlt⟩]
    exact if_pos hpos

lemma parsePrefix_eq_ok {expression namePrefix suffix : String} :
    parsePrefix expression = .ok (namePrefix, suffix) ↔
      (namePrefix = "acp" ∨ namePrefix = "fnm") ∧ expression = namePrefix ++ suffix := by
  unfold parsePrefix
  constructor
  · intro h
    split at h
    · rename_i hacp
      cases h
      exact ⟨.inl rfl, stripStart_eq_some.mp hacp⟩
    · split at h
      · rename_i hfnm
        cases h
        exact ⟨.inr rfl, stripStart_eq_some.mp hfnm⟩
      · cases h
  · rintro ⟨rfl | rfl, hexpression⟩
    · rw [stripStart_eq_some.mpr hexpression]
    · have hacp : stripStart "acp" expression = none := by
        rw [hexpression, stripStart, startsWith, String.toList_append]
        rfl
      rw [hacp, stripStart_eq_some.mpr hexpression]

lemma bounds_eq_iff {suffix : String} {first last : Nat} :
    (splitOnce '-' suffix).getD (suffix, suffix) = (toString first, toString last) ↔
      (first = last ∧ suffix = toString first) ∨ suffix = toString first ++ "-" ++ toString last := by
  constructor
  · intro h
    cases hsplit : splitOnce '-' suffix with
    | none =>
      rw [hsplit, Option.getD_none] at h
      obtain ⟨hfirst, hlast⟩ := Prod.mk.inj h
      exact .inl ⟨toString_injective (hfirst.symm.trans hlast), hfirst⟩
    | some parts =>
      rw [hsplit, Option.getD_some] at h
      have hsuffix := eq_append_of_splitOnce (hsplit.trans (congrArg some h))
      refine .inr (String.toList_inj.mp ?_)
      rw [hsuffix]
      simp
  · rintro (⟨rfl, rfl⟩ | rfl)
    · rw [splitOnce_of_notMem (dash_notMem_toString _), Option.getD_none]
    · have hsuffix : toString first ++ "-" ++ toString last =
          String.ofList ((toString first).toList ++ '-' :: (toString last).toList) := by
        rw [← String.toList_inj, String.toList_ofList]
        simp
      rw [hsuffix, splitOnce_append (dash_notMem_toString _), Option.getD_some]

lemma parseRange_eq_ok {expression : String} {range : InterfaceRange} :
    parseRange expression = .ok range ↔ range.DenotedBy expression := by
  constructor
  · intro h
    obtain ⟨⟨namePrefix, suffix⟩, hname, h⟩ := bind_eq_ok.mp h
    obtain ⟨first, hfirst, h⟩ := bind_eq_ok.mp h
    obtain ⟨last, hlast, h⟩ := bind_eq_ok.mp h
    obtain ⟨hname, hexpression⟩ := parsePrefix_eq_ok.mp hname
    obtain ⟨hfirst, hpos, -⟩ := parseIndex_eq_ok.mp hfirst
    obtain ⟨hlast, -, hlt⟩ := parseIndex_eq_ok.mp hlast
    split at h
    case isFalse => cases h
    case isTrue hascending =>
      cases h
      refine ⟨hname, hpos, hlt, ?_⟩
      obtain ⟨hsingle, hsuffix⟩ | hsuffix := bounds_eq_iff.mp (Prod.ext hfirst hlast)
      · exact .inl ⟨hsingle, hexpression.trans (congrArg _ hsuffix)⟩
      · exact .inr (hexpression.trans (congrArg _ hsuffix))
  · rintro ⟨hname, hpos, hlt, htext⟩
    have hsuffix : ∃ suffix, expression = range.namePrefix ++ suffix ∧
        (splitOnce '-' suffix).getD (suffix, suffix) = (toString range.first, toString range.last) := by
      obtain ⟨hsingle, hexpression⟩ | hexpression := htext
      · exact ⟨_, hexpression, bounds_eq_iff.mpr (.inl ⟨hsingle, rfl⟩)⟩
      · exact ⟨_, hexpression, bounds_eq_iff.mpr (.inr rfl)⟩
    obtain ⟨suffix, hexpression, hbounds⟩ := hsuffix
    have hfirst : parseIndex (toString range.first) = .ok range.first :=
      parseIndex_eq_ok.mpr ⟨rfl, hpos, lt_of_le_of_lt range.ascending hlt⟩
    have hlast : parseIndex (toString range.last) = .ok range.last :=
      parseIndex_eq_ok.mpr ⟨rfl, lt_of_lt_of_le hpos range.ascending, hlt⟩
    apply bind_eq_ok.mpr
    refine ⟨(range.namePrefix, suffix), parsePrefix_eq_ok.mpr ⟨hname, hexpression⟩, ?_⟩
    dsimp only
    rw [hbounds]
    apply bind_eq_ok.mpr
    refine ⟨range.first, hfirst, ?_⟩
    apply bind_eq_ok.mpr
    refine ⟨range.last, hlast, ?_⟩
    exact dif_pos range.ascending

variable {states result : LinkStates} {document : LinkDocument} {ranges : List InterfaceRange}

lemma insertNames_eq_ok {state : FabricLinkState} {names : List String} :
    names.foldlM (insertName state) states = .ok result ↔
      names.Nodup ∧ (∀ name ∈ names, name ∉ states.keys) ∧
        result = states.insertAll (names.map (fun name => (name, state))) := by
  induction names generalizing states with
  | nil =>
    constructor
    · intro h
      cases h
      exact ⟨nodup_nil, fun _ hmem => absurd hmem not_mem_nil, rfl⟩
    · rintro ⟨-, -, rfl⟩
      rfl
  | cons name names ih =>
    have hstep : ∀ next, insertName state states name = .ok next ↔ name ∉ states.keys ∧
        next = states.insert name state := by
      intro next
      rw [mem_keys_iff, insertName]
      split
      case isTrue htaken =>
        exact iff_of_false (fun h => by cases h) (fun h => h.1 htaken)
      case isFalse hfree =>
        rw [Except.ok.injEq, eq_comm]
        exact (and_iff_right hfree).symm
    rw [foldlM_cons, bind_eq_ok, nodup_cons, forall_mem_cons]
    constructor
    · rintro ⟨next, hnext, h⟩
      obtain ⟨hfree, rfl⟩ := (hstep next).mp hnext
      obtain ⟨hnodup, hrest, rfl⟩ := ih.mp h
      refine ⟨⟨?_, hnodup⟩, ⟨hfree, ?_⟩, rfl⟩
      · intro hmem
        exact hrest name hmem (mem_keys_insert.mpr (.inl rfl))
      · intro other hother hkey
        exact hrest other hother (mem_keys_insert.mpr (.inr hkey))
    · rintro ⟨⟨hnotMem, hnodup⟩, ⟨hfree, hrest⟩, rfl⟩
      refine ⟨_, (hstep _).mpr ⟨hfree, rfl⟩, ih.mpr ⟨hnodup, ?_, rfl⟩⟩
      intro other hother hkey
      obtain rfl | hkey := mem_keys_insert.mp hkey
      · exact hnotMem hother
      · exact hrest other hother hkey

lemma size_insertAll {entries : List (String × FabricLinkState)}
    (hnodup : (entries.map Prod.fst).Nodup) (hfree : ∀ name ∈ entries.map Prod.fst, name ∉ states.keys) :
    (states.insertAll entries).size = states.size + entries.length := by
  induction entries generalizing states with
  | nil => rfl
  | cons entry entries ih =>
    rw [map_cons, nodup_cons] at hnodup
    rw [map_cons, forall_mem_cons] at hfree
    have hrest : ∀ name ∈ entries.map Prod.fst, name ∉ (states.insert entry.1 entry.2).keys := by
      intro name hname hkey
      obtain rfl | hkey := mem_keys_insert.mp hkey
      · exact hnodup.1 hname
      · exact hfree.2 name hname hkey
    rw [insertAll, foldl_cons, ← insertAll, ih hnodup.2 hrest,
      size_insert_of_notMem hfree.1, length_cons]
    omega

def assigned (range : InterfaceRange) (state : FabricLinkState) : List (String × FabricLinkState) :=
  range.names.map (fun name => (name, state))

lemma map_fst_assigned (range : InterfaceRange) (state : FabricLinkState) :
    (assigned range state).map Prod.fst = range.names := by
  rw [assigned, map_map]
  exact map_id _

variable {entry : String × FabricLinkState}

lemma addEntry_eq_ok :
    addEntry states entry = .ok result ↔ ∃ range : InterfaceRange, range.DenotedBy entry.1 ∧
      range.width + states.size ≤ maxInterfaces ∧ (∀ name ∈ range.names, name ∉ states.keys) ∧
        result = states.insertAll (assigned range entry.2) := by
  constructor
  · intro h
    obtain ⟨range, hrange, h⟩ := bind_eq_ok.mp h
    obtain ⟨_, hwidth, h⟩ := bind_eq_ok.mp h
    obtain ⟨-, hfree, hresult⟩ := insertNames_eq_ok.mp h
    exact ⟨range, parseRange_eq_ok.mp hrange, not_lt.mp (failIf_eq_ok.mp hwidth), hfree, hresult⟩
  · rintro ⟨range, hrange, hwidth, hfree, hresult⟩
    apply bind_eq_ok.mpr
    refine ⟨range, parseRange_eq_ok.mpr hrange, ?_⟩
    apply bind_eq_ok.mpr
    exact ⟨(), failIf_eq_ok.mpr (not_lt.mpr hwidth),
      insertNames_eq_ok.mpr ⟨range.nodup_names, hfree, hresult⟩⟩

def Denotes (document : LinkDocument) (ranges : List InterfaceRange) : Prop :=
  List.Forall₂ (fun entry range => range.DenotedBy entry.1) document ranges

def assignments (document : LinkDocument) (ranges : List InterfaceRange) :
    List (String × FabricLinkState) :=
  (document.zip ranges).flatMap (fun pair => assigned pair.2 pair.1.2)

def Apart (range other : InterfaceRange) : Prop := range.names.Disjoint other.names

lemma insertAll_assignments_cons {range : InterfaceRange} :
    states.insertAll (assignments (entry :: document) (range :: ranges)) =
      (states.insertAll (assigned range entry.2)).insertAll (document.assignments ranges) := by
  rw [assignments, zip_cons_cons, flatMap_cons, insertAll, foldl_append]
  rfl

lemma addEntries_eq_ok (hsize : states.size ≤ maxInterfaces) :
    document.foldlM addEntry states = .ok result ↔ ∃ ranges, document.Denotes ranges ∧
      ranges.Pairwise Apart ∧
      (∀ range ∈ ranges, ∀ name ∈ range.names, name ∉ states.keys) ∧
      (ranges.map InterfaceRange.width).sum + states.size ≤ maxInterfaces ∧
      result = states.insertAll (document.assignments ranges) := by
  induction document generalizing states with
  | nil =>
    constructor
    · intro h
      cases h
      exact ⟨[], .nil, .nil, fun _ hmem => absurd hmem not_mem_nil, by simpa using hsize, rfl⟩
    · rintro ⟨ranges, hdenotes, -, -, -, rfl⟩
      cases hdenotes
      rfl
  | cons entry document ih =>
    have hnext : ∀ range : InterfaceRange, (∀ name ∈ range.names, name ∉ states.keys) →
        (states.insertAll (assigned range entry.2)).size = states.size + range.width ∧
          ∀ name, name ∈ (states.insertAll (assigned range entry.2)).keys ↔ name ∈ states.keys ∨
            name ∈ range.names := by
      intro range hfree
      constructor
      · have hlength : (assigned range entry.2).length = range.width := by
          rw [assigned, length_map, range.length_names]
        rw [size_insertAll, hlength]
        · rw [map_fst_assigned]
          exact range.nodup_names
        · rw [map_fst_assigned]
          exact hfree
      · intro name
        rw [mem_keys_insertAll, map_fst_assigned]
    rw [foldlM_cons, bind_eq_ok]
    constructor
    · rintro ⟨next, hentry, h⟩
      obtain ⟨range, hrange, hwidth, hfree, rfl⟩ := addEntry_eq_ok.mp hentry
      obtain ⟨hnextSize, hnextKeys⟩ := hnext range hfree
      obtain ⟨ranges, hdenotes, hapart, hrest, htotal, rfl⟩ := (ih (by omega)).mp h
      refine ⟨range :: ranges, .cons hrange hdenotes, ?_, ?_, ?_, ?_⟩
      · refine pairwise_cons.mpr ⟨?_, hapart⟩
        intro other hother name hname hotherName
        exact hrest other hother name hotherName ((hnextKeys name).mpr (.inr hname))
      · intro other hother
        obtain rfl | hother := mem_cons.mp hother
        · exact hfree
        · exact fun name hname hkey => hrest other hother name hname ((hnextKeys name).mpr (.inl hkey))
      · rw [map_cons, sum_cons]
        omega
      · exact insertAll_assignments_cons.symm
    · rintro ⟨ranges, hdenotes, hapart, hrest, htotal, rfl⟩
      cases hdenotes with
      | @cons _ range _ ranges hrange hdenotes =>
        obtain ⟨hfirst, hapart⟩ := pairwise_cons.mp hapart
        obtain ⟨hfree, hrest⟩ := forall_mem_cons.mp hrest
        obtain ⟨hnextSize, hnextKeys⟩ := hnext range hfree
        rw [map_cons, sum_cons] at htotal
        refine ⟨_, addEntry_eq_ok.mpr ⟨range, hrange, by omega, hfree, rfl⟩, ?_⟩
        apply (ih (by omega)).mpr
        refine ⟨ranges, hdenotes, hapart, ?_, by omega, ?_⟩
        · intro other hother name hname hkey
          obtain hkey | hkey := (hnextKeys name).mp hkey
          · exact hrest other hother name hname hkey
          · exact hfirst other hother hkey hname
        · exact insertAll_assignments_cons

/-- The entries denote disjoint ranges with at most as many names as a profile may control. -/
def WellFormed (document : LinkDocument) : Prop :=
  ∃ ranges, document.Denotes ranges ∧ ranges.Pairwise Apart ∧
    (ranges.map InterfaceRange.width).sum ≤ maxInterfaces

lemma WellFormed.perm {other : LinkDocument} (hperm : document.Perm other) (h : document.WellFormed) :
    other.WellFormed := by
  obtain ⟨ranges, hdenotes, hapart, htotal⟩ := h
  obtain ⟨others, hothers, hranges⟩ := perm_comp_forall₂ hperm.symm hdenotes
  refine ⟨others, hothers, ?_, ?_⟩
  · exact (hranges.symm.pairwise_iff (fun h => h.symm)).mp hapart
  · rw [(hranges.map InterfaceRange.width).sum_nat]
    exact htotal

lemma deserialize_eq_ok :
    document.deserializeFullLinkStates = .ok states ↔ ∃ ranges, document.collected.Denotes ranges ∧
      ranges.Pairwise Apart ∧ (ranges.map InterfaceRange.width).sum ≤ maxInterfaces ∧
      states = ofList (document.collected.assignments ranges) := by
  have hempty : (empty : LinkStates).size = 0 := rfl
  rw [deserializeFullLinkStates, addEntries_eq_ok (by omega)]
  constructor
  · rintro ⟨ranges, hdenotes, hapart, -, htotal, hstates⟩
    exact ⟨ranges, hdenotes, hapart, htotal, hstates⟩
  · rintro ⟨ranges, hdenotes, hapart, htotal, hstates⟩
    exact ⟨ranges, hdenotes, hapart, fun _ _ _ _ hkey => not_mem_nil hkey, htotal, hstates⟩

section

variable (hdenotes : document.Denotes ranges)
include hdenotes

lemma mem_assignments {name : String} {state : FabricLinkState} :
    (name, state) ∈ document.assignments ranges ↔
      ∃ entry ∈ document, ∃ range : InterfaceRange, range.DenotedBy entry.1 ∧ name ∈ range.names ∧
        entry.2 = state := by
  induction hdenotes with
  | nil => simp [assignments]
  | @cons entry range document ranges hrange hdenotes ih =>
    have hassigned : (name, state) ∈ assigned range entry.2 ↔
        ∃ range : InterfaceRange, range.DenotedBy entry.1 ∧ name ∈ range.names ∧ entry.2 = state := by
      rw [assigned, mem_map]
      constructor
      · rintro ⟨other, hmem, heq⟩
        cases heq
        exact ⟨range, hrange, hmem, rfl⟩
      · rintro ⟨other, hother, hmem, rfl⟩
        have heq := (parseRange_eq_ok.mpr hother).symm.trans (parseRange_eq_ok.mpr hrange)
        cases heq
        exact ⟨name, hmem, rfl⟩
    rw [assignments, zip_cons_cons, flatMap_cons, mem_append, ← assignments, ih, hassigned]
    simp only [exists_mem_cons_iff]

lemma map_fst_assignments :
    (document.assignments ranges).map Prod.fst = ranges.flatMap InterfaceRange.names := by
  induction hdenotes with
  | nil => rfl
  | cons _ _ ih =>
    rw [assignments, zip_cons_cons, flatMap_cons, map_append, map_fst_assigned, ← assignments, ih,
      flatMap_cons]

lemma nodup_assignments
    (hapart : ranges.Pairwise Apart) : ((document.assignments ranges).map Prod.fst).Nodup := by
  rw [map_fst_assignments hdenotes, nodup_flatMap]
  exact ⟨fun range _ => range.nodup_names, hapart⟩

end

lemma exists_single_of_isControlledInterface {id : String}
    (h : FabricLayoutProfile.isControlledInterface id = true) :
    ∃ range : InterfaceRange, range.DenotedBy id ∧ range.names = [id] := by
  have hsuffix :
      ∃ namePrefix suffix, (namePrefix = "acp" ∨ namePrefix = "fnm") ∧ id = namePrefix ++ suffix ∧
      (canonicalU32 suffix).any (fun number => 0 < number) = true := by
    unfold FabricLayoutProfile.isControlledInterface at h
    cases hacp : stripStart "acp" id with
    | some suffix =>
      rw [hacp] at h
      exact ⟨"acp", suffix, .inl rfl, stripStart_eq_some.mp hacp, h⟩
    | none =>
      cases hfnm : stripStart "fnm" id with
      | some suffix =>
        rw [hacp, hfnm] at h
        exact ⟨"fnm", suffix, .inr rfl, stripStart_eq_some.mp hfnm, h⟩
      | none =>
        rw [hacp, hfnm] at h
        cases h
  obtain ⟨namePrefix, suffix, hname, hid, hnumber⟩ := hsuffix
  obtain ⟨number, hread, hpos⟩ := (Option.any_eq_true _ _).mp hnumber
  obtain ⟨rfl, hlt⟩ := canonicalU32_eq_some.mp hread
  refine ⟨⟨namePrefix, number, number, le_rfl⟩, ⟨hname, of_decide_eq_true hpos, hlt, .inl ⟨rfl, hid⟩⟩, ?_⟩
  have hwidth : InterfaceRange.width ⟨namePrefix, number, number, le_rfl⟩ = 1 := by
    simp only [InterfaceRange.width, Nat.sub_self]
  rw [InterfaceRange.names, hwidth, hid]
  rfl

lemma exists_singles (h : ∀ entry ∈ document, FabricLayoutProfile.isControlledInterface entry.1 = true) :
    ∃ ranges, document.Denotes ranges ∧ ranges.flatMap InterfaceRange.names = document.map Prod.fst ∧
      (ranges.map InterfaceRange.width).sum = document.length ∧ document.assignments ranges = document := by
  induction document with
  | nil => exact ⟨[], .nil, rfl, rfl, rfl⟩
  | cons entry document ih =>
    obtain ⟨hentry, hrest⟩ := forall_mem_cons.mp h
    obtain ⟨range, hrange, hnames⟩ := exists_single_of_isControlledInterface hentry
    obtain ⟨ranges, hdenotes, hflat, htotal, hassignments⟩ := ih hrest
    have hwidth : range.width = 1 := by rw [← range.length_names, hnames, length_singleton]
    refine ⟨range :: ranges, .cons hrange hdenotes, ?_, ?_, ?_⟩
    · rw [flatMap_cons, hnames, hflat, map_cons, singleton_append]
    · rw [map_cons, sum_cons, hwidth, htotal, length_cons, Nat.add_comm]
    · rw [assignments, zip_cons_cons, flatMap_cons, ← assignments, hassignments, assigned, hnames]
      rfl

lemma deserialize_serialize (hsize : states.size ≤ maxInterfaces)
    (hnames : states.keys.all FabricLayoutProfile.isControlledInterface = true) :
    (serialize states).deserializeFullLinkStates = .ok states := by
  have hcollected : (serialize states).collected = states.entries :=
    congrArg entries (ofList_entries states)
  have hcontrolled : ∀ entry ∈ states.entries, FabricLayoutProfile.isControlledInterface entry.1 = true :=
    fun entry hentry => all_eq_true.mp hnames entry.1 (mem_map_of_mem hentry)
  obtain ⟨ranges, hdenotes, hflat, htotal, hassignments⟩ := exists_singles hcontrolled
  have hnodup : (ranges.flatMap InterfaceRange.names).Nodup := hflat ▸ states.nodup_keys
  apply deserialize_eq_ok.mpr
  rw [hcollected]
  refine ⟨ranges, hdenotes, (nodup_flatMap.mp hnodup).2, ?_, ?_⟩
  · rw [htotal]
    exact hsize
  · rw [hassignments, ofList_entries]

lemma controlled_of_validate {profile : FabricLayoutProfile} (h : profile.validate = .ok ()) :
    profile.fullLinkStates.size ≤ maxInterfaces ∧
      profile.fullLinkStates.keys.all FabricLayoutProfile.isControlledInterface = true := by
  obtain ⟨_, hbounds, h⟩ := bind_eq_ok.mp h
  obtain ⟨_, -, h⟩ := bind_eq_ok.mp h
  obtain ⟨_, hnames, -⟩ := bind_eq_ok.mp h
  have hbounds := failIf_eq_ok.mp hbounds
  simp only [not_or, not_lt] at hbounds
  exact ⟨hbounds.2.2.2.2.2.2.2, by simpa using failIf_eq_ok.mp hnames⟩

/-- Some entry of the document gives the interface this state. -/
def Assigns (document : LinkDocument) (name : String) (state : FabricLinkState) : Prop :=
  ∃ entry ∈ document, ∃ range : InterfaceRange, range.DenotedBy entry.1 ∧ name ∈ range.names ∧
    entry.2 = state

/-- A document is accepted if and only if its collected entries are well formed, and then gives
exactly their names their states. A validated mapping is read back as it was written. -/
theorem deserialize_exact :
    (∀ document : LinkDocument, document.deserializeFullLinkStates.isOk = true ↔
      document.collected.WellFormed) ∧
      (∀ (document : LinkDocument) states, document.deserializeFullLinkStates = .ok states →
        ∀ name state, states.lookup name = some state ↔ document.collected.Assigns name state) ∧
      (∀ document : LinkDocument, (document.map Prod.fst).Nodup →
        document.collected.Perm document ∧
          (document.deserializeFullLinkStates.isOk = true ↔ document.WellFormed) ∧
          ∀ other : LinkDocument, document.Perm other →
            other.deserializeFullLinkStates = document.deserializeFullLinkStates) ∧
      ∀ profile : FabricLayoutProfile, profile.validate = .ok () →
        (serialize profile.fullLinkStates).deserializeFullLinkStates = .ok profile.fullLinkStates := by
  have haccepts : ∀ document : LinkDocument,
      document.deserializeFullLinkStates.isOk = true ↔ document.collected.WellFormed := by
    intro document
    rw [isOk_iff_exists]
    constructor
    · rintro ⟨states, h⟩
      obtain ⟨ranges, hdenotes, hapart, htotal, -⟩ := deserialize_eq_ok.mp h
      exact ⟨ranges, hdenotes, hapart, htotal⟩
    · rintro ⟨ranges, hdenotes, hapart, htotal⟩
      exact ⟨_, deserialize_eq_ok.mpr ⟨ranges, hdenotes, hapart, htotal, rfl⟩⟩
  refine ⟨haccepts, ?_, ?_, ?_⟩
  · intro document states h name state
    obtain ⟨ranges, hdenotes, hapart, -, rfl⟩ := deserialize_eq_ok.mp h
    rw [Assigns, ← mem_assignments hdenotes]
    exact ⟨mem_of_lookup_ofList, lookup_ofList_of_mem (nodup_assignments hdenotes hapart)⟩
  · intro document hnodup
    have hperm : document.collected.Perm document := perm_entries_ofList hnodup
    refine ⟨hperm, ?_, ?_⟩
    · rw [haccepts]
      exact ⟨WellFormed.perm hperm, WellFormed.perm hperm.symm⟩
    · intro other hother
      have hsame : ofList other = ofList document :=
        (insertAll_eq_of_perm hother hnodup).symm
      rw [deserializeFullLinkStates, collected, hsame]
      rfl
  · intro profile h
    obtain ⟨hsize, hnames⟩ := controlled_of_validate h
    exact deserialize_serialize hsize hnames

/-- Two ranges in either order, and the interfaces of the paired rack. -/
theorem deserialize_exact_ranges : WellFormed [("fnm7", .down), ("acp1-4", .up)] ∧
      deserializeFullLinkStates [("acp1-4", .up), ("fnm7", .down)] =
        deserializeFullLinkStates [("fnm7", .down), ("acp1-4", .up)] ∧
      (serialize LayoutPlanner.pairedRack.fullLinkStates).deserializeFullLinkStates =
        .ok LayoutPlanner.pairedRack.fullLinkStates := by
  have hvalid : LayoutPlanner.pairedRack.validate.isOk = true := by decide +kernel
  have hok : (deserializeFullLinkStates [("fnm7", .down), ("acp1-4", .up)]).isOk = true := by decide +kernel
  obtain ⟨_, hvalid⟩ := isOk_iff_exists.mp hvalid
  obtain ⟨-, -, hdistinct, hround⟩ := deserialize_exact
  obtain ⟨-, hiff, hperm⟩ := hdistinct [("fnm7", .down), ("acp1-4", .up)] (by decide)
  exact ⟨hiff.mp hok, hperm _ (List.Perm.swap _ _ _), hround _ hvalid⟩

/-- A text that is repeated is not an overlap: the last entry wins. -/
theorem deserialize_repeated :
    (deserializeFullLinkStates [("acp1", .up), ("acp1", .down)]).toOption.map entries =
      some [("acp1", .down)] ∧
      (deserializeFullLinkStates [("acp1", .down), ("acp1", .up)]).toOption.map entries =
        some [("acp1", .up)] := by
  decide +kernel

end LinkDocument

end RackManagement
