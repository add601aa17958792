import Mathlib.Algebra.BigOperators.Group.List.Basic
import RackManagement.Model.FabricLayout

/-!
# Link expansion

Every pair of trays, rule, offset and lane gives one interface number in closed form. The nested
loops of `expand` succeed exactly if these numbers can be obtained and name different controlled
interfaces.
-/

namespace RackManagement

open Library List OrderedMap

def InI64 (value : Int) : Prop := -2 ^ 63 ≤ value ∧ value < 2 ^ 63

/-- Every sum of the base and some of the first summands satisfies the condition. -/
def PartialSums (p : Int → Prop) (base : Int) (summands : List Int) : Prop :=
  ∀ k < summands.length, p (base + (summands.take (k + 1)).sum)

namespace IndexTerm

variable (term : IndexTerm)

def position (compute switch : FabricPosition) : FabricPosition :=
  match term.node with
  | .switch => switch
  | _ => compute

def transformed (compute switch : FabricPosition) : Nat :=
  let coordinate :=
    match term.coordinate with
    | .trayIndex => (term.position compute switch).trayIndex
    | .slotNumber => (term.position compute switch).slotNumber
  (term.modulus.map (coordinate / term.divisor % ·)).getD (coordinate / term.divisor)

def mapped (compute switch : FabricPosition) : Option Nat :=
  match term.remap with
  | none => some (term.transformed compute switch)
  | some remap => remap.lookup (toString (term.transformed compute switch))

def Covered (compute switch : FabricPosition) : Prop :=
  (term.mapped compute switch).isSome = true

def value (compute switch : FabricPosition) : Int :=
  (term.mapped compute switch).getD 0 * term.multiplier

end IndexTerm

namespace LinkRule

variable (rule : LinkRule)

def summands (compute switch : FabricPosition) (offset : Int) (lane : Nat) : List Int :=
  rule.terms.map (fun term => term.value compute switch) ++ [offset, lane]

def interfaceNumber (compute switch : FabricPosition) (offset : Int) (lane : Nat) : Int :=
  rule.base + (rule.summands compute switch offset lane).sum

/-- The interface number can be calculated, in the order of the summands, and is a valid one. -/
structure Obtainable (rule : LinkRule) (compute switch : FabricPosition) (offset : Int)
    (lane : Nat) : Prop where
  covered : ∀ term ∈ rule.terms, term.Covered compute switch
  products : ∀ term ∈ rule.terms, InI64 (term.value compute switch)
  sums : PartialSums InI64 rule.base (rule.summands compute switch offset lane)
  positive : 1 ≤ rule.interfaceNumber compute switch offset lane
  bounded : rule.interfaceNumber compute switch offset lane < 2 ^ 32

def interfaceName (number : Int) : String := s!"{rule.namePrefix}{number.toNat}"

/-- The interfaces that the rule names for a pair of trays, with their state. -/
def emissions (compute switch : FabricPosition) : List (String × FabricLinkState) :=
  rule.offsets.flatMap (fun offset => (range rule.width).map (fun lane =>
    (rule.interfaceName (rule.interfaceNumber compute switch offset lane), rule.state)))

end LinkRule

namespace FabricLinkCalculation

def emissions (calculation : FabricLinkCalculation) (computes : OrderedSet FabricPosition)
    (switch : FabricPosition) : List (String × FabricLinkState) :=
  computes.toList.flatMap (fun compute =>
    calculation.rules.flatMap (fun rule => rule.emissions compute switch))

/-- The rules name different controlled interfaces, each by a number that can be obtained. -/
structure Expandable (calculation : FabricLinkCalculation) (computes : OrderedSet FabricPosition)
    (interfaces : OrderedSet String) (switch : FabricPosition) : Prop where
  obtainable :
    ∀ compute ∈ computes, ∀ rule ∈ calculation.rules, ∀ offset ∈ rule.offsets, ∀ lane < rule.width,
    rule.Obtainable compute switch offset lane
  distinct : ((calculation.emissions computes switch).map Prod.fst).Nodup
  controlled : ∀ emission ∈ calculation.emissions computes switch, emission.1 ∈ interfaces

/-- The rule names the interface for some tray. -/
def Emits (rule : LinkRule) (computes : OrderedSet FabricPosition) (switch : FabricPosition)
    (id : String) : Prop :=
  ∃ compute ∈ computes, ∃ offset ∈ rule.offsets, ∃ lane < rule.width,
    id = rule.interfaceName (rule.interfaceNumber compute switch offset lane)

/-- Every interface has the state of the only rule that names it, or the default state. -/
structure ExactTargets (calculation : FabricLinkCalculation) (computes : OrderedSet FabricPosition)
    (interfaces : OrderedSet String) (switch : FabricPosition) (states : LinkStates) : Prop where
  keys : ∀ id, id ∈ states.keys ↔ id ∈ interfaces
  emitted : ∀ (i : Fin calculation.rules.length) (id : String),
    Emits (calculation.rules.get i) computes switch id →
    states.lookup id = some (calculation.rules.get i).state ∧
      ∀ j, Emits (calculation.rules.get j) computes switch id → j = i
  unnamed : ∀ id ∈ interfaces, (∀ rule ∈ calculation.rules, ¬Emits rule computes switch id) →
    states.lookup id = some calculation.defaultState

end FabricLinkCalculation

lemma checkedI64_of_inI64 {value : Int} (h : InI64 value) : checkedI64 value = some value := if_pos h

lemma checkedI64_of_not_inI64 {value : Int} (h : ¬InI64 value) : checkedI64 value = none := if_neg h

lemma partialSums_cons {p : Int → Prop} {base value : Int} {values : List Int} :
    PartialSums p base (value :: values) ↔ p (base + value) ∧ PartialSums p (base + value) values := by
  have hsum :
      ∀ k, base + ((value :: values).take (k + 1 + 1)).sum = base + value + (values.take (k + 1)).sum := by
    intro k
    rw [take_succ_cons, sum_cons]
    omega
  constructor
  · intro h
    refine ⟨?_, fun k hk => ?_⟩
    · simpa using h 0 (Nat.succ_pos _)
    · rw [← hsum]
      exact h (k + 1) (Nat.succ_lt_succ hk)
  · rintro ⟨hfirst, hrest⟩ k hk
    cases k with
    | zero => simpa using hfirst
    | succ k =>
      rw [hsum]
      exact hrest k (Nat.lt_of_succ_lt_succ hk)

lemma partialSums_append {p : Int → Prop} {base : Int} {values others : List Int} :
    PartialSums p base (values ++ others) ↔ PartialSums p base values ∧
      PartialSums p (base + values.sum) others := by
  induction values generalizing base with
  | nil => simp [PartialSums]
  | cons value values ih =>
    rw [cons_append, partialSums_cons, partialSums_cons, ih, sum_cons, ← and_assoc, add_assoc]

section Terms

variable {term : IndexTerm} {rule : LinkRule} {compute switch : FabricPosition}

section

variable (hvalid : term.validate = .ok ())
include hvalid

lemma IndexTerm.evaluate_eq : term.evaluate compute switch =
      match term.mapped compute switch with
      | none => .error "remap: does not cover a supplied coordinate"
      | some mapped =>
        match checkedI64 (mapped * term.multiplier) with
        | none => .error "multiplier: arithmetic overflow"
        | some value => .ok value := by
  obtain ⟨_, hnode, hvalid⟩ := bind_eq_ok.mp hvalid
  obtain ⟨_, hdivisor, hvalid⟩ := bind_eq_ok.mp hvalid
  obtain ⟨_, hmodulus, -⟩ := bind_eq_ok.mp hvalid
  have hnode := failIf_eq_ok.mp hnode
  unfold evaluate mapped transformed position
  cases hkind : term.node with
  | powershelf => exact absurd hkind hnode
  | compute =>
    simp only [hdivisor, hmodulus]
    cases term.remap <;> rfl
  | switch =>
    simp only [hdivisor, hmodulus]
    cases term.remap <;> rfl

lemma IndexTerm.evaluate_eq_ok {result : Int} :
    term.evaluate compute switch = .ok result ↔
      (term.Covered compute switch ∧ InI64 (term.value compute switch)) ∧
        result = term.value compute switch := by
  rw [IndexTerm.evaluate_eq hvalid]
  unfold Covered IndexTerm.value
  cases term.mapped compute switch with
  | none => simp
  | some mapped =>
    rw [Option.getD_some]
    by_cases hrange : InI64 (mapped * term.multiplier)
    · simp [checkedI64_of_inI64 hrange, hrange, eq_comm]
    · simp [checkedI64_of_not_inI64 hrange, hrange]

variable {index : Nat}

lemma LinkRule.addTerm_eq_ok {sum next : Int} : (do
      let value ← (term.evaluate compute switch).mapError (fun error => s!"terms[{index}].{error}")
      match checkedI64 (sum + value) with
      | none => .error s!"terms[{index}]: arithmetic overflow while adding to base"
      | some sum => .ok sum) = Except.ok next ↔
    ((term.Covered compute switch ∧ InI64 (term.value compute switch)) ∧
      InI64 (sum + term.value compute switch)) ∧
      next = sum + term.value compute switch := by
  rw [bind_eq_ok]
  simp only [mapError_eq_ok_iff, IndexTerm.evaluate_eq_ok hvalid]
  by_cases hrange : InI64 (sum + term.value compute switch)
  · simp [checkedI64_of_inI64 hrange, hrange, eq_comm, and_assoc]
  · simp [checkedI64_of_not_inI64 hrange, hrange]

end

lemma LinkRule.firstNumber_eq_ok (hvalid : ∀ term ∈ rule.terms, term.validate = .ok ()) {first : Int} :
    rule.firstNumber compute switch = .ok first ↔
      ((∀ term ∈ rule.terms, term.Covered compute switch ∧ InI64 (term.value compute switch)) ∧
        PartialSums InI64 rule.base (rule.terms.map (fun term => term.value compute switch))) ∧
      first = rule.base + (rule.terms.map (fun term => term.value compute switch)).sum := by
  obtain ⟨namePrefix, base, terms, offsets, width, state⟩ := rule
  unfold firstNumber
  dsimp only at hvalid ⊢
  generalize 0 = index
  induction terms generalizing base index with
  | nil => simp [PartialSums, pure, Except.pure, eq_comm]
  | cons term terms ih =>
    obtain ⟨hterm, hterms⟩ := forall_mem_cons.mp hvalid
    rw [zipIdx_cons, foldlM_cons, bind_eq_ok, forall_mem_cons, map_cons, partialSums_cons, sum_cons,
      ← add_assoc]
    constructor
    · rintro ⟨next, hnext, hrest⟩
      obtain ⟨⟨hvalue, hsum⟩, rfl⟩ := (addTerm_eq_ok hterm).mp hnext
      obtain ⟨⟨hvalues, hsums⟩, rfl⟩ := (ih _ hterms _).mp hrest
      exact ⟨⟨⟨hvalue, hvalues⟩, hsum, hsums⟩, rfl⟩
    · rintro ⟨⟨⟨hvalue, hvalues⟩, hsum, hsums⟩, rfl⟩
      exact ⟨_, (addTerm_eq_ok hterm).mpr ⟨⟨hvalue, hsum⟩, rfl⟩,
        (ih _ hterms _).mpr ⟨⟨hvalues, hsums⟩, rfl⟩⟩

end Terms

/-- Assigns a state to a controlled interface that has none yet. -/
def assign (targets : LinkStates × List String) (emission : String × FabricLinkState) :
    Option (LinkStates × List String) :=
  if emission.1 ∈ targets.2 ∨ (targets.1.lookup emission.1).isNone = true then none
  else some (targets.1.insert emission.1 emission.2, emission.1 :: targets.2)

variable {targets result : LinkStates × List String}

lemma foldlM_assign {emissions : List (String × FabricLinkState)} :
    emissions.foldlM assign targets = some result ↔
      ((emissions.map Prod.fst).Nodup ∧ (emissions.map Prod.fst).Disjoint targets.2 ∧
        ∀ emission ∈ emissions, emission.1 ∈ targets.1.keys) ∧
      result = (targets.1.insertAll emissions, (emissions.map Prod.fst).reverse ++ targets.2) := by
  induction emissions generalizing targets with
  | nil => simp [insertAll, eq_comm]
  | cons emission emissions ih =>
    rw [foldlM_cons]
    have hkey : emission.1 ∈ targets.1.keys ↔ ¬(targets.1.lookup emission.1).isNone = true := by
      rw [mem_keys_iff, Option.isSome_iff_ne_none, Option.isNone_iff_eq_none]
    by_cases hrefused : emission.1 ∈ targets.2 ∨ (targets.1.lookup emission.1).isNone = true
    · rw [assign, if_pos hrefused]
      constructor
      · intro h
        cases h
      · rintro ⟨⟨-, hdisjoint, hkeys⟩, -⟩
        obtain hassigned | huncontrolled := hrefused
        · exact (hdisjoint mem_cons_self hassigned).elim
        · exact absurd huncontrolled (hkey.mp (hkeys emission mem_cons_self))
    · rw [assign, if_neg hrefused]
      obtain ⟨hfresh, hcontrolled⟩ := not_or.mp hrefused
      have hkeys : (targets.1.insert emission.1 emission.2).keys = targets.1.keys :=
        keys_insert_of_mem (hkey.mpr hcontrolled)
      change emissions.foldlM assign _ = some result ↔ _
      rw [ih]
      simp only [hkeys, map_cons, nodup_cons, disjoint_cons_left, disjoint_cons_right,
        forall_mem_cons, reverse_cons, append_assoc, cons_append, nil_append,
        insertAll, foldl_cons]
      tauto

namespace LinkRule

variable {rule : LinkRule} {compute switch : FabricPosition} {targets result : LinkStates × List String}

def NumberFits (number : Int) : Prop := InI64 number ∧ 1 ≤ number ∧ number < 2 ^ 32

lemma assignLane_eq_ok {start : Int} {lane : Nat} :
    rule.assignLane index start targets lane = .ok result ↔
      NumberFits (start + lane) ∧
        [(rule.interfaceName (start + lane), rule.state)].foldlM assign targets = some result := by
  unfold assignLane NumberFits
  by_cases hrange : InI64 (start + lane)
  · rw [checkedI64_of_inI64 hrange, and_iff_right hrange]
    dsimp only
    by_cases hnumber : 1 ≤ start + lane ∧ start + lane < 2 ^ 32
    · obtain ⟨number, hsucc⟩ : ∃ number : Nat, (start + lane).toNat = number + 1 :=
        ⟨(start + lane).toNat - 1, by omega⟩
      have hchecked : checkedU32 (start + lane) = some (number + 1) := by
        rw [checkedU32, if_pos ⟨by omega, hnumber.2⟩, hsucc]
      have hname : rule.interfaceName (start + lane) = s!"{rule.namePrefix}{number + 1}" := by
        rw [interfaceName, hsucc]
      rw [hchecked, and_iff_right hnumber, hname, foldlM_cons, assign]
      split
      · rename_i hnone
        cases hnone
      · rename_i hzero
        cases hzero
      · rename_i hnumber
        cases hnumber
        dsimp only
        generalize (s!"{rule.namePrefix}{number + 1}" : String) = id
        by_cases hassigned : id ∈ targets.2
        · rw [if_pos hassigned, if_pos (.inl hassigned)]
          exact iff_of_false (fun h => nomatch h) (fun h => nomatch h)
        · by_cases huncontrolled : (targets.1.lookup id).isNone = true
          · rw [if_neg hassigned, if_pos huncontrolled, if_pos (.inr huncontrolled)]
            exact iff_of_false (fun h => nomatch h) (fun h => nomatch h)
          · rw [if_neg hassigned, if_neg huncontrolled,
              if_neg (not_or.mpr ⟨hassigned, huncontrolled⟩), Except.ok.injEq]
            exact Option.some_inj.symm
    · have hchecked : checkedU32 (start + lane) = none ∨ checkedU32 (start + lane) = some 0 := by
        unfold checkedU32
        split_ifs with h
        · exact .inr (congrArg some (by omega))
        · exact .inl rfl
      rw [iff_false_intro hnumber, false_and, iff_false]
      obtain hchecked | hchecked := hchecked
      · rw [hchecked]
        exact fun h => nomatch h
      · rw [hchecked]
        exact fun h => nomatch h
  · rw [checkedI64_of_not_inI64 hrange]
    simp [hrange]

lemma assignBlock_eq_ok {first : Int} {offset : Int × Nat} :
    rule.assignBlock first targets offset = .ok result ↔
      (InI64 (first + offset.1) ∧ ∀ lane < rule.width, NumberFits (first + offset.1 + lane)) ∧
      ((range rule.width).map (fun lane : Nat =>
        (rule.interfaceName (first + offset.1 + lane), rule.state))).foldlM
        assign targets = some result := by
  unfold assignBlock
  by_cases hrange : InI64 (first + offset.1)
  · rw [checkedI64_of_inI64 hrange, and_iff_right hrange]
    dsimp only
    have hlanes :
        (range rule.width).foldlM (rule.assignLane offset.2 (first + offset.1)) targets = .ok result ↔
        (∀ lane ∈ range rule.width, NumberFits (first + offset.1 + lane)) ∧
        ((range rule.width).flatMap (fun lane : Nat =>
          [(rule.interfaceName (first + offset.1 + lane), rule.state)])).foldlM assign targets =
            some result :=
      foldlM_eq_ok_iff (fun _ _ _ _ => assignLane_eq_ok)
    rw [hlanes, map_eq_flatMap]
    simp only [mem_range]
  · rw [checkedI64_of_not_inI64 hrange]
    simp [hrange]

lemma interfaceNumber_eq (offset : Int) (lane : Nat) : rule.interfaceNumber compute switch offset lane =
      rule.base + (rule.terms.map (fun term => term.value compute switch)).sum + offset + lane := by
  rw [interfaceNumber, summands, sum_append, sum_cons, sum_singleton]
  omega

lemma obtainable_iff {offset : Int} {lane : Nat} : rule.Obtainable compute switch offset lane ↔
      ((∀ term ∈ rule.terms, term.Covered compute switch ∧ InI64 (term.value compute switch)) ∧
        PartialSums InI64 rule.base (rule.terms.map (fun term => term.value compute switch))) ∧
      InI64 (rule.base + (rule.terms.map (fun term => term.value compute switch)).sum + offset) ∧
      NumberFits (rule.base + (rule.terms.map (fun term => term.value compute switch)).sum +
        offset + lane) := by
  have hsums : PartialSums InI64 rule.base (rule.summands compute switch offset lane) ↔
      PartialSums InI64 rule.base (rule.terms.map (fun term => term.value compute switch)) ∧
      InI64 (rule.base + (rule.terms.map (fun term => term.value compute switch)).sum + offset) ∧
      InI64 (rule.base + (rule.terms.map (fun term => term.value compute switch)).sum + offset + lane) := by
    rw [summands, partialSums_append, partialSums_cons, partialSums_cons]
    simp [PartialSums]
  rw [NumberFits, ← interfaceNumber_eq] at *
  constructor
  · intro h
    obtain ⟨hterms, hoffset, hlane⟩ := hsums.mp h.sums
    exact ⟨⟨fun term hterm => ⟨h.covered term hterm, h.products term hterm⟩, hterms⟩, hoffset,
      hlane, h.positive, h.bounded⟩
  · rintro ⟨⟨hvalues, hterms⟩, hoffset, hlane, hpositive, hbounded⟩
    exact ⟨fun term hterm => (hvalues term hterm).1, fun term hterm => (hvalues term hterm).2,
      hsums.mpr ⟨hterms, hoffset, hlane⟩, hpositive, hbounded⟩

structure Valid (rule : LinkRule) : Prop where
  name : ¬(rule.namePrefix = "" ∨ rule.namePrefix.toList.all Char.isLower = false)
  offsets : rule.offsets ≠ []
  width : rule.width ≠ 0
  terms : ∀ term ∈ rule.terms, term.validate = .ok ()

lemma validateRule_eq_ok : FabricLinkCalculation.validateRule rule index = .ok () ↔ rule.Valid := by
  have hterms : rule.terms.zipIdx.forM (fun entry =>
      entry.1.validate.mapError (fun error => s!"rules[{index}].terms[{entry.2}].{error}")) = .ok () ↔
      ∀ term ∈ rule.terms, term.validate = .ok () := forM_zipIdx_eq_ok (fun _ _ _ => mapError_eq_ok_iff)
  constructor
  · intro h
    obtain ⟨_, hname, h⟩ := bind_eq_ok.mp h
    obtain ⟨_, hoffsets, h⟩ := bind_eq_ok.mp h
    obtain ⟨_, hwidth, h⟩ := bind_eq_ok.mp h
    exact ⟨failIf_eq_ok.mp hname, failIf_eq_ok.mp hoffsets, failIf_eq_ok.mp hwidth, hterms.mp h⟩
  · intro h
    refine bind_eq_ok.mpr ⟨(), failIf_eq_ok.mpr h.name, bind_eq_ok.mpr ⟨(), failIf_eq_ok.mpr h.offsets, ?_⟩⟩
    exact bind_eq_ok.mpr ⟨(), failIf_eq_ok.mpr h.width, hterms.mpr h.terms⟩

/-- A valid rule has at least one number for a pair of trays, so that all of its terms matter. -/
lemma apply_eq_ok (hvalid : rule.Valid) : rule.apply compute switch targets = .ok result ↔
      (∀ offset ∈ rule.offsets, ∀ lane < rule.width, rule.Obtainable compute switch offset lane) ∧
      (rule.emissions compute switch).foldlM assign targets = some result := by
  have hblocks : ∀ first, rule.offsets.zipIdx.foldlM (rule.assignBlock first) targets = .ok result ↔
      (∀ offset ∈ rule.offsets, InI64 (first + offset) ∧
        ∀ lane < rule.width, NumberFits (first + offset + lane)) ∧
      (rule.offsets.flatMap (fun offset => (range rule.width).map (fun lane : Nat =>
        (rule.interfaceName (first + offset + lane), rule.state)))).foldlM assign targets = some result :=
    fun first => foldlM_zipIdx_eq_ok_iff (fun offset _ i _ _ => assignBlock_eq_ok)
  unfold apply emissions
  simp only [bind_eq_ok, firstNumber_eq_ok hvalid.terms, hblocks, obtainable_iff, interfaceNumber_eq]
  obtain ⟨offset, hoffset⟩ := exists_mem_of_ne_nil _ hvalid.offsets
  have hlane : 0 < rule.width := Nat.pos_of_ne_zero hvalid.width
  constructor
  · rintro ⟨first, ⟨hterms, rfl⟩, hnumbers, hsteps⟩
    exact ⟨fun offset ho lane hl =>
      ⟨hterms, (hnumbers offset ho).1, (hnumbers offset ho).2 lane hl⟩, hsteps⟩
  · rintro ⟨hnumbers, hsteps⟩
    refine ⟨_, ⟨(hnumbers offset hoffset 0 hlane).1, rfl⟩, fun offset ho => ⟨?_, fun lane hl => ?_⟩, hsteps⟩
    · exact (hnumbers offset ho 0 hlane).2.1
    · exact (hnumbers offset ho lane hl).2.2

end LinkRule

namespace FabricLinkCalculation

variable {calculation : FabricLinkCalculation} {computes switches : OrderedSet FabricPosition}
  {interfaces : OrderedSet String} {switch : FabricPosition}

lemma validate_eq_ok :
    calculation.validate = .ok () ↔ calculation.rules ≠ [] ∧ ∀ rule ∈ calculation.rules, rule.Valid := by
  have hrules : calculation.rules.zipIdx.forM (fun entry => validateRule entry.1 entry.2) = .ok () ↔
      ∀ rule ∈ calculation.rules, rule.Valid := forM_zipIdx_eq_ok (fun _ _ _ => LinkRule.validateRule_eq_ok)
  constructor
  · intro h
    obtain ⟨_, hrule, h⟩ := bind_eq_ok.mp h
    exact ⟨fun hnil => failIf_eq_ok.mp hrule (isEmpty_iff.mpr hnil), hrules.mp h⟩
  · rintro ⟨hrule, h⟩
    exact bind_eq_ok.mpr ⟨(), failIf_eq_ok.mpr (fun hempty => hrule (isEmpty_iff.mp hempty)), hrules.mpr h⟩

lemma applyRules_eq_ok (hvalid : ∀ rule ∈ calculation.rules, rule.Valid) {compute : FabricPosition}
    :
    calculation.applyRules switch targets compute = .ok result ↔
      (∀ rule ∈ calculation.rules, ∀ offset ∈ rule.offsets, ∀ lane < rule.width,
        rule.Obtainable compute switch offset lane) ∧
      (calculation.rules.flatMap (fun rule => rule.emissions compute switch)).foldlM assign targets
        = some result :=
  foldlM_zipIdx_eq_ok_iff (fun rule hrule _ _ _ =>
    mapError_eq_ok_iff.trans (LinkRule.apply_eq_ok (hvalid rule hrule)))

variable {id : String} {rule : LinkRule}

lemma mem_keys_default {state : FabricLinkState} :
    id ∈ (ofList (interfaces.toList.map (fun id => (id, state)))).keys ↔ id ∈ interfaces := by
  rw [mem_keys_ofList, map_map, OrderedSet.mem_def]
  simp

lemma expandSwitch_eq_ok (hvalid : ∀ rule ∈ calculation.rules, rule.Valid) {states : LinkStates} :
    calculation.expandSwitch computes switch interfaces = .ok states ↔
      calculation.Expandable computes interfaces switch ∧
      states = (ofList (interfaces.toList.map (fun id => (id, calculation.defaultState)))).insertAll
        (calculation.emissions computes switch) := by
  have hcomputes : ∀ (targets result : LinkStates × List String),
      computes.toList.foldlM (calculation.applyRules switch) targets = .ok result ↔
      (∀ compute ∈ computes.toList, ∀ rule ∈ calculation.rules, ∀ offset ∈ rule.offsets,
        ∀ lane < rule.width, rule.Obtainable compute switch offset lane) ∧
      (calculation.emissions computes switch).foldlM assign targets = some result :=
    fun _ _ => foldlM_eq_ok_iff (fun _ _ _ _ => applyRules_eq_ok hvalid)
  unfold expandSwitch
  simp only [bind_eq_ok, hcomputes, foldlM_assign, mem_keys_default]
  constructor
  · rintro ⟨targets, ⟨hobtainable, ⟨hdistinct, -, hcontrolled⟩, rfl⟩, h⟩
    cases h
    exact ⟨⟨hobtainable, hdistinct, hcontrolled⟩, rfl⟩
  · rintro ⟨h, rfl⟩
    exact ⟨_, ⟨h.obtainable, ⟨h.distinct, disjoint_nil_right _, h.controlled⟩, rfl⟩, rfl⟩

lemma mem_emissions_iff {compute : FabricPosition} {emission : String × FabricLinkState} :
    emission ∈ rule.emissions compute switch ↔ emission.2 = rule.state ∧
      ∃ offset ∈ rule.offsets, ∃ lane < rule.width,
      emission.1 = rule.interfaceName (rule.interfaceNumber compute switch offset lane) := by
  obtain ⟨id, state⟩ := emission
  simp only [LinkRule.emissions, mem_flatMap, mem_map, mem_range, Prod.mk.injEq]
  constructor
  · rintro ⟨offset, hoffset, lane, hlane, rfl, rfl⟩
    exact ⟨rfl, offset, hoffset, lane, hlane, rfl⟩
  · rintro ⟨rfl, offset, hoffset, lane, hlane, rfl⟩
    exact ⟨offset, hoffset, lane, hlane, rfl, rfl⟩

lemma emits_iff :
    Emits rule computes switch id ↔
      ∃ compute ∈ computes, id ∈ (rule.emissions compute switch).map Prod.fst := by
  simp only [mem_map, mem_emissions_iff]
  constructor
  · rintro ⟨compute, hcompute, hnumber⟩
    exact ⟨compute, hcompute, (id, rule.state), ⟨rfl, hnumber⟩, rfl⟩
  · rintro ⟨compute, hcompute, emission, ⟨-, hnumber⟩, rfl⟩
    exact ⟨compute, hcompute, hnumber⟩

lemma mem_emissions_of_emits (hrule : rule ∈ calculation.rules)
    (h : Emits rule computes switch id) : (id, rule.state) ∈ calculation.emissions computes switch := by
  obtain ⟨compute, hcompute, hnumber⟩ := h
  exact mem_flatMap.mpr
    ⟨compute, hcompute, mem_flatMap.mpr ⟨rule, hrule, mem_emissions_iff.mpr ⟨rfl, hnumber⟩⟩⟩

lemma exists_emits_of_mem (h : id ∈ (calculation.emissions computes switch).map Prod.fst) :
    ∃ rule ∈ calculation.rules, Emits rule computes switch id := by
  obtain ⟨emission, hemission, rfl⟩ := mem_map.mp h
  obtain ⟨compute, hcompute, hemission⟩ := mem_flatMap.mp hemission
  obtain ⟨rule, hrule, hemission⟩ := mem_flatMap.mp hemission
  exact ⟨rule, hrule, compute, hcompute, (mem_emissions_iff.mp hemission).2⟩

lemma eq_of_emits (hdistinct : ((calculation.emissions computes switch).map Prod.fst).Nodup)
    {i j : Fin calculation.rules.length} (hi : Emits (calculation.rules.get i) computes switch id)
    (hj : Emits (calculation.rules.get j) computes switch id) : i = j := by
  obtain ⟨compute, hcompute, hi⟩ := emits_iff.mp hi
  obtain ⟨other, hother, hj⟩ := emits_iff.mp hj
  rw [emissions, map_flatMap] at hdistinct
  obtain ⟨hsame, hdifferent⟩ := nodup_flatMap.mp hdistinct
  have hnamed : ∀ (k : Fin calculation.rules.length) compute,
      id ∈ ((calculation.rules.get k).emissions compute switch).map Prod.fst →
      id ∈ (calculation.rules.flatMap (fun rule => rule.emissions compute switch)).map Prod.fst := by
    intro k compute hk
    rw [map_flatMap]
    exact mem_flatMap.mpr ⟨_, get_mem _ k, hk⟩
  have heq : compute = other := by
    by_contra hne
    have hsymm : Std.Symm (Function.onFun List.Disjoint (fun compute =>
        (calculation.rules.flatMap (fun rule => rule.emissions compute switch)).map Prod.fst)) :=
          ⟨fun _ _ h => h.symm⟩
    exact hdifferent.forall hcompute hother hne (hnamed i compute hi) (hnamed j other hj)
  subst heq
  have hrules := hsame compute hcompute
  rw [map_flatMap] at hrules
  have hpairwise := pairwise_iff_getElem.mp (nodup_flatMap.mp hrules).2
  by_contra hne
  obtain hlt | hlt := lt_or_gt_of_ne hne
  · exact hpairwise i j i.isLt j.isLt hlt hi hj
  · exact hpairwise j i j.isLt i.isLt hlt hj hi

lemma exactTargets_of_expandSwitch (hvalid : ∀ rule ∈ calculation.rules, rule.Valid) {states : LinkStates}
    (h : calculation.expandSwitch computes switch interfaces = .ok states) :
    calculation.ExactTargets computes interfaces switch states := by
  obtain ⟨hexpandable, rfl⟩ := (expandSwitch_eq_ok hvalid).mp h
  constructor
  · intro id
    rw [mem_keys_insertAll, mem_keys_default]
    constructor
    · rintro (hid | hid)
      · exact hid
      · obtain ⟨emission, hemission, rfl⟩ := mem_map.mp hid
        exact hexpandable.controlled emission hemission
    · exact Or.inl
  · intro i id hemits
    refine ⟨?_, fun j hj => eq_of_emits hexpandable.distinct hj hemits⟩
    exact lookup_insertAll_of_mem hexpandable.distinct (mem_emissions_of_emits (get_mem _ i) hemits)
  · intro id hid hnone
    have hunnamed : id ∉ (calculation.emissions computes switch).map Prod.fst := by
      intro hmem
      obtain ⟨rule, hrule, hemits⟩ := exists_emits_of_mem hmem
      exact hnone rule hrule hemits
    rw [lookup_insertAll_of_notMem hunnamed]
    apply lookup_ofList_of_mem
    · have hids :
          interfaces.toList.map (Prod.fst ∘ fun id => (id, calculation.defaultState)) = interfaces.toList :=
        map_id _
      rw [map_map, hids]
      exact interfaces.nodup_toList
    · exact mem_map.mpr ⟨id, hid, rfl⟩

variable {links : List (FabricPosition × LinkStates)}

lemma mem_keys_of_mem_expand {target : FabricPosition × LinkStates}
    (h : calculation.expand computes switches interfaces = .ok links) (hmem : target ∈ links)
    (id : String) :
    id ∈ target.2.keys ↔ id ∈ interfaces := by
  obtain ⟨_, hvalid, h⟩ := bind_eq_ok.mp h
  obtain ⟨_, -, h⟩ := bind_eq_ok.mp h
  obtain ⟨position, -, htarget⟩ := exists_of_mem_mapM h hmem
  obtain ⟨states, hstates, htarget⟩ := bind_eq_ok.mp htarget
  cases htarget
  exact (exactTargets_of_expandSwitch (validate_eq_ok.mp hvalid).2 hstates).keys id

section Order

variable {rules : List LinkRule} (hperm : rules.Perm calculation.rules)

include hperm

lemma expandable_of_perm (h : calculation.Expandable computes interfaces switch) :
    ({ calculation with rules := rules } : FabricLinkCalculation).Expandable computes interfaces switch ∧
      (({ calculation with rules := rules } : FabricLinkCalculation).emissions computes switch).Perm
        (calculation.emissions computes switch) := by
  have hemissions :
      (({ calculation with rules := rules } : FabricLinkCalculation).emissions computes switch).Perm
      (calculation.emissions computes switch) := List.Perm.flatMap_left _ (fun _ _ => hperm.flatMap_right _)
  refine ⟨⟨fun compute hcompute rule hrule => ?_, ?_, fun emission hemission => ?_⟩, hemissions⟩
  · exact h.obtainable compute hcompute rule (hperm.mem_iff.mp hrule)
  · exact (hemissions.map Prod.fst).nodup_iff.mpr h.distinct
  · exact h.controlled emission (hemissions.mem_iff.mp hemission)

lemma expand_of_perm (h : calculation.expand computes switches interfaces = .ok links) :
    ({ calculation with rules := rules } : FabricLinkCalculation).expand computes switches
      interfaces = .ok links := by
  obtain ⟨_, hvalid, h⟩ := bind_eq_ok.mp h
  obtain ⟨_, hnonempty, h⟩ := bind_eq_ok.mp h
  obtain ⟨hrules, hvalid⟩ := validate_eq_ok.mp hvalid
  have hvalid' : ∀ rule ∈ rules, rule.Valid := fun rule hrule => hvalid rule (hperm.mem_iff.mp hrule)
  have hrules' : rules ≠ [] := fun hnil => hrules (nil_perm.mp (hnil ▸ hperm))
  refine bind_eq_ok.mpr ⟨(), validate_eq_ok.mpr ⟨hrules', hvalid'⟩, bind_eq_ok.mpr ⟨(), hnonempty, ?_⟩⟩
  apply mapM_of_forall₂
  apply (mapM_eq_ok h).imp
  intro position target htarget
  obtain ⟨states, hstates, htarget⟩ := bind_eq_ok.mp htarget
  obtain ⟨hexpandable, rfl⟩ := (expandSwitch_eq_ok hvalid).mp hstates
  obtain ⟨hexpandable', hemissions⟩ := expandable_of_perm hperm hexpandable
  refine bind_eq_ok.mpr ⟨_, (expandSwitch_eq_ok hvalid').mpr ⟨hexpandable', ?_⟩, htarget⟩
  exact insertAll_eq_of_perm hemissions.symm hexpandable.distinct

end Order

/-- Expansion succeeds exactly if every number can be obtained and no interface is named twice; the
targets are then those of the closed form. -/
theorem expand_exact (calculation : FabricLinkCalculation) (computes switches : OrderedSet FabricPosition)
    (interfaces : OrderedSet String) (hvalid : calculation.validate = .ok ())
    (hcomputes : computes.isEmpty = false)
    (hswitches : switches.isEmpty = false) (hinterfaces : interfaces.isEmpty = false) :
    ((calculation.expand computes switches interfaces).isOk = true ↔
        ∀ switch ∈ switches, calculation.Expandable computes interfaces switch) ∧
      (∀ links, calculation.expand computes switches interfaces = .ok links →
        links.map Prod.fst = switches.toList ∧
          ∀ target ∈ links, calculation.ExactTargets computes interfaces target.1 target.2) ∧
      ∀ rules : List LinkRule, rules.Perm calculation.rules →
        (({ calculation with rules := rules } : FabricLinkCalculation).expand computes switches
          interfaces).toOption =
          (calculation.expand computes switches interfaces).toOption := by
  obtain ⟨-, hrules⟩ := validate_eq_ok.mp hvalid
  have hexpand : calculation.expand computes switches interfaces = switches.toList.mapM (fun position => do
      return (position, ← calculation.expandSwitch computes position interfaces)) := by
    rw [expand, hvalid, hcomputes, hswitches, hinterfaces]
    rfl
  refine ⟨?_, ?_, ?_⟩
  · rw [hexpand, isOk_mapM_iff]
    apply forall₂_congr
    intro switch _
    rw [isOk_iff_exists]
    simp only [bind_eq_ok, expandSwitch_eq_ok hrules]
    constructor
    · rintro ⟨target, states, ⟨hexpandable, -⟩, -⟩
      exact hexpandable
    · intro hexpandable
      exact ⟨_, _, ⟨hexpandable, rfl⟩, rfl⟩
  · intro links hlinks
    rw [hexpand] at hlinks
    have htargets :
        List.Forall₂ (fun position target => position = Prod.fst target) switches.toList links := by
      apply (mapM_eq_ok hlinks).imp
      intro position target htarget
      obtain ⟨states, -, htarget⟩ := bind_eq_ok.mp htarget
      cases htarget
      rfl
    constructor
    · rw [← forall₂_map_right_iff, forall₂_eq_eq_eq] at htargets
      exact htargets.symm
    · intro target htarget
      obtain ⟨position, -, htarget⟩ := exists_of_mem_mapM hlinks htarget
      obtain ⟨states, hstates, htarget⟩ := bind_eq_ok.mp htarget
      cases htarget
      exact exactTargets_of_expandSwitch hrules hstates
  · intro rules hperm
    apply toOption_eq_of_forall
    intro links
    exact ⟨expand_of_perm hperm.symm, expand_of_perm hperm⟩

/-- A second rule drives a third interface from both computes, and is refused for naming it twice. -/
theorem expand_exact_two_rules :
    let drive : LinkRule := ⟨"acp", 0, [⟨.compute, .trayIndex, 1, none, none, 1⟩], [0], 1, .up⟩
    let shared : LinkRule := ⟨"acp", 3, [], [0], 1, .up⟩
    let computes : OrderedSet FabricPosition := .ofList [⟨1, 1⟩, ⟨2, 2⟩]
    let switches : OrderedSet FabricPosition := .ofList [⟨1, 3⟩]
    let interfaces : OrderedSet String := .ofList ["acp1", "acp2", "acp3"]
    (∀ switch ∈ switches, Expandable ⟨.down, [drive]⟩ computes interfaces switch) ∧
      ¬∀ switch ∈ switches, Expandable ⟨.down, [drive, shared]⟩ computes interfaces switch := by
  intro drive shared computes switches interfaces
  constructor
  · exact (expand_exact ⟨.down, [drive]⟩ computes switches interfaces
      (by decide +kernel) rfl rfl rfl).1.mp (by decide +kernel)
  · intro h
    have hok :=
      (expand_exact ⟨.down, [drive, shared]⟩ computes switches interfaces
        (by decide +kernel) rfl rfl rfl).1.mpr h
    exact absurd hok (by decide +kernel)

/-- A product that does not fit in `i64` is refused even where it would fit after the base has
been added. -/
theorem expand_product_overflow :
    let rule : LinkRule := ⟨"acp", -2 ^ 63, [⟨.compute, .trayIndex, 1, none, none, 2 ^ 62⟩], [1], 1, .up⟩
    let calculation : FabricLinkCalculation := ⟨.down, [rule]⟩
    let compute : FabricPosition := ⟨2, 1⟩
    let switch : FabricPosition := ⟨1, 2⟩
    calculation.validate = .ok () ∧ PartialSums InI64 rule.base (rule.summands compute switch 1 0) ∧
      rule.interfaceNumber compute switch 1 0 = 1 ∧
      calculation.emissions (.ofList [compute]) switch = [("acp1", .up)] ∧
      (calculation.expand (.ofList [compute]) (.ofList [switch]) (.ofList ["acp1"])).isOk = false := by
  refine ⟨by decide +kernel, ?_, by decide +kernel, by decide +kernel, by decide +kernel⟩
  intro k hk
  have hrange : ∀ k < 3, InI64 (-2 ^ 63 + (([2 ^ 63, 1, 0] : List Int).take (k + 1)).sum) := by
    unfold InI64
    decide +kernel
  exact hrange k hk

end FabricLinkCalculation

end RackManagement
