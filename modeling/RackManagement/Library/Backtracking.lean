import Mathlib.Data.List.Forall2

/-!
# Backtracking search

Remembering the states from which the search failed does not change what it finds.
-/

namespace RackManagement.Library.Backtracking

open List

section Search

variable {α κ : Type} [DecidableEq κ] (state : List α → κ) (fits : κ → α → Bool)

/-- Tries the options of one task; a state in which none leads on is remembered. -/
def tryOptions (next : List α → List κ → Option (List α) × List κ) (chosen : List α) :
    List α → List κ → Option (List α) × List κ
  | [], failed => (none, state chosen :: failed)
  | option :: options, failed =>
    if fits (state chosen) option then
      match next (chosen ++ [option]) failed with
      | (some result, failed) => (some result, failed)
      | (none, failed) => tryOptions next chosen options failed
    else tryOptions next chosen options failed

/-- The choices for the remaining tasks, after those already made. -/
def search : List (List α) → List α → List κ → Option (List α) × List κ
  | [], chosen, failed => (some chosen, failed)
  | options :: tasks, chosen, failed =>
    if (options :: tasks).any isEmpty then (none, failed)
    else if state chosen ∈ failed then (none, failed)
    else tryOptions state fits (search tasks) chosen options failed

/-- As `tryOptions`, with the choices in one list: an option is pushed, and popped if it does not lead on. -/
def tryInPlace (next : List α → List κ → Bool × List α × List κ) (key : κ) :
    List α → List α → List κ → Bool × List α × List κ
  | [], chosen, failed => (false, chosen, key :: failed)
  | option :: options, chosen, failed =>
    if fits key option then
      match next (chosen ++ [option]) failed with
      | (true, chosen, failed) => (true, chosen, failed)
      | (false, chosen, failed) => tryInPlace next key options chosen.dropLast failed
    else tryInPlace next key options chosen failed

def searchInPlace : List (List α) → List α → List κ → Bool × List α × List κ
  | [], chosen, failed => (true, chosen, failed)
  | options :: tasks, chosen, failed =>
    if (options :: tasks).any isEmpty then (false, chosen, failed)
    else if state chosen ∈ failed then (false, chosen, failed)
    else tryInPlace fits (searchInPlace tasks) (state chosen) options chosen failed

/-- Backtracking without a memory of failures. -/
def plainSearch : List (List α) → List α → Option (List α)
  | [], chosen => some chosen
  | options :: tasks, chosen =>
    options.findSome? (fun option =>
      if fits (state chosen) option then plainSearch tasks (chosen ++ [option]) else none)

/-- Each choice fits the state that the choices before it have led to. -/
def Fitting : List α → List α → Prop
  | _, [] => True
  | chosen, pick :: picks => fits (state chosen) pick = true ∧ Fitting (chosen ++ [pick]) picks

end Search

/-- The options at the given positions, one for each task. -/
def Picks {α : Type} : List (List α) → List Nat → List α → Prop
  | [], [], [] => True
  | options :: tasks, index :: indices, pick :: picks =>
    options[index]? = some pick ∧ Picks tasks indices picks
  | _, _, _ => False

variable {α κ : Type} {state : List α → κ} {fits : κ → α → Bool} {chosen result : List α}

variable {tasks : List (List α)} {picks : List α}

lemma exists_picks_iff :
    (∃ indices, Picks tasks indices picks) ↔
      List.Forall₂ (fun pick options => pick ∈ options) picks tasks := by
  induction tasks generalizing picks with
  | nil =>
    cases picks with
    | nil => exact ⟨fun _ => .nil, fun _ => ⟨[], trivial⟩⟩
    | cons pick picks =>
      constructor
      · rintro ⟨indices, h⟩
        cases indices <;> exact h.elim
      · intro h
        cases h
  | cons options tasks ih =>
    cases picks with
    | nil =>
      constructor
      · rintro ⟨indices, h⟩
        cases indices <;> exact h.elim
      · intro h
        cases h
    | cons pick picks =>
      rw [forall₂_cons, ← ih, mem_iff_getElem?]
      constructor
      · rintro ⟨indices, h⟩
        cases indices with
        | nil => exact h.elim
        | cons index indices => exact ⟨⟨index, h.1⟩, indices, h.2⟩
      · rintro ⟨⟨index, hindex⟩, indices, hindices⟩
        exact ⟨index :: indices, hindex, hindices⟩

/-- The first complete choice in the order of its positions. -/
structure FirstChoice (state : List α → κ) (fits : κ → α → Bool) (tasks : List (List α)) (chosen : List α)
    (indices : List Nat) (picks : List α) : Prop where
  picked : Picks tasks indices picks
  fitting : Fitting state fits chosen picks
  first : ∀ others otherPicks, Picks tasks others otherPicks → Fitting state fits chosen otherPicks →
    indices = others ∨ List.Lex (· < ·) indices others

lemma exists_of_picks_cons {options : List α} {indices : List Nat}
    (h : Picks (options :: tasks) indices picks) :
    ∃ index rest pick later, indices = index :: rest ∧ picks = pick :: later ∧ options[index]? = some pick ∧
      Picks tasks rest later := by
  cases indices with
  | nil => exact h.elim
  | cons index rest =>
    cases picks with
    | nil => exact h.elim
    | cons pick later => exact ⟨index, rest, pick, later, rfl, rfl, h.1, h.2⟩

lemma plainSearch_eq_none (h : plainSearch state fits tasks chosen = none)
    {indices : List Nat} (hpicks : Picks tasks indices picks) : ¬Fitting state fits chosen picks := by
  induction tasks generalizing chosen indices picks with
  | nil => cases h
  | cons options tasks ih =>
    obtain ⟨index, rest, pick, later, rfl, rfl, hindex, hrest⟩ := exists_of_picks_cons hpicks
    intro hfitting
    have hpick := findSome?_eq_none_iff.mp h pick (mem_of_getElem? hindex)
    rw [if_pos hfitting.1] at hpick
    exact ih hpick hrest hfitting.2

lemma plainSearch_eq_some (h : plainSearch state fits tasks chosen = some result) :
    ∃ indices picks, result = chosen ++ picks ∧ FirstChoice state fits tasks chosen indices picks := by
  induction tasks generalizing chosen with
  | nil =>
    cases h
    refine ⟨[], [], by simp, trivial, trivial, ?_⟩
    intro others otherPicks hothers _
    cases others with
    | nil => exact .inl rfl
    | cons index others => exact hothers.elim
  | cons options tasks ih =>
    obtain ⟨before, pick, after, hoptions, hfound, hbefore⟩ := findSome?_eq_some_iff.mp h
    split_ifs at hfound with hfits
    obtain ⟨indices, picks, hresult, hfirst⟩ := ih hfound
    rw [append_assoc] at hresult
    refine ⟨before.length :: indices, pick :: picks, hresult, ⟨?_, hfirst.picked⟩,
      ⟨hfits, hfirst.fitting⟩, ?_⟩
    · rw [hoptions, getElem?_append_right (Nat.le_refl _), Nat.sub_self, getElem?_cons_zero]
    · intro others otherPicks hothers hother
      obtain ⟨index, rest, option, later, rfl, rfl, hindex, hrest⟩ := exists_of_picks_cons hothers
      rcases Nat.lt_trichotomy index before.length with hlt | rfl | hgt
      · -- an earlier option has no completion
        rw [hoptions, getElem?_append_left hlt] at hindex
        have hnone := hbefore option (mem_of_getElem? hindex)
        rw [if_pos hother.1] at hnone
        exact absurd hother.2 (plainSearch_eq_none hnone hrest)
      · rw [hoptions, getElem?_append_right (Nat.le_refl _), Nat.sub_self, getElem?_cons_zero] at hindex
        cases hindex
        obtain rfl | hlex := hfirst.first rest later hrest hother.2
        · exact .inl rfl
        · exact .inr (.cons hlex)
      · exact .inr (.rel hgt)

/-- The state determines how many tasks are left and what fits, whatever choices led to it. -/
structure Determines (state : List α → κ) : Prop where
  length : ∀ chosen other, state chosen = state other → chosen.length = other.length
  push : ∀ chosen other pick, state chosen = state other →
    state (chosen ++ [pick]) = state (other ++ [pick])

lemma Determines.plainSearch_eq_none (hstate : Determines state) {other : List α}
    (h : state chosen = state other) (hnone : plainSearch state fits tasks chosen = none) :
    plainSearch state fits tasks other = none := by
  induction tasks generalizing chosen other with
  | nil => cases hnone
  | cons options tasks ih =>
    apply findSome?_eq_none_iff.mpr
    intro option hoption
    have hchosen := findSome?_eq_none_iff.mp hnone option hoption
    rw [← h]
    split_ifs with hfits
    · rw [if_pos hfits] at hchosen
      exact ih (hstate.push chosen other option h) hchosen
    · rfl

lemma plainSearch_of_isEmpty (h : tasks.any isEmpty = true) :
    plainSearch state fits tasks chosen = none := by
  induction tasks generalizing chosen with
  | nil => cases h
  | cons options tasks ih =>
    apply List.findSome?_eq_none_iff.mpr
    intro option hoption
    rw [List.any_cons, Bool.or_eq_true, List.isEmpty_iff] at h
    obtain rfl | h := h
    · cases hoption
    · split_ifs
      · exact ih h
      · rfl

/-- From no choices with this state can all tasks be completed. -/
def Dead (state : List α → κ) (fits : κ → α → Bool) (all : List (List α)) (key : κ) : Prop :=
  ∀ chosen, state chosen = key → plainSearch state fits (all.drop chosen.length) chosen = none

section Memory

variable [DecidableEq κ] {all : List (List α)} {failed : List κ}

/-- The search and what it remembers agree with plain backtracking. -/
structure Agrees (state : List α → κ) (fits : κ → α → Bool) (all tasks : List (List α)) (chosen : List α)
    (found : Option (List α) × List κ) : Prop where
  result : found.1 = plainSearch state fits tasks chosen
  dead : ∀ key ∈ found.2, Dead state fits all key

variable {next : List α → List κ → Option (List α) × List κ}

omit [DecidableEq κ] in
lemma agrees_tryOptions (hstate : Determines state)
    {tasks : List (List α)} {options tried untried : List α} (hoptions : options = tried ++ untried)
    (hall : all.drop chosen.length = options :: tasks)
    (hnext : ∀ option failed, (∀ key ∈ failed, Dead state fits all key) →
      Agrees state fits all tasks (chosen ++ [option]) (next (chosen ++ [option]) failed))
    (htried : ∀ option ∈ tried, fits (state chosen) option = true →
      plainSearch state fits tasks (chosen ++ [option]) = none)
    (hfailed : ∀ key ∈ failed, Dead state fits all key) :
    Agrees state fits all (options :: tasks) chosen (tryOptions state fits next chosen untried failed) := by
  induction untried generalizing tried failed with
  | nil =>
    rw [append_nil] at hoptions
    subst hoptions
    have hnone : plainSearch state fits (options :: tasks) chosen = none := by
      apply findSome?_eq_none_iff.mpr
      intro option hoption
      split_ifs with hfits
      · exact htried option hoption hfits
      · rfl
    refine ⟨hnone.symm, forall_mem_cons.mpr ⟨?_, hfailed⟩⟩
    intro other hother
    rw [hstate.length other chosen hother, hall]
    exact hstate.plainSearch_eq_none hother.symm hnone
  | cons option untried ih =>
    have hrest : options = (tried ++ [option]) ++ untried := by
      rw [hoptions, append_assoc, singleton_append]
    have hstep : ∀ failed, (∀ key ∈ failed, Dead state fits all key) →
        (fits (state chosen) option = true → plainSearch state fits tasks (chosen ++ [option]) = none) →
        Agrees state fits all (options :: tasks) chosen
          (tryOptions state fits next chosen untried failed) := by
      intro failed hfailed hoption
      exact ih hrest (forall_mem_append.mpr ⟨htried, forall_mem_singleton.mpr hoption⟩) hfailed
    unfold tryOptions
    split_ifs with hfits
    · have hagrees := hnext option failed hfailed
      cases hfound : next (chosen ++ [option]) failed with
      | mk found later =>
        rw [hfound] at hagrees
        cases found with
        | none => exact hstep later hagrees.dead (fun _ => hagrees.result.symm)
        | some found =>
          refine ⟨?_, hagrees.dead⟩
          symm
          apply findSome?_eq_some_iff.mpr
          refine ⟨tried, option, untried, hoptions, ?_, ?_⟩
          · rw [if_pos hfits]
            exact hagrees.result.symm
          · intro other hother
            split_ifs with hother'
            · exact htried other hother hother'
            · rfl
    · exact hstep failed hfailed (fun h => absurd h hfits)

/-- Remembering failures changes nothing. -/
lemma agrees_search (hstate : Determines state) {tasks : List (List α)}
    (hall : all.drop chosen.length = tasks)
    (hfailed : ∀ key ∈ failed, Dead state fits all key) :
    Agrees state fits all tasks chosen (search state fits tasks chosen failed) := by
  induction tasks generalizing chosen failed with
  | nil => exact ⟨rfl, hfailed⟩
  | cons options tasks ih =>
    unfold search
    split_ifs with hempty hmem
    · exact ⟨(plainSearch_of_isEmpty hempty).symm, hfailed⟩
    · refine ⟨?_, hfailed⟩
      rw [← hall]
      exact (hfailed _ hmem chosen rfl).symm
    · apply agrees_tryOptions hstate (nil_append options).symm hall _ (by simp) hfailed
      intro option failed hfailed
      apply ih _ hfailed
      rw [length_append, ← drop_drop, hall]
      rfl

theorem search_eq_plainSearch (hstate : Determines state) (tasks : List (List α)) :
    (search state fits tasks [] []).1 = plainSearch state fits tasks [] := by
  have hall : tasks.drop ([] : List α).length = tasks := rfl
  exact (agrees_search hstate hall (by simp)).result

/-- What the search on one list of choices returns, and the list it leaves. -/
def inPlace (chosen : List α) : Option (List α) × List κ → Bool × List α × List κ
  | (some result, failed) => (true, result, failed)
  | (none, failed) => (false, chosen, failed)

omit [DecidableEq κ] in
lemma tryInPlace_eq {options : List α} :
    tryInPlace fits (fun chosen failed => inPlace chosen (next chosen failed))
      (state chosen) options chosen failed =
      inPlace chosen (tryOptions state fits next chosen options failed) := by
  induction options generalizing failed with
  | nil => rfl
  | cons option options ih =>
    unfold tryInPlace tryOptions
    split_ifs
    · cases hnext : next (chosen ++ [option]) failed with
      | mk found later =>
        cases found with
        | some found => rfl
        | none =>
          simp only [inPlace, dropLast_concat]
          exact ih
    · exact ih

lemma searchInPlace_eq (tasks : List (List α)) :
    searchInPlace state fits tasks = fun chosen failed =>
      inPlace chosen (search state fits tasks chosen failed) := by
  induction tasks with
  | nil => rfl
  | cons options tasks ih =>
    funext chosen failed
    unfold searchInPlace search
    split_ifs
    · rfl
    · rfl
    · rw [ih]
      exact tryInPlace_eq

end Memory

lemma search_sound [DecidableEq κ] (hstate : Determines state)
    (h : (search state fits tasks [] []).1 = some result) :
    List.Forall₂ (fun pick options => pick ∈ options) result tasks ∧ Fitting state fits [] result := by
  rw [search_eq_plainSearch hstate] at h
  obtain ⟨indices, picks, rfl, hfirst⟩ := plainSearch_eq_some h
  exact ⟨exists_picks_iff.mp ⟨indices, hfirst.picked⟩, hfirst.fitting⟩

end RackManagement.Library.Backtracking
