import Mathlib.Data.List.Chain

/-!
# Regular expressions with preferences

Alternatives are tried in order, and repetitions take as much as they can.
-/

namespace RackManagement.Library

inductive Regex
  | empty
  | chars (accepts : Char → Bool)
  | seq (first second : Regex)
  | alt (first second : Regex)
  | many (accepts : Char → Bool)

namespace Regex

def manyRun (accepts : Char → Bool) : List Char → List (List Char)
  | [] => [[]]
  | c :: s => if accepts c then manyRun accepts s ++ [c :: s] else [c :: s]

/-- What each way to match a beginning of the text leaves of it, in the order of preference. -/
def run : Regex → List Char → List (List Char)
  | empty, s => [s]
  | chars _, [] => []
  | chars accepts, c :: s => if accepts c then [s] else []
  | seq first second, s => (first.run s).flatMap second.run
  | alt first second, s => first.run s ++ second.run s
  | many accepts, s => manyRun accepts s

def char (c : Char) : Regex := chars (· == c)

def range (low high : Char) : Regex := chars (fun c => low ≤ c && c ≤ high)

def text (s : String) : Regex := s.toList.foldr (fun c rest => seq (char c) rest) empty

def exactly (r : Regex) : Nat → Regex
  | 0 => empty
  | n + 1 => seq r (exactly r n)

def upTo (r : Regex) : Nat → Regex
  | 0 => empty
  | n + 1 => alt (seq r (upTo r n)) empty

/-- At least `low` and at most `high` copies. -/
def between (r : Regex) (low high : Nat) : Regex := seq (exactly r low) (upTo r (high - low))

def oneOf : List Regex → Regex → Regex
  | [], r => r
  | first :: rest, r => alt first (oneOf rest r)

/-- Goes through the text; the next `skip` characters belong to a match. Empty matches are not replaced. -/
def replaceFrom (r : Regex) (replacement : List Char) : (skip : Nat) → List Char → List Char
  | _, [] => []
  | skip + 1, _ :: s => replaceFrom r replacement skip s
  | 0, c :: s =>
    match (r.run (c :: s)).head? with
    | some rest =>
      if rest.length ≤ s.length then replacement ++ replaceFrom r replacement (s.length - rest.length) s
      else c :: replaceFrom r replacement 0 s
    | none => c :: replaceFrom r replacement 0 s

def replaceAll (r : Regex) (replacement s : List Char) : List Char := replaceFrom r replacement 0 s

/-- The character is in no match. -/
def avoids (c : Char) : Regex → Bool
  | empty => true
  | chars accepts => !accepts c
  | seq first second => first.avoids c && second.avoids c
  | alt first second => first.avoids c && second.avoids c
  | many accepts => !accepts c

variable {r first second : Regex} {c : Char} {s rest final : List Char}

lemma run_seq : (seq first second).run s = (first.run s).flatMap second.run := rfl

lemma run_alt : (alt first second).run s = first.run s ++ second.run s := rfl

lemma run_char_cons {x : Char} : (char c).run (x :: s) = if x == c then [s] else [] := rfl

/-- Nothing is matched beyond a character that the expression avoids. -/
lemma run_append_cons (h : r.avoids c = true) (a b : List Char) :
    r.run (a ++ c :: b) = (r.run a).map (· ++ c :: b) := by
  induction r generalizing a with
  | empty => rfl
  | chars accepts =>
    have hc : accepts c = false := by simpa [avoids] using h
    cases a with
    | nil => simp [run, hc]
    | cons x a =>
      simp only [List.cons_append, run]
      split <;> rfl
  | seq first second ihfirst ihsecond =>
    rw [avoids, Bool.and_eq_true] at h
    rw [run_seq, run_seq, ihfirst h.1, List.flatMap_map, List.map_flatMap]
    exact List.flatMap_congr (fun rest _ => ihsecond h.2 rest)
  | alt first second ihfirst ihsecond =>
    rw [avoids, Bool.and_eq_true] at h
    rw [run_alt, run_alt, ihfirst h.1, ihsecond h.2, List.map_append]
  | many accepts =>
    have hc : accepts c = false := by simpa [avoids] using h
    rw [run, run]
    induction a with
    | nil => simp [manyRun, hc]
    | cons x a ih =>
      simp only [List.cons_append, manyRun]
      split
      · rw [ih, List.map_append]
        rfl
      · rfl

lemma replaceFrom_append_cons (h : r.avoids c = true) (replacement : List Char) {skip : Nat} {a : List Char}
    (hskip : skip ≤ a.length) (b : List Char) :
    r.replaceFrom replacement skip (a ++ c :: b) =
      r.replaceFrom replacement skip a ++ c :: r.replaceFrom replacement 0 b := by
  induction a generalizing skip with
  | nil =>
    cases Nat.le_zero.mp hskip
    rw [List.nil_append, replaceFrom, replaceFrom, ← List.nil_append (c :: b), run_append_cons h,
      List.head?_map]
    cases (r.run []).head? with
    | none => rfl
    | some rest =>
      have hempty : ¬(rest ++ c :: b).length ≤ b.length := by
        simp only [List.length_append, List.length_cons]
        omega
      simp only [Option.map_some, if_neg hempty, List.nil_append]
  | cons x a ih =>
    cases skip with
    | succ skip => exact ih (Nat.le_of_succ_le_succ hskip)
    | zero =>
      rw [List.cons_append, replaceFrom, replaceFrom, ← List.cons_append, run_append_cons h, List.head?_map]
      cases (r.run (x :: a)).head? with
      | none => simp [ih (Nat.zero_le _)]
      | some rest =>
        have hsize : (a ++ c :: b).length - (rest ++ c :: b).length = a.length - rest.length := by
          simp only [List.length_append]
          omega
        have hfits : (rest ++ c :: b).length ≤ (a ++ c :: b).length ↔ rest.length ≤ a.length := by simp
        simp only [Option.map_some, hsize, hfits]
        split
        · rw [ih (Nat.sub_le _ _), List.append_assoc]
        · rw [ih (Nat.zero_le _), List.cons_append]

/-- Replacing works on the parts between separators, one by one. -/
lemma replaceAll_intercalate (h : r.avoids c = true) (replacement : List Char) (parts : List (List Char)) :
    r.replaceAll replacement ([c].intercalate parts) =
      [c].intercalate (parts.map (r.replaceAll replacement)) := by
  induction parts with
  | nil => rfl
  | cons part parts ih =>
    cases parts with
    | nil => simp
    | cons next parts =>
      rw [List.intercalate_cons_cons, List.append_assoc, List.singleton_append, replaceAll,
        replaceFrom_append_cons h replacement (Nat.zero_le _)]
      simp only [List.map_cons, List.intercalate_cons_cons, List.append_assoc, List.singleton_append]
      exact congrArg _ (congrArg _ ih)

/-- The rest that the preferred match leaves. -/
def Takes (r : Regex) (s rest : List Char) : Prop := (r.run s).head? = some rest

lemma Takes.seq (hfirst : first.Takes s rest) (hsecond : second.Takes rest final) :
    (seq first second).Takes s final := by
  obtain ⟨others, hothers⟩ := List.head?_eq_some_iff.mp hfirst
  rw [Takes, run_seq, hothers, List.flatMap_cons, List.head?_append, hsecond]
  rfl

lemma Takes.alt_left (h : first.Takes s rest) : (alt first second).Takes s rest := by
  rw [Takes, run_alt, List.head?_append, h]
  rfl

lemma Takes.alt_right (hfirst : first.run s = []) (h : second.Takes s rest) :
    (alt first second).Takes s rest := by
  rwa [Takes, run_alt, hfirst, List.nil_append]

lemma Takes.append_cons (h : r.Takes s rest) (havoids : r.avoids c = true) (b : List Char) :
    r.Takes (s ++ c :: b) (rest ++ c :: b) := by
  rw [Takes, run_append_cons havoids, List.head?_map, h]
  rfl

lemma takes_char (c : Char) (s : List Char) : (char c).Takes (c :: s) s := by simp [Takes, run_char_cons]

lemma Takes.upTo {n : Nat} (h : r.Takes s rest) (hmore : (upTo r n).Takes rest final) :
    (r.upTo (n + 1)).Takes s final :=
  (h.seq hmore).alt_left

lemma takes_upTo_of_run (h : r.run s = []) (n : Nat) : (upTo r n).Takes s s := by
  cases n with
  | zero => rfl
  | succ n => exact .alt_right (by rw [run_seq, h, List.flatMap_nil]) rfl

lemma suffix_of_mem_run (h : rest ∈ r.run s) : rest <:+ s := by
  induction r generalizing s rest with
  | empty => exact List.mem_singleton.mp h ▸ List.suffix_rfl
  | chars accepts =>
    cases s with
    | nil => cases h
    | cons x s =>
      rw [run] at h
      split at h
      · exact List.mem_singleton.mp h ▸ List.suffix_cons x s
      · cases h
  | seq first second ihfirst ihsecond =>
    obtain ⟨middle, hmiddle, hrest⟩ := List.mem_flatMap.mp h
    exact (ihsecond hrest).trans (ihfirst hmiddle)
  | alt first second ihfirst ihsecond => exact (List.mem_append.mp h).elim ihfirst ihsecond
  | many accepts =>
    rw [run] at h
    induction s with
    | nil => exact List.mem_singleton.mp h ▸ List.suffix_rfl
    | cons x s ih =>
      rw [manyRun] at h
      split at h
      · obtain h | h := List.mem_append.mp h
        · exact (ih h).trans (List.suffix_cons x s)
        · exact List.mem_singleton.mp h ▸ List.suffix_rfl
      · exact List.mem_singleton.mp h ▸ List.suffix_rfl

lemma run_seq_of_nil (h : first.run s = []) : (seq first second).run s = [] := by
  rw [run_seq, h]
  rfl

lemma run_seq_of_suffix (h : ∀ rest, rest <:+ s → second.run rest = []) : (seq first second).run s = [] :=
  List.flatMap_eq_nil_iff.mpr (fun rest hrest => h rest (suffix_of_mem_run hrest))

lemma run_seq_seq (third : Regex) (s : List Char) :
    (seq first (seq second third)).run s = (seq (seq first second) third).run s := by
  rw [run_seq, run_seq, run_seq, List.flatMap_assoc]
  rfl

lemma run_alt_eq_nil_iff : (alt first second).run s = [] ↔ first.run s = [] ∧ second.run s = [] :=
  List.append_eq_nil_iff

lemma run_char_of_notMem (h : c ∉ s) : (char c).run s = [] := by
  cases s with
  | nil => rfl
  | cons x s =>
    obtain ⟨hx, -⟩ := List.ne_and_not_mem_of_not_mem_cons h
    simp [run_char_cons, hx.symm]

lemma run_seq_char_of_notMem (h : c ∉ s) : (seq r (char c)).run s = [] :=
  run_seq_of_suffix (fun _ hrest => run_char_of_notMem (fun hc => h (hrest.subset hc)))

/-- Every match starts with the character. -/
def StartsWith (r : Regex) (c : Char) : Prop := ∀ ⦃s rest⦄, rest ∈ r.run s → s.head? = some c

/-- Every match ends with the character. -/
def EndsWith (r : Regex) (c : Char) : Prop :=
  ∀ ⦃s rest⦄, rest ∈ r.run s → ∃ matched, s = matched ++ c :: rest

lemma cons_of_mem_run_char (h : rest ∈ (char c).run s) : s = c :: rest := by
  cases s with
  | nil => cases h
  | cons x s =>
    rw [run_char_cons] at h
    split at h
    · next hx => rw [List.mem_singleton.mp h, beq_iff_eq.mp hx]
    · cases h

lemma startsWith_char (c : Char) : (char c).StartsWith c :=
  fun _ _ h => by rw [cons_of_mem_run_char h, List.head?_cons]

lemma StartsWith.seq (h : first.StartsWith c) (second : Regex) : (seq first second).StartsWith c := by
  intro s rest hrest
  obtain ⟨middle, hmiddle, -⟩ := List.mem_flatMap.mp hrest
  exact h hmiddle

lemma endsWith_seq_char (first : Regex) (c : Char) : (seq first (char c)).EndsWith c := by
  intro s rest hrest
  obtain ⟨middle, hmiddle, hchar⟩ := List.mem_flatMap.mp hrest
  obtain ⟨matched, rfl⟩ := suffix_of_mem_run hmiddle
  exact ⟨matched, by rw [cons_of_mem_run_char hchar]⟩

lemma EndsWith.upTo (h : r.EndsWith c) {n : Nat} (hrest : rest ∈ (r.upTo n).run s) :
    rest = s ∨ ∃ matched, s = matched ++ c :: rest := by
  induction n generalizing s with
  | zero => exact .inl (List.mem_singleton.mp hrest)
  | succ n ih =>
    obtain hmore | hnone := List.mem_append.mp hrest
    · obtain ⟨middle, hmiddle, hothers⟩ := List.mem_flatMap.mp hmore
      obtain ⟨matched, rfl⟩ := h hmiddle
      obtain rfl | ⟨others, rfl⟩ := ih hothers
      · exact .inr ⟨matched, rfl⟩
      · exact .inr ⟨matched ++ c :: others, by simp⟩
    · exact .inl (List.mem_singleton.mp hnone)

lemma EndsWith.between (h : r.EndsWith c) (n : Nat) : (r.between 1 n).EndsWith c := by
  intro s rest hrest
  obtain ⟨middle, hmiddle, hmore⟩ := List.mem_flatMap.mp hrest
  obtain ⟨once, honce, hempty⟩ := List.mem_flatMap.mp hmiddle
  cases List.mem_singleton.mp hempty
  obtain ⟨matched, rfl⟩ := h honce
  obtain rfl | ⟨others, rfl⟩ := h.upTo hmore
  · exact ⟨matched, rfl⟩
  · exact ⟨matched ++ c :: others, by simp⟩

lemma EndsWith.le_count (h : r.EndsWith c) {n : Nat} (hrest : rest ∈ (r.exactly n).run s) :
    n ≤ s.count c := by
  induction n generalizing s with
  | zero => exact Nat.zero_le _
  | succ n ih =>
    obtain ⟨middle, hmiddle, hmore⟩ := List.mem_flatMap.mp hrest
    obtain ⟨matched, rfl⟩ := h hmiddle
    have hmiddle := ih hmore
    rw [List.count_append, List.count_cons_self]
    omega

/-- What ends with a character and then goes on with it matches only where the text has it twice in a row. -/
lemma run_seq_of_isChain (hfirst : first.EndsWith c) (hsecond : second.StartsWith c)
    (hs : s.IsChain (fun a b => a = c → b ≠ c)) : (seq first second).run s = [] := by
  refine List.eq_nil_iff_forall_not_mem.mpr (fun rest hrest => ?_)
  obtain ⟨middle, hmiddle, hmore⟩ := List.mem_flatMap.mp hrest
  obtain ⟨matched, rfl⟩ := hfirst hmiddle
  obtain ⟨others, rfl⟩ := List.head?_eq_some_iff.mp (hsecond hmore)
  exact (List.isChain_append_cons_cons.mp hs).2.1 rfl rfl

lemma replaceAll_of_takes {matched : List Char} (hmatched : matched ≠ [])
    (h : r.Takes (matched ++ rest) rest)
    (replacement : List Char) :
    r.replaceAll replacement (matched ++ rest) = replacement ++ r.replaceAll replacement rest := by
  have hskip :
      ∀ s : List Char, r.replaceFrom replacement s.length (s ++ rest) = r.replaceAll replacement rest := by
    intro s
    induction s with
    | nil => rfl
    | cons c s ih => exact ih
  obtain ⟨x, s, rfl⟩ := List.exists_cons_of_ne_nil hmatched
  rw [List.cons_append] at h ⊢
  rw [replaceAll, replaceFrom, h]
  simp [hskip]

lemma replaceAll_cons_of_run (h : r.run (c :: s) = []) (replacement : List Char) :
    r.replaceAll replacement (c :: s) = c :: r.replaceAll replacement s := by
  rw [replaceAll, replaceFrom, h]
  rfl

end Regex

end RackManagement.Library
