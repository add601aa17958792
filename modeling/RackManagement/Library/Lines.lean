import Mathlib.Algebra.BigOperators.Group.List.Basic
import Mathlib.Algebra.Ring.Nat
import RackManagement.Library.Text

/-!
# Lines of a text

A text is a list of characters, cut into lines that keep their terminator and addressed by the byte
offsets of its UTF-8 encoding.
-/

namespace RackManagement.Library

open List

variable (text : List Char)

def byteLength : Nat := (text.map Char.utf8Size).sum

def splitAtByte : Nat → List Char → Option (List Char × List Char)
  | 0, text => some ([], text)
  | _ + 1, [] => none
  | offset + 1, c :: text =>
    if c.utf8Size ≤ offset + 1 then
      (splitAtByte (offset + 1 - c.utf8Size) text).map (fun parts => (c :: parts.1, parts.2))
    else none

def sliceBytes (start stop : Nat) : Option (List Char) :=
  if start ≤ stop then
    ((splitAtByte start text).bind (fun parts => splitAtByte (stop - start) parts.2)).map Prod.fst
  else none

def dropBytes (start : Nat) : Option (List Char) := (splitAtByte start text).map Prod.snd

variable (a b : List Char)

@[simp] lemma byteLength_append : byteLength (a ++ b) = byteLength a + byteLength b := by
  simp [byteLength]

lemma splitAtByte_append : splitAtByte (byteLength a) (a ++ b) = some (a, b) := by
  induction a with
  | nil =>
    unfold splitAtByte
    rfl
  | cons c a ih =>
    have hpos : 0 < c.utf8Size := Char.utf8Size_pos c
    have hlength : byteLength (c :: a) = byteLength a + (c.utf8Size - 1) + 1 := by
      simp only [byteLength, map_cons, sum_cons]
      omega
    have hrest : byteLength a + (c.utf8Size - 1) + 1 - c.utf8Size = byteLength a := by omega
    rw [hlength, cons_append, splitAtByte, if_pos (by omega), hrest, ih]
    rfl

lemma sliceBytes_append (a b c : List Char) :
    sliceBytes (a ++ b ++ c) (byteLength a) (byteLength (a ++ b)) = some b := by
  have hwidth : byteLength (a ++ b) - byteLength a = byteLength b := by
    rw [byteLength_append]
    omega
  rw [sliceBytes, if_pos (by simp), hwidth, append_assoc, splitAtByte_append, Option.bind_some,
    splitAtByte_append]
  rfl

lemma dropBytes_append : dropBytes (a ++ b) (byteLength a) = some b := by
  rw [dropBytes, splitAtByte_append]
  rfl

/-- The lines of a text, each with its terminator; the last one may lack it. -/
def splitInclusive (terminator : Char) : List Char → List (List Char)
  | [] => []
  | c :: text =>
    if c = terminator then [c] :: splitInclusive terminator text
    else
      match splitInclusive terminator text with
      | [] => [[c]]
      | line :: lines => (c :: line) :: lines

/-- A line without its terminator, which is a newline or a carriage return and a newline. -/
def stripTerminator (line : List Char) : List Char :=
  if line.getLast? = some '\n' then
    if line.dropLast.getLast? = some '\r' then line.dropLast.dropLast else line.dropLast
  else line

def textLines : List (List Char) := (splitInclusive '\n' text).map stripTerminator

def trimChars : List Char := (text.dropWhile isWhitespace).rdropWhile isWhitespace

inductive AreLines (terminator : Char) : List (List Char) → Prop
  | nil : AreLines terminator []
  | last {line : List Char} (hnotMem : terminator ∉ line) (hne : line ≠ []) : AreLines terminator [line]
  | cons {line : List Char} {lines : List (List Char)} (hnotMem : terminator ∉ line)
    (hlines : AreLines terminator lines) :
    AreLines terminator ((line ++ [terminator]) :: lines)

lemma length_trimChars_le : (trimChars text).length ≤ text.length :=
  ((List.rdropWhile_prefix _ _).length_le).trans (dropWhile_suffix _).length_le

lemma trimChars_subset : trimChars text ⊆ text :=
  List.Subset.trans (List.rdropWhile_prefix _ _).subset (dropWhile_suffix _).subset

lemma trimChars_eq_self_iff {text : List Char} : trimChars text = text ↔
    (∀ c ∈ text.head?, isWhitespace c = false) ∧ ∀ c ∈ text.getLast?, isWhitespace c = false := by
  constructor
  · intro h
    have hsuffix := dropWhile_suffix (l := text) isWhitespace
    have hlength := (List.rdropWhile_prefix isWhitespace (text.dropWhile isWhitespace)).length_le
    have hdrop := hsuffix.eq_of_length_le ((congrArg length h).ge.trans hlength)
    rw [trimChars, hdrop] at h
    exact ⟨dropWhile_eq_self.mp hdrop, rdropWhile_eq_self.mp h⟩
  · rintro ⟨hhead, hlast⟩
    rw [trimChars, dropWhile_eq_self.mpr hhead, rdropWhile_eq_self.mpr hlast]

lemma trimChars_append {text terminator : List Char} (hne : text ≠ []) (h : trimChars text = text)
    (hterminator : ∀ c ∈ terminator, isWhitespace c = true) : trimChars (text ++ terminator) = text := by
  obtain ⟨hhead, hlast⟩ := trimChars_eq_self_iff.mp h
  have hdrop : (text ++ terminator).dropWhile isWhitespace = text ++ terminator := by
    rw [dropWhile_eq_self, head?_append_of_ne_nil _ hne]
    exact hhead
  rw [trimChars, hdrop]
  clear hdrop
  induction terminator using reverseRecOn with
  | nil => rw [append_nil, rdropWhile_eq_self.mpr hlast]
  | append_singleton terminator c ih =>
    rw [← append_assoc, rdropWhile_concat_pos _ _ _ (hterminator c (by simp))]
    exact ih (fun d hd => hterminator d (by simp [hd]))

variable {terminator : Char}

lemma splitInclusive_cons {line : List Char} (hnotMem : terminator ∉ line) (text : List Char) :
    splitInclusive terminator (line ++ [terminator] ++ text) =
      (line ++ [terminator]) :: splitInclusive terminator text := by
  induction line with
  | nil => simp [splitInclusive]
  | cons c line ih =>
    rw [mem_cons, not_or] at hnotMem
    rw [cons_append, cons_append, splitInclusive, if_neg (Ne.symm hnotMem.1), ih hnotMem.2]

lemma splitInclusive_last {line : List Char} (hnotMem : terminator ∉ line) (hne : line ≠ []) :
    splitInclusive terminator line = [line] := by
  induction line with
  | nil => exact absurd rfl hne
  | cons c line ih =>
    rw [mem_cons, not_or] at hnotMem
    rw [splitInclusive, if_neg (Ne.symm hnotMem.1)]
    cases line with
    | nil => rfl
    | cons d line => rw [ih hnotMem.2 (by simp)]

lemma AreLines.splitInclusive {lines : List (List Char)} (h : AreLines terminator lines) :
    splitInclusive terminator lines.flatten = lines := by
  induction h with
  | nil => rfl
  | last hnotMem hne =>
    rw [flatten_singleton]
    exact splitInclusive_last hnotMem hne
  | cons hnotMem _ ih => rw [flatten_cons, splitInclusive_cons hnotMem, ih]

lemma areLines_splitInclusive (terminator : Char) (text : List Char) :
    AreLines terminator (splitInclusive terminator text) := by
  induction text with
  | nil => exact .nil
  | cons c text ih =>
    rw [splitInclusive]
    split_ifs with heq
    · rw [heq, ← nil_append [terminator]]
      exact .cons not_mem_nil ih
    · have hne : terminator ∉ [c] := by simpa using Ne.symm heq
      cases hlines : splitInclusive terminator text with
      | nil => exact .last hne (by simp)
      | cons line lines =>
        rw [hlines] at ih
        dsimp only
        cases ih with
        | last hnotMem _ => exact .last (not_mem_cons_of_ne_of_not_mem (Ne.symm heq) hnotMem) (by simp)
        | cons hnotMem hlines => exact .cons (not_mem_cons_of_ne_of_not_mem (Ne.symm heq) hnotMem) hlines

@[simp] lemma flatten_splitInclusive (terminator : Char) (text : List Char) :
    (splitInclusive terminator text).flatten = text := by
  induction text with
  | nil => rfl
  | cons c text ih =>
    rw [splitInclusive]
    split_ifs with heq
    · rw [flatten_cons, ih, singleton_append]
    · cases hlines : splitInclusive terminator text with
      | nil =>
        rw [hlines] at ih
        rw [← ih]
        rfl
      | cons line lines =>
        rw [hlines] at ih
        rw [← ih]
        rfl

lemma splitInclusive_append {before : List Char} (h : before = [] ∨ before.getLast? = some terminator)
    (text : List Char) :
    splitInclusive terminator (before ++ text) = splitInclusive terminator before ++
      splitInclusive terminator text := by
  induction before with
  | nil => rfl
  | cons c before ih =>
    have hlast : (c :: before).getLast? = some terminator := h.resolve_left (by simp)
    have hrest : before = [] ∨ before.getLast? = some terminator := by
      cases before with
      | nil => exact .inl rfl
      | cons d before =>
        rw [getLast?_cons_cons] at hlast
        exact .inr hlast
    rw [cons_append, splitInclusive, splitInclusive, ih hrest]
    split_ifs with heq
    · rfl
    · cases hlines : splitInclusive terminator before with
      | nil =>
        have hnil : before = [] := by rw [← flatten_splitInclusive terminator before, hlines, flatten_nil]
        rw [hnil] at hlast
        exact absurd (Option.some.inj hlast) heq
      | cons line lines => rfl

lemma AreLines.filter {lines : List (List Char)} (h : AreLines terminator lines) (p : List Char → Bool) :
    AreLines terminator (lines.filter p) := by
  induction h with
  | nil => exact .nil
  | @last line hnotMem hne =>
    cases hp : p line with
    | true =>
      rw [filter_cons_of_pos hp]
      exact .last hnotMem hne
    | false =>
      rw [filter_cons_of_neg (by simp [hp])]
      exact .nil
  | @cons line lines hnotMem _ ih =>
    cases hp : p (line ++ [terminator]) with
    | true =>
      rw [filter_cons_of_pos hp]
      exact .cons hnotMem ih
    | false =>
      rw [filter_cons_of_neg (by simp [hp])]
      exact ih

end RackManagement.Library
