import Mathlib.Data.List.DropRight

/-!
# String primitives

String functions of the Rust standard library on lists of characters.
-/

namespace RackManagement.Library

open List

/-- Characters with the Unicode `White_Space` property. -/
def isWhitespace (c : Char) : Bool :=
  let n := c.toNat
  (9 ≤ n && n ≤ 13) || n = 0x20 || n = 0x85 || n = 0xA0 || n = 0x1680 ||
    (0x2000 ≤ n && n ≤ 0x200A) || n = 0x2028 || n = 0x2029 || n = 0x202F || n = 0x205F || n = 0x3000

def trimBy (p : Char → Bool) (s : String) : String :=
  String.ofList ((s.toList.dropWhile p).rdropWhile p)

def trim (s : String) : String := trimBy isWhitespace s

def trimStartMatches (c : Char) (s : String) : String := String.ofList (s.toList.dropWhile (· == c))

def trimEndMatches (c : Char) (s : String) : String := String.ofList (s.toList.rdropWhile (· == c))

/-- Splits at the first copy of a character, which belongs to neither part. -/
def splitOnce (c : Char) (s : String) : Option (String × String) :=
  match s.toList.dropWhile (· != c) with
  | [] => none
  | _ :: rest => some (String.ofList (s.toList.takeWhile (· != c)), String.ofList rest)

/-- The parts between the copies of a character; one part if there is none. -/
def splitAll (c : Char) (s : String) : List String := (s.toList.splitOn c).map String.ofList

def hexDigit (c : Char) : Option Nat :=
  let n := c.toNat
  if 48 ≤ n ∧ n ≤ 57 then some (n - 48)
  else if 97 ≤ n ∧ n ≤ 102 then some (n - 87)
  else if 65 ≤ n ∧ n ≤ 70 then some (n - 55)
  else none

/-- `u8::from_str_radix` for radix 16: an optional plus sign, then at least one digit. -/
def hexByte (s : String) : Option Nat :=
  let digits :=
    match s.toList with
    | '+' :: rest => rest
    | chars => chars
  if digits.isEmpty then none
  else do
    let values ← digits.mapM hexDigit
    let value := values.foldl (fun acc d => acc * 16 + d) 0
    if value < 256 then some value else none

def startsWith (start s : String) : Bool := start.toList.isPrefixOf s.toList

def stripStart (start s : String) : Option String :=
  if startsWith start s then some (String.ofList (s.toList.drop start.toList.length)) else none

def toAsciiLowercase (s : String) : String := String.ofList (s.toList.map Char.toLower)

variable {α : Type} {p : α → Bool} {l : List α} {s : String} {c : Char}

lemma rdropWhile_append_cons {c : α} (hc : p c = false) (l z : List α) :
    (l ++ c :: z).rdropWhile p = l ++ c :: z.rdropWhile p := by
  induction z using reverseRecOn with
  | nil =>
    rw [rdropWhile_nil]
    exact rdropWhile_concat_neg p l c (by simp [hc])
  | append_singleton z x ih =>
    rw [← cons_append, ← append_assoc, rdropWhile_concat, rdropWhile_concat, ih]
    split
    · rfl
    · simp

lemma dropWhile_eq_self : l.dropWhile p = l ↔ ∀ c ∈ l.head?, p c = false := by
  cases l with
  | nil => simp
  | cons c l => simp [dropWhile_eq_self_iff]

lemma rdropWhile_eq_self : l.rdropWhile p = l ↔ ∀ c ∈ l.getLast?, p c = false := by
  rw [rdropWhile_eq_self_iff]
  cases l with
  | nil => simp
  | cons c l => simp [getLast?_eq_some_getLast]

lemma mem_head?_of_rdropWhile {c : α} (h : c ∈ (l.rdropWhile p).head?) : c ∈ l.head? := by
  obtain ⟨cut, hcut⟩ := rdropWhile_prefix p l
  rw [← hcut, head?_append, h]
  rfl

lemma trimBy_trimBy (p : Char → Bool) (s : String) : trimBy p (trimBy p s) = trimBy p s := by
  have hhead : ∀ c ∈ ((s.toList.dropWhile p).rdropWhile p).head?, p c = false := by
    intro c hc
    exact dropWhile_eq_self.mp (dropWhile_idempotent p _) c (mem_head?_of_rdropWhile hc)
  rw [← String.toList_inj, trimBy, trimBy, String.toList_ofList, String.toList_ofList,
    dropWhile_eq_self.mpr hhead,
    rdropWhile_idempotent]

lemma toLower_cases (c : Char) :
    c.toLower = c ∨ (65 ≤ c.toNat ∧ c.toNat ≤ 90 ∧ c.toLower.toNat = c.toNat + 32) := by
  unfold Char.toLower
  split
  · rename_i h
    obtain ⟨hlow, hhigh⟩ := h
    rw [ge_iff_le, UInt32.le_iff_toNat_le] at hlow
    rw [UInt32.le_iff_toNat_le] at hhigh
    have hupper : 65 ≤ c.val.toNat ∧ c.val.toNat ≤ 90 := ⟨hlow, hhigh⟩
    refine .inr ⟨hupper.1, hupper.2, ?_⟩
    change (c.val + 32).toNat = c.val.toNat + 32
    rw [UInt32.toNat_add]
    change (c.val.toNat + 32) % 2 ^ 32 = c.val.toNat + 32
    omega
  · exact .inl rfl

lemma toLower_eq_iff {d : Char} (hd : d.toNat < 65 ∨ 90 < d.toNat ∧ d.toNat < 97) :
    c.toLower = d ↔ c = d := by
  obtain hsame | ⟨hlow, hhigh, hlower⟩ := toLower_cases c
  · rw [hsame]
  · constructor
    · rintro rfl
      omega
    · rintro rfl
      omega

lemma toLower_toLower (c : Char) : c.toLower.toLower = c.toLower := by
  obtain hsame | ⟨hlow, -, hlower⟩ := toLower_cases c
  · rw [hsame, hsame]
  · obtain hsame | ⟨-, hhigh, -⟩ := toLower_cases c.toLower
    · exact hsame
    · omega

lemma isWhitespace_toLower (c : Char) : isWhitespace c.toLower = isWhitespace c := by
  obtain hsame | ⟨hlow, hhigh, hlower⟩ := toLower_cases c
  · rw [hsame]
  · have hletter : ∀ n, 65 ≤ n → n ≤ 122 → ∀ d : Char, d.toNat = n → isWhitespace d = false := by
      rintro n hge hle d rfl
      simp only [isWhitespace, Bool.or_eq_false_iff, Bool.and_eq_false_iff, decide_eq_false_iff_not]
      omega
    rw [hletter _ (by omega) (by omega) _ rfl, hletter _ hlow (by omega) _ rfl]

lemma toAsciiLowercase_toAsciiLowercase (s : String) :
    toAsciiLowercase (toAsciiLowercase s) = toAsciiLowercase s := by
  rw [← String.toList_inj, toAsciiLowercase, toAsciiLowercase, String.toList_ofList,
    String.toList_ofList, map_map]
  exact map_congr_left (fun c _ => toLower_toLower c)

lemma trimEndMatches_toAsciiLowercase (hc : c.toNat < 65 ∨ 90 < c.toNat ∧ c.toNat < 97) (s : String) :
    trimEndMatches c (toAsciiLowercase (trimEndMatches c s)) = toAsciiLowercase (trimEndMatches c s) := by
  rw [← String.toList_inj, toAsciiLowercase, trimEndMatches, trimEndMatches, String.toList_ofList,
    String.toList_ofList,
    String.toList_ofList, rdropWhile_eq_self, getLast?_map]
  intro d hd
  obtain ⟨last, hlast, rfl⟩ := Option.map_eq_some_iff.mp hd
  have hkept := rdropWhile_eq_self.mp (rdropWhile_idempotent (· == c) s.toList) last hlast
  rw [beq_eq_false_iff_ne] at hkept ⊢
  exact fun he => hkept ((toLower_eq_iff hc).mp he)

lemma stripStart_eq_some {start rest : String} : stripStart start s = some rest ↔ s = start ++ rest := by
  have hlist : s = start ++ rest ↔ s.toList = start.toList ++ rest.toList := by
    rw [← String.toList_append, String.toList_inj]
  rw [hlist, stripStart, startsWith]
  constructor
  · intro h
    split at h
    case isTrue hstart =>
      cases h
      rw [String.toList_ofList]
      exact (prefix_iff_eq_append.mp (List.isPrefixOf_iff_prefix.mp hstart)).symm
    case isFalse => cases h
  · intro h
    have hstart : start.toList.isPrefixOf s.toList = true := isPrefixOf_iff_prefix.mpr ⟨rest.toList, h.symm⟩
    rw [if_pos hstart, h, drop_left, String.ofList_toList]

lemma splitOnce_of_notMem (h : c ∉ s.toList) : splitOnce c s = none := by
  have hdrop : s.toList.dropWhile (· != c) = [] := by
    rw [dropWhile_eq_nil_iff]
    intro d hd
    simp only [bne_iff_ne]
    rintro rfl
    exact h hd
  rw [splitOnce, hdrop]

lemma splitOnce_append {t : String} (h : c ∉ s.toList) :
    splitOnce c (String.ofList (s.toList ++ c :: t.toList)) = some (s, t) := by
  have hpass : ∀ d ∈ s.toList, (d != c) = true := by
    intro d hd
    simp only [bne_iff_ne]
    rintro rfl
    exact h hd
  have hdrop : (s.toList ++ c :: t.toList).dropWhile (· != c) = c :: t.toList := by
    rw [dropWhile_append_of_pos hpass]
    simp
  have htake : (s.toList ++ c :: t.toList).takeWhile (· != c) = s.toList := by
    rw [takeWhile_append_of_pos hpass]
    simp
  rw [splitOnce, String.toList_ofList, hdrop, htake, String.ofList_toList]
  simp only [String.ofList_toList]

lemma eq_append_of_splitOnce {left right : String} (h : splitOnce c s = some (left, right)) :
    s.toList = left.toList ++ c :: right.toList := by
  unfold splitOnce at h
  cases hdrop : s.toList.dropWhile (· != c) with
  | nil =>
    rw [hdrop] at h
    cases h
  | cons d rest =>
    rw [hdrop] at h
    cases h
    have hd : ¬ (d != c) = true := by
      have hhead := head?_dropWhile_not (· != c) s.toList
      rw [hdrop] at hhead
      simpa using hhead
    have hd : d = c := by simpa using hd
    rw [hd] at hdrop
    rw [String.toList_ofList, String.toList_ofList, ← hdrop, takeWhile_append_dropWhile]

end RackManagement.Library
