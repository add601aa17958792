import RackManagement.Library.Text
import Mathlib.Data.Nat.Digits.Defs

/-!
# IP addresses

Parsing and printing of addresses as `std::net` does it. A reader returns the unread rest.
-/

namespace RackManagement.Library

open List

@[ext]
structure Ipv4Addr where
  octets : Fin 4 → UInt8

@[ext]
structure Ipv6Addr where
  segments : Fin 8 → UInt16

instance : DecidableEq Ipv4Addr := fun a b =>
  decidable_of_iff (∀ i, a.octets i = b.octets i) (funext_iff.symm.trans Ipv4Addr.ext_iff.symm)

instance : DecidableEq Ipv6Addr := fun a b =>
  decidable_of_iff (∀ i, a.segments i = b.segments i) (funext_iff.symm.trans Ipv6Addr.ext_iff.symm)

inductive IpAddr
  | v4 (addr : Ipv4Addr)
  | v6 (addr : Ipv6Addr)
  deriving DecidableEq

namespace IpAddr

def toDigit (radix : Nat) (c : Char) : Option Nat :=
  let n := c.toNat
  let d :=
    if 48 ≤ n ∧ n ≤ 57 then n - 48
    else if 97 ≤ n ∧ n ≤ 102 then n - 87
    else if 65 ≤ n ∧ n ≤ 70 then n - 55
    else 16
  if d < radix then some d else none

/-- Reads all leading digits. Too many of them, none, a forbidden zero prefix or a value of `limit`
or more is an error. -/
def readNumber (radix maxDigits limit : Nat) (allowZeroPrefix : Bool) (input : List Char) :
    Option (Nat × List Char) :=
  let digits := input.takeWhile (fun c => (toDigit radix c).isSome)
  let value := digits.foldl (fun acc c => acc * radix + (toDigit radix c).getD 0) 0
  if digits.length > maxDigits ∨ digits.length = 0 then none
  else if !allowZeroPrefix ∧ input.head? = some '0' ∧ digits.length > 1 then none
  else if value < limit then some (value, input.drop digits.length)
  else none

def readSeparator (separator : Char) (index : Nat) (input : List Char) : Option (List Char) :=
  if index = 0 then some input
  else
    match input with
    | c :: rest => if c = separator then some rest else none
    | [] => none

def readOctets : Nat → Nat → List Char → Option (List UInt8 × List Char)
  | 0, _, input => some ([], input)
  | count + 1, index, input => do
    let input ← readSeparator '.' index input
    let (octet, input) ← readNumber 10 3 256 false input
    let (octets, input) ← readOctets count (index + 1) input
    return (UInt8.ofNat octet :: octets, input)

variable (input : List Char)

def readIpv4Addr : Option (Ipv4Addr × List Char) := do
  let (octets, input) ← readOctets 4 0 input
  return (⟨fun i => octets.getD i 0⟩, input)

/-- Combines two octets into a segment, the first one being the high byte. -/
def segmentOf (high low : UInt8) : UInt16 := UInt16.ofNat (high.toNat * 256 + low.toNat)

/-- At most `count` groups from `index` on, and whether an embedded IPv4 address, which takes two groups, ended them. -/
def readGroups : Nat → Nat → List Char → List UInt16 × Bool × List Char
  | 0, _, input => ([], false, input)
  | count + 1, index, input =>
    let embedded := do
      if count = 0 then none
      let rest ← readSeparator ':' index input
      readIpv4Addr rest
    match embedded with
    | some (addr, rest) =>
      ([segmentOf (addr.octets 0) (addr.octets 1), segmentOf (addr.octets 2) (addr.octets 3)], true, rest)
    | none =>
      let group := do
        let rest ← readSeparator ':' index input
        readNumber 16 4 65536 true rest
      match group with
      | none => ([], false, input)
      | some (value, rest) =>
        let (groups, ipv4, rest) := readGroups count (index + 1) rest
        (UInt16.ofNat value :: groups, ipv4, rest)

def readIpv6Addr : Option (Ipv6Addr × List Char) :=
  let (head, headIpv4, rest) := readGroups 8 0 input
  if head.length = 8 then some (⟨fun i => head.getD i 0⟩, rest)
  else if headIpv4 then none
  else
    match rest with
    | ':' :: ':' :: rest =>
      let (tail, _, rest) := readGroups (8 - (head.length + 1)) 0 rest
      let zeroes := replicate (8 - head.length - tail.length) 0
      let segments := head ++ zeroes ++ tail
      some (⟨fun i => segments.getD i 0⟩, rest)
    | _ => none

def parseWith {α : Type} (reader : List Char → Option (α × List Char)) (s : String) : Option α :=
  match reader s.toList with
  | some (value, []) => some value
  | _ => none

def parseIpv6 (s : String) : Option Ipv6Addr := parseWith readIpv6Addr s

def readIpAddr : Option (IpAddr × List Char) :=
  match readIpv4Addr input with
  | some (addr, rest) => some (.v4 addr, rest)
  | none => (readIpv6Addr input).map (fun (addr, rest) => (.v6 addr, rest))

def parse (s : String) : Option IpAddr := parseWith readIpAddr s

/-- The embedded address of the block `::ffff:0:0/96`. -/
def toIpv4Mapped (addr : Ipv6Addr) : Option Ipv4Addr :=
  if addr.segments 0 = 0 ∧ addr.segments 1 = 0 ∧ addr.segments 2 = 0 ∧ addr.segments 3 = 0 ∧
      addr.segments 4 = 0 ∧ addr.segments 5 = 0xffff then
    let high := (addr.segments 6).toNat
    let low := (addr.segments 7).toNat
    let octets := [UInt8.ofNat (high / 256), UInt8.ofNat (high % 256),
      UInt8.ofNat (low / 256), UInt8.ofNat (low % 256)]
    some ⟨fun i => octets.getD i 0⟩
  else none

def toCanonical : IpAddr → IpAddr
  | .v4 addr => .v4 addr
  | .v6 addr =>
    match toIpv4Mapped addr with
    | some mapped => .v4 mapped
    | none => .v6 addr

/-- The digits of a number, most significant first and without a zero prefix. -/
def showNat (radix n : Nat) : List Char :=
  if n = 0 then ['0'] else ((Nat.digits radix n).reverse).map Nat.digitChar

def showIpv4 (addr : Ipv4Addr) : List Char :=
  showNat 10 (addr.octets 0).toNat ++ ['.'] ++ showNat 10 (addr.octets 1).toNat ++ ['.'] ++
    showNat 10 (addr.octets 2).toNat ++ ['.'] ++ showNat 10 (addr.octets 3).toNat

/-- Start and length of the first longest run of zero segments. -/
def longestZeroes (segments : List UInt16) : Nat × Nat :=
  let step := fun (acc : Nat × (Nat × Nat) × (Nat × Nat)) (segment : UInt16) =>
    let (i, longest, current) := acc
    if segment = 0 then
      let current := if current.2 = 0 then (i, 1) else (current.1, current.2 + 1)
      (i + 1, if current.2 > longest.2 then current else longest, current)
    else (i + 1, longest, (0, 0))
  (segments.foldl step (0, (0, 0), (0, 0))).2.1

def showSegments (segments : List UInt16) : List Char :=
  intercalate [':'] (segments.map (fun segment => showNat 16 segment.toNat))

def showIpv6 (addr : Ipv6Addr) : List Char :=
  match toIpv4Mapped addr with
  | some mapped => "::ffff:".toList ++ showIpv4 mapped
  | none =>
    let segments := ofFn addr.segments
    let (start, len) := longestZeroes segments
    if len > 1 then
      showSegments (segments.take start) ++ [':', ':'] ++ showSegments (segments.drop (start + len))
    else showSegments segments

def toString : IpAddr → String
  | .v4 addr => String.ofList (showIpv4 addr)
  | .v6 addr => String.ofList (showIpv6 addr)

def isAddressChar (c : Char) : Bool :=
  let n := c.toNat
  (48 ≤ n && n ≤ 57) || (97 ≤ n && n ≤ 102) || n = 46 || n = 58

variable {c : Char}

lemma isWhitespace_of_isAddressChar (h : isAddressChar c = true) : isWhitespace c = false := by
  simp only [isAddressChar, Bool.or_eq_true, Bool.and_eq_true, decide_eq_true_eq] at h
  simp only [isWhitespace, Bool.or_eq_false_iff, Bool.and_eq_false_iff, decide_eq_false_iff_not]
  omega

lemma isAddressChar_of_mem_showNat {radix n : Nat} (hradix : 1 < radix) (hle : radix ≤ 16)
    (h : c ∈ showNat radix n) : isAddressChar c = true := by
  unfold showNat at h
  split at h
  · rw [mem_singleton.mp h]
    rfl
  · obtain ⟨digit, hdigit, rfl⟩ := mem_map.mp h
    have hlt : digit < radix := Nat.digits_lt_base hradix (mem_reverse.mp hdigit)
    have hdigits : ∀ digit < 16, isAddressChar (Nat.digitChar digit) = true := by decide
    exact hdigits digit (by omega)

lemma isAddressChar_of_mem_showIpv4 {addr : Ipv4Addr} (h : c ∈ showIpv4 addr) : isAddressChar c = true := by
  have hoctet : ∀ n, c ∈ showNat 10 n → isAddressChar c = true :=
    fun n => isAddressChar_of_mem_showNat (by omega) (by omega)
  have hdot : c = '.' → isAddressChar c = true := by
    rintro rfl
    rfl
  simp only [showIpv4, mem_append, mem_singleton] at h
  obtain ((((((h | h) | h) | h) | h) | h) | h) := h
  · exact hoctet _ h
  · exact hdot h
  · exact hoctet _ h
  · exact hdot h
  · exact hoctet _ h
  · exact hdot h
  · exact hoctet _ h

lemma isAddressChar_of_mem_showSegments {segments : List UInt16} (h : c ∈ showSegments segments) :
    isAddressChar c = true := by
  induction segments with
  | nil => simp [showSegments] at h
  | cons segment segments ih =>
    have hsegment : c ∈ showNat 16 segment.toNat → isAddressChar c = true :=
      isAddressChar_of_mem_showNat (by omega) (by omega)
    cases segments with
    | nil =>
      rw [showSegments, map_singleton, intercalate_singleton] at h
      exact hsegment h
    | cons next segments =>
      rw [showSegments, map_cons, map_cons, intercalate_cons_cons] at h
      obtain h | h := mem_append.mp h
      · obtain h | h := mem_append.mp h
        · exact hsegment h
        · rw [mem_singleton.mp h]
          rfl
      · exact ih h

lemma isAddressChar_of_mem_showIpv6 {addr : Ipv6Addr} (h : c ∈ showIpv6 addr) : isAddressChar c = true := by
  unfold showIpv6 at h
  split at h
  · obtain h | h := mem_append.mp h
    · have hlead : ∀ c ∈ "::ffff:".toList, isAddressChar c = true := by simp [isAddressChar]
      exact hlead c h
    · exact isAddressChar_of_mem_showIpv4 h
  · simp only at h
    split at h
    · obtain h | h := mem_append.mp h
      · obtain h | h := mem_append.mp h
        · exact isAddressChar_of_mem_showSegments h
        · have hcolons : ∀ c ∈ [':', ':'], isAddressChar c = true := by simp [isAddressChar]
          exact hcolons c h
      · exact isAddressChar_of_mem_showSegments h
    · exact isAddressChar_of_mem_showSegments h

lemma isAddressChar_of_mem_toString {addr : IpAddr} (h : c ∈ addr.toString.toList) :
    isAddressChar c = true := by
  cases addr with
  | v4 addr =>
    rw [toString, String.toList_ofList] at h
    exact isAddressChar_of_mem_showIpv4 h
  | v6 addr =>
    rw [toString, String.toList_ofList] at h
    exact isAddressChar_of_mem_showIpv6 h

lemma toCanonical_toCanonical (addr : IpAddr) : addr.toCanonical.toCanonical = addr.toCanonical := by
  cases addr with
  | v4 addr => rfl
  | v6 addr =>
    cases hmapped : toIpv4Mapped addr with
    | some mapped => simp only [toCanonical, hmapped]
    | none => simp only [toCanonical, hmapped]

lemma notMem_toString {addr : IpAddr} (hc : isAddressChar c = false) : c ∉ addr.toString.toList := by
  intro h
  rw [isAddressChar_of_mem_toString h] at hc
  cases hc

end IpAddr

end RackManagement.Library
