import RackManagement.Library.Url
import Mathlib.Data.List.Infix

/-!
# References that start with a slash

How the URL standard resolves a reference that starts with a slash.
-/

namespace RackManagement.Library.UrlStandard

open List

variable (c : Char)

def isC0ControlOrSpace : Bool := c.toNat ≤ 0x20

def isTabOrNewline : Bool := c == '\t' || c == '\n' || c == '\r'

def clean (input : List Char) : List Char :=
  ((input.dropWhile isC0ControlOrSpace).rdropWhile isC0ControlOrSpace).filter (fun c => !isTabOrNewline c)

def isSeparator : Bool := c == '/' || c == '\\'

/-- Characters before which a path ends. -/
def isPathEnd : Bool := c == '?' || c == '#'

/-- A set of characters to encode: the controls, the characters outside of ASCII and those listed. -/
def encodeSet (listed : List Nat) (c : Char) : Bool :=
  c.toNat < 0x20 || 0x7e < c.toNat || listed.contains c.toNat

def inFragmentSet : Char → Bool := encodeSet [0x20, 0x22, 0x3c, 0x3e, 0x60]

def inSpecialQuerySet : Char → Bool := encodeSet [0x20, 0x22, 0x23, 0x27, 0x3c, 0x3e]

def inPathSet : Char → Bool := encodeSet [0x20, 0x22, 0x23, 0x3c, 0x3e, 0x3f, 0x5e, 0x60, 0x7b, 0x7d]

def inUserinfoSet : Char → Bool :=
  encodeSet [0x20, 0x22, 0x23, 0x2f, 0x3a, 0x3b, 0x3c, 0x3d, 0x3e, 0x3f, 0x40, 0x5b, 0x5c, 0x5d,
    0x5e, 0x60, 0x7b, 0x7c, 0x7d]

def hexUpper (n : Nat) : Char := "0123456789ABCDEF".toList.getD n '0'

def percentEncodeByte (byte : UInt8) : List Char :=
  ['%', hexUpper (byte.toNat / 16), hexUpper (byte.toNat % 16)]

def percentEncodeChar (set : Char → Bool) (c : Char) : List Char :=
  if set c then (String.utf8EncodeChar c).flatMap percentEncodeByte else [c]

def percentEncode (set : Char → Bool) (text : List Char) : List Char := text.flatMap (percentEncodeChar set)

/-! ## The path state -/

def doubleDots : List (List Char) := ["..".toList, ".%2e".toList, "%2e.".toList, "%2e%2e".toList]

def isDoubleDot (segment : List Char) : Bool := doubleDots.contains (segment.map Char.toLower)

def isSingleDot (segment : List Char) : Bool :=
  [".".toList, "%2e".toList].contains (segment.map Char.toLower)

/-- The path after a segment, which a separator or the end of the path closes. -/
def closeSegment (path : List (List Char)) (segment : List Char) (separated : Bool) : List (List Char) :=
  if isDoubleDot segment then if separated then path.dropLast else path.dropLast ++ [[]]
  else if isSingleDot segment then if separated then path else path ++ [[]]
  else path ++ [segment]

/-- The path that was read, the segments that were closed for it and the input that is left. -/
structure PathOutcome where
  path : List (List Char)
  processed : List (List Char)
  rest : List Char

def pathState (path processed : List (List Char)) (buffer : List Char) : List Char → PathOutcome
  | [] => ⟨closeSegment path buffer false, processed ++ [buffer], []⟩
  | c :: rest =>
    if isSeparator c then pathState (closeSegment path buffer true) (processed ++ [buffer]) [] rest
    else if isPathEnd c then ⟨closeSegment path buffer false, processed ++ [buffer], c :: rest⟩
    else pathState path processed (buffer ++ percentEncodeChar inPathSet c) rest

def pathText (path : List (List Char)) : List Char := path.flatMap (fun segment => '/' :: segment)

def queryOf : List Char → Option String
  | '?' :: rest => some (String.ofList (percentEncode inSpecialQuerySet (rest.takeWhile (· != '#'))))
  | _ => none

def fragmentOf (rest : List Char) : Option String :=
  match rest.dropWhile (· != '#') with
  | _ :: fragment => some (String.ofList (percentEncode inFragmentSet fragment))
  | [] => none

def withPath (url : Url) (input : List Char) : Url :=
  let outcome := pathState [] [] [] input
  { url with
    path := String.ofList (pathText outcome.path)
    query := queryOf outcome.rest
    fragment := fragmentOf outcome.rest }

/-- The text before the first colon outside of brackets, and the text after it. -/
def splitPort (inside : Bool) : List Char → List Char × Option (List Char)
  | [] => ([], none)
  | c :: rest =>
    if c == ':' && !inside then ([], some rest)
    else
      let (host, port) := splitPort (if c == '[' then true else if c == ']' then false else inside) rest
      (c :: host, port)

/-- The port of an authority; an outer `none` is a failure. -/
def parsePort (scheme : String) (digits : List Char) : Option (Option Nat) :=
  if digits.isEmpty then some none
  else if digits.all Char.isDigit then
    let port := digits.foldl (fun value c => value * 10 + (c.toNat - 48)) 0
    if port < 65536 then some (if Url.defaultPort scheme = some port then none else some port) else none
  else none

/-- The authority of a URL, whose credentials end at the last at sign. -/
def parseAuthority (parseHost : String → Option String) (scheme : String) (authority : List Char) :
    Option Url := do
  let hostPort := authority.rtakeWhile (· != '@')
  let credentials := (authority.rdropWhile (· != '@')).dropLast
  let username := credentials.takeWhile (· != ':')
  let password := (credentials.dropWhile (· != ':')).drop 1
  let (host, port) := splitPort false hostPort
  if host.isEmpty then none
  else
    let host ← parseHost (String.ofList host)
    let port ← parsePort scheme (port.getD [])
    some {
      scheme
      username := String.ofList (percentEncode inUserinfoSet username)
      password := if password.isEmpty then none
        else some (String.ofList (percentEncode inUserinfoSet password))
      host := some host
      port
      path := ""
      query := none
      fragment := none }

def endsAuthority : Bool := isSeparator c || isPathEnd c

def pathStart : List Char → List Char
  | c :: rest => if isSeparator c then rest else c :: rest
  | [] => []

/-- The authority of a cleaned reference, if it has one, and what the path state reads of it. -/
def splitReference : List Char → Option (List Char) × List Char
  | _ :: c :: rest =>
    if isSeparator c then
      let input := rest.dropWhile isSeparator
      (some (input.takeWhile (fun c => !endsAuthority c)),
        pathStart (input.dropWhile (fun c => !endsAuthority c)))
    else (none, c :: rest)
  | _ => (none, [])

/-- A cleaned reference that starts with a separator, resolved against a base. -/
def resolve (parseHost : String → Option String) (base : Url) (reference : List Char) : Option Url :=
  match splitReference reference with
  | (none, input) => some (withPath base input)
  | (some authority, input) =>
    (parseAuthority parseHost base.scheme authority).map (fun url => withPath url input)

/-- A parser resolves references that start with a slash as the standard does. -/
def Follows (lib : UrlLibrary) (parseHost : String → Option String) : Prop :=
  ∀ base reference, base.scheme = "http" ∨ base.scheme = "https" →
    (clean reference.toList).head? = some '/' →
    lib.join base reference = resolve parseHost base (clean reference.toList)

variable (reference : List Char)

/-- The segments that are closed while a reference is resolved. -/
def processedSegments : List (List Char) :=
  (pathState [] [] [] (splitReference (clean reference)).2).processed

/-- The part of a reference from which its path is made, as the parser reads it. -/
def pathPart : List Char :=
  (splitReference (clean reference)).2.takeWhile (fun c => !isPathEnd c)

/-! ## What the path state closes -/

/-- The path after all segments, the last of which the end of the path closes. -/
def closeSegments (path : List (List Char)) : List (List Char) → List (List Char)
  | [] => path
  | [segment] => closeSegment path segment false
  | segment :: later => closeSegments (closeSegment path segment true) later

/-- The segments of an input of which the text `buffer` was read already. -/
def segmentsAfter (buffer input : List Char) : List (List Char) :=
  (((input.takeWhile (fun c => !isPathEnd c)).splitOnP isSeparator).map
    (percentEncode inPathSet)).modifyHead (buffer ++ ·)

@[simp] lemma modifyHead_nil_append {α : Type} (l : List (List α)) : l.modifyHead ([] ++ ·) = l := by
  cases l <;> rfl

variable {c : Char} {byte : UInt8} {text segment : List Char}

lemma isPathEnd_of_isSeparator (h : isSeparator c = true) : isPathEnd c = false := by
  rw [isSeparator, Bool.or_eq_true, beq_iff_eq, beq_iff_eq] at h
  obtain rfl | rfl := h <;> rfl

lemma segmentsAfter_separator (h : isSeparator c = true) (buffer rest : List Char) :
    segmentsAfter buffer (c :: rest) = buffer :: segmentsAfter [] rest := by
  unfold segmentsAfter
  rw [takeWhile_cons, isPathEnd_of_isSeparator h, Bool.not_false, if_pos rfl,
    splitOnP_cons_eq_if_modifyHead, if_pos h,
    modifyHead_nil_append]
  simp [percentEncode]

lemma segmentsAfter_end (h : isPathEnd c = true) (buffer rest : List Char) :
    segmentsAfter buffer (c :: rest) = [buffer] := by
  unfold segmentsAfter
  rw [takeWhile_cons, h, Bool.not_true, if_neg Bool.false_ne_true]
  simp [percentEncode]

lemma segmentsAfter_char (hseparator : isSeparator c = false) (h : isPathEnd c = false)
    (buffer rest : List Char) :
    segmentsAfter buffer (c :: rest) = segmentsAfter (buffer ++ percentEncodeChar inPathSet c) rest := by
  unfold segmentsAfter
  rw [takeWhile_cons, h, Bool.not_false, if_pos rfl, splitOnP_cons_eq_if_modifyHead,
    if_neg (by simp [hseparator])]
  cases splitOnP isSeparator (rest.takeWhile (fun c => !isPathEnd c)) with
  | nil => rfl
  | cons segment later => simp [percentEncode]

lemma segmentsAfter_ne_nil (buffer input : List Char) : segmentsAfter buffer input ≠ [] := by
  unfold segmentsAfter
  simp

lemma pathState_eq (path processed : List (List Char)) (buffer input : List Char) :
    (pathState path processed buffer input).processed = processed ++ segmentsAfter buffer input ∧
      (pathState path processed buffer input).path = closeSegments path (segmentsAfter buffer input) := by
  induction input generalizing path processed buffer with
  | nil => simp [pathState, segmentsAfter, closeSegments, percentEncode]
  | cons c rest ih =>
    rw [pathState]
    cases hseparator : isSeparator c with
    | true =>
      rw [if_pos rfl, segmentsAfter_separator hseparator]
      obtain ⟨hprocessed, hpath⟩ := ih (closeSegment path buffer true) (processed ++ [buffer]) []
      constructor
      · rw [hprocessed, append_assoc, singleton_append]
      · rw [hpath, closeSegments]
        exact fun h => segmentsAfter_ne_nil [] rest h
    | false =>
      rw [if_neg (by simp)]
      cases hend : isPathEnd c with
      | true =>
        rw [if_pos rfl, segmentsAfter_end hend]
        exact ⟨rfl, rfl⟩
      | false =>
        rw [if_neg (by simp), segmentsAfter_char hseparator hend]
        exact ih _ _ _

/-! ## Texts that separators cannot be part of -/

section Infix

variable {α : Type} {text : List α}

lemma infix_append_cons_iff {separator : α} (hne : text ≠ []) (hnot : separator ∉ text) {xs ys : List α} :
    text <:+: xs ++ separator :: ys ↔ text <:+: xs ∨ text <:+: ys := by
  have hstartNil :
      ∀ {start : List α}, (∀ x ∈ start, x ∈ text) → start <+: separator :: ys → start = [] := by
    intro start hmem hstart
    cases start with
    | nil => rfl
    | cons first later =>
      rw [cons_prefix_cons] at hstart
      have hfirst := hmem first mem_cons_self
      rw [hstart.1] at hfirst
      exact absurd hfirst hnot
  have hright : text <:+: separator :: ys ↔ text <:+: ys := by
    rw [infix_cons_iff]
    apply or_iff_right
    intro h
    exact hne (hstartNil (fun _ hx => hx) h)
  rw [infix_append_iff, hright]
  constructor
  · rintro (h | h | ⟨left, right, rfl, hleft, hstart⟩)
    · exact .inl h
    · exact .inr h
    · have hright := hstartNil (fun _ hx => mem_append_right left hx) hstart
      rw [hright, append_nil]
      exact .inl hleft.isInfix
  · rintro (h | h)
    · exact .inl h
    · exact .inr (.inl h)

lemma exists_infix_splitOnP {p : α → Bool} (hne : text ≠ []) (hnot : ∀ x ∈ text, p x = false)
    (buffer input : List α) :
    (∃ piece ∈ (input.splitOnP p).modifyHead (buffer ++ ·), text <:+: piece) ↔
      text <:+: buffer ++ input := by
  induction input generalizing buffer with
  | nil => simp
  | cons x rest ih =>
    rw [splitOnP_cons_eq_if_modifyHead]
    cases hx : p x with
    | true =>
      have hseparator : x ∉ text := fun hmem => by simp [hnot x hmem] at hx
      have hrest := ih []
      rw [modifyHead_nil_append, nil_append] at hrest
      rw [if_pos rfl, infix_append_cons_iff hne hseparator, ← hrest]
      simp
    | false =>
      have hrest := ih (buffer ++ [x])
      rw [append_assoc, singleton_append] at hrest
      rw [if_neg (by simp), ← hrest]
      simp [Function.comp_def]

end Infix

/-! ## Percent-encoding -/

lemma hexUpper_ne_percent (n : Nat) : hexUpper n ≠ '%' := by
  have hdigits : ∀ c ∈ "0123456789ABCDEF".toList, c ≠ '%' := by simp
  unfold hexUpper
  rw [getD_eq_getElem?_getD]
  cases hget : "0123456789ABCDEF".toList[n]? with
  | none => decide
  | some c => exact hdigits c (mem_of_getElem? hget)

lemma percentEncodeByte_injective {a b : UInt8}
    (h : (percentEncodeByte a).map Char.toLower = (percentEncodeByte b).map Char.toLower) : a = b := by
  have hdigit : ∀ n < 16, ∀ m < 16, (hexUpper n).toLower = (hexUpper m).toLower → n = m := by decide
  have ha := a.toNat_lt
  have hb := b.toNat_lt
  simp only [percentEncodeByte, map_cons, map_nil, cons.injEq, and_true, true_and] at h
  have hhigh := hdigit (a.toNat / 16) (by omega) (b.toNat / 16) (by omega) h.1
  have hlow := hdigit (a.toNat % 16) (by omega) (b.toNat % 16) (by omega) h.2
  apply UInt8.toNat_inj.mp
  omega

lemma inPathSet_iff : inPathSet c = true ↔ c.toNat < 0x20 ∨ 0x7e < c.toNat ∨
      c.toNat ∈ [0x20, 0x22, 0x23, 0x3c, 0x3e, 0x3f, 0x5e, 0x60, 0x7b, 0x7d] := by
  simp [inPathSet, encodeSet, or_assoc]

lemma toLower_of_inPathSet (h : inPathSet c = true) : c.toLower = c := by
  obtain hsame | ⟨hlow, hhigh, -⟩ := toLower_cases c
  · exact hsame
  · rw [inPathSet_iff] at h
    simp only [mem_cons, not_mem_nil, or_false] at h
    omega

lemma inPathSet_eq_false (h : inPathSet c.toLower = false) : inPathSet c = false := by
  rw [← Bool.not_eq_true]
  intro hset
  rw [toLower_of_inPathSet hset, hset] at h
  cases h

/-- Bytes of the characters that a path keeps as they are. -/
def keptBytes : List UInt8 := [0x2e, 0x2f, 0x5c]

lemma not_mem_keptBytes (h : inPathSet c = true) (hbyte : byte ∈ String.utf8EncodeChar c) :
    byte ∉ keptBytes := by
  have hvalue : byte.toNat = c.toNat ∧ c.toNat ≤ 127 ∨ 128 ≤ byte.toNat := by
    rw [String.utf8EncodeChar] at hbyte
    change byte.toNat = c.val.toNat ∧ c.val.toNat ≤ 127 ∨ 128 ≤ byte.toNat
    split_ifs at hbyte with hone htwo hthree
    all_goals
      simp only [mem_cons, not_mem_nil, or_false] at hbyte
      rcases hbyte with rfl | rfl | rfl | rfl
      all_goals
        rw [UInt8.toNat_ofNat']
        omega
  rw [inPathSet_iff] at h
  simp only [mem_cons, not_mem_nil, or_false] at h
  intro hkept
  simp only [keptBytes, mem_cons, not_mem_nil, or_false] at hkept
  have hnat : byte.toNat = 0x2e ∨ byte.toNat = 0x2f ∨ byte.toNat = 0x5c := by
    rcases hkept with rfl | rfl | rfl <;> decide
  omega

def Encodes (text : List Char) (byte : UInt8) : Prop :=
  text.map Char.toLower = (percentEncodeByte byte).map Char.toLower

lemma hexUpper_toLower {n : Nat} (hn : n < 16) (h : c.toLower = (hexUpper n).toLower) :
    inPathSet c = false ∧ c ≠ '%' := by
  have hraw : ∀ n < 16, inPathSet (hexUpper n).toLower = false ∧ (hexUpper n).toLower ≠ '%' := by decide
  obtain ⟨hset, hpercent⟩ := hraw n hn
  rw [← h] at hset hpercent
  refine ⟨inPathSet_eq_false hset, ?_⟩
  rintro rfl
  exact hpercent rfl

lemma Encodes.eq_cons (h : Encodes text byte) :
    ∃ high low, text = ['%', high, low] ∧ ∀ c ∈ [high, low], inPathSet c = false ∧ c ≠ '%' := by
  have hbyte := byte.toNat_lt
  unfold Encodes percentEncodeByte at h
  simp only [map_cons, map_nil] at h
  obtain ⟨first, later, rfl, hfirst, h⟩ := map_eq_cons_iff.mp h
  obtain ⟨high, later, rfl, hhigh, h⟩ := map_eq_cons_iff.mp h
  obtain ⟨low, later, rfl, hlow, h⟩ := map_eq_cons_iff.mp h
  rw [map_eq_nil_iff.mp h, (toLower_eq_iff (.inl (by decide))).mp hfirst]
  refine ⟨high, low, rfl, ?_⟩
  rw [forall_mem_cons, forall_mem_singleton]
  exact ⟨hexUpper_toLower (by omega) hhigh, hexUpper_toLower (by omega) hlow⟩

lemma Encodes.ne_nil (h : Encodes text byte) : text ≠ [] := by
  obtain ⟨high, low, rfl, -⟩ := h.eq_cons
  exact cons_ne_nil _ _

lemma Encodes.not_isSeparator (h : Encodes text byte) : ∀ c ∈ text, isSeparator c = false := by
  have hdigits : ∀ n < 16, (hexUpper n).toLower ≠ '/' ∧ (hexUpper n).toLower ≠ '\\' := by decide
  have hbyte := byte.toNat_lt
  have hhigh := hdigits (byte.toNat / 16) (by omega)
  have hlow := hdigits (byte.toNat % 16) (by omega)
  have hlower : ∀ c ∈ (percentEncodeByte byte).map Char.toLower, c ≠ '/' ∧ c ≠ '\\' := by
    rw [percentEncodeByte, map_cons, forall_mem_cons, map_cons, forall_mem_cons, map_singleton,
      forall_mem_singleton]
    exact ⟨by decide, hhigh, hlow⟩
  intro c hc
  have hmem : c.toLower ∈ (percentEncodeByte byte).map Char.toLower := by
    rw [← h]
    exact mem_map_of_mem hc
  have hne := hlower _ hmem
  rw [← Bool.not_eq_true, isSeparator, Bool.or_eq_true, beq_iff_eq, beq_iff_eq]
  rintro (rfl | rfl)
  · exact hne.1 rfl
  · exact hne.2 rfl

lemma percentEncode_cons_of_set (h : inPathSet c = true) (text : List Char) :
    percentEncode inPathSet (c :: text) =
      (String.utf8EncodeChar c).flatMap percentEncodeByte ++ percentEncode inPathSet text := by
  rw [percentEncode, flatMap_cons, percentEncodeChar, if_pos h, ← percentEncode]

lemma percentEncode_cons_of_not_set (h : inPathSet c = false) (text : List Char) :
    percentEncode inPathSet (c :: text) = c :: percentEncode inPathSet text := by
  rw [percentEncode, flatMap_cons, percentEncodeChar, if_neg (by simp [h]), singleton_append,
    ← percentEncode]

lemma prefix_percentEncode {start : List Char} (hstart : ∀ c ∈ start, inPathSet c = false ∧ c ≠ '%')
    (text : List Char) : start <+: percentEncode inPathSet text ↔ start <+: text := by
  induction start generalizing text with
  | nil => simp
  | cons first later ih =>
    obtain ⟨⟨hset, hpercent⟩, hlater⟩ := forall_mem_cons.mp hstart
    cases text with
    | nil => rfl
    | cons c text =>
      cases hc : inPathSet c with
      | true =>
        obtain ⟨byte, bytes, hbytes⟩ := exists_cons_of_ne_nil (String.utf8EncodeChar_ne_nil (c := c))
        have hne : first ≠ c := by
          rintro rfl
          rw [hset] at hc
          cases hc
        rw [percentEncode_cons_of_set hc, hbytes, flatMap_cons, percentEncodeByte]
        simp [cons_prefix_cons, hne, hpercent]
      | false => rw [percentEncode_cons_of_not_set hc, cons_prefix_cons, cons_prefix_cons, ih hlater]

lemma infix_percentEncodeByte (h : Encodes text byte) {bytes : List UInt8} (hbytes : byte ∉ bytes)
    (rest : List Char) : text <:+: bytes.flatMap percentEncodeByte ++ rest ↔ text <:+: rest := by
  obtain ⟨high, low, rfl, -⟩ := h.eq_cons
  induction bytes with
  | nil => rw [flatMap_nil, nil_append]
  | cons other bytes ih =>
    rw [mem_cons, not_or] at hbytes
    have hother :
        ¬['%', high, low] <+: percentEncodeByte other ++ (bytes.flatMap percentEncodeByte ++ rest) := by
      intro hstart
      simp only [percentEncodeByte, cons_append, nil_append, cons_prefix_cons, true_and] at hstart
      apply hbytes.1
      apply percentEncodeByte_injective
      rw [← h, percentEncodeByte, hstart.1, hstart.2.1]
    have hpercent : ∀ n, '%' ≠ hexUpper n := fun n => (hexUpper_ne_percent n).symm
    rw [percentEncodeByte, cons_append, cons_append, cons_append, nil_append] at hother
    rw [flatMap_cons, append_assoc, percentEncodeByte, cons_append, cons_append, cons_append,
      nil_append]
    rw [infix_cons_iff, infix_cons_iff, infix_cons_iff, ih hbytes.2]
    simp [hother, cons_prefix_cons, hpercent]

/-- Percent-encoding a path neither makes nor hides the encoding of a byte that is kept. -/
lemma infix_percentEncode (hbyte : byte ∈ keptBytes) (h : Encodes text byte)
    (input : List Char) : text <:+: percentEncode inPathSet input ↔ text <:+: input := by
  obtain ⟨high, low, htext, hkept⟩ := h.eq_cons
  induction input with
  | nil => rfl
  | cons c input ih =>
    cases hc : inPathSet c with
    | true =>
      have hnot : byte ∉ String.utf8EncodeChar c := fun hmem => not_mem_keptBytes hc hmem hbyte
      have hfirst : ¬text <+: c :: input := by
        rw [htext, cons_prefix_cons]
        rintro ⟨rfl, -⟩
        cases hc
      rw [percentEncode_cons_of_set hc, infix_percentEncodeByte h hnot, ih, infix_cons_iff,
        or_iff_right hfirst]
    | false =>
      have hfirst : text <+: c :: percentEncode inPathSet input ↔ text <+: c :: input := by
        rw [htext, cons_prefix_cons, cons_prefix_cons, prefix_percentEncode hkept]
      rw [percentEncode_cons_of_not_set hc, infix_cons_iff, infix_cons_iff, hfirst, ih]

lemma isDoubleDot_iff (segment : List Char) :
    isDoubleDot segment = true ↔ segment.map Char.toLower ∈ doubleDots := by
  rw [isDoubleDot, contains_iff_mem]

lemma not_inPathSet_of_isDoubleDot (h : isDoubleDot segment = true) :
    ∀ c ∈ segment, inPathSet c = false := by
  have hraw : ∀ dots ∈ doubleDots, ∀ c ∈ dots, inPathSet c = false := by
    simp [doubleDots, inPathSet, encodeSet]
  intro c hc
  rw [isDoubleDot_iff] at h
  exact inPathSet_eq_false (hraw _ h _ (mem_map_of_mem hc))

lemma percentEncode_eq_self (h : ∀ c ∈ text, inPathSet c = false) :
    percentEncode inPathSet text = text := by
  induction text with
  | nil => rfl
  | cons c text ih =>
    rw [forall_mem_cons] at h
    rw [percentEncode_cons_of_not_set h.1, ih h.2]

lemma infix_doubleDots {dots : List Char} (hdots : dots ∈ doubleDots) {high low : Char}
    (h : ['%', high, low] <:+: dots) : ['%', high, low] = "%2e".toList := by
  simp only [doubleDots, mem_cons, not_mem_nil, or_false] at hdots
  rcases hdots with rfl | rfl | rfl | rfl
  all_goals simp [infix_cons_iff, cons_prefix_cons] at h
  all_goals simp [h]

lemma percentEncodeByte_infix (hmem : c ∈ text) (hset : inPathSet c = true) :
    ∃ byte ∉ keptBytes, percentEncodeByte byte <:+: percentEncode inPathSet text := by
  obtain ⟨byte, bytes, hbytes⟩ := exists_cons_of_ne_nil (String.utf8EncodeChar_ne_nil (c := c))
  have hbyte : byte ∈ String.utf8EncodeChar c := by
    rw [hbytes]
    exact mem_cons_self
  refine ⟨byte, not_mem_keptBytes hset hbyte, ?_⟩
  have hchar : percentEncodeByte byte <:+: percentEncodeChar inPathSet c := by
    rw [percentEncodeChar, if_pos hset, hbytes, flatMap_cons]
    exact (prefix_append _ _).isInfix
  exact hchar.trans (infix_flatMap_of_mem hmem _)

lemma isDoubleDot_percentEncode (segment : List Char) :
    isDoubleDot (percentEncode inPathSet segment) = isDoubleDot segment := by
  by_cases hraw : ∀ c ∈ segment, inPathSet c = false
  · rw [percentEncode_eq_self hraw]
  · have hsegment : isDoubleDot segment = false := by
      rw [← Bool.not_eq_true]
      exact fun h => hraw (not_inPathSet_of_isDoubleDot h)
    rw [hsegment, ← Bool.not_eq_true]
    intro h
    push Not at hraw
    obtain ⟨c, hmem, hset⟩ := hraw
    obtain ⟨byte, hbyte, hpart⟩ := percentEncodeByte_infix hmem (by simpa using hset)
    apply hbyte
    have hdot := infix_doubleDots ((isDoubleDot_iff _).mp h) (hpart.map Char.toLower)
    have hbyte := percentEncodeByte_injective (a := byte) (b := 0x2e) hdot
    rw [hbyte]
    decide

/-! ## The resulting path -/

lemma not_infix_of_isSingleDot (h : isSingleDot segment = true)
    (hbyte : byte ≠ 0x2e) (htext : Encodes text byte) : ¬text <:+: segment := by
  intro hpart
  have hlower := hpart.map Char.toLower
  rw [htext] at hlower
  rw [isSingleDot, contains_iff_mem, mem_cons, mem_singleton] at h
  obtain h | h := h
  · rw [h] at hlower
    exact absurd hlower.length_le (by simp [percentEncodeByte])
  · rw [h] at hlower
    apply hbyte
    apply percentEncodeByte_injective
    exact hlower.eq_of_length (by simp [percentEncodeByte])

lemma exists_infix_closeSegment (hne : text ≠ [])
    (hsingle : ∀ segment, isSingleDot segment = true → ¬text <:+: segment)
    (hdouble : isDoubleDot segment = false) (path : List (List Char)) (separated : Bool) :
    (∃ part ∈ closeSegment path segment separated, text <:+: part) ↔
      (∃ part ∈ path, text <:+: part) ∨ text <:+: segment := by
  rw [closeSegment, hdouble, if_neg Bool.false_ne_true]
  split
  · rename_i hdot
    rw [or_iff_left (hsingle segment hdot)]
    split
    · rfl
    · simp [or_and_right, exists_or, hne]
  · simp [or_and_right, exists_or]

lemma exists_infix_closeSegments (hne : text ≠ [])
    (hsingle : ∀ segment, isSingleDot segment = true → ¬text <:+: segment) {segments : List (List Char)}
    (hdouble : ∀ segment ∈ segments, isDoubleDot segment = false) (path : List (List Char)) :
    (∃ part ∈ closeSegments path segments, text <:+: part) ↔
      (∃ part ∈ path, text <:+: part) ∨ ∃ segment ∈ segments, text <:+: segment := by
  induction segments generalizing path with
  | nil => simp [closeSegments]
  | cons segment later ih =>
    rw [forall_mem_cons] at hdouble
    cases later with
    | nil =>
      rw [closeSegments, exists_infix_closeSegment hne hsingle hdouble.1]
      simp
    | cons next later =>
      rw [closeSegments, ih hdouble.2, exists_infix_closeSegment hne hsingle hdouble.1, or_assoc,
        exists_mem_cons_iff,
        exists_mem_cons_iff, exists_mem_cons_iff]
      exact cons_ne_nil next later

lemma infix_pathText (hne : text ≠ []) (hnot : '/' ∉ text) (path : List (List Char)) :
    text <:+: pathText path ↔ ∃ segment ∈ path, text <:+: segment := by
  have hslash : ∀ rest, text <:+: '/' :: rest ↔ text <:+: rest := by
    intro rest
    have hsplit : text <:+: [] ++ '/' :: rest ↔ text <:+: [] ∨ text <:+: rest :=
      infix_append_cons_iff hne hnot
    rw [nil_append, infix_nil, or_iff_right hne] at hsplit
    exact hsplit
  induction path with
  | nil => simp [pathText, hne]
  | cons segment later ih =>
    rw [pathText, flatMap_cons, ← pathText, cons_append, hslash, exists_mem_cons_iff]
    refine Iff.trans ?_ (or_congr_right ih)
    cases later with
    | nil => simp [pathText, hne]
    | cons next later =>
      rw [pathText, flatMap_cons, cons_append, infix_append_cons_iff hne hnot, hslash]

lemma isDoubleDot_processedSegments :
    (∀ segment ∈ processedSegments reference, isDoubleDot segment = false) ↔
      ∀ segment ∈ (pathPart reference).splitOnP isSeparator, isDoubleDot segment = false := by
  rw [processedSegments, (pathState_eq _ _ _ _).1, nil_append, segmentsAfter, modifyHead_nil_append,
    forall_mem_map]
  simp only [isDoubleDot_percentEncode]
  rfl

lemma infix_path {reference : List Char} (hbyte : byte = 0x2f ∨ byte = 0x5c) (h : Encodes text byte)
    (hdouble : ∀ segment ∈ processedSegments reference, isDoubleDot segment = false) :
    text <:+: pathText (pathState [] [] [] (splitReference (clean reference)).2).path ↔
      text <:+: pathPart reference := by
  have hkept : byte ∈ keptBytes := by obtain rfl | rfl := hbyte <;> decide
  have hdot : byte ≠ 0x2e := by obtain rfl | rfl := hbyte <;> decide
  have hslash : '/' ∉ text := by
    intro hmem
    have hfalse := h.not_isSeparator '/' hmem
    cases hfalse
  have hpieces := exists_infix_splitOnP h.ne_nil h.not_isSeparator [] (pathPart reference)
  rw [modifyHead_nil_append, nil_append] at hpieces
  rw [processedSegments, (pathState_eq _ _ _ _).1, nil_append] at hdouble
  rw [(pathState_eq _ _ _ _).2, infix_pathText h.ne_nil hslash,
    exists_infix_closeSegments h.ne_nil (fun _ hsingle =>
      not_infix_of_isSingleDot hsingle hdot h) hdouble, ← hpieces,
    segmentsAfter, modifyHead_nil_append]
  simp only [not_mem_nil, false_and, exists_false, false_or, mem_map, exists_exists_and_eq_and,
    infix_percentEncode hkept h]
  rfl

/-! ## Resolved references -/

lemma path_of_resolve {parseHost : String → Option String} {base url : Url} {reference : List Char}
    (h : resolve parseHost base reference = some url) :
    url.path = String.ofList (pathText (pathState [] [] [] (splitReference reference).2).path) := by
  unfold resolve at h
  split at h
  · rename_i input hsplit
    rw [hsplit, ← Option.some.inj h]
    rfl
  · rename_i authority input hsplit
    obtain ⟨parsed, -, hparsed⟩ := Option.map_eq_some_iff.mp h
    rw [hsplit, ← hparsed]
    rfl

lemma head_clean {input : List Char} (h : input.head? = some '/') : (clean input).head? = some '/' := by
  obtain ⟨rest, rfl⟩ := head?_eq_some_iff.mp h
  have hstart : ('/' :: rest).dropWhile isC0ControlOrSpace = '/' :: rest := by
    rw [dropWhile_cons_of_neg (by decide)]
  have hne : ('/' :: rest).rdropWhile isC0ControlOrSpace ≠ [] := by
    rw [Ne, rdropWhile_eq_nil_iff, forall_mem_cons]
    exact fun h => absurd h.1 (by decide)
  obtain ⟨first, kept, hkept⟩ := exists_cons_of_ne_nil hne
  have hfirst := rdropWhile_prefix isC0ControlOrSpace ('/' :: rest)
  rw [hkept, cons_prefix_cons] at hfirst
  rw [hfirst.1] at hkept
  rw [clean, hstart, hkept, filter_cons_of_pos (by decide)]
  rfl

end RackManagement.Library.UrlStandard
