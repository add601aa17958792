import Mathlib.Data.Nat.Digits.Lemmas
import RackManagement.Library.Fallible
import RackManagement.Model.PldmPackage

/-!
# The rendering of little-endian identifiers

`paddedHexLe` is exact as long as 128 bits hold every byte that is not zero.
-/

namespace RackManagement.Pldm

open Library List

lemma isOk_paddedHexLe (bytes : Bytes) : (paddedHexLe bytes).isOk = true ↔ bytes.length < 2 ^ 15 := by
  unfold paddedHexLe
  split
  case isTrue hempty =>
    rw [List.isEmpty_iff] at hempty
    subst hempty
    exact ⟨fun _ => by decide, fun _ => rfl⟩
  case isFalse =>
    constructor
    · intro h
      obtain ⟨text, htext⟩ := isOk_iff_exists.mp h
      obtain ⟨padded, hpad, -⟩ := Library.bind_eq_ok.mp htext
      unfold padStart at hpad
      split at hpad
      case isTrue hwidth => omega
      case isFalse => cases hpad
    · intro h
      refine isOk_bind ?_ (fun _ _ => rfl)
      rw [padStart, if_pos (by omega)]
      rfl

/-- The last hexadecimal digits of a number. -/
def fixedHex : (width value : Nat) → List Char
  | 0, _ => []
  | width + 1, value => fixedHex width (value / 16) ++ [Nat.digitChar (value % 16)]

lemma digitChar_injective : ∀ a < 16, ∀ b < 16, Nat.digitChar a = Nat.digitChar b → a = b := by decide

lemma fixedHex_inj {width a b : Nat} (ha : a < 16 ^ width) (hb : b < 16 ^ width)
    (h : fixedHex width a = fixedHex width b) : a = b := by
  induction width generalizing a b with
  | zero =>
    rw [Nat.pow_zero] at ha hb
    omega
  | succ width ih =>
    rw [Nat.pow_succ] at ha hb
    obtain ⟨hinit, hlast⟩ := append_inj' h rfl
    have hdigit : a % 16 = b % 16 :=
      digitChar_injective _ (Nat.mod_lt _ (by decide)) _ (Nat.mod_lt _ (by decide)) (singleton_inj.mp hlast)
    have hrest : a / 16 = b / 16 := ih (by omega) (by omega) hinit
    omega

lemma fixedHex_zero (width : Nat) : fixedHex width 0 = replicate width '0' := by
  induction width with
  | zero => rfl
  | succ width ih =>
    rw [fixedHex, Nat.zero_div, ih, replicate_succ']
    rfl

lemma replicate_append_toDigits {width value : Nat} (h : value < 16 ^ (width + 1)) :
    replicate (width + 1 - (Nat.toDigits 16 value).length) '0' ++ Nat.toDigits 16 value =
      fixedHex (width + 1) value := by
  induction width generalizing value with
  | zero =>
    have hdigit : value < 16 := by simpa using h
    rw [Nat.toDigits_of_lt_base hdigit, fixedHex, fixedHex, Nat.mod_eq_of_lt hdigit]
    rfl
  | succ width ih =>
    rw [fixedHex]
    by_cases hdigit : value < 16
    · rw [Nat.toDigits_of_lt_base hdigit, Nat.div_eq_of_lt hdigit, Nat.mod_eq_of_lt hdigit, fixedHex_zero]
      rfl
    · have hrest : value / 16 < 16 ^ (width + 1) := by
        rw [Nat.pow_succ] at h
        omega
      rw [Nat.toDigits_of_base_le (by decide) (by omega), ← ih hrest, ← append_assoc]
      simp

lemma littleEndian_lt (bytes : Bytes) : littleEndian bytes < 16 ^ (bytes.length * 2) := by
  induction bytes with
  | nil => decide
  | cons b bytes ih =>
    have hb := b.toNat_lt
    have hpow : 16 ^ ((b :: bytes).length * 2) = 16 ^ (bytes.length * 2) * 256 := by
      rw [length_cons, Nat.succ_mul, Nat.pow_add]
    rw [littleEndian, hpow]
    omega

lemma littleEndian_inj {a b : Bytes} (hlength : a.length = b.length)
    (h : littleEndian a = littleEndian b) : a = b := by
  induction a generalizing b with
  | nil => exact (length_eq_zero_iff.mp hlength.symm).symm
  | cons x a ih =>
    cases b with
    | nil => cases hlength
    | cons y b =>
      have hx := x.toNat_lt
      have hy := y.toNat_lt
      unfold littleEndian at h
      have hrest : a = b := ih (Nat.succ.inj hlength) (by omega)
      have hfirst : x = y := UInt8.toNat_inj.mp (by omega)
      rw [hfirst, hrest]

lemma littleEndian_append (a b : Bytes) :
    littleEndian (a ++ b) = littleEndian a + 256 ^ a.length * littleEndian b := by
  induction a with
  | nil => simp [littleEndian]
  | cons x a ih =>
    rw [cons_append, littleEndian, ih, littleEndian, length_cons, Nat.pow_succ]
    ring

variable {bytes : Bytes}

lemma littleEndian_eq_zero : littleEndian bytes = 0 ↔ ∀ b ∈ bytes, b = 0 := by
  induction bytes with
  | nil => simp [littleEndian]
  | cons b bytes ih =>
    have hb : b.toNat = 0 ↔ b = 0 := UInt8.toNat_inj (b := 0)
    rw [littleEndian, forall_mem_cons, ← ih, ← hb]
    omega

lemma littleEndian_lt_iff (bytes : Bytes) : littleEndian bytes < 2 ^ 128 ↔ ∀ b ∈ bytes.drop 16, b = 0 := by
  by_cases hlength : bytes.length ≤ 16
  · have hlt : littleEndian bytes < 2 ^ 128 :=
      (littleEndian_lt bytes).trans_le (Nat.pow_le_pow_right (by decide) (by omega : bytes.length * 2 ≤ 32))
    exact iff_of_true hlt (by simp [drop_eq_nil_of_le hlength])
  · have htake : (bytes.take 16).length = 16 := length_take_of_le (by omega)
    have hlow := littleEndian_lt (bytes.take 16)
    rw [htake] at hlow
    have hsplit := littleEndian_append (bytes.take 16) (bytes.drop 16)
    rw [take_append_drop, htake] at hsplit
    rw [← littleEndian_eq_zero, hsplit]
    omega

lemma foldl_reverse_eq (bytes : Bytes) :
    bytes.reverse.foldl (fun acc b => (acc * 256) % 2 ^ 128 + b.toNat) 0 =
      littleEndian bytes % 2 ^ 128 := by
  rw [foldl_reverse]
  induction bytes with
  | nil => rfl
  | cons b bytes ih =>
    have hb := b.toNat_lt
    rw [foldr_cons, ih, littleEndian]
    omega

lemma toList_hexText_reverse (bytes : Bytes) :
    (hexText bytes.reverse).toList = fixedHex (bytes.length * 2) (littleEndian bytes) := by
  induction bytes with
  | nil => rfl
  | cons b bytes ih =>
    have hb := b.toNat_lt
    have htext : (hexText (b :: bytes).reverse).toList =
        (hexText bytes.reverse).toList ++ [Nat.digitChar (b.toNat / 16), Nat.digitChar (b.toNat % 16)] := by
      simp [hexText, String.toList_join, hexByteText]
    have hlow : littleEndian (b :: bytes) % 16 = b.toNat % 16 := by
      rw [littleEndian]
      omega
    have hhigh : littleEndian (b :: bytes) / 16 % 16 = b.toNat / 16 := by
      rw [littleEndian]
      omega
    have hrest : littleEndian (b :: bytes) / 16 / 16 = littleEndian bytes := by
      rw [littleEndian]
      omega
    rw [htext, ih, length_cons, Nat.succ_mul, fixedHex, fixedHex, hlow, hhigh, hrest, append_assoc]
    rfl

lemma paddedHexLe_eq (hne : bytes ≠ []) (hlength : bytes.length < 2 ^ 15) : paddedHexLe bytes =
      .ok ("0x" ++ String.ofList (fixedHex (bytes.length * 2) (littleEndian bytes % 2 ^ 128))) := by
  obtain ⟨width, hwidth⟩ : ∃ width, bytes.length * 2 = width + 1 :=
    ⟨bytes.length * 2 - 1, by have := length_pos_iff.mpr hne; omega⟩
  have hvalue : littleEndian bytes % 2 ^ 128 < 16 ^ (width + 1) :=
    (Nat.mod_le _ _).trans_lt (hwidth ▸ littleEndian_lt bytes)
  have hpad : padStart (bytes.length * 2) (hexNumber (littleEndian bytes % 2 ^ 128)) =
      .ok (String.ofList (fixedHex (bytes.length * 2) (littleEndian bytes % 2 ^ 128))) := by
    rw [padStart, if_pos (by omega), hexNumber, String.length_ofList, String.toList_ofList, hwidth,
      replicate_append_toDigits hvalue]
  simp only [paddedHexLe, List.isEmpty_iff, hne, if_false, foldl_reverse_eq, hpad]
  rfl

/-- Short enough for the formatter, with every byte that is not zero among the first sixteen. -/
def IsRenderable (bytes : Bytes) : Prop := bytes.length < 2 ^ 15 ∧ ∀ b ∈ bytes.drop 16, b = 0

instance (bytes : Bytes) : Decidable (IsRenderable bytes) := inferInstanceAs (Decidable (_ ∧ _))

lemma paddedHexLe_eq_ok_iff (hne : bytes ≠ []) :
    paddedHexLe bytes = .ok ("0x" ++ hexText bytes.reverse) ↔ IsRenderable bytes := by
  constructor
  · intro h
    have hlength : bytes.length < 2 ^ 15 := (isOk_paddedHexLe bytes).mp (isOk_iff_exists.mpr ⟨_, h⟩)
    refine ⟨hlength, (littleEndian_lt_iff bytes).mp ?_⟩
    rw [paddedHexLe_eq hne hlength] at h
    have hdigits := congrArg String.toList (String.append_right_inj _ |>.mp (Except.ok.inj h))
    rw [String.toList_ofList, toList_hexText_reverse] at hdigits
    have hvalue := littleEndian_lt bytes
    rw [← fixedHex_inj ((Nat.mod_le _ _).trans_lt hvalue) hvalue hdigits]
    exact Nat.mod_lt _ (by decide)
  · rintro ⟨hlength, hzero⟩
    rw [paddedHexLe_eq hne hlength, Nat.mod_eq_of_lt ((littleEndian_lt_iff bytes).mpr hzero),
      ← toList_hexText_reverse, String.ofList_toList]

/-- Exactly the renderable bytes are shown in full, and those of one length are told apart. -/
theorem padded_hex_le_exact (bytes : Bytes) (hne : bytes ≠ []) :
    (paddedHexLe bytes = .ok ("0x" ++ hexText bytes.reverse) ↔ IsRenderable bytes) ∧
      ∀ other : Bytes, other.length = bytes.length → IsRenderable bytes → IsRenderable other →
        paddedHexLe other = paddedHexLe bytes → other = bytes := by
  refine ⟨paddedHexLe_eq_ok_iff hne, ?_⟩
  intro other hlength hbytes hother h
  have hother_ne : other ≠ [] := by
    rw [← length_pos_iff, hlength]
    exact length_pos_iff.mpr hne
  rw [(paddedHexLe_eq_ok_iff hne).mpr hbytes, (paddedHexLe_eq_ok_iff hother_ne).mpr hother] at h
  have hdigits := congrArg String.toList (String.append_right_inj _ |>.mp (Except.ok.inj h))
  rw [toList_hexText_reverse, toList_hexText_reverse, hlength] at hdigits
  exact littleEndian_inj hlength
    (fixedHex_inj (hlength ▸ littleEndian_lt other) (littleEndian_lt bytes) hdigits)

theorem vendor_id_rendered_exactly : paddedHexLe [0x47, 0x16] = .ok ("0x" ++ hexText [0x16, 0x47]) ∧
      ∀ other : Bytes, other.length = 2 → IsRenderable other →
        paddedHexLe other = paddedHexLe [0x47, 0x16] →
        other = [0x47, 0x16] := by
  have hrenderable : IsRenderable [0x47, 0x16] := ⟨by norm_num, by simp⟩
  have hexact := padded_hex_le_exact [0x47, 0x16] (by decide)
  exact ⟨hexact.1.mpr hrenderable, fun other hlength hother => hexact.2 other hlength hrenderable hother⟩

/-- The seventeenth byte is lost. -/
theorem long_identifiers_rendered_alike :
    paddedHexLe (replicate 16 0 ++ [1]) = paddedHexLe (replicate 17 0) ∧
      paddedHexLe (replicate 16 0 ++ [1]) ≠
        .ok ("0x" ++ hexText (replicate 16 0 ++ [1] : Bytes).reverse) := by
  constructor
  · rw [paddedHexLe_eq (by decide) (by decide), paddedHexLe_eq (by decide) (by decide)]
    rfl
  · rw [Ne, paddedHexLe_eq_ok_iff (by decide)]
    decide

end RackManagement.Pldm
