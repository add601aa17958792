import Mathlib.Data.Fin.VecNotation
import RackManagement.Library.IpAddr
import RackManagement.Model.LogSanitize

/-!
# Addresses in sanitized texts

The alternative for addresses that end in a double colon stands before those with groups after it,
so only the part up to an inner double colon is replaced.
-/

namespace RackManagement.LogSanitizer

open Library Regex IpAddr

def IsGroup (group : List Char) : Prop :=
  (∀ c ∈ group, isHexDigit c = true) ∧ 1 ≤ group.length ∧ group.length ≤ 4

/-- The last part of an IPv6 address, and for how many groups it stands. -/
inductive Ending : List Char → Nat → Prop
  | group {group : List Char} (hgroup : IsGroup group) : Ending group 1
  | quad (addr : Ipv4Addr) : Ending (showIpv4 addr) 2

def colons (groups : List (List Char)) : List Char := groups.flatMap (· ++ [':'])

/-- The groups before a double colon, with it. -/
def opening : List (List Char) → List Char
  | [] => [':', ':']
  | group :: groups => colons (group :: groups) ++ [':']

/-- The texts of addresses: dotted quads, and IPv6 addresses without zones. -/
inductive IsAddress : List Char → Prop
  | quad (addr : Ipv4Addr) : IsAddress (showIpv4 addr)
  | full {groups : List (List Char)} {last : List Char} {n : Nat} (hgroups : ∀ g ∈ groups, IsGroup g)
      (hlast : Ending last n) (hlength : groups.length + n = 8) : IsAddress (colons groups ++ last)
  | ending {head : List (List Char)} (hhead : ∀ g ∈ head, IsGroup g) (hlength : head.length ≤ 7) :
    IsAddress (opening head)
  | compressed {head tail : List (List Char)} {last : List Char} {n : Nat} (hhead : ∀ g ∈ head, IsGroup g)
      (htail : ∀ g ∈ tail, IsGroup g) (hlast : Ending last n)
      (hlength : head.length + tail.length + n ≤ 7) :
      IsAddress (opening head ++ (colons tail ++ last))

/-- The addresses that one match takes whole. -/
inductive Replaced : List Char → Prop
  | quad (addr : Ipv4Addr) : Replaced (showIpv4 addr)
  | full {groups : List (List Char)} {last : List Char} (hgroups : ∀ g ∈ groups, IsGroup g)
    (hlast : IsGroup last)
      (hlength : groups.length = 7) : Replaced (colons groups ++ last)
  | ending {head : List (List Char)} (hhead : ∀ g ∈ head, IsGroup g) (hlength : head.length ≤ 7) :
    Replaced (opening head)
  | beginning {tail : List (List Char)} {last : List Char} (htail : ∀ g ∈ tail, IsGroup g)
    (hlast : IsGroup last)
      (hlength : tail.length < 7) : Replaced (opening [] ++ (colons tail ++ last))

/-- The addresses that two matches take: up to the double colon, and the quad right after it. -/
inductive ReplacedTwice : List Char → Prop
  | mixed {head : List (List Char)} (hhead : ∀ g ∈ head, IsGroup g) (hne : head ≠ [])
    (hlength : head.length ≤ 5)
      (addr : Ipv4Addr) : ReplacedTwice (opening head ++ showIpv4 addr)

variable {group : List Char} {groups : List (List Char)} {s : List Char}

lemma Replaced.isAddress (h : Replaced s) : IsAddress s := by
  cases h with
  | quad addr => exact .quad addr
  | full hgroups hlast hlength => exact .full hgroups (.group hlast) (by omega)
  | ending hhead hlength => exact .ending hhead hlength
  | beginning htail hlast hlength =>
    have hnone : ∀ g ∈ ([] : List (List Char)), IsGroup g := by simp
    exact .compressed hnone htail (.group hlast) (by rw [List.length_nil]; omega)

lemma ne_colon_of_isHexDigit {c : Char} (h : isHexDigit c = true) : c ≠ ':' := by
  rintro rfl
  cases h

lemma run_hextet (h : IsGroup group) :
    ∃ others, hextet.run group = [] :: others ∧ ∀ rest ∈ others, ∃ c more, rest = c :: more ∧
      isHexDigit c = true := by
  obtain ⟨hdigits, hpos, hle⟩ := h
  match group with
  | [] => cases hpos
  | [a] =>
    have ha := hdigits a (by simp)
    exact ⟨[], by simp [hextet, between, exactly, upTo, Regex.run, ha]⟩
  | [a, b] =>
    have ha := hdigits a (by simp)
    have hb := hdigits b (by simp)
    exact ⟨[[b]], by simp [hextet, between, exactly, upTo, Regex.run, ha, hb]⟩
  | [a, b, c] =>
    have ha := hdigits a (by simp)
    have hb := hdigits b (by simp)
    have hc := hdigits c (by simp)
    exact ⟨[[c], [b, c]], by simp [hextet, between, exactly, upTo, Regex.run, ha, hb, hc]⟩
  | [a, b, c, d] =>
    have ha := hdigits a (by simp)
    have hb := hdigits b (by simp)
    have hc := hdigits c (by simp)
    have hd := hdigits d (by simp)
    exact ⟨[[d], [c, d], [b, c, d]], by simp [hextet, between, exactly, upTo, Regex.run, ha, hb, hc, hd]⟩
  | _ :: _ :: _ :: _ :: _ :: _ =>
    simp only [List.length_cons] at hle
    omega

lemma takes_hextet (h : IsGroup group) : hextet.Takes group [] := by
  obtain ⟨others, hrun, -⟩ := run_hextet h
  rw [Takes, hrun]
  rfl

lemma run_hextetColon (h : IsGroup group) (rest : List Char) :
    hextetColon.run (group ++ ':' :: rest) = [rest] := by
  obtain ⟨others, hrun, hothers⟩ := run_hextet h
  have hfail : (others.map (· ++ ':' :: rest)).flatMap (char ':').run = [] := by
    rw [List.flatMap_eq_nil_iff]
    intro text htext
    obtain ⟨other, hother, rfl⟩ := List.mem_map.mp htext
    obtain ⟨c, more, rfl, hc⟩ := hothers other hother
    simp [char, Regex.run, ne_colon_of_isHexDigit hc]
  rw [hextetColon, Regex.run, run_append_cons (by decide), hrun, List.map_cons, List.flatMap_cons, hfail]
  simp [char, Regex.run]

lemma takes_hextetColon (h : IsGroup group) (rest : List Char) :
    hextetColon.Takes (group ++ ':' :: rest) rest := by
  rw [Takes, run_hextetColon h]
  rfl

lemma colons_cons (rest : List Char) :
    colons (group :: groups) ++ rest = group ++ ':' :: (colons groups ++ rest) := by
  simp [colons]

section

variable (h : ∀ g ∈ groups, IsGroup g)
include h

lemma takes_exactly (rest : List Char) :
    (exactly hextetColon groups.length).Takes (colons groups ++ rest) rest := by
  induction groups with
  | nil => rfl
  | cons group groups ih =>
    obtain ⟨hgroup, hgroups⟩ := List.forall_mem_cons.mp h
    rw [colons_cons]
    exact (takes_hextetColon hgroup _).seq (ih hgroups)

variable {n : Nat}

lemma takes_upTo_hextetColon (hlength : groups.length ≤ n) (rest : List Char) :
    (upTo hextetColon n).Takes (colons groups ++ ':' :: rest) (':' :: rest) := by
  induction groups generalizing n with
  | nil => exact takes_upTo_of_run rfl n
  | cons group groups ih =>
    obtain ⟨hgroup, hgroups⟩ := List.forall_mem_cons.mp h
    obtain ⟨n, rfl⟩ := Nat.exists_eq_add_of_lt hlength
    rw [colons_cons]
    exact (takes_hextetColon hgroup _).upTo (ih hgroups (by omega))

/-- There is no group between the two colons. -/
lemma run_exactly_hextet (hlength : groups.length ≤ n) (rest : List Char) :
    (seq (exactly hextetColon n) hextet).run (colons groups ++ ':' :: rest) = [] := by
  induction groups generalizing n with
  | nil =>
    cases n with
    | zero => rfl
    | succ n => rfl
  | cons group groups ih =>
    obtain ⟨hgroup, hgroups⟩ := List.forall_mem_cons.mp h
    obtain ⟨n, rfl⟩ := Nat.exists_eq_add_of_lt hlength
    have hrest := ih hgroups (n := groups.length + n) (by omega)
    rw [Regex.run] at hrest
    rw [colons_cons, Regex.run, exactly, Regex.run, run_hextetColon hgroup, List.flatMap_singleton, hrest]

end

lemma takes_colonHextet (h : IsGroup group) (groups : List (List Char)) :
    colonHextet.Takes ((group :: groups).flatMap (':' :: ·)) (groups.flatMap (':' :: ·)) := by
  refine (takes_char ':' _).seq ?_
  cases groups with
  | nil => simpa using takes_hextet h
  | cons next groups => exact (takes_hextet h).append_cons (by decide) _

lemma takes_upTo_colonHextet (h : ∀ g ∈ groups, IsGroup g) {n : Nat} (hlength : groups.length ≤ n) :
    (upTo colonHextet n).Takes (groups.flatMap (':' :: ·)) [] := by
  induction groups generalizing n with
  | nil => exact takes_upTo_of_run rfl n
  | cons group groups ih =>
    obtain ⟨hgroup, hgroups⟩ := List.forall_mem_cons.mp h
    obtain ⟨n, rfl⟩ := Nat.exists_eq_add_of_lt hlength
    exact (takes_colonHextet hgroup groups).upTo (ih hgroups (by omega))

lemma colon_cons_colons (groups : List (List Char)) (last : List Char) :
    ':' :: (colons groups ++ last) = (groups ++ [last]).flatMap (':' :: ·) := by
  induction groups with
  | nil => simp [colons]
  | cons group groups ih => rw [colons_cons, ih, List.cons_append, List.flatMap_cons, List.cons_append]

variable {last : List Char}

/-- After a colon, groups with a colon before each. -/
lemma takes_between_colonHextet (h : ∀ g ∈ groups, IsGroup g) (hlast : IsGroup last)
    (hlength : groups.length < 7) :
    (between colonHextet 1 7).Takes (':' :: (colons groups ++ last)) [] := by
  have hall : ∀ g ∈ groups ++ [last], IsGroup g := by simpa [or_imp, forall_and] using ⟨h, hlast⟩
  have hsize : (groups ++ [last]).length ≤ 7 := by
    rw [List.length_append, List.length_singleton]
    omega
  rw [colon_cons_colons]
  obtain ⟨first, others, hcons⟩ := List.exists_cons_of_ne_nil (List.concat_ne_nil last groups)
  rw [hcons] at hall hsize ⊢
  obtain ⟨hfirst, hothers⟩ := List.forall_mem_cons.mp hall
  have hone :
      (exactly colonHextet 1).Takes ((first :: others).flatMap (':' :: ·)) (others.flatMap (':' :: ·)) :=
    (takes_colonHextet hfirst others).seq rfl
  exact hone.seq (takes_upTo_colonHextet hothers (Nat.le_of_succ_le_succ hsize))

def addressPattern : Regex := alt ipv4Pattern ipv6Pattern

lemma takes_octet (n : UInt8) : octet.Takes (showNat 10 n.toNat) [] := by
  have hall : ∀ n : Fin 256, (octet.run (showNat 10 n)).head? = some [] := by decide +kernel
  exact hall ⟨n.toNat, n.toNat_lt⟩

lemma isGroup_showNat (n : UInt8) : IsGroup (showNat 10 n.toNat) := by
  have hall : ∀ n : Fin 256, (showNat 10 n).all isHexDigit = true ∧ 1 ≤ (showNat 10 n).length ∧
      (showNat 10 n).length ≤ 4 := by decide +kernel
  exact (hall ⟨n.toNat, n.toNat_lt⟩).imp_left List.all_eq_true.mp

lemma takes_octet_dot (n : UInt8) (rest : List Char) :
    (seq octet (char '.')).Takes (showNat 10 n.toNat ++ '.' :: rest) rest :=
  ((takes_octet n).append_cons (by decide) rest).seq (takes_char '.' rest)

lemma takes_quad (addr : Ipv4Addr) : ipv4Pattern.Takes (showIpv4 addr) [] := by
  have hdots :
      (exactly (seq octet (char '.')) 3).Takes (showIpv4 addr) (showNat 10 (addr.octets 3).toNat) := by
    simp only [showIpv4, List.append_assoc, List.singleton_append]
    exact (takes_octet_dot _ _).seq ((takes_octet_dot _ _).seq ((takes_octet_dot _ _).seq rfl))
  exact hdots.seq (takes_octet _)

lemma showIpv4_eq (addr : Ipv4Addr) : ∃ first more, showIpv4 addr = first ++ '.' :: more ∧ IsGroup first :=
  ⟨_, _, by simp only [showIpv4, List.append_assoc, List.singleton_append]; rfl,
    isGroup_showNat (addr.octets 0)⟩

lemma run_ipv4Pattern (h : '.' ∉ s) : ipv4Pattern.run s = [] :=
  run_seq_of_nil (run_seq_of_nil (run_seq_char_of_notMem h))

lemma IsGroup.dot_notMem (h : IsGroup group) : '.' ∉ group := fun hdot => Bool.noConfusion (h.1 '.' hdot)

lemma run_ipv4Pattern_colon (h : IsGroup group) (rest : List Char) :
    ipv4Pattern.run (group ++ ':' :: rest) = [] := by
  rw [run_append_cons (by decide), run_ipv4Pattern h.dot_notMem, List.map_nil]

lemma run_groups {t : Regex} (h : hextetColon.run s = []) :
    (seq (between hextetColon 1 n) t).run s = [] :=
  run_seq_of_nil (run_seq_of_nil (run_seq_of_nil h))

/-- No alternative before the ninth starts with a colon. -/
lemma takes_of_between_colonHextet {s rest : List Char} (h : (between colonHextet 1 7).Takes s rest) :
    addressPattern.Takes (':' :: s) rest := by
  refine .alt_right (run_seq_of_nil (run_seq_of_nil (run_seq_of_nil ?_)))
    (.alt_right (run_seq_of_nil (run_seq_of_nil ?_))
    (.alt_right (run_groups ?_)
      (.alt_right (run_groups ?_) (.alt_right (run_groups ?_) (.alt_right (run_groups ?_)
    (.alt_right (run_groups ?_) (.alt_right (run_groups ?_) (.alt_right (run_seq_of_nil ?_)
    (.alt_left ((takes_char ':' _).seq h.alt_left))))))))))
  all_goals rfl

/-- The match ends at the double colon, whatever follows it. -/
lemma takes_opening (h : ∀ g ∈ group :: groups, IsGroup g) (hlength : (group :: groups).length ≤ 7)
    (rest : List Char) : addressPattern.Takes (opening (group :: groups) ++ rest) rest := by
  obtain ⟨hgroup, hgroups⟩ := List.forall_mem_cons.mp h
  have hone :
      (exactly hextetColon 1).Takes (colons (group :: groups) ++ ':' :: rest)
        (colons groups ++ ':' :: rest) := by
    rw [colons_cons]
    exact (takes_hextetColon hgroup _).seq rfl
  have hipv4 : ipv4Pattern.run (colons (group :: groups) ++ ':' :: rest) = [] := by
    rw [colons_cons]
    exact run_ipv4Pattern_colon hgroup _
  rw [opening, List.append_assoc, List.singleton_append]
  refine .alt_right hipv4 (.alt_right (run_exactly_hextet h hlength rest) (.alt_left ?_))
  exact (hone.seq (takes_upTo_hextetColon hgroups (Nat.le_of_succ_le_succ hlength) rest)).seq
    (takes_char ':' rest)

lemma takes_of_replaced (h : Replaced s) : addressPattern.Takes s [] := by
  cases h with
  | quad addr => exact (takes_quad addr).alt_left
  | @full groups last hgroups hlast hlength =>
    have hdot : '.' ∉ colons groups ++ last := by
      simpa [colons, hlast.dot_notMem] using fun g hg => (hgroups g hg).dot_notMem
    refine .alt_right (run_ipv4Pattern hdot) (.alt_left ?_)
    exact (hlength ▸ takes_exactly hgroups _).seq (takes_hextet hlast)
  | @ending head hhead hlength =>
    cases head with
    | nil => rfl
    | cons group groups => simpa using takes_opening hhead hlength []
  | beginning htail hlast hlength =>
    exact takes_of_between_colonHextet (takes_between_colonHextet htail hlast hlength)

lemma isHexDigit_or_of_mem_showIpv4 {addr : Ipv4Addr} {c : Char} (h : c ∈ showIpv4 addr) :
    isHexDigit c = true ∨ c = '.' := by
  simp only [showIpv4, List.mem_append, List.mem_singleton] at h
  rcases h with (((((h | h) | h) | h) | h) | h) | h
  · exact .inl ((isGroup_showNat _).1 c h)
  · exact .inr h
  · exact .inl ((isGroup_showNat _).1 c h)
  · exact .inr h
  · exact .inl ((isGroup_showNat _).1 c h)
  · exact .inr h
  · exact .inl ((isGroup_showNat _).1 c h)

section

variable {last : List Char} {n : Nat}

lemma Ending.isHexDigit_or (h : Ending last n) : ∀ c ∈ last, isHexDigit c = true ∨ c = '.' := by
  cases h with
  | group hgroup => exact fun c hc => .inl (hgroup.1 c hc)
  | quad addr => exact fun c hc => isHexDigit_or_of_mem_showIpv4 hc

lemma Ending.notMem (h : Ending last n) {c : Char} (hdigit : isHexDigit c = false)
    (hdot : c ≠ '.') : c ∉ last := by
  intro hc
  obtain hhex | hc := h.isHexDigit_or c hc
  · exact Bool.noConfusion (hdigit.symm.trans hhex)
  · exact hdot hc

variable (h : ∀ g ∈ groups, IsGroup g) (hlast : Ending last n)
include h hlast

lemma count_colons : (colons groups ++ last).count ':' = groups.length := by
  induction groups with
  | nil => exact List.count_eq_zero.mpr (hlast.notMem rfl (by decide))
  | cons group groups ih =>
    obtain ⟨hgroup, hgroups⟩ := List.forall_mem_cons.mp h
    have hnone : group.count ':' = 0 :=
      List.count_eq_zero.mpr ((Ending.group hgroup).notMem rfl (by decide))
    rw [colons_cons, List.count_append, List.count_cons_self, hnone, ih hgroups, List.length_cons,
      Nat.zero_add]

/-- It starts with a digit. -/
lemma head_colons : ∃ c rest, colons groups ++ last = c :: rest ∧ isHexDigit c = true := by
  have hgroup :
      ∀ {g : List Char} (rest : List Char), IsGroup g → ∃ c more, g ++ rest = c :: more ∧
        isHexDigit c = true := by
    intro g rest hg
    obtain ⟨c, g, rfl⟩ := List.exists_cons_of_length_pos hg.2.1
    exact ⟨c, g ++ rest, rfl, hg.1 c (by simp)⟩
  cases groups with
  | nil =>
    cases hlast with
    | group hlast => simpa [colons] using hgroup [] hlast
    | quad addr =>
      obtain ⟨first, more, heq, hfirst⟩ := showIpv4_eq addr
      rw [colons, List.flatMap_nil, List.nil_append, heq]
      exact hgroup _ hfirst
  | cons group groups =>
    rw [colons_cons]
    exact hgroup _ (h group (by simp))

lemma isChain_colons : (colons groups ++ last).IsChain (fun a b => a = ':' → b ≠ ':') := by
  have hpart :
      ∀ {part : List Char} {m : Nat}, Ending part m → part.IsChain (fun a b => a = ':' → b ≠ ':') := by
    intro part m hpart
    refine (List.pairwise_of_forall_mem_list (fun a ha b hb hcolon => ?_)).isChain
    exact absurd (hcolon ▸ ha) (hpart.notMem rfl (by decide))
  induction groups with
  | nil => exact hpart hlast
  | cons group groups ih =>
    obtain ⟨hgroup, hgroups⟩ := List.forall_mem_cons.mp h
    obtain ⟨c, rest, hrest, hc⟩ := head_colons hgroups hlast
    have hnext : (':' :: (colons groups ++ last)).IsChain (fun a b => a = ':' → b ≠ ':') := by
      refine List.isChain_cons.mpr ⟨fun b hb _ => ?_, ih hgroups⟩
      rw [hrest, List.head?_cons, Option.mem_some] at hb
      exact hb ▸ ne_colon_of_isHexDigit hc
    rw [colons_cons]
    refine List.isChain_append.mpr ⟨hpart (.group hgroup), hnext, fun a ha b _ hcolon => ?_⟩
    have hcolon_mem : ':' ∈ group := hcolon ▸ List.mem_of_getLast? ha
    exact absurd hcolon_mem ((Ending.group hgroup).notMem rfl (by decide))

lemma percent_notMem_colons : '%' ∉ colons groups ++ last := by
  have hgroups : ∀ g ∈ groups, '%' ∉ g := fun g hg => (Ending.group (h g hg)).notMem rfl (by decide)
  have hend : '%' ∉ last := hlast.notMem rfl (by decide)
  simpa [colons, hend] using hgroups

end

lemma endsWith_hextetColon : hextetColon.EndsWith ':' := endsWith_seq_char hextet ':'

lemma startsWith_colonHextet (n : Nat) : (between colonHextet 1 n).StartsWith ':' :=
  (((startsWith_char ':').seq hextet).seq _).seq _

/-- Without a double colon there must be seven colons. -/
lemma run_ipv6Pattern (hcolons : s.count ':' < 7) (hs : s.IsChain (fun a b => a = ':' → b ≠ ':'))
    (hpercent : '%' ∉ s) (hfirst : s.head? ≠ some ':') : ipv6Pattern.run s = [] := by
  have hfull : (seq (exactly hextetColon 7) hextet).run s = [] := by
    refine List.eq_nil_iff_forall_not_mem.mpr (fun rest hrest => ?_)
    obtain ⟨middle, hmiddle, -⟩ := List.mem_flatMap.mp hrest
    have hle := endsWith_hextetColon.le_count hmiddle
    omega
  have hdouble : ∀ (n : Nat) {r : Regex}, r.StartsWith ':' → (seq (between hextetColon 1 n) r).run s = [] :=
    fun n _ hr => run_seq_of_isChain (endsWith_hextetColon.between n) hr hs
  have hstart : ∀ {r : Regex}, r.StartsWith ':' → r.run s = [] := fun hr =>
    List.eq_nil_iff_forall_not_mem.mpr (fun rest hrest => hfirst (hr hrest))
  have hcolonHextet : (seq hextet (seq (char ':') (between colonHextet 1 6))).run s = [] := by
    rw [run_seq_seq]
    exact run_seq_of_isChain endsWith_hextetColon (startsWith_colonHextet 6) hs
  simp only [ipv6Pattern, oneOf, run_alt_eq_nil_iff]
  refine ⟨hfull, hdouble 7 (startsWith_char ':'), hdouble 6 ((startsWith_char ':').seq _),
    hdouble 5 (startsWith_colonHextet 2), hdouble 4 (startsWith_colonHextet 3),
      hdouble 3 (startsWith_colonHextet 4),
    hdouble 2 (startsWith_colonHextet 5), hcolonHextet, hstart ((startsWith_char ':').seq _), ?_,
    hstart (((startsWith_char ':').seq (char ':' |>.seq empty)).seq _),
      hdouble 4 ((startsWith_char ':').seq _)⟩
  refine run_seq_of_suffix (fun middle hmiddle => run_seq_of_suffix (fun rest hrest => run_seq_of_nil ?_))
  exact run_char_of_notMem (fun hmem => hpercent ((hrest.trans hmiddle).subset hmem))

/-- Fewer than eight parts with single colons between them are no match, unless they are only a quad. -/
lemma run_colons (h : ∀ g ∈ groups, IsGroup g) (hlast : Ending last n)
    (hlength : groups.length < 7) (hquad : groups ≠ [] ∨ n = 1) :
    addressPattern.run (colons groups ++ last) = [] := by
  refine run_alt_eq_nil_iff.mpr
    ⟨?_, run_ipv6Pattern ?_ (isChain_colons h hlast) (percent_notMem_colons h hlast) ?_⟩
  · cases groups with
    | nil =>
      cases hlast with
      | group hgroup => exact run_ipv4Pattern hgroup.dot_notMem
      | quad addr => simp at hquad
    | cons group groups =>
      rw [colons_cons]
      exact run_ipv4Pattern_colon (h group (by simp)) _
  · rwa [count_colons h hlast]
  · obtain ⟨c, rest, hcons, hc⟩ := head_colons h hlast
    rw [hcons, List.head?_cons, Ne, Option.some_inj]
    exact ne_colon_of_isHexDigit hc

def mask : List Char := defaultReplacement.toList

/-- A character of the address stays. -/
def Survives (s : List Char) : Prop := ∃ c ∈ addressPattern.replaceAll mask s, c ≠ 'X'

lemma replaceAll_of_replaced (h : Replaced s) : addressPattern.replaceAll mask s = mask := by
  have hne : s ≠ [] := by
    rintro rfl
    have hnone : (addressPattern.run []).head? = none := by decide
    exact absurd (takes_of_replaced h) (by simp [Takes, hnone])
  have htakes : addressPattern.Takes (s ++ []) [] := by simpa using takes_of_replaced h
  simpa [replaceAll, replaceFrom] using replaceAll_of_takes hne htakes mask

lemma replaceAll_opening (h : ∀ g ∈ group :: groups, IsGroup g)
    (hlength : (group :: groups).length ≤ 7) (rest : List Char) :
    addressPattern.replaceAll mask (opening (group :: groups) ++ rest) = mask ++
      addressPattern.replaceAll mask rest :=
  replaceAll_of_takes (by simp [opening]) (takes_opening h hlength rest) mask

lemma replaceAll_of_replacedTwice (h : ReplacedTwice s) :
    addressPattern.replaceAll mask s = mask ++ mask := by
  obtain ⟨hhead, hne, hlength, addr⟩ := h
  obtain ⟨group, groups, rfl⟩ := List.exists_cons_of_ne_nil hne
  rw [replaceAll_opening hhead (by omega), replaceAll_of_replaced (.quad addr)]

lemma survives_colons (h : ∀ g ∈ groups, IsGroup g) (hlast : Ending last n)
    (hlength : groups.length < 7) (hquad : groups ≠ [] ∨ n = 1) : Survives (colons groups ++ last) := by
  have hrun := run_colons h hlast hlength hquad
  obtain ⟨c, rest, hcons, hc⟩ := head_colons h hlast
  rw [hcons] at hrun ⊢
  refine ⟨c, by rw [replaceAll_cons_of_run hrun]; exact List.mem_cons_self, ?_⟩
  rintro rfl
  cases hc

/-- No alternative starts with a dot. -/
lemma run_dot (rest : List Char) : addressPattern.run ('.' :: rest) = [] := by
  have hhextet : hextetColon.run ('.' :: rest) = [] := rfl
  simp only [addressPattern, ipv6Pattern, oneOf, run_alt_eq_nil_iff]
  refine ⟨run_seq_of_nil (run_seq_of_nil (run_seq_of_nil rfl)),
    run_seq_of_nil (run_seq_of_nil hhextet), run_groups hhextet,
    run_groups hhextet, run_groups hhextet, run_groups hhextet, run_groups hhextet,
      run_groups hhextet, run_seq_of_nil rfl,
    run_seq_of_nil rfl, run_seq_of_nil (run_seq_of_nil rfl), run_seq_of_nil (run_seq_of_nil rfl),
      run_groups hhextet⟩

/-- The first octet is read as a group, and the dot after it stays. -/
lemma survives_mixed {tail : List (List Char)} (h : ∀ g ∈ tail, IsGroup g)
    (hlength : tail.length < 7) (addr : Ipv4Addr) :
    Survives (opening [] ++ (colons tail ++ showIpv4 addr)) := by
  obtain ⟨first, more, heq, hfirst⟩ := showIpv4_eq addr
  have htakes : addressPattern.Takes (opening [] ++ (colons tail ++ first) ++ '.' :: more) ('.' :: more) :=
    takes_of_between_colonHextet ((takes_between_colonHextet h hfirst hlength).append_cons (by decide) more)
  have hdot : addressPattern.run ('.' :: more) = [] := run_dot more
  rw [heq, ← List.append_assoc (colons tail), ← List.append_assoc, Survives,
    replaceAll_of_takes (by simp [opening]) htakes, replaceAll_cons_of_run hdot]
  exact ⟨'.', by simp, by decide⟩

lemma IsAddress.hidden_or_survives (h : IsAddress s) : Replaced s ∨ ReplacedTwice s ∨ Survives s := by
  cases h with
  | quad addr => exact .inl (.quad addr)
  | @full groups _ _ hgroups hlast hlength =>
    cases hlast with
    | group hlast => exact .inl (.full hgroups hlast (by omega))
    | quad addr =>
      have hne : groups ≠ [] := List.ne_nil_of_length_pos (by omega)
      exact .inr (.inr (survives_colons hgroups (.quad addr) (by omega) (.inl hne)))
  | ending hhead hlength => exact .inl (.ending hhead hlength)
  | @compressed head tail last n hhead htail hlast hlength =>
    cases head with
    | nil =>
      rw [List.length_nil, Nat.zero_add] at hlength
      cases hlast with
      | group hlast => exact .inl (.beginning htail hlast (by omega))
      | quad addr => exact .inr (.inr (survives_mixed htail (by omega) addr))
    | cons group groups =>
      rw [List.length_cons] at hlength
      by_cases hquad : tail ≠ [] ∨ n = 1
      · obtain ⟨c, hc, hne⟩ := survives_colons htail hlast (by omega) hquad
        rw [Survives, replaceAll_opening hhead (by rw [List.length_cons]; omega)]
        exact .inr (.inr ⟨c, List.mem_append_right _ hc, hne⟩)
      · obtain ⟨htail, hn⟩ := not_or.mp hquad
        cases hlast with
        | group hlast => exact absurd rfl hn
        | quad addr =>
          cases not_not.mp htail
          rw [List.length_nil] at hlength
          exact .inr (.inl (.mixed hhead (by simp) (by rw [List.length_cons]; omega) addr))

lemma toList_sanitize (input : String) :
    ((LogSanitizer.new none none).sanitize input).toList = addressPattern.replaceAll mask input.toList :=
  String.toList_ofList

lemma sanitize_intercalate {xs ys : List String} (h : List.Forall₂ (fun x y =>
      addressPattern.replaceAll mask x.toList = addressPattern.replaceAll mask y.toList) xs ys) :
    (LogSanitizer.new none none).sanitize (" ".intercalate xs) =
      (LogSanitizer.new none none).sanitize (" ".intercalate ys) := by
  have hwords : (xs.map String.toList).map (addressPattern.replaceAll mask) =
      (ys.map String.toList).map (addressPattern.replaceAll mask) := by
    induction h with
    | nil => rfl
    | cons hword _ ih => simp only [List.map_cons, hword, ih]
  have hspace : addressPattern.avoids ' ' = true := by decide
  apply String.toList_injective
  rw [toList_sanitize, toList_sanitize, String.toList_intercalate, String.toList_intercalate]
  exact (replaceAll_intercalate hspace _ _).trans
    ((congrArg _ hwords).trans (replaceAll_intercalate hspace _ _).symm)

lemma hides_of_replaceAll {addresses : String → Prop} {masked : List Char}
    (h : ∀ text, addresses text → addressPattern.replaceAll mask text.toList = masked)
    (hmasked : masked.all (· == 'X') = true) :
    (∀ xs ys, List.Forall₂ (fun x y => x = y ∨ addresses x ∧ addresses y) xs ys →
        (LogSanitizer.new none none).sanitize (" ".intercalate xs) =
          (LogSanitizer.new none none).sanitize (" ".intercalate ys)) ∧
      ∀ text, addresses text → ∀ c ∈ ((LogSanitizer.new none none).sanitize text).toList, c = 'X' := by
  constructor
  · intro xs ys hwords
    apply sanitize_intercalate
    apply hwords.imp
    rintro x y (rfl | ⟨hx, hy⟩)
    · rfl
    · rw [h x hx, h y hy]
  · intro text htext c hc
    rw [toList_sanitize, h text htext] at hc
    exact beq_iff_eq.mp (List.all_eq_true.mp hmasked c hc)

/-- Texts that differ only in addresses of a class become the same and keep nothing of the addresses exactly if
one match takes each of them whole, or two matches take each. -/
theorem sanitize_hides_addresses_iff {addresses : String → Prop}
    (haddresses : ∀ text, addresses text → IsAddress text.toList) :
    ((∀ xs ys, List.Forall₂ (fun x y => x = y ∨ addresses x ∧ addresses y) xs ys →
        (LogSanitizer.new none none).sanitize (" ".intercalate xs) =
          (LogSanitizer.new none none).sanitize (" ".intercalate ys)) ∧
      ∀ text, addresses text → ∀ c ∈ ((LogSanitizer.new none none).sanitize text).toList, c = 'X') ↔
    (∀ text, addresses text → Replaced text.toList) ∨ ∀ text, addresses text →
      ReplacedTwice text.toList := by
  constructor
  · rintro ⟨hsame, hnothing⟩
    have hhidden : ∀ text, addresses text → Replaced text.toList ∨ ReplacedTwice text.toList := by
      intro text htext
      obtain hone | htwice | ⟨c, hc, hne⟩ := (haddresses text htext).hidden_or_survives
      · exact .inl hone
      · exact .inr htwice
      · exact absurd (hnothing text htext c (toList_sanitize text ▸ hc)) hne
    by_cases hone : ∃ text, addresses text ∧ Replaced text.toList
    · obtain ⟨text, htext, hone⟩ := hone
      refine .inl (fun other hother => (hhidden other hother).resolve_right (fun htwice => ?_))
      have hmasks := congrArg String.toList (hsame [text] [other] (.cons (.inr ⟨htext, hother⟩) .nil))
      rw [String.intercalate_singleton, String.intercalate_singleton, toList_sanitize, toList_sanitize,
        replaceAll_of_replaced hone, replaceAll_of_replacedTwice htwice] at hmasks
      exact absurd hmasks (by decide)
    · exact .inr (fun text htext => (hhidden text htext).resolve_left (fun h => hone ⟨text, htext, h⟩))
  · rintro (h | h)
    · exact hides_of_replaceAll (fun text htext => replaceAll_of_replaced (h text htext)) (by decide)
    · exact hides_of_replaceAll (fun text htext => replaceAll_of_replacedTwice (h text htext)) (by decide)

theorem quads_and_loopback_hidden :
    (LogSanitizer.new none none).sanitize (" ".intercalate ["from", "10.0.0.1", "to", "::1"]) =
      (LogSanitizer.new none none).sanitize (" ".intercalate ["from", "192.168.1.20", "to", "fe80::"]) := by
  have hfirst : Replaced "10.0.0.1".toList := Replaced.quad ⟨![10, 0, 0, 1]⟩
  have hsecond : Replaced "192.168.1.20".toList := Replaced.quad ⟨![192, 168, 1, 20]⟩
  have hloopback : Replaced (opening [] ++ (colons [] ++ ['1'])) :=
    .beginning (by simp) (by simp [IsGroup, isHexDigit]) (by simp)
  have hlocal : Replaced (opening ["fe80".toList]) := .ending (by simp [IsGroup, isHexDigit]) (by simp)
  have hclass := @sanitize_hides_addresses_iff (fun text => Replaced text.toList) (fun _ h => h.isAddress)
  exact (hclass.mpr (.inl fun _ h => h)).1 _ _
    (.cons (.inl rfl) (.cons (.inr ⟨hfirst, hsecond⟩) (.cons (.inl rfl)
    (.cons (.inr ⟨hloopback, hlocal⟩) .nil))))

/-- What follows the double colon is not replaced. -/
theorem inner_double_colon_leaks : (IpAddr.parse "1::2").isSome ∧ (IpAddr.parse "1::3").isSome ∧
      (LogSanitizer.new none none).sanitize "1::2" = "XXXX2" ∧
        (LogSanitizer.new none none).sanitize "1::3" = "XXXX3" := by
  decide +kernel

end RackManagement.LogSanitizer
