import RackManagement.Model.ManagedFabric

/-!
# Normalization of mutation scopes

A second normalization changes nothing, except for hosts whose first normalization exposes new
material, such as white space inside brackets.
-/

namespace RackManagement.JobScope

open Library List

/-- What is left of a host without white space around it and brackets around that. -/
@[irreducible] def strip (host : String) : String := trimEndMatches ']' (trimStartMatches '[' (trim host))

inductive HostReading
  | zoned (address : Ipv6Addr) (zone : String)
  | plain (address : IpAddr)
  | named (name : String)

def HostReading.of (text : String) : HostReading :=
  match (splitOnce '%' text).bind (fun parts => (IpAddr.parseIpv6 parts.1).map (·, parts.2)) with
  | some (address, zone) => .zoned address zone
  | none =>
    match IpAddr.parse text with
    | some address => .plain address
    | none => .named text

def HostReading.text : HostReading → String
  | zoned address zone => IpAddr.toString (.v6 address) ++ "%" ++ zone
  | plain address => address.toCanonical.toString
  | named name => toAsciiLowercase (trimEndMatches '.' name)

/-- The printed form of an address that was read is read as the same address. -/
def HostReading.ReadsBack : HostReading → Prop
  | zoned address _ => IpAddr.parseIpv6 (IpAddr.toString (.v6 address)) = some address
  | plain address => IpAddr.parse address.toCanonical.toString = some address.toCanonical
  | named _ => True

/-- A text that reads as an address is the printed form of the address. -/
def HostReading.Printed (text : String) : HostReading → Prop
  | zoned address zone => (zoned address zone).text = text
  | plain address => (plain address).text = text
  | named _ => True

/-- A second normalization has nothing to remove or to read. For a name this is said of the name without its
trailing dots, as it stands in the host. -/
def HostReading.Settled : HostReading → Prop
  | zoned _ zone => ∀ c ∈ zone.toList.getLast?, isWhitespace c = false
  | plain _ => True
  | named name =>
    let bare := trimEndMatches '.' name
    (∀ c ∈ bare.toList.head?, isWhitespace c = false) ∧
      (∀ c ∈ bare.toList.getLast?, isWhitespace c = false ∧ c ≠ ']') ∧
      (HostReading.of (toAsciiLowercase bare)).Printed (toAsciiLowercase bare)

lemma normalizeHost_eq (host : String) : normalizeHost host = (HostReading.of (strip host)).text := by
  unfold normalizeHost HostReading.of
  delta strip
  generalize trimEndMatches ']' (trimStartMatches '[' (trim host)) = text
  cases hsplit : splitOnce '%' text with
  | none => cases hparse : IpAddr.parse text <;> simp [HostReading.text, hsplit, hparse]
  | some parts =>
    cases haddress : IpAddr.parseIpv6 parts.1 with
    | some address => simp [HostReading.text, hsplit, haddress]
    | none => cases hparse : IpAddr.parse text <;> simp [HostReading.text, hsplit, haddress, hparse]

lemma toList_strip (host : String) : (strip host).toList =
      ((((host.toList.dropWhile isWhitespace).rdropWhile isWhitespace).dropWhile
        (· == '[')).rdropWhile (· == ']')) := by
  delta strip
  rw [trimEndMatches, trimStartMatches, trim, trimBy, String.toList_ofList, String.toList_ofList,
    String.toList_ofList]

/-- No stage of the stripping may shorten the text, so every stage leaves it alone. -/
lemma ends_of_length_le_strip {s : String} (h : s.toList.length ≤ (strip s).toList.length) :
    (∀ c ∈ s.toList.head?, isWhitespace c = false ∧ c ≠ '[') ∧
      (∀ c ∈ s.toList.getLast?, isWhitespace c = false ∧ c ≠ ']') := by
  rw [toList_strip] at h
  have h₁ := dropWhile_suffix (l := s.toList) isWhitespace
  have h₂ := rdropWhile_prefix isWhitespace (s.toList.dropWhile isWhitespace)
  have h₃ := dropWhile_suffix (l := (s.toList.dropWhile isWhitespace).rdropWhile isWhitespace) (· == '[')
  have h₄ := rdropWhile_prefix (· == ']')
    (((s.toList.dropWhile isWhitespace).rdropWhile isWhitespace).dropWhile (· == '['))
  have l₂ := h₂.length_le
  have l₃ := h₃.length_le
  have l₄ := h₄.length_le
  have e₁ := h₁.eq_of_length_le (by omega)
  rw [e₁] at h h₂ h₃ h₄ l₃ l₄
  have e₂ := h₂.eq_of_length_le (by omega)
  rw [e₂] at h h₃ h₄ l₄
  have e₃ := h₃.eq_of_length_le (by omega)
  rw [e₃] at h h₄
  have e₄ := h₄.eq_of_length_le h
  constructor
  · intro c hc
    exact ⟨dropWhile_eq_self.mp e₁ c hc, by simpa using dropWhile_eq_self.mp e₃ c hc⟩
  · intro c hc
    exact ⟨rdropWhile_eq_self.mp e₂ c hc, by simpa using rdropWhile_eq_self.mp e₄ c hc⟩

lemma strip_eq_self {s : String} (hhead : ∀ c ∈ s.toList.head?, isWhitespace c = false ∧ c ≠ '[')
    (hlast : ∀ c ∈ s.toList.getLast?, isWhitespace c = false ∧ c ≠ ']') : strip s = s := by
  rw [← String.toList_inj, toList_strip,
    dropWhile_eq_self.mpr (fun c hc => (hhead c hc).1), rdropWhile_eq_self.mpr (fun c hc => (hlast c hc).1),
    dropWhile_eq_self.mpr (fun c hc => by simpa using (hhead c hc).2),
    rdropWhile_eq_self.mpr (fun c hc => by simpa using (hlast c hc).2)]

variable {host text zone name : String} {c : Char} {address : Ipv6Addr}

lemma ne_of_mem_getLast?_strip (h : c ∈ (strip host).toList.getLast?) : c ≠ ']' := by
  rw [toList_strip] at h
  have hsettled := rdropWhile_eq_self.mp (rdropWhile_idempotent (· == ']') _) c h
  simpa using hsettled

lemma ne_of_mem_head?_strip (h : c ∈ (strip host).toList.head?) : c ≠ '[' := by
  rw [toList_strip] at h
  have hsettled := dropWhile_eq_self.mp (dropWhile_idempotent (· == '[') _) c (mem_head?_of_rdropWhile h)
  simpa using hsettled

lemma toList_zoned_text (address : Ipv6Addr) (zone : String) :
    (HostReading.zoned address zone).text.toList = (IpAddr.toString (.v6 address)).toList ++
      '%' :: zone.toList := by
  simp [HostReading.text]

lemma head_of_address {addr : IpAddr} {rest : List Char}
    (h : c ∈ (addr.toString.toList ++ '%' :: rest).head?) : isWhitespace c = false ∧ c ≠ '[' := by
  cases haddr : addr.toString.toList with
  | nil =>
    rw [haddr] at h
    cases h
    decide
  | cons d chars =>
    rw [haddr] at h
    cases h
    have hd : IpAddr.isAddressChar c = true :=
      IpAddr.isAddressChar_of_mem_toString (show c ∈ addr.toString.toList by simp [haddr])
    constructor
    · exact IpAddr.isWhitespace_of_isAddressChar hd
    · rintro rfl
      cases hd

lemma toList_strip_zoned (address : Ipv6Addr) (zone : String) :
    (strip (HostReading.zoned address zone).text).toList =
      (IpAddr.toString (.v6 address)).toList ++
        '%' :: (zone.toList.rdropWhile isWhitespace).rdropWhile (· == ']') := by
  rw [toList_strip, toList_zoned_text, dropWhile_eq_self.mpr (fun c hc => (head_of_address hc).1),
    rdropWhile_append_cons (by decide),
      dropWhile_eq_self.mpr (fun c hc => by simpa using (head_of_address hc).2),
    rdropWhile_append_cons (by decide)]

lemma strip_toString (addr : IpAddr) : strip addr.toString = addr.toString := by
  have hchar : ∀ c ∈ addr.toString.toList, isWhitespace c = false ∧ c ≠ '[' ∧ c ≠ ']' := by
    intro c hc
    have hc := IpAddr.isAddressChar_of_mem_toString hc
    refine ⟨IpAddr.isWhitespace_of_isAddressChar hc, ?_, ?_⟩
    · rintro rfl
      cases hc
    · rintro rfl
      cases hc
  apply strip_eq_self
  · intro c hc
    have hc := hchar c (mem_of_mem_head? hc)
    exact ⟨hc.1, hc.2.1⟩
  · intro c hc
    have hc := hchar c (mem_of_mem_getLast? hc)
    exact ⟨hc.1, hc.2.2⟩

lemma of_toString {addr : IpAddr} (hreads : IpAddr.parse addr.toString = some addr) :
    HostReading.of addr.toString = .plain addr := by
  have hsplit : splitOnce '%' addr.toString = none := splitOnce_of_notMem (IpAddr.notMem_toString rfl)
  simp only [HostReading.of, hsplit, Option.bind_none, hreads]

lemma percent_notMem (address : Ipv6Addr) : '%' ∉ (IpAddr.toString (.v6 address)).toList :=
  IpAddr.notMem_toString rfl

lemma of_zoned (hreads : IpAddr.parseIpv6 (IpAddr.toString (.v6 address)) = some address)
    (zone : List Char) :
    HostReading.of (String.ofList ((IpAddr.toString (.v6 address)).toList ++ '%' :: zone)) =
      .zoned address (String.ofList zone) := by
  have hsplit := splitOnce_append (t := String.ofList zone) (percent_notMem address)
  rw [String.toList_ofList] at hsplit
  simp only [HostReading.of, hsplit, Option.bind_some, hreads, Option.map_some]

lemma splitOnce_of_zoned
    (h : HostReading.of text = .zoned address zone) : ∃ left, splitOnce '%' text = some (left, zone) := by
  unfold HostReading.of at h
  cases hsplit : splitOnce '%' text with
  | none =>
    rw [hsplit] at h
    simp only [Option.bind_none] at h
    split at h <;> cases h
  | some parts =>
    rw [hsplit] at h
    simp only [Option.bind_some] at h
    cases haddress : IpAddr.parseIpv6 parts.1 with
    | none =>
      rw [haddress] at h
      simp only [Option.map_none] at h
      split at h <;> cases h
    | some address =>
      rw [haddress] at h
      cases h
      exact ⟨parts.1, rfl⟩

lemma getLast?_zone (h : HostReading.of text = .zoned address zone) (hc : c ∈ zone.toList.getLast?) :
    c ∈ text.toList.getLast? := by
  obtain ⟨left, hsplit⟩ := splitOnce_of_zoned h
  rw [eq_append_of_splitOnce hsplit, getLast?_append, getLast?_cons, hc]
  rfl

lemma eq_of_named (h : HostReading.of text = .named name) : name = text := by
  unfold HostReading.of at h
  split at h
  · cases h
  · split at h
    · cases h
    · exact (HostReading.named.inj h).symm

lemma settled_named (name : String) : (HostReading.named name).Settled ↔
      (∀ c ∈ (trimEndMatches '.' name).toList.head?, isWhitespace c = false) ∧
      (∀ c ∈ (trimEndMatches '.' name).toList.getLast?, isWhitespace c = false ∧ c ≠ ']') ∧
      (HostReading.of (HostReading.named name).text).Printed (HostReading.named name).text := Iff.rfl

lemma toList_named_text (name : String) :
    (HostReading.named name).text.toList = (trimEndMatches '.' name).toList.map Char.toLower := by
  rw [HostReading.text, toAsciiLowercase, String.toList_ofList]

lemma length_named_text_le (name : String) :
    (HostReading.named name).text.toList.length ≤ name.toList.length := by
  rw [toList_named_text, length_map, trimEndMatches, String.toList_ofList]
  exact (List.rdropWhile_prefix _ _).length_le

lemma ne_of_mem_head?_bare (hc : c ∈ (trimEndMatches '.' (strip host)).toList.head?) : c ≠ '[' := by
  rw [trimEndMatches, String.toList_ofList] at hc
  exact ne_of_mem_head?_strip (mem_head?_of_rdropWhile hc)

/-- Lower-casing and removing dots a second time changes nothing, so only a reading as an address can. -/
lemma text_of_named_text (name : String) :
    (HostReading.of (HostReading.named name).text).text = (HostReading.named name).text ↔
      (HostReading.of (HostReading.named name).text).Printed (HostReading.named name).text := by
  generalize hlower : (HostReading.named name).text = lower
  cases hagain : HostReading.of lower with
  | zoned address zone => rfl
  | plain address => rfl
  | named again =>
    refine iff_of_true ?_ trivial
    rw [eq_of_named hagain, HostReading.text, ← hlower, HostReading.text,
      trimEndMatches_toAsciiLowercase (.inl (by decide)),
      toAsciiLowercase_toAsciiLowercase]

lemma ends_named_text (name : String) :
    ((∀ c ∈ (HostReading.named name).text.toList.head?, isWhitespace c = false ∧ c ≠ '[') ↔
      ∀ c ∈ (trimEndMatches '.' name).toList.head?, isWhitespace c = false ∧ c ≠ '[') ∧
    ((∀ c ∈ (HostReading.named name).text.toList.getLast?, isWhitespace c = false ∧ c ≠ ']') ↔
      ∀ c ∈ (trimEndMatches '.' name).toList.getLast?, isWhitespace c = false ∧ c ≠ ']') := by
  have hopen : ∀ c : Char, c.toLower = '[' ↔ c = '[' := fun c => toLower_eq_iff (.inr (by decide))
  have hclose : ∀ c : Char, c.toLower = ']' ↔ c = ']' := fun c => toLower_eq_iff (.inr (by decide))
  rw [toList_named_text, head?_map, getLast?_map]
  simp [isWhitespace_toLower, hopen, hclose]

lemma normalizeHost_zoned (hof : HostReading.of (strip host) = .zoned address zone)
    (hreads : IpAddr.parseIpv6 (IpAddr.toString (.v6 address)) = some address) :
    normalizeHost (HostReading.zoned address zone).text = (HostReading.zoned address zone).text ↔
      (HostReading.zoned address zone).Settled := by
  have hstrip :
      strip (HostReading.zoned address zone).text = String.ofList ((IpAddr.toString (.v6 address)).toList ++
      '%' :: (zone.toList.rdropWhile isWhitespace).rdropWhile (· == ']')) := by
    rw [← toList_strip_zoned, String.ofList_toList]
  rw [normalizeHost_eq, hstrip, of_zoned hreads, ← String.toList_inj, toList_zoned_text, toList_zoned_text,
    String.toList_ofList, append_right_inj, cons_inj_right]
  constructor
  · intro h c hc
    have h₁ := rdropWhile_prefix isWhitespace (l := zone.toList)
    have h₂ := rdropWhile_prefix (· == ']') (l := zone.toList.rdropWhile isWhitespace)
    have hlength := congrArg length h
    have e₁ := h₁.eq_of_length (by have := h₁.length_le; have := h₂.length_le; omega)
    exact rdropWhile_eq_self.mp e₁ c hc
  · intro h
    rw [rdropWhile_eq_self.mpr h]
    apply rdropWhile_eq_self.mpr
    intro c hc
    have hne := ne_of_mem_getLast?_strip (getLast?_zone hof hc)
    simpa using hne

lemma strip_of_normalizeHost (h : normalizeHost name = name) :
    name.toList.length ≤ (strip name).toList.length := by
  rw [normalizeHost_eq] at h
  cases hagain : HostReading.of (strip name) with
  | zoned address zone =>
    rw [hagain] at h
    -- The zone of the stripped name is the stripped zone, so nothing was stripped.
    obtain ⟨left, hsplit⟩ := splitOnce_of_zoned hagain
    have hname := toList_strip_zoned address zone
    rw [h] at hname
    have hzone :=
      splitOnce_append (t := String.ofList ((zone.toList.rdropWhile isWhitespace).rdropWhile (· == ']')))
      (percent_notMem address)
    rw [String.toList_ofList, ← hname, String.ofList_toList, hsplit] at hzone
    have hzone : zone = String.ofList ((zone.toList.rdropWhile isWhitespace).rdropWhile (· == ']')) :=
      congrArg Prod.snd (Option.some.inj hzone)
    have hlist := congrArg String.toList hzone
    rw [String.toList_ofList] at hlist
    rw [hname, ← hlist, ← toList_zoned_text, h]
  | plain address =>
    rw [hagain] at h
    rw [← h]
    exact (congrArg (·.toList.length) (strip_toString _)).ge
  | named again =>
    rw [hagain] at h
    have hlength := length_named_text_le again
    rw [h, eq_of_named hagain] at hlength
    exact hlength

lemma normalizeHost_named (hof : HostReading.of (strip host) = .named name) :
    normalizeHost (HostReading.named name).text = (HostReading.named name).text ↔
      (HostReading.named name).Settled := by
  obtain ⟨hhead, hlast⟩ := ends_named_text name
  rw [settled_named, ← text_of_named_text]
  constructor
  · intro h
    obtain ⟨hfirst, hend⟩ := ends_of_length_le_strip (strip_of_normalizeHost h)
    rw [normalizeHost_eq, strip_eq_self hfirst hend] at h
    exact ⟨fun c hc => (hhead.mp hfirst c hc).1, hlast.mp hend, h⟩
  · rintro ⟨hfirst, hend, htext⟩
    have hbare : ∀ c ∈ (trimEndMatches '.' name).toList.head?, isWhitespace c = false ∧ c ≠ '[' := by
      intro c hc
      have hstripped : c ∈ (trimEndMatches '.' (strip host)).toList.head? := eq_of_named hof ▸ hc
      exact ⟨hfirst c hc, ne_of_mem_head?_bare hstripped⟩
    rw [normalizeHost_eq, strip_eq_self (hhead.mpr hbare) (hlast.mpr hend)]
    exact htext

lemma normalizeHost_plain {address : IpAddr}
    (hreads : IpAddr.parse address.toCanonical.toString = some address.toCanonical) :
    normalizeHost address.toCanonical.toString = address.toCanonical.toString := by
  rw [normalizeHost_eq, strip_toString, of_toString hreads]
  exact congrArg IpAddr.toString (IpAddr.toCanonical_toCanonical address)

lemma normalizeHost_normalizeHost (hreads : (HostReading.of (strip host)).ReadsBack) :
    normalizeHost (normalizeHost host) = normalizeHost host ↔ (HostReading.of (strip host)).Settled := by
  rw [normalizeHost_eq host]
  cases hof : HostReading.of (strip host) with
  | zoned address zone =>
    rw [hof] at hreads
    exact normalizeHost_zoned hof hreads
  | plain address =>
    rw [hof] at hreads
    exact iff_of_true (normalizeHost_plain hreads) trivial
  | named name => exact normalizeHost_named hof

instance : DecidablePred HostReading.ReadsBack
  | .zoned address _ =>
    inferInstanceAs (Decidable (IpAddr.parseIpv6 (IpAddr.toString (.v6 address)) = some address))
  | .plain address =>
    inferInstanceAs (Decidable (IpAddr.parse address.toCanonical.toString = some address.toCanonical))
  | .named _ => inferInstanceAs (Decidable True)

instance (text : String) : DecidablePred (HostReading.Printed text)
  | .zoned address zone => inferInstanceAs (Decidable ((HostReading.zoned address zone).text = text))
  | .plain address => inferInstanceAs (Decidable ((HostReading.plain address).text = text))
  | .named _ => inferInstanceAs (Decidable True)

instance : DecidablePred HostReading.Settled
  | .zoned _ zone => Option.decidableForallMem zone.toList.getLast?
  | .plain _ => inferInstanceAs (Decidable True)
  | .named name =>
    let bare := trimEndMatches '.' name
    have := Option.decidableForallMem (p := fun c => isWhitespace c = false) bare.toList.head?
    have := Option.decidableForallMem (p := fun c => isWhitespace c = false ∧ c ≠ ']') bare.toList.getLast?
    inferInstanceAs
      (Decidable (_ ∧ _ ∧ (HostReading.of (toAsciiLowercase bare)).Printed (toAsciiLowercase bare)))

def ReadsBack : JobScope → Prop
  | endpoint host _ => (HostReading.of (strip host)).ReadsBack
  | _ => True

def Settled : JobScope → Prop
  | endpoint host _ => (HostReading.of (strip host)).Settled
  | _ => True

lemma normalized_normalized {scope : JobScope} (hreads : scope.ReadsBack) :
    scope.normalized.normalized = scope.normalized ↔ scope.Settled := by
  cases scope with
  | logicalNode rackId nodeId => exact iff_of_true rfl trivial
  | physicalSwitch chassisSerialNumber trayIndex =>
    refine iff_of_true ?_ trivial
    exact congrArg (JobScope.physicalSwitch · trayIndex) (trimBy_trimBy _ _)
  | endpoint host port =>
    simp only [normalized, endpoint.injEq, and_true]
    exact normalizeHost_normalizeHost hreads

instance : DecidablePred ReadsBack
  | endpoint host _ => inferInstanceAs (Decidable (HostReading.of (strip host)).ReadsBack)
  | physicalSwitch _ _ => inferInstanceAs (Decidable True)
  | logicalNode _ _ => inferInstanceAs (Decidable True)

instance : DecidablePred Settled
  | endpoint host _ => inferInstanceAs (Decidable (HostReading.of (strip host)).Settled)
  | physicalSwitch _ _ => inferInstanceAs (Decidable True)
  | logicalNode _ _ => inferInstanceAs (Decidable True)

/-- Normalizing a second time changes exactly the scopes that are not settled. -/
theorem normalized_normalized_iff_settled (scopes : List JobScope)
    (hreads : ∀ scope ∈ scopes, scope.ReadsBack) :
    (∀ scope ∈ scopes, (scope.normalized.normalized = scope.normalized ↔ scope.Settled)) ∧
      ((∀ scope ∈ scopes, scope.Settled) →
        (scopes.map normalized).map normalized = scopes.map normalized ∧
          ∀ encode, SwitchScope.fabricScopeKeys encode (scopes.map normalized) =
            SwitchScope.fabricScopeKeys encode scopes) := by
  refine ⟨fun scope hscope => normalized_normalized (hreads scope hscope), ?_⟩
  intro hsettled
  have hsame : ∀ scope ∈ scopes, scope.normalized.normalized = scope.normalized :=
    fun scope hscope => (normalized_normalized (hreads scope hscope)).mpr (hsettled scope hscope)
  have hmap : (scopes.map normalized).map normalized = scopes.map normalized := by
    rw [map_map]
    exact map_congr_left hsame
  refine ⟨hmap, fun encode => ?_⟩
  have hkeys : ∀ scopes : List JobScope, scopes.mapM (fun scope => encode scope.normalized) =
      (scopes.map normalized).mapM encode := fun scopes => mapM_map.symm
  rw [SwitchScope.fabricScopeKeys, SwitchScope.fabricScopeKeys, hkeys, hkeys, hmap]

/-- A zoned address, a mapped address, a name and a switch. -/
def mixedScopes : List JobScope :=
  [endpoint "[FE80::0:1%eth0]" 443, endpoint "::ffff:10.0.0.1" 443, endpoint "Switch-1.Rack." 22,
    physicalSwitch " A1 " 3]

theorem normalized_normalized_mixed :
    (mixedScopes.map normalized).map normalized = mixedScopes.map normalized := by
  have hreads : ∀ scope ∈ mixedScopes, scope.ReadsBack := by decide +kernel
  have hsettled : ∀ scope ∈ mixedScopes, scope.Settled := by decide +kernel
  exact ((normalized_normalized_iff_settled mixedScopes hreads).2 hsettled).1

/-- Brackets and trailing dots hide material from the first normalization. -/
theorem normalized_normalized_bracketed_space :
    (endpoint "[ 10.0.0.1 ]" 443).normalized = endpoint " 10.0.0.1 " 443 ∧
      (endpoint "[ 10.0.0.1 ]" 443).normalized.normalized = endpoint "10.0.0.1" 443 ∧
      (endpoint "::ffff:10.0.0.1." 443).normalized = endpoint "::ffff:10.0.0.1" 443 ∧
      (endpoint "::ffff:10.0.0.1." 443).normalized.normalized = endpoint "10.0.0.1" 443 := by
  decide +kernel

end RackManagement.JobScope
