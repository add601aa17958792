import RackManagement.Library.UrlStandard
import RackManagement.Model.SameOrigin

/-!
# Endpoints that are accepted

The two checks read an endpoint as it was given, and the parser its path part after cleaning.
-/

namespace RackManagement.SameOrigin

open Library Library.UrlStandard List

variable {lib : UrlLibrary} {baseUrl endpoint : String} {requiredPrefix : Option String} {base url : Url}

def EncodesSeparator (text : List Char) : Prop :=
  "%2f".toList <:+: text.map Char.toLower ∨ "%5c".toList <:+: text.map Char.toLower

instance (text : List Char) : Decidable (EncodesSeparator text) :=
  inferInstanceAs
    (Decidable ("%2f".toList <:+: text.map Char.toLower ∨ "%5c".toList <:+: text.map Char.toLower))

/-- The URL has the origin of the base, and its path is the required one or continues it at a slash. -/
structure StaysOn (base : Url) (requiredPrefix : Option String) (url : Url) : Prop where
  scheme : url.scheme = base.scheme
  host : url.host = base.host
  port : url.portOrKnownDefault = base.portOrKnownDefault
  tree : ∀ required, requiredPrefix = some required → url.path = required ∨
    ∃ rest, url.path = required ++ "/" ++ rest

/-- All that is asked of an endpoint besides the two checks of its text. -/
structure Eligible (lib : UrlLibrary) (base : Url) (endpoint : String)
    (requiredPrefix : Option String) (url : Url) : Prop where
  joined : lib.join base endpoint = some url
  sameOrigin : url.SameOrigin base
  absolute : startsWith "/" endpoint = true
  within : withinAllowedTree requiredPrefix url = true

/-- One of the two checks finds something. -/
def suspicious (text : List Char) : Bool := hasTraversalSegment text || hasEncodedPathSeparator text

lemma resolveSameOrigin_eq_ok_iff (hbase : lib.parse baseUrl = .ok base) :
    resolveSameOrigin lib baseUrl endpoint requiredPrefix = .ok url ↔
      Eligible lib base endpoint requiredPrefix url ∧ suspicious endpoint.toList = false := by
  rw [resolveSameOrigin, hbase, suspicious, Bool.or_eq_false_iff]
  dsimp only
  constructor
  · intro h
    split at h
    · rename_i resolved hresolved
      obtain ⟨hjoined, horigin⟩ := Option.filter_eq_some_iff.mp hresolved
      split at h
      · rename_i hchecks
        simp only [Bool.and_eq_true, Bool.not_eq_true'] at hchecks
        cases h
        exact ⟨⟨hjoined, of_decide_eq_true horigin, hchecks.1.1.1, hchecks.2⟩, hchecks.1.1.2, hchecks.1.2⟩
      · cases h
    · cases h
  · rintro ⟨⟨hjoined, horigin, habsolute, hwithin⟩, htraversal, hencoded⟩
    rw [hjoined, Option.filter_some, if_pos (decide_eq_true horigin)]
    dsimp only
    rw [habsolute, htraversal, hencoded, hwithin]
    rfl

lemma origin_eq_some {o : Origin} (h : url.origin = some o) :
    url.scheme = o.scheme ∧ url.host = some o.host ∧ url.portOrKnownDefault = some o.port := by
  unfold Url.origin at h
  obtain ⟨_, -, h⟩ := Option.bind_eq_some_iff.mp h
  obtain ⟨host, hhost, h⟩ := Option.bind_eq_some_iff.mp h
  obtain ⟨port, hport, h⟩ := Option.bind_eq_some_iff.mp h
  rw [← Option.some.inj h]
  exact ⟨rfl, hhost, hport⟩

lemma path_of_withinAllowedTree {required : String} (h : withinAllowedTree (some required) url = true) :
    url.path = required ∨ ∃ rest, url.path = required ++ "/" ++ rest := by
  rw [withinAllowedTree, Bool.or_eq_true, beq_iff_eq] at h
  refine h.imp_right fun hcontinued => ?_
  obtain ⟨rest, hrest, hslash⟩ := (Option.any_eq_true _ _).mp hcontinued
  have hstart : required.toList ++ rest.toList = url.path.toList := by
    unfold stripStart at hrest
    split at hrest
    · rename_i hstart
      rw [← Option.some.inj hrest, String.toList_ofList]
      exact prefix_iff_eq_append.mp (List.isPrefixOf_iff_prefix.mp hstart)
    · cases hrest
  have hslash : "/".toList <+: rest.toList := isPrefixOf_iff_prefix.mp hslash
  obtain ⟨later, hlater⟩ := hslash
  have hofList : (String.ofList later).toList = later := String.toList_ofList
  refine ⟨String.ofList later, String.toList_inj.mp ?_⟩
  rw [String.toList_append, String.toList_append, hofList, append_assoc, hlater, hstart]

lemma Eligible.staysOn (h : Eligible lib base endpoint requiredPrefix url) :
    StaysOn base requiredPrefix url := by
  obtain ⟨origin, hurl, hbase⟩ := h.sameOrigin
  obtain ⟨hscheme, hhost, hport⟩ := origin_eq_some hurl
  obtain ⟨hbaseScheme, hbaseHost, hbasePort⟩ := origin_eq_some hbase
  constructor
  · rw [hscheme, hbaseScheme]
  · rw [hhost, hbaseHost]
  · rw [hport, hbasePort]
  · rintro required rfl
    exact path_of_withinAllowedTree h.within

variable (text : List Char)

lemma encodesSeparator_iff :
    EncodesSeparator text ↔ ∃ byte, (byte = 0x2f ∨ byte = 0x5c) ∧ ∃ piece, Encodes piece byte ∧
      piece <:+: text := by
  have hslash : "%2f".toList = (percentEncodeByte 0x2f).map Char.toLower := by decide
  have hbackslash : "%5c".toList = (percentEncodeByte 0x5c).map Char.toLower := by decide
  rw [EncodesSeparator, hslash, hbackslash, infix_map_iff, infix_map_iff]
  simp only [or_and_right, exists_or, exists_eq_left, Encodes]
  simp only [and_comm, eq_comm]

lemma hasTraversalSegment_eq_false_iff :
    hasTraversalSegment text = false ↔
      ∀ segment ∈ text.splitOnP isSeparator, isDoubleDot segment = false := by
  rw [hasTraversalSegment, any_eq_false]
  simp only [Bool.not_eq_true]
  rfl

lemma hasEncodedPathSeparator_pathPart (reference : List Char) :
    hasEncodedPathSeparator (pathPart reference) = true ↔ EncodesSeparator (pathPart reference) := by
  have hwhole : (pathPart reference).takeWhile (fun c => !(c == '?' || c == '#')) = pathPart reference :=
    takeWhile_idem
  rw [hasEncodedPathSeparator, decide_eq_true_iff, EncodesSeparator, hwhole]

/-- The path has no encoded separator, and no double dot was processed for it. -/
structure Confined (endpoint : String) (url : Url) : Prop where
  path : ¬EncodesSeparator url.path.toList
  segments : ∀ segment ∈ processedSegments endpoint.toList, isDoubleDot segment = false

lemma Eligible.confined_iff {parseHost : String → Option String} (hstandard : Follows lib parseHost)
    (hscheme : base.scheme = "http" ∨ base.scheme = "https")
    (h : Eligible lib base endpoint requiredPrefix url) :
    Confined endpoint url ↔ suspicious (pathPart endpoint.toList) = false := by
  have hhead : (clean endpoint.toList).head? = some '/' := by
    apply head_clean
    obtain ⟨rest, hrest⟩ := isPrefixOf_iff_prefix.mp h.absolute
    rw [← hrest]
    rfl
  have hresolved := hstandard base endpoint hscheme hhead
  rw [h.joined] at hresolved
  have hpath := path_of_resolve hresolved.symm
  have hencoded : (∀ segment ∈ processedSegments endpoint.toList, isDoubleDot segment = false) →
      (EncodesSeparator url.path.toList ↔ EncodesSeparator (pathPart endpoint.toList)) := by
    intro hdouble
    rw [hpath, String.toList_ofList, encodesSeparator_iff, encodesSeparator_iff]
    apply exists_congr
    intro byte
    apply and_congr_right
    intro hbyte
    apply exists_congr
    intro piece
    apply and_congr_right
    intro hencodes
    exact infix_path hbyte hencodes hdouble
  rw [suspicious, Bool.or_eq_false_iff, hasTraversalSegment_eq_false_iff, ← isDoubleDot_processedSegments,
    ← Bool.not_eq_true (hasEncodedPathSeparator _), hasEncodedPathSeparator_pathPart]
  constructor
  · intro hconfined
    exact ⟨hconfined.segments, (hencoded hconfined.segments).not.mp hconfined.path⟩
  · rintro ⟨hdouble, hnone⟩
    exact ⟨(hencoded hdouble).not.mpr hnone, hdouble⟩

/-- One slash and then a text from which the parser drops nothing. -/
def Plain (text : List Char) : Prop :=
  ∃ rest, text = '/' :: rest ∧ (∀ c ∈ rest.head?, isSeparator c = false) ∧
    ∀ c ∈ rest, isC0ControlOrSpace c = false ∧ isPathEnd c = false

lemma suspicious_slash : suspicious ('/' :: text) = suspicious text := by
  have htraversal : hasTraversalSegment ('/' :: text) = hasTraversalSegment text := by
    rw [hasTraversalSegment, splitOnP_cons_eq_if_modifyHead, if_pos (by decide), any_cons]
    rfl
  have hencoded : hasEncodedPathSeparator ('/' :: text) = hasEncodedPathSeparator text := by
    unfold hasEncodedPathSeparator
    rw [takeWhile_cons_of_pos (by decide), map_cons]
    simp [infix_cons_iff, cons_prefix_cons]
  rw [suspicious, suspicious, htraversal, hencoded]

lemma Plain.suspicious_pathPart {text : List Char} (h : Plain text) :
    suspicious (pathPart text) = suspicious text := by
  obtain ⟨rest, rfl, hfirst, hrest⟩ := h
  have hclean : clean ('/' :: rest) = '/' :: rest := by
    have hkept : ∀ c ∈ '/' :: rest, isC0ControlOrSpace c = false := by
      rw [forall_mem_cons]
      exact ⟨by decide, fun c hc => (hrest c hc).1⟩
    rw [clean, dropWhile_cons_of_neg (by decide), rdropWhile_eq_self_iff.mpr, filter_eq_self]
    · intro c hc
      rw [Bool.not_eq_true', ← Bool.not_eq_true]
      intro htab
      have hcontrol : isC0ControlOrSpace c = true := by
        rw [isTabOrNewline, Bool.or_eq_true, Bool.or_eq_true, beq_iff_eq, beq_iff_eq, beq_iff_eq] at htab
        rcases htab with (rfl | rfl) | rfl <;> decide
      rw [hkept c hc] at hcontrol
      cases hcontrol
    · intro hne
      rw [hkept _ (getLast_mem hne)]
      exact Bool.false_ne_true
  have hpart : pathPart ('/' :: rest) = rest := by
    rw [pathPart, hclean]
    cases rest with
    | nil => rfl
    | cons c rest =>
      rw [splitReference, if_neg (by simp [hfirst c rfl])]
      exact takeWhile_eq_self_iff.mpr (fun d hd => by simp [(hrest d hd).2])
  rw [hpart, suspicious_slash]

/-- Every accepted URL of an endpoint is on its base and confined if and only if the endpoint is not
eligible, a check finds something in it, or no check finds anything in its path as the parser reads
it. Of a plain endpoint both read the same. -/
theorem endpoint_confined_iff {parseHost : String → Option String} (hstandard : Follows lib parseHost)
    (hbase : lib.parse baseUrl = .ok base) (hscheme : base.scheme = "http" ∨ base.scheme = "https") :
    ((∀ url, resolveSameOrigin lib baseUrl endpoint requiredPrefix = .ok url →
        StaysOn base requiredPrefix url ∧ Confined endpoint url) ↔
      ∀ url, Eligible lib base endpoint requiredPrefix url →
        suspicious endpoint.toList = true ∨ suspicious (pathPart endpoint.toList) = false) ∧
    (Plain endpoint.toList → ∀ url, resolveSameOrigin lib baseUrl endpoint requiredPrefix = .ok url →
      StaysOn base requiredPrefix url ∧ Confined endpoint url) := by
  have hexact : (∀ url, resolveSameOrigin lib baseUrl endpoint requiredPrefix = .ok url →
        StaysOn base requiredPrefix url ∧ Confined endpoint url) ↔
      ∀ url, Eligible lib base endpoint requiredPrefix url →
        suspicious endpoint.toList = true ∨ suspicious (pathPart endpoint.toList) = false := by
    apply forall_congr'
    intro url
    rw [resolveSameOrigin_eq_ok_iff hbase, and_imp]
    apply imp_congr_right
    intro heligible
    rw [and_iff_right heligible.staysOn, heligible.confined_iff hstandard hscheme]
    cases suspicious endpoint.toList <;> simp
  refine ⟨hexact, fun hplain => hexact.mpr fun url _ => ?_⟩
  rw [hplain.suspicious_pathPart]
  cases suspicious endpoint.toList <;> simp

/-- A parser that knows one base and resolves references that start with a slash. -/
def deviceUrls : UrlLibrary where
  parse := fun text =>
    if text = "https://10.0.0.1" then .ok ⟨"https", "", none, some "10.0.0.1", none, "/", none, none⟩
    else .error "relative URL without a base"
  join := fun base reference =>
    if (clean reference.toList).head? = some '/' then resolve some base (clean reference.toList) else none
  asStr := Url.path
  toFilePath := fun _ => none
  parseHost := fun _ => none

lemma follows_deviceUrls : Follows deviceUrls some := by
  intro base reference _ hhead
  exact if_pos hhead

def AcceptedWith (endpoint : String) (requiredPrefix : Option String) (property : Url → Bool) : Prop :=
  ∃ url, resolveSameOrigin deviceUrls "https://10.0.0.1" endpoint requiredPrefix = .ok url ∧
    property url = true

instance (endpoint : String) (requiredPrefix : Option String) (property : Url → Bool) :
    Decidable (AcceptedWith endpoint requiredPrefix property) :=
  match h : resolveSameOrigin deviceUrls "https://10.0.0.1" endpoint requiredPrefix with
  | .ok url => decidable_of_iff (property url = true) (by
      rw [AcceptedWith, h]
      simp)
  | .error _ => .isFalse (by
      rw [AcceptedWith, h]
      simp)

theorem ordinary_endpoint_confined :
    ∃ url, resolveSameOrigin deviceUrls "https://10.0.0.1" "/redfish/v1/Systems?expand=%2f"
      (some "/redfish/v1") = .ok url ∧
      url.host = some "10.0.0.1" ∧ Confined "/redfish/v1/Systems?expand=%2f" url := by
  have haccepted :
      AcceptedWith "/redfish/v1/Systems?expand=%2f" (some "/redfish/v1") (fun _ => true) := by
        decide +kernel
  obtain ⟨url, hurl, -⟩ := haccepted
  obtain ⟨hstays, hconfined⟩ := (endpoint_confined_iff follows_deviceUrls rfl (.inr rfl)).1.mpr
    (fun _ _ => .inr (by decide +kernel)) url hurl
  exact ⟨url, hurl, hstays.host, hconfined⟩

/-- A tab within a double dot or an encoded separator hides it from the checks and not from the parser. -/
theorem tabbed_endpoints_escape :
    AcceptedWith "/redfish/v1/.\t./admin" none (fun url => url.path == "/redfish/admin") ∧
      (∃ segment ∈ processedSegments "/redfish/v1/.\t./admin".toList, isDoubleDot segment = true) ∧
      AcceptedWith "/redfish/v1/..?expand" none (fun url => url.path == "/redfish/") ∧
      AcceptedWith "/redfish/v1/%2\tf..%2\tfadmin" (some "/redfish/v1")
        (fun url => EncodesSeparator url.path.toList) := by
  decide +kernel

end RackManagement.SameOrigin
