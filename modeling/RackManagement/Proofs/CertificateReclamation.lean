import RackManagement.Model.CertificateRetention

/-!
# Certificate reclamation

`Eligible` says in terms of the responses of the switch that an entry is proven unused, and
`Planned` that entries are the oldest eligible ones that make room.
-/

namespace RackManagement

open Library Library.Interaction List

def NvueReply.Document (reply : NvueReply) (value : Json) : Prop :=
  ∃ response, reply = .received response ∧ response.isSuccess = true ∧ response.isBlank = false ∧
    response.jsonError = none ∧ response.value = value

def NvueReply.NotFound (reply : NvueReply) : Prop :=
  ∃ response, reply = .received response ∧ response.status = 404

inductive NvueReply.Lists (reply : NvueReply) : List (String × Json) → Prop
  | notFound (h : reply.NotFound) : Lists reply []
  | null (h : reply.Document .null) : Lists reply []
  | object {fields : List (String × Json)} (h : reply.Document (.object fields)) :
    Lists reply (Json.entries fields)

/-- A recognized value of the `installed` field that names no service. -/
def NoService (installed : Option Json) : Prop :=
  installed = none ∨ installed = some .null ∨ installed = some (.string "") ∨
    installed = some (.object []) ∨
    installed = some (.array [])

def UnusedEntry (entry : Json) : Prop :=
  entry = .null ∨ ∃ fields, entry = .object fields ∧ NoService (ReportedUsage.installedField fields)

def responseViews (response : Json) : List Json := (bindingViews response).filterMap Prod.snd

def RecognizedField (value : Option Json) : Prop :=
  value = none ∨ value = some .null ∨ ∃ id, value = some (.string id)

/-- The binding was read in a recognized shape, or is allowed to be missing. -/
def BindingSource.Recognized (source : BindingSource) (reply : NvueReply) : Prop :=
  (source.absentWhenNotFound = true ∧ reply.NotFound) ∨
    ∃ response, reply.Document response ∧
      ∀ view ∈ responseViews response, view.isObject = true ∧ RecognizedField (view.get source.field)

def BindingSource.Names (source : BindingSource) (reply : NvueReply) (id : String) : Prop :=
  ∃ response, reply.Document response ∧
    ∃ view ∈ responseViews response, view.get source.field = some (.string id)

namespace NvueReply

variable {reply : NvueReply}

lemma Document.unique {value other : Json} (h : reply.Document value)
    (hother : reply.Document other) : value = other := by
  obtain ⟨response, hresponse, -, -, -, hvalue⟩ := h
  obtain ⟨second, hsecond, -, -, -, hother⟩ := hother
  cases hresponse.symm.trans hsecond
  exact hvalue.symm.trans hother

lemma NotFound.not_document (h : reply.NotFound) (value : Json) : ¬reply.Document value := by
  rintro ⟨sent, hsent, hsuccess, -⟩
  obtain ⟨missing, hmissing, hstatus⟩ := h
  cases hsent.symm.trans hmissing
  simp [NvueResponse.isSuccess, hstatus] at hsuccess

lemma Lists.unique {entries other : List (String × Json)} (h : reply.Lists entries)
    (hother : reply.Lists other) :
    entries = other := by
  cases h with
  | notFound h =>
    cases hother with
    | notFound _ => rfl
    | null hother => exact absurd hother (h.not_document _)
    | object hother => exact absurd hother (h.not_document _)
  | null h =>
    cases hother with
    | notFound hother => exact absurd h (hother.not_document _)
    | null _ => rfl
    | object hother => cases h.unique hother
  | object h =>
    cases hother with
    | notFound hother => exact absurd h (hother.not_document _)
    | null hother => cases h.unique hother
    | object hother =>
      cases h.unique hother
      rfl

end NvueReply

/-! ### What the pure parts compute -/

lemma code_ne_notFound (failure : TransportFailure) : failure.code ≠ .notFound := by
  cases failure <;> decide

lemma rmsHttpStatusCode_eq_notFound {status : Nat} (h : rmsHttpStatusCode status = .notFound) :
    status = 404 := by
  unfold rmsHttpStatusCode at h
  split_ifs at h
  assumption

variable {reply : NvueReply}

lemma document_of_ok {endpoint : String} {value : Json}
    (h : reply.certificateDocument endpoint = .ok value) : reply.Document value := by
  cases reply with
  | noClient => cases h
  | failed failure message => cases h
  | received response =>
    simp only [NvueReply.certificateDocument, NvueReply.result, NvueResponse.intoJson] at h
    split_ifs at h with hblank hsuccess
    rw [Bool.not_eq_true, Bool.not_eq_false'] at hsuccess
    cases herror : response.jsonError with
    | some message =>
      rw [herror] at h
      cases h
    | none =>
      rw [herror] at h
      cases h
      exact ⟨response, rfl, hsuccess, by simpa [hsuccess] using hblank, herror, rfl⟩

lemma notFound_of_error {endpoint : String} {error : RmsError}
    (h : reply.certificateDocument endpoint = .error error) (hcode : error.code = .notFound) :
    reply.NotFound := by
  cases reply with
  | noClient =>
    cases h
    cases hcode
  | failed failure message =>
    cases h
    exact absurd hcode (code_ne_notFound failure)
  | received response =>
    simp only [NvueReply.certificateDocument, NvueReply.result, NvueResponse.intoJson] at h
    split_ifs at h with hblank hsuccess
    · cases h
      cases hcode
    · cases h
      exact ⟨response, rfl, rmsHttpStatusCode_eq_notFound hcode⟩
    · split at h
      · cases h
        cases hcode
      · cases h

lemma ofServices_eq_none_iff {names : List String} :
    ReportedUsage.ofServices names = .none ↔ names = [] := by
  unfold ReportedUsage.ofServices
  cases names <;> simp

lemma entries_eq_nil_iff {fields : List (String × Json)} : Json.entries fields = [] ↔ fields = [] := by
  cases fields <;> simp [Json.entries]

lemma ofInstalled_eq_none_iff (installed : Option Json) :
    ReportedUsage.ofInstalled installed = .none ↔ NoService installed := by
  unfold NoService
  fun_cases ReportedUsage.ofInstalled installed with
  | case5 names => simp [ofServices_eq_none_iff, entries_eq_nil_iff]
  | case6 names hnames =>
    cases names with
    | nil => simp at hnames
    | cons name names => simp
  | case7 names texts hnames =>
    rw [ofServices_eq_none_iff]
    cases names with
    | nil => simp_all
    | cons name names =>
      simp only [mapM_cons, Option.bind_eq_bind, Option.bind_eq_some_iff] at hnames
      obtain ⟨text, -, rest, -, hcons⟩ := hnames
      cases hcons
      simp
  | _ => simp_all [ofServices_eq_none_iff]

lemma fromEntry_eq_none_iff (entry : Json) : ReportedUsage.fromEntry entry = .none ↔ UnusedEntry entry := by
  unfold UnusedEntry
  cases entry with
  | object fields => simpa [ReportedUsage.fromEntry] using ofInstalled_eq_none_iff _
  | _ => simp [ReportedUsage.fromEntry]

variable {store : CertificateStore}

lemma lists_of_storeListing {inventory : StoreInventory}
    (h : Reclaim.storeListing store reply = .ok inventory) :
    ∃ entries, reply.Lists entries ∧
      inventory.entries = entries.map (fun entry => (entry.1, ReportedUsage.fromEntry entry.2)) := by
  unfold Reclaim.storeListing at h
  cases hdocument : reply.certificateDocument store.collectionEndpoint with
  | error error =>
    simp only [hdocument] at h
    split_ifs at h with hcode
    cases h
    exact ⟨[], .notFound (notFound_of_error hdocument hcode), rfl⟩
  | ok value =>
    simp only [hdocument] at h
    have hread := document_of_ok hdocument
    cases value with
    | null =>
      cases h
      exact ⟨[], .null hread, rfl⟩
    | object fields =>
      cases h
      exact ⟨Json.entries fields, .object hread, rfl⟩
    | _ => cases h

lemma viewIds_eq_ok {field : String} {views : List (String × Option Json)} {ids : List String}
    (h : viewIds field views = .ok ids) :
    (∀ view ∈ views.filterMap Prod.snd, view.isObject = true ∧ RecognizedField (view.get field)) ∧
      ∀ id, id ≠ "" →
        (id ∈ ids ↔ ∃ view ∈ views.filterMap Prod.snd, view.get field = some (.string id)) := by
  fun_induction viewIds field views generalizing ids with
  | case1 =>
    cases h
    simp
  | case2 _ views ih => simpa using ih h
  | case3 => cases h
  | case4 name view views hobject hget ih =>
    obtain ⟨hviews, hids⟩ := ih h
    refine ⟨forall_mem_cons.mpr ⟨⟨by simpa using hobject, .inl hget⟩, hviews⟩, fun id hne => ?_⟩
    rw [hids id hne]
    simp [hget]
  | case5 name view views hobject hget ih =>
    obtain ⟨hviews, hids⟩ := ih h
    refine ⟨forall_mem_cons.mpr ⟨⟨by simpa using hobject, .inr (.inl hget)⟩, hviews⟩, fun id hne => ?_⟩
    rw [hids id hne]
    simp [hget]
  | case6 name view views hobject hget ih =>
    obtain ⟨hviews, hids⟩ := ih h
    refine ⟨forall_mem_cons.mpr ⟨⟨by simpa using hobject, .inr (.inr ⟨"", hget⟩)⟩, hviews⟩,
      fun id hne => ?_⟩
    rw [hids id hne]
    simp [hget, hne.symm]
  | case7 name view views hobject id hget hne ih =>
    cases hrest : viewIds field views with
    | error message =>
      rw [hrest] at h
      cases h
    | ok rest =>
      rw [hrest] at h
      cases h
      obtain ⟨hviews, hids⟩ := ih hrest
      refine ⟨forall_mem_cons.mpr ⟨⟨by simpa using hobject, .inr (.inr ⟨id, hget⟩)⟩, hviews⟩,
        fun other hother => ?_⟩
      rw [mem_cons, hids other hother]
      simp [hget, eq_comm]
  | case8 => cases h

lemma read_eq_ok {source : BindingSource} {ids : List String} (h : source.read reply = .ok ids) :
    source.Recognized reply ∧ ∀ id, id ≠ "" → (id ∈ ids ↔ source.Names reply id) := by
  unfold BindingSource.read at h
  cases hdocument : reply.certificateDocument source.endpoint with
  | error error =>
    simp only [hdocument] at h
    split_ifs at h with hmissing
    cases h
    have hnotFound := notFound_of_error hdocument hmissing.1
    refine ⟨.inl ⟨hmissing.2, hnotFound⟩, fun id _ => ?_⟩
    constructor
    · intro hmem
      simp at hmem
    · rintro ⟨response, hsent, -⟩
      exact absurd hsent (hnotFound.not_document response)
  | ok response =>
    simp only [hdocument, boundEntryIds] at h
    split_ifs at h
    cases hviews : viewIds source.field (bindingViews response) with
    | error message =>
      rw [hviews] at h
      cases h
    | ok found =>
      rw [hviews] at h
      cases h
      obtain ⟨hrecognized, hids⟩ := viewIds_eq_ok hviews
      have hread := document_of_ok hdocument
      refine ⟨.inr ⟨response, hread, hrecognized⟩, fun id hne => ?_⟩
      rw [mem_sortDedup, hids id hne]
      constructor
      · intro hnamed
        exact ⟨response, hread, hnamed⟩
      · rintro ⟨other, hother, hnamed⟩
        rw [hread.unique hother]
        exact hnamed

/-! ### The bindings that are recorded -/

variable (answer : BindingSource → SwitchAnswer)

/-- The bindings once every source has been answered. -/
def recordAll (sources : List BindingSource) (bindings : CertificateBindings) :
    CertificateBindings :=
  sources.foldl (fun bindings source =>
    bindings.record source.store source.service (source.read (answer source).reply))
    bindings

lemma store_record (bindings : CertificateBindings) (store other : CertificateStore)
    (service : SwitchMtlsService)
    (read : Except String (List String)) : (bindings.record store service read).store other =
      if store = other then (bindings.store other).record service read else bindings.store other := by
  cases store <;> cases other <;> rfl

section Bindings

variable {answer : BindingSource → SwitchAnswer} {sources : List BindingSource} {store : CertificateStore}
  {bindings : CertificateBindings}

lemma read_of_confirmed (h : ((recordAll answer sources bindings).store store).unreadable = []) :
    (bindings.store store).unreadable = [] ∧
      ∀ source ∈ sources, source.store = store → ∃ ids, source.read (answer source).reply = .ok ids := by
  induction sources generalizing bindings with
  | nil => exact ⟨h, by simp⟩
  | cons source sources ih =>
    obtain ⟨hrecorded, hrest⟩ := ih h
    rw [store_record] at hrecorded
    by_cases hstore : source.store = store
    · rw [if_pos hstore] at hrecorded
      cases hread : source.read (answer source).reply with
      | error reason => simp [hread, StoreBindings.record] at hrecorded
      | ok ids =>
        rw [hread] at hrecorded
        exact ⟨hrecorded, forall_mem_cons.mpr ⟨fun _ => ⟨ids, hread⟩, hrest⟩⟩
    · rw [if_neg hstore] at hrecorded
      exact ⟨hrecorded, forall_mem_cons.mpr ⟨fun heq => absurd heq hstore, hrest⟩⟩

lemma isBound_record {bindings : StoreBindings} {service : SwitchMtlsService}
    {read : Except String (List String)}
    {id : String} : (bindings.record service read).isBound id = true ↔
      bindings.isBound id = true ∨ ∃ ids, read = .ok ids ∧ id ∈ ids := by
  cases read with
  | error reason => simp [StoreBindings.record, StoreBindings.isBound]
  | ok ids => simp [StoreBindings.record, StoreBindings.isBound]

lemma isBound_recordAll {id : String} :
    ((recordAll answer sources bindings).store store).isBound id = true ↔
      (bindings.store store).isBound id = true ∨ ∃ source ∈ sources, source.store = store ∧
        ∃ ids, source.read (answer source).reply = .ok ids ∧ id ∈ ids := by
  induction sources generalizing bindings with
  | nil => simp [recordAll]
  | cons source sources ih =>
    rw [recordAll, foldl_cons, ← recordAll, ih, store_record]
    simp only [mem_cons, exists_eq_or_imp]
    by_cases hstore : source.store = store
    · rw [if_pos hstore, isBound_record]
      simp only [hstore, true_and, or_assoc]
    · rw [if_neg hstore]
      simp only [hstore, false_and, false_or]

end Bindings

/-! ### What is planned -/

namespace SwitchTrace

def answers (q : SwitchRequest) (trace : SwitchTrace) : List SwitchAnswer :=
  trace.filterMap (fun exchange => if exchange.1 = q then some exchange.2 else none)

def deletions (trace : SwitchTrace) : List (CertificateStore × String) :=
  trace.filterMap (fun exchange =>
    match exchange.1 with
    | .deleteEntry store id => some (store, id)
    | _ => none)

def deletionsOf (store : CertificateStore) (trace : SwitchTrace) : List String :=
  ((deletions trace).filter (fun target => target.1 = store)).map Prod.snd

lemma answers_append (q : SwitchRequest) (first second : SwitchTrace) :
    answers q (first ++ second) = answers q first ++ answers q second := filterMap_append

lemma answers_listStore_reads (store : CertificateStore) (answer : BindingSource → SwitchAnswer)
    (sources : List BindingSource) :
    answers (.listStore store) (sources.map (fun source => (.readBinding source, answer source))) = [] := by
  simp [answers]

variable {sources : List BindingSource}

lemma head_answers_reads {source : BindingSource} (h : source ∈ sources) :
    (answers (.readBinding source)
      (sources.map (fun source => (.readBinding source, answer source)))).head? =
      some (answer source) := by
  induction sources with
  | nil => simp at h
  | cons other sources ih =>
    by_cases heq : other = source
    · simp [answers, heq]
    · have hmem : source ∈ sources := (mem_cons.mp h).resolve_left (Ne.symm heq)
      simpa [answers, heq] using ih hmem

lemma deletions_reads (sources : List BindingSource) :
    deletions (sources.map (fun source => (.readBinding source, answer source))) = [] := by
  simp [deletions]

lemma deletions_append (first second : SwitchTrace) :
    deletions (first ++ second) = deletions first ++ deletions second := filterMap_append

end SwitchTrace

open SwitchTrace

section Plans

variable {τ : Type} [LinearOrder τ] (parseFromStr : String → String → Option τ)
  (material : SwitchMtlsMaterial)

def FirstListing (trace : SwitchTrace) (store : CertificateStore) (entries : List (String × Json)) : Prop :=
  ∃ answer, (answers (.listStore store) trace).head? = some answer ∧ answer.reply.Lists entries

def LastListing (trace : SwitchTrace) (store : CertificateStore) (entries : List (String × Json)) : Prop :=
  ∃ answer, (answers (.listStore store) trace).getLast? = some answer ∧ answer.reply.Lists entries

/-- The entry is one the service created, is not needed by the install, and is proven unused. -/
structure Eligible (trace : SwitchTrace) (store : CertificateStore) (id : String) : Prop where
  created : startsWith rmsCertificateIdStart id = true
  valid : isValidIdentifier id = true
  not_ca : id ≠ material.caCertId
  not_entity : id ≠ material.entityCertId
  unused : ∃ entries entry, FirstListing trace store entries ∧ (id, entry) ∈ entries ∧ UnusedEntry entry
  unbound : ∀ source ∈ allBindingSources, source.store = store →
    ∃ answer, (answers (.readBinding source) trace).head? = some answer ∧ source.Recognized answer.reply ∧
      ¬source.Names answer.reply id

/-- The entries are the oldest eligible ones, as many as make room for one import. -/
structure Planned (trace : SwitchTrace) (store : CertificateStore) (ids : List String) : Prop where
  required : ∃ entries, FirstListing trace store entries ∧
    ids.length = entries.length + 1 - nvosCertificateStoreLimit
  eligible : ∀ id ∈ ids, Eligible material trace store id
  ordered : ids.Pairwise (fun a b => reclaimKey parseFromStr a < reclaimKey parseFromStr b)
  oldest : ∀ id ∈ ids, ∀ other, Eligible material trace store other → other ∉ ids →
    reclaimKey parseFromStr id < reclaimKey parseFromStr other

structure Surveyed (trace : SwitchTrace) (inventory : CertificateInventory)
    (bindings : CertificateBindings) : Prop where
  listed : ∀ store, ∃ answer, (answers (.listStore store) trace).head? = some answer ∧
    Reclaim.storeListing store answer.reply = .ok (inventory.store store)
  bound : inventory.needsSpace nvosCertificateStoreLimit = true → ∃ answer : BindingSource → SwitchAnswer,
    (∀ source ∈ allBindingSources, (answers (.readBinding source) trace).head? = some (answer source)) ∧
      bindings = recordAll answer allBindingSources {}

variable {trace : SwitchTrace} {inventory : CertificateInventory} {bindings : CertificateBindings}
  {store : CertificateStore}

lemma Surveyed.append (h : Surveyed trace inventory bindings) (more : SwitchTrace) :
    Surveyed (trace ++ more) inventory bindings where
  listed store := by
    obtain ⟨answer, hanswer, hlisting⟩ := h.listed store
    refine ⟨answer, ?_, hlisting⟩
    rw [answers_append, head?_append, hanswer, Option.some_or]
  bound hfull := by
    obtain ⟨answer, hanswer, hbindings⟩ := h.bound hfull
    refine ⟨answer, fun source hmem => ?_, hbindings⟩
    rw [answers_append, head?_append, hanswer source hmem, Option.some_or]

lemma Surveyed.of_room (hlisted : ∀ store, ∃ answer, answers (.listStore store) trace = [answer] ∧
      Reclaim.storeListing store answer.reply = .ok (inventory.store store))
    (hroom : inventory.needsSpace nvosCertificateStoreLimit = false) (bindings : CertificateBindings) :
    Surveyed trace inventory bindings where
  listed store := by
    obtain ⟨answer, hanswer, hlisting⟩ := hlisted store
    exact ⟨answer, by rw [hanswer, head?_cons], hlisting⟩
  bound hfull := by
    rw [hroom] at hfull
    cases hfull

lemma Surveyed.of_reads (hlisted : ∀ store, ∃ answer, answers (.listStore store) trace = [answer] ∧
      Reclaim.storeListing store answer.reply = .ok (inventory.store store))
    (hunread : ∀ source, answers (.readBinding source) trace = []) (answer : BindingSource → SwitchAnswer) :
    Surveyed (trace ++ allBindingSources.map (fun source => (.readBinding source, answer source))) inventory
      (recordAll answer allBindingSources {}) where
  listed store := by
    obtain ⟨found, hfound, hlisting⟩ := hlisted store
    exact ⟨found, by rw [answers_append, hfound, head?_append, head?_cons, Option.some_or], hlisting⟩
  bound _ := by
    refine ⟨answer, fun source hsource => ?_, rfl⟩
    rw [answers_append, hunread, nil_append, head_answers_reads answer hsource]

lemma needsSpace_of_store {limit : Nat} (h : limit ≤ (inventory.store store).entries.length) :
    inventory.needsSpace limit = true := by
  refine any_eq_true.mpr ⟨store, ?_, by simpa [StoreInventory.needsSpace] using h⟩
  cases store <;> decide

lemma ne_empty_of_valid {id : String} (h : isValidIdentifier id = true) : id ≠ "" := by
  rintro rfl
  simp [isValidIdentifier] at h

lemma mem_candidates_iff (h : Surveyed trace inventory bindings)
    (hfull : nvosCertificateStoreLimit ≤ (inventory.store store).entries.length)
    (hread : (bindings.store store).unreadable = []) (id : String) :
    id ∈ candidates (inventory.store store) (bindings.store store)
      [material.caCertId, material.entityCertId] ↔
      Eligible material trace store id := by
  obtain ⟨first, hfirst, hlisting⟩ := h.listed store
  obtain ⟨entries, hlists, hentries⟩ := lists_of_storeListing hlisting
  obtain ⟨answer, hanswer, hbindings⟩ := h.bound (needsSpace_of_store hfull)
  rw [hbindings] at hread
  have hconfirmed := (read_of_confirmed hread).2
  rw [hbindings]
  simp only [candidates, mem_map, mem_filter, isCandidate, Bool.and_eq_true, Bool.not_eq_true',
    decide_eq_true_eq]
  constructor
  · rintro ⟨⟨name, usage⟩, ⟨hmem, ⟨⟨⟨hcreated, hvalid⟩, hexcluded⟩, husage⟩, hunbound⟩, rfl⟩
    rw [hentries] at hmem
    obtain ⟨⟨id, entry⟩, hentry, heq⟩ := mem_map.mp hmem
    cases heq
    have hnot : id ≠ material.caCertId ∧ id ≠ material.entityCertId := by simpa using hexcluded
    refine ⟨hcreated, hvalid, hnot.1, hnot.2, ⟨entries, entry, ⟨first, hfirst, hlists⟩, hentry, ?_⟩, ?_⟩
    · exact (fromEntry_eq_none_iff entry).mp husage
    · intro source hsource hstore
      obtain ⟨ids, hids⟩ := hconfirmed source hsource hstore
      obtain ⟨hrecognized, hnames⟩ := read_eq_ok hids
      refine ⟨answer source, hanswer source hsource, hrecognized, fun hnamed => ?_⟩
      rw [← Bool.not_eq_true, isBound_recordAll] at hunbound
      have hmem := (hnames id (ne_empty_of_valid hvalid)).mpr hnamed
      exact hunbound (.inr ⟨source, hsource, hstore, ids, hids, hmem⟩)
  · intro heligible
    obtain ⟨listed, entry, ⟨other, hother, hlisted⟩, hmem, hunused⟩ := heligible.unused
    cases hfirst.symm.trans hother
    rw [hlisted.unique hlists] at hmem
    refine ⟨(id, ReportedUsage.fromEntry entry),
      ⟨?_, ⟨⟨⟨heligible.created, heligible.valid⟩, ?_⟩, ?_⟩, ?_⟩, rfl⟩
    · rw [hentries]
      exact mem_map.mpr ⟨(id, entry), hmem, rfl⟩
    · simpa using ⟨heligible.not_ca, heligible.not_entity⟩
    · exact (fromEntry_eq_none_iff entry).mpr hunused
    · rw [← Bool.not_eq_true, isBound_recordAll]
      rintro (hempty | ⟨source, hsource, hstore, ids, hids, hnamed⟩)
      · cases store <;> cases hempty
      · obtain ⟨found, hfound, -, hnot⟩ := heligible.unbound source hsource hstore
        cases (hanswer source hsource).symm.trans hfound
        exact hnot (((read_eq_ok hids).2 id (ne_empty_of_valid heligible.valid)).mp hnamed)

omit [LinearOrder τ] in
lemma reclaimKey_injective : Function.Injective (reclaimKey parseFromStr) := by
  intro a b h
  exact congrArg (fun key => (ofLex key).2) h

lemma nodup_candidates (inventory : StoreInventory) (bindings : StoreBindings) (excluded : List String) :
    (candidates inventory bindings excluded).Nodup :=
  inventory.nodup.sublist (filter_sublist.map _)

lemma planned_of_plan (h : Surveyed trace inventory bindings) {plan : StoreReclaimPlan}
    (hplan : planStoreReclaim parseFromStr store (inventory.store store) (bindings.store store)
      [material.caCertId, material.entityCertId] nvosCertificateStoreLimit = .ok plan) :
    plan.store = store ∧ Planned parseFromStr material trace store plan.deletions := by
  obtain ⟨first, hfirst, hlisting⟩ := h.listed store
  obtain ⟨entries, hlists, hentries⟩ := lists_of_storeListing hlisting
  have hlength : (inventory.store store).entries.length = entries.length := by rw [hentries, length_map]
  have hlisted : FirstListing trace store entries := ⟨first, hfirst, hlists⟩
  unfold planStoreReclaim at hplan
  simp only at hplan
  split_ifs at hplan with hroom hunread hfew
  · cases hplan
    exact ⟨rfl, ⟨entries, hlisted, by rw [length_nil, ← hlength, hroom]⟩, by simp,
      List.Pairwise.nil, by simp⟩
  · cases hplan
    have hfull : nvosCertificateStoreLimit ≤ (inventory.store store).entries.length := by omega
    have hread : (bindings.store store).unreadable = [] := by simpa using hunread
    have hiff := mem_candidates_iff material h hfull hread
    have hnodup :=
      nodup_candidates (inventory.store store) (bindings.store store)
        [material.caCertId, material.entityCertId]
    refine ⟨rfl, ⟨entries, hlisted, ?_⟩, ?_, ?_, ?_⟩
    · rw [length_leastBy (Nat.le_of_not_lt hfew), hlength]
    · exact fun id hmem => (hiff id).mp (mem_of_mem_leastBy hmem)
    · exact pairwise_leastBy (reclaimKey_injective parseFromStr) hnodup
    · exact fun id hmem other hother hnot =>
        lt_of_mem_leastBy (reclaimKey_injective parseFromStr) hnodup hmem ((hiff other).mpr hother) hnot

end Plans

/-! ### What the workflow sends -/

namespace Reclaim

/-- Whatever is answered, the program ends like this after the exchanges so far. -/
abbrev Ends {α : Type} (Post : SwitchTrace → Unit → α → Prop) (past : SwitchTrace)
    (x : Interaction Unit SwitchRequest SwitchAnswer α) : Prop :=
  Meets (fun _ _ _ => True) (fun _ _ _ => True) Post past x

def NoListing (trace : SwitchTrace) : Prop := ∀ store, answers (.listStore store) trace = []

lemma NoListing.append {first second : SwitchTrace} (hfirst : NoListing first)
    (hsecond : NoListing second) :
    NoListing (first ++ second) := by
  intro store
  rw [answers_append, hfirst store, hsecond store, append_nil]

section Ends

variable {past : SwitchTrace}

lemma readCertificateInventory_ends {Post : SwitchTrace → Unit →
    Except RmsError CertificateInventory → Prop}
    (herror : ∀ more error, deletions more = [] → Post (past ++ more) () (.error error))
    (hok : ∀ entity ca inventory, storeListing .entity entity.reply = .ok inventory.entity →
      storeListing .ca ca.reply = .ok inventory.ca →
      Post (past ++ [(.listStore .entity, entity), (.listStore .ca, ca)]) () (.ok inventory)) :
    Ends Post past (readCertificateInventory ()) := by
  refine Meets.bind ⟨trivial, fun entity _ => ?_⟩
  cases hentity : storeListing .entity entity.reply with
  | error error =>
    simp only [Meets, hentity]
    exact herror [(.listStore .entity, entity)] error rfl
  | ok listed =>
    simp only [Meets, hentity]
    refine Meets.bind ⟨trivial, fun ca _ => ?_⟩
    cases hca : storeListing .ca ca.reply with
    | error error =>
      simp only [Meets, hca, append_assoc]
      exact herror [(.listStore .entity, entity), (.listStore .ca, ca)] error rfl
    | ok other =>
      simp only [Meets, hca, append_assoc]
      exact hok entity ca ⟨listed, other⟩ hentity hca

lemma recordAll_congr {answer other : BindingSource → SwitchAnswer}
    (h : ∀ source ∈ sources, answer source = other source) (bindings : CertificateBindings) :
    recordAll answer sources bindings = recordAll other sources bindings := by
  induction sources generalizing bindings with
  | nil => rfl
  | cons source sources ih =>
    rw [forall_mem_cons] at h
    rw [recordAll, foldl_cons, h.1]
    exact ih h.2 _

lemma readBindings_ends (hnodup : sources.Nodup)
    {Post : SwitchTrace → Unit → CertificateBindings → Prop} (h : ∀ answer : BindingSource → SwitchAnswer,
      Post (past ++ sources.map (fun source => (.readBinding source, answer source))) ()
        (recordAll answer sources bindings)) :
    Ends Post past (readBindings sources bindings ()) := by
  induction sources generalizing past bindings with
  | nil =>
    have hend := h (fun _ => ⟨false, false, .noClient⟩)
    rwa [map_nil, append_nil] at hend
  | cons source sources ih =>
    rw [nodup_cons] at hnodup
    refine Meets.bind ⟨trivial, fun found _ => ih hnodup.2 fun answer => ?_⟩
    -- The answers to the other sources are not changed by the one to this source.
    have hother : ∀ other ∈ sources, Function.update answer source found other = answer other :=
      fun other hmem => Function.update_of_ne (ne_of_mem_of_not_mem hmem hnodup.1) found answer
    have hrest :
        sources.map (fun other =>
          (SwitchRequest.readBinding other, Function.update answer source found other)) =
        sources.map (fun other => (.readBinding other, answer other)) :=
      map_congr_left (fun other hmem => by rw [hother other hmem])
    have hfound := h (Function.update answer source found)
    rw [map_cons, hrest, Function.update_self, recordAll, foldl_cons, Function.update_self, ← recordAll,
      recordAll_congr hother] at hfound
    rwa [append_assoc]

variable {Post : SwitchTrace → Unit → Except RmsError Unit → Prop}

lemma waitForNvueAction_ends {actionId : String} {rounds : Nat} {last : Option RmsError}
    (h : ∀ more result, NoListing more → deletions more = [] → Post (past ++ more) () result) :
    Ends Post past (waitForNvueAction actionId rounds last ()) := by
  induction rounds generalizing past last with
  | zero =>
    have hend := h [] (.error (actionTimeout actionId last)) (fun _ => rfl) rfl
    rwa [append_nil] at hend
  | succ rounds ih =>
    refine Meets.bind ⟨trivial, fun clock _ => ?_⟩
    cases hclock : clock.inTime with
    | false =>
      simp only [Meets, hclock]
      exact h [(.beforeDeadline, clock)] _ (fun _ => rfl) rfl
    | true =>
      simp only [Meets, hclock]
      refine Meets.bind ⟨trivial, fun poll _ => ?_⟩
      have hmore : ∀ more result, NoListing more → deletions more = [] →
          Post (past ++ [(.beforeDeadline, clock)] ++ [(.actionState actionId, poll)] ++ more)
            () result := by
        intro more result hlisting hdeletions
        rw [append_assoc, append_assoc]
        exact h _ result
          (NoListing.append (fun _ => rfl) (NoListing.append (fun _ => rfl) hlisting)) hdeletions
      have hend := fun result => hmore [] result (fun _ => rfl) rfl
      simp only [append_nil] at hend
      simp only [Meets]
      cases (poll.reply.json "GET" s!"/nvue_v1/action/{actionId}").map NvueActionPoll.strict with
      | ok state =>
        cases state with
        | succeeded => exact hend _
        | failed state message => exact hend _
        | running => exact ih hmore
      | error error =>
        simp only
        split
        · exact ih hmore
        · exact hend _

lemma deleteCertificateEntry_ends {id : String} (herror : ∀ error, Post past () (.error error))
    (h : ∀ more result, NoListing more → deletions more = [(store, id)] → Post (past ++ more) () result) :
    Ends Post past (deleteCertificateEntry store id ()) := by
  unfold deleteCertificateEntry
  split
  · exact herror _
  · refine Meets.bind ⟨trivial, fun sent _ => ?_⟩
    have hmore : ∀ more result, NoListing more → deletions more = [] →
        Post (past ++ [(.deleteEntry store id, sent)] ++ more) () result := by
      intro more result hlisting hdeletions
      rw [append_assoc]
      refine h _ result (NoListing.append (fun _ => rfl) hlisting) ?_
      rw [deletions_append, hdeletions]
      rfl
    have hend := fun result => hmore [] result (fun _ => rfl) rfl
    simp only [append_nil] at hend
    simp only [Meets]
    cases sent.reply.result with
    | error error => exact hend _
    | ok response =>
      simp only
      split
      · exact hend _
      · split
        · cases extractJobId response.value with
          | none => exact hend _
          | some actionId => exact waitForNvueAction_ends hmore
        · exact hend _

lemma deleteEntries_ends {targets : List (CertificateStore × String)} {deleted : List Json}
    {Post : SwitchTrace → Unit → Except InstallFailure (List Json) → Prop}
    (h : ∀ more result, NoListing more → deletions more <+: targets →
      (∀ all, result = .ok all → all.length = deleted.length + targets.length) →
        Post (past ++ more) () result) :
    Ends Post past (deleteEntries targets deleted ()) := by
  induction targets generalizing past deleted with
  | nil =>
    have hend := h [] (.ok deleted) (fun _ => rfl) prefix_rfl (by simp)
    rwa [append_nil] at hend
  | cons target targets ih =>
    obtain ⟨store, id⟩ := target
    refine Meets.bind ⟨trivial, fun token _ => ?_⟩
    cases htoken : token.cancelled with
    | true =>
      simp only [Meets, htoken]
      exact h [(.isCancelled, token)] _ (fun _ => rfl) (List.nil_prefix) (by simp)
    | false =>
      simp only [Meets, htoken]
      refine Meets.bind (deleteCertificateEntry_ends ?_ ?_)
      · intro error
        exact h [(.isCancelled, token)] _ (fun _ => rfl) (List.nil_prefix) (by simp)
      · intro more result hlisting hdeletions
        have hfirst : NoListing ([(.isCancelled, token)] ++ more) :=
          NoListing.append (fun _ => rfl) hlisting
        have hdeleted : deletions ([(.isCancelled, token)] ++ more) = [(store, id)] := by
          rw [deletions_append, hdeletions]
          rfl
        rw [append_assoc]
        cases result with
        | error error =>
          refine h _ _ hfirst ?_ (by simp)
          rw [hdeleted]
          exact prefix_append [(store, id)] targets
        | ok _ =>
          apply ih
          intro rest result hrest hdone hall
          rw [append_assoc]
          refine h _ _ (hfirst.append hrest) ?_ ?_
          · rw [deletions_append, hdeleted]
            exact (prefix_append_right_inj [(store, id)]).mpr hdone
          · intro all heq
            rw [hall all heq, length_append, length_cons]
            simp only [length_cons, length_nil]
            omega

lemma neededBindings_ends {inventory : CertificateInventory}
    {Post : SwitchTrace → Unit → CertificateBindings → Prop}
    (hroom : inventory.needsSpace nvosCertificateStoreLimit = false → Post past () {})
    (hfull : ∀ answer : BindingSource → SwitchAnswer,
      Post (past ++ allBindingSources.map (fun source => (.readBinding source, answer source))) ()
        (recordAll answer allBindingSources {})) :
    Ends Post past (neededBindings inventory ()) := by
  unfold neededBindings
  split
  · exact readBindings_ends (by decide) hfull
  · rename_i hnone
    exact hroom (by simpa using hnone)

end Ends

section Workflow

variable {τ : Type} [LinearOrder τ] (parseFromStr : String → String → Option τ)
  (material : SwitchMtlsMaterial)

/-- What was deleted had been planned, and success means that there is room. -/
structure Sound (trace : SwitchTrace) (result : Except InstallFailure Json) : Prop where
  planned : deletions trace ≠ [] → ∀ store, ∃ ids, Planned parseFromStr material trace store ids ∧
    deletionsOf store trace <+: ids
  room : ∀ value, result = .ok value → ∀ store, ∃ entries, LastListing trace store entries ∧
    entries.length < nvosCertificateStoreLimit

variable {parseFromStr material} {past : SwitchTrace} {inventory : CertificateInventory}
  {bindings : CertificateBindings}
  {plans : List StoreReclaimPlan}

lemma Sound.of_error {failure : InstallFailure} (h : deletions past = []) :
    Sound parseFromStr material past (.error failure) where
  planned hne := absurd h hne
  room value hvalue := by cases hvalue

lemma planStores_eq_ok (h : planStores parseFromStr material inventory bindings = .ok plans) :
    ∃ plan : CertificateStore → StoreReclaimPlan, plans = CertificateStore.all.map plan ∧
      ∀ store, planStoreReclaim parseFromStr store (inventory.store store) (bindings.store store)
        [material.caCertId, material.entityCertId] nvosCertificateStoreLimit = .ok (plan store) := by
  simp only [planStores, CertificateStore.all, mapM_cons, mapM_nil] at h
  cases hentity : planStoreReclaim parseFromStr .entity (inventory.store .entity) (bindings.store .entity)
      [material.caCertId, material.entityCertId] nvosCertificateStoreLimit with
  | error error =>
    rw [hentity] at h
    cases h
  | ok entity =>
    cases hca : planStoreReclaim parseFromStr .ca (inventory.store .ca) (bindings.store .ca)
        [material.caCertId, material.entityCertId] nvosCertificateStoreLimit with
    | error error =>
      rw [hentity, hca] at h
      cases h
    | ok ca =>
      rw [hentity, hca] at h
      cases h
      refine ⟨fun store => CertificateStore.casesOn store entity ca, rfl, fun store => ?_⟩
      cases store with
      | entity => exact hentity
      | ca => exact hca

lemma targets_of_store {plan : CertificateStore → StoreReclaimPlan}
    (hplan : ∀ store, (plan store).store = store)
    (store : CertificateStore) :
    ((planTargets (CertificateStore.all.map plan)).filter (fun target => target.1 = store)).map Prod.snd =
      (plan store).deletions := by
  cases store <;> simp [planTargets, CertificateStore.all, hplan, filter_map, Function.comp_def]

lemma planned_of_targets (hsurveyed : Surveyed past inventory bindings) (hpast : deletions past = [])
    (hplans : planStores parseFromStr material inventory bindings = .ok plans) (more : SwitchTrace)
    (hmore : deletions more <+: planTargets plans) (store : CertificateStore) :
    ∃ ids, Planned parseFromStr material (past ++ more) store ids ∧
      deletionsOf store (past ++ more) <+: ids := by
  obtain ⟨plan, rfl, hplan⟩ := planStores_eq_ok hplans
  have hplanned := fun store => planned_of_plan parseFromStr material (hsurveyed.append more) (hplan store)
  refine ⟨(plan store).deletions, (hplanned store).2, ?_⟩
  rw [← targets_of_store (fun store => (hplanned store).1) store, deletionsOf, deletions_append,
    hpast, nil_append]
  exact (hmore.filter _).map _

lemma room_of_no_targets (hsurveyed : Surveyed past inventory bindings)
    (hplans : planStores parseFromStr material inventory bindings = .ok plans)
    (hnone : planTargets plans = [])
    (store : CertificateStore) :
    ∃ entries, FirstListing past store entries ∧ entries.length < nvosCertificateStoreLimit := by
  obtain ⟨plan, rfl, hplan⟩ := planStores_eq_ok hplans
  have hplanned := fun store => planned_of_plan parseFromStr material hsurveyed (hplan store)
  have hempty : (plan store).deletions = [] := by
    rw [← targets_of_store (fun store => (hplanned store).1) store, hnone]
    rfl
  obtain ⟨entries, hlisted, hlength⟩ := (hplanned store).2.required
  refine ⟨entries, hlisted, ?_⟩
  rw [hempty, length_nil] at hlength
  omega

lemma lastListing_of_room {trace : SwitchTrace} {answer : SwitchAnswer} {listed : StoreInventory}
    (hlast : (answers (.listStore store) trace).getLast? = some answer)
    (hlisting : storeListing store answer.reply = .ok listed)
    (hroom : listed.entries.length < nvosCertificateStoreLimit) :
    ∃ entries, LastListing trace store entries ∧ entries.length < nvosCertificateStoreLimit := by
  obtain ⟨entries, hlists, hentries⟩ := lists_of_storeListing hlisting
  rw [hentries, length_map] at hroom
  exact ⟨entries, ⟨answer, hlast, hlists⟩, hroom⟩

lemma verifyRoom_ends {deleted : List Json} (hplanned : ∀ more, deletions more = [] →
      ∀ store, ∃ ids, Planned parseFromStr material (past ++ more) store ids ∧
      deletionsOf store (past ++ more) <+: ids) :
    Ends (fun trace _ result => Sound parseFromStr material trace result) past
      (verifyRoom plans deleted ()) := by
  refine Meets.bind (readCertificateInventory_ends ?_ ?_)
  · intro more error hmore
    exact ⟨fun _ => hplanned more hmore, fun value hvalue => by cases hvalue⟩
  · intro entity ca after hentity hca
    have hfirst := hplanned [(.listStore .entity, entity), (.listStore .ca, ca)] rfl
    cases hfind :
      CertificateStore.all.find? (fun store =>
        (after.store store).needsSpace nvosCertificateStoreLimit) with
    | some store =>
      simp only [hfind]
      exact ⟨fun _ => hfirst, fun value hvalue => by cases hvalue⟩
    | none =>
      simp only [hfind]
      refine ⟨fun _ => hfirst, fun value _ store => ?_⟩
      have hroom := find?_eq_none.mp hfind store (by cases store <;> decide)
      rw [StoreInventory.needsSpace, decide_eq_true_eq, Nat.not_le] at hroom
      cases store with
      | entity => exact lastListing_of_room (by rw [answers_append]; exact getLast?_concat) hentity hroom
      | ca => exact lastListing_of_room (by rw [answers_append]; exact getLast?_concat) hca hroom

lemma deletePlanned_ends (hsurveyed : Surveyed past inventory bindings) (hpast : deletions past = [])
    (honce : ∀ store, ∃ answer, answers (.listStore store) past = [answer])
    (hplans : planStores parseFromStr material inventory bindings = .ok plans) :
    Ends (fun trace _ result => Sound parseFromStr material trace result) past
      (deletePlanned plans ()) := by
  refine Meets.bind (deleteEntries_ends ?_)
  intro more result hlisting hmore hall
  have hplanned := planned_of_targets hsurveyed hpast hplans
  cases result with
  | error failure => exact ⟨fun _ => hplanned more hmore, fun value hvalue => by cases hvalue⟩
  | ok deleted =>
    cases deleted with
    | nil =>
      have hnone : planTargets plans = [] := by simpa using (hall [] rfl).symm
      refine ⟨fun _ => hplanned more hmore, fun value _ store => ?_⟩
      obtain ⟨entries, ⟨first, hfirst, hlists⟩, hroom⟩ := room_of_no_targets hsurveyed hplans hnone store
      obtain ⟨answer, hanswer⟩ := honce store
      rw [hanswer, head?_cons] at hfirst
      cases hfirst
      refine ⟨entries, ⟨_, ?_, hlists⟩, hroom⟩
      rw [answers_append, hanswer, hlisting store]
      rfl
    | cons first rest =>
      apply verifyRoom_ends
      intro listed hlisted
      rw [append_assoc]
      apply hplanned
      rwa [deletions_append, hlisted, append_nil]

lemma planning_ends (hsurveyed : Surveyed past inventory bindings) (hpast : deletions past = [])
    (honce : ∀ store, ∃ answer, answers (.listStore store) past = [answer]) :
    Ends (fun trace _ result => Sound parseFromStr material trace result) past
      ((match planStores parseFromStr material inventory bindings with
        | .error error => pure (.error (fail error []))
        | .ok plans => deletePlanned plans : SwitchProgram (Except InstallFailure Json)) ()) := by
  cases hplans : planStores parseFromStr material inventory bindings with
  | error error => exact Sound.of_error hpast
  | ok plans => exact deletePlanned_ends hsurveyed hpast honce hplans

lemma reclaim_ends : Ends (fun trace _ result => Sound parseFromStr material trace result) []
      (reclaimCertificateStoreCapacity parseFromStr material ()) := by
  refine Meets.bind ⟨trivial, fun token _ => ?_⟩
  cases htoken : token.cancelled with
  | true =>
    simp only [Meets, htoken]
    exact .of_error rfl
  | false =>
    simp only [Meets, htoken]
    refine Meets.bind (readCertificateInventory_ends ?_ ?_)
    · intro more error hmore
      exact .of_error (by rw [deletions_append, hmore]; rfl)
    · intro entity ca inventory hentity hca
      let listed : SwitchTrace :=
        [(.isCancelled, token), (.listStore .entity, entity), (.listStore .ca, ca)]
      have hlisted : ∀ store, ∃ answer, answers (.listStore store) listed = [answer] ∧
          storeListing store answer.reply = .ok (inventory.store store) := by
        intro store
        cases store with
        | entity => exact ⟨entity, rfl, hentity⟩
        | ca => exact ⟨ca, rfl, hca⟩
      have hpast : deletions listed = [] := rfl
      have honce : ∀ store, ∃ answer, answers (.listStore store) listed = [answer] :=
        fun store => (hlisted store).imp (fun _ h => h.1)
      refine Meets.bind (neededBindings_ends ?_ ?_)
      · intro hroom
        exact planning_ends (.of_room hlisted hroom {}) hpast honce
      · intro answer
        apply planning_ends (.of_reads hlisted (fun _ => rfl) answer)
        · rw [deletions_append, deletions_reads, append_nil]
          exact hpast
        · intro store
          rw [answers_append, answers_listStore_reads, append_nil]
          exact honce store

end Workflow

end Reclaim

/-- Whatever the switch answers: entries are deleted only from a full store, if proven unused and
the oldest, after both stores were planned; success means that the last listings show room. -/
theorem reclaim_deletes_only_proven_unused {τ : Type} [LinearOrder τ]
    (parseFromStr : String → String → Option τ)
    (material : SwitchMtlsMaterial) (env : SwitchTrace → SwitchRequest → SwitchAnswer) :
    let outcome := play env [] (Reclaim.reclaimCertificateStoreCapacity parseFromStr material ())
    (∀ store id, (store, id) ∈ deletions outcome.1 → Eligible material outcome.1 store id ∧
        ∃ entries, FirstListing outcome.1 store entries ∧ nvosCertificateStoreLimit ≤ entries.length) ∧
      (deletions outcome.1 ≠ [] → ∀ store, ∃ ids, Planned parseFromStr material outcome.1 store ids ∧
        deletionsOf store outcome.1 <+: ids) ∧
      ∀ value, outcome.2.2 = .ok value → ∀ store, ∃ entries, LastListing outcome.1 store entries ∧
        entries.length < nvosCertificateStoreLimit := by
  intro outcome
  have hsound : Reclaim.Sound parseFromStr material outcome.1 outcome.2.2 :=
    Meets.play Reclaim.reclaim_ends (fun _ _ _ => trivial)
  refine ⟨fun store id hmem => ?_, hsound.planned, hsound.room⟩
  obtain ⟨ids, hplanned, hdeleted⟩ := hsound.planned (ne_nil_of_mem hmem) store
  have hid : id ∈ ids := by
    apply hdeleted.subset
    exact mem_map.mpr ⟨(store, id), mem_filter.mpr ⟨hmem, by simp⟩, rfl⟩
  obtain ⟨entries, hlisted, hlength⟩ := hplanned.required
  have hpos := length_pos_of_mem hid
  exact ⟨hplanned.eligible id hid, entries, hlisted, by omega⟩

/-- Both stores list 25 entries, of which the first entity certificate is used; deletions take effect at once. -/
def fullSwitch (past : SwitchTrace) (q : SwitchRequest) : SwitchAnswer :=
  let document (fields : List (String × Json)) : NvueReply :=
    .received ⟨200, .object fields, "body", "", none⟩
  let notFound : NvueReply := .received ⟨404, .null, "", "", none⟩
  let ids := (range 25).map (fun n => s!"rms-{n}")
  ⟨false, true,
    match q with
    | .listStore store =>
      document ((ids.filter (fun id => id ∉ deletionsOf store past)).map (fun id => (id, .null)))
    | .readBinding source =>
      if source.absentWhenNotFound then notFound else document [("certificate", .string "rms-0")]
    | _ => notFound⟩

example : deletions (play fullSwitch []
    (Reclaim.reclaimCertificateStoreCapacity (fun _ _ => (none : Option Nat))
      ⟨"rms-new-ca", "rms-new"⟩ ())).1 =
      [(.entity, "rms-1"), (.ca, "rms-0")] := by
  decide +kernel

end RackManagement
