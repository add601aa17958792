import RackManagement.Library.Fallible
import RackManagement.Model.ArtifactDownload

/-! # Requests for artifacts -/

namespace RackManagement.ArtifactDownload

open Library

variable {lib : UrlLibrary} {policy : ArtifactDownloadPolicy} {method : Method} {origin current : Url}
  {auth : ArtifactHttpAuth} {deadline : Instant} {clock : Nat → Instant}

/-- The policy accepts the URL, and the token stays on the HTTPS origin of the location. -/
structure Confined (lib : UrlLibrary) (policy : ArtifactDownloadPolicy) (origin : Url)
    (request : HttpRequest) : Prop where
  accepted : validateArtifactHttpUrl lib request.url policy = .ok ()
  tokenKept : request.apiKey ≠ none → request.url.scheme = "https" ∧ request.url.SameOrigin origin

lemma url_applyArtifactHttpAuth (request : HttpRequest) (auth : ArtifactHttpAuth) :
    (applyArtifactHttpAuth request auth).url = request.url := by
  cases auth <;> rfl

lemma auth_ne_none_of_apiKey {request : HttpRequest} (hbare : request.apiKey = none)
    (h : (applyArtifactHttpAuth request auth).apiKey ≠ none) : auth ≠ .none := by
  intro hnone
  rw [hnone] at h
  exact h hbare

lemma confined_of_hopPermitted {request : HttpRequest} (hbare : request.apiKey = none)
    (hurl : request.url = current) (hpermitted : hopPermitted origin current auth = true)
    (haccepted : validateArtifactHttpUrl lib current policy = .ok ()) :
    Confined lib policy origin (applyArtifactHttpAuth request auth) := by
  rw [hopPermitted, decide_eq_true_iff] at hpermitted
  constructor
  · rw [url_applyArtifactHttpAuth, hurl]
    exact haccepted
  · intro hkey
    rw [url_applyArtifactHttpAuth, hurl]
    exact hpermitted.2.resolve_left (auth_ne_none_of_apiKey hbare hkey)

abbrev LoopMeets (lib : UrlLibrary) (policy : ArtifactDownloadPolicy) (origin : Url)
    (past : List (HttpRequest × HttpReply))
    (loop : Interaction Unit HttpRequest HttpReply SendOutcome) : Prop :=
  loop.Meets (fun _ _ _ => True) (fun _ _ request => Confined lib policy origin request)
    (fun past _ outcome => past.length ≤ maxArtifactRedirects + 1 ∧ outcome ≠ .unreachable) past

variable {past : List (HttpRequest × HttpReply)}

lemma meets_hop {hop : Nat} {later : List Nat}
    (hpast : past.length ≤ maxArtifactRedirects) (hlater : ∀ exchange target, hop ≠ maxArtifactRedirects →
      LoopMeets lib policy origin (past ++ [exchange])
        (followRedirects lib policy method origin auth deadline clock later target)) :
    LoopMeets lib policy origin past
      (followRedirects lib policy method origin auth deadline clock (hop :: later) current) := by
  have hended : ∀ exchange, (past ++ [exchange]).length ≤ maxArtifactRedirects + 1 := by
    intro exchange
    rw [List.length_append, List.length_singleton]
    omega
  rw [followRedirects]
  split
  · exact ⟨by omega, by simp⟩
  · rename_i hpermitted
    rw [Bool.not_eq_true, Bool.not_eq_false'] at hpermitted
    split
    · exact ⟨by omega, by simp⟩
    · rename_i haccepted
      refine ⟨confined_of_hopPermitted rfl rfl hpermitted haccepted, fun reply _ => ?_⟩
      cases reply with
      | failed error => exact ⟨hended _, by simp⟩
      | response response =>
        dsimp only
        split
        · exact ⟨hended _, by simp⟩
        · split
          · exact ⟨hended _, by simp⟩
          · split
            · exact ⟨hended _, by simp⟩
            · rename_i hmore
              split
              · exact ⟨hended _, by simp⟩
              · exact hlater _ _ hmore

/-- Hop `k` follows `k` exchanges, and the last hop follows no redirect, so the loop does not run
out of hops. -/
lemma meets_followRedirects (remaining : Nat) {hop : Nat} (hhop : hop + remaining = maxArtifactRedirects)
    (hpast : past.length = hop) (current : Url) :
    LoopMeets lib policy origin past
      (followRedirects lib policy method origin auth deadline clock
        (List.range' hop (remaining + 1)) current) := by
  induction remaining generalizing hop past current with
  | zero =>
    apply meets_hop (by omega)
    intro exchange target hmore
    omega
  | succ remaining ih =>
    apply meets_hop (by omega)
    intro exchange target _
    have hlength : (past ++ [exchange]).length = hop + 1 := by
      rw [List.length_append, hpast, List.length_singleton]
    exact ih (by omega) hlength target

variable {url location : String} {accessToken : Option String}

lemma meets_sendArtifactRequest (hparse : lib.parse url = .ok origin) :
    LoopMeets lib policy origin [] (sendArtifactRequest lib policy method url auth deadline clock) := by
  rw [sendArtifactRequest, hparse]
  dsimp only
  rw [List.range_eq_range']
  exact meets_followRedirects maxArtifactRedirects (Nat.zero_add _) rfl origin

lemma sourceOfLocation_http {kind : ArtifactLocationKind}
    (h : sourceOfLocation lib location kind accessToken = .ok (.http url auth)) :
    url = location ∧ ∃ origin, lib.parse location = .ok origin := by
  unfold sourceOfLocation at h
  split at h
  · rename_i origin hparse
    refine ⟨?_, origin, hparse⟩
    split at h
    · cases h
    · split at h
      · cases h
        rfl
      · split at h
        · split at h <;> cases h
        · cases h
  · split at h <;> cases h

lemma resolved_http {locationType : String}
    (h : resolveArtifactDownloadWithPolicy lib location locationType accessToken policy =
      .ok (.http url auth)) :
    url = location ∧ ∃ origin, lib.parse location = .ok origin := by
  rw [resolveArtifactDownloadWithPolicy] at h
  obtain ⟨kind, -, h⟩ := bind_eq_ok.mp h
  obtain ⟨source, hsource, h⟩ := bind_eq_ok.mp h
  obtain ⟨_, -, h⟩ := bind_eq_ok.mp h
  cases h
  exact sourceOfLocation_http hsource

lemma meets_resolveAndSend {locationType : String}
    {download : Interaction Unit HttpRequest HttpReply DownloadOutcome}
    (h : resolveAndSend lib policy method location locationType accessToken deadline clock = download) :
    download.Meets (fun _ _ _ => True)
      (fun _ _ request => ∃ origin, lib.parse location = .ok origin ∧ Confined lib policy origin request)
      (fun past _ outcome => past.length ≤ maxArtifactRedirects + 1 ∧ outcome ≠ .sent .unreachable) [] := by
  rw [← h]
  unfold resolveAndSend
  split
  · exact ⟨Nat.zero_le _, by simp⟩
  · exact ⟨Nat.zero_le _, by simp⟩
  · rename_i url auth hresolved
    obtain ⟨rfl, origin, hparse⟩ := resolved_http hresolved
    apply Interaction.Meets.bind
    apply (meets_sendArtifactRequest hparse).mono
    · intro past _ request hconfined
      exact ⟨origin, hparse, hconfined⟩
    · rintro past _ outcome ⟨hlength, houtcome⟩
      exact ⟨hlength, fun h => houtcome (DownloadOutcome.sent.inj h)⟩

/-- Every request goes to a URL that the policy accepts and carries the token only over HTTPS to the
origin of the location; there are at most eleven requests. -/
theorem artifact_requests_confined (lib : UrlLibrary) (policy : ArtifactDownloadPolicy) (method : Method)
    (location locationType : String) (accessToken : Option String) (deadline : Instant)
    (clock : Nat → Instant)
    (server : List (HttpRequest × HttpReply) → HttpRequest → HttpReply) :
    let sent := Interaction.play server []
      (resolveAndSend lib policy method location locationType accessToken deadline clock)
    (∀ exchange ∈ sent.1,
        validateArtifactHttpUrl lib exchange.1.url policy = .ok () ∧
          (exchange.1.apiKey ≠ none →
            exchange.1.url.scheme = "https" ∧
              ∃ original, lib.parse location = .ok original ∧ exchange.1.url.SameOrigin original)) ∧
      sent.1.length ≤ 11 ∧ sent.2.2 ≠ .sent .unreachable := by
  generalize hdownload :
    resolveAndSend lib policy method location locationType accessToken deadline clock = download
  have hmeets := meets_resolveAndSend hdownload
  have hevery :=
    hmeets.requests (fun _ _ _ hrequest => hrequest) (fun _ hnone => absurd hnone List.not_mem_nil)
  have hend := @Interaction.Meets.play _ _ _ server _ _ _ _ _ _ hevery (fun _ _ _ => trivial)
  obtain ⟨⟨hlength, houtcome⟩, hconfined⟩ := hend
  refine ⟨?_, hlength, houtcome⟩
  intro exchange hexchange
  obtain ⟨original, hparse, hrequest⟩ := hconfined exchange hexchange
  refine ⟨hrequest.accepted, fun hkey => ?_⟩
  obtain ⟨hscheme, horigin⟩ := hrequest.tokenKept hkey
  exact ⟨hscheme, original, hparse, horigin⟩

end RackManagement.ArtifactDownload
