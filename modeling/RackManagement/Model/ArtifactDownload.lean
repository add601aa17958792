import Mathlib.Data.List.Infix
import RackManagement.Library.Interaction
import RackManagement.Library.Url
import RackManagement.Model.JobState
import RackManagement.Model.SpecialPurposeIp

/-!
# Artifact downloads

Where artifacts are fetched from, with which credentials and over which redirects:
`artifact_download.rs` and `artifact_download_policy.rs`. Retries and bodies are left out.
-/

namespace RackManagement

open Library

structure ArtifactDownloadPolicy where
  allowedHosts : List String := []
  allowPrivateTargets : Bool := true

/-- Whether it was a timeout or may pass, the texts of its causes and its own text. -/
structure RequestError where
  isTimeout : Bool
  retryable : Bool
  chain : String
  text : String

inductive ArtifactError
  | invalidArgument (message : String)
  | redirectPolicy (message : String)
  | transport (code : JobError) (context : String) (source : RequestError)
  | context (context : String) (source : ArtifactError)

namespace ArtifactError

def toString : ArtifactError → String
  | invalidArgument message => message
  | redirectPolicy message => message
  | transport _ about source => s!"{about}: {source.text}"
  | context about source => s!"{about}: {source.toString}"

def fromRequestError (source : RequestError) : ArtifactError :=
  let code := if source.isTimeout then .timeout else if source.retryable then .serverError else .clientError
  .transport code s!"artifact transport failed: {source.chain}" source

def ofTransport (context : String) (source : RequestError) : ArtifactError :=
  .context context (fromRequestError source)

end ArtifactError

inductive ArtifactLocationKind
  | httpFileServer | artifactory | file
deriving DecidableEq

inductive ArtifactHttpAuth
  | none
  | artifactoryApiKey (token : String)
deriving DecidableEq

inductive ArtifactDownloadSource
  | http (url : String) (auth : ArtifactHttpAuth)
  | file (path : String)

namespace ArtifactDownload

variable (lib : UrlLibrary)

def redactLocationForLogging (location : String) : String :=
  match lib.parse location with
  | .error _ => String.ofList (location.toList.takeWhile (fun c => c != '?' && c != '#'))
  | .ok url => lib.asStr { url with username := "", password := none, query := none, fragment := none }

variable (host : String)

def canonicalHost : Option String :=
  (lib.parseHost host).map fun
    | .domain domain => trimEndMatches '.' domain
    | .ipv4 ip => (IpAddr.v4 ip).toString
    | .ipv6 ip => (IpAddr.v6 ip).toString

def normalizeHost : String :=
  let host := trim host
  (canonicalHost lib host).getD (toAsciiLowercase (trimEndMatches '.' host))

def hostMatches (host pattern : String) : Bool :=
  match stripStart "*." pattern with
  | some suffix => host == suffix || ("." ++ suffix).toList.isSuffixOf host.toList
  | none => host == pattern

def hostAllowed (allowedHosts : List String) : Bool :=
  allowedHosts.isEmpty || allowedHosts.any (hostMatches (normalizeHost lib host))

def stripBrackets : Option String :=
  match host.toList with
  | '[' :: rest => if rest.getLast? = some ']' then some (String.ofList rest.dropLast) else none
  | _ => none

def parseArtifactIpLiteral : Option IpAddr :=
  IpAddr.parse ((stripBrackets host).getD host)

def disallowedAddressError : ArtifactError :=
  .invalidArgument s!"firmware artifact host '{host}' resolves to a disallowed address"

def validateArtifactHttpUrl (url : Url) (policy : ArtifactDownloadPolicy) : Except ArtifactError Unit :=
  if url.scheme ≠ "http" ∧ url.scheme ≠ "https" then
    .error (.invalidArgument
      s!"firmware artifact redirect or URL must use http or https, not '{url.scheme}'")
  else
    match url.host.filter (fun host => !host.isEmpty) with
    | none =>
      .error (.invalidArgument
        s!"firmware artifact URL is missing a host: {redactLocationForLogging lib (lib.asStr url)}")
    | some host =>
      if !hostAllowed lib host policy.allowedHosts then
        .error (.invalidArgument s!"firmware artifact host '{host}' is not on the artifact host allow-list")
      else if policy.allowPrivateTargets then .ok ()
      else
        match parseArtifactIpLiteral host with
        | some ip =>
          if isSpecialPurposeIp ip .disallowed then .error (disallowedAddressError host) else .ok ()
        | none => .ok ()

def artifactLocationKind (locationType : String) : Except String ArtifactLocationKind :=
  let name := toAsciiLowercase (trim locationType)
  if name = "artifactory" ∨ name = "jfrog" then .ok .artifactory
  else if name = "file" then .ok .file
  else if name = "http" ∨ name = "https" then .ok .httpFileServer
  else .error s!"unsupported firmware artifact LocationType '{locationType}'"

def validateLocationTypeMatchesSource (locationType : String) (kind : ArtifactLocationKind)
    (source : ArtifactDownloadSource) : Except String Unit :=
  match kind, source with
  | .file, .file _ => .ok ()
  | .artifactory, .http _ _ | .httpFileServer, .http _ _ => .ok ()
  | .file, .http _ _ =>
    .error s!"LocationType '{locationType}' requires a local file path, not an HTTP(S) URL"
  | .artifactory, .file _ | .httpFileServer, .file _ =>
    .error s!"LocationType '{locationType}' requires an HTTP(S) URL, not a local file path"

def optionalAccessToken (accessToken : Option String) : Option String :=
  accessToken.filter (fun token => !(trim token).isEmpty)

def httpAuthForLocation (kind : ArtifactLocationKind) (accessToken : Option String) : ArtifactHttpAuth :=
  match kind with
  | .artifactory => (accessToken.map .artifactoryApiKey).getD .none
  | .httpFileServer | .file => .none

def sourceOfLocation (location : String) (kind : ArtifactLocationKind) (accessToken : Option String) :
    Except String ArtifactDownloadSource :=
  match lib.parse location with
  | .ok url =>
    if url.scheme = "http" ∧ kind = .artifactory ∧ accessToken.isSome then
      .error "authenticated Artifactory downloads require HTTPS"
    else if url.scheme = "http" ∨ url.scheme = "https" then
      .ok (.http location (httpAuthForLocation kind accessToken))
    else if url.scheme = "file" then
      match lib.toFilePath url with
      | some path => .ok (.file path)
      | none =>
        .error s!"file artifact location must be a valid file URL: {redactLocationForLogging lib location}"
    else
      .error
        s!"unsupported firmware artifact location scheme '{url.scheme}': {redactLocationForLogging lib location}"
  | .error _ =>
    if kind = .file ∨ ¬"://".toList <:+: location.toList then .ok (.file location)
    else .error "invalid firmware artifact location URL"

/-- The policy is passed and not read: the requests apply it. -/
def resolveArtifactDownloadWithPolicy (location locationType : String) (accessToken : Option String)
    (_policy : ArtifactDownloadPolicy) : Except String ArtifactDownloadSource := do
  let accessToken := optionalAccessToken accessToken
  let kind ← artifactLocationKind locationType
  let source ← sourceOfLocation lib location kind accessToken
  validateLocationTypeMatchesSource locationType kind source
  pure source

inductive Method
  | get | head
deriving DecidableEq

/-- A request that is sent: `apiKey` is its `X-JFrog-Art-Api` header. -/
structure HttpRequest where
  method : Method
  url : Url
  timeout : Duration
  apiKey : Option String := none

inductive HeaderValue
  | text (value : String)
  | notText

structure HttpResponse where
  status : Nat
  location : Option HeaderValue

inductive HttpReply
  | failed (error : RequestError)
  | response (response : HttpResponse)

def applyArtifactHttpAuth (request : HttpRequest) : ArtifactHttpAuth → HttpRequest
  | .none => request
  | .artifactoryApiKey token => { request with apiKey := some token }

inductive SendOutcome
  | returned (result : Except ArtifactError HttpResponse)
  | unreachable

def maxArtifactRedirects : Nat := 10

/-- Whether the current hop is one to which a request with these credentials may go. -/
def hopPermitted (origin current : Url) (auth : ArtifactHttpAuth) : Bool :=
  (current.scheme = "http" ∨ current.scheme = "https") ∧
    (auth = .none ∨ (current.scheme = "https" ∧ current.SameOrigin origin))

def redirectTarget (current : Url) : HeaderValue → Option Url
  | .text location => lib.join current location
  | .notText => none

def isRedirect (status : Nat) : Bool := status ∈ [301, 302, 303, 307, 308]

/-- The loop over the hops. The clock gives the time at each of them. -/
def followRedirects (policy : ArtifactDownloadPolicy) (method : Method) (origin : Url)
    (auth : ArtifactHttpAuth)
    (deadline : Instant) (clock : Nat → Instant) :
    List Nat → Url → Interaction Unit HttpRequest HttpReply SendOutcome
  | [], _ => .done () .unreachable
  | redirects :: later, current =>
    if !hopPermitted origin current auth then
      .done () (.returned (.error (.redirectPolicy
        "authenticated artifact requests and redirects require the original HTTPS origin")))
    else
      match validateArtifactHttpUrl lib current policy with
      | .error error =>
        .done () (.returned (.error (if redirects = 0 then error else .redirectPolicy error.toString)))
      | .ok () =>
        let request : HttpRequest := { method, url := current, timeout := deadline - clock redirects }
        .wait () (applyArtifactHttpAuth request auth) fun
          | .failed error =>
            .done () (.returned (.error (.ofTransport
              s!"artifact request failed for {redactLocationForLogging lib (lib.asStr current)}" error)))
          | .response response =>
            if !isRedirect response.status then .done () (.returned (.ok response))
            else
              match response.location with
              | none => .done () (.returned (.ok response))
              | some location =>
                if redirects = maxArtifactRedirects then
                  .done () (.returned (.error (.redirectPolicy "artifact redirect limit exceeded")))
                else
                  match redirectTarget lib current location with
                  | none => .done ()
                    (.returned (.error (.redirectPolicy "invalid artifact redirect location")))
                  | some target =>
                    followRedirects policy method origin auth deadline clock later target

def sendArtifactRequest (policy : ArtifactDownloadPolicy) (method : Method) (url : String)
    (auth : ArtifactHttpAuth)
    (deadline : Instant) (clock : Nat → Instant) : Interaction Unit HttpRequest HttpReply SendOutcome :=
  match lib.parse url with
  | .error _ => .done () (.returned (.error (.invalidArgument "invalid artifact URL")))
  | .ok origin =>
    followRedirects lib policy method origin auth deadline clock
      (List.range (maxArtifactRedirects + 1)) origin

/-- What a download comes to: the location is refused or is a file, or a request is sent for it. -/
inductive DownloadOutcome
  | refused (error : ArtifactError)
  | file (path : String)
  | sent (outcome : SendOutcome)

def resolveAndSend (policy : ArtifactDownloadPolicy) (method : Method) (location locationType : String)
    (accessToken : Option String) (deadline : Instant) (clock : Nat → Instant) :
    Interaction Unit HttpRequest HttpReply DownloadOutcome :=
  match resolveArtifactDownloadWithPolicy lib location locationType accessToken policy with
  | .error message => .done () (.refused (.invalidArgument message))
  | .ok (.file path) => .done () (.file path)
  | .ok (.http url auth) =>
    (sendArtifactRequest lib policy method url auth deadline clock).bind (fun outcome _ =>
      .done () (.sent outcome))

end ArtifactDownload

end RackManagement
