import RackManagement.Library.IpAddr

/-!
# URLs

Parsed URLs and their origins. The parser is a parameter.
-/

namespace RackManagement.Library

/-- The parts as they are written; a port that is the default of the scheme is absent. -/
structure Url where
  scheme : String
  username : String
  password : Option String
  host : Option String
  port : Option Nat
  path : String
  query : Option String
  fragment : Option String
deriving DecidableEq

inductive Host
  | domain (name : String)
  | ipv4 (addr : Ipv4Addr)
  | ipv6 (addr : Ipv6Addr)

structure Origin where
  scheme : String
  host : String
  port : Nat
deriving DecidableEq

namespace Url

def defaultPort (scheme : String) : Option Nat :=
  if scheme = "http" ∨ scheme = "ws" then some 80
  else if scheme = "https" ∨ scheme = "wss" then some 443
  else if scheme = "ftp" then some 21
  else none

def portOrKnownDefault (url : Url) : Option Nat := url.port <|> defaultPort url.scheme

/-- The origin of a URL whose scheme has one. The origin of any other URL is opaque. -/
def origin (url : Url) : Option Origin := do
  let _ ← defaultPort url.scheme
  let host ← url.host
  let port ← url.portOrKnownDefault
  some ⟨url.scheme, host, port⟩

/-- An opaque origin is not even the same as itself: each reading of it gives a new one. -/
def SameOrigin (a b : Url) : Prop := ∃ o, a.origin = some o ∧ b.origin = some o

instance (a b : Url) : Decidable (SameOrigin a b) :=
  inferInstanceAs (Decidable (∃ o, o ∈ a.origin ∧ b.origin = some o))

end Url

abbrev ParseError := String

structure UrlLibrary where
  parse : String → Except ParseError Url
  join : Url → String → Option Url
  asStr : Url → String
  toFilePath : Url → Option String
  parseHost : String → Option Host

end RackManagement.Library
