import RackManagement.Library.Url
import Mathlib.Data.List.Infix

/-!
# Endpoints on the origin of a device

`common/src/net.rs`: an endpoint that a device supplies is resolved only if it stays on the origin
of the device.
-/

namespace RackManagement

open Library

inductive EndpointRejection
  | unparseableBase (error : ParseError)
  | offOriginOrMalformed
deriving DecidableEq

namespace SameOrigin

def isDoubleDotSegment (segment : List Char) : Bool :=
  ["..".toList, ".%2e".toList, "%2e.".toList, "%2e%2e".toList].contains (segment.map Char.toLower)

def hasEncodedPathSeparator (endpoint : List Char) : Bool :=
  let path := (endpoint.takeWhile (fun c => !(c == '?' || c == '#'))).map Char.toLower
  "%2f".toList <:+: path ∨ "%5c".toList <:+: path

def hasTraversalSegment (endpoint : List Char) : Bool :=
  (endpoint.splitOnP (fun c => c == '/' || c == '\\')).any isDoubleDotSegment

def withinAllowedTree (requiredPrefix : Option String) (url : Url) : Bool :=
  match requiredPrefix with
  | some required => url.path == required || (stripStart required url.path).any (startsWith "/")
  | none => true

def resolveSameOrigin (lib : UrlLibrary) (baseUrl endpoint : String) (requiredPrefix : Option String) :
    Except EndpointRejection Url :=
  match lib.parse baseUrl with
  | .error error => .error (.unparseableBase error)
  | .ok base =>
    match (lib.join base endpoint).filter (fun resolved => resolved.SameOrigin base) with
    | some url =>
      if startsWith "/" endpoint && !hasTraversalSegment endpoint.toList &&
        !hasEncodedPathSeparator endpoint.toList &&
          withinAllowedTree requiredPrefix url then .ok url
      else .error .offOriginOrMalformed
    | none => .error .offOriginOrMalformed

end SameOrigin

end RackManagement
