import Mathlib.Init

/-!
# Errors

The error type of `utilities/error.rs`: a code and a message.
-/

namespace RackManagement

inductive ErrorCode
  | internal | notFound | alreadyExists | invalidArgument | timeout | failedPrecondition
  | unauthenticated | unavailable | cancelled | unimplemented | connectionRefused
  | dnsResolutionFailed | aborted
deriving DecidableEq

structure RmsError where
  code : ErrorCode
  message : String
deriving DecidableEq

namespace RmsError

variable (message : String)

def internal : RmsError := ⟨.internal, message⟩

def alreadyExists : RmsError := ⟨.alreadyExists, message⟩

def invalidArgument : RmsError := ⟨.invalidArgument, message⟩

def timeout : RmsError := ⟨.timeout, message⟩

def failedPrecondition : RmsError := ⟨.failedPrecondition, message⟩

def cancelled : RmsError := ⟨.cancelled, message⟩

end RmsError

end RackManagement
