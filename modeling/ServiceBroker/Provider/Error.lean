/-
# Failures of a provider

Why a call to a provider fails, the text of each cause and whether trying again may
help.
-/

import ServiceBroker.Time.Duration

namespace ServiceBroker

/-- Why a call to a provider fails. -/
inductive ProviderError where
  | notFound (what : String)
  /-- Several appliances have one name. -/
  | ambiguous (name : String)
  /-- The provider answers with an error. -/
  | api (status : UInt16) (text : String)
  /-- No answer comes back. -/
  | http
  /-- The answer is not of the expected form; the detail is told where there is one. -/
  | decode (detail : Option String)
  /-- A wait has run out. -/
  | timeout (after : Duration) (what : String)
  | internal (text : String)
deriving DecidableEq, Repr

namespace ProviderError

/-- The call may succeed when it is made again. -/
def isTransient : ProviderError → Bool
  | http => true
  | api status _ => 500 ≤ status
  | _ => false

/-- The text of a failure; what the transport or the form of an answer is worth saying is left to
the log. -/
def message? : ProviderError → Option String
  | notFound what => some ("database not found: " ++ what)
  | ambiguous name => some ("multiple resources with the same instance ID exist: " ++ name)
  | api status text => some ("provider API error " ++ toString status.toNat ++ ": " ++ text)
  | http => none
  | decode detail => detail.map ("invalid provider response: " ++ ·)
  | timeout after what => some ("timed out after " ++ after.text ++ " waiting for " ++ what)
  | internal text => some ("internal error: " ++ text)

end ProviderError
end ServiceBroker
