/-
# Starting up

From a command line to a broker: the configuration is read and checked, the provider is
asked who the broker is, and the broker listens.  Each of these can end the program.
-/

import ServiceBroker.CommandLine
import ServiceBroker.Provider.Rest.Client

namespace ServiceBroker
namespace Startup

open CommandLine (Exit)
open Provider.Rest (Client exchange)

/-- The end of a program that a failure ends. -/
def failed (lines : List String) : Exit :=
  ⟨1, "", "Error: " ++ String.join (lines.map (· ++ "\n"))⟩

/-- What is said of credentials that the provider does not confirm. -/
def unconfirmed : ProviderError → Exit
  | e => failed ("checking SAKURA Cloud credentials" :: e.message?.toList)

/-- Asks a provider behind a REST interface who the broker is; a provider in memory is not asked. -/
def check (config : Config) : ExceptT Exit (Program exchange) Unit :=
  match config.provider.kind with
  | .memory => return ()
  | .sakura => do
    let _ ← ExceptT.adapt unconfirmed (Client.ofConfig config.provider).authStatus

/-- The address on which a broker listens. -/
def address (port : String) : String := "0.0.0.0:" ++ port

/-- What is said when an address cannot be listened on. -/
def cannotBind (port cause : String) : String :=
  "failed to bind " ++ address port ++ ": " ++ cause

/-- The cause when the address is taken. -/
def addressInUse : String := "Address already in use (os error 98)"

end Startup
end ServiceBroker
