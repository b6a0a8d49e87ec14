/-
# Handlers

What the operations of a broker ask about instances and bindings, and have done to
them.
-/

import ServiceBroker.Instance
import ServiceBroker.Program
import ServiceBroker.ServiceError

namespace ServiceBroker
namespace Handler

/-- A question about an instance or a binding, or an order to change it. -/
inductive Call where
  /-- The instance, seen next to the parameters of a request. -/
  | instanceState (name : String) (requested : Option Parameters)
  /-- The binding on record. -/
  | bindingState (name binding : String)
  | createInstance (name : String) (parameters : Parameters)
  /-- Begins to delete an instance. -/
  | deleteInstance (name : String)
  | createBinding (name binding : String)
  | deleteBinding (name binding : String)
deriving DecidableEq, Repr

/-- What a successful call gives. -/
abbrev Call.Result : Call → Type
  | instanceState _ _ => Option InstanceState
  | bindingState _ _ => Option BindingState
  | createInstance _ _ | deleteInstance _ | deleteBinding _ _ => Unit
  | createBinding _ _ => Credentials

abbrev Call.Answer (call : Call) : Type := Except ServiceError call.Result

/-- The call changes something. -/
def Call.hasEffect : Call → Bool
  | instanceState _ _ | bindingState _ _ => false
  | createInstance _ _ | deleteInstance _ | createBinding _ _ | deleteBinding _ _ => true

/-- The questions that a handler answers. -/
abbrev interface : Interface := ⟨Call, Call.Answer⟩

end Handler
end ServiceBroker
