/-
# A ledger of instances and bindings

What a platform can know of a broker that keeps its promises: the instances with their
network attributes and the bindings of each service with their credentials.  A ledger
answers every request from these two maps alone (`Ledger.answer`), so a run of requests
has only one course (`Ledger.outcomes`), but for the credentials of new bindings, which
are given to it.
-/

import ServiceBroker.Lifecycle

namespace ServiceBroker

/-- How many appliances a request can bring about. -/
def Lifecycle.Request.provisions : Lifecycle.Request → Nat
  | .provision _ _ => 1
  | .deprovision _ | .poll _ _ | .bind _ _ | .unbind _ _ => 0

/-- How often chance was used for an outcome: once for the administrator of a new appliance and once
for a new binding. -/
def Lifecycle.Outcome.draws : Lifecycle.Outcome → Nat
  | .provision .accepted | .bind (.created _) => 1
  | _ => 0

/-- The network attributes of an instance. -/
structure Network where
  switchId : Int64
  ipAddress : Ipv4
  maskLength : Int32
  defaultRoute : Ipv4
deriving DecidableEq, Repr

/-- The network attributes that parameters ask for. -/
def Parameters.network (p : Parameters) : Network :=
  ⟨p.switchId, p.ipAddress, p.maskLength, p.defaultRoute⟩

/-- Instances by name, and bindings by the engine of the service, instance and binding. -/
@[ext] structure Ledger where
  instances : String → Option Network
  bindings : Engine → String → String → Option Credentials

namespace Ledger

open Lifecycle (Request Outcome)

/-- A ledger without instances. -/
def empty : Ledger := ⟨fun _ => none, fun _ _ _ => none⟩

/-- A new instance. -/
def enter (l : Ledger) (name : String) (n : Network) : Ledger :=
  { l with instances := fun k => if k = name then some n else l.instances k }

/-- The instance and all its bindings are gone. -/
def strike (l : Ledger) (name : String) : Ledger where
  instances k := if k = name then none else l.instances k
  bindings engine k binding := if k = name then none else l.bindings engine k binding

/-- The credentials of a binding, or that there is none. -/
def setBinding (l : Ledger) (engine : Engine) (name binding : String)
    (credentials : Option Credentials) : Ledger :=
  { l with bindings := fun e k b =>
      if e = engine ∧ k = name ∧ b = binding then credentials else l.bindings e k b }

/-- The outcome of a request to the service of an engine and the ledger after it; a new binding
gets the credentials `fresh`. -/
def answer (fresh : Credentials) (engine : Engine) (l : Ledger) : Request → Outcome × Ledger
  | .provision name parameters =>
    match Parameters.parse parameters with
    | .error e => (.provision (.invalidParameters e.message), l)
    | .ok p =>
      match l.instances name with
      | none => (.provision .accepted, l.enter name p.network)
      | some n => (.provision (if n = p.network then .alreadyProvisioned else .conflict), l)
  | .deprovision name =>
    match l.instances name with
    | none => (.deprovision .gone, l)
    | some _ => (.deprovision .accepted, l.strike name)
  | .poll operation name =>
    match l.instances name with
    | none => (.poll (if operation = .deprovisioning then .gone else .failed), l)
    | some _ => (.poll (if operation = .provisioning then .succeeded else .inProgress), l)
  | .bind name binding =>
    match l.instances name with
    | none => (.bind .instanceNotFound, l)
    | some _ =>
      match l.bindings engine name binding with
      | none => (.bind (.created fresh), l.setBinding engine name binding (some fresh))
      | some credentials => (.bind (.alreadyBound credentials), l)
  | .unbind name binding =>
    match l.instances name with
    | none => (.unbind .instanceNotFound, l)
    | some _ => (.unbind .unbound, l.setBinding engine name binding none)

/-- The outcomes of requests one after another; the `k`-th of them gets the credentials `fresh k`
if it makes a binding. -/
def outcomes (fresh : Nat → Credentials) : List (Engine × Request) → Ledger → List Outcome
  | [], _ => []
  | (engine, request) :: rest, l =>
    (l.answer (fresh 0) engine request).1 ::
      outcomes (fun k => fresh (k + 1)) rest (l.answer (fresh 0) engine request).2

end Ledger
end ServiceBroker
