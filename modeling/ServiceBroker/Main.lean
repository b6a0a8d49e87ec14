/-
# The program

Reads the command line, asks the provider who the broker is, and answers platforms on a
port.  Connections are served side by side, and the broker is one value that they take
turns with; the background of the broker goes on as far as the clock has come whenever
one of them does.
-/

import ServiceBroker.Broker
import ServiceBroker.Http.Message
import ServiceBroker.Provider.Memory
import ServiceBroker.Startup
import Std.Async.TCP

namespace ServiceBroker

open Std.Async.TCP (Socket.Server Socket.Client)
open Std.Net (SocketAddress SocketAddressV4 IPv4Addr)
open Provider (Memory)

/-- The environment variables that settings are read from. -/
def settingVariables : IO (List (String × String)) :=
  CommandLine.Setting.all.filterMapM fun setting => do
    return (← IO.getEnv setting.environmentVariable).map (setting.environmentVariable, ·)

/-- An exchange with a provider that no connection leads to; pauses take their time. -/
def withoutConnection (call : Provider.Rest.Exchange) : IO call.Answer :=
  match call with
  | .send _ => return none
  | .pause time => IO.sleep (UInt32.ofNat (Duration.toMilliseconds time))

/-- Tells how the program ends. -/
def report (exit : CommandLine.Exit) : IO UInt32 := do
  IO.print exit.output
  IO.eprint exit.errors
  return UInt32.ofNat exit.code

/-- A broker in memory that platforms are served from. -/
structure Service where
  settings : BrokerSettings Memory
  front : Http.Front
  state : IO.Ref (Broker Memory)
  /-- When the clock of the broker stood at zero, in nanoseconds. -/
  epoch : Nat

namespace Service

def start (config : Config) : IO Service := do
  let provider := config.provider
  return {
    settings := {
      provider := Provider.inMemory .instant provider.waitTimeout provider.pollInterval
      startupTimeout := provider.startupTimeout
      chance := .ofSeed (← IO.getRandomBytes 32).data.toList }
    front := { auth := config.basicAuth }
    state := ← IO.mkRef (Broker.start {})
    epoch := ← IO.monoNanosNow }

/-- The response to a request, at the time that the clock shows. -/
def respond (service : Service) (request : Http.Request) : IO Http.Response := do
  let now := (← IO.monoNanosNow) - service.epoch
  service.state.modifyGet fun broker =>
    let broker := broker.advance service.settings (now - broker.now)
    (Broker.serve service.settings service.front request).run broker

/-- The response to what arrives on a connection, if anything does. -/
partial def receive (service : Service) (client : Socket.Client) (received : Bytes) :
    IO (Option Http.Response) := do
  match Http.Arrival.ofBytes received with
  | .complete request => return some (← service.respond request)
  | .malformed => return some (.bare 400)
  | .incomplete =>
    match ← (client.recv? 65536).block with
    | some more => service.receive client (received ++ more.data.toList)
    | none => return none

/-- Serves one connection; one that breaks is of no more concern. -/
def converse (service : Service) (client : Socket.Client) : IO Unit := do
  try
    if let some response ← service.receive client [] then
      (client.send ⟨response.bytes.toArray⟩).block
    client.shutdown.block
  catch _ => pure ()

/-- Serves connections as they come. -/
partial def run (service : Service) (server : Socket.Server) : IO Unit := do
  let client ← server.accept.block
  let _ ← IO.asTask (service.converse client)
  service.run server

end Service

/-- Listens on a port of all addresses. -/
def listen (port : UInt16) : IO Socket.Server := do
  let server ← Socket.Server.mk
  server.bind (SocketAddress.v4 { addr := IPv4Addr.ofParts 0 0 0 0, port })
  server.listen 1024
  return server

/-- Why a port cannot be listened on. -/
def bindFailure : IO.Error → String
  | .resourceBusy _ _ => Startup.addressInUse
  | e => toString e

/-- Runs the program that a configuration describes.  Only a provider in memory passes the check, as
no connection leads to another one. -/
def serve (config : Config) : IO UInt32 := do
  match ← ((Startup.check config).run.run withoutConnection : IO _) with
  | .error exit => report exit
  | .ok _ =>
    match ← (listen config.port).toBaseIO with
    | .error e =>
      report (Startup.failed [Startup.cannotBind (toString config.port.toNat) (bindFailure e)])
    | .ok server =>
      (← Service.start config).run server
      return 0

end ServiceBroker

def main (words : List String) : IO UInt32 := do
  match ServiceBroker.CommandLine.start words (← ServiceBroker.settingVariables) with
  | .error exit => ServiceBroker.report exit
  | .ok config => ServiceBroker.serve config
