import BacPy.App.ClientSteps
import BacPy.App.Roles
import BacPy.Library.Channel
import BacPy.Library.Runs

/-! One client and one server, and the network between them.

The client is a client TSM, the server an application as it drives its server TSM. Each sends to
the other only, so that the PDUs under way in one direction are a list.
-/

namespace BacPy

open Library

-- The exchange as a machine

/-- A client, a server and the PDUs under way between them. -/
structure Exchange where
  clientAddress : BACnetAddress
  serverAddress : BACnetAddress
  client : ClientTSM
  server : Application
  toServer : List APDU := []
  toClient : List APDU := []

namespace Exchange

/-- What can happen in an exchange. -/
inductive Event where
  /-- `send_request` is called -/
  | requestCalled (serviceChoice : Nat) (requestData : Bytes) (maxApduOverride : Option Nat)
  /-- a `send_request` call whose future is done returns -/
  | requestReturns (invokeId : Nat)
  | clientTimerFires (invokeId : Nat)
  | arrivesAtServer (index : Nat)
  | arrivesAtClient (index : Nat)
  /-- a task, a handler, a timer or the DCC state of the server -/
  | serverActs (event : Application.Event)

/-- The events of an application that come neither from the network nor from a caller. -/
def isInternal : Application.Event → Bool
  | .taskStarts _ | .handlerEnds _ _ | .serverTimerFires _ | .dccStateChanges _ => true
  | _ => false

/-- A step of the client: what it sends is under way to the server. -/
def withClient (self : Exchange) (stepped : ClientTSM × List Sent) : Exchange :=
  { self with client := stepped.1, toServer := self.toServer ++ stepped.2.map Sent.apdu }

/-- A step of the server: what it sends is under way to the client. -/
def withServer (self : Exchange) (stepped : Application × List Sent) : Exchange :=
  { self with server := stepped.1, toClient := self.toClient ++ stepped.2.map Sent.apdu }

def step (discipline : Discipline) (self : Exchange) : Event → Option Exchange
  | .requestCalled serviceChoice requestData maxApduOverride =>
    some (self.withClient
      (self.client.sendRequest serviceChoice requestData self.serverAddress maxApduOverride).2)
  | .requestReturns invokeId =>
    (self.client.transactions.get (self.serverAddress, invokeId)).bind fun txn =>
      if txn.future.done then
        some { self with client := self.client.finish (self.serverAddress, invokeId) }
      else none
  | .clientTimerFires invokeId =>
    (self.client.fireTimer (self.serverAddress, invokeId)).map self.withClient
  | .arrivesAtServer index =>
    (discipline.take self.toServer index).map fun (apdu, toServer) =>
      { self with toServer }.withServer (self.server.dispatchApdu self.clientAddress apdu)
  | .arrivesAtClient index =>
    (discipline.take self.toClient index).map fun (apdu, toClient) =>
      { self with toClient }.withClient (self.client.receive self.serverAddress apdu)
  | .serverActs event =>
    if isInternal event then (self.server.step event).map self.withServer else none

end Exchange

end BacPy
