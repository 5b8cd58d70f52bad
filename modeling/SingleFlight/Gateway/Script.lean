import SingleFlight.Gateway.Exchange

/-!
Scripted networks: one web server plays given replies, one for each connection, and ends every further
connection unanswered. Nothing else can be reached.
-/

namespace SingleFlight.Gateway

open Web

structure Script where
  /-- The address at which the server is reached. -/
  server : Address
  replies : List Reply
  /-- The messages that reached the server, the last one first. -/
  received : List Message

namespace Script

def isServer (script : Script) (address : Address) : Bool :=
  address.scheme = .http && address.host = script.server.host && address.port = script.server.port

def deliver (address : Address) (message : Message) (script : Script) : Reply × Script :=
  if script.isServer address then
    (script.replies.headD .closed,
      { script with replies := script.replies.tail, received := message :: script.received })
  else (.refused, script)

def network : Network Script := ⟨deliver⟩

end Script

end SingleFlight.Gateway
