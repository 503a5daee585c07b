import Skribbl.Backend.Broadcast
import Skribbl.Gateway.FanOut

/-!
# What a worker puts on a stream and how the gateway reads it

* `Message.payloadPlayerId`, `Message.payloadRoomCode` — the `player_id` and the `room_code` of a
  payload, which `extractPlayerID` and `extractRoomCode` look for.
* `sendText`, `sendRoom`, `inboundError` — the `BroadcastMessage`s that `VirtualTransport` and
  `_process_inbound` make, with their tags; there are no others (`StreamSend`).
* `isIdentityResponse` — how the receiver tells that a worker has identified a player.

Principal result: `StreamSend.not_roomCreated` — no tag is the name of an identity response.
-/

set_option autoImplicit false

namespace Skribbl.Backend

/-- The `player_id` of a payload. -/
def Message.payloadPlayerId : Message → Option PlayerId
  | .roomCreated _ p _ _ => some p
  | .roomJoined info => some info.playerId
  | .reconnected _ p _ _ _ _ _ _ _ _ _ => some p
  | .playerReconnected p _ => some p
  | .joinRequestResolved _ _ _ p => p
  | .spectatorRoleRequestReceived _ p _ _ _ => some p
  | .spectatorRoleRequestResolved _ _ p => p
  | .profileUpdated p _ _ => some p
  | .typing p _ _ => some p
  | _ => none

/-- The `room_code` of a payload. -/
def Message.payloadRoomCode : Message → Option String
  | .roomCreated code _ _ _ => some code
  | .roomJoined info => some info.roomCode
  | .reconnected code _ _ _ _ _ _ _ _ _ _ => some code
  | .joinRequestReceived _ _ _ code => some code
  | .joinRequestPending _ code _ => some code
  | .spectatorRoleRequestReceived _ _ _ _ code => some code
  | .workerDraining code => some code
  | _ => none

/-- The type is `room_created`, `room_joined` or `reconnected`. -/
def Message.identifies : Message → Bool
  | .roomCreated _ _ _ _ => true
  | .roomJoined _ => true
  | .reconnected _ _ _ _ _ _ _ _ _ _ _ => true
  | _ => false

/-- An identity message names a player and a room. -/
theorem Message.payload_of_identifies {m : Message} (h : m.identifies = true) :
    (∃ p, m.payloadPlayerId = some p) ∧ ∃ code, m.payloadRoomCode = some code := by
  cases m <;> simp_all [Message.identifies, Message.payloadPlayerId, Message.payloadRoomCode]

/-- An identity message is no error. -/
theorem Message.isError_of_identifies {m : Message} (h : m.identifies = true) :
    m.isError = false := by
  cases m <;> simp_all [Message.identifies, Message.isError]

end Skribbl.Backend

namespace Skribbl.System

open Backend Gateway

/-! ## The worker's side -/

/-- `VirtualTransport.send_text`; `name` is how an id is written. -/
def sendText (name : Ident → String) (transport : Transport) (m : Message) (lossy : Bool) :
    BroadcastMessage Message where
  roomCode := transport.roomCode
  targetPlayerIds := [name transport.playerId]
  messageType := if lossy then "targeted_lossy" else "targeted"
  payload := m

/-- `VirtualTransport.send_room`. -/
def sendRoom (roomCode : String) (m : Message) (lossy : Bool) : BroadcastMessage Message where
  roomCode := roomCode
  targetPlayerIds := []
  messageType := if lossy then "broadcast_lossy" else "broadcast"
  payload := m

/-- What `_process_inbound` sends when a payload is not JSON or the dispatch raises. -/
def inboundError (roomCode playerId code message : String) : BroadcastMessage Message where
  roomCode := roomCode
  targetPlayerIds := [playerId]
  messageType := "error"
  payload := .error code message

/-- What a worker may put on a stream. -/
inductive StreamSend where
  | text (transport : Transport) (m : Message) (lossy : Bool)
  | room (roomCode : String) (m : Message) (lossy : Bool)
  | error (roomCode playerId code message : String)

def StreamSend.msg (name : Ident → String) : StreamSend → BroadcastMessage Message
  | .text transport m lossy => sendText name transport m lossy
  | .room roomCode m lossy => sendRoom roomCode m lossy
  | .error roomCode playerId code message => inboundError roomCode playerId code message

/-- **No message of a worker is tagged `room_created`.** -/
theorem StreamSend.not_roomCreated (name : Ident → String) (x : StreamSend) :
    (x.msg name).messageType ≠ "room_created" := by
  cases x with
  | text transport m lossy => cases lossy <;> simp [StreamSend.msg, sendText]
  | room roomCode m lossy => cases lossy <;> simp [StreamSend.msg, sendRoom]
  | error roomCode playerId code message => simp [StreamSend.msg, inboundError]

/-! ## The gateway's side -/

/-- `isIdentityResponse`: by the tag, or else by the payload. -/
def isIdentityResponse (msg : BroadcastMessage Message) : Bool :=
  msg.messageType = "room_created" || msg.messageType = "room_joined" ||
    msg.messageType = "reconnected" || msg.payload.identifies

/-- `extractPlayerID`. -/
def extractPlayerID (name : Ident → String) (m : Message) : String :=
  m.payloadPlayerId.elim "" name

/-- `extractRoomCode`. -/
def extractRoomCode (m : Message) : String := m.payloadRoomCode.getD ""

end Skribbl.System
