/-
This file models the inputs of the protocol: the user's commands, the events that drive
the state machine, and the translation of an incoming packet into its event.
-/

import Fmtp.Packet

namespace Fmtp

inductive UserCommand
  | setup (id : String)
  | disconnect
  | data (msg : FmtpMessage)
  | shutdown
  | startup
deriving DecidableEq, Repr

/-- Remote events begin with `r`, local ones with `l`; the others are timers. -/
inductive Event
  | rSetup (now : Instant)
  | rDisconnect
  | rReject
  | rAccept (now : Instant)
  | rIdValid (now : Instant) (id : String)
  | rIdInvalid
  | rData (now : Instant) (msg : FmtpMessage)
  | rHeartbeat (now : Instant)
  | rShutdown (now : Instant)
  | rStartup (now : Instant)
  | tiTimeout
  | trTimeout (now : Instant)
  | tsTimeout (now : Instant)
  | lData (now : Instant) (msg : FmtpMessage)
  | lShutdown (now : Instant)
  | lStartup (now : Instant)
  | lSetup (id : String)
  | lDisconnect
deriving DecidableEq, Repr

namespace Event

/-- The event of an incoming packet. No bytes at all mean that the peer closed the
connection, whatever packet was decoded. -/
def fromIncomingPacket (bytes : Nat) (packet : FmtpPacket) (now : Instant) (config : Config)
    (connectionId : Option String) : Outcome Event :=
  if bytes = 0 then
    .ok .rDisconnect
  else
    match packet.header.typ with
    | .operational | .operator =>
      match packet.tryToMsg with
      | .ok msg => .ok (.rData now msg)
      | .error fault => .error fault
    | .identification =>
      if packet.isAccept then .ok (.rAccept now)
      else if packet.isReject then .ok .rReject
      else
        match packet.checkHandshake config connectionId with
        | some id => .ok (.rIdValid now id)
        | none => .ok .rIdInvalid
    | .system =>
      if packet.isStartup then .ok (.rStartup now)
      else if packet.isShutdown then .ok (.rShutdown now)
      else if packet.isHeartbeat then .ok (.rHeartbeat now)
      else .error (.error "unexpected system packet payload")

/-- The events that stand for something the peer did on an open connection. -/
def Remote : Event → Bool
  | .rDisconnect | .rReject | .rAccept _ | .rIdValid _ _ | .rIdInvalid | .rData _ _
  | .rHeartbeat _ | .rShutdown _ | .rStartup _ => true
  | .rSetup _ | .tiTimeout | .trTimeout _ | .tsTimeout _ | .lData _ _ | .lShutdown _
  | .lStartup _ | .lSetup _ | .lDisconnect => false

theorem fromIncomingPacket_remote {bytes : Nat} {packet : FmtpPacket} {now : Instant}
    {config : Config} {connectionId : Option String} {event : Event}
    (translated : fromIncomingPacket bytes packet now config connectionId = .ok event) :
    event.Remote = true := by
  unfold fromIncomingPacket at translated
  repeat' split at translated
  all_goals first
    | cases translated; rfl
    | cases translated

end Event

end Fmtp
