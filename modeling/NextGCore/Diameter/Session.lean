import NextGCore.Diameter.Peer

/-!
# Sessions

Requests of any number of callers over one connection.  A caller registers a one-shot channel
under its Hop-by-Hop Identifier, queues its request and waits; the reader task routes each
answer to the channel that is registered under its identifier.  Every step of a caller or of
the reader takes place between two awaits.
-/

namespace NextGCore.Diameter

open Library

inductive Channel where
  | open
  | answered (arrival : ℕ) (answer : DiameterMessage)
  | closed

inductive Failure where
  | sessionClosed
  | peerDisconnected
  | timedOut

inductive CallPhase where
  | idle
  /-- The identifiers are given, and `pending.lock()` is awaited. -/
  | registering
  /-- `tx.send(request)` is awaited. -/
  | sending
  | waiting
  | failing (failure : Failure)
  | returned (result : Except Failure DiameterMessage)

/-- What a channel is when an answer was sent: the answer is lost when the receiver is gone. -/
def CallPhase.sent (phase : CallPhase) (arrival : ℕ) (answer : DiameterMessage) : Channel :=
  match phase with
  | sending | waiting => .answered arrival answer
  | _ => .closed

structure Caller where
  request : DiameterMessage
  phase : CallPhase
  channel : Channel

def Caller.hopByHopId (caller : Caller) : UInt32 := caller.request.header.hopByHopId

inductive Reader where
  | selecting
  | delivering (caller arrival : ℕ) (answer : DiameterMessage)
  | clearing
  | cleared
  | stopped

structure DiameterSession where
  pending : UInt32 → Option ℕ
  callers : ℕ → Caller
  hopByHop : UInt32
  endToEnd : UInt32
  outbound : List DiameterMessage
  inbound : List DiameterMessage
  reader : Reader
  peer : DiameterPeer
  arrivals : ℕ

inductive SessionInput where
  /-- `send_request` is called. -/
  | call (caller : ℕ) (message : DiameterMessage)
  | register (caller : ℕ)
  | enqueue (caller : ℕ)
  | poll (caller : ℕ)
  | timeOut (caller : ℕ)
  | cleanUp (caller : ℕ)
  | read (result : Except DiameterError DiameterMessage)
      (transport : TransportOp → Except DiameterError Unit)
  | write (transport : TransportOp → Except DiameterError Unit)
  | deliver
  | clear
  | stop

namespace DiameterSession

variable (session : DiameterSession)

def OUTBOUND_CAPACITY : ℕ := 256

def INBOUND_CAPACITY : ℕ := 64

def start (peer : DiameterPeer) (hopSeed endSeed : UInt32) : DiameterSession :=
  ⟨fun _ => none, fun _ => ⟨.newRequest 0 0, .idle, .open⟩, hopSeed, endSeed, [], [], .selecting,
    peer, 0⟩

def setCaller (caller : ℕ) (value : Caller) : DiameterSession :=
  { session with callers := Function.update session.callers caller value }

def setPhase (caller : ℕ) (phase : CallPhase) : DiameterSession :=
  session.setCaller caller { session.callers caller with phase := phase }

def setChannel (caller : ℕ) (channel : Channel) : DiameterSession :=
  session.setCaller caller { session.callers caller with channel := channel }

def dropSender : Option ℕ → DiameterSession
  | none => session
  | some caller => session.setChannel caller .closed

def setEntry (id : UInt32) (entry : Option ℕ) : DiameterSession :=
  { session with pending := Function.update session.pending id entry }

def call (caller : ℕ) (message : DiameterMessage) : DiameterSession :=
  let hopByHop := if message.header.hopByHopId = 0 then session.hopByHop + 1 else session.hopByHop
  let endToEnd := if message.header.endToEndId = 0 then session.endToEnd + 1 else session.endToEnd
  let header := { message.header with
    hopByHopId := if message.header.hopByHopId = 0 then hopByHop else message.header.hopByHopId
    endToEndId := if message.header.endToEndId = 0 then endToEnd else message.header.endToEndId }
  { session with hopByHop := hopByHop, endToEnd := endToEnd }.setCaller caller
    ⟨{ message with header := header }, .registering, .open⟩

/-- `pending.insert(hop_by_hop_id, answer_tx)`; the sender that was there is dropped. -/
def register (caller : ℕ) : DiameterSession :=
  let id := (session.callers caller).hopByHopId
  ((session.dropSender (session.pending id)).setEntry id (some caller)).setPhase caller .sending

/-- `tx.send(request)`, which fails when the reader has stopped and waits while the queue is
full. -/
def enqueue (caller : ℕ) : DiameterSession :=
  match session.reader with
  | .stopped => session.setPhase caller (.failing .sessionClosed)
  | _ =>
    if session.outbound.length < OUTBOUND_CAPACITY then
      { session with outbound := session.outbound ++ [(session.callers caller).request] }.setPhase
        caller .waiting
    else session

def poll (caller : ℕ) : DiameterSession :=
  match (session.callers caller).channel with
  | .open => session
  | .answered _ answer => session.setPhase caller (.returned (.ok answer))
  | .closed => session.setPhase caller (.failing .peerDisconnected)

def timeOut (caller : ℕ) : DiameterSession :=
  match (session.callers caller).channel with
  | .open => session.setPhase caller (.failing .timedOut)
  | _ => session.poll caller

def cleanUp (caller : ℕ) (failure : Failure) : DiameterSession :=
  let id := (session.callers caller).hopByHopId
  ((session.dropSender (session.pending id)).setEntry id none).setPhase caller
    (.returned (.error failure))

def leave : DiameterSession := { session with reader := .clearing }

def route (answer : DiameterMessage) : DiameterSession :=
  match session.pending answer.header.hopByHopId with
  | none => session
  | some caller =>
    { session.setEntry answer.header.hopByHopId none with
      reader := .delivering caller session.arrivals answer }

def handle (message : DiameterMessage) (transport : TransportOp → Except DiameterError Unit) :
  DiameterSession :=
  let handled := ((DiameterPeer.processMessage message).start session.peer).complete transport
  let after := { session with peer := handled.1 }
  match handled.2 with
  | .ok (.message request) =>
    if session.inbound.length < INBOUND_CAPACITY then
      { after with inbound := session.inbound ++ [request] }
    else after
  | .ok .disconnected => after.leave
  | .ok _ => after
  | .error _ => after.leave

def read (message : DiameterMessage) (transport : TransportOp → Except DiameterError Unit) :
  DiameterSession :=
  let after := if message.header.isAnswer then session.route message
    else session.handle message transport
  { after with arrivals := session.arrivals + 1 }

def write (transport : TransportOp → Except DiameterError Unit) : DiameterSession :=
  match session.outbound with
  | [] => session
  | message :: outbound =>
    let sent := ((DiameterPeer.sendMessage message).start session.peer).complete transport
    let after := { session with outbound := outbound, peer := sent.1 }
    match sent.2 with
    | .ok () => after
    | .error _ => after.leave

def deliver (caller arrival : ℕ) (answer : DiameterMessage) : DiameterSession :=
  { session.setChannel caller ((session.callers caller).phase.sent arrival answer) with
    reader := .selecting }

def clear : DiameterSession :=
  { session with
    pending := fun _ => none
    callers := fun caller =>
      if session.pending (session.callers caller).hopByHopId = some caller
      then { session.callers caller with channel := .closed } else session.callers caller
    reader := .cleared }

def machine : Machine DiameterSession SessionInput Unit where
  step session input :=
    match input with
    | .call caller message =>
      match (session.callers caller).phase with
      | .idle => (session.call caller message, ())
      | _ => (session, ())
    | .register caller =>
      match (session.callers caller).phase with
      | .registering => (session.register caller, ())
      | _ => (session, ())
    | .enqueue caller =>
      match (session.callers caller).phase with
      | .sending => (session.enqueue caller, ())
      | _ => (session, ())
    | .poll caller =>
      match (session.callers caller).phase with
      | .waiting => (session.poll caller, ())
      | _ => (session, ())
    | .timeOut caller =>
      match (session.callers caller).phase with
      | .waiting => (session.timeOut caller, ())
      | _ => (session, ())
    | .cleanUp caller =>
      match (session.callers caller).phase with
      | .failing failure => (session.cleanUp caller failure, ())
      | _ => (session, ())
    | .read result transport =>
      match session.reader, result with
      | .selecting, .ok message => (session.read message transport, ())
      | .selecting, .error _ => (session.leave, ())
      | _, _ => (session, ())
    | .write transport =>
      match session.reader with
      | .selecting => (session.write transport, ())
      | _ => (session, ())
    | .deliver =>
      match session.reader with
      | .delivering caller arrival answer => (session.deliver caller arrival answer, ())
      | _ => (session, ())
    | .clear =>
      match session.reader with
      | .clearing => (session.clear, ())
      | _ => (session, ())
    | .stop =>
      match session.reader with
      | .cleared => ({ session with reader := .stopped }, ())
      | _ => (session, ())

end DiameterSession

end NextGCore.Diameter
