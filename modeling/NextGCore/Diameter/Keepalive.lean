import NextGCore.Diameter.CodecRoundTrip
import NextGCore.Diameter.Peer

/-!
# The keepalive loop

A task that owns a peer.  It selects between the timer of the watchdog and the peer's next
event, and the future that loses is dropped where it is suspended.  A message goes out in any
number of parts.  For each message that was received the loop keeps what was sent since, and
for the connection the messages that it set out to send.
-/

namespace NextGCore.Diameter

open Library List Program DiameterPeer

abbrev PeerFuture :=
  Async DiameterPeer TransportOp (Except DiameterError Unit)
    (Except DiameterError (Option PeerEvent))

inductive Activity where
  /-- `peer.next_event()` in the select, past its read. -/
  | nextEvent
  /-- `peer.send_watchdog()` in the branch of the timer. -/
  | watchdog
  /-- `peer.disconnect(..)` in the branch of the timer. -/
  | disconnect
  deriving DecidableEq

inductive Phase where
  | selecting
  | awaiting (activity : Activity) (future : PeerFuture)
  /-- `app_tx.send(msg)` -/
  | forwarding (message : DiameterMessage)
  | ended (result : Except DiameterError Unit)

structure Turn where
  received : DiameterMessage
  internal : Bool
  sent : List DiameterMessage

structure Keepalive where
  peer : DiameterPeer
  missedWatchdogs : ℕ
  phase : Phase
  unsent : Bytes
  wire : Bytes
  begun : List DiameterMessage
  turns : List Turn

inductive KeepaliveInput where
  | tick
  | received (message : DiameterMessage)
  | readFailed (error : DiameterError)
  | wrote (count : ℕ)
  | shut
  | failed (error : DiameterError)
  | forwarded (taken : Bool)

namespace Keepalive

variable (loop : Keepalive)

def MAX_MISSED_WATCHDOGS : ℕ := 3

def initially (peer : DiameterPeer) : Keepalive := ⟨peer, 0, .selecting, [], [], [], []⟩

def ends (result : Except DiameterError Unit) : Keepalive :=
  { loop with phase := .ended result, unsent := [] }

def finish (activity : Activity) (result : Except DiameterError (Option PeerEvent)) : Keepalive :=
  let selecting := { loop with phase := .selecting, unsent := [] }
  match activity, result with
  | .nextEvent, .error error => loop.ends (.error error)
  | .nextEvent, .ok (some (.established _ _)) => { selecting with missedWatchdogs := 0 }
  | .nextEvent, .ok (some (.message message)) => { selecting with phase := .forwarding message }
  | .nextEvent, .ok (some .watchdogAck) => { selecting with missedWatchdogs := 0 }
  | .nextEvent, .ok (some .disconnected) => loop.ends (.ok ())
  | .nextEvent, .ok none => selecting
  | .watchdog, .ok _ => { selecting with missedWatchdogs := loop.missedWatchdogs + 1 }
  | .watchdog, .error error => loop.ends (.error error)
  | .disconnect, _ => loop.ends (.error (.protocol "watchdog timeout"))

def poll (activity : Activity) (future : PeerFuture) : Keepalive :=
  match future with
  | .done peer result => { loop with peer := peer }.finish activity result
  | .await _ (.send message) _ =>
    { loop with
      phase := .awaiting activity future
      unsent := message.encode
      begun := loop.begun ++ [message] }
  | .await _ .close _ => { loop with phase := .awaiting activity future, unsent := [] }

def tick : Keepalive :=
  if loop.peer.state = .open then
    if MAX_MISSED_WATCHDOGS ≤ loop.missedWatchdogs then
      loop.poll .disconnect ((PeerCall.disconnect .rebooting).program.start loop.peer)
    else loop.poll .watchdog (PeerCall.sendWatchdog.program.start loop.peer)
  else { loop with phase := .selecting, unsent := [] }

def answersInternally (peer : DiameterPeer) (message : DiameterMessage) : Bool :=
  peer.state = .open && message.header.isRequest &&
    (message.header.commandCode = base_cmd.DEVICE_WATCHDOG ||
      message.header.commandCode = base_cmd.DISCONNECT_PEER)

def receive (message : DiameterMessage) : Keepalive :=
  let turn := ⟨message, answersInternally loop.peer message, []⟩
  { loop with turns := turn :: loop.turns }.poll .nextEvent
    ((PeerCall.nextEvent message).program.start loop.peer)

def note (message : DiameterMessage) : Keepalive :=
  match loop.turns with
  | [] => loop
  | turn :: turns => { loop with turns := { turn with sent := turn.sent ++ [message] } :: turns }

def wrote (activity : Activity) (message : DiameterMessage)
  (next : Except DiameterError Unit → PeerFuture) (count : ℕ) : Keepalive :=
  let written :=
    { loop with wire := loop.wire ++ loop.unsent.take count, unsent := loop.unsent.drop count }
  if written.unsent.isEmpty then (written.note message).poll activity (next (.ok ())) else written

def await (loop : Keepalive) (activity : Activity) (future : PeerFuture) :
    KeepaliveInput → Keepalive
  | .tick =>
    if activity = .nextEvent then { loop with peer := future.held }.tick else loop
  | .wrote count =>
    match future with
    | .await _ (.send message) next => loop.wrote activity message next count
    | _ => loop
  | .shut =>
    match future with
    | .await _ .close next => loop.poll activity (next (.ok ()))
    | _ => loop
  | .failed error =>
    match future with
    | .await _ _ next => loop.poll activity (next (.error error))
    | _ => loop
  | _ => loop

def machine : Machine Keepalive KeepaliveInput Unit where
  step loop input :=
    match loop.phase, input with
    | .selecting, .tick => (loop.tick, ())
    | .selecting, .received message => (loop.receive message, ())
    | .selecting, .readFailed error => (loop.ends (.error error), ())
    | .awaiting activity future, input => (loop.await activity future input, ())
    | .forwarding _, .forwarded taken =>
      (if taken then { loop with phase := .selecting } else loop.ends (.ok ()), ())
    | _, _ => (loop, ())

end Keepalive

variable {message : DiameterMessage} {peer state : DiameterPeer} {turn : Turn}
  {next : Except DiameterError Unit → PeerFuture}

lemma failsFast_event {handler : PeerProgram PeerEvent} (fast : handler.FailsFast) :
  (PeerCall.event handler).FailsFast :=
  fast.bind fun event => .pure (some event)

lemma failsFast_silent {handler : PeerProgram Unit} (fast : handler.FailsFast) :
  (PeerCall.silent handler).FailsFast :=
  fast.bind fun _ => .pure none

lemma failsFast_handleCer (cer : DiameterMessage) : (handleCer cer).FailsFast := by
  refine .bind (.given _ _) fun originHost => .bind (.given _ _) fun originRealm =>
    .bind .get fun peer => .ite ?_ ?_
  · exact .bind (.call _) fun _ => .bind (.modify _) fun _ => .pure _
  · exact .bind (.call _) fun _ => .bind (.modify _) fun _ => .bind (.call _) fun _ => .pure _

lemma failsFast_handleCea (cea : DiameterMessage) : (handleCea cea).FailsFast := by
  refine .bind (.given _ _) fun resultCode => .ite ?_ ?_
  · exact .bind (.given _ _) fun _ => .bind (.given _ _) fun _ => .bind (.modify _) fun _ => .pure _
  · exact .bind (.modify _) fun _ => .throw _

lemma failsFast_handleDwr (dwr : DiameterMessage) : (handleDwr dwr).FailsFast :=
  .bind .get fun _ => .bind (.call _) fun _ => .pure _

lemma failsFast_handleDpr (dpr : DiameterMessage) : (handleDpr dpr).FailsFast :=
  .bind .get fun _ => .bind (.call _) fun _ => .bind (.modify _) fun _ => .bind (.call _) fun _ =>
    .pure _

lemma failsFast_handleDpa : handleDpa.FailsFast :=
  .bind (.modify _) fun _ => .bind (.call _) fun _ => .pure _

lemma failsFast_nextEvent (message : DiameterMessage) :
  (PeerCall.nextEvent message).program.FailsFast :=
  failsFast_event (.bind .get fun _ => .ite (failsFast_handleCer message)
    (.ite (failsFast_handleCea message) (.ite (failsFast_handleDwr message) (.ite (.pure _)
      (.ite (failsFast_handleDpr message) (.ite failsFast_handleDpa
        (.ite (.pure _) (.throw _))))))))

lemma failsFast_sendWatchdog : PeerCall.sendWatchdog.program.FailsFast :=
  failsFast_silent (.bind .get fun _ => .ite (.throw _)
    (.bind (.modify _) fun _ => .bind .get fun _ => .call _))

lemma failsFast_disconnect (cause : DisconnectCause) :
  (PeerCall.disconnect cause).program.FailsFast :=
  failsFast_silent (.bind .get fun _ => .ite (.throw _)
    (.bind (.modify _) fun _ => .bind .get fun _ => .bind (.call _) fun _ => .modify _))

def OnlyCloses : PeerFuture → Prop
  | .done _ _ => True
  | .await _ op next => op = .close ∧ OnlyCloses (next (.ok ()))

def Sends (good : DiameterMessage → Prop) : PeerFuture → Prop
  | .await _ (.send message) next => good message ∧ OnlyCloses (next (.ok ()))
  | _ => False

def IsAnswerTo (request message : DiameterMessage) : Prop :=
  message.header = .newAnswer request.header

instance (request message : DiameterMessage) : Decidable (IsAnswerTo request message) :=
  inferInstanceAs (Decidable (_ = _))

lemma not_isAnswerTo_of_isRequest {request : DiameterMessage}
  (isRequest : message.header.isRequest) : ¬ IsAnswerTo request message := by
  intro isAnswer
  rw [isAnswer] at isRequest
  revert isRequest
  change ¬ (cmd_flags.PROXIABLE &&& cmd_flags.REQUEST != 0) = true
  decide

lemma sends_nextEvent (internal : Keepalive.answersInternally peer message) :
  Sends (IsAnswerTo message) ((PeerCall.nextEvent message).program.start peer) := by
  simp only [Keepalive.answersInternally, Bool.and_eq_true, Bool.or_eq_true,
    decide_eq_true_eq] at internal
  obtain ⟨⟨isOpen, isRequest⟩, command⟩ := internal
  unfold PeerCall.program PeerCall.event processMessage
  simp only [start_bind, start_get, Async.andThen_done, following_ok, start_ite]
  rcases command with watchdog | disconnect
  · rw [if_neg (by simp [isOpen]), if_neg (by simp [isOpen]), if_pos ⟨isOpen, watchdog, isRequest⟩]
    exact ⟨rfl, trivial⟩
  · rw [if_neg (by simp [isOpen]), if_neg (by simp [isOpen]),
      if_neg (by simp [disconnect, base_cmd.DISCONNECT_PEER, base_cmd.DEVICE_WATCHDOG]),
      if_neg (by simp [isRequest]), if_pos ⟨isOpen, disconnect, isRequest⟩]
    exact ⟨rfl, rfl, trivial⟩

lemma isRequest_request (peer : DiameterPeer) (command : UInt32) (avps : List Avp) :
  (peer.request command avps).header.isRequest := by
  change (cmd_flags.REQUEST ||| cmd_flags.PROXIABLE) &&& cmd_flags.REQUEST != 0
  decide

lemma sends_sendWatchdog (isOpen : peer.state = .open) :
  Sends (·.header.isRequest) (PeerCall.sendWatchdog.program.start peer) := by
  unfold PeerCall.program PeerCall.silent sendWatchdog
  simp only [start_bind, start_get, Async.andThen_done, following_ok, start_ite]
  rw [if_neg (not_not.mpr isOpen)]
  exact ⟨isRequest_request _ _ _, trivial⟩

lemma sends_disconnect (isOpen : peer.state = .open) (cause : DisconnectCause) :
  Sends (·.header.isRequest) ((PeerCall.disconnect cause).program.start peer) := by
  unfold PeerCall.program PeerCall.silent DiameterPeer.disconnect
  simp only [start_bind, start_get, Async.andThen_done, following_ok, start_ite]
  rw [if_neg (not_not.mpr isOpen)]
  exact ⟨isRequest_request _ _ _, trivial⟩

def Turn.answered (turn : Turn) : ℕ :=
  (turn.sent.filter fun message => decide (IsAnswerTo turn.received message)).length

lemma Turn.answered_note (turn : Turn) (message : DiameterMessage) :
  Turn.answered { turn with sent := turn.sent ++ [message] } =
    turn.answered + if IsAnswerTo turn.received message then 1 else 0 := by
  unfold Turn.answered
  rw [filter_append, length_append, filter_singleton]
  split <;> simp_all

inductive Progress (turn : Turn) (future : PeerFuture) : Prop
  | answering (sends : Sends (IsAnswerTo turn.received) future) (unanswered : turn.answered = 0)
  | requesting (sends : Sends (·.header.isRequest) future) (once : turn.answered = 1)
  | finishing (silent : OnlyCloses future) (once : turn.answered = 1)
  | failing (state : DiameterPeer) (error : DiameterError)
      (ended : future = .done state (.error error)) (atMost : turn.answered ≤ 1)

lemma Progress.sent (progress : Progress turn (.await state (.send message) next)) :
  Progress { turn with sent := turn.sent ++ [message] } (next (.ok ())) := by
  cases progress with
  | answering sends unanswered =>
    exact .finishing sends.2 (by rw [Turn.answered_note, if_pos sends.1, unanswered])
  | requesting sends once =>
    refine .finishing sends.2 ?_
    rw [Turn.answered_note, if_neg (not_isAnswerTo_of_isRequest sends.1), once]
  | finishing silent => cases silent.1
  | failing state error ended => cases ended

lemma Progress.atMost {future : PeerFuture} (progress : Progress turn future) :
  turn.answered ≤ 1 := by
  cases progress with
  | answering sends unanswered | requesting sends once | finishing silent once => omega
  | failing state error ended atMost => exact atMost

lemma Progress.once {event : Option PeerEvent}
  (progress : Progress turn (.done state (.ok event))) : turn.answered = 1 := by
  cases progress with
  | answering sends | requesting sends => exact sends.elim
  | finishing silent once => exact once
  | failing state error ended => cases ended

lemma Progress.shut (progress : Progress turn (.await state .close next)) :
  turn.answered = 1 ∧ Progress turn (next (.ok ())) := by
  cases progress with
  | answering sends | requesting sends => exact sends.elim
  | finishing silent once => exact ⟨once, .finishing silent.2 once⟩
  | failing state error ended => cases ended

structure DiameterMessage.Encodable (message : DiameterMessage) : Prop where
  flagged : AllVendorFlagged message.avps
  commandCode : message.header.commandCode.toNat < 2 ^ 24
  small : message.totalLength < 2 ^ 24

lemma DiameterMessage.Encodable.decodes (encodable : message.Encodable) {wire following : Bytes}
  (front : wire <+: message.encode ++ following) (version : wire.head? = some DIAMETER_VERSION)
  (enough : 4 ≤ wire.length) (counted : beValue ((wire.drop 1).take 3) ≤ wire.length) :
  ∃ decoded, DiameterMessage.decode (wire.take (beValue ((wire.drop 1).take 3))) =
    .ok (decoded, []) := by
  obtain ⟨tail, whole⟩ := front
  have sameVersion : message.header.version = DIAMETER_VERSION := by
    have first : (message.encode ++ following).head? =
        some (UInt8.ofNat (message.header.version.toNat / 1)) := rfl
    rw [← whole, head?_append_of_ne_nil _ (ne_nil_of_length_pos (by omega)), version,
      Nat.div_one, UInt8.ofNat_toNat] at first
    exact (Option.some.inj first).symm
  obtain ⟨avps, recovered, reads⟩ := DiameterMessage.readsBack_decode encodable.flagged
    sameVersion encodable.commandCode encodable.small
  have counts : beValue ((wire.drop 1).take 3) = message.encode.length := by
    have front : (wire.drop 1).take 3 = ((message.encode ++ following).drop 1).take 3 := by
      rw [← whole, drop_append_of_le_length (by omega),
        take_append_of_le_length (by rw [length_drop]; omega)]
    rw [front, message.length_encode encodable.flagged, ← beValue_putU24 encodable.small,
      ← message.calculateLength_toNat encodable.small]
    rfl
  have taken : wire.take message.encode.length = message.encode := by
    rw [counts] at counted
    rw [← take_append_of_le_length counted, whole, take_left]
  obtain ⟨left, answer, done⟩ := reads message.encode [] (append_nil _).symm
  rw [counts, taken, answer, ← done]
  exact ⟨_, rfl⟩

namespace Keepalive

variable {loop : Keepalive} {activity : Activity} {peer : DiameterPeer}
  {next : Except DiameterError Unit → PeerFuture}

def octets (loop : Keepalive) : Bytes := (loop.begun.map DiameterMessage.encode).flatten

structure Framed (loop : Keepalive) : Prop where
  whole : loop.wire <+: loop.octets
  atMost : ∀ turn ∈ loop.turns, turn.internal → turn.answered ≤ 1
  once : ∀ turn ∈ loop.turns.tail, turn.internal → turn.answered = 1

def Undisturbed (loop : Keepalive) (input : KeepaliveInput) : Prop :=
  input = .tick → ∀ state message next,
    loop.phase ≠ .awaiting .nextEvent (.await state (.send message) next)

structure Steady (loop : Keepalive) : Prop where
  written : loop.wire ++ loop.unsent = loop.octets
  once : ∀ turn ∈ loop.turns.tail, turn.internal → turn.answered = 1

def Settled (loop : Keepalive) : Prop :=
  loop.unsent = [] ∧ ∀ turn ∈ loop.turns.head?, turn.internal → turn.answered = 1

def Awaiting (loop : Keepalive) (future : PeerFuture) : Prop :=
  future.FailsFast ∧ ∀ turn ∈ loop.turns.head?, turn.internal → Progress turn future

inductive Sound : Keepalive → Prop
  | selecting {loop : Keepalive} (phase : loop.phase = .selecting) (steady : loop.Steady)
      (settled : loop.Settled) : Sound loop
  | forwarding {loop : Keepalive} (message : DiameterMessage)
      (phase : loop.phase = .forwarding message) (steady : loop.Steady)
      (settled : loop.Settled) : Sound loop
  | sending {loop : Keepalive} (activity : Activity) (peer : DiameterPeer)
      (message : DiameterMessage) (next : Except DiameterError Unit → PeerFuture)
      (phase : loop.phase = .awaiting activity (.await peer (.send message) next))
      (steady : loop.Steady) (awaiting : loop.Awaiting (.await peer (.send message) next)) :
      Sound loop
  | closing {loop : Keepalive} (activity : Activity) (peer : DiameterPeer)
      (next : Except DiameterError Unit → PeerFuture)
      (phase : loop.phase = .awaiting activity (.await peer .close next))
      (steady : loop.Steady) (nothing : loop.unsent = [])
      (awaiting : loop.Awaiting (.await peer .close next)) : Sound loop
  | ended {loop : Keepalive} (result : Except DiameterError Unit)
      (phase : loop.phase = .ended result) (framed : loop.Framed) : Sound loop

lemma Steady.framed (steady : loop.Steady)
  (atMost : ∀ turn ∈ loop.turns.head?, turn.internal → turn.answered ≤ 1) : loop.Framed where
  whole := ⟨loop.unsent, steady.written⟩
  once := steady.once
  atMost := by
    intro turn member internal
    cases turns : loop.turns with
    | nil => simp [turns] at member
    | cons first rest =>
      rw [turns] at member
      rcases mem_cons.mp member with rfl | later
      · exact atMost _ (by simp [turns]) internal
      · exact Nat.le_of_eq (steady.once _ (by simpa [turns] using later) internal)

lemma Sound.framed (sound : loop.Sound) : loop.Framed := by
  cases sound with
  | selecting phase steady settled | forwarding message phase steady settled =>
    exact steady.framed fun turn member internal => Nat.le_of_eq (settled.2 turn member internal)
  | sending activity peer message next phase steady awaiting
  | closing activity peer next phase steady nothing awaiting =>
    exact steady.framed fun turn member internal => (awaiting.2 turn member internal).atMost
  | ended result phase framed => exact framed

lemma Steady.ends (steady : loop.Steady)
  (atMost : ∀ turn ∈ loop.turns.head?, turn.internal → turn.answered ≤ 1)
  (result : Except DiameterError Unit) : (loop.ends result).Sound :=
  have framed := steady.framed atMost
  .ended result rfl ⟨framed.whole, framed.atMost, framed.once⟩

section

variable (steady : loop.Steady) (nothing : loop.unsent = [])

include steady nothing

lemma Steady.selecting (once : ∀ turn ∈ loop.turns.head?, turn.internal → turn.answered = 1)
  (peer : DiameterPeer) (missedWatchdogs : ℕ) :
  Sound { loop with
    peer := peer, missedWatchdogs := missedWatchdogs, phase := .selecting, unsent := [] } :=
  .selecting rfl ⟨nothing ▸ steady.written, steady.once⟩ ⟨rfl, once⟩

lemma Steady.finish {result : Except DiameterError (Option PeerEvent)}
  (progress : ∀ turn ∈ loop.turns.head?, turn.internal → Progress turn (.done peer result)) :
  Sound ({ loop with peer := peer }.finish activity result) := by
  have atMost : ∀ turn ∈ loop.turns.head?, turn.internal → turn.answered ≤ 1 :=
    fun turn member internal => (progress turn member internal).atMost
  have steady' : Steady { loop with peer := peer } := ⟨steady.written, steady.once⟩
  cases result with
  | error error =>
    cases activity with
    | nextEvent | watchdog | disconnect => exact steady'.ends atMost _
  | ok event =>
    have once : ∀ turn ∈ loop.turns.head?, turn.internal → turn.answered = 1 :=
      fun turn member internal => (progress turn member internal).once
    cases activity with
    | watchdog => exact steady.selecting nothing once _ _
    | disconnect => exact steady'.ends atMost _
    | nextEvent =>
    cases event with
    | none => exact steady.selecting nothing once _ _
    | some event =>
    cases event with
    | established | watchdogAck => exact steady.selecting nothing once _ _
    | disconnected => exact steady'.ends atMost _
    | message message =>
      exact .forwarding message rfl ⟨nothing ▸ steady.written, steady.once⟩ ⟨rfl, once⟩

lemma Steady.poll {future : PeerFuture} (awaiting : loop.Awaiting future) :
  Sound (loop.poll activity future) := by
  obtain ⟨fast, progress⟩ := awaiting
  cases future with
  | done peer result => exact steady.finish nothing progress
  | await peer op next =>
    have written : loop.wire = loop.octets := by
      simpa [nothing] using steady.written
    cases op with
    | close =>
      have closing : Sound { loop with
          phase := .awaiting activity (.await peer .close next), unsent := [] } :=
        .closing activity peer next rfl ⟨nothing ▸ steady.written, steady.once⟩ rfl ⟨fast, progress⟩
      exact closing
    | send message =>
      refine .sending activity peer message next rfl ⟨?_, steady.once⟩ ⟨fast, progress⟩
      change loop.wire ++ message.encode =
        ((loop.begun ++ [message]).map DiameterMessage.encode).flatten
      rw [written, map_append, flatten_append, map_singleton, flatten_singleton]
      rfl

lemma Steady.tick (once : ∀ turn ∈ loop.turns.head?, turn.internal → turn.answered = 1) :
  Sound loop.tick := by
  unfold Keepalive.tick
  split
  case isFalse => exact steady.selecting nothing once _ _
  case isTrue isOpen =>
  split
  case isTrue =>
    exact steady.poll nothing ⟨failsFast_disconnect _ _, fun turn member internal =>
      .requesting (sends_disconnect isOpen .rebooting) (once turn member internal)⟩
  case isFalse =>
    exact steady.poll nothing ⟨failsFast_sendWatchdog _, fun turn member internal =>
      .requesting (sends_sendWatchdog isOpen) (once turn member internal)⟩

lemma Steady.receive (once : ∀ turn ∈ loop.turns.head?, turn.internal → turn.answered = 1)
  (message : DiameterMessage) : Sound (loop.receive message) := by
  have steady' : Steady { loop with
      turns := ⟨message, answersInternally loop.peer message, []⟩ :: loop.turns } := by
    refine ⟨steady.written, fun turn member internal => ?_⟩
    have member : turn ∈ loop.turns := member
    cases turns : loop.turns with
    | nil => simp [turns] at member
    | cons first rest =>
      rw [turns] at member
      rcases mem_cons.mp member with rfl | later
      · exact once _ (by simp [turns]) internal
      · exact steady.once _ (by simpa [turns] using later) internal
  refine steady'.poll nothing ⟨failsFast_nextEvent message _, fun turn member internal => ?_⟩
  cases Option.mem_some_iff.mp member
  exact .answering (sends_nextEvent internal) rfl

end

lemma Steady.wrote {message : DiameterMessage}
  (phase : loop.phase = .awaiting activity (.await peer (.send message) next))
  (steady : loop.Steady) (awaiting : loop.Awaiting (.await peer (.send message) next))
  (count : ℕ) : Sound (loop.wrote activity message next count) := by
  have written : loop.wire ++ loop.unsent.take count ++ loop.unsent.drop count = loop.octets := by
    rw [append_assoc, take_append_drop, steady.written]
  unfold Keepalive.wrote
  dsimp only
  split
  case isFalse => exact .sending activity peer message next phase ⟨written, steady.once⟩ awaiting
  case isTrue all =>
    have nothing := List.isEmpty_iff.mp all
    unfold note
    dsimp only
    cases turns : loop.turns with
    | nil =>
      exact Steady.poll ⟨written, by simp⟩ nothing ⟨awaiting.1.2 (), by simp⟩
    | cons turn rest =>
      refine Steady.poll ⟨written, ?_⟩ nothing ⟨awaiting.1.2 (), ?_⟩
      · simpa [turns] using steady.once
      · intro current member internal
        cases Option.mem_some_iff.mp member
        exact (awaiting.2 turn (by simp [turns]) internal).sent

lemma Steady.failed {op : TransportOp} (steady : loop.Steady)
  (awaiting : loop.Awaiting (.await peer op next)) (error : DiameterError) :
  Sound (loop.poll activity (next (.error error))) := by
  obtain ⟨left, ended⟩ := awaiting.1.1 error
  have steady' : Steady { loop with peer := left } := ⟨steady.written, steady.once⟩
  rw [ended]
  have atMost : ∀ turn ∈ loop.turns.head?, turn.internal → turn.answered ≤ 1 :=
    fun turn member internal => (awaiting.2 turn member internal).atMost
  cases activity with
  | nextEvent | watchdog | disconnect => exact steady'.ends atMost _

lemma sound_step (loop : Keepalive) (input : KeepaliveInput) (sound : loop.Sound)
  (undisturbed : Undisturbed loop input) : Sound (machine.step loop input).1 := by
  cases sound with
  | selecting phase steady settled =>
    have same : Sound loop := .selecting phase steady settled
    cases input with
    | tick => simpa [machine, phase] using steady.tick settled.1 settled.2
    | received message => simpa [machine, phase] using steady.receive settled.1 settled.2 message
    | readFailed error =>
      have ended := steady.ends
        (fun turn member internal => Nat.le_of_eq (settled.2 turn member internal))
        (.error error)
      simpa [machine, phase] using ended
    | wrote | shut | failed | forwarded => simpa [machine, phase] using same
  | forwarding message phase steady settled =>
    have same : Sound loop := .forwarding message phase steady settled
    cases input with
    | forwarded taken =>
      have ended := steady.ends
        (fun turn member internal => Nat.le_of_eq (settled.2 turn member internal)) (.ok ())
      have selecting : Sound { loop with phase := .selecting } :=
        .selecting rfl ⟨steady.written, steady.once⟩ settled
      cases taken with
      | true => simpa [machine, phase] using selecting
      | false => simpa [machine, phase] using ended
    | tick | received | readFailed | wrote | shut | failed =>
      simpa [machine, phase] using same
  | sending activity peer message next phase steady awaiting =>
    have same : Sound loop := .sending activity peer message next phase steady awaiting
    cases input with
    | tick =>
      have other : activity ≠ .nextEvent := by
        rintro rfl
        exact undisturbed rfl peer message next phase
      simpa [machine, phase, await, other] using same
    | wrote count =>
      simpa [machine, phase, await] using Steady.wrote phase steady awaiting count
    | failed error =>
      simpa [machine, phase, await] using steady.failed awaiting error
    | received | readFailed | shut | forwarded => simpa [machine, phase, await] using same
  | closing activity peer next phase steady nothing awaiting =>
    have same : Sound loop := .closing activity peer next phase steady nothing awaiting
    have once : ∀ turn ∈ loop.turns.head?, turn.internal → turn.answered = 1 :=
      fun turn member internal => (awaiting.2 turn member internal).shut.1
    cases input with
    | tick =>
      have dropped : Steady { loop with peer := peer } := ⟨steady.written, steady.once⟩
      have ticked : Sound { loop with peer := peer }.tick := dropped.tick nothing once
      cases activity with
      | nextEvent => simpa [machine, phase, await, Async.held] using ticked
      | watchdog | disconnect => simpa [machine, phase, await] using same
    | shut =>
      have shut : Sound (loop.poll activity (next (.ok ()))) :=
        steady.poll nothing ⟨awaiting.1.2 (),
          fun turn member internal => (awaiting.2 turn member internal).shut.2⟩
      simpa [machine, phase, await] using shut
    | failed error =>
      simpa [machine, phase, await] using steady.failed awaiting error
    | received | readFailed | wrote | forwarded => simpa [machine, phase, await] using same
  | ended result phase framed =>
    have same : Sound loop := .ended result phase framed
    simpa [machine, phase] using same

lemma sound_initially (peer : DiameterPeer) : Sound (initially peer) :=
  .selecting rfl ⟨rfl, by simp [initially]⟩ ⟨rfl, by simp [initially]⟩

/-- What is written in a run in which no write is given up half way is whole messages, one after
the other. -/
theorem framed_run (peer : DiameterPeer) {inputs : List KeepaliveInput}
  (undisturbed : machine.Along Undisturbed (initially peer) inputs) :
  (machine.run (initially peer) inputs).Framed :=
  (machine.invariant_run sound_step (sound_initially peer) undisturbed).framed

def hss : DiameterPeer :=
  { newResponder ⟨"h", "r", .new "hss", []⟩ 0 0 0 with state := .open }

def watchdogFromMme : DiameterMessage := .newRequest 280 0

def disconnectFromMme : DiameterMessage := .newRequest 282 0

/-- The timer fires before and after the DWA is written in two parts, and then a DPR comes. -/
def patientTimer : List KeepaliveInput :=
  [.tick, .wrote 56, .received watchdogFromMme, .wrote 26, .wrote 100, .tick, .wrote 56,
    .received disconnectFromMme, .wrote 100, .tick, .shut]

theorem framed_run_patientTimer : (machine.run (initially hss) patientTimer).Framed :=
  framed_run hss ⟨fun _ _ _ _ => nofun, nofun, nofun, nofun, nofun, fun _ _ _ _ => nofun, nofun,
    nofun, nofun, fun _ _ _ _ => nofun, nofun, trivial⟩

def hastyTimer : List KeepaliveInput :=
  [.received watchdogFromMme, .wrote 26, .tick, .wrote 56, .received watchdogFromMme]

/-- The DWR of the timer starts in the middle of the DWA, so that no messages begin with what is
written, and the peer's DWR is not answered. -/
theorem dwa_cut_by_tick : ¬ (machine.run (initially hss) hastyTimer).Framed ∧
  (∀ messages : List DiameterMessage, (∀ message ∈ messages, message.Encodable) →
    ¬ (machine.run (initially hss) hastyTimer).wire <+:
      (messages.map DiameterMessage.encode).flatten) ∧
  (machine.run (initially hss) hastyTimer).turns.map Turn.answered = [0, 0] := by
  refine ⟨fun framed => ?_, ?_, by decide⟩
  · exact absurd framed.whole (by decide)
  · intro messages encodable front
    cases messages with
    | nil =>
      have empty := prefix_nil.mp front
      exact absurd empty (by decide)
    | cons message messages =>
      obtain ⟨decoded, answer⟩ := (encodable message mem_cons_self).decodes front
        (by decide) (by decide) (by decide)
      have refused : (DiameterMessage.decode ((machine.run (initially hss) hastyTimer).wire.take
          (beValue (((machine.run (initially hss) hastyTimer).wire.drop 1).take
            3)))).toOption.isNone := by decide
      rw [answer] at refused
      cases refused

end Keepalive

end NextGCore.Diameter
