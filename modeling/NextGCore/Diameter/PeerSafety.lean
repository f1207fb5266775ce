import NextGCore.Diameter.Peer

/-!
# What a peer lets through

A connection is a peer and what happened to it.  Calls come in any order, and each is answered
by the transport or dropped where it awaits it.  A peer is open only after a capabilities
exchange, delivers only while open, and neither sends nor delivers anything of an application
when closed or closing: as long as nobody sends it capabilities or a disconnect answer while it
is open, and the CEA that opens it echoes its CER.
-/

namespace NextGCore.Diameter

open Library List Program DiameterPeer PeerCall Async

abbrev PeerOutcome :=
  Driven DiameterPeer TransportOp (Except DiameterError Unit)
    (Except DiameterError (Option PeerEvent))

structure PeerRecord where
  before : DiameterPeer
  call : PeerCall
  outcome : PeerOutcome

structure Connection where
  peer : DiameterPeer
  history : List PeerRecord

structure PeerInput where
  call : PeerCall
  answers : List (Except DiameterError Unit)

def PeerInput.record (input : PeerInput) (peer : DiameterPeer) : PeerRecord :=
  ⟨peer, input.call, (input.call.program.start peer).drive input.answers⟩

namespace Connection

def machine : Machine Connection PeerInput PeerRecord where
  step connection input :=
    let record := input.record connection.peer
    (⟨record.outcome.state, connection.history ++ [record]⟩, record)

end Connection

def cerSent : TransportOp × Option (Except DiameterError Unit) → Option UInt32
  | (.send message, some (.ok ())) =>
    if message.header.commandCode = base_cmd.CAPABILITIES_EXCHANGE ∧ message.header.isRequest
    then some message.header.hopByHopId else none
  | _ => none

def lastCer (history : List PeerRecord) : Option UInt32 :=
  ((history.flatMap (·.outcome.asked)).filterMap cerSent).getLast?

structure AcceptedCea (cea : DiameterMessage) : Prop where
  command : cea.header.commandCode = base_cmd.CAPABILITIES_EXCHANGE
  isAnswer : cea.header.isAnswer
  success : ∃ code, cea.resultCode = some code ∧ (ResultCode.ofU32 code).isSuccess
  origin : cea.originHost.isSome ∧ cea.originRealm.isSome

inductive Exchange (record : PeerRecord) : Prop where
  | answered (cer cea : DiameterMessage) (received : record.call = .nextEvent cer)
      (isCer : cer.header.commandCode = base_cmd.CAPABILITIES_EXCHANGE ∧ cer.header.isRequest)
      (sent : record.outcome.asked = [(.send cea, some (.ok ()))])
      (answers : cea.header = .newAnswer cer.header)
      (success : cea.resultCode = some ResultCode.success.toU32)
      (compatible : Compatible record.before.applications (advertisedApplications cer))
  | accepted (cea : DiameterMessage) (received : record.call = .nextEvent cea)
      (waiting : record.before.state = .waitCea) (success : AcceptedCea cea)

structure Lawful (record : PeerRecord) : Prop where
  opens : record.outcome.state.state = .open → record.before.state = .open ∨ Exchange record
  waits : record.outcome.state.state = .waitCea →
    (record.before.state = .waitCea ∧ record.outcome.asked = [] ∧
      record.outcome.state.hopByHopSeq = record.before.hopByHopSeq) ∨
    record.outcome.asked.filterMap cerSent = [record.outcome.state.hopByHopSeq]
  delivers : ∀ message, record.outcome.value = some (.ok (some (.message message))) →
    record.call = .nextEvent message ∧ record.before.state = .open ∧
      record.outcome.state.state = .open ∧
      message.header.commandCode ≠ base_cmd.DEVICE_WATCHDOG ∧
      ¬ (message.header.commandCode = base_cmd.DISCONNECT_PEER ∧ message.header.isRequest)
  quiet : record.before.state = .closed ∨ record.before.state = .closing →
    ∀ message answer, (TransportOp.send message, answer) ∈ record.outcome.asked →
      message.header.commandCode = base_cmd.CAPABILITIES_EXCHANGE

namespace Lawful

variable {peer : DiameterPeer} {call : PeerCall}

lemma still {value : Option (Except DiameterError (Option PeerEvent))}
  (noMessage : ∀ message, value ≠ some (.ok (some (.message message)))) :
  Lawful ⟨peer, call, ⟨peer, value, []⟩⟩ where
  opens opened := .inl opened
  waits waiting := .inl ⟨waiting, rfl, rfl⟩
  delivers message delivered := absurd delivered (noMessage message)
  quiet _ _ _ asked := absurd asked not_mem_nil

lemma leaves {outcome : PeerOutcome} (wasOpen : peer.state ≠ .closed ∧ peer.state ≠ .closing)
  (notOpen : outcome.state.state = .open → peer.state = .open)
  (notWaiting : outcome.state.state ≠ .waitCea)
  (noMessage : ∀ message, outcome.value ≠ some (.ok (some (.message message)))) :
  Lawful ⟨peer, call, outcome⟩ where
  opens opened := .inl (notOpen opened)
  waits waiting := absurd waiting notWaiting
  delivers message delivered := absurd delivered (noMessage message)
  quiet isClosed := (isClosed.elim wasOpen.1 wasOpen.2).elim

end Lawful

lemma resultCode_cea (peer : DiameterPeer) (cer : DiameterMessage) (code : ResultCode) :
  (peer.cea cer code).resultCode = some code.toU32 := by
  rfl

lemma filterMap_cerSent_cer (peer : DiameterPeer) :
  [(TransportOp.send peer.cer, some (Except.ok ()))].filterMap cerSent = [peer.hopByHopSeq] := by
  have isCer : peer.cer.header.commandCode = base_cmd.CAPABILITIES_EXCHANGE ∧
      peer.cer.header.isRequest := by
    refine ⟨rfl, ?_⟩
    change (cmd_flags.REQUEST ||| cmd_flags.PROXIABLE) &&& cmd_flags.REQUEST != 0
    decide
  exact filterMap_cons_some (if_pos isCer)

section Handlers

variable {peer : DiameterPeer} {message : DiameterMessage}
  (answers : List (Except DiameterError Unit))

lemma lawful_handleCer (state : peer.state = .waitCer)
  (isCer : message.header.commandCode = base_cmd.CAPABILITIES_EXCHANGE ∧
    message.header.isRequest) :
  Lawful ⟨peer, .nextEvent message, ((event (handleCer message)).start peer).drive answers⟩ := by
  have waits : peer.state ≠ .closed ∧ peer.state ≠ .closing := by simp [state]
  have notCea : peer.state ≠ .waitCea := by simp [state]
  unfold event handleCer
  cases host : message.originHost with
  | none => exact .still nofun
  | some host' =>
  cases realm : message.originRealm with
  | none => exact .still nofun
  | some realm' =>
  simp only [start_bind, start_given_some, start_get, andThen_done, following_ok, start_ite]
  by_cases compatible : (peer.applications.negotiate (advertisedApplications message)).isSome
  · rw [if_pos compatible]
    match answers with
    | [] | .error _ :: _ => exact .leaves waits id notCea nofun
    | .ok () :: _ =>
      exact {
        opens := fun _ => .inr (.answered message (peer.cea message .success) rfl isCer rfl rfl
          (resultCode_cea peer message .success)
          ((peer.applications.negotiate_isSome_iff _).mp compatible))
        waits := nofun
        delivers := nofun
        quiet := fun isClosed => (isClosed.elim waits.1 waits.2).elim }
  · rw [if_neg compatible]
    match answers with
    | [] | .error _ :: _ => exact .leaves waits id notCea nofun
    | [.ok ()] | .ok () :: .error _ :: _ | .ok () :: .ok () :: _ =>
      exact .leaves waits nofun nofun nofun

lemma lawful_handleCea (state : peer.state = .waitCea)
  (isCea : message.header.commandCode = base_cmd.CAPABILITIES_EXCHANGE ∧
    message.header.isAnswer) :
  Lawful ⟨peer, .nextEvent message, ((event (handleCea message)).start peer).drive answers⟩ := by
  have waits : peer.state ≠ .closed ∧ peer.state ≠ .closing := by simp [state]
  unfold event handleCea
  cases result : message.resultCode with
  | none => exact .still nofun
  | some code =>
  simp only [start_bind, start_given_some, andThen_done, following_ok, start_ite]
  by_cases success : (ResultCode.ofU32 code).isSuccess
  · rw [if_pos success]
    cases host : message.originHost with
    | none => exact .still nofun
    | some host' =>
    cases realm : message.originRealm with
    | none => exact .still nofun
    | some realm' =>
      exact {
        opens := fun _ => .inr (.accepted message rfl state
          ⟨isCea.1, isCea.2, ⟨code, result, success⟩, by simp [host, realm]⟩)
        waits := nofun
        delivers := nofun
        quiet := fun isClosed => (isClosed.elim waits.1 waits.2).elim }
  · rw [if_neg success]
    exact .leaves waits nofun nofun nofun

lemma apart_of_open (state : peer.state = .open) :
  (peer.state ≠ .closed ∧ peer.state ≠ .closing) ∧ peer.state ≠ .waitCea := by
  simp [state]

lemma lawful_handleDwr (state : peer.state = .open) : Lawful ⟨peer, .nextEvent message,
    ((event (handleDwr message)).start peer).drive answers⟩ := by
  obtain ⟨opened, notCea⟩ := apart_of_open state
  match answers with
  | [] | .error _ :: _ | .ok () :: _ => exact .leaves opened id notCea nofun

lemma lawful_handleDpr (state : peer.state = .open) : Lawful ⟨peer, .nextEvent message,
    ((event (handleDpr message)).start peer).drive answers⟩ := by
  obtain ⟨opened, notCea⟩ := apart_of_open state
  match answers with
  | [] | .error _ :: _ => exact .leaves opened id notCea nofun
  | [.ok ()] | .ok () :: .error _ :: _ | .ok () :: .ok () :: _ =>
    exact .leaves opened nofun nofun nofun

lemma lawful_handleDpa : Lawful ⟨peer, .nextEvent message,
    ((event handleDpa).start peer).drive answers⟩ := by
  match answers with
  | [] | .error _ :: _ | .ok () :: _ =>
    exact {
      opens := nofun
      waits := nofun
      delivers := nofun
      quiet := fun _ _ _ asked => by cases mem_singleton.mp asked }

lemma lawful_nextEvent : Lawful ⟨peer, .nextEvent message,
    ((PeerCall.nextEvent message).program.start peer).drive answers⟩ := by
  unfold program event processMessage
  simp only [start_bind, start_get, andThen_done, following_ok, start_ite]
  split
  case isTrue arm => exact lawful_handleCer answers arm.1 arm.2
  case isFalse =>
  split
  case isTrue arm => exact lawful_handleCea answers arm.1 arm.2
  case isFalse =>
  split
  case isTrue arm => exact lawful_handleDwr answers arm.1
  case isFalse noDwr =>
  split
  case isTrue => exact .still nofun
  case isFalse noDwa =>
  split
  case isTrue arm => exact lawful_handleDpr answers arm.1
  case isFalse noDpr =>
  split
  case isTrue => exact lawful_handleDpa answers
  case isFalse =>
  split
  case isTrue isOpen =>
    have noWatchdog : message.header.commandCode ≠ base_cmd.DEVICE_WATCHDOG := by
      intro watchdog
      cases request : message.header.isRequest with
      | true => exact noDwr ⟨isOpen, watchdog, request⟩
      | false => exact noDwa ⟨isOpen, watchdog, by rw [request]; rfl⟩
    exact {
      opens := fun _ => .inl isOpen
      waits := fun waiting => by cases isOpen.symm.trans waiting
      delivers := by
        rintro _ ⟨⟩
        exact ⟨rfl, isOpen, isOpen, noWatchdog, fun dpr => noDpr ⟨isOpen, dpr⟩⟩
      quiet := fun isClosed => by simp [isOpen] at isClosed }
  case isFalse => exact .still nofun

lemma lawful_start :
  Lawful ⟨peer, .start, (PeerCall.start.program.start peer).drive answers⟩ := by
  unfold program silent DiameterPeer.start
  simp only [start_bind, start_get, andThen_done, following_ok]
  cases state : peer.state with
  | closed =>
    match answers with
    | [] | .error _ :: _ =>
      exact {
        opens := fun opened => by cases state.symm.trans opened
        waits := fun waiting => by cases state.symm.trans waiting
        delivers := nofun
        quiet := by
          rintro - message answer asked
          cases mem_singleton.mp asked
          rfl }
    | .ok () :: _ =>
      exact {
        opens := nofun
        waits := fun _ => .inr (filterMap_cerSent_cer peer.numbered)
        delivers := nofun
        quiet := by
          rintro - message answer asked
          cases mem_singleton.mp asked
          rfl }
  | waitCer | waitCea | «open» | closing => exact .still nofun

lemma lawful_sendMessage : Lawful ⟨peer, .sendMessage message,
    ((PeerCall.sendMessage message).program.start peer).drive answers⟩ := by
  unfold program silent DiameterPeer.sendMessage
  simp only [start_bind, start_get, andThen_done, following_ok, start_ite]
  split
  case isTrue => exact .still nofun
  case isFalse isOpen =>
    obtain ⟨opened, notCea⟩ := apart_of_open (not_not.mp isOpen)
    match answers with
    | [] | .error _ :: _ | .ok () :: _ => exact .leaves opened id notCea nofun

lemma lawful_sendWatchdog :
  Lawful ⟨peer, .sendWatchdog, (PeerCall.sendWatchdog.program.start peer).drive answers⟩ := by
  unfold program silent DiameterPeer.sendWatchdog
  simp only [start_bind, start_get, andThen_done, following_ok, start_ite]
  split
  case isTrue => exact .still nofun
  case isFalse isOpen =>
    obtain ⟨opened, notCea⟩ := apart_of_open (not_not.mp isOpen)
    match answers with
    | [] | .error _ :: _ | .ok () :: _ => exact .leaves opened id notCea nofun

lemma lawful_disconnect (cause : DisconnectCause) : Lawful ⟨peer, .disconnect cause,
    ((PeerCall.disconnect cause).program.start peer).drive answers⟩ := by
  unfold program silent DiameterPeer.disconnect
  simp only [start_bind, start_get, andThen_done, following_ok, start_ite]
  split
  case isTrue => exact .still nofun
  case isFalse isOpen =>
    obtain ⟨opened, notCea⟩ := apart_of_open (not_not.mp isOpen)
    match answers with
    | [] | .error _ :: _ => exact .leaves opened id notCea nofun
    | .ok () :: _ => exact .leaves opened nofun nofun nofun

end Handlers

lemma lawful_record (input : PeerInput) (peer : DiameterPeer) : Lawful (input.record peer) := by
  obtain ⟨call, answers⟩ := input
  cases call with
  | nextEvent message => exact lawful_nextEvent answers
  | start => exact lawful_start answers
  | sendMessage message => exact lawful_sendMessage answers
  | sendWatchdog => exact lawful_sendWatchdog answers
  | disconnect cause => exact lawful_disconnect answers cause

/-- The exchange that opened the peer, after which it stayed open.  A CEA echoes the last CER
that went out. -/
structure Opening (history : List PeerRecord) where
  earlier : List PeerRecord
  record : PeerRecord
  later : List PeerRecord
  parts : history = earlier ++ record :: later
  exchange : Exchange record
  echoes : ∀ cea, record.call = .nextEvent cea → AcceptedCea cea →
    lastCer earlier = some cea.header.hopByHopId
  stays : ∀ after ∈ record :: later, after.outcome.state.state = .open

lemma Opening.stillOpen {history : List PeerRecord} (opening : Opening history)
  {record : PeerRecord} (isOpen : record.outcome.state.state = .open) :
  Nonempty (Opening (history ++ [record])) :=
  ⟨{ opening with
      later := opening.later ++ [record]
      parts := (congrArg (· ++ [record]) opening.parts).trans (by simp)
      stays := by
        intro after member
        rw [← cons_append, mem_append, mem_singleton] at member
        rcases member with before | rfl
        · exact opening.stays after before
        · exact isOpen }⟩

lemma lastCer_append (history : List PeerRecord) (record : PeerRecord) :
  lastCer (history ++ [record]) = ((history.flatMap (·.outcome.asked)).filterMap cerSent ++
      record.outcome.asked.filterMap cerSent).getLast? := by
  rw [lastCer, flatMap_append, filterMap_append, flatMap_singleton]

def BaseCommand (command : UInt32) : Prop :=
  command = base_cmd.CAPABILITIES_EXCHANGE ∨ command = base_cmd.DEVICE_WATCHDOG ∨
    command = base_cmd.DISCONNECT_PEER

namespace Connection

structure Safe (connection : Connection) : Prop where
  opened : connection.peer.state = .open → Nonempty (Opening connection.history)
  delivers : ∀ record ∈ connection.history, ∀ message,
    record.outcome.value = some (.ok (some (.message message))) →
      ¬ BaseCommand message.header.commandCode ∧ record.before.state = .open ∧
        record.outcome.state.state = .open
  quiet : ∀ record ∈ connection.history,
    record.before.state = .closed ∨ record.before.state = .closing →
      (∀ message answer, (TransportOp.send message, answer) ∈ record.outcome.asked →
        BaseCommand message.header.commandCode) ∧
      ∀ message, record.outcome.value ≠ some (.ok (some (.message message)))

/-- While open, no capabilities and no DPA arrive; and a CEA that is a success echoes the number
of the last request. -/
def Regular (connection : Connection) (input : PeerInput) : Prop :=
  ∀ message, input.call = .nextEvent message → (connection.peer.state = .open →
      message.header.commandCode ≠ base_cmd.CAPABILITIES_EXCHANGE ∧
        ¬ (message.header.commandCode = base_cmd.DISCONNECT_PEER ∧ message.header.isAnswer)) ∧
    (connection.peer.state = .waitCea → AcceptedCea message →
      message.header.hopByHopId = connection.peer.hopByHopSeq)

structure Sound (connection : Connection) : Prop extends Safe connection where
  awaits : connection.peer.state = .waitCea →
    lastCer connection.history = some connection.peer.hopByHopSeq

lemma sound_step (connection : Connection) (input : PeerInput) (sound : Sound connection)
  (regular : Regular connection input) : Sound (machine.step connection input).1 := by
  have lawful := lawful_record input connection.peer
  change Sound ⟨(input.record connection.peer).outcome.state,
    connection.history ++ [input.record connection.peer]⟩
  refine ⟨⟨fun opened => ?_, fun record member => ?_, fun record member => ?_⟩, fun waiting => ?_⟩
  · rcases lawful.opens opened with before | exchange
    · obtain ⟨opening⟩ := sound.opened before
      exact opening.stillOpen opened
    · refine ⟨⟨connection.history, input.record connection.peer, [], rfl, exchange, ?_, ?_⟩⟩
      · intro cea received accepted
        cases exchange with
        | answered cer cea' received' isCer =>
          cases received'.symm.trans received
          exact absurd accepted.isAnswer (by simp [DiameterHeader.isAnswer, isCer.2])
        | accepted cea' received' waiting =>
          rw [sound.awaits waiting, (regular cea received).2 waiting accepted]
      · intro after member
        cases mem_singleton.mp member
        exact opened
  · rcases mem_append.mp member with earlier | now
    · exact sound.delivers record earlier
    · cases mem_singleton.mp now
      intro message delivered
      obtain ⟨received, before, after, noWatchdog, noDpr⟩ := lawful.delivers message delivered
      obtain ⟨noCapabilities, noDpa⟩ := (regular message received).1 before
      refine ⟨?_, before, after⟩
      rintro (capabilities | watchdog | disconnect)
      · exact noCapabilities capabilities
      · exact noWatchdog watchdog
      · cases request : message.header.isRequest with
        | true => exact noDpr ⟨disconnect, request⟩
        | false => exact noDpa ⟨disconnect, by simp [DiameterHeader.isAnswer, request]⟩
  · rcases mem_append.mp member with earlier | now
    · exact sound.quiet record earlier
    · cases mem_singleton.mp now
      intro isClosed
      refine ⟨fun message answer asked => .inl (lawful.quiet isClosed message answer asked), ?_⟩
      intro message delivered
      have before := (lawful.delivers message delivered).2.1
      simp [before] at isClosed
  · rw [lastCer_append]
    rcases lawful.waits waiting with ⟨before, asked, same⟩ | sent
    · rw [asked, filterMap_nil, append_nil]
      exact (sound.awaits before).trans (congrArg some same.symm)
    · rw [sent, getLast?_concat]

lemma sound_fresh (peer : DiameterPeer) (notOpen : peer.state ≠ .open)
  (notWaiting : peer.state ≠ .waitCea) : Sound ⟨peer, []⟩ :=
  ⟨⟨fun opened => absurd opened notOpen, fun _ member => absurd member not_mem_nil,
    fun _ member => absurd member not_mem_nil⟩, fun waiting => absurd waiting notWaiting⟩

inductive Fresh : Connection → Prop
  | responder (config : DiameterConfig) (hopByHopSeq endToEndSeq originStateId : UInt32) :
      Fresh ⟨.newResponder config hopByHopSeq endToEndSeq originStateId, []⟩
  | initiator (config : DiameterConfig) (hopByHopSeq endToEndSeq originStateId : UInt32) :
      Fresh ⟨.newInitiator config hopByHopSeq endToEndSeq originStateId, []⟩

lemma Fresh.sound {connection : Connection} (fresh : Fresh connection) : Sound connection := by
  cases fresh with
  | responder | initiator => exact sound_fresh _ PeerState.noConfusion PeerState.noConfusion

/-- The peer is safe in every state of a run whose steps are regular. -/
theorem peer_safe {connection : Connection} (fresh : Fresh connection) {inputs : List PeerInput}
  (regular : machine.Along Regular connection inputs) :
  Safe (machine.run connection inputs) :=
  (machine.invariant_run sound_step fresh.sound regular).toSafe

def plain : DiameterConfig := ⟨"mme.example.com", "example.com", .new "plain", []⟩

def initiator : Connection := ⟨.newInitiator plain 0 0 0, []⟩

def responder : Connection := ⟨.newResponder plain 0 0 0, []⟩

def fromHss (header : DiameterHeader) : DiameterMessage :=
  ⟨header, [.mandatory avp_code.RESULT_CODE (.unsigned32 2001),
    .mandatory avp_code.ORIGIN_HOST (.diameterIdentity "hss.example.com"),
    .mandatory avp_code.ORIGIN_REALM (.diameterIdentity "example.com")]⟩

def capabilities : DiameterMessage := fromHss (.newRequest 257 0)

def echoing (hopByHopId : UInt32) : DiameterMessage :=
  fromHss { DiameterHeader.newAnswer capabilities.header with hopByHopId := hopByHopId }

def established : List PeerInput :=
  [⟨.start, [.ok ()]⟩, ⟨.nextEvent (echoing 1), []⟩, ⟨.nextEvent (fromHss (.newRequest 319 1)), []⟩]

theorem peer_safe_established : Safe (machine.run initiator established) ∧
  (machine.run initiator established).peer.state = .open := by
  refine ⟨peer_safe (.initiator plain 0 0 0) ⟨nofun, ?_, ?_, trivial⟩, rfl⟩
  · rintro message ⟨⟩
    exact ⟨nofun, fun _ _ => rfl⟩
  · rintro message ⟨⟩
    exact ⟨fun _ => by decide, nofun⟩

/-- A CEA of any number opens the peer, and an open peer delivers a CER. -/
theorem peer_confused :
  ¬ Safe (machine.run initiator [⟨.start, [.ok ()]⟩, ⟨.nextEvent (echoing 99), []⟩]) ∧
  ¬ Safe (machine.run responder
    [⟨.nextEvent capabilities, [.ok ()]⟩, ⟨.nextEvent capabilities, []⟩]) := by
  constructor
  · intro safe
    obtain ⟨⟨earlier, record, later, parts, exchange, echoes, -⟩⟩ := safe.opened rfl
    cases earlier with
    | nil =>
      cases parts
      cases exchange with
      | answered cer cea received | accepted cea received => cases received
    | cons first rest =>
      cases rest with
      | nil =>
        cases parts
        have unheard := echoes (echoing 99) rfl ⟨rfl, by decide, ⟨2001, rfl, by decide⟩, by decide⟩
        revert unheard
        decide
      | cons second rest =>
        have lengths : 2 = (first :: second :: rest ++ record :: later).length :=
          congrArg length parts
        simp at lengths
  · intro safe
    have delivered := safe.delivers _ (mem_cons_of_mem _ mem_cons_self) capabilities rfl
    exact delivered.1 (.inl rfl)

end Connection

end NextGCore.Diameter
