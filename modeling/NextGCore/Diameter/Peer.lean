import NextGCore.Diameter.Message
import NextGCore.Library.Tasks

/-!
# Peers and their applications
-/

namespace NextGCore.Diameter

open Library Program List

structure ApplicationId where
  id : UInt32
  /-- The vendor that defines the application, unless it is registered with the IETF. -/
  vendor : Option UInt32
  deriving DecidableEq

def ApplicationId.ietf (id : UInt32) : ApplicationId := ⟨id, none⟩

structure ApplicationRegistry where
  applications : List ApplicationId
  supportedVendors : List UInt32
  productName : String
  firmwareRevision : Option UInt32

namespace ApplicationRegistry

variable (registry : ApplicationRegistry)

def new (productName : String) : ApplicationRegistry := ⟨[], [], productName, none⟩

def capabilities (hostAddresses : List IpAddr) : List Avp :=
  hostAddresses.map (fun addr => .mandatory avp_code.HOST_IP_ADDRESS (.address addr)) ++
    [.mandatory avp_code.VENDOR_ID (.unsigned32 0),
      .mandatory avp_code.PRODUCT_NAME (.utf8String registry.productName)] ++
    registry.firmwareRevision.toList.map
      (fun revision => ⟨avp_code.FIRMWARE_REVISION, 0, none, .unsigned32 revision⟩) ++
    registry.supportedVendors.map
      (fun vendor => .mandatory avp_code.SUPPORTED_VENDOR_ID (.unsigned32 vendor)) ++
    registry.applications.map fun app =>
      match app.vendor with
      | some vendor =>
        .mandatory avp_code.VENDOR_SPECIFIC_APPLICATION_ID
          (.grouped [.mandatory avp_code.VENDOR_ID (.unsigned32 vendor),
            .mandatory avp_code.AUTH_APPLICATION_ID (.unsigned32 app.id)])
      | none => .mandatory avp_code.AUTH_APPLICATION_ID (.unsigned32 app.id)

def appendCapabilities (message : DiameterMessage) (hostAddresses : List IpAddr) :
  DiameterMessage :=
  { message with avps := message.avps ++ registry.capabilities hostAddresses }

def commonWith (peer : List ApplicationId) : List ApplicationId :=
  registry.applications.filter fun app => app.id ∈ peer.map (·.id)

def negotiate (peerApps : List ApplicationId) : Option (List ApplicationId) :=
  if registry.applications.isEmpty then some []
  else if peerApps.isEmpty then some []
  else
    let common := registry.commonWith peerApps
    if common.isEmpty then none else some common

end ApplicationRegistry

def vendorSpecificApplication (inner : List Avp) : Option ApplicationId :=
  let vendor := (findAvp inner avp_code.VENDOR_ID).bind Avp.asU32
  let id := (inner.find? fun avp => avp.code == avp_code.AUTH_APPLICATION_ID ||
    avp.code == avp_code.ACCT_APPLICATION_ID).bind Avp.asU32
  id.map fun id => ⟨id, vendor⟩

def advertisedBy (avp : Avp) : Option ApplicationId :=
  if avp.code = avp_code.AUTH_APPLICATION_ID ∨ avp.code = avp_code.ACCT_APPLICATION_ID then
    avp.asU32.map ApplicationId.ietf
  else if avp.code = avp_code.VENDOR_SPECIFIC_APPLICATION_ID then
    match avp.parseGrouped with
    | .ok inner => vendorSpecificApplication inner
    | .error _ => none
  else none

def advertisedApplications (message : DiameterMessage) : List ApplicationId :=
  message.avps.filterMap advertisedBy

def Compatible (registry : ApplicationRegistry) (peerApps : List ApplicationId) : Prop :=
  registry.applications ≠ [] → peerApps ≠ [] →
    ∃ own ∈ registry.applications, ∃ other ∈ peerApps, own.id = other.id

lemma ApplicationRegistry.negotiate_isSome_iff (registry : ApplicationRegistry)
  (peerApps : List ApplicationId) :
  (registry.negotiate peerApps).isSome ↔ Compatible registry peerApps := by
  have common : registry.commonWith peerApps ≠ [] ↔
      ∃ own ∈ registry.applications, ∃ other ∈ peerApps, own.id = other.id := by
    rw [ApplicationRegistry.commonWith, ← isEmpty_eq_false_iff, isEmpty_eq_false_iff_exists_mem]
    simp only [mem_filter, decide_eq_true_eq, mem_map]
    constructor
    · rintro ⟨own, member, other, among, same⟩
      exact ⟨own, member, other, among, same.symm⟩
    · rintro ⟨own, member, other, among, same⟩
      exact ⟨own, member, other, among, same.symm⟩
  unfold ApplicationRegistry.negotiate Compatible
  split
  case isTrue none => simp [isEmpty_iff.mp none]
  case isFalse some =>
    split
    case isTrue none => simp [isEmpty_iff.mp none]
    case isFalse some' =>
      rw [List.isEmpty_iff] at some some'
      simp only [some, some', ne_eq, not_false_eq_true, forall_const]
      rw [← common]
      split
      case isTrue none => simp [isEmpty_iff.mp none]
      case isFalse found => simpa [List.isEmpty_iff] using found

inductive PeerState where
  | closed
  | waitCea
  | waitCer
  | open
  | closing
  deriving DecidableEq

def PeerState.toText : PeerState → String
  | closed => "Closed"
  | waitCea => "WaitCEA"
  | waitCer => "WaitCER"
  | «open» => "Open"
  | closing => "Closing"

inductive DisconnectCause where
  | rebooting
  | busy
  | doNotWantToTalkToYou

def DisconnectCause.toI32 : DisconnectCause → Int32
  | rebooting => 0
  | busy => 1
  | doNotWantToTalkToYou => 2

inductive PeerEvent where
  | established (originHost originRealm : String)
  /-- Received an application-level message (not a base protocol message). -/
  | message (message : DiameterMessage)
  | disconnected
  | watchdogAck

inductive TransportOp where
  | send (message : DiameterMessage)
  | close

structure DiameterConfig where
  diameterId : String
  diameterRealm : String
  applications : ApplicationRegistry
  hostAddresses : List IpAddr

structure DiameterPeer where
  state : PeerState
  localHost : String
  localRealm : String
  remoteHost : Option String
  remoteRealm : Option String
  hopByHopSeq : UInt32
  endToEndSeq : UInt32
  applications : ApplicationRegistry
  hostAddresses : List IpAddr
  originStateId : UInt32

abbrev PeerProgram := Program DiameterPeer TransportOp Unit DiameterError

namespace DiameterPeer

variable (peer : DiameterPeer)

def newResponder (config : DiameterConfig) (hopByHopSeq endToEndSeq originStateId : UInt32) :
  DiameterPeer :=
  ⟨.waitCer, config.diameterId, config.diameterRealm, none, none, hopByHopSeq, endToEndSeq,
    config.applications, config.hostAddresses, originStateId⟩

def newInitiator (config : DiameterConfig) (hopByHopSeq endToEndSeq originStateId : UInt32) :
  DiameterPeer :=
  { newResponder config hopByHopSeq endToEndSeq originStateId with state := .closed }

def origin : List Avp :=
  [.mandatory avp_code.ORIGIN_HOST (.diameterIdentity peer.localHost),
    .mandatory avp_code.ORIGIN_REALM (.diameterIdentity peer.localRealm)]

def originState : Avp :=
  .mandatory avp_code.ORIGIN_STATE_ID (.unsigned32 peer.originStateId)

def numbered : DiameterPeer :=
  { peer with hopByHopSeq := peer.hopByHopSeq + 1, endToEndSeq := peer.endToEndSeq + 1 }

def request (command : UInt32) (avps : List Avp) : DiameterMessage :=
  ⟨{ DiameterHeader.newRequest command BASE_APPLICATION_ID with
      hopByHopId := peer.hopByHopSeq, endToEndId := peer.endToEndSeq }, avps⟩

def cer : DiameterMessage :=
  peer.applications.appendCapabilities
    (peer.request base_cmd.CAPABILITIES_EXCHANGE (peer.origin ++ [peer.originState]))
    peer.hostAddresses

def dwr : DiameterMessage :=
  peer.request base_cmd.DEVICE_WATCHDOG (peer.origin ++ [peer.originState])

def dpr (cause : DisconnectCause) : DiameterMessage :=
  peer.request base_cmd.DISCONNECT_PEER (peer.origin ++ [.mandatory 273 (.enumerated cause.toI32)])

def answer (request : DiameterMessage) (code : ResultCode) : DiameterMessage :=
  ⟨.newAnswer request.header,
    .mandatory avp_code.RESULT_CODE (.unsigned32 code.toU32) :: peer.origin⟩

def cea (cer : DiameterMessage) (code : ResultCode) : DiameterMessage :=
  peer.applications.appendCapabilities ((peer.answer cer code).addAvp peer.originState)
    peer.hostAddresses

def dwa (dwr : DiameterMessage) : DiameterMessage :=
  (peer.answer dwr .success).addAvp peer.originState

def dpa (dpr : DiameterMessage) : DiameterMessage :=
  peer.answer dpr .success

def sendCer : PeerProgram Unit := do
  Program.modify numbered
  let peer ← Program.get
  call (.send peer.cer)

def start : PeerProgram Unit := do
  let peer ← Program.get
  match peer.state with
  | .closed =>
    sendCer
    Program.modify fun peer => { peer with state := .waitCea }
  | .waitCer => pure ()
  | other => Program.throw (.protocol s!"cannot start peer in state {other.toText}")

def handleCer (cer : DiameterMessage) : PeerProgram PeerEvent := do
  let originHost ← Program.given cer.originHost (.missingAvp "Origin-Host")
  let originRealm ← Program.given cer.originRealm (.missingAvp "Origin-Realm")
  let peer ← Program.get
  let negotiated := peer.applications.negotiate (advertisedApplications cer)
  if negotiated.isSome then do
    call (.send (peer.cea cer .success))
    Program.modify fun peer =>
      { peer with remoteHost := some originHost, remoteRealm := some originRealm, state := .open }
    pure (.established originHost originRealm)
  else do
    call (.send (peer.cea cer .noCommonApplication))
    Program.modify fun peer => { peer with state := .closed }
    call .close
    pure .disconnected

def handleCea (cea : DiameterMessage) : PeerProgram PeerEvent := do
  let resultCode ← Program.given cea.resultCode (.missingAvp "Result-Code")
  if (ResultCode.ofU32 resultCode).isSuccess then do
    let originHost ← Program.given cea.originHost (.missingAvp "Origin-Host")
    let originRealm ← Program.given cea.originRealm (.missingAvp "Origin-Realm")
    Program.modify fun peer =>
      { peer with remoteHost := some originHost, remoteRealm := some originRealm, state := .open }
    pure (.established originHost originRealm)
  else do
    Program.modify fun peer => { peer with state := .closed }
    Program.throw (.protocol s!"CEA returned non-success result code: {resultCode}")

def handleDwr (dwr : DiameterMessage) : PeerProgram PeerEvent := do
  let peer ← Program.get
  call (.send (peer.dwa dwr))
  pure .watchdogAck

def handleDpr (dpr : DiameterMessage) : PeerProgram PeerEvent := do
  let peer ← Program.get
  call (.send (peer.dpa dpr))
  Program.modify fun peer => { peer with state := .closed }
  call .close
  pure .disconnected

def handleDpa : PeerProgram PeerEvent := do
  Program.modify fun peer => { peer with state := .closed }
  call .close
  pure .disconnected

/-- `handle_message`: a message by the state, its command and whether it is a request. -/
def processMessage (message : DiameterMessage) : PeerProgram PeerEvent := do
  let peer ← Program.get
  let cmd := message.header.commandCode
  let isRequest := message.header.isRequest
  if peer.state = .waitCer ∧ cmd = base_cmd.CAPABILITIES_EXCHANGE ∧ isRequest then
    handleCer message
  else if peer.state = .waitCea ∧ cmd = base_cmd.CAPABILITIES_EXCHANGE ∧ !isRequest then
    handleCea message
  else if peer.state = .open ∧ cmd = base_cmd.DEVICE_WATCHDOG ∧ isRequest then
    handleDwr message
  else if peer.state = .open ∧ cmd = base_cmd.DEVICE_WATCHDOG ∧ !isRequest then
    pure .watchdogAck
  else if peer.state = .open ∧ cmd = base_cmd.DISCONNECT_PEER ∧ isRequest then
    handleDpr message
  else if peer.state = .closing ∧ cmd = base_cmd.DISCONNECT_PEER ∧ !isRequest then
    handleDpa
  else if peer.state = .open then pure (.message message)
  else Program.throw (.protocol
    s!"unexpected command {cmd} (request={isRequest}) in state {peer.state.toText}")

def sendMessage (message : DiameterMessage) : PeerProgram Unit := do
  let peer ← Program.get
  if peer.state ≠ .open then
    Program.throw (.protocol s!"cannot send message in state {peer.state.toText}")
  else call (.send message)

def sendWatchdog : PeerProgram Unit := do
  let peer ← Program.get
  if peer.state ≠ .open then
    Program.throw (.protocol s!"cannot send watchdog in state {peer.state.toText}")
  else do
    Program.modify numbered
    let peer ← Program.get
    call (.send peer.dwr)

def disconnect (cause : DisconnectCause) : PeerProgram Unit := do
  let peer ← Program.get
  if peer.state ≠ .open then
    Program.throw (.protocol s!"cannot disconnect in state {peer.state.toText}")
  else do
    Program.modify numbered
    let peer ← Program.get
    call (.send (peer.dpr cause))
    Program.modify fun peer => { peer with state := .closing }

end DiameterPeer

inductive PeerCall where
  | nextEvent (message : DiameterMessage)
  | start
  | sendMessage (message : DiameterMessage)
  | sendWatchdog
  | disconnect (cause : DisconnectCause)

namespace PeerCall

def event (handler : PeerProgram PeerEvent) : PeerProgram (Option PeerEvent) := do
  let event ← handler
  pure (some event)

def silent (handler : PeerProgram Unit) : PeerProgram (Option PeerEvent) := do
  handler
  pure none

def program : PeerCall → PeerProgram (Option PeerEvent)
  | nextEvent message => event (DiameterPeer.processMessage message)
  | start => silent DiameterPeer.start
  | sendMessage message => silent (DiameterPeer.sendMessage message)
  | sendWatchdog => silent DiameterPeer.sendWatchdog
  | disconnect cause => silent (DiameterPeer.disconnect cause)

end PeerCall

end NextGCore.Diameter
