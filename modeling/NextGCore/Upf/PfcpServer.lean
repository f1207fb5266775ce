import NextGCore.Upf.FlowDescription
import NextGCore.Upf.Pfcp
import NextGCore.Upf.SessionManager

/-!
# The PFCP server

The server answers the requests of its peers, keeps one association and the sessions by their
SEID, and sends the data plane an event for each change.  The data plane handles the events in
their order, in a task of its own, which ends when a flow description makes the compiler panic.
-/

namespace NextGCore.Upf

open Library ParsedIe PfcpIe ParsedOuterHeaderCreation

structure PfcpAssociation where
  peerAddr : SocketAddr
  recoveryTimeStamp : UInt32

structure PfcpSessionInfo where
  upfSeid : UInt64
  smfSeid : UInt64
  smfAddr : SocketAddr
  ueIpv4 : Option UInt32
  ulTeid : UInt32
  dlTeid : UInt32
  gnbAddr : Option UInt32
  deriving DecidableEq

structure SessionEstablished where
  upfSeid : UInt64
  smfSeid : UInt64
  ueIpv4 : Option UInt32
  ulTeid : UInt32
  dlTeid : UInt32
  gnbAddr : Option UInt32
  pdrs : List ParsedCreatePdr
  fars : List ParsedCreateFar
  qers : List ParsedCreateQer
  urrs : List ParsedCreateUrr
  bars : List DataPlaneBar

inductive PfcpSessionEvent where
  | sessionEstablished (established : SessionEstablished)
  | sessionModified (upfSeid : UInt64) (modified : SessionModified)
  | sessionDeleted (upfSeid : UInt64)
  | peerFailure (peer : SocketAddr)

inductive PfcpCause where
  | sessionContextNotFound
  | mandatoryIeMissing
  | mandatoryIeIncorrect
  | noEstablishedPfcpAssociation
  deriving DecidableEq

structure CreatedPdr where
  pdrId : UInt16
  localFTeid : Option UInt32
  deriving DecidableEq

inductive EstablishmentResponse where
  | rejected (cause : PfcpCause) (offendingIe : Option UInt16)
  | accepted (upfSeid : UInt64) (createdPdrs : List CreatedPdr)
  deriving DecidableEq

structure PfcpServer where
  nextSeid : UInt64
  nextTeid : UInt32
  sessions : AList fun _ : UInt64 => PfcpSessionInfo
  association : Option PfcpAssociation

def missingIe (ies : List ParsedIe) : Option UInt16 :=
  [NODE_ID, F_SEID, CREATE_PDR, CREATE_FAR].find? fun ieType => (findIe ies ieType).isNone

structure PdrScan where
  nextTeid : UInt32
  ulTeid : UInt32
  ueIpv4 : Option UInt32
  createdPdrs : List CreatedPdr

def ParsedFTeid.asks (fTeid : ParsedFTeid) : Bool := fTeid.ch || fTeid.teid == 0

def PdrScan.turn (scan : PdrScan) (pdr : ParsedCreatePdr) : PdrScan :=
  let ueIpv4 := (pdr.pdi.ueIpAddress.bind ParsedUeIpAddr.ipv4).or scan.ueIpv4
  match pdr.pdi.localFTeid with
  | none => { scan with ueIpv4, createdPdrs := scan.createdPdrs ++ [⟨pdr.pdrId, none⟩] }
  | some fTeid =>
    if fTeid.asks then
      {
        nextTeid := scan.nextTeid + 1
        ulTeid := scan.nextTeid
        ueIpv4
        createdPdrs := scan.createdPdrs ++ [⟨pdr.pdrId, some scan.nextTeid⟩]
      }
    else
      { scan with
        ulTeid := fTeid.teid
        ueIpv4
        createdPdrs := scan.createdPdrs ++ [⟨pdr.pdrId, none⟩] }

def scanPdrs (nextTeid : UInt32) (pdrs : List ParsedCreatePdr) : PdrScan :=
  pdrs.foldl PdrScan.turn ⟨nextTeid, 0, none, []⟩

def ParsedCreateFar.outerHeaderCreation (far : ParsedCreateFar) :
  Option ParsedOuterHeaderCreation :=
  far.forwardingParameters.bind ParsedForwardingParameters.outerHeaderCreation

def tunnelOf (fars : List ParsedCreateFar) : Option ParsedOuterHeaderCreation :=
  (fars.filterMap ParsedCreateFar.outerHeaderCreation).getLast?

namespace PfcpServer

variable (server : PfcpServer)

def new : PfcpServer := ⟨1, 0x10000, ∅, none⟩

def established (smfSeid : UInt64) (ies : List ParsedIe) : SessionEstablished :=
  let pdrs := parsedRules parseCreatePdr ies CREATE_PDR
  let fars := parsedRules parseCreateFar ies CREATE_FAR
  let scan := scanPdrs server.nextTeid pdrs
  {
    upfSeid := server.nextSeid
    smfSeid
    ueIpv4 := scan.ueIpv4
    ulTeid := scan.ulTeid
    dlTeid := ((tunnelOf fars).map teid).getD 0
    gnbAddr := (tunnelOf fars).bind ipv4
    pdrs
    fars
    qers := parsedRules parseCreateQer ies CREATE_QER
    urrs := parsedRules parseCreateUrr ies CREATE_URR
    bars := parsedRules parseCreateBar ies CREATE_BAR
  }

/-- The checks of a request, and the SEID of the SMF that it gives. Any association will do. -/
def admission (ies : List ParsedIe) : Except (PfcpCause × Option UInt16) UInt64 :=
  if server.association.isNone then .error (.noEstablishedPfcpAssociation, none)
  else
    match missingIe ies with
    | some offending => .error (.mandatoryIeMissing, some offending)
    | none =>
      match ParsedFSeid.parse (((findIe ies F_SEID).map ParsedIe.value).getD []) with
      | .error _ => .error (.mandatoryIeIncorrect, some F_SEID)
      | .ok fSeid => .ok fSeid.seid

def handleSessionEstablishmentRequest (payload : Bytes) (srcAddr : SocketAddr) :
  PfcpServer × EstablishmentResponse × List PfcpSessionEvent :=
  let ies := parseAll payload
  match server.admission ies with
  | .error rejection => (server, .rejected rejection.1 rejection.2, [])
  | .ok smfSeid =>
    let event := server.established smfSeid ies
    let scan := scanPdrs server.nextTeid event.pdrs
    let info := ⟨event.upfSeid, smfSeid, srcAddr, event.ueIpv4, event.ulTeid, event.dlTeid,
      event.gnbAddr⟩
    ({ server with
        nextSeid := server.nextSeid + 1
        nextTeid := scan.nextTeid
        sessions := server.sessions.insert event.upfSeid info },
      .accepted event.upfSeid scan.createdPdrs, [.sessionEstablished event])

/-- Only the peer that holds the association may tear it down; the sessions all go. -/
def declarePeerFailure (peer : SocketAddr) : PfcpServer × List PfcpSessionEvent :=
  match server.association with
  | none => (server, [])
  | some association =>
    if association.peerAddr = peer then
      ({ server with association := none, sessions := ∅ }, [.peerFailure peer])
    else (server, [])

def restarted (srcAddr : SocketAddr) (rts : UInt32) : Bool :=
  server.association.any fun association =>
    association.peerAddr = srcAddr && association.recoveryTimeStamp != rts

def checkPeerRecovery (srcAddr : SocketAddr) (rts : UInt32) : PfcpServer × List PfcpSessionEvent :=
  if server.restarted srcAddr rts then server.declarePeerFailure srcAddr else (server, [])

def handleHeartbeat (payload : Bytes) (srcAddr : SocketAddr) : PfcpServer × List PfcpSessionEvent :=
  match parseRecoveryTimeStamp payload with
  | some rts => server.checkPeerRecovery srcAddr rts
  | none => (server, [])

/-- Without a Node ID or a time stamp the request is refused; else its peer has the association
from now on. -/
def handleAssociationSetupRequest (payload : Bytes) (srcAddr : SocketAddr) :
  PfcpServer × List PfcpSessionEvent :=
  match (findIe (parseAll payload) NODE_ID).bind fun _ => parseRecoveryTimeStamp payload with
  | none => (server, [])
  | some rts =>
    let checked := server.checkPeerRecovery srcAddr rts
    ({ checked.1 with association := some ⟨srcAddr, rts⟩ }, checked.2)

def handleAssociationReleaseRequest (srcAddr : SocketAddr) : PfcpServer × List PfcpSessionEvent :=
  server.declarePeerFailure srcAddr

end PfcpServer

def SessionModified.ofRequest (payload : Bytes) : SessionModified :=
  let ies := parseAll payload
  let updatedFars := parsedRules parseCreateFar ies UPDATE_FAR
  {
    dlTeid := (tunnelOf updatedFars).map teid
    gnbAddr := (tunnelOf updatedFars).bind ipv4
    updatedFars
    updatedQers := parsedRules parseCreateQer ies UPDATE_QER
    updatedBars := parsedRules parseCreateBar ies CREATE_BAR ++
      parsedRules parseCreateBar ies UPDATE_BAR
    dropBuffered := (parsePfcpsmreqFlags payload).getD 0 &&& 0x01 != 0
  }

def ParsedCreatePdr.install (pdr : ParsedCreatePdr) : Option DataPlanePdr :=
  (compileSdf pdr.pdi.sdfFlowDescription).map fun sdfRule =>
    ⟨pdr.pdrId, pdr.precedence, pdr.pdi.sourceInterface, pdr.farId, pdr.qerId, pdr.urrIds, sdfRule,
      pdr.pdi.qfi⟩

def ParsedCreateUrr.install (urr : ParsedCreateUrr) (now : ℕ) : DataPlaneUrr :=
  { DataPlaneUrr.new urr.urrId now with
    volumeThresholdTotal := urr.volumeThresholdTotal
    volumeThresholdUl := urr.volumeThresholdUl
    volumeThresholdDl := urr.volumeThresholdDl
    timeThresholdSecs := urr.timeThresholdSecs }

def defaultPdrs : List DataPlanePdr :=
  [⟨1, 100, SRC_INTF_ACCESS, some 1, none, [], none, none⟩,
    ⟨2, 100, SRC_INTF_CORE, some 2, none, [], none, none⟩]

def sortPdrs (pdrs : List DataPlanePdr) : List DataPlanePdr :=
  pdrs.insertionSort fun first second => first.precedence ≤ second.precedence

def tableOf {Record Key : Type} [DecidableEq Key] {key : Record → Key} (records : List Record) :
  KeyedTable Record key :=
  records.foldl KeyedTable.insert .empty

namespace DataPlaneSession

def install (session : DataPlaneSession) (event : SessionEstablished)
  (pdrs : List DataPlanePdr) (now : ℕ) : DataPlaneSession :=
  { session with
    pdrs := if pdrs.isEmpty then session.pdrs else sortPdrs pdrs
    fars := if event.fars.isEmpty then session.fars
      else tableOf (event.fars.map ParsedCreateFar.install)
    bars := if event.bars.isEmpty then session.bars else tableOf event.bars
    qers := if event.qers.isEmpty then session.qers
      else tableOf (event.qers.map ParsedCreateQer.install)
    urrs := if event.urrs.isEmpty then session.urrs
      else tableOf (event.urrs.map fun urr => urr.install now) }

/-- The session that `add_session_from_pfcp` adds: two PDRs that match all, and their FARs. -/
def fromPfcp (event : SessionEstablished) (ueIp : UInt32) (gnbAddr : SocketAddr) :
  DataPlaneSession :=
  let qfi := event.qers.findSome? ParsedCreateQer.qfi
  { newEmpty event.upfSeid event.smfSeid (some ueIp) event.ulTeid event.dlTeid gnbAddr qfi with
    pdrs := sortPdrs defaultPdrs
    fars := tableOf [⟨1, FAR_ACTION_FORW, SRC_INTF_CORE, none, none, none⟩,
      ⟨2, FAR_ACTION_FORW, SRC_INTF_ACCESS, some event.dlTeid,
        match gnbAddr.ip with
        | .v4 ip => some ip
        | .v6 _ => none, none⟩] }

end DataPlaneSession

def defaultGnbAddr : UInt32 := 0x7F000001

namespace SessionManager

variable (manager : SessionManager)

def handleSessionEstablished (event : SessionEstablished) (now : ℕ) : SessionManager × Bool :=
  match event.ueIpv4 with
  | none => (manager, true)
  | some ueIp =>
    let gnbSocket := ⟨.v4 (event.gnbAddr.getD defaultGnbAddr), GTPU_PORT⟩
    let manager := manager.addSession (.fromPfcp event ueIp gnbSocket)
    match manager.findBySeid event.upfSeid with
    | none => (manager, true)
    | some shared =>
      match event.pdrs.mapM ParsedCreatePdr.install with
      | none => (manager, false)
      | some pdrs =>
        (manager.write shared.arc (shared.session.install event pdrs now), true)

/-- The SEIDs of all sessions, as `get_all_session_stats` gives them. -/
def allSeids : List UInt64 :=
  (manager.seidMap.entries.filterMap fun entry => manager.share entry.2).map
    fun shared => shared.session.upfSeid

def handlePeerFailure : SessionManager :=
  manager.allSeids.foldl removeSessionBySeid manager

end SessionManager

end NextGCore.Upf
