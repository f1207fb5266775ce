import Mathlib.Data.UInt
import NextGCore.Library.KeyedTable

/-!
# The data plane of a session

Packets are matched to a PDR, policed by its QER, forwarded, dropped or buffered by its FAR, and
measured by its URRs.  Whether a packet is within the rates of a QER, whether a write to the TUN
device or a send to the gNB succeeds, and the time are given from outside.
-/

namespace NextGCore.Upf

open Library Nat

abbrev Bytes := List UInt8

def beU16 (high low : UInt8) : UInt16 := high.toUInt16 <<< 8 ||| low.toUInt16

def beU32 (first second third fourth : UInt8) : UInt32 :=
  (beU16 first second).toUInt32 <<< 16 ||| (beU16 third fourth).toUInt32

/-- The first words of an address and of its mask, which are the whole of an IPv4 address. -/
structure IpAddrMask where
  addr : UInt32
  mask : UInt32
  deriving DecidableEq

structure PortRange where
  low : UInt16
  high : UInt16
  deriving DecidableEq

namespace PortRange

def isEmpty (range : PortRange) : Bool := range.low == 0 && range.high == 0

def none : PortRange := ⟨0, 0⟩

def single (port : UInt16) : PortRange := ⟨port, port⟩

end PortRange

structure IpfwRule where
  proto : UInt8
  ipv4Src : Bool
  ipv4Dst : Bool
  ipv6Src : Bool
  ipv6Dst : Bool
  ipSrc : IpAddrMask
  ipDst : IpAddrMask
  portSrc : PortRange
  portDst : PortRange
  deriving DecidableEq

structure PacketTuple where
  srcIp : UInt32
  dstIp : UInt32
  protocol : UInt8
  srcPort : UInt16
  dstPort : UInt16

namespace PacketTuple

variable (packet : Bytes)

def addressAt (start : ℕ) : UInt32 :=
  beU32 (packet.getD start 0) (packet.getD (start + 1) 0) (packet.getD (start + 2) 0)
    (packet.getD (start + 3) 0)

def portAt (start : ℕ) : UInt16 :=
  beU16 (packet.getD start 0) (packet.getD (start + 1) 0)

def fromIpv4Packet : Option PacketTuple :=
  if packet.length < 20 then none
  else
    let ihl := (packet.getD 0 0 &&& 0x0F).toNat * 4
    let protocol := packet.getD 9 0
    let hasPorts := (protocol == 6 || protocol == 17) && decide (ihl + 4 ≤ packet.length)
    some {
      srcIp := addressAt packet 12
      dstIp := addressAt packet 16
      protocol
      srcPort := if hasPorts then portAt packet ihl else 0
      dstPort := if hasPorts then portAt packet (ihl + 2) else 0
    }

def within (ip : UInt32) (range : IpAddrMask) : Bool :=
  ip &&& range.mask == range.addr &&& range.mask

def inRange (port : UInt16) (range : PortRange) : Bool :=
  range.isEmpty || decide (range.low ≤ port ∧ port ≤ range.high)

def matchesRule (tuple : PacketTuple) (rule : IpfwRule) : Bool :=
  (rule.proto == 0 || rule.proto == tuple.protocol) &&
    (!rule.ipv4Src || within tuple.srcIp rule.ipSrc) &&
    (!rule.ipv4Dst || within tuple.dstIp rule.ipDst) &&
    inRange tuple.srcPort rule.portSrc && inRange tuple.dstPort rule.portDst

end PacketTuple

structure DataPlanePdr where
  pdrId : UInt16
  precedence : UInt32
  sourceInterface : UInt8
  farId : Option UInt32
  qerId : Option UInt32
  urrIds : List UInt32
  sdfRule : Option IpfwRule
  qfi : Option UInt8
  deriving DecidableEq

structure DataPlaneFar where
  farId : UInt32
  applyAction : UInt16
  destinationInterface : UInt8
  ohcTeid : Option UInt32
  ohcAddr : Option UInt32
  barId : Option UInt8
  deriving DecidableEq

structure DataPlaneBar where
  barId : UInt8
  suggestedBufferingPacketsCount : Option UInt8
  ddnDelay : Option UInt8
  deriving DecidableEq

structure DataPlaneQer where
  qerId : UInt32
  ulGateOpen : Bool
  dlGateOpen : Bool
  ulMbr : UInt64
  dlMbr : UInt64
  ulGbr : UInt64
  dlGbr : UInt64
  qfi : Option UInt8
  dscp : UInt8
  isXr : Bool
  deriving DecidableEq

def FAR_ACTION_DROP : UInt16 := 0x0001

def FAR_ACTION_FORW : UInt16 := 0x0002

def FAR_ACTION_BUFF : UInt16 := 0x0004

def FAR_ACTION_NOCP : UInt16 := 0x0008

def SRC_INTF_ACCESS : UInt8 := 0

def SRC_INTF_CORE : UInt8 := 1

def DEFAULT_DL_BUFFER_PACKETS : ℕ := 512

def TUN_MTU : ℕ := 1400

def GTPU_PORT : UInt16 := 2152

inductive FarDecision where
  | forward (ohcTeid ohcAddr : Option UInt32)
  | drop
  | buffer (nocp : Bool) (barId : Option UInt8)

def FarDecision.forwards : FarDecision → Bool
  | .forward _ _ => true
  | _ => false

structure DataPlaneUrr where
  urrId : UInt32
  volumeThresholdTotal : Option UInt64
  volumeThresholdUl : Option UInt64
  volumeThresholdDl : Option UInt64
  timeThresholdSecs : Option UInt32
  measurementPeriodSecs : Option UInt32
  accTotalBytes : UInt64
  accUlBytes : UInt64
  accDlBytes : UInt64
  accTotalPkts : UInt64
  accUlPkts : UInt64
  accDlPkts : UInt64
  firstPktTime : Option ℕ
  lastReportTime : Option ℕ
  thresholdExceeded : Bool
  urSeqn : UInt32
  deriving DecidableEq

def elapsedSecs (now last : ℕ) : ℕ := (now - last) / 10 ^ 9

structure UrrReportEntry where
  urrId : UInt32
  urSeqn : UInt32
  totalBytes : UInt64
  ulBytes : UInt64
  dlBytes : UInt64
  totalPkts : UInt64
  ulPkts : UInt64
  dlPkts : UInt64

namespace DataPlaneUrr

variable (urr : DataPlaneUrr)

def new (urrId : UInt32) (now : ℕ) : DataPlaneUrr :=
  ⟨urrId, none, none, none, none, none, 0, 0, 0, 0, 0, 0, none, some now, false, 0⟩

/-- `if let Some(thresh) = threshold { if count >= thresh { .. } }` -/
def reaches (count : UInt64) (threshold : Option UInt64) : Bool :=
  threshold.any fun thresh => decide (thresh ≤ count)

def elapsed (now : ℕ) (secs : Option UInt32) : Bool :=
  secs.any fun secs => urr.lastReportTime.any fun last =>
    decide (secs.toNat ≤ elapsedSecs now last)

def exceed : DataPlaneUrr := { urr with thresholdExceeded := true }

/-- The first packet, the total threshold and the time threshold: the end of `record`, which is
not reached when the threshold of the direction is. -/
def recordTotal (now : ℕ) : DataPlaneUrr :=
  let urr := { urr with firstPktTime := some (urr.firstPktTime.getD now) }
  if reaches urr.accTotalBytes urr.volumeThresholdTotal ||
      urr.elapsed now urr.timeThresholdSecs then urr.exceed
  else urr

/-- Callers do not use whether a threshold was exceeded, which `record` also returns. -/
def record (bytes : UInt64) (isUplink : Bool) (now : ℕ) : DataPlaneUrr :=
  let urr := { urr with
    accTotalBytes := urr.accTotalBytes + bytes
    accTotalPkts := urr.accTotalPkts + 1 }
  if isUplink then
    let urr := { urr with accUlBytes := urr.accUlBytes + bytes, accUlPkts := urr.accUlPkts + 1 }
    if reaches urr.accUlBytes urr.volumeThresholdUl then urr.exceed else urr.recordTotal now
  else
    let urr := { urr with accDlBytes := urr.accDlBytes + bytes, accDlPkts := urr.accDlPkts + 1 }
    if reaches urr.accDlBytes urr.volumeThresholdDl then urr.exceed else urr.recordTotal now

/-- The counters and the first packet's time: `reset_counters` as far as the report time. -/
def zeroCounters : DataPlaneUrr :=
  { urr with
    accTotalBytes := 0, accUlBytes := 0, accDlBytes := 0
    accTotalPkts := 0, accUlPkts := 0, accDlPkts := 0
    firstPktTime := none }

def resetCounters (now : ℕ) : DataPlaneUrr :=
  { urr.zeroCounters with lastReportTime := some now, thresholdExceeded := false }

def nextUrSeqn : DataPlaneUrr := { urr with urSeqn := urr.urSeqn + 1 }

def entry : UrrReportEntry :=
  ⟨urr.urrId, urr.urSeqn, urr.accTotalBytes, urr.accUlBytes, urr.accDlBytes, urr.accTotalPkts,
    urr.accUlPkts, urr.accDlPkts⟩

def collected (now : ℕ) : DataPlaneUrr :=
  if urr.thresholdExceeded then urr.nextUrSeqn.resetCounters now else urr

lemma urrId_collected (now : ℕ) : (urr.collected now).urrId = urr.urrId := by
  unfold collected
  split <;> rfl

def due (now : ℕ) : Bool :=
  !urr.thresholdExceeded && urr.elapsed now urr.measurementPeriodSecs &&
    decide (0 < urr.accTotalBytes)

lemma urrId_recordTotal (now : ℕ) : (urr.recordTotal now).urrId = urr.urrId := by
  unfold recordTotal
  dsimp only
  split <;> rfl

lemma urrId_record (bytes : UInt64) (isUplink : Bool) (now : ℕ) :
  (urr.record bytes isUplink now).urrId = urr.urrId := by
  unfold record
  dsimp only
  split <;> split
  · rfl
  · exact urrId_recordTotal ..
  · rfl
  · exact urrId_recordTotal ..

end DataPlaneUrr

inductive IpAddr where
  | v4 (address : UInt32)
  | v6 (address : BitVec 128)
  deriving DecidableEq

structure SocketAddr where
  ip : IpAddr
  port : UInt16
  deriving DecidableEq

structure DataPlaneSession where
  upfSeid : UInt64
  smfSeid : UInt64
  ueIpv4 : Option UInt32
  ulTeid : UInt32
  dlTeid : UInt32
  gnbAddr : SocketAddr
  qfi : Option UInt8
  ulPackets : UInt64
  dlPackets : UInt64
  ulBytes : UInt64
  dlBytes : UInt64
  pdrs : List DataPlanePdr
  fars : KeyedTable DataPlaneFar DataPlaneFar.farId
  qers : KeyedTable DataPlaneQer DataPlaneQer.qerId
  urrs : KeyedTable DataPlaneUrr DataPlaneUrr.urrId
  bars : KeyedTable DataPlaneBar DataPlaneBar.barId
  dlBuffer : List Bytes
  /-- Whether a Downlink Data Report was already sent for the current buffering episode. -/
  ddnSent : Bool
  deriving DecidableEq

inductive DropCause where
  | spoofed
  | noPdr
  | qerGate
  | far
  | bufferFull
  | oversize
  | ioFailed

/-- A G-PDU to the gNB, before it is put in octets, and the TOS of its outer header. -/
structure GPdu where
  inner : Bytes
  teid : UInt32
  addr : SocketAddr
  qfi : Option UInt8
  tos : UInt8

inductive Verdict where
  | ignored
  | dropped (cause : DropCause)
  | toTun (inner : Bytes) (dscp : Option UInt8)
  | toGnb (gpdu : GPdu)
  | buffered (report : Option (UInt16 × Option UInt8))

def Verdict.forwards : Verdict → Bool
  | .toTun _ _ | .toGnb _ => true
  | _ => false

def Verdict.buffers : Verdict → Bool
  | .buffered _ => true
  | _ => false

structure Flushed where
  gpdu : GPdu
  sent : Bool

structure Admitted where
  pdr : DataPlanePdr
  dscp : Option UInt8
  qfi : Option UInt8
  decision : FarDecision

namespace DataPlaneSession

variable (session : DataPlaneSession)

def newEmpty (upfSeid smfSeid : UInt64) (ueIpv4 : Option UInt32) (ulTeid dlTeid : UInt32)
  (gnbAddr : SocketAddr) (qfi : Option UInt8) : DataPlaneSession :=
  ⟨upfSeid, smfSeid, ueIpv4, ulTeid, dlTeid, gnbAddr, qfi, 0, 0, 0, 0, [], .empty, .empty, .empty,
    .empty, [], false⟩

def qfiMatches (pdrQfi pktQfi : Option UInt8) : Bool :=
  pdrQfi.all fun wanted => pktQfi.all fun qfi => wanted == qfi

/-- A PDR with an SDF filter is passed over when there is no packet to evaluate it on. -/
def sdfMatches (rule : Option IpfwRule) (packet : Option PacketTuple) : Bool :=
  rule.all fun rule => packet.any fun packet => packet.matchesRule rule

def matchPdrWithPacket (sourceInterface : UInt8) (packet : Option PacketTuple)
  (pktQfi : Option UInt8) : Option DataPlanePdr :=
  session.pdrs.find? fun pdr => pdr.sourceInterface == sourceInterface &&
    qfiMatches pdr.qfi pktQfi && sdfMatches pdr.sdfRule packet

def applyFar (farId : UInt32) : FarDecision :=
  match session.fars.lookup farId with
  | none => .drop
  | some far =>
    if far.applyAction &&& FAR_ACTION_DROP != 0 then .drop
    else if far.applyAction &&& FAR_ACTION_FORW != 0 then .forward far.ohcTeid far.ohcAddr
    else if far.applyAction &&& FAR_ACTION_BUFF != 0 then
      .buffer (far.applyAction &&& FAR_ACTION_NOCP != 0) far.barId
    else .drop

def checkQerGate (qerId : UInt32) (isUplink withinRate : Bool) : Bool :=
  (session.qers.lookup qerId).all fun qer =>
    (if isUplink then qer.ulGateOpen else qer.dlGateOpen) && withinRate

/-- `match_pdr_with_packet`, `check_qer_gate` and `apply_far`, in this order. A PDR without a FAR
forwards. -/
def judge (sourceInterface : UInt8) (packet : Option PacketTuple) (pktQfi : Option UInt8)
  (withinRate : Bool) : Except DropCause Admitted :=
  match session.matchPdrWithPacket sourceInterface packet pktQfi with
  | none => .error .noPdr
  | some pdr =>
    let qer := pdr.qerId.bind session.qers.lookup
    if pdr.qerId.all fun qid =>
        session.checkQerGate qid (sourceInterface == SRC_INTF_ACCESS) withinRate then
      .ok {
        pdr
        dscp := (qer.map DataPlaneQer.dscp).filter fun dscp => dscp != 0
        qfi := qer.bind DataPlaneQer.qfi
        decision := (pdr.farId.map session.applyFar).getD (.forward none none)
      }
    else .error .qerGate

def recordUrrs (urrIds : List UInt32) (bytes : UInt64) (isUplink : Bool) (now : ℕ) :
  DataPlaneSession :=
  { session with
    urrs := urrIds.foldl (fun urrs urrId => urrs.update urrId
      (fun urr => urr.record bytes isUplink now) fun urr => urr.urrId_record bytes isUplink now)
      session.urrs }

def spoofs (payload : Bytes) : Bool :=
  session.ueIpv4.any fun ueIp => decide (20 ≤ payload.length) &&
    payload.getD 0 0 >>> 4 == 4 && PacketTuple.addressAt payload 12 != ueIp

/-- `handle_uplink_packet`, of the payload of a G-PDU, once the session is found. -/
def handleUplinkPacket (payload : Bytes) (pktQfi : Option UInt8) (withinRate written : Bool)
  (now : ℕ) : DataPlaneSession × Verdict :=
  if session.spoofs payload then (session, .dropped .spoofed)
  else
    match session.judge SRC_INTF_ACCESS (PacketTuple.fromIpv4Packet payload) pktQfi withinRate with
    | .error cause => (session, .dropped cause)
    | .ok admitted =>
      match admitted.decision with
      | .drop | .buffer _ _ => (session, .dropped .far)
      | .forward _ _ =>
        let bytes := UInt64.ofNat payload.length
        let session := session.recordUrrs admitted.pdr.urrIds bytes true now
        -- The MTU guard comes after the usage is recorded.
        if TUN_MTU < payload.length then (session, .dropped .oversize)
        else if written then
          ({ session with
              ulPackets := session.ulPackets + 1, ulBytes := session.ulBytes + bytes },
            .toTun payload admitted.dscp)
        else (session, .dropped .ioFailed)

def dlBufferCapacity (barId : Option UInt8) : ℕ :=
  (((barId.bind session.bars.lookup).bind
    DataPlaneBar.suggestedBufferingPacketsCount).map UInt8.toNat).getD DEFAULT_DL_BUFFER_PACKETS

def bufferDlPacket (pkt : Bytes) (barId : Option UInt8) : Option DataPlaneSession :=
  if session.dlBufferCapacity barId ≤ session.dlBuffer.length then none
  else some { session with dlBuffer := session.dlBuffer ++ [pkt], ddnSent := true }

def drainDlBuffer : DataPlaneSession :=
  { session with dlBuffer := [], ddnSent := false }

/-- `.map(|ip| SocketAddr::new(IpAddr::V4(ip), GTPU_PORT)).unwrap_or(session.gnb_addr)` -/
def outerAddr (ohcAddr : Option UInt32) : SocketAddr :=
  (ohcAddr.map fun ip => ⟨.v4 ip, GTPU_PORT⟩).getD session.gnbAddr

/-- The PDR that a Downlink Data Report names: the first of the core with the FAR, or 0. -/
def reportedPdr (farId : Option UInt32) : UInt16 :=
  ((session.pdrs.find? fun pdr => pdr.sourceInterface == SRC_INTF_CORE &&
    pdr.farId == farId).map DataPlanePdr.pdrId).getD 0

def countDl (bytes : UInt64) : DataPlaneSession :=
  { session with dlPackets := session.dlPackets + 1, dlBytes := session.dlBytes + bytes }

def downlinkTuple (pkt : Bytes) : Option PacketTuple :=
  if pkt.getD 0 0 >>> 4 == 4 then PacketTuple.fromIpv4Packet pkt else none

def handleDownlinkPacket (pkt : Bytes) (withinRate sent : Bool) (now : ℕ) :
  DataPlaneSession × Verdict :=
  if pkt.isEmpty then (session, .ignored)
  else if TUN_MTU < pkt.length then (session, .dropped .oversize)
  else
    match session.judge SRC_INTF_CORE (downlinkTuple pkt) none withinRate with
    | .error cause => (session, .dropped cause)
    | .ok admitted =>
      let qfi := admitted.qfi.or session.qfi
      match admitted.decision with
      | .drop => (session, .dropped .far)
      | .buffer nocp barId =>
        match session.bufferDlPacket pkt barId with
        | none => (session, .dropped .bufferFull)
        | some next =>
          (next, .buffered (if !session.ddnSent && nocp then
            some (session.reportedPdr admitted.pdr.farId, qfi) else none))
      | .forward ohcTeid ohcAddr =>
        let bytes := UInt64.ofNat pkt.length
        let gpdu := ⟨pkt, ohcTeid.getD session.dlTeid, session.outerAddr ohcAddr, qfi,
          admitted.dscp.getD 0⟩
        let session := session.recordUrrs admitted.pdr.urrIds bytes false now
        if sent then (session.countDl bytes, .toGnb gpdu)
        else (session, .dropped .ioFailed)

def forwardingFar : Option DataPlaneFar :=
  session.fars.records.find? fun far => far.destinationInterface == SRC_INTF_ACCESS &&
    far.applyAction &&& FAR_ACTION_FORW != 0

/-- `flush_buffered_dl`; `sends` says which sends succeed.  The outer TOS is the one that was set
last. -/
def flushBufferedDl (hasSocket : Bool) (sends : ℕ → Bool) (tos : UInt8) :
  DataPlaneSession × List Flushed :=
  match session.forwardingFar with
  | none => (session, [])
  | some far =>
    if hasSocket then
      let flushed := session.dlBuffer.zipIdx.map fun entry =>
        ⟨⟨entry.1, far.ohcTeid.getD session.dlTeid, session.outerAddr far.ohcAddr, session.qfi,
          tos⟩, sends entry.2⟩
      ((flushed.filter Flushed.sent).foldl
        (fun session each => session.countDl (UInt64.ofNat each.gpdu.inner.length))
        session.drainDlBuffer, flushed)
    else (session.drainDlBuffer, [])

end DataPlaneSession

structure ParsedOuterHeaderCreation where
  description : UInt16
  teid : UInt32
  ipv4 : Option UInt32
  ipv6 : Option (BitVec 128)
  port : Option UInt16

structure ParsedForwardingParameters where
  destinationInterface : UInt8
  networkInstance : Option String
  outerHeaderCreation : Option ParsedOuterHeaderCreation

structure ParsedCreateFar where
  farId : UInt32
  applyAction : UInt16
  forwardingParameters : Option ParsedForwardingParameters
  barId : Option UInt8

structure ParsedCreateQer where
  qerId : UInt32
  ulGate : UInt8
  dlGate : UInt8
  ulMbr : UInt64
  dlMbr : UInt64
  ulGbr : UInt64
  dlGbr : UInt64
  qfi : Option UInt8

structure SessionModified where
  dlTeid : Option UInt32
  gnbAddr : Option UInt32
  updatedFars : List ParsedCreateFar
  updatedQers : List ParsedCreateQer
  updatedBars : List DataPlaneBar
  dropBuffered : Bool

def SessionModified.flushes (modified : SessionModified) : Bool :=
  (modified.updatedFars.any fun far => far.applyAction &&& FAR_ACTION_FORW != 0) &&
    !modified.dropBuffered

def qfiToDscp (qfi : UInt8) : UInt8 :=
  match qfi.toNat with
  | 1 => 46
  | 2 => 34
  | 3 => 26
  | 4 => 24
  | 6 => 18
  | 7 => 10
  | 65 => 46
  | 66 => 26
  | 82 => 46
  | 83 => 46
  | 84 => 34
  | 85 => 46
  | _ => 0

/-- `DataPlaneFar { .. }` of a parsed FAR: what is absent is not taken from the FAR before. -/
def ParsedCreateFar.install (far : ParsedCreateFar) : DataPlaneFar :=
  let ohc := far.forwardingParameters.bind ParsedForwardingParameters.outerHeaderCreation
  {
    farId := far.farId
    applyAction := far.applyAction
    destinationInterface := (far.forwardingParameters.map
      ParsedForwardingParameters.destinationInterface).getD SRC_INTF_CORE
    ohcTeid := ohc.map ParsedOuterHeaderCreation.teid
    ohcAddr := ohc.bind ParsedOuterHeaderCreation.ipv4
    barId := far.barId
  }

def isXr5qi (qfi : UInt8) : Bool := decide (82 ≤ qfi ∧ qfi ≤ 85)

def DataPlaneQer.setQfi (qer : DataPlaneQer) (qfi : UInt8) : DataPlaneQer :=
  let isXr := isXr5qi qfi || decide (0 < qer.ulGbr) || decide (0 < qer.dlGbr)
  { qer with
    qfi := some qfi
    dscp := if isXr && qfiToDscp qfi == 0 then 46 else qfiToDscp qfi
    isXr }

def ParsedCreateQer.install (qer : ParsedCreateQer) : DataPlaneQer :=
  let plain := ⟨qer.qerId, qer.ulGate == 0, qer.dlGate == 0, qer.ulMbr, qer.dlMbr, qer.ulGbr,
    qer.dlGbr, none, 0, false⟩
  (qer.qfi.map plain.setQfi).getD plain

namespace DataPlaneSession

variable (session : DataPlaneSession)

def retunnel (dlTeid : Option UInt32) (gnbAddr : Option SocketAddr) (far : DataPlaneFar) :
  DataPlaneFar :=
  let ipv4 := gnbAddr.bind fun addr =>
    match addr.ip with
    | .v4 ip => some ip
    | .v6 _ => none
  if far.destinationInterface == SRC_INTF_ACCESS then
    { far with ohcTeid := dlTeid.or far.ohcTeid, ohcAddr := ipv4.or far.ohcAddr }
  else far

lemma farId_retunnel (dlTeid : Option UInt32) (gnbAddr : Option SocketAddr)
  (far : DataPlaneFar) : (retunnel dlTeid gnbAddr far).farId = far.farId := by
  unfold retunnel
  dsimp only
  split <;> rfl

/-- `update_session_from_pfcp`: another session takes its place, with all that it has. -/
def updateSessionFromPfcp (dlTeid : Option UInt32) (gnbAddr : Option SocketAddr) :
  DataPlaneSession :=
  { session with
    dlTeid := dlTeid.getD session.dlTeid
    gnbAddr := gnbAddr.getD session.gnbAddr
    fars := session.fars.map (retunnel dlTeid gnbAddr) (farId_retunnel dlTeid gnbAddr) }

def modifyRules (modified : SessionModified) : DataPlaneSession :=
  let gnbSocket := modified.gnbAddr.map fun addr => ⟨.v4 addr, GTPU_PORT⟩
  let session :=
    if modified.dlTeid.isSome || gnbSocket.isSome then
      session.updateSessionFromPfcp modified.dlTeid gnbSocket
    else session
  let session := { session with
    fars := (modified.updatedFars.map ParsedCreateFar.install).foldl KeyedTable.insert session.fars
    qers := (modified.updatedQers.map ParsedCreateQer.install).foldl KeyedTable.insert session.qers
    bars := modified.updatedBars.foldl KeyedTable.insert session.bars }
  if modified.dropBuffered then session.drainDlBuffer else session

def handleSessionModified (modified : SessionModified) (hasSocket : Bool) (sends : ℕ → Bool)
  (tos : UInt8) : DataPlaneSession × List Flushed :=
  if modified.flushes then
    (session.modifyRules modified).flushBufferedDl hasSocket sends tos
  else (session.modifyRules modified, [])

/-- The turn of a session in `collect_urr_reports`.  The second loop holds `last_report_time`
while `reset_counters` waits to write it: the first URR that is due there loses its counters, and
the call does not return. -/
def collectUrrReports (now : ℕ) : DataPlaneSession × Option (List UrrReportEntry) :=
  let entries := (session.urrs.records.filter DataPlaneUrr.thresholdExceeded).map DataPlaneUrr.entry
  let urrs := session.urrs.map (fun urr => urr.collected now) fun urr => urr.urrId_collected now
  match urrs.records.find? fun urr => urr.due now with
  | none => ({ session with urrs }, some entries)
  | some blocked =>
    ({ session with
        urrs := urrs.update blocked.urrId (fun urr => urr.nextUrSeqn.zeroCounters)
          fun _ => rfl }, none)

def collectFinalUsageReports : DataPlaneSession × List UrrReportEntry :=
  ({ session with urrs := session.urrs.map DataPlaneUrr.nextUrSeqn fun _ => rfl },
    session.urrs.records.map DataPlaneUrr.entry)

end DataPlaneSession

lemma toNat_beU16 (high low : UInt8) : (beU16 high low).toNat = 256 * high.toNat + low.toNat := by
  have smallHigh := high.toNat_lt
  have smallLow := low.toNat_lt
  have shifted : high.toNat <<< 8 % 65536 = 2 ^ 8 * high.toNat := by
    rw [shiftLeft_eq]
    omega
  simp only [beU16, UInt16.toNat_or, UInt16.toNat_shiftLeft, UInt8.toNat_toUInt16,
    UInt16.toNat_ofNat, reducePow, reduceMod]
  rw [shifted, ← two_pow_add_eq_or_of_lt smallLow]

lemma toNat_beU32 (first second third fourth : UInt8) : (beU32 first second third fourth).toNat =
    65536 * (256 * first.toNat + second.toNat) + (256 * third.toNat + fourth.toNat) := by
  have high := (beU16 first second).toNat_lt
  have low := (beU16 third fourth).toNat_lt
  have shifted : (beU16 first second).toNat <<< 16 % 4294967296 =
      2 ^ 16 * (beU16 first second).toNat := by
    rw [shiftLeft_eq]
    omega
  simp only [beU32, UInt32.toNat_or, UInt32.toNat_shiftLeft, UInt16.toNat_toUInt32,
    UInt32.toNat_ofNat, reducePow, reduceMod]
  rw [shifted, ← two_pow_add_eq_or_of_lt low, toNat_beU16, toNat_beU16]

def toBeU16 (word : UInt16) : Bytes := [(word >>> 8).toUInt8, word.toUInt8]

def toBeU32 (word : UInt32) : Bytes :=
  [(word >>> 24).toUInt8, (word >>> 16).toUInt8, (word >>> 8).toUInt8, word.toUInt8]

lemma beU16_octets (word : UInt16) : beU16 (word >>> 8).toUInt8 word.toUInt8 = word := by
  have small := word.toNat_lt
  apply UInt16.toNat_inj.mp
  simp only [toNat_beU16, UInt16.toNat_toUInt8, UInt16.toNat_shiftRight, UInt16.toNat_ofNat,
    reducePow, reduceMod, shiftRight_eq_div_pow]
  omega

lemma beU32_octets (word : UInt32) :
  beU32 (word >>> 24).toUInt8 (word >>> 16).toUInt8 (word >>> 8).toUInt8 word.toUInt8 = word := by
  have small := word.toNat_lt
  apply UInt32.toNat_inj.mp
  simp only [toNat_beU32, UInt32.toNat_toUInt8, UInt32.toNat_shiftRight, UInt32.toNat_ofNat,
    reducePow, reduceMod, shiftRight_eq_div_pow]
  omega

end NextGCore.Upf
