import NextGCore.Library.Fields
import NextGCore.Sbi.Text

/-!
# Elements of PFCP and their values
-/

namespace NextGCore.Pfcp

open Library Sbi Vector

variable (ieType : UInt16)

abbrev Bytes := List UInt8

inductive PfcpError where
  | bufferTooShort (needed available : ℕ)
  | invalidFormat (message : String)
  | invalidMessageType (value : UInt8)
  | invalidCause (value : UInt8)
  | invalidNodeIdType (value : UInt8)
  | invalidInterfaceType (value : UInt8)
  | missingMandatoryIe (name : String)
  | versionNotSupported (version : UInt8)

abbrev Decoding (Value : Type) := BufferReading PfcpError Value

abbrev Parsing (Value : Type) := Bytes → Except (Fault PfcpError) Value

namespace IeType

def createPdr : UInt16 := 1
def pdi : UInt16 := 2
def createFar : UInt16 := 3
def forwardingParameters : UInt16 := 4
def createUrr : UInt16 := 6
def createQer : UInt16 := 7
def createdPdr : UInt16 := 8
def updatePdr : UInt16 := 9
def updateFar : UInt16 := 10
def updateForwardingParameters : UInt16 := 11
def removePdr : UInt16 := 15
def removeFar : UInt16 := 16
def cause : UInt16 := 19
def sourceInterface : UInt16 := 20
def fTeid : UInt16 := 21
def networkInstance : UInt16 := 22
def sdfFilter : UInt16 := 23
def applicationId : UInt16 := 24
def gateStatus : UInt16 := 25
def mbr : UInt16 := 26
def gbr : UInt16 := 27
def precedence : UInt16 := 29
def volumeThreshold : UInt16 := 31
def timeThreshold : UInt16 := 32
def reportingTriggers : UInt16 := 37
def reportType : UInt16 := 39
def offendingIe : UInt16 := 40
def destinationInterface : UInt16 := 42
def upFunctionFeatures : UInt16 := 43
def applyAction : UInt16 := 44
def downlinkDataNotificationDelay : UInt16 := 46
def pfcpSmreqFlags : UInt16 := 49
def pfcpSrrspFlags : UInt16 := 50
def loadControlInformation : UInt16 := 51
def sequenceNumber : UInt16 := 52
def metric : UInt16 := 53
def pdrId : UInt16 := 56
def fSeid : UInt16 := 57
def applicationIdsPfds : UInt16 := 58
def pfdContext : UInt16 := 59
def nodeId : UInt16 := 60
def pfdContents : UInt16 := 61
def measurementMethod : UInt16 := 62
def usageReportTrigger : UInt16 := 63
def measurementPeriod : UInt16 := 64
def fqCsid : UInt16 := 65
def volumeMeasurement : UInt16 := 66
def durationMeasurement : UInt16 := 67
def startTime : UInt16 := 75
def endTime : UInt16 := 76
def usageReportSrr : UInt16 := 80
def urrId : UInt16 := 81
def downlinkDataReport : UInt16 := 83
def outerHeaderCreation : UInt16 := 84
def createBar : UInt16 := 85
def barId : UInt16 := 88
def cpFunctionFeatures : UInt16 := 89
def ueIpAddress : UInt16 := 93
def outerHeaderRemoval : UInt16 := 95
def recoveryTimeStamp : UInt16 := 96
def nodeReportType : UInt16 := 101
def userPlanePathFailureReport : UInt16 := 102
def remoteGtpUPeer : UInt16 := 103
def urSeqn : UInt16 := 104
def farId : UInt16 := 108
def qerId : UInt16 := 109
def pfcpAssociationReleaseRequest : UInt16 := 111
def gracefulReleasePeriod : UInt16 := 112
def qfi : UInt16 := 124
def suggestedBufferingPacketsCount : UInt16 := 140
def alternativeSmfIpAddress : UInt16 := 178
def pfcpSessionChangeInfo : UInt16 := 290
def groupId : UInt16 := 291
def cpIpAddress : UInt16 := 292
def pfdPartialFailureInformation : UInt16 := 397

end IeType

structure IeHeader where
  ieType : UInt16
  length : UInt16

def IeHeader.decode : Decoding IeHeader := do
  require 4 (PfcpError.bufferTooShort 4)
  let ieType ← getU16
  let length ← getU16
  pure ⟨ieType, length⟩

abbrev RawIe := Element

abbrev RawIe.decode : Decoding RawIe := Element.decode PfcpError.bufferTooShort

def encodeU8Ie (value : UInt8) : RawIe := ⟨ieType, putU8 value⟩

def encodeU16Ie (value : UInt16) : RawIe := ⟨ieType, putU16 value⟩

def encodeU32Ie (value : UInt32) : RawIe := ⟨ieType, putU32 value⟩

def encodeBytesIe (data : Bytes) : RawIe := ⟨ieType, data⟩

def encodeIes (ies : List RawIe) : Bytes := ies.flatMap Element.encode

abbrev decodeIes {State : Type} (arms : List (Arm PfcpError State)) (state : State) :
  Decoding State :=
  gather PfcpError.bufferTooShort arms state

abbrev takeU8 : Taking PfcpError UInt8 := firstOctet .ok

abbrev takeU16 : Taking PfcpError UInt16 := number 2 getU16

abbrev takeU32 : Taking PfcpError UInt32 := number 4 getU32

def mandatory {Value : Type} (name : String) (field : Option Value) : Decoding Value :=
  Reading.lift (match field with
    | none => .error (.refused (.missingMandatoryIe name))
    | some value => .ok value)

def firstOf (data : Bytes) : Except (Fault PfcpError) UInt8 :=
  if data.isEmpty then .error (.refused (.bufferTooShort 1 0)) else octetAt 0 data

structure DurationMeasurement where
  seconds : UInt32

def DurationMeasurement.decode : Decoding DurationMeasurement := do
  let seconds ← checked PfcpError.bufferTooShort 4 getU32
  pure ⟨seconds⟩

structure UsageReportTrigger where
  immediateReport : Bool
  volumeThreshold : Bool
  timeThreshold : Bool
  periodicReporting : Bool
  eventThreshold : Bool

def UsageReportTrigger.decode : Decoding UsageReportTrigger := do
  let flags ← checked PfcpError.bufferTooShort 2 getU16
  pure {
    immediateReport := flags.toNat.testBit 0
    volumeThreshold := flags.toNat.testBit 1
    timeThreshold := flags.toNat.testBit 2
    periodicReporting := flags.toNat.testBit 3
    eventThreshold := flags.toNat.testBit 4 }

structure PacketRate where
  uplinkTimeUnit : Option UInt8
  maxUplinkPacketRate : Option UInt16
  downlinkTimeUnit : Option UInt8
  maxDownlinkPacketRate : Option UInt16

def PacketRate.decodeRate : Decoding (UInt8 × UInt16) := do
  let unit ← getU8
  let rate ← getU16
  pure (unit, rate)

def PacketRate.decode : Decoding PacketRate := do
  let flags ← checked PfcpError.bufferTooShort 1 getU8
  let uplink ← givenIf (flags.toNat.testBit 0) decodeRate
  let downlink ← givenIf (flags.toNat.testBit 1) decodeRate
  pure {
    uplinkTimeUnit := uplink.map Prod.fst
    maxUplinkPacketRate := uplink.map Prod.snd
    downlinkTimeUnit := downlink.map Prod.fst
    maxDownlinkPacketRate := downlink.map Prod.snd }

structure QerControlIndications where
  rcsr : Bool

def QerControlIndications.decode : Parsing QerControlIndications := fun data => do
  let flags ← firstOf data
  pure ⟨flags.toNat.testBit 0⟩

structure MeasurementInformation where
  mbqe : Bool
  inam : Bool
  radi : Bool
  istm : Bool

def MeasurementInformation.decode : Parsing MeasurementInformation := fun data => do
  let flags ← firstOf data
  pure ⟨flags.toNat.testBit 0, flags.toNat.testBit 1, flags.toNat.testBit 2, flags.toNat.testBit 3⟩

abbrev Ipv4 := Vector UInt8 4

abbrev Ipv6 := Vector UInt8 16

/-- `let mut addr = [0u8; N]; buf.copy_to_slice(&mut addr)`, after a check. -/
def address (count : ℕ) : Decoding (Vector UInt8 count) :=
  checked PfcpError.bufferTooShort count (copyToSlice count)

inductive PfcpCause where
  | requestAccepted
  | requestRejected
  | sessionContextNotFound
  | mandatoryIeMissing
  | conditionalIeMissing
  | invalidLength
  | mandatoryIeIncorrect
  | invalidForwardingPolicy
  | invalidFTeidAllocationOption
  | noEstablishedPfcpAssociation
  | ruleCreationModificationFailure
  | pfcpEntityInCongestion
  | noResourcesAvailable
  | serviceNotSupported
  | systemFailure
  | redirectionRequested
  | allDynamicAddressesAreOccupied
  | unknownPredefinedRule
  | unknownApplicationId
  | l2tpTunnelEstablishmentFailure
  | l2tpSessionEstablishmentFailure
  | l2tpTunnelRelease
  | l2tpSessionRelease
  | pfcpSessionRestorationFailure
  | l2tpTunnelAuthFailure
  | l2tpSessionAuthFailure
  | l2tpLnsNotReachable
  | pfdContentsSyntaxError
  | pfdContentsSemanticsError
  | pfdApplicationIdUnknown
  deriving DecidableEq

namespace PfcpCause

def toU8 : PfcpCause → UInt8
  | requestAccepted => 1
  | requestRejected => 64
  | sessionContextNotFound => 65
  | mandatoryIeMissing => 66
  | conditionalIeMissing => 67
  | invalidLength => 68
  | mandatoryIeIncorrect => 69
  | invalidForwardingPolicy => 70
  | invalidFTeidAllocationOption => 71
  | noEstablishedPfcpAssociation => 72
  | ruleCreationModificationFailure => 73
  | pfcpEntityInCongestion => 74
  | noResourcesAvailable => 75
  | serviceNotSupported => 76
  | systemFailure => 77
  | redirectionRequested => 78
  | allDynamicAddressesAreOccupied => 79
  | unknownPredefinedRule => 80
  | unknownApplicationId => 81
  | l2tpTunnelEstablishmentFailure => 82
  | l2tpSessionEstablishmentFailure => 83
  | l2tpTunnelRelease => 84
  | l2tpSessionRelease => 85
  | pfcpSessionRestorationFailure => 86
  | l2tpTunnelAuthFailure => 87
  | l2tpSessionAuthFailure => 88
  | l2tpLnsNotReachable => 89
  | pfdContentsSyntaxError => 90
  | pfdContentsSemanticsError => 91
  | pfdApplicationIdUnknown => 92

def tryFrom (value : UInt8) : Except PfcpError PfcpCause :=
  match value.toNat with
  | 1 => .ok requestAccepted
  | 64 => .ok requestRejected
  | 65 => .ok sessionContextNotFound
  | 66 => .ok mandatoryIeMissing
  | 67 => .ok conditionalIeMissing
  | 68 => .ok invalidLength
  | 69 => .ok mandatoryIeIncorrect
  | 70 => .ok invalidForwardingPolicy
  | 71 => .ok invalidFTeidAllocationOption
  | 72 => .ok noEstablishedPfcpAssociation
  | 73 => .ok ruleCreationModificationFailure
  | 74 => .ok pfcpEntityInCongestion
  | 75 => .ok noResourcesAvailable
  | 76 => .ok serviceNotSupported
  | 77 => .ok systemFailure
  | 78 => .ok redirectionRequested
  | 79 => .ok allDynamicAddressesAreOccupied
  | 80 => .ok unknownPredefinedRule
  | 81 => .ok unknownApplicationId
  | 82 => .ok l2tpTunnelEstablishmentFailure
  | 83 => .ok l2tpSessionEstablishmentFailure
  | 84 => .ok l2tpTunnelRelease
  | 85 => .ok l2tpSessionRelease
  | 86 => .ok pfcpSessionRestorationFailure
  | 87 => .ok l2tpTunnelAuthFailure
  | 88 => .ok l2tpSessionAuthFailure
  | 89 => .ok l2tpLnsNotReachable
  | 90 => .ok pfdContentsSyntaxError
  | 91 => .ok pfdContentsSemanticsError
  | 92 => .ok pfdApplicationIdUnknown
  | _ => .error (.invalidCause value)

def fromWire (value : UInt8) : PfcpCause :=
  match tryFrom value with
  | .ok cause => cause
  | .error _ => if 64 ≤ value.toNat then requestRejected else requestAccepted

lemma fromWire_toU8 (cause : PfcpCause) : fromWire cause.toU8 = cause := by
  cases cause <;> rfl

end PfcpCause

abbrev takeCause : Taking PfcpError PfcpCause :=
  firstOctet fun octet => .ok (PfcpCause.fromWire octet)

inductive SourceInterface where
  | access
  | core
  | sgiLanN6Lan
  | cpFunction
  | fiveGVnInternal

namespace SourceInterface

def toU8 : SourceInterface → UInt8
  | access => 0
  | core => 1
  | sgiLanN6Lan => 2
  | cpFunction => 3
  | fiveGVnInternal => 4

def tryFrom (value : UInt8) : Except (Fault PfcpError) SourceInterface :=
  match value.toNat with
  | 0 => .ok access
  | 1 => .ok core
  | 2 => .ok sgiLanN6Lan
  | 3 => .ok cpFunction
  | 4 => .ok fiveGVnInternal
  | _ => .error (.refused (.invalidInterfaceType value))

end SourceInterface

inductive DestinationInterface where
  | access
  | core
  | sgiLanN6Lan
  | cpFunction
  | liFunction
  | fiveGVnInternal

namespace DestinationInterface

def toU8 : DestinationInterface → UInt8
  | access => 0
  | core => 1
  | sgiLanN6Lan => 2
  | cpFunction => 3
  | liFunction => 4
  | fiveGVnInternal => 5

def tryFrom (value : UInt8) : Except (Fault PfcpError) DestinationInterface :=
  match value.toNat with
  | 0 => .ok access
  | 1 => .ok core
  | 2 => .ok sgiLanN6Lan
  | 3 => .ok cpFunction
  | 4 => .ok liFunction
  | 5 => .ok fiveGVnInternal
  | _ => .error (.refused (.invalidInterfaceType value))

end DestinationInterface

inductive NodeIdType where
  | ipv4
  | ipv6
  | fqdn

namespace NodeIdType

def toU8 : NodeIdType → UInt8
  | ipv4 => 0
  | ipv6 => 1
  | fqdn => 2

def tryFrom (value : UInt8) : Except (Fault PfcpError) NodeIdType :=
  match value.toNat with
  | 0 => .ok ipv4
  | 1 => .ok ipv6
  | 2 => .ok fqdn
  | _ => .error (.refused (.invalidNodeIdType value))

end NodeIdType

structure NodeId where
  nodeIdType : NodeIdType
  ipv4Addr : Option Ipv4
  ipv6Addr : Option Ipv6
  fqdn : Option String

namespace NodeId

variable (fqdn : String)

def newIpv4 (addr : Ipv4) : NodeId := ⟨.ipv4, some addr, none, none⟩

def newIpv6 (addr : Ipv6) : NodeId := ⟨.ipv6, none, some addr, none⟩

def newFqdn : NodeId := ⟨.fqdn, none, none, some fqdn⟩

def labels : List String :=
  ((fqdn.toList.splitOn '.').filter fun label => !label.isEmpty).map String.ofList

def encodeLabel (label : String) : Bytes :=
  putU8 (UInt8.ofNat (asBytes label).length) ++ asBytes label

def encodeFqdn : Bytes := (labels fqdn).flatMap encodeLabel ++ putU8 0

def encode (nodeId : NodeId) : Bytes :=
  putU8 nodeId.nodeIdType.toU8 ++
    match nodeId.nodeIdType with
    | .ipv4 => putSome toList nodeId.ipv4Addr
    | .ipv6 => putSome toList nodeId.ipv6Addr
    | .fqdn => putSome encodeFqdn nodeId.fqdn

def decodeLabels : ℕ → String → Decoding String
  | 0, fqdn => pure fqdn
  | turns + 1, fqdn => fun octets =>
    if octets.isEmpty then .ok (fqdn, octets)
    else (do
      let len ← getU8
      if len = 0 then pure fqdn
      else do
        let label ← checked PfcpError.bufferTooShort len.toNat (copyToBytes len.toNat)
        let dotted := if fqdn.isEmpty then fqdn else fqdn ++ "."
        decodeLabels turns (dotted ++ fromUtf8Lossy label)) octets

def decodeFqdn : Decoding String := fun octets => decodeLabels octets.length "" octets

def decode : Decoding NodeId := do
  let first ← checked PfcpError.bufferTooShort 1 getU8
  let nodeIdType ← Reading.lift (NodeIdType.tryFrom (first &&& 0x0F))
  match nodeIdType with
  | .ipv4 => do
    let addr ← address 4
    pure (newIpv4 addr)
  | .ipv6 => do
    let addr ← address 16
    pure (newIpv6 addr)
  | .fqdn => do
    let fqdn ← decodeFqdn
    pure (newFqdn fqdn)

end NodeId

structure FSeid where
  ipv4 : Bool
  ipv6 : Bool
  seid : UInt64
  ipv4Addr : Option Ipv4
  ipv6Addr : Option Ipv6

namespace FSeid

def encode (fSeid : FSeid) : Bytes :=
  putU8 (flagsOctet [fSeid.ipv6, fSeid.ipv4]) ++ (putU64 fSeid.seid ++
      (putSome toList fSeid.ipv4Addr ++ putSome toList fSeid.ipv6Addr))

def decode : Decoding FSeid := do
  require 9 (PfcpError.bufferTooShort 9)
  let flags ← getU8
  let seid ← getU64
  let ipv4Addr ← givenIf (flags.toNat.testBit 1) (address 4)
  let ipv6Addr ← givenIf (flags.toNat.testBit 0) (address 16)
  pure ⟨flags.toNat.testBit 1, flags.toNat.testBit 0, seid, ipv4Addr, ipv6Addr⟩

end FSeid

structure FTeid where
  ipv4 : Bool
  ipv6 : Bool
  ch : Bool
  chid : Bool
  teid : UInt32
  ipv4Addr : Option Ipv4
  ipv6Addr : Option Ipv6
  chooseId : Option UInt8

namespace FTeid

def newChoose (ipv4 ipv6 : Bool) (chooseId : Option UInt8) : FTeid :=
  ⟨ipv4, ipv6, true, chooseId.isSome, 0, none, none, chooseId⟩

def encode (fTeid : FTeid) : Bytes :=
  putU8 (flagsOctet [fTeid.ipv4, fTeid.ipv6, fTeid.ch, fTeid.chid]) ++
    (putIf (!fTeid.ch) (putU32 fTeid.teid ++
        (putSome toList fTeid.ipv4Addr ++ putSome toList fTeid.ipv6Addr)) ++
      putIf fTeid.chid (putU8 (fTeid.chooseId.getD 0)))

def decode : Decoding FTeid := do
  let flags ← checked PfcpError.bufferTooShort 1 getU8
  let ipv4 := flags.toNat.testBit 0
  let ipv6 := flags.toNat.testBit 1
  let ch := flags.toNat.testBit 2
  let chid := flags.toNat.testBit 3
  Reading.refuse (chid = true ∧ ch = false)
    (.refused (.invalidFormat "F-TEID: CHID flag set without CH flag"))
  let teid ← orElse (!ch) 0 (checked PfcpError.bufferTooShort 4 getU32)
  let ipv4Addr ← givenIf (ipv4 && !ch) (address 4)
  let ipv6Addr ← givenIf (ipv6 && !ch) (address 16)
  let chooseId ← givenIf chid (checked PfcpError.bufferTooShort 1 getU8)
  pure ⟨ipv4, ipv6, ch, chid, teid, ipv4Addr, ipv6Addr, chooseId⟩

end FTeid

structure UeIpAddress where
  ipv4 : Bool
  ipv6 : Bool
  sd : Bool
  ipv6d : Bool
  chv4 : Bool
  chv6 : Bool
  ip6pl : Bool
  ipv4Addr : Option Ipv4
  ipv6Addr : Option Ipv6
  ipv6PrefixDelegationBits : Option UInt8
  ipv6PrefixLength : Option UInt8

namespace UeIpAddress

def encode (ueIp : UeIpAddress) : Bytes :=
  putU8 (flagsOctet [ueIp.ipv6, ueIp.ipv4, ueIp.sd, ueIp.ipv6d, ueIp.chv4, ueIp.chv6,
      ueIp.ip6pl]) ++
    (putSome toList ueIp.ipv4Addr ++ (putSome toList ueIp.ipv6Addr ++
        (putSome putU8 ueIp.ipv6PrefixDelegationBits ++ putSome putU8 ueIp.ipv6PrefixLength)))

def decode : Decoding UeIpAddress := do
  let flags ← checked PfcpError.bufferTooShort 1 getU8
  let ipv6 := flags.toNat.testBit 0
  let ipv4 := flags.toNat.testBit 1
  let sd := flags.toNat.testBit 2
  let ipv6d := flags.toNat.testBit 3
  let chv4 := flags.toNat.testBit 4
  let chv6 := flags.toNat.testBit 5
  let ip6pl := flags.toNat.testBit 6
  let ipv4Addr ← givenIf (ipv4 && !chv4) (address 4)
  let ipv6Addr ← givenIf (ipv6 && !chv6) (address 16)
  let ipv6PrefixDelegationBits ← givenIf ipv6d (checked PfcpError.bufferTooShort 1 getU8)
  let ipv6PrefixLength ← givenIf ip6pl (checked PfcpError.bufferTooShort 1 getU8)
  pure ⟨ipv4, ipv6, sd, ipv6d, chv4, chv6, ip6pl, ipv4Addr, ipv6Addr, ipv6PrefixDelegationBits,
    ipv6PrefixLength⟩

end UeIpAddress

end NextGCore.Pfcp
