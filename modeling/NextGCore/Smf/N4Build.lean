import NextGCore.Library.Fields
import NextGCore.Sbi.Text

/-!
# The PFCP elements that the SMF writes

The builder puts elements one after the other; a grouped element is a buffer of its own.
-/

namespace NextGCore.Smf

open Library Vector
open Sbi (asBytes)

namespace PfcpIe

def PDI : UInt16 := 2
def FORWARDING_PARAMETERS : UInt16 := 4
def SOURCE_INTERFACE : UInt16 := 20
def F_TEID : UInt16 := 21
def NETWORK_INSTANCE : UInt16 := 22
def SDF_FILTER : UInt16 := 23
def GATE_STATUS : UInt16 := 25
def MBR : UInt16 := 26
def GBR : UInt16 := 27
def PRECEDENCE : UInt16 := 29
def VOLUME_THRESHOLD : UInt16 := 31
def TIME_THRESHOLD : UInt16 := 32
def REPORTING_TRIGGERS : UInt16 := 37
def DESTINATION_INTERFACE : UInt16 := 42
def APPLY_ACTION : UInt16 := 44
def PDR_ID : UInt16 := 56
def MEASUREMENT_METHOD : UInt16 := 62
def VOLUME_QUOTA : UInt16 := 73
def TIME_QUOTA : UInt16 := 74
def URR_ID : UInt16 := 81
def OUTER_HEADER_CREATION : UInt16 := 84
def UE_IP_ADDRESS : UInt16 := 93
def OUTER_HEADER_REMOVAL : UInt16 := 95
def FAR_ID : UInt16 := 108
def QER_ID : UInt16 := 109
def QFI : UInt16 := 124
def QUOTA_VALIDITY_TIME : UInt16 := 181

end PfcpIe

def tlv (ieType : UInt16) (value : List UInt8) : List UInt8 :=
  beOctets 2 ieType.toNat ++ beOctets 2 value.length ++ value

structure PfcpMessageBuilder where
  buffer : List UInt8

namespace PfcpMessageBuilder

def new : PfcpMessageBuilder := ⟨[]⟩

def build (builder : PfcpMessageBuilder) : List UInt8 := builder.buffer

variable (builder : PfcpMessageBuilder)

def addTlv (ieType : UInt16) (value : List UInt8) : PfcpMessageBuilder :=
  ⟨builder.buffer ++ tlv ieType value⟩

def addU8 (ieType : UInt16) (value : UInt8) : PfcpMessageBuilder := builder.addTlv ieType [value]

def addU16 (ieType : UInt16) (value : UInt16) : PfcpMessageBuilder :=
  builder.addTlv ieType (putU16 value)

def addU32 (ieType : UInt16) (value : UInt32) : PfcpMessageBuilder :=
  builder.addTlv ieType (beOctets 4 value.toNat)

def addSome {Value : Type} (given : Option Value)
  (add : PfcpMessageBuilder → Value → PfcpMessageBuilder) : PfcpMessageBuilder :=
  given.elim builder (add builder)

def addPdrId (pdrId : UInt16) : PfcpMessageBuilder := builder.addU16 PfcpIe.PDR_ID pdrId

def addFarId (farId : UInt32) : PfcpMessageBuilder := builder.addU32 PfcpIe.FAR_ID farId

def addUrrId (urrId : UInt32) : PfcpMessageBuilder := builder.addU32 PfcpIe.URR_ID urrId

def addQerId (qerId : UInt32) : PfcpMessageBuilder := builder.addU32 PfcpIe.QER_ID qerId

def addQfi (qfi : UInt8) : PfcpMessageBuilder := builder.addU8 PfcpIe.QFI qfi

def addPrecedence (precedence : UInt32) : PfcpMessageBuilder :=
  builder.addU32 PfcpIe.PRECEDENCE precedence

def addSourceInterface (interface : UInt8) : PfcpMessageBuilder :=
  builder.addU8 PfcpIe.SOURCE_INTERFACE interface

def addDestinationInterface (interface : UInt8) : PfcpMessageBuilder :=
  builder.addU8 PfcpIe.DESTINATION_INTERFACE interface

def addApplyAction (action : UInt16) : PfcpMessageBuilder :=
  builder.addU16 PfcpIe.APPLY_ACTION action

def addOuterHeaderRemoval (description : UInt8) : PfcpMessageBuilder :=
  builder.addU8 PfcpIe.OUTER_HEADER_REMOVAL description

end PfcpMessageBuilder

abbrev Ipv4Octets := Vector UInt8 4

abbrev Ipv6Octets := Vector UInt8 16

def flagIf (present : Bool) (bit : UInt8) : UInt8 := if present then bit else 0

def fTeidValue (teid : UInt32) (ipv4 : Option Ipv4Octets) (ipv6 : Option Ipv6Octets)
  (chooseId : Option UInt8) : List UInt8 :=
  (flagIf ipv4.isSome 0x01 ||| flagIf ipv6.isSome 0x02 ||| flagIf chooseId.isSome 0x04) ::
    (putU32 teid ++ (putSome toList ipv4 ++ (putSome toList ipv6 ++ chooseId.toList)))

def ueIpAddressValue (ipv4 : Option Ipv4Octets) (ipv6 : Option Ipv6Octets) (destination : Bool) :
  List UInt8 :=
  (flagIf ipv6.isSome 0x01 ||| flagIf ipv4.isSome 0x02 ||| flagIf destination 0x04) ::
    (putSome toList ipv4 ++ putSome toList ipv6)

def outerHeaderCreationValue (description : UInt16) (teid : UInt32) (ipv4 : Option Ipv4Octets)
  (ipv6 : Option Ipv6Octets) : List UInt8 :=
  putU16 description ++ (putU32 teid ++ (putSome toList ipv4 ++ putSome toList ipv6))

def sdfFilterValue (flowDescription : Option String) (tosTrafficClass : Option UInt16)
  (securityParamIndex flowLabel sdfFilterId : Option UInt32) : List UInt8 :=
  (flagIf flowDescription.isSome 0x01 ||| flagIf tosTrafficClass.isSome 0x02 |||
      flagIf securityParamIndex.isSome 0x04 ||| flagIf flowLabel.isSome 0x08 |||
      flagIf sdfFilterId.isSome 0x10) :: 0 ::
    (putSome (fun text => beOctets 2 (asBytes text).length ++ asBytes text) flowDescription ++
      (putSome putU16 tosTrafficClass ++ putSome putU32 securityParamIndex ++
        putSome (fun label => beOctets 3 label.toNat) flowLabel ++ putSome putU32 sdfFilterId))

namespace PfcpMessageBuilder

variable (builder : PfcpMessageBuilder)

def addFTeid (teid : UInt32) (ipv4 : Option Ipv4Octets) (ipv6 : Option Ipv6Octets)
  (chooseId : Option UInt8) : PfcpMessageBuilder :=
  builder.addTlv PfcpIe.F_TEID (fTeidValue teid ipv4 ipv6 chooseId)

/-- The flag of a source stays clear; in a debug build a source is not a destination. -/
def addUeIpAddress (ipv4 : Option Ipv4Octets) (ipv6 : Option Ipv6Octets) (_source : Bool)
  (destination : Bool) : PfcpMessageBuilder :=
  builder.addTlv PfcpIe.UE_IP_ADDRESS (ueIpAddressValue ipv4 ipv6 destination)

def addOuterHeaderCreation (description : UInt16) (teid : UInt32) (ipv4 : Option Ipv4Octets)
  (ipv6 : Option Ipv6Octets) : PfcpMessageBuilder :=
  builder.addTlv PfcpIe.OUTER_HEADER_CREATION (outerHeaderCreationValue description teid ipv4 ipv6)

def addSdfFilter (flowDescription : Option String) (tosTrafficClass : Option UInt16)
  (securityParamIndex flowLabel sdfFilterId : Option UInt32) : PfcpMessageBuilder :=
  builder.addTlv PfcpIe.SDF_FILTER
    (sdfFilterValue flowDescription tosTrafficClass securityParamIndex flowLabel sdfFilterId)

def addNetworkInstance (networkInstance : String) : PfcpMessageBuilder :=
  builder.addTlv PfcpIe.NETWORK_INSTANCE (asBytes networkInstance)

end PfcpMessageBuilder

def volumesValue (total uplink downlink : Option UInt64) : List UInt8 :=
  (flagIf total.isSome 0x01 ||| flagIf uplink.isSome 0x02 ||| flagIf downlink.isSome 0x04) ::
    (putSome putU64 total ++ (putSome putU64 uplink ++ putSome putU64 downlink))

def measurementMethodValue (duration volume event : Bool) : UInt8 :=
  flagIf duration 0x01 ||| flagIf volume 0x02 ||| flagIf event 0x04

namespace PfcpMessageBuilder

variable (builder : PfcpMessageBuilder)

def addMeasurementMethod (duration volume event : Bool) : PfcpMessageBuilder :=
  builder.addU8 PfcpIe.MEASUREMENT_METHOD (measurementMethodValue duration volume event)

def addReportingTriggers (triggers : UInt32) : PfcpMessageBuilder :=
  builder.addTlv PfcpIe.REPORTING_TRIGGERS (beOctets 3 triggers.toNat)

def addVolumeThreshold (total uplink downlink : Option UInt64) : PfcpMessageBuilder :=
  builder.addTlv PfcpIe.VOLUME_THRESHOLD (volumesValue total uplink downlink)

def addVolumeQuota (total uplink downlink : Option UInt64) : PfcpMessageBuilder :=
  builder.addTlv PfcpIe.VOLUME_QUOTA (volumesValue total uplink downlink)

def addTimeThreshold (seconds : UInt32) : PfcpMessageBuilder :=
  builder.addU32 PfcpIe.TIME_THRESHOLD seconds

def addTimeQuota (seconds : UInt32) : PfcpMessageBuilder :=
  builder.addU32 PfcpIe.TIME_QUOTA seconds

def addQuotaValidityTime (seconds : UInt32) : PfcpMessageBuilder :=
  builder.addU32 PfcpIe.QUOTA_VALIDITY_TIME seconds

end PfcpMessageBuilder

/-- `div_ceil(1000)`: the kbit/s of a rate in bit/s, rounded up. -/
def kbitsOf (bitsPerSec : UInt64) : ℕ := (bitsPerSec.toNat + 999) / 1000

def kbitOctets (bitsPerSec : UInt64) : List UInt8 := (beOctets 8 (kbitsOf bitsPerSec)).drop 3

namespace PfcpMessageBuilder

variable (builder : PfcpMessageBuilder)

def addMbr (uplink downlink : UInt64) : PfcpMessageBuilder :=
  builder.addTlv PfcpIe.MBR (kbitOctets uplink ++ kbitOctets downlink)

def addGbr (uplink downlink : UInt64) : PfcpMessageBuilder :=
  builder.addTlv PfcpIe.GBR (kbitOctets uplink ++ kbitOctets downlink)

def addGateStatus (dlGate ulGate : UInt8) : PfcpMessageBuilder :=
  builder.addU8 PfcpIe.GATE_STATUS (dlGate &&& 0x03 ||| (ulGate &&& 0x03) <<< (2 : UInt8))

end PfcpMessageBuilder

structure QerParams where
  qerId : UInt32
  gateStatus : UInt8 × UInt8
  mbr : Option (UInt64 × UInt64)
  gbr : Option (UInt64 × UInt64)
  qfi : Option UInt8

def buildCreateQer (params : QerParams) : List UInt8 :=
  let builder := PfcpMessageBuilder.new.addQerId params.qerId
  let builder := builder.addGateStatus params.gateStatus.1 params.gateStatus.2
  let builder := params.mbr.elim builder fun rates => builder.addMbr rates.1 rates.2
  let builder := params.gbr.elim builder fun rates => builder.addGbr rates.1 rates.2
  let builder := params.qfi.elim builder builder.addQfi
  builder.build

structure PdrParams where
  pdrId : UInt16
  precedence : UInt32
  sourceInterface : UInt8
  farId : Option UInt32
  urrIds : List UInt32
  qerId : Option UInt32
  outerHeaderRemoval : Option UInt8
  fTeid : Option (UInt32 × Option Ipv4Octets × Option Ipv6Octets)
  ueIpAddress : Option (Option Ipv4Octets × Option Ipv6Octets × Bool)
  sdfFilters : List String
  qfi : Option UInt8
  networkInstance : Option String

def buildPdi (params : PdrParams) : List UInt8 :=
  let builder := PfcpMessageBuilder.new.addSourceInterface params.sourceInterface
  let builder := builder.addSome params.fTeid fun builder fTeid =>
    builder.addFTeid fTeid.1 fTeid.2.1 fTeid.2.2 none
  let builder := builder.addSome params.ueIpAddress fun builder ueIp =>
    builder.addUeIpAddress ueIp.1 ueIp.2.1 ueIp.2.2 !ueIp.2.2
  let builder := params.sdfFilters.foldl
    (fun builder sdf => builder.addSdfFilter (some sdf) none none none none) builder
  let builder := builder.addSome params.qfi PfcpMessageBuilder.addQfi
  let builder := builder.addSome params.networkInstance PfcpMessageBuilder.addNetworkInstance
  builder.build

def buildCreatePdr (params : PdrParams) : List UInt8 :=
  let builder := PfcpMessageBuilder.new.addPdrId params.pdrId
  let builder := builder.addPrecedence params.precedence
  let builder := builder.addTlv PfcpIe.PDI (buildPdi params)
  let builder := builder.addSome params.outerHeaderRemoval PfcpMessageBuilder.addOuterHeaderRemoval
  let builder := builder.addSome params.farId PfcpMessageBuilder.addFarId
  let builder := params.urrIds.foldl PfcpMessageBuilder.addUrrId builder
  let builder := builder.addSome params.qerId PfcpMessageBuilder.addQerId
  builder.build

namespace ApplyActionFlag

def FORW : UInt16 := (1 : UInt16) <<< (1 : UInt16)

end ApplyActionFlag

structure FarParams where
  farId : UInt32
  applyAction : UInt16
  destinationInterface : Option UInt8
  outerHeaderCreation : Option (UInt16 × UInt32 × Option Ipv4Octets × Option Ipv6Octets)
  networkInstance : Option String

def buildForwardingParameters (params : FarParams) : List UInt8 :=
  let builder := PfcpMessageBuilder.new.addSome params.destinationInterface
    PfcpMessageBuilder.addDestinationInterface
  let builder := builder.addSome params.networkInstance PfcpMessageBuilder.addNetworkInstance
  let builder := builder.addSome params.outerHeaderCreation fun builder creation =>
    builder.addOuterHeaderCreation creation.1 creation.2.1 creation.2.2.1 creation.2.2.2
  builder.build

def buildCreateFar (params : FarParams) : List UInt8 :=
  let builder := PfcpMessageBuilder.new.addFarId params.farId
  let builder := builder.addApplyAction params.applyAction
  let builder :=
    if params.applyAction &&& ApplyActionFlag.FORW != 0 then
      builder.addTlv PfcpIe.FORWARDING_PARAMETERS (buildForwardingParameters params)
    else builder
  builder.build

structure UrrParams where
  urrId : UInt32
  measurementMethod : Bool × Bool × Bool
  reportingTriggers : UInt32
  volumeThreshold : Option (Option UInt64 × Option UInt64 × Option UInt64)
  volumeQuota : Option (Option UInt64 × Option UInt64 × Option UInt64)
  timeThreshold : Option UInt32
  timeQuota : Option UInt32
  quotaValidityTime : Option UInt32

def buildCreateUrr (params : UrrParams) : List UInt8 :=
  let builder := PfcpMessageBuilder.new.addUrrId params.urrId
  let builder := builder.addMeasurementMethod params.measurementMethod.1
    params.measurementMethod.2.1 params.measurementMethod.2.2
  let builder := builder.addReportingTriggers params.reportingTriggers
  let builder := builder.addSome params.volumeThreshold fun builder volumes =>
    builder.addVolumeThreshold volumes.1 volumes.2.1 volumes.2.2
  let builder := builder.addSome params.volumeQuota fun builder volumes =>
    builder.addVolumeQuota volumes.1 volumes.2.1 volumes.2.2
  let builder := builder.addSome params.timeThreshold PfcpMessageBuilder.addTimeThreshold
  let builder := builder.addSome params.timeQuota PfcpMessageBuilder.addTimeQuota
  let builder := builder.addSome params.quotaValidityTime PfcpMessageBuilder.addQuotaValidityTime
  builder.build

end NextGCore.Smf
