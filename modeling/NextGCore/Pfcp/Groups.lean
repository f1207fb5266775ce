import NextGCore.Pfcp.RuleTypes

/-!
# Groups of elements

The rules of a session and the reports on it.  A decoder starts from defaults and gathers one
element after the other; only then are the fields checked that must be there.
-/

namespace NextGCore.Pfcp

open Library Sbi IeType

structure LoadControlInformation where
  sequenceNumber : UInt32
  metric : UInt8

namespace LoadControlInformation

structure Fields where
  sequenceNumber : Option UInt32
  metric : Option UInt8

def ies (info : LoadControlInformation) : List RawIe :=
  [encodeU32Ie IeType.sequenceNumber info.sequenceNumber] ++ [encodeU8Ie IeType.metric info.metric]

def encode (info : LoadControlInformation) : Bytes := encodeIes info.ies

def arms : List (Arm PfcpError Fields) :=
  [.of IeType.sequenceNumber takeU32 fun fields value =>
      { fields with sequenceNumber := some value },
    .of IeType.metric takeU8 fun fields value => { fields with metric := some value }]

def decode : Decoding LoadControlInformation := do
  let fields ← decodeIes arms ⟨none, none⟩
  let sequenceNumber ← mandatory "Sequence Number" fields.sequenceNumber
  let metric ← mandatory "Metric" fields.metric
  pure ⟨sequenceNumber, metric⟩

end LoadControlInformation

structure Pdi where
  sourceInterface : SourceInterface
  localFTeid : Option FTeid
  networkInstance : Option String
  ueIpAddress : Option UeIpAddress
  sdfFilter : Option Bytes
  applicationId : Option Bytes

namespace Pdi

def new (sourceInterface : SourceInterface) : Pdi :=
  ⟨sourceInterface, none, none, none, none, none⟩

def ies (pdi : Pdi) : List RawIe :=
  [encodeU8Ie IeType.sourceInterface pdi.sourceInterface.toU8] ++
    (ifGiven fTeid FTeid.encode pdi.localFTeid ++
      (ifGiven IeType.networkInstance asBytes pdi.networkInstance ++
        (ifGiven IeType.ueIpAddress UeIpAddress.encode pdi.ueIpAddress ++
          (ifGiven IeType.sdfFilter id pdi.sdfFilter ++
            ifGiven IeType.applicationId id pdi.applicationId))))

def encode (pdi : Pdi) : Bytes := encodeIes pdi.ies

def arms : List (Arm PfcpError Pdi) :=
  [.of IeType.sourceInterface (firstOctet fun octet => SourceInterface.tryFrom (octet &&& 0x0F))
      fun pdi value => { pdi with sourceInterface := value },
    .of fTeid (whole FTeid.decode) fun pdi value => { pdi with localFTeid := some value },
    .of IeType.networkInstance (allOctets fromUtf8Lossy) fun pdi value =>
      { pdi with networkInstance := some value },
    .of IeType.ueIpAddress (whole UeIpAddress.decode) fun pdi value =>
      { pdi with ueIpAddress := some value },
    .of IeType.sdfFilter (allOctets id) fun pdi value => { pdi with sdfFilter := some value },
    .of IeType.applicationId (allOctets id) fun pdi value =>
      { pdi with applicationId := some value }]

def decode : Decoding Pdi := decodeIes arms (new .access)

end Pdi

structure CreatePdr where
  pdrId : UInt16
  precedence : UInt32
  pdi : Pdi
  outerHeaderRemoval : Option OuterHeaderRemoval
  farId : Option UInt32
  urrIds : List UInt32
  qerId : Option UInt32

namespace CreatePdr

structure Fields where
  pdrId : UInt16
  precedence : UInt32
  pdi : Option Pdi
  outerHeaderRemoval : Option OuterHeaderRemoval
  farId : Option UInt32
  urrIds : List UInt32
  qerId : Option UInt32

def ies (pdr : CreatePdr) : List RawIe :=
  [encodeU16Ie IeType.pdrId pdr.pdrId] ++ ([encodeU32Ie IeType.precedence pdr.precedence] ++
      ([encodeBytesIe IeType.pdi pdr.pdi.encode] ++
        (ifGiven IeType.outerHeaderRemoval OuterHeaderRemoval.encode pdr.outerHeaderRemoval ++
          (ifGiven IeType.farId putU32 pdr.farId ++
            (each IeType.urrId putU32 pdr.urrIds ++ ifGiven IeType.qerId putU32 pdr.qerId)))))

def encode (pdr : CreatePdr) : Bytes := encodeIes pdr.ies

def arms : List (Arm PfcpError Fields) :=
  [.of IeType.pdrId takeU16 fun fields value => { fields with pdrId := value },
    .of IeType.precedence takeU32 fun fields value => { fields with precedence := value },
    .of IeType.pdi (whole Pdi.decode) fun fields value => { fields with pdi := some value },
    .of IeType.outerHeaderRemoval (whole OuterHeaderRemoval.decode) fun fields value =>
      { fields with outerHeaderRemoval := some value },
    .of IeType.farId takeU32 fun fields value => { fields with farId := some value },
    .of IeType.urrId takeU32 fun fields value =>
      { fields with urrIds := fields.urrIds ++ [value] },
    .of IeType.qerId takeU32 fun fields value => { fields with qerId := some value }]

def decode : Decoding CreatePdr := do
  let fields ← decodeIes arms ⟨0, 0, none, none, none, [], none⟩
  let pdi ← mandatory "PDI" fields.pdi
  pure ⟨fields.pdrId, fields.precedence, pdi, fields.outerHeaderRemoval, fields.farId,
    fields.urrIds, fields.qerId⟩

end CreatePdr

structure UpdatePdr where
  pdrId : UInt16
  precedence : Option UInt32
  pdi : Option Pdi
  outerHeaderRemoval : Option OuterHeaderRemoval
  farId : Option UInt32
  urrIds : List UInt32
  qerId : Option UInt32

namespace UpdatePdr

def new (pdrId : UInt16) : UpdatePdr := ⟨pdrId, none, none, none, none, [], none⟩

def ies (pdr : UpdatePdr) : List RawIe :=
  [encodeU16Ie IeType.pdrId pdr.pdrId] ++ (ifGiven IeType.precedence putU32 pdr.precedence ++
      (ifGiven IeType.pdi Pdi.encode pdr.pdi ++
        (ifGiven IeType.outerHeaderRemoval OuterHeaderRemoval.encode pdr.outerHeaderRemoval ++
          (ifGiven IeType.farId putU32 pdr.farId ++
            (each IeType.urrId putU32 pdr.urrIds ++ ifGiven IeType.qerId putU32 pdr.qerId)))))

def encode (pdr : UpdatePdr) : Bytes := encodeIes pdr.ies

def arms : List (Arm PfcpError UpdatePdr) :=
  [.of IeType.pdrId takeU16 fun pdr value => { pdr with pdrId := value },
    .of IeType.precedence takeU32 fun pdr value => { pdr with precedence := some value },
    .of IeType.pdi (whole Pdi.decode) fun pdr value => { pdr with pdi := some value },
    .of IeType.outerHeaderRemoval (whole OuterHeaderRemoval.decode) fun pdr value =>
      { pdr with outerHeaderRemoval := some value },
    .of IeType.farId takeU32 fun pdr value => { pdr with farId := some value },
    .of IeType.urrId takeU32 fun pdr value => { pdr with urrIds := pdr.urrIds ++ [value] },
    .of IeType.qerId takeU32 fun pdr value => { pdr with qerId := some value }]

def decode : Decoding UpdatePdr := decodeIes arms (new 0)

end UpdatePdr

structure RemovePdr where
  pdrId : UInt16

namespace RemovePdr

def ies (pdr : RemovePdr) : List RawIe := [encodeU16Ie IeType.pdrId pdr.pdrId]

def encode (pdr : RemovePdr) : Bytes := encodeIes pdr.ies

def arms : List (Arm PfcpError RemovePdr) :=
  [.of IeType.pdrId takeU16 fun pdr value => { pdr with pdrId := value }]

def decode : Decoding RemovePdr := decodeIes arms ⟨0⟩

end RemovePdr

structure CreatedPdr where
  pdrId : UInt16
  localFTeid : Option FTeid

namespace CreatedPdr

def ies (pdr : CreatedPdr) : List RawIe :=
  [encodeU16Ie IeType.pdrId pdr.pdrId] ++ ifGiven fTeid FTeid.encode pdr.localFTeid

def encode (pdr : CreatedPdr) : Bytes := encodeIes pdr.ies

def arms : List (Arm PfcpError CreatedPdr) :=
  [.of IeType.pdrId takeU16 fun pdr value => { pdr with pdrId := value },
    .of fTeid (whole FTeid.decode) fun pdr value => { pdr with localFTeid := some value }]

def decode : Decoding CreatedPdr := decodeIes arms ⟨0, none⟩

end CreatedPdr

structure ForwardingParameters where
  destinationInterface : DestinationInterface
  networkInstance : Option String
  outerHeaderCreation : Option OuterHeaderCreation

namespace ForwardingParameters

def new (destinationInterface : DestinationInterface) : ForwardingParameters :=
  ⟨destinationInterface, none, none⟩

def ies (parameters : ForwardingParameters) : List RawIe :=
  [encodeU8Ie IeType.destinationInterface parameters.destinationInterface.toU8] ++
    (ifGiven IeType.networkInstance asBytes parameters.networkInstance ++
      ifGiven IeType.outerHeaderCreation OuterHeaderCreation.encode parameters.outerHeaderCreation)

def encode (parameters : ForwardingParameters) : Bytes := encodeIes parameters.ies

def arms : List (Arm PfcpError ForwardingParameters) :=
  [.of IeType.destinationInterface
      (firstOctet fun octet => DestinationInterface.tryFrom (octet &&& 0x0F))
      fun parameters value => { parameters with destinationInterface := value },
    .of IeType.networkInstance (allOctets fromUtf8Lossy) fun parameters value =>
      { parameters with networkInstance := some value },
    .of IeType.outerHeaderCreation (whole OuterHeaderCreation.decode) fun parameters value =>
      { parameters with outerHeaderCreation := some value }]

def decode : Decoding ForwardingParameters := decodeIes arms (new .access)

end ForwardingParameters

/-- `if ie.data.len() >= 2 { ApplyAction::decode_ie(&ie.data[..]) }` -/
def takeApplyAction : Taking PfcpError ApplyAction := fun data =>
  if 2 ≤ data.length then .ok (some (ApplyAction.decodeIe data)) else .ok none

structure CreateFar where
  farId : UInt32
  applyAction : ApplyAction
  forwardingParameters : Option ForwardingParameters
  barId : Option UInt8

namespace CreateFar

def new (farId : UInt32) (applyAction : ApplyAction) : CreateFar :=
  ⟨farId, applyAction, none, none⟩

def ies (far : CreateFar) : List RawIe :=
  [encodeU32Ie IeType.farId far.farId] ++ ([far.applyAction.encodeIe] ++
      (ifGiven IeType.forwardingParameters ForwardingParameters.encode far.forwardingParameters ++
        ifGiven IeType.barId putU8 far.barId))

def encode (far : CreateFar) : Bytes := encodeIes far.ies

def arms : List (Arm PfcpError CreateFar) :=
  [.of IeType.farId takeU32 fun far value => { far with farId := value },
    .of IeType.applyAction takeApplyAction fun far value => { far with applyAction := value },
    .of IeType.forwardingParameters (whole ForwardingParameters.decode) fun far value =>
      { far with forwardingParameters := some value },
    .of IeType.barId takeU8 fun far value => { far with barId := some value }]

def decode : Decoding CreateFar := decodeIes arms (new 0 ApplyAction.default)

end CreateFar

structure UpdateFar where
  farId : UInt32
  applyAction : Option ApplyAction
  forwardingParameters : Option ForwardingParameters
  barId : Option UInt8

namespace UpdateFar

def new (farId : UInt32) : UpdateFar := ⟨farId, none, none, none⟩

def ies (far : UpdateFar) : List RawIe :=
  [encodeU32Ie IeType.farId far.farId] ++
    (ifGiven IeType.applyAction (fun action => action.encodeIe.value) far.applyAction ++
      (ifGiven updateForwardingParameters ForwardingParameters.encode
          far.forwardingParameters ++
        ifGiven IeType.barId putU8 far.barId))

def encode (far : UpdateFar) : Bytes := encodeIes far.ies

def arms : List (Arm PfcpError UpdateFar) :=
  [.of IeType.farId takeU32 fun far value => { far with farId := value },
    .of IeType.applyAction takeApplyAction fun far value =>
      { far with applyAction := some value },
    .of updateForwardingParameters (whole ForwardingParameters.decode) fun far value =>
      { far with forwardingParameters := some value },
    .of IeType.barId takeU8 fun far value => { far with barId := some value }]

def decode : Decoding UpdateFar := decodeIes arms (new 0)

end UpdateFar

structure RemoveFar where
  farId : UInt32

namespace RemoveFar

def ies (far : RemoveFar) : List RawIe := [encodeU32Ie IeType.farId far.farId]

def encode (far : RemoveFar) : Bytes := encodeIes far.ies

def arms : List (Arm PfcpError RemoveFar) :=
  [.of IeType.farId takeU32 fun far value => { far with farId := value }]

def decode : Decoding RemoveFar := decodeIes arms ⟨0⟩

end RemoveFar

structure CreateQer where
  qerId : UInt32
  gateStatus : GateStatus
  maximumBitrate : Option Bitrate
  guaranteedBitrate : Option Bitrate
  qfi : Option UInt8

namespace CreateQer

def new (qerId : UInt32) (gateStatus : GateStatus) : CreateQer :=
  ⟨qerId, gateStatus, none, none, none⟩

def ies (qer : CreateQer) : List RawIe :=
  [encodeU32Ie IeType.qerId qer.qerId] ++ ([encodeU8Ie IeType.gateStatus qer.gateStatus.encode] ++
      (ifGiven mbr Bitrate.encode qer.maximumBitrate ++
        (ifGiven gbr Bitrate.encode qer.guaranteedBitrate ++
          ifGiven IeType.qfi putU8 qer.qfi)))

def encode (qer : CreateQer) : Bytes := encodeIes qer.ies

def arms : List (Arm PfcpError CreateQer) :=
  [.of IeType.qerId takeU32 fun qer value => { qer with qerId := value },
    .of IeType.gateStatus (firstOctet fun octet => .ok (GateStatus.decode octet))
      fun qer value => { qer with gateStatus := value },
    .of mbr (whole Bitrate.decode) fun qer value =>
      { qer with maximumBitrate := some value },
    .of gbr (whole Bitrate.decode) fun qer value =>
      { qer with guaranteedBitrate := some value },
    .of IeType.qfi takeU8 fun qer value => { qer with qfi := some value }]

def decode : Decoding CreateQer := decodeIes arms (new 0 ⟨false, false⟩)

end CreateQer

structure CreateUrr where
  urrId : UInt32
  measurementMethod : MeasurementMethod
  reportingTriggers : ReportingTriggers
  measurementPeriod : Option UInt32
  volumeThreshold : Option VolumeThreshold
  timeThreshold : Option UInt32

namespace CreateUrr

def new (urrId : UInt32) (measurementMethod : MeasurementMethod)
  (reportingTriggers : ReportingTriggers) : CreateUrr :=
  ⟨urrId, measurementMethod, reportingTriggers, none, none, none⟩

def ies (urr : CreateUrr) : List RawIe :=
  [encodeU32Ie IeType.urrId urr.urrId] ++
    ([encodeU8Ie IeType.measurementMethod urr.measurementMethod.encode] ++
      ([encodeBytesIe IeType.reportingTriggers urr.reportingTriggers.encode] ++
        (ifGiven IeType.measurementPeriod putU32 urr.measurementPeriod ++
          (ifGiven IeType.volumeThreshold VolumeThreshold.encode urr.volumeThreshold ++
            ifGiven IeType.timeThreshold putU32 urr.timeThreshold))))

def encode (urr : CreateUrr) : Bytes := encodeIes urr.ies

def arms : List (Arm PfcpError CreateUrr) :=
  [.of IeType.urrId takeU32 fun urr value => { urr with urrId := value },
    .of IeType.measurementMethod (firstOctet fun octet => .ok (MeasurementMethod.decode octet))
      fun urr value => { urr with measurementMethod := value },
    .of IeType.reportingTriggers (parsed ReportingTriggers.decode) fun urr value =>
      { urr with reportingTriggers := value },
    .of IeType.measurementPeriod takeU32 fun urr value =>
      { urr with measurementPeriod := some value },
    .of IeType.volumeThreshold (whole VolumeThreshold.decode) fun urr value =>
      { urr with volumeThreshold := some value },
    .of IeType.timeThreshold takeU32 fun urr value => { urr with timeThreshold := some value }]

def decode : Decoding CreateUrr :=
  decodeIes arms (new 0 MeasurementMethod.default ReportingTriggers.default)

end CreateUrr

structure CreateBar where
  barId : UInt8
  downlinkDataNotificationDelay : Option UInt8
  suggestedBufferingPacketsCount : Option UInt8

namespace CreateBar

def new (barId : UInt8) : CreateBar := ⟨barId, none, none⟩

def ies (bar : CreateBar) : List RawIe :=
  [encodeU8Ie IeType.barId bar.barId] ++
    (ifGiven IeType.downlinkDataNotificationDelay putU8 bar.downlinkDataNotificationDelay ++
      ifGiven IeType.suggestedBufferingPacketsCount putU8 bar.suggestedBufferingPacketsCount)

def encode (bar : CreateBar) : Bytes := encodeIes bar.ies

def arms : List (Arm PfcpError CreateBar) :=
  [.of IeType.barId takeU8 fun bar value => { bar with barId := value },
    .of IeType.downlinkDataNotificationDelay takeU8 fun bar value =>
      { bar with downlinkDataNotificationDelay := some value },
    .of IeType.suggestedBufferingPacketsCount takeU8 fun bar value =>
      { bar with suggestedBufferingPacketsCount := some value }]

def decode : Decoding CreateBar := decodeIes arms (new 0)

end CreateBar

structure UsageReportSrr where
  urrId : UInt32
  urSeqn : Option UInt32
  usageReportTrigger : Option UInt32
  volumeMeasurement : Option VolumeMeasurement
  durationMeasurement : Option UInt32
  startTime : Option UInt32
  endTime : Option UInt32

namespace UsageReportSrr

def new (urrId : UInt32) : UsageReportSrr := ⟨urrId, none, none, none, none, none, none⟩

def encodeTrigger (trigger : UInt32) : Bytes :=
  [(trigger >>> 16).toUInt8, (trigger >>> 8).toUInt8, trigger.toUInt8]

def ies (report : UsageReportSrr) : List RawIe :=
  [encodeU32Ie IeType.urrId report.urrId] ++ (ifGiven IeType.urSeqn putU32 report.urSeqn ++
      (ifGiven IeType.usageReportTrigger encodeTrigger report.usageReportTrigger ++
        (ifGiven IeType.volumeMeasurement VolumeMeasurement.encode report.volumeMeasurement ++
          (ifGiven IeType.durationMeasurement putU32 report.durationMeasurement ++
            (ifGiven IeType.startTime putU32 report.startTime ++
              ifGiven IeType.endTime putU32 report.endTime)))))

def encode (report : UsageReportSrr) : Bytes := encodeIes report.ies

def decodeTrigger : Parsing UInt32 := fun data =>
  match data with
  | [] => .error (.refused (.bufferTooShort 1 0))
  | [b0] => .ok b0.toUInt32
  | [b0, b1] => .ok (b0.toUInt32 <<< 8 ||| b1.toUInt32)
  | b0 :: b1 :: b2 :: _ => .ok (b0.toUInt32 <<< 16 ||| b1.toUInt32 <<< 8 ||| b2.toUInt32)

def arms : List (Arm PfcpError UsageReportSrr) :=
  [.of IeType.urrId takeU32 fun report value => { report with urrId := value },
    .of IeType.urSeqn takeU32 fun report value => { report with urSeqn := some value },
    .of IeType.usageReportTrigger (parsed decodeTrigger) fun report value =>
      { report with usageReportTrigger := some value },
    .of IeType.volumeMeasurement (whole VolumeMeasurement.decode) fun report value =>
      { report with volumeMeasurement := some value },
    .of IeType.durationMeasurement takeU32 fun report value =>
      { report with durationMeasurement := some value },
    .of IeType.startTime takeU32 fun report value => { report with startTime := some value },
    .of IeType.endTime takeU32 fun report value => { report with endTime := some value }]

def decode : Decoding UsageReportSrr := decodeIes arms (new 0)

end UsageReportSrr

structure DownlinkDataReport where
  pdrId : UInt16

namespace DownlinkDataReport

def ies (report : DownlinkDataReport) : List RawIe := [encodeU16Ie IeType.pdrId report.pdrId]

def encode (report : DownlinkDataReport) : Bytes := encodeIes report.ies

def arms : List (Arm PfcpError DownlinkDataReport) :=
  [.of IeType.pdrId takeU16 fun report value => { report with pdrId := value }]

def decode : Decoding DownlinkDataReport := decodeIes arms ⟨0⟩

end DownlinkDataReport

end NextGCore.Pfcp
