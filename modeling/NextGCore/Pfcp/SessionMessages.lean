import NextGCore.Pfcp.Groups

/-!
# Session messages

The establishment, modification, deletion and report of a session.
-/

namespace NextGCore.Pfcp

open Library IeType

structure SessionEstablishmentRequest where
  nodeId : NodeId
  cpFSeid : FSeid
  createPdrs : List CreatePdr
  createFars : List CreateFar
  createQers : List CreateQer
  createUrrs : List CreateUrr
  createBar : Option CreateBar

namespace SessionEstablishmentRequest

structure Fields where
  nodeId : Option NodeId
  cpFSeid : Option FSeid
  createPdrs : List CreatePdr
  createFars : List CreateFar
  createQers : List CreateQer
  createUrrs : List CreateUrr
  createBar : Option CreateBar

def ies (message : SessionEstablishmentRequest) : List RawIe :=
  [encodeBytesIe IeType.nodeId message.nodeId.encode] ++
    ([encodeBytesIe fSeid message.cpFSeid.encode] ++
      (each createPdr CreatePdr.encode message.createPdrs ++
        (each createFar CreateFar.encode message.createFars ++
          (each createQer CreateQer.encode message.createQers ++
            (each createUrr CreateUrr.encode message.createUrrs ++
              ifGiven IeType.createBar CreateBar.encode message.createBar)))))

def encode (message : SessionEstablishmentRequest) : Bytes := encodeIes message.ies

def arms : List (Arm PfcpError Fields) :=
  [.of IeType.nodeId (whole NodeId.decode) fun fields value =>
      { fields with nodeId := some value },
    .of fSeid (whole FSeid.decode) fun fields value =>
      { fields with cpFSeid := some value },
    .of createPdr (whole CreatePdr.decode) fun fields value =>
      { fields with createPdrs := fields.createPdrs ++ [value] },
    .of createFar (whole CreateFar.decode) fun fields value =>
      { fields with createFars := fields.createFars ++ [value] },
    .of createQer (whole CreateQer.decode) fun fields value =>
      { fields with createQers := fields.createQers ++ [value] },
    .of createUrr (whole CreateUrr.decode) fun fields value =>
      { fields with createUrrs := fields.createUrrs ++ [value] },
    .of IeType.createBar (whole CreateBar.decode) fun fields value =>
      { fields with createBar := some value }]

def decode : Decoding SessionEstablishmentRequest := do
  let fields ← decodeIes arms ⟨none, none, [], [], [], [], none⟩
  let nodeId ← mandatory "Node ID" fields.nodeId
  let cpFSeid ← mandatory "CP F-SEID" fields.cpFSeid
  pure ⟨nodeId, cpFSeid, fields.createPdrs, fields.createFars, fields.createQers,
    fields.createUrrs, fields.createBar⟩

end SessionEstablishmentRequest

structure SessionEstablishmentResponse where
  nodeId : Option NodeId
  cause : PfcpCause
  upFSeid : Option FSeid
  createdPdrs : List CreatedPdr

namespace SessionEstablishmentResponse

structure Fields where
  nodeId : Option NodeId
  cause : Option PfcpCause
  upFSeid : Option FSeid
  createdPdrs : List CreatedPdr

def new (cause : PfcpCause) : SessionEstablishmentResponse := ⟨none, cause, none, []⟩

def ies (message : SessionEstablishmentResponse) : List RawIe :=
  ifGiven IeType.nodeId NodeId.encode message.nodeId ++
    ([encodeU8Ie IeType.cause message.cause.toU8] ++
      (ifGiven fSeid FSeid.encode message.upFSeid ++
        each createdPdr CreatedPdr.encode message.createdPdrs))

def encode (message : SessionEstablishmentResponse) : Bytes := encodeIes message.ies

def arms : List (Arm PfcpError Fields) :=
  [.of IeType.nodeId (whole NodeId.decode) fun fields value =>
      { fields with nodeId := some value },
    .of IeType.cause takeCause fun fields value => { fields with cause := some value },
    .of fSeid (whole FSeid.decode) fun fields value =>
      { fields with upFSeid := some value },
    .of createdPdr (whole CreatedPdr.decode) fun fields value =>
      { fields with createdPdrs := fields.createdPdrs ++ [value] }]

def decode : Decoding SessionEstablishmentResponse := do
  let fields ← decodeIes arms ⟨none, none, none, []⟩
  let nodeId ← mandatory "Node ID" fields.nodeId
  let cause ← mandatory "Cause" fields.cause
  Reading.refuse (cause = .requestAccepted ∧ fields.upFSeid.isNone)
    (.refused (.missingMandatoryIe "UP F-SEID"))
  pure ⟨some nodeId, cause, fields.upFSeid, fields.createdPdrs⟩

end SessionEstablishmentResponse

structure SessionDeletionRequest where

namespace SessionDeletionRequest

def encode (_ : SessionDeletionRequest) : Bytes := []

def decode : Decoding SessionDeletionRequest := pure ⟨⟩

end SessionDeletionRequest

structure SessionDeletionResponse where
  cause : PfcpCause

namespace SessionDeletionResponse

def ies (message : SessionDeletionResponse) : List RawIe :=
  [encodeU8Ie IeType.cause message.cause.toU8]

def encode (message : SessionDeletionResponse) : Bytes := encodeIes message.ies

def arms : List (Arm PfcpError (Option PfcpCause)) :=
  [.of IeType.cause takeCause fun _ value => some value]

def decode : Decoding SessionDeletionResponse := do
  let field ← decodeIes arms none
  let cause ← mandatory "Cause" field
  pure ⟨cause⟩

end SessionDeletionResponse

structure SessionModificationRequest where
  cpFSeid : Option FSeid
  removePdrs : List RemovePdr
  removeFars : List RemoveFar
  createPdrs : List CreatePdr
  createFars : List CreateFar
  createQers : List CreateQer
  createUrrs : List CreateUrr
  createBar : Option CreateBar
  updatePdrs : List UpdatePdr
  updateFars : List UpdateFar
  pfcpSmreqFlags : Option UInt8

namespace SessionModificationRequest

def new : SessionModificationRequest := ⟨none, [], [], [], [], [], [], none, [], [], none⟩

def ies (message : SessionModificationRequest) : List RawIe :=
  ifGiven fSeid FSeid.encode message.cpFSeid ++
    (each removePdr RemovePdr.encode message.removePdrs ++
      (each removeFar RemoveFar.encode message.removeFars ++
        (each createPdr CreatePdr.encode message.createPdrs ++
          (each createFar CreateFar.encode message.createFars ++
            (each createQer CreateQer.encode message.createQers ++
              (each createUrr CreateUrr.encode message.createUrrs ++
                (ifGiven IeType.createBar CreateBar.encode message.createBar ++
                  (each updatePdr UpdatePdr.encode message.updatePdrs ++
                    (each updateFar UpdateFar.encode message.updateFars ++
                      ifGiven IeType.pfcpSmreqFlags putU8 message.pfcpSmreqFlags)))))))))

def encode (message : SessionModificationRequest) : Bytes := encodeIes message.ies

def arms : List (Arm PfcpError SessionModificationRequest) :=
  [.of fSeid (whole FSeid.decode) fun result value =>
      { result with cpFSeid := some value },
    .of removePdr (whole RemovePdr.decode) fun result value =>
      { result with removePdrs := result.removePdrs ++ [value] },
    .of removeFar (whole RemoveFar.decode) fun result value =>
      { result with removeFars := result.removeFars ++ [value] },
    .of createPdr (whole CreatePdr.decode) fun result value =>
      { result with createPdrs := result.createPdrs ++ [value] },
    .of createFar (whole CreateFar.decode) fun result value =>
      { result with createFars := result.createFars ++ [value] },
    .of createQer (whole CreateQer.decode) fun result value =>
      { result with createQers := result.createQers ++ [value] },
    .of createUrr (whole CreateUrr.decode) fun result value =>
      { result with createUrrs := result.createUrrs ++ [value] },
    .of IeType.createBar (whole CreateBar.decode) fun result value =>
      { result with createBar := some value },
    .of updatePdr (whole UpdatePdr.decode) fun result value =>
      { result with updatePdrs := result.updatePdrs ++ [value] },
    .of updateFar (whole UpdateFar.decode) fun result value =>
      { result with updateFars := result.updateFars ++ [value] },
    .of IeType.pfcpSmreqFlags takeU8 fun result value =>
      { result with pfcpSmreqFlags := some value }]

def decode : Decoding SessionModificationRequest := decodeIes arms new

end SessionModificationRequest

structure SessionModificationResponse where
  cause : PfcpCause
  offendingIe : Option UInt16
  createdPdrs : List CreatedPdr

namespace SessionModificationResponse

structure Fields where
  cause : Option PfcpCause
  offendingIe : Option UInt16
  createdPdrs : List CreatedPdr

def ies (message : SessionModificationResponse) : List RawIe :=
  [encodeU8Ie IeType.cause message.cause.toU8] ++
    (ifGiven IeType.offendingIe putU16 message.offendingIe ++
      each createdPdr CreatedPdr.encode message.createdPdrs)

def encode (message : SessionModificationResponse) : Bytes := encodeIes message.ies

def arms : List (Arm PfcpError Fields) :=
  [.of IeType.cause takeCause fun fields value => { fields with cause := some value },
    .of IeType.offendingIe takeU16 fun fields value => { fields with offendingIe := some value },
    .of createdPdr (whole CreatedPdr.decode) fun fields value =>
      { fields with createdPdrs := fields.createdPdrs ++ [value] }]

def decode : Decoding SessionModificationResponse := do
  let fields ← decodeIes arms ⟨none, none, []⟩
  let cause ← mandatory "Cause" fields.cause
  pure ⟨cause, fields.offendingIe, fields.createdPdrs⟩

end SessionModificationResponse

structure SessionReportRequest where
  reportType : ReportType
  downlinkDataReport : Option DownlinkDataReport
  usageReports : List UsageReportSrr

namespace SessionReportRequest

def new (reportType : ReportType) : SessionReportRequest := ⟨reportType, none, []⟩

def ies (message : SessionReportRequest) : List RawIe :=
  [encodeU8Ie IeType.reportType message.reportType.encode] ++
    (ifGiven IeType.downlinkDataReport DownlinkDataReport.encode message.downlinkDataReport ++
      each usageReportSrr UsageReportSrr.encode message.usageReports)

def encode (message : SessionReportRequest) : Bytes := encodeIes message.ies

def arms : List (Arm PfcpError SessionReportRequest) :=
  [.of IeType.reportType (firstOctet fun octet => .ok (ReportType.decode octet))
      fun message value => { message with reportType := value },
    .of IeType.downlinkDataReport (whole DownlinkDataReport.decode) fun message value =>
      { message with downlinkDataReport := some value },
    .of usageReportSrr (whole UsageReportSrr.decode) fun message value =>
      { message with usageReports := message.usageReports ++ [value] }]

def decode : Decoding SessionReportRequest := decodeIes arms (new ReportType.default)

end SessionReportRequest

structure SessionReportResponse where
  cause : PfcpCause
  offendingIe : Option UInt16
  pfcpSrrspFlags : Option UInt8

namespace SessionReportResponse

structure Fields where
  cause : Option PfcpCause
  offendingIe : Option UInt16
  pfcpSrrspFlags : Option UInt8

def ies (message : SessionReportResponse) : List RawIe :=
  [encodeU8Ie IeType.cause message.cause.toU8] ++
    (ifGiven IeType.offendingIe putU16 message.offendingIe ++
      ifGiven IeType.pfcpSrrspFlags putU8 message.pfcpSrrspFlags)

def encode (message : SessionReportResponse) : Bytes := encodeIes message.ies

def arms : List (Arm PfcpError Fields) :=
  [.of IeType.cause takeCause fun fields value => { fields with cause := some value },
    .of IeType.offendingIe takeU16 fun fields value => { fields with offendingIe := some value },
    .of IeType.pfcpSrrspFlags takeU8 fun fields value =>
      { fields with pfcpSrrspFlags := some value }]

def decode : Decoding SessionReportResponse := do
  let fields ← decodeIes arms ⟨none, none, none⟩
  let cause ← mandatory "Cause" fields.cause
  pure ⟨cause, fields.offendingIe, fields.pfcpSrrspFlags⟩

end SessionReportResponse

end NextGCore.Pfcp
