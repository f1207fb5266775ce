import NextGCore.Pfcp.Groups
import NextGCore.Pfcp.NodeTypes

/-!
# Node messages

Messages without a session: heartbeats, associations, packet flow descriptions, reports of the
node, and the deletion and modification of sets of sessions.
-/

namespace NextGCore.Pfcp

open Library

structure HeartbeatRequest where
  recoveryTimeStamp : UInt32
  loadControlInformation : Option LoadControlInformation

namespace HeartbeatRequest

def new (recoveryTimeStamp : UInt32) : HeartbeatRequest := ⟨recoveryTimeStamp, none⟩

def ies (message : HeartbeatRequest) : List RawIe :=
  [encodeU32Ie IeType.recoveryTimeStamp message.recoveryTimeStamp] ++
    ifGiven IeType.loadControlInformation LoadControlInformation.encode
      message.loadControlInformation

def encode (message : HeartbeatRequest) : Bytes := encodeIes message.ies

def arms : List (Arm PfcpError HeartbeatRequest) :=
  [.of IeType.recoveryTimeStamp takeU32 fun message value =>
      { message with recoveryTimeStamp := value },
    .of IeType.loadControlInformation (whole LoadControlInformation.decode) fun message value =>
      { message with loadControlInformation := some value }]

def decode : Decoding HeartbeatRequest := decodeIes arms (new 0)

end HeartbeatRequest

structure HeartbeatResponse where
  recoveryTimeStamp : UInt32

namespace HeartbeatResponse

def ies (message : HeartbeatResponse) : List RawIe :=
  [encodeU32Ie IeType.recoveryTimeStamp message.recoveryTimeStamp]

def encode (message : HeartbeatResponse) : Bytes := encodeIes message.ies

def arms : List (Arm PfcpError HeartbeatResponse) :=
  [.of IeType.recoveryTimeStamp takeU32 fun message value =>
    { message with recoveryTimeStamp := value }]

def decode : Decoding HeartbeatResponse := decodeIes arms ⟨0⟩

end HeartbeatResponse

structure AssociationSetupRequest where
  nodeId : NodeId
  recoveryTimeStamp : UInt32
  upFunctionFeatures : Option UpFunctionFeatures
  cpFunctionFeatures : Option CpFunctionFeatures

namespace AssociationSetupRequest

structure Fields where
  nodeId : Option NodeId
  recoveryTimeStamp : UInt32
  upFunctionFeatures : Option UpFunctionFeatures
  cpFunctionFeatures : Option CpFunctionFeatures

def ies (message : AssociationSetupRequest) : List RawIe :=
  [encodeBytesIe IeType.nodeId message.nodeId.encode] ++
    ([encodeU32Ie IeType.recoveryTimeStamp message.recoveryTimeStamp] ++
      (ifGiven IeType.upFunctionFeatures UpFunctionFeatures.encode message.upFunctionFeatures ++
        ifGiven IeType.cpFunctionFeatures CpFunctionFeatures.encode message.cpFunctionFeatures))

def encode (message : AssociationSetupRequest) : Bytes := encodeIes message.ies

def arms : List (Arm PfcpError Fields) :=
  [.of IeType.nodeId (whole NodeId.decode) fun fields value =>
      { fields with nodeId := some value },
    .of IeType.recoveryTimeStamp takeU32 fun fields value =>
      { fields with recoveryTimeStamp := value },
    .of IeType.upFunctionFeatures (whole UpFunctionFeatures.decode) fun fields value =>
      { fields with upFunctionFeatures := some value },
    .of IeType.cpFunctionFeatures (parsed CpFunctionFeatures.decode) fun fields value =>
      { fields with cpFunctionFeatures := some value }]

def decode : Decoding AssociationSetupRequest := do
  let fields ← decodeIes arms ⟨none, 0, none, none⟩
  let nodeId ← mandatory "Node ID" fields.nodeId
  pure ⟨nodeId, fields.recoveryTimeStamp, fields.upFunctionFeatures, fields.cpFunctionFeatures⟩

end AssociationSetupRequest

structure AssociationSetupResponse where
  nodeId : NodeId
  cause : PfcpCause
  recoveryTimeStamp : UInt32
  upFunctionFeatures : Option UpFunctionFeatures
  cpFunctionFeatures : Option CpFunctionFeatures

namespace AssociationSetupResponse

structure Fields where
  nodeId : Option NodeId
  cause : Option PfcpCause
  recoveryTimeStamp : UInt32
  upFunctionFeatures : Option UpFunctionFeatures
  cpFunctionFeatures : Option CpFunctionFeatures

def ies (message : AssociationSetupResponse) : List RawIe :=
  [encodeBytesIe IeType.nodeId message.nodeId.encode] ++
    ([encodeU8Ie IeType.cause message.cause.toU8] ++
      ([encodeU32Ie IeType.recoveryTimeStamp message.recoveryTimeStamp] ++
        (ifGiven IeType.upFunctionFeatures UpFunctionFeatures.encode message.upFunctionFeatures ++
          ifGiven IeType.cpFunctionFeatures CpFunctionFeatures.encode message.cpFunctionFeatures)))

def encode (message : AssociationSetupResponse) : Bytes := encodeIes message.ies

def arms : List (Arm PfcpError Fields) :=
  [.of IeType.nodeId (whole NodeId.decode) fun fields value =>
      { fields with nodeId := some value },
    .of IeType.cause takeCause fun fields value => { fields with cause := some value },
    .of IeType.recoveryTimeStamp takeU32 fun fields value =>
      { fields with recoveryTimeStamp := value },
    .of IeType.upFunctionFeatures (whole UpFunctionFeatures.decode) fun fields value =>
      { fields with upFunctionFeatures := some value },
    .of IeType.cpFunctionFeatures (parsed CpFunctionFeatures.decode) fun fields value =>
      { fields with cpFunctionFeatures := some value }]

def decode : Decoding AssociationSetupResponse := do
  let fields ← decodeIes arms ⟨none, none, 0, none, none⟩
  let nodeId ← mandatory "Node ID" fields.nodeId
  let cause ← mandatory "Cause" fields.cause
  pure ⟨nodeId, cause, fields.recoveryTimeStamp, fields.upFunctionFeatures,
    fields.cpFunctionFeatures⟩

end AssociationSetupResponse

structure AssociationReleaseRequest where
  nodeId : NodeId

namespace AssociationReleaseRequest

def ies (message : AssociationReleaseRequest) : List RawIe :=
  [encodeBytesIe IeType.nodeId message.nodeId.encode]

def encode (message : AssociationReleaseRequest) : Bytes := encodeIes message.ies

def arms : List (Arm PfcpError (Option NodeId)) :=
  [.of IeType.nodeId (whole NodeId.decode) fun _ value => some value]

def decode : Decoding AssociationReleaseRequest := do
  let field ← decodeIes arms none
  let nodeId ← mandatory "Node ID" field
  pure ⟨nodeId⟩

end AssociationReleaseRequest

structure AssociationReleaseResponse where
  nodeId : NodeId
  cause : PfcpCause

namespace AssociationReleaseResponse

structure Fields where
  nodeId : Option NodeId
  cause : Option PfcpCause

def ies (message : AssociationReleaseResponse) : List RawIe :=
  [encodeBytesIe IeType.nodeId message.nodeId.encode] ++
    [encodeU8Ie IeType.cause message.cause.toU8]

def encode (message : AssociationReleaseResponse) : Bytes := encodeIes message.ies

def arms : List (Arm PfcpError Fields) :=
  [.of IeType.nodeId (whole NodeId.decode) fun fields value =>
      { fields with nodeId := some value },
    .of IeType.cause takeCause fun fields value => { fields with cause := some value }]

def decode : Decoding AssociationReleaseResponse := do
  let fields ← decodeIes arms ⟨none, none⟩
  let nodeId ← mandatory "Node ID" fields.nodeId
  let cause ← mandatory "Cause" fields.cause
  pure ⟨nodeId, cause⟩

end AssociationReleaseResponse

structure AssociationUpdateRequest where
  nodeId : NodeId
  upFunctionFeatures : Option UpFunctionFeatures
  cpFunctionFeatures : Option CpFunctionFeatures
  pfcpAssociationReleaseRequest : Option PfcpAssociationReleaseRequest
  gracefulReleasePeriod : Option GracefulReleasePeriod

namespace AssociationUpdateRequest

structure Fields where
  nodeId : Option NodeId
  upFunctionFeatures : Option UpFunctionFeatures
  cpFunctionFeatures : Option CpFunctionFeatures
  pfcpAssociationReleaseRequest : Option PfcpAssociationReleaseRequest
  gracefulReleasePeriod : Option GracefulReleasePeriod

def ies (message : AssociationUpdateRequest) : List RawIe :=
  [encodeBytesIe IeType.nodeId message.nodeId.encode] ++
    (ifGiven IeType.upFunctionFeatures UpFunctionFeatures.encode message.upFunctionFeatures ++
      (ifGiven IeType.cpFunctionFeatures CpFunctionFeatures.encode message.cpFunctionFeatures ++
        (ifGiven IeType.pfcpAssociationReleaseRequest PfcpAssociationReleaseRequest.encode
            message.pfcpAssociationReleaseRequest ++
          ifGiven IeType.gracefulReleasePeriod GracefulReleasePeriod.encode
            message.gracefulReleasePeriod)))

def encode (message : AssociationUpdateRequest) : Bytes := encodeIes message.ies

def arms : List (Arm PfcpError Fields) :=
  [.of IeType.nodeId (whole NodeId.decode) fun fields value =>
      { fields with nodeId := some value },
    .of IeType.upFunctionFeatures (whole UpFunctionFeatures.decode) fun fields value =>
      { fields with upFunctionFeatures := some value },
    .of IeType.cpFunctionFeatures (parsed CpFunctionFeatures.decode) fun fields value =>
      { fields with cpFunctionFeatures := some value },
    .of IeType.pfcpAssociationReleaseRequest (parsed PfcpAssociationReleaseRequest.decode)
      fun fields value => { fields with pfcpAssociationReleaseRequest := some value },
    .of IeType.gracefulReleasePeriod (parsed GracefulReleasePeriod.decode) fun fields value =>
      { fields with gracefulReleasePeriod := some value }]

def decode : Decoding AssociationUpdateRequest := do
  let fields ← decodeIes arms ⟨none, none, none, none, none⟩
  let nodeId ← mandatory "Node ID" fields.nodeId
  pure ⟨nodeId, fields.upFunctionFeatures, fields.cpFunctionFeatures,
    fields.pfcpAssociationReleaseRequest, fields.gracefulReleasePeriod⟩

end AssociationUpdateRequest

structure AssociationUpdateResponse where
  nodeId : NodeId
  cause : PfcpCause
  upFunctionFeatures : Option UpFunctionFeatures
  cpFunctionFeatures : Option CpFunctionFeatures

namespace AssociationUpdateResponse

structure Fields where
  nodeId : Option NodeId
  cause : Option PfcpCause
  upFunctionFeatures : Option UpFunctionFeatures
  cpFunctionFeatures : Option CpFunctionFeatures

def ies (message : AssociationUpdateResponse) : List RawIe :=
  [encodeBytesIe IeType.nodeId message.nodeId.encode] ++
    ([encodeU8Ie IeType.cause message.cause.toU8] ++
      (ifGiven IeType.upFunctionFeatures UpFunctionFeatures.encode message.upFunctionFeatures ++
        ifGiven IeType.cpFunctionFeatures CpFunctionFeatures.encode message.cpFunctionFeatures))

def encode (message : AssociationUpdateResponse) : Bytes := encodeIes message.ies

def arms : List (Arm PfcpError Fields) :=
  [.of IeType.nodeId (whole NodeId.decode) fun fields value =>
      { fields with nodeId := some value },
    .of IeType.cause takeCause fun fields value => { fields with cause := some value },
    .of IeType.upFunctionFeatures (whole UpFunctionFeatures.decode) fun fields value =>
      { fields with upFunctionFeatures := some value },
    .of IeType.cpFunctionFeatures (parsed CpFunctionFeatures.decode) fun fields value =>
      { fields with cpFunctionFeatures := some value }]

def decode : Decoding AssociationUpdateResponse := do
  let fields ← decodeIes arms ⟨none, none, none, none⟩
  let nodeId ← mandatory "Node ID" fields.nodeId
  let cause ← mandatory "Cause" fields.cause
  pure ⟨nodeId, cause, fields.upFunctionFeatures, fields.cpFunctionFeatures⟩

end AssociationUpdateResponse

structure NodeReportRequest where
  nodeId : NodeId
  nodeReportType : NodeReportType
  userPlanePathFailureReport : Option UserPlanePathFailureReport

namespace NodeReportRequest

structure Fields where
  nodeId : Option NodeId
  nodeReportType : Option NodeReportType
  userPlanePathFailureReport : Option UserPlanePathFailureReport

def ies (message : NodeReportRequest) : List RawIe :=
  [encodeBytesIe IeType.nodeId message.nodeId.encode] ++
    ([encodeBytesIe IeType.nodeReportType message.nodeReportType.encode] ++
      ifGiven IeType.userPlanePathFailureReport UserPlanePathFailureReport.encode
        message.userPlanePathFailureReport)

def encode (message : NodeReportRequest) : Bytes := encodeIes message.ies

def arms : List (Arm PfcpError Fields) :=
  [.of IeType.nodeId (whole NodeId.decode) fun fields value =>
      { fields with nodeId := some value },
    .of IeType.nodeReportType (parsed NodeReportType.decode) fun fields value =>
      { fields with nodeReportType := some value },
    .of IeType.userPlanePathFailureReport (whole UserPlanePathFailureReport.decode)
      fun fields value => { fields with userPlanePathFailureReport := some value }]

def decode : Decoding NodeReportRequest := do
  let fields ← decodeIes arms ⟨none, none, none⟩
  let nodeId ← mandatory "Node ID" fields.nodeId
  let nodeReportType ← mandatory "Node Report Type" fields.nodeReportType
  pure ⟨nodeId, nodeReportType, fields.userPlanePathFailureReport⟩

end NodeReportRequest

structure NodeAnswer where
  nodeId : NodeId
  cause : PfcpCause
  offendingIe : Option UInt16

namespace NodeAnswer

structure Fields where
  nodeId : Option NodeId
  cause : Option PfcpCause
  offendingIe : Option UInt16

def ies (message : NodeAnswer) : List RawIe :=
  [encodeBytesIe IeType.nodeId message.nodeId.encode] ++
    ([encodeU8Ie IeType.cause message.cause.toU8] ++
      ifGiven IeType.offendingIe putU16 message.offendingIe)

def encode (message : NodeAnswer) : Bytes := encodeIes message.ies

def arms : List (Arm PfcpError Fields) :=
  [.of IeType.nodeId (whole NodeId.decode) fun fields value =>
      { fields with nodeId := some value },
    .of IeType.cause takeCause fun fields value => { fields with cause := some value },
    .of IeType.offendingIe takeU16 fun fields value => { fields with offendingIe := some value }]

def decode : Decoding NodeAnswer := do
  let fields ← decodeIes arms ⟨none, none, none⟩
  let nodeId ← mandatory "Node ID" fields.nodeId
  let cause ← mandatory "Cause" fields.cause
  pure ⟨nodeId, cause, fields.offendingIe⟩

end NodeAnswer

abbrev NodeReportResponse := NodeAnswer

abbrev SessionSetDeletionResponse := NodeAnswer

abbrev SessionSetModificationResponse := NodeAnswer

structure PfdManagementRequest where
  applicationIdsPfds : List ApplicationIdsPfds
  nodeId : Option NodeId

namespace PfdManagementRequest

def ies (message : PfdManagementRequest) : List RawIe :=
  each IeType.applicationIdsPfds ApplicationIdsPfds.encode message.applicationIdsPfds ++
    ifGiven IeType.nodeId NodeId.encode message.nodeId

def encode (message : PfdManagementRequest) : Bytes := encodeIes message.ies

def arms : List (Arm PfcpError PfdManagementRequest) :=
  [.of IeType.applicationIdsPfds (whole ApplicationIdsPfds.decode) fun message value =>
      { message with applicationIdsPfds := message.applicationIdsPfds ++ [value] },
    .of IeType.nodeId (whole NodeId.decode) fun message value =>
      { message with nodeId := some value }]

def decode : Decoding PfdManagementRequest := decodeIes arms ⟨[], none⟩

end PfdManagementRequest

structure PfdManagementResponse where
  cause : PfcpCause
  offendingIe : Option UInt16
  nodeId : Option NodeId
  pfdPartialFailureInformation : List PfdPartialFailureInformation

namespace PfdManagementResponse

structure Fields where
  cause : Option PfcpCause
  offendingIe : Option UInt16
  nodeId : Option NodeId
  pfdPartialFailureInformation : List PfdPartialFailureInformation

def ies (message : PfdManagementResponse) : List RawIe :=
  [encodeU8Ie IeType.cause message.cause.toU8] ++
    (ifGiven IeType.offendingIe putU16 message.offendingIe ++
      (ifGiven IeType.nodeId NodeId.encode message.nodeId ++
        each IeType.pfdPartialFailureInformation PfdPartialFailureInformation.encode
          message.pfdPartialFailureInformation))

def encode (message : PfdManagementResponse) : Bytes := encodeIes message.ies

def arms : List (Arm PfcpError Fields) :=
  [.of IeType.cause takeCause fun fields value => { fields with cause := some value },
    .of IeType.offendingIe takeU16 fun fields value => { fields with offendingIe := some value },
    .of IeType.nodeId (whole NodeId.decode) fun fields value =>
      { fields with nodeId := some value },
    .of IeType.pfdPartialFailureInformation (whole PfdPartialFailureInformation.decode)
      fun fields value =>
        { fields with
          pfdPartialFailureInformation := fields.pfdPartialFailureInformation ++ [value] }]

def decode : Decoding PfdManagementResponse := do
  let fields ← decodeIes arms ⟨none, none, none, []⟩
  let cause ← mandatory "Cause" fields.cause
  pure ⟨cause, fields.offendingIe, fields.nodeId, fields.pfdPartialFailureInformation⟩

end PfdManagementResponse

structure SessionSetDeletionRequest where
  nodeId : NodeId
  fqCsids : List FqCsid

namespace SessionSetDeletionRequest

structure Fields where
  nodeId : Option NodeId
  fqCsids : List FqCsid

def ies (message : SessionSetDeletionRequest) : List RawIe :=
  [encodeBytesIe IeType.nodeId message.nodeId.encode] ++
    each IeType.fqCsid FqCsid.encode message.fqCsids

def encode (message : SessionSetDeletionRequest) : Bytes := encodeIes message.ies

def arms : List (Arm PfcpError Fields) :=
  [.of IeType.nodeId (whole NodeId.decode) fun fields value =>
      { fields with nodeId := some value },
    .of IeType.fqCsid (whole FqCsid.decode) fun fields value =>
      { fields with fqCsids := fields.fqCsids ++ [value] }]

def decode : Decoding SessionSetDeletionRequest := do
  let fields ← decodeIes arms ⟨none, []⟩
  let nodeId ← mandatory "Node ID" fields.nodeId
  pure ⟨nodeId, fields.fqCsids⟩

end SessionSetDeletionRequest

structure SessionSetModificationRequest where
  nodeId : NodeId
  pfcpSessionChangeInfo : List PfcpSessionChangeInfo

namespace SessionSetModificationRequest

structure Fields where
  nodeId : Option NodeId
  pfcpSessionChangeInfo : List PfcpSessionChangeInfo

def ies (message : SessionSetModificationRequest) : List RawIe :=
  [encodeBytesIe IeType.nodeId message.nodeId.encode] ++
    each IeType.pfcpSessionChangeInfo PfcpSessionChangeInfo.encode message.pfcpSessionChangeInfo

def encode (message : SessionSetModificationRequest) : Bytes := encodeIes message.ies

def arms : List (Arm PfcpError Fields) :=
  [.of IeType.nodeId (whole NodeId.decode) fun fields value =>
      { fields with nodeId := some value },
    .of IeType.pfcpSessionChangeInfo (whole PfcpSessionChangeInfo.decode) fun fields value =>
      { fields with pfcpSessionChangeInfo := fields.pfcpSessionChangeInfo ++ [value] }]

def decode : Decoding SessionSetModificationRequest := do
  let fields ← decodeIes arms ⟨none, []⟩
  let nodeId ← mandatory "Node ID" fields.nodeId
  pure ⟨nodeId, fields.pfcpSessionChangeInfo⟩

end SessionSetModificationRequest

end NextGCore.Pfcp
