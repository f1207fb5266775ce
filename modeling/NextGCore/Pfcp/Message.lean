import NextGCore.Pfcp.NodeMessages
import NextGCore.Pfcp.SessionMessages

/-!
# PFCP headers and messages
-/

namespace NextGCore.Pfcp

open Library

def PFCP_VERSION : UInt8 := 1

inductive PfcpMessageType where
  | heartbeatRequest
  | heartbeatResponse
  | pfdManagementRequest
  | pfdManagementResponse
  | associationSetupRequest
  | associationSetupResponse
  | associationUpdateRequest
  | associationUpdateResponse
  | associationReleaseRequest
  | associationReleaseResponse
  | versionNotSupportedResponse
  | nodeReportRequest
  | nodeReportResponse
  | sessionSetDeletionRequest
  | sessionSetDeletionResponse
  | sessionSetModificationRequest
  | sessionSetModificationResponse
  | sessionEstablishmentRequest
  | sessionEstablishmentResponse
  | sessionModificationRequest
  | sessionModificationResponse
  | sessionDeletionRequest
  | sessionDeletionResponse
  | sessionReportRequest
  | sessionReportResponse
  deriving DecidableEq

namespace PfcpMessageType

def toU8 : PfcpMessageType → UInt8
  | heartbeatRequest => 1
  | heartbeatResponse => 2
  | pfdManagementRequest => 3
  | pfdManagementResponse => 4
  | associationSetupRequest => 5
  | associationSetupResponse => 6
  | associationUpdateRequest => 7
  | associationUpdateResponse => 8
  | associationReleaseRequest => 9
  | associationReleaseResponse => 10
  | versionNotSupportedResponse => 11
  | nodeReportRequest => 12
  | nodeReportResponse => 13
  | sessionSetDeletionRequest => 14
  | sessionSetDeletionResponse => 15
  | sessionSetModificationRequest => 16
  | sessionSetModificationResponse => 17
  | sessionEstablishmentRequest => 50
  | sessionEstablishmentResponse => 51
  | sessionModificationRequest => 52
  | sessionModificationResponse => 53
  | sessionDeletionRequest => 54
  | sessionDeletionResponse => 55
  | sessionReportRequest => 56
  | sessionReportResponse => 57

def tryFrom (value : UInt8) : Except (Fault PfcpError) PfcpMessageType :=
  match value.toNat with
  | 1 => .ok heartbeatRequest
  | 2 => .ok heartbeatResponse
  | 3 => .ok pfdManagementRequest
  | 4 => .ok pfdManagementResponse
  | 5 => .ok associationSetupRequest
  | 6 => .ok associationSetupResponse
  | 7 => .ok associationUpdateRequest
  | 8 => .ok associationUpdateResponse
  | 9 => .ok associationReleaseRequest
  | 10 => .ok associationReleaseResponse
  | 11 => .ok versionNotSupportedResponse
  | 12 => .ok nodeReportRequest
  | 13 => .ok nodeReportResponse
  | 14 => .ok sessionSetDeletionRequest
  | 15 => .ok sessionSetDeletionResponse
  | 16 => .ok sessionSetModificationRequest
  | 17 => .ok sessionSetModificationResponse
  | 50 => .ok sessionEstablishmentRequest
  | 51 => .ok sessionEstablishmentResponse
  | 52 => .ok sessionModificationRequest
  | 53 => .ok sessionModificationResponse
  | 54 => .ok sessionDeletionRequest
  | 55 => .ok sessionDeletionResponse
  | 56 => .ok sessionReportRequest
  | 57 => .ok sessionReportResponse
  | _ => .error (.refused (.invalidMessageType value))

lemma tryFrom_toU8 (messageType : PfcpMessageType) :
  tryFrom messageType.toU8 = .ok messageType := by
  cases messageType <;> rfl

end PfcpMessageType

structure PfcpHeader where
  version : UInt8
  seidPresence : Bool
  messagePriority : Bool
  followOn : Bool
  messageType : PfcpMessageType
  length : UInt16
  seid : Option UInt64
  sequenceNumber : UInt32
  priority : Option UInt8

namespace PfcpHeader

def new (messageType : PfcpMessageType) (sequenceNumber : UInt32) : PfcpHeader :=
  ⟨PFCP_VERSION, false, false, false, messageType, 0, none, sequenceNumber, none⟩

def newWithSeid (messageType : PfcpMessageType) (seid : UInt64) (sequenceNumber : UInt32) :
  PfcpHeader :=
  ⟨PFCP_VERSION, true, false, false, messageType, 0, some seid, sequenceNumber, none⟩

def putSequence (sequenceNumber : UInt32) : Bytes := beOctets 3 sequenceNumber.toNat

def encode (header : PfcpHeader) : Bytes :=
  let version := header.version &&& 0x07
  putU8 (version <<< (5 : UInt8) |||
      flagsOctet [header.seidPresence, header.messagePriority, header.followOn]) ++
    (putU8 header.messageType.toU8 ++ (putU16 header.length ++ (putSome putU64 header.seid ++
          (putSequence header.sequenceNumber ++ putU8 (header.priority.getD 0 <<< 4)))))

def decode : Decoding PfcpHeader := do
  require 4 (PfcpError.bufferTooShort 4)
  let firstByte ← getU8
  let version := firstByte >>> 5 &&& 0x07
  let seidPresence := firstByte.toNat.testBit 0
  let messagePriority := firstByte.toNat.testBit 1
  let followOn := firstByte.toNat.testBit 2
  Reading.refuse (version ≠ PFCP_VERSION) (.refused (.versionNotSupported version))
  let octet ← getU8
  let messageType ← Reading.lift (PfcpMessageType.tryFrom octet)
  let length ← getU16
  let minRemaining := if seidPresence then 12 else 4
  require minRemaining (PfcpError.bufferTooShort minRemaining)
  let seid ← givenIf seidPresence getU64
  let sequenceNumber ← getUint 3
  let lastByte ← getU8
  pure {
    version
    seidPresence
    messagePriority
    followOn
    messageType
    length
    seid
    sequenceNumber := UInt32.ofNat sequenceNumber
    priority := if messagePriority then some (lastByte >>> 4 &&& 0x0F) else none }

end PfcpHeader

inductive PfcpMessage where
  | heartbeatRequest (message : HeartbeatRequest)
  | heartbeatResponse (message : HeartbeatResponse)
  | associationSetupRequest (message : AssociationSetupRequest)
  | associationSetupResponse (message : AssociationSetupResponse)
  | associationReleaseRequest (message : AssociationReleaseRequest)
  | associationReleaseResponse (message : AssociationReleaseResponse)
  | sessionEstablishmentRequest (message : SessionEstablishmentRequest)
  | sessionEstablishmentResponse (message : SessionEstablishmentResponse)
  | sessionModificationRequest (message : SessionModificationRequest)
  | sessionModificationResponse (message : SessionModificationResponse)
  | sessionDeletionRequest (message : SessionDeletionRequest)
  | sessionDeletionResponse (message : SessionDeletionResponse)
  | sessionReportRequest (message : SessionReportRequest)
  | sessionReportResponse (message : SessionReportResponse)
  | nodeReportRequest (message : NodeReportRequest)
  | nodeReportResponse (message : NodeReportResponse)
  | associationUpdateRequest (message : AssociationUpdateRequest)
  | associationUpdateResponse (message : AssociationUpdateResponse)
  | pfdManagementRequest (message : PfdManagementRequest)
  | pfdManagementResponse (message : PfdManagementResponse)
  | sessionSetDeletionRequest (message : SessionSetDeletionRequest)
  | sessionSetDeletionResponse (message : SessionSetDeletionResponse)
  | sessionSetModificationRequest (message : SessionSetModificationRequest)
  | sessionSetModificationResponse (message : SessionSetModificationResponse)

namespace PfcpMessage

def messageType : PfcpMessage → PfcpMessageType
  | heartbeatRequest _ => .heartbeatRequest
  | heartbeatResponse _ => .heartbeatResponse
  | associationSetupRequest _ => .associationSetupRequest
  | associationSetupResponse _ => .associationSetupResponse
  | associationReleaseRequest _ => .associationReleaseRequest
  | associationReleaseResponse _ => .associationReleaseResponse
  | sessionEstablishmentRequest _ => .sessionEstablishmentRequest
  | sessionEstablishmentResponse _ => .sessionEstablishmentResponse
  | sessionModificationRequest _ => .sessionModificationRequest
  | sessionModificationResponse _ => .sessionModificationResponse
  | sessionDeletionRequest _ => .sessionDeletionRequest
  | sessionDeletionResponse _ => .sessionDeletionResponse
  | sessionReportRequest _ => .sessionReportRequest
  | sessionReportResponse _ => .sessionReportResponse
  | nodeReportRequest _ => .nodeReportRequest
  | nodeReportResponse _ => .nodeReportResponse
  | associationUpdateRequest _ => .associationUpdateRequest
  | associationUpdateResponse _ => .associationUpdateResponse
  | pfdManagementRequest _ => .pfdManagementRequest
  | pfdManagementResponse _ => .pfdManagementResponse
  | sessionSetDeletionRequest _ => .sessionSetDeletionRequest
  | sessionSetDeletionResponse _ => .sessionSetDeletionResponse
  | sessionSetModificationRequest _ => .sessionSetModificationRequest
  | sessionSetModificationResponse _ => .sessionSetModificationResponse

def encodeBody : PfcpMessage → Bytes
  | heartbeatRequest message | heartbeatResponse message | associationSetupRequest message
  | associationSetupResponse message | associationReleaseRequest message
  | associationReleaseResponse message | sessionEstablishmentRequest message
  | sessionEstablishmentResponse message | sessionModificationRequest message
  | sessionModificationResponse message | sessionDeletionRequest message
  | sessionDeletionResponse message | sessionReportRequest message | sessionReportResponse message
  | nodeReportRequest message | nodeReportResponse message | associationUpdateRequest message
  | associationUpdateResponse message | pfdManagementRequest message
  | pfdManagementResponse message | sessionSetDeletionRequest message
  | sessionSetDeletionResponse message | sessionSetModificationRequest message
  | sessionSetModificationResponse message => message.encode

def decodeAs {Message : Type} (decode : Decoding Message) (make : Message → PfcpMessage) :
  Decoding PfcpMessage := do
  let message ← decode
  pure (make message)

def decodeBody : PfcpMessageType → Decoding PfcpMessage
  | .heartbeatRequest => decodeAs HeartbeatRequest.decode heartbeatRequest
  | .heartbeatResponse => decodeAs HeartbeatResponse.decode heartbeatResponse
  | .associationSetupRequest => decodeAs AssociationSetupRequest.decode associationSetupRequest
  | .associationSetupResponse =>
    decodeAs AssociationSetupResponse.decode associationSetupResponse
  | .associationReleaseRequest =>
    decodeAs AssociationReleaseRequest.decode associationReleaseRequest
  | .associationReleaseResponse =>
    decodeAs AssociationReleaseResponse.decode associationReleaseResponse
  | .sessionEstablishmentRequest =>
    decodeAs SessionEstablishmentRequest.decode sessionEstablishmentRequest
  | .sessionEstablishmentResponse =>
    decodeAs SessionEstablishmentResponse.decode sessionEstablishmentResponse
  | .sessionModificationRequest =>
    decodeAs SessionModificationRequest.decode sessionModificationRequest
  | .sessionModificationResponse =>
    decodeAs SessionModificationResponse.decode sessionModificationResponse
  | .sessionDeletionRequest => decodeAs SessionDeletionRequest.decode sessionDeletionRequest
  | .sessionDeletionResponse => decodeAs SessionDeletionResponse.decode sessionDeletionResponse
  | .sessionReportRequest => decodeAs SessionReportRequest.decode sessionReportRequest
  | .sessionReportResponse => decodeAs SessionReportResponse.decode sessionReportResponse
  | .nodeReportRequest => decodeAs NodeReportRequest.decode nodeReportRequest
  | .nodeReportResponse => decodeAs NodeAnswer.decode nodeReportResponse
  | .associationUpdateRequest => decodeAs AssociationUpdateRequest.decode associationUpdateRequest
  | .associationUpdateResponse =>
    decodeAs AssociationUpdateResponse.decode associationUpdateResponse
  | .pfdManagementRequest => decodeAs PfdManagementRequest.decode pfdManagementRequest
  | .pfdManagementResponse => decodeAs PfdManagementResponse.decode pfdManagementResponse
  | .sessionSetDeletionRequest =>
    decodeAs SessionSetDeletionRequest.decode sessionSetDeletionRequest
  | .sessionSetDeletionResponse => decodeAs NodeAnswer.decode sessionSetDeletionResponse
  | .sessionSetModificationRequest =>
    decodeAs SessionSetModificationRequest.decode sessionSetModificationRequest
  | .sessionSetModificationResponse => decodeAs NodeAnswer.decode sessionSetModificationResponse
  | .versionNotSupportedResponse =>
    fail (.invalidMessageType PfcpMessageType.versionNotSupportedResponse.toU8)

end PfcpMessage

def headerTail (seidPresence : Bool) : ℕ := if seidPresence then 12 else 4

def buildHeader (message : PfcpMessage) (sequenceNumber : UInt32) (seid : Option UInt64) :
  PfcpHeader :=
  let header : PfcpHeader :=
    match seid with
    | some seid => .newWithSeid message.messageType seid sequenceNumber
    | none => .new message.messageType sequenceNumber
  { header with
    length := UInt16.ofNat (message.encodeBody.length + headerTail header.seidPresence) }

def buildMessage (message : PfcpMessage) (sequenceNumber : UInt32) (seid : Option UInt64) :
  Bytes :=
  (buildHeader message sequenceNumber seid).encode ++ message.encodeBody

def bodyLength (header : PfcpHeader) : Except (Fault PfcpError) ℕ :=
  let tail := headerTail header.seidPresence
  if tail ≤ header.length.toNat then .ok (header.length.toNat - tail)
  else .error (.refused (.bufferTooShort tail header.length.toNat))

def parseMessage : Decoding (PfcpHeader × PfcpMessage) := do
  let header ← PfcpHeader.decode
  let bodyLen ← Reading.lift (bodyLength header)
  let body ← checked PfcpError.bufferTooShort bodyLen (copyToBytes bodyLen)
  let message ← readWhole (PfcpMessage.decodeBody header.messageType) body
  pure (header, message)

end NextGCore.Pfcp
