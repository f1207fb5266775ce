import NextGCore.Pfcp.Types

/-!
# Elements of node messages

Reports on paths, the release of associations, packet flow descriptions, and the identifiers by
which sets of sessions are deleted or moved.
-/

namespace NextGCore.Pfcp

open Library Vector PfcpError IeType

structure NodeReportType where
  upfr : Bool
  uprr : Bool
  ckdr : Bool
  gpqr : Bool

namespace NodeReportType

def encode (report : NodeReportType) : Bytes :=
  putU8 (flagsOctet [report.upfr, report.uprr, report.ckdr, report.gpqr])

def decode : Parsing NodeReportType := fun data => do
  let octet ← firstOf data
  pure ⟨octet.toNat.testBit 0, octet.toNat.testBit 1, octet.toNat.testBit 2, octet.toNat.testBit 3⟩

end NodeReportType

structure RemoteGtpUPeer where
  ipv4 : Option Ipv4
  ipv6 : Option Ipv6

namespace RemoteGtpUPeer

def encode (peer : RemoteGtpUPeer) : Bytes :=
  putU8 (flagsOctet [peer.ipv4.isSome, peer.ipv6.isSome]) ++
    (putSome toList peer.ipv4 ++ putSome toList peer.ipv6)

def decode : Decoding RemoteGtpUPeer := do
  let flags ← checked bufferTooShort 1 getU8
  let ipv4 ← givenIf (flags.toNat.testBit 0) (address 4)
  let ipv6 ← givenIf (flags.toNat.testBit 1) (address 16)
  pure ⟨ipv4, ipv6⟩

end RemoteGtpUPeer

structure UserPlanePathFailureReport where
  remoteGtpuPeers : List RemoteGtpUPeer

namespace UserPlanePathFailureReport

def ies (report : UserPlanePathFailureReport) : List RawIe :=
  each remoteGtpUPeer RemoteGtpUPeer.encode report.remoteGtpuPeers

def encode (report : UserPlanePathFailureReport) : Bytes := encodeIes report.ies

def arms : List (Arm PfcpError UserPlanePathFailureReport) :=
  [.of remoteGtpUPeer (whole RemoteGtpUPeer.decode) fun report value =>
    { report with remoteGtpuPeers := report.remoteGtpuPeers ++ [value] }]

def decode : Decoding UserPlanePathFailureReport := decodeIes arms ⟨[]⟩

end UserPlanePathFailureReport

structure PfcpAssociationReleaseRequest where
  sarr : Bool
  urss : Bool

namespace PfcpAssociationReleaseRequest

def encode (release : PfcpAssociationReleaseRequest) : Bytes :=
  putU8 (flagsOctet [release.sarr, release.urss])

def decode : Parsing PfcpAssociationReleaseRequest := fun data => do
  let octet ← firstOf data
  pure ⟨octet.toNat.testBit 0, octet.toNat.testBit 1⟩

end PfcpAssociationReleaseRequest

structure GracefulReleasePeriod where
  timerValue : UInt8
  timerUnit : UInt8

namespace GracefulReleasePeriod

def encode (period : GracefulReleasePeriod) : Bytes :=
  let timerUnit := period.timerUnit &&& 0x07
  putU8 ((period.timerValue &&& 0x1F) ||| timerUnit <<< (5 : UInt8))

def decode : Parsing GracefulReleasePeriod := fun data => do
  let octet ← firstOf data
  pure ⟨octet &&& 0x1F, octet >>> 5 &&& 0x07⟩

end GracefulReleasePeriod

structure ApplicationId where
  value : Bytes
  deriving DecidableEq

namespace ApplicationId

def encode (applicationId : ApplicationId) : Bytes := applicationId.value

def decode : Parsing ApplicationId := fun data => .ok ⟨data⟩

end ApplicationId

structure PfdContents where
  flowDescription : Option Bytes
  url : Option Bytes
  domainName : Option Bytes
  customPfdContent : Option Bytes
  domainNameProtocol : Option Bytes
  additionalFlowDescription : Option Bytes
  additionalUrl : Option Bytes
  additionalDomainNameAndProtocol : Option Bytes

namespace PfdContents

def putLv (value : Bytes) : Bytes := putU16 (UInt16.ofNat value.length) ++ value

def encode (contents : PfdContents) : Bytes :=
  putU8 (flagsOctet [contents.flowDescription.isSome, contents.url.isSome,
      contents.domainName.isSome, contents.customPfdContent.isSome,
      contents.domainNameProtocol.isSome, contents.additionalFlowDescription.isSome,
      contents.additionalUrl.isSome, contents.additionalDomainNameAndProtocol.isSome]) ++
    (putU8 0 ++ (putSome putLv contents.flowDescription ++ (putSome putLv contents.url ++
          (putSome putLv contents.domainName ++ (putSome putLv contents.customPfdContent ++
              (putSome putLv contents.domainNameProtocol ++
                (putSome putLv contents.additionalFlowDescription ++
                  (putSome putLv contents.additionalUrl ++
                    putSome putLv contents.additionalDomainNameAndProtocol))))))))

def readLv : Decoding Bytes := do
  let len ← checked bufferTooShort 2 getU16
  checked bufferTooShort len.toNat (copyToBytes len.toNat)

def decode : Decoding PfdContents := do
  require 2 (bufferTooShort 2)
  let flags ← getU8
  let _spare ← getU8
  let flowDescription ← givenIf (flags.toNat.testBit 0) readLv
  let url ← givenIf (flags.toNat.testBit 1) readLv
  let domainName ← givenIf (flags.toNat.testBit 2) readLv
  let customPfdContent ← givenIf (flags.toNat.testBit 3) readLv
  let domainNameProtocol ← givenIf (flags.toNat.testBit 4) readLv
  let additionalFlowDescription ← givenIf (flags.toNat.testBit 5) readLv
  let additionalUrl ← givenIf (flags.toNat.testBit 6) readLv
  let additionalDomainNameAndProtocol ← givenIf (flags.toNat.testBit 7) readLv
  pure ⟨flowDescription, url, domainName, customPfdContent, domainNameProtocol,
    additionalFlowDescription, additionalUrl, additionalDomainNameAndProtocol⟩

end PfdContents

structure PfdContext where
  pfdContents : List PfdContents

namespace PfdContext

def ies (context : PfdContext) : List RawIe :=
  each IeType.pfdContents PfdContents.encode context.pfdContents

def encode (context : PfdContext) : Bytes := encodeIes context.ies

def arms : List (Arm PfcpError PfdContext) :=
  [.of IeType.pfdContents (whole PfdContents.decode) fun context value =>
    { context with pfdContents := context.pfdContents ++ [value] }]

def decode : Decoding PfdContext := decodeIes arms ⟨[]⟩

end PfdContext

structure ApplicationIdsPfds where
  applicationId : ApplicationId
  pfdContexts : List PfdContext

namespace ApplicationIdsPfds

structure Fields where
  applicationId : Option ApplicationId
  pfdContexts : List PfdContext

def ies (pfds : ApplicationIdsPfds) : List RawIe :=
  [encodeBytesIe IeType.applicationId pfds.applicationId.encode] ++
    each pfdContext PfdContext.encode pfds.pfdContexts

def encode (pfds : ApplicationIdsPfds) : Bytes := encodeIes pfds.ies

def arms : List (Arm PfcpError Fields) :=
  [.of IeType.applicationId (parsed ApplicationId.decode) fun fields value =>
      { fields with applicationId := some value },
    .of pfdContext (whole PfdContext.decode) fun fields value =>
      { fields with pfdContexts := fields.pfdContexts ++ [value] }]

def decode : Decoding ApplicationIdsPfds := do
  let fields ← decodeIes arms ⟨none, []⟩
  let applicationId ← mandatory "Application ID" fields.applicationId
  pure ⟨applicationId, fields.pfdContexts⟩

end ApplicationIdsPfds

structure PfdPartialFailureInformation where
  applicationId : ApplicationId
  failureCause : PfcpCause

namespace PfdPartialFailureInformation

structure Fields where
  applicationId : Option ApplicationId
  failureCause : Option PfcpCause

def ies (info : PfdPartialFailureInformation) : List RawIe :=
  [encodeBytesIe IeType.applicationId info.applicationId.encode] ++
    [encodeU8Ie cause info.failureCause.toU8]

def encode (info : PfdPartialFailureInformation) : Bytes := encodeIes info.ies

def arms : List (Arm PfcpError Fields) :=
  [.of IeType.applicationId (parsed ApplicationId.decode) fun fields value =>
      { fields with applicationId := some value },
    .of cause takeCause fun fields value => { fields with failureCause := some value }]

def decode : Decoding PfdPartialFailureInformation := do
  let fields ← decodeIes arms ⟨none, none⟩
  let applicationId ← mandatory "Application ID" fields.applicationId
  let failureCause ← mandatory "Failure Cause" fields.failureCause
  pure ⟨applicationId, failureCause⟩

end PfdPartialFailureInformation

inductive FqCsidNodeIdType where
  | ipv4
  | ipv6
  | other
  deriving DecidableEq

namespace FqCsidNodeIdType

def toU8 : FqCsidNodeIdType → UInt8
  | ipv4 => 0
  | ipv6 => 1
  | other => 2

def tryFrom (value : UInt8) : Except (Fault PfcpError) FqCsidNodeIdType :=
  match value.toNat with
  | 0 => .ok ipv4
  | 1 => .ok ipv6
  | 2 => .ok other
  | _ => .error (.refused (.invalidFormat ("FQ-CSID Node-ID Type " ++ toString value)))

end FqCsidNodeIdType

inductive FqCsidNodeType where
  | mme
  | sgwC
  | pgwCSmf
  | epdg
  | twan
  | pgwUSgwUUpf

namespace FqCsidNodeType

def toU8 : FqCsidNodeType → UInt8
  | mme => 0
  | sgwC => 1
  | pgwCSmf => 2
  | epdg => 3
  | twan => 4
  | pgwUSgwUUpf => 5

def tryFrom (value : UInt8) : Option FqCsidNodeType :=
  match value.toNat with
  | 0 => some mme
  | 1 => some sgwC
  | 2 => some pgwCSmf
  | 3 => some epdg
  | 4 => some twan
  | 5 => some pgwUSgwUUpf
  | _ => none

end FqCsidNodeType

structure FqCsid where
  nodeIdType : FqCsidNodeIdType
  ipv4Addr : Option Ipv4
  ipv6Addr : Option Ipv6
  csids : List UInt16
  nodeType : Option FqCsidNodeType

namespace FqCsid

def encodeAddress (fqCsid : FqCsid) : Bytes :=
  match fqCsid.nodeIdType with
  | .ipv4 | .other => putSome toList fqCsid.ipv4Addr
  | .ipv6 => putSome toList fqCsid.ipv6Addr

def encode (fqCsid : FqCsid) : Bytes :=
  let n := min fqCsid.csids.length 0x0F
  putU8 (fqCsid.nodeIdType.toU8 <<< 4 ||| UInt8.ofNat n) ++ (fqCsid.encodeAddress ++
      ((fqCsid.csids.take n).flatMap putU16 ++
        putSome (fun nodeType => putU8 (nodeType.toU8 &&& 0x0F)) fqCsid.nodeType))

def decodeAddress (nodeIdType : FqCsidNodeIdType) : Decoding (Option Ipv4 × Option Ipv6) :=
  match nodeIdType with
  | .ipv4 | .other => do
    let addr ← address 4
    pure (some addr, none)
  | .ipv6 => do
    let addr ← address 16
    pure (none, some addr)

def decode : Decoding FqCsid := do
  let octet5 ← checked bufferTooShort 1 getU8
  let nodeIdType ← Reading.lift (FqCsidNodeIdType.tryFrom (octet5 >>> 4))
  let addresses ← decodeAddress nodeIdType
  let csids ← Reading.times (checked bufferTooShort 2 getU16) (octet5 &&& 0x0F).toNat
  let nodeType ← ifLeft 1 none (do
    let octet ← getU8
    pure (FqCsidNodeType.tryFrom (octet &&& 0x0F)))
  pure ⟨nodeIdType, addresses.1, addresses.2, csids, nodeType⟩

end FqCsid

structure GroupId where
  value : Bytes

namespace GroupId

def encode (groupId : GroupId) : Bytes := groupId.value

def decode : Parsing GroupId := fun data => .ok ⟨data⟩

end GroupId

structure CpIpAddress where
  ipv4 : Option Ipv4
  ipv6 : Option Ipv6

namespace CpIpAddress

def encode (addr : CpIpAddress) : Bytes :=
  putU8 (flagsOctet [addr.ipv6.isSome, addr.ipv4.isSome]) ++
    (putSome toList addr.ipv4 ++ putSome toList addr.ipv6)

def decode : Decoding CpIpAddress := do
  let flags ← checked bufferTooShort 1 getU8
  let ipv4 ← givenIf (flags.toNat.testBit 1) (address 4)
  let ipv6 ← givenIf (flags.toNat.testBit 0) (address 16)
  pure ⟨ipv4, ipv6⟩

end CpIpAddress

structure AlternativeSmfIpAddress where
  ipv4 : Option Ipv4
  ipv6 : Option Ipv6
  ppe : Bool

namespace AlternativeSmfIpAddress

def encode (addr : AlternativeSmfIpAddress) : Bytes :=
  putU8 (flagsOctet [addr.ipv6.isSome, addr.ipv4.isSome, addr.ppe]) ++
    (putSome toList addr.ipv4 ++ putSome toList addr.ipv6)

def decode : Decoding AlternativeSmfIpAddress := do
  let flags ← checked bufferTooShort 1 getU8
  let ipv4 ← givenIf (flags.toNat.testBit 1) (address 4)
  let ipv6 ← givenIf (flags.toNat.testBit 0) (address 16)
  pure ⟨ipv4, ipv6, flags.toNat.testBit 2⟩

end AlternativeSmfIpAddress

structure PfcpSessionChangeInfo where
  pgwCSmfFqCsids : List FqCsid
  groupIds : List GroupId
  cpIpAddresses : List CpIpAddress
  alternativeSmfIpAddress : AlternativeSmfIpAddress

namespace PfcpSessionChangeInfo

structure Fields where
  pgwCSmfFqCsids : List FqCsid
  groupIds : List GroupId
  cpIpAddresses : List CpIpAddress
  alternativeSmfIpAddress : Option AlternativeSmfIpAddress

def ies (info : PfcpSessionChangeInfo) : List RawIe :=
  each IeType.fqCsid FqCsid.encode info.pgwCSmfFqCsids ++
    (each IeType.groupId GroupId.encode info.groupIds ++
      (each cpIpAddress CpIpAddress.encode info.cpIpAddresses ++
        [encodeBytesIe IeType.alternativeSmfIpAddress info.alternativeSmfIpAddress.encode]))

def encode (info : PfcpSessionChangeInfo) : Bytes := encodeIes info.ies

def arms : List (Arm PfcpError Fields) :=
  [.of IeType.fqCsid (whole FqCsid.decode) fun fields value =>
      { fields with pgwCSmfFqCsids := fields.pgwCSmfFqCsids ++ [value] },
    .of IeType.groupId (parsed GroupId.decode) fun fields value =>
      { fields with groupIds := fields.groupIds ++ [value] },
    .of cpIpAddress (whole CpIpAddress.decode) fun fields value =>
      { fields with cpIpAddresses := fields.cpIpAddresses ++ [value] },
    .of IeType.alternativeSmfIpAddress (whole AlternativeSmfIpAddress.decode) fun fields value =>
      { fields with alternativeSmfIpAddress := some value }]

def decode : Decoding PfcpSessionChangeInfo := do
  let fields ← decodeIes arms ⟨[], [], [], none⟩
  let alternativeSmfIpAddress ←
    mandatory "Alternative SMF IP Address" fields.alternativeSmfIpAddress
  pure ⟨fields.pgwCSmfFqCsids, fields.groupIds, fields.cpIpAddresses, alternativeSmfIpAddress⟩

end PfcpSessionChangeInfo

end NextGCore.Pfcp
