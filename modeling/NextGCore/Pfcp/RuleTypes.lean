import NextGCore.Pfcp.Types

/-!
# Values of the elements of rules and reports

Actions, outer headers, rates, volumes, and the sets of flags that are reports and features.
-/

namespace NextGCore.Pfcp

open Library PfcpError

structure ApplyAction where
  drop : Bool
  forw : Bool
  buff : Bool
  nocp : Bool
  dupl : Bool
  ipma : Bool
  ipmd : Bool
  dfrt : Bool
  edrt : Bool
  bdpn : Bool
  ddpn : Bool

namespace ApplyAction

def default : ApplyAction :=
  ⟨false, false, false, false, false, false, false, false, false, false, false⟩

def encode (action : ApplyAction) : UInt16 :=
  flagsWord [action.drop, action.forw, action.buff, action.nocp, action.dupl, action.ipma,
    action.ipmd, action.dfrt, action.edrt, action.bdpn, action.ddpn]

def decode (value : UInt16) : ApplyAction where
  drop := value.toNat.testBit 0
  forw := value.toNat.testBit 1
  buff := value.toNat.testBit 2
  nocp := value.toNat.testBit 3
  dupl := value.toNat.testBit 4
  ipma := value.toNat.testBit 5
  ipmd := value.toNat.testBit 6
  dfrt := value.toNat.testBit 7
  edrt := value.toNat.testBit 8
  bdpn := value.toNat.testBit 9
  ddpn := value.toNat.testBit 10

def encodeIe (action : ApplyAction) : RawIe :=
  encodeBytesIe IeType.applyAction [action.encode.toUInt8, (action.encode >>> 8).toUInt8]

def decodeIe (data : Bytes) : ApplyAction :=
  let octet5 : UInt8 := data[0]?.getD 0
  let octet6 : UInt8 := data[1]?.getD 0
  decode (octet5.toUInt16 ||| octet6.toUInt16 <<< (8 : UInt16))

end ApplyAction

inductive OuterHeaderRemovalDescription where
  | gtpUUdpIpv4
  | gtpUUdpIpv6
  | udpIpv4
  | udpIpv6
  | ipv4
  | ipv6
  | gtpUUdpIp
  | vlanSTag
  | sTagAndCTag

namespace OuterHeaderRemovalDescription

def toU8 : OuterHeaderRemovalDescription → UInt8
  | gtpUUdpIpv4 => 0
  | gtpUUdpIpv6 => 1
  | udpIpv4 => 2
  | udpIpv6 => 3
  | ipv4 => 4
  | ipv6 => 5
  | gtpUUdpIp => 6
  | vlanSTag => 7
  | sTagAndCTag => 8

def ofU8 (desc : UInt8) : OuterHeaderRemovalDescription :=
  match desc.toNat with
  | 0 => gtpUUdpIpv4
  | 1 => gtpUUdpIpv6
  | 2 => udpIpv4
  | 3 => udpIpv6
  | 4 => ipv4
  | 5 => ipv6
  | 6 => gtpUUdpIp
  | 7 => vlanSTag
  | 8 => sTagAndCTag
  | _ => gtpUUdpIpv4

end OuterHeaderRemovalDescription

structure OuterHeaderRemoval where
  description : OuterHeaderRemovalDescription
  pduSessionContainer : Bool

namespace OuterHeaderRemoval

def encode (removal : OuterHeaderRemoval) : Bytes :=
  putU8 removal.description.toU8 ++ putIf removal.pduSessionContainer (putU8 1)

def decode : Decoding OuterHeaderRemoval := do
  let desc ← checked bufferTooShort 1 getU8
  let container ← ifLeft 1 0 getU8
  pure ⟨.ofU8 desc, container.toNat.testBit 0⟩

end OuterHeaderRemoval

structure OuterHeaderCreationDescription where
  gtpuUdpIpv4 : Bool
  gtpuUdpIpv6 : Bool
  udpIpv4 : Bool
  udpIpv6 : Bool
  ipv4 : Bool
  ipv6 : Bool
  cTag : Bool
  sTag : Bool
  n19 : Bool
  n6 : Bool

structure OuterHeaderCreation where
  description : OuterHeaderCreationDescription
  teid : Option UInt32
  ipv4Addr : Option Ipv4
  ipv6Addr : Option Ipv6
  portNumber : Option UInt16
  cTag : Option (Vector UInt8 3)
  sTag : Option (Vector UInt8 3)

namespace OuterHeaderCreation

def flags (description : OuterHeaderCreationDescription) : List Bool :=
  [description.n19, description.n6, false, false, false, false, false, false,
    description.gtpuUdpIpv4, description.gtpuUdpIpv6, description.udpIpv4, description.udpIpv6,
    description.ipv4, description.ipv6, description.cTag, description.sTag]

def encode (creation : OuterHeaderCreation) : Bytes :=
  putU16 (flagsWord (flags creation.description)) ++ (putSome putU32 creation.teid ++
      (putSome Vector.toList creation.ipv4Addr ++ (putSome Vector.toList creation.ipv6Addr ++
          (putSome putU16 creation.portNumber ++
            (putSome Vector.toList creation.cTag ++ putSome Vector.toList creation.sTag)))))

def describe (desc : UInt16) : OuterHeaderCreationDescription where
  gtpuUdpIpv4 := desc.toNat.testBit 8
  gtpuUdpIpv6 := desc.toNat.testBit 9
  udpIpv4 := desc.toNat.testBit 10
  udpIpv6 := desc.toNat.testBit 11
  ipv4 := desc.toNat.testBit 12
  ipv6 := desc.toNat.testBit 13
  cTag := desc.toNat.testBit 14
  sTag := desc.toNat.testBit 15
  n19 := desc.toNat.testBit 0
  n6 := desc.toNat.testBit 1

def decodeTag (present : Bool) : Decoding (Option (Vector UInt8 3)) :=
  orElse present none (ifLeft 3 none (givenIf true (copyToSlice 3)))

def decode : Decoding OuterHeaderCreation := do
  let desc ← checked bufferTooShort 2 getU16
  let description := describe desc
  let teid ← givenIf (description.gtpuUdpIpv4 || description.gtpuUdpIpv6)
    (checked bufferTooShort 4 getU32)
  let ipv4Addr ← givenIf
    (description.gtpuUdpIpv4 || description.udpIpv4 || description.ipv4) (address 4)
  let ipv6Addr ← givenIf
    (description.gtpuUdpIpv6 || description.udpIpv6 || description.ipv6) (address 16)
  let portNumber ← givenIf (description.udpIpv4 || description.udpIpv6)
    (checked bufferTooShort 2 getU16)
  let cTag ← decodeTag description.cTag
  let sTag ← decodeTag description.sTag
  pure ⟨description, teid, ipv4Addr, ipv6Addr, portNumber, cTag, sTag⟩

end OuterHeaderCreation

structure GateStatus where
  ulGate : Bool
  dlGate : Bool

namespace GateStatus

def encode (status : GateStatus) : UInt8 :=
  let ul : UInt8 := if status.ulGate then 0 else 1
  let dl : UInt8 := if status.dlGate then 0 else 1
  ul <<< (2 : UInt8) ||| dl

def decode (value : UInt8) : GateStatus :=
  ⟨value >>> 2 &&& 0x03 = 0, value &&& 0x03 = 0⟩

end GateStatus

structure Bitrate where
  uplink : UInt64
  downlink : UInt64

namespace Bitrate

def toKbps (rate : UInt64) : UInt64 := rate / 1000 + if rate % 1000 = 0 then 0 else 1

def putKbps (kbps : UInt64) : Bytes := putU8 (kbps >>> 32).toUInt8 ++ putU32 kbps.toUInt32

def encode (rate : Bitrate) : Bytes :=
  putKbps (toKbps rate.uplink) ++ putKbps (toKbps rate.downlink)

def getKbps : Decoding UInt64 := do
  let high ← getU8
  let low ← getU32
  pure ((high.toUInt64 <<< 32) ||| low.toUInt64)

def decode : Decoding Bitrate := do
  require 10 (bufferTooShort 10)
  let ulKbps ← getKbps
  let dlKbps ← getKbps
  pure ⟨ulKbps * 1000, dlKbps * 1000⟩

end Bitrate

structure VolumeThreshold where
  tovol : Bool
  ulvol : Bool
  dlvol : Bool
  totalVolume : UInt64
  uplinkVolume : UInt64
  downlinkVolume : UInt64

def countIf (present : Bool) : Decoding UInt64 :=
  orElse present 0 (checked bufferTooShort 8 getU64)

namespace VolumeThreshold

def encode (threshold : VolumeThreshold) : Bytes :=
  putU8 (flagsOctet [threshold.tovol, threshold.ulvol, threshold.dlvol]) ++
    (putIf threshold.tovol (putU64 threshold.totalVolume) ++
      (putIf threshold.ulvol (putU64 threshold.uplinkVolume) ++
        putIf threshold.dlvol (putU64 threshold.downlinkVolume)))

def decode : Decoding VolumeThreshold := do
  let flags ← checked bufferTooShort 1 getU8
  let tovol := flags.toNat.testBit 0
  let ulvol := flags.toNat.testBit 1
  let dlvol := flags.toNat.testBit 2
  let totalVolume ← countIf tovol
  let uplinkVolume ← countIf ulvol
  let downlinkVolume ← countIf dlvol
  pure ⟨tovol, ulvol, dlvol, totalVolume, uplinkVolume, downlinkVolume⟩

end VolumeThreshold

structure VolumeMeasurement where
  tovol : Bool
  ulvol : Bool
  dlvol : Bool
  tonop : Bool
  ulnop : Bool
  dlnop : Bool
  totalVolume : UInt64
  uplinkVolume : UInt64
  downlinkVolume : UInt64
  totalNPackets : UInt64
  uplinkNPackets : UInt64
  downlinkNPackets : UInt64

namespace VolumeMeasurement

def encode (measurement : VolumeMeasurement) : Bytes :=
  putU8 (flagsOctet [measurement.tovol, measurement.ulvol, measurement.dlvol, measurement.tonop,
      measurement.ulnop, measurement.dlnop]) ++
    (putIf measurement.tovol (putU64 measurement.totalVolume) ++
      (putIf measurement.ulvol (putU64 measurement.uplinkVolume) ++
        (putIf measurement.dlvol (putU64 measurement.downlinkVolume) ++
          (putIf measurement.tonop (putU64 measurement.totalNPackets) ++
            (putIf measurement.ulnop (putU64 measurement.uplinkNPackets) ++
              putIf measurement.dlnop (putU64 measurement.downlinkNPackets))))))

def decode : Decoding VolumeMeasurement := do
  let flags ← checked bufferTooShort 1 getU8
  let tovol := flags.toNat.testBit 0
  let ulvol := flags.toNat.testBit 1
  let dlvol := flags.toNat.testBit 2
  let tonop := flags.toNat.testBit 3
  let ulnop := flags.toNat.testBit 4
  let dlnop := flags.toNat.testBit 5
  let totalVolume ← countIf tovol
  let uplinkVolume ← countIf ulvol
  let downlinkVolume ← countIf dlvol
  let totalNPackets ← countIf tonop
  let uplinkNPackets ← countIf ulnop
  let downlinkNPackets ← countIf dlnop
  pure ⟨tovol, ulvol, dlvol, tonop, ulnop, dlnop, totalVolume, uplinkVolume, downlinkVolume,
    totalNPackets, uplinkNPackets, downlinkNPackets⟩

end VolumeMeasurement

structure ReportingTriggers where
  perio : Bool
  volth : Bool
  timth : Bool
  quhti : Bool
  start : Bool
  stopt : Bool
  droth : Bool
  liusa : Bool
  volqu : Bool
  timqu : Bool
  envcl : Bool
  macar : Bool
  eveth : Bool
  evequ : Bool
  ipmjl : Bool
  quvti : Bool
  reemr : Bool
  upint : Bool

namespace ReportingTriggers

def default : ReportingTriggers :=
  ⟨false, false, false, false, false, false, false, false, false, false, false, false, false,
    false, false, false, false, false⟩

def encode (triggers : ReportingTriggers) : Bytes :=
  [flagsOctet [triggers.perio, triggers.volth, triggers.timth, triggers.quhti, triggers.start,
      triggers.stopt, triggers.droth, triggers.liusa],
    flagsOctet [triggers.volqu, triggers.timqu, triggers.envcl, triggers.macar, triggers.eveth,
      triggers.evequ, triggers.ipmjl, triggers.quvti],
    flagsOctet [triggers.reemr, triggers.upint]]

def decode : Parsing ReportingTriggers := fun data =>
  if data.length < 2 then .error (.refused (.bufferTooShort 2 data.length))
  else do
    let b0 ← octetAt 0 data
    let b1 ← octetAt 1 data
    let b2 ← octetOrZero 2 data
    pure {
      perio := b0.toNat.testBit 0
      volth := b0.toNat.testBit 1
      timth := b0.toNat.testBit 2
      quhti := b0.toNat.testBit 3
      start := b0.toNat.testBit 4
      stopt := b0.toNat.testBit 5
      droth := b0.toNat.testBit 6
      liusa := b0.toNat.testBit 7
      volqu := b1.toNat.testBit 0
      timqu := b1.toNat.testBit 1
      envcl := b1.toNat.testBit 2
      macar := b1.toNat.testBit 3
      eveth := b1.toNat.testBit 4
      evequ := b1.toNat.testBit 5
      ipmjl := b1.toNat.testBit 6
      quvti := b1.toNat.testBit 7
      reemr := b2.toNat.testBit 0
      upint := b2.toNat.testBit 1 }

end ReportingTriggers

structure ReportType where
  dldr : Bool
  usar : Bool
  erir : Bool
  upir : Bool
  tmir : Bool
  sesr : Bool
  uisr : Bool

namespace ReportType

def default : ReportType := ⟨false, false, false, false, false, false, false⟩

def encode (report : ReportType) : UInt8 :=
  flagsOctet [report.dldr, report.usar, report.erir, report.upir, report.tmir, report.sesr,
    report.uisr]

def decode (val : UInt8) : ReportType where
  dldr := val.toNat.testBit 0
  usar := val.toNat.testBit 1
  erir := val.toNat.testBit 2
  upir := val.toNat.testBit 3
  tmir := val.toNat.testBit 4
  sesr := val.toNat.testBit 5
  uisr := val.toNat.testBit 6

end ReportType

structure UpFunctionFeatures where
  bucp : Bool
  ddnd : Bool
  dlbd : Bool
  trst : Bool
  ftup : Bool
  pfdm : Bool
  heeu : Bool
  treu : Bool
  empu : Bool
  pdiu : Bool
  udbc : Bool
  quoac : Bool
  trace : Bool
  frrt : Bool
  pfde : Bool
  epfar : Bool
  dpdra : Bool
  adpdp : Bool
  ueip : Bool
  sset : Bool
  mnop : Bool
  mte : Bool
  bundl : Bool
  gcom : Bool
  mpas : Bool
  rttl : Bool
  vtime : Bool
  norp : Bool
  iptv : Bool
  ip6pl : Bool
  tscu : Bool
  mptcp : Bool
  atsssLl : Bool
  qfqm : Bool
  gpqm : Bool
  mtEdt : Bool
  ciot : Bool
  ethar : Bool
  ddds : Bool
  rds : Bool
  rttwp : Bool
  quasf : Bool
  nspoc : Bool
  l2tp : Bool
  upber : Bool
  resps : Bool
  iprep : Bool
  dnsts : Bool
  drqos : Bool
  mbsn4 : Bool
  psuprm : Bool
  eppi : Bool

namespace UpFunctionFeatures

def encode (features : UpFunctionFeatures) : Bytes :=
  putU8 (flagsOctet [features.bucp, features.ddnd, features.dlbd, features.trst, features.ftup,
        features.pfdm, features.heeu, features.treu]) ++
    (putU8 (flagsOctet [features.empu, features.pdiu, features.udbc, features.quoac,
          features.trace, features.frrt, features.pfde, features.epfar]) ++
      (putU8 (flagsOctet [features.dpdra, features.adpdp, features.ueip, features.sset,
            features.mnop, features.mte, features.bundl, features.gcom]) ++
        (putU8 (flagsOctet [features.mpas, features.rttl, features.vtime, features.norp,
              features.iptv, features.ip6pl, features.tscu, features.mptcp]) ++
          (putU8 (flagsOctet [features.atsssLl, features.qfqm, features.gpqm, features.mtEdt,
                features.ciot, features.ethar, features.ddds, features.rds]) ++
            (putU8 (flagsOctet [features.rttwp, features.quasf, features.nspoc, features.l2tp,
                  features.upber, features.resps, features.iprep, features.dnsts]) ++
              (putU8 (flagsOctet [features.drqos, features.mbsn4, features.psuprm,
                    features.eppi]) ++
                putU8 0))))))

def decode : Decoding UpFunctionFeatures := do
  require 6 (bufferTooShort 6)
  let b0 ← getU8
  let b1 ← getU8
  let b2 ← getU8
  let b3 ← getU8
  let b4 ← getU8
  let b5 ← getU8
  let b6 ← ifLeft 1 0 getU8
  pure {
    bucp := b0.toNat.testBit 0
    ddnd := b0.toNat.testBit 1
    dlbd := b0.toNat.testBit 2
    trst := b0.toNat.testBit 3
    ftup := b0.toNat.testBit 4
    pfdm := b0.toNat.testBit 5
    heeu := b0.toNat.testBit 6
    treu := b0.toNat.testBit 7
    empu := b1.toNat.testBit 0
    pdiu := b1.toNat.testBit 1
    udbc := b1.toNat.testBit 2
    quoac := b1.toNat.testBit 3
    trace := b1.toNat.testBit 4
    frrt := b1.toNat.testBit 5
    pfde := b1.toNat.testBit 6
    epfar := b1.toNat.testBit 7
    dpdra := b2.toNat.testBit 0
    adpdp := b2.toNat.testBit 1
    ueip := b2.toNat.testBit 2
    sset := b2.toNat.testBit 3
    mnop := b2.toNat.testBit 4
    mte := b2.toNat.testBit 5
    bundl := b2.toNat.testBit 6
    gcom := b2.toNat.testBit 7
    mpas := b3.toNat.testBit 0
    rttl := b3.toNat.testBit 1
    vtime := b3.toNat.testBit 2
    norp := b3.toNat.testBit 3
    iptv := b3.toNat.testBit 4
    ip6pl := b3.toNat.testBit 5
    tscu := b3.toNat.testBit 6
    mptcp := b3.toNat.testBit 7
    atsssLl := b4.toNat.testBit 0
    qfqm := b4.toNat.testBit 1
    gpqm := b4.toNat.testBit 2
    mtEdt := b4.toNat.testBit 3
    ciot := b4.toNat.testBit 4
    ethar := b4.toNat.testBit 5
    ddds := b4.toNat.testBit 6
    rds := b4.toNat.testBit 7
    rttwp := b5.toNat.testBit 0
    quasf := b5.toNat.testBit 1
    nspoc := b5.toNat.testBit 2
    l2tp := b5.toNat.testBit 3
    upber := b5.toNat.testBit 4
    resps := b5.toNat.testBit 5
    iprep := b5.toNat.testBit 6
    dnsts := b5.toNat.testBit 7
    drqos := b6.toNat.testBit 0
    mbsn4 := b6.toNat.testBit 1
    psuprm := b6.toNat.testBit 2
    eppi := b6.toNat.testBit 3 }

end UpFunctionFeatures

structure CpFunctionFeatures where
  load : Bool
  ovrl : Bool
  epfar : Bool
  sset : Bool
  bundl : Bool
  mpas : Bool
  ardr : Bool
  uiaur : Bool
  psucc : Bool

namespace CpFunctionFeatures

def encode (features : CpFunctionFeatures) : Bytes :=
  [flagsOctet [features.load, features.ovrl, features.epfar, features.sset, features.bundl,
      features.mpas, features.ardr, features.uiaur],
    flagsOctet [features.psucc]]

def decode : Parsing CpFunctionFeatures := fun data => do
  let b0 ← firstOf data
  let b1 ← octetOrZero 1 data
  pure {
    load := b0.toNat.testBit 0
    ovrl := b0.toNat.testBit 1
    epfar := b0.toNat.testBit 2
    sset := b0.toNat.testBit 3
    bundl := b0.toNat.testBit 4
    mpas := b0.toNat.testBit 5
    ardr := b0.toNat.testBit 6
    uiaur := b0.toNat.testBit 7
    psucc := b1.toNat.testBit 0 }

end CpFunctionFeatures

structure MeasurementMethod where
  durat : Bool
  volum : Bool
  event : Bool

namespace MeasurementMethod

def default : MeasurementMethod := ⟨false, false, false⟩

def encode (method : MeasurementMethod) : UInt8 :=
  flagsOctet [method.durat, method.volum, method.event]

def decode (val : UInt8) : MeasurementMethod :=
  ⟨val.toNat.testBit 0, val.toNat.testBit 1, val.toNat.testBit 2⟩

end MeasurementMethod

end NextGCore.Pfcp
