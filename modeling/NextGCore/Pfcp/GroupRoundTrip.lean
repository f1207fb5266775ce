import NextGCore.Pfcp.Groups
import NextGCore.Pfcp.ValueRoundTrip

/-!
# Groups read back

A group is well formed when its values are, and when each of its elements is short enough for its
length to be written.
-/

namespace NextGCore.Pfcp

open Library Sbi Gathers UInt8

def Fits (ies : List RawIe) : Prop := ∀ ie ∈ ies, ie.value.length < 2 ^ 16

instance (ies : List RawIe) : Decidable (Fits ies) :=
  inferInstanceAs (Decidable (∀ ie ∈ ies, ie.value.length < 2 ^ 16))

lemma takes_u8 (value : UInt8) : Takes takeU8 (putU8 value) value := takes_firstOctet rfl

lemma takes_text (text : String) :
  Takes (allOctets fromUtf8Lossy : Taking PfcpError String) (asBytes text) text := by
  rw [Takes, allOctets, fromUtf8Lossy_asBytes]

lemma takes_octets (octets : Bytes) :
  Takes (allOctets id : Taking PfcpError Bytes) octets octets := rfl

lemma takes_octet {Value : Type} {make : UInt8 → Value} {octet : UInt8} {value : Value}
  (makes : make octet = value) :
  Takes (firstOctet fun octet => .ok (make octet) : Taking PfcpError Value) (putU8 octet)
    value :=
  takes_firstOctet (congrArg Except.ok makes)

lemma takes_cause (cause : PfcpCause) : Takes takeCause (putU8 cause.toU8) cause :=
  takes_octet (PfcpCause.fromWire_toU8 cause)

lemma LoadControlInformation.gives {info : LoadControlInformation} (fits : Fits info.ies) :
  Gives decode info.encode info := by
  have gathers : Gathers arms ⟨none, none⟩ info.ies
      ⟨some info.sequenceNumber, some info.metric⟩ :=
    (one (takes_u32 _)).append (one (takes_u8 _))
  exact gives_gather_bind gathers fits rfl

namespace Pdi

structure WellFormed (pdi : Pdi) : Prop where
  localFTeid : ∀ fTeid ∈ pdi.localFTeid, fTeid.WellFormed
  ueIpAddress : ∀ ueIp ∈ pdi.ueIpAddress, ueIp.WellFormed
  fits : Fits pdi.ies

lemma gives {pdi : Pdi} (wellFormed : pdi.WellFormed) : Gives decode pdi.encode pdi := by
  have gathers : Gathers arms (new .access) pdi.ies pdi := by
    refine (one (SourceInterface.takes _)).append ?_
    refine (whenGiven (fun pdi value => { pdi with localFTeid := value })
      (reads_all FTeid.readsBack wellFormed.localFTeid)).append ?_
    refine (whenGiven (fun pdi value => { pdi with networkInstance := value })
      (fun text _ => takes_text text)).append ?_
    refine (whenGiven (fun pdi value => { pdi with ueIpAddress := value })
      (reads_all UeIpAddress.readsBack wellFormed.ueIpAddress)).append ?_
    refine (whenGiven (fun pdi value => { pdi with sdfFilter := value })
      (fun octets _ => takes_octets octets)).append ?_
    exact whenGiven (fun pdi value => { pdi with applicationId := value })
      (fun octets _ => takes_octets octets)
  exact gives_gather gathers wellFormed.fits

end Pdi

namespace CreatePdr

structure WellFormed (pdr : CreatePdr) : Prop where
  pdi : pdr.pdi.WellFormed
  fits : Fits pdr.ies

lemma gives {pdr : CreatePdr} (wellFormed : pdr.WellFormed) :
  Gives decode pdr.encode pdr := by
  have gathers : Gathers arms ⟨0, 0, none, none, none, [], none⟩ pdr.ies
      ⟨pdr.pdrId, pdr.precedence, some pdr.pdi, pdr.outerHeaderRemoval, pdr.farId,
        pdr.urrIds, pdr.qerId⟩ := by
    refine (one (takes_u16 _)).append ?_
    refine (one (takes_u32 _)).append ?_
    refine (one (takes_whole (Pdi.gives wellFormed.pdi))).append ?_
    refine (whenGiven (fun fields value => { fields with outerHeaderRemoval := value })
      (fun value _ => takes_whole value.gives)).append ?_
    refine (whenGiven (fun fields value => { fields with farId := value })
      (fun value _ => takes_u32 value)).append ?_
    refine (every (fun fields values => { fields with urrIds := values })
      (fun value _ => takes_u32 value)).append ?_
    exact whenGiven (fun fields value => { fields with qerId := value })
      (fun value _ => takes_u32 value)
  exact gives_gather_bind gathers wellFormed.fits rfl

end CreatePdr

namespace UpdatePdr

structure WellFormed (pdr : UpdatePdr) : Prop where
  pdi : ∀ pdi ∈ pdr.pdi, pdi.WellFormed
  fits : Fits pdr.ies

lemma gives {pdr : UpdatePdr} (wellFormed : pdr.WellFormed) :
  Gives decode pdr.encode pdr := by
  have gathers : Gathers arms (new 0) pdr.ies pdr := by
    refine (one (takes_u16 _)).append ?_
    refine (whenGiven (fun pdr value => { pdr with precedence := value })
      (fun value _ => takes_u32 value)).append ?_
    refine (whenGiven (fun pdr value => { pdr with pdi := value })
        (takes_all Pdi.gives wellFormed.pdi)).append ?_
    refine (whenGiven (fun pdr value => { pdr with outerHeaderRemoval := value })
      (fun value _ => takes_whole value.gives)).append ?_
    refine (whenGiven (fun pdr value => { pdr with farId := value })
      (fun value _ => takes_u32 value)).append ?_
    refine (every (fun pdr values => { pdr with urrIds := values })
      (fun value _ => takes_u32 value)).append ?_
    exact whenGiven (fun pdr value => { pdr with qerId := value })
      (fun value _ => takes_u32 value)
  exact gives_gather gathers wellFormed.fits

end UpdatePdr

namespace RemovePdr

lemma gives {pdr : RemovePdr} (fits : Fits pdr.ies) :
  Gives decode pdr.encode pdr := by
  have gathers : Gathers arms ⟨0⟩ pdr.ies pdr :=
    one (takes_u16 _)
  exact gives_gather gathers fits

end RemovePdr

namespace CreatedPdr

structure WellFormed (pdr : CreatedPdr) : Prop where
  localFTeid : ∀ fTeid ∈ pdr.localFTeid, fTeid.WellFormed
  fits : Fits pdr.ies

lemma gives {pdr : CreatedPdr} (wellFormed : pdr.WellFormed) :
  Gives decode pdr.encode pdr := by
  have gathers : Gathers arms ⟨0, none⟩ pdr.ies pdr := by
    refine (one (takes_u16 _)).append ?_
    exact whenGiven (fun pdr value => { pdr with localFTeid := value })
        (reads_all FTeid.readsBack wellFormed.localFTeid)
  exact gives_gather gathers wellFormed.fits

end CreatedPdr

namespace ForwardingParameters

structure WellFormed (parameters : ForwardingParameters) : Prop where
  outerHeaderCreation : ∀ creation ∈ parameters.outerHeaderCreation, creation.WellFormed
  fits : Fits parameters.ies

lemma gives {parameters : ForwardingParameters} (wellFormed : parameters.WellFormed) :
  Gives decode parameters.encode parameters := by
  have gathers : Gathers arms (new .access) parameters.ies parameters := by
    refine (one (DestinationInterface.takes _)).append ?_
    refine (whenGiven (fun parameters value => { parameters with networkInstance := value })
      (fun text _ => takes_text text)).append ?_
    exact whenGiven (fun parameters value => { parameters with outerHeaderCreation := value })
      (reads_all OuterHeaderCreation.readsBack wellFormed.outerHeaderCreation)
  exact gives_gather gathers wellFormed.fits

end ForwardingParameters

lemma takes_applyAction (action : ApplyAction) :
  Takes takeApplyAction action.encodeIe.value action := by
  rw [Takes, takeApplyAction, if_pos (by simp [ApplyAction.encodeIe, encodeBytesIe]),
    action.decodeIe_encodeIe]

namespace CreateFar

structure WellFormed (far : CreateFar) : Prop where
  forwardingParameters : ∀ parameters ∈ far.forwardingParameters, parameters.WellFormed
  fits : Fits far.ies

lemma gives {far : CreateFar} (wellFormed : far.WellFormed) :
  Gives decode far.encode far := by
  have gathers : Gathers arms (new 0 ApplyAction.default) far.ies far := by
    refine (one (takes_u32 _)).append ?_
    refine (one (takes_applyAction _)).append ?_
    refine (whenGiven (fun far value => { far with forwardingParameters := value })
      (takes_all ForwardingParameters.gives wellFormed.forwardingParameters)).append ?_
    exact whenGiven (fun far value => { far with barId := value })
      (fun value _ => takes_u8 value)
  exact gives_gather gathers wellFormed.fits

end CreateFar

namespace UpdateFar

structure WellFormed (far : UpdateFar) : Prop where
  forwardingParameters : ∀ parameters ∈ far.forwardingParameters, parameters.WellFormed
  fits : Fits far.ies

lemma gives {far : UpdateFar} (wellFormed : far.WellFormed) :
  Gives decode far.encode far := by
  have gathers : Gathers arms (new 0) far.ies far := by
    refine (one (takes_u32 _)).append ?_
    refine (whenGiven (fun far value => { far with applyAction := value })
      (fun action _ => takes_applyAction action)).append ?_
    refine (whenGiven (fun far value => { far with forwardingParameters := value })
      (takes_all ForwardingParameters.gives wellFormed.forwardingParameters)).append ?_
    exact whenGiven (fun far value => { far with barId := value })
      (fun value _ => takes_u8 value)
  exact gives_gather gathers wellFormed.fits

end UpdateFar

namespace RemoveFar

lemma gives {far : RemoveFar} (fits : Fits far.ies) :
  Gives decode far.encode far := by
  have gathers : Gathers arms ⟨0⟩ far.ies far :=
    one (takes_u32 _)
  exact gives_gather gathers fits

end RemoveFar

namespace CreateQer

structure WellFormed (qer : CreateQer) : Prop where
  maximumBitrate : ∀ rate ∈ qer.maximumBitrate, rate.WellFormed
  guaranteedBitrate : ∀ rate ∈ qer.guaranteedBitrate, rate.WellFormed
  fits : Fits qer.ies

lemma gives {qer : CreateQer} (wellFormed : qer.WellFormed) :
  Gives decode qer.encode qer := by
  have gathers : Gathers arms (new 0 ⟨false, false⟩) qer.ies qer := by
    refine (one (takes_u32 _)).append ?_
    refine (one (takes_octet (GateStatus.decode_encode _))).append ?_
    refine (whenGiven (fun qer value => { qer with maximumBitrate := value })
      (reads_all Bitrate.readsBack wellFormed.maximumBitrate)).append ?_
    refine (whenGiven (fun qer value => { qer with guaranteedBitrate := value })
      (reads_all Bitrate.readsBack wellFormed.guaranteedBitrate)).append ?_
    exact whenGiven (fun qer value => { qer with qfi := value })
      (fun value _ => takes_u8 value)
  exact gives_gather gathers wellFormed.fits

end CreateQer

namespace CreateUrr

structure WellFormed (urr : CreateUrr) : Prop where
  volumeThreshold : ∀ threshold ∈ urr.volumeThreshold, threshold.WellFormed
  fits : Fits urr.ies

lemma gives {urr : CreateUrr} (wellFormed : urr.WellFormed) :
  Gives decode urr.encode urr := by
  have gathers : Gathers arms
      (new 0 MeasurementMethod.default ReportingTriggers.default) urr.ies urr := by
    refine (one (takes_u32 _)).append ?_
    refine (one (takes_octet (MeasurementMethod.decode_encode _))).append ?_
    refine (one (takes_parsed (ReportingTriggers.decode_encode _))).append ?_
    refine (whenGiven (fun urr value => { urr with measurementPeriod := value })
      (fun value _ => takes_u32 value)).append ?_
    refine (whenGiven (fun urr value => { urr with volumeThreshold := value })
      (reads_all VolumeThreshold.readsBack wellFormed.volumeThreshold)).append ?_
    exact whenGiven (fun urr value => { urr with timeThreshold := value })
      (fun value _ => takes_u32 value)
  exact gives_gather gathers wellFormed.fits

end CreateUrr

lemma CreateBar.gives {bar : CreateBar} (fits : Fits bar.ies) :
  Gives decode bar.encode bar := by
  have gathers : Gathers arms (new 0) bar.ies bar := by
    refine (one (takes_u8 _)).append ?_
    refine (whenGiven (fun bar value => { bar with downlinkDataNotificationDelay := value })
      (fun value _ => takes_u8 value)).append ?_
    exact whenGiven (fun bar value => { bar with suggestedBufferingPacketsCount := value })
      (fun value _ => takes_u8 value)
  exact gives_gather gathers fits

namespace UsageReportSrr

structure WellFormed (report : UsageReportSrr) : Prop where
  usageReportTrigger : ∀ trigger ∈ report.usageReportTrigger, trigger.toNat < 2 ^ 24
  volumeMeasurement : ∀ measurement ∈ report.volumeMeasurement, measurement.WellFormed
  fits : Fits report.ies

lemma decodeTrigger_encodeTrigger {trigger : UInt32} (small : trigger.toNat < 2 ^ 24) :
  decodeTrigger (encodeTrigger trigger) = .ok trigger := by
  have low : trigger.toNat % 256 < 2 ^ 8 := Nat.mod_lt _ (by decide)
  have middle : trigger.toNat / 256 % 256 * 256 % 4294967296 < 2 ^ 16 := by omega
  have high : trigger.toNat / 65536 % 256 * 65536 % 4294967296 =
      2 ^ 16 * (trigger.toNat / 65536) := by
    rw [Nat.mul_comm (2 ^ 16)]
    omega
  have parts : 2 ^ 16 * (trigger.toNat / 65536) + trigger.toNat / 256 % 256 * 256 % 4294967296 =
      2 ^ 8 * (trigger.toNat / 256) := by omega
  unfold decodeTrigger encodeTrigger
  refine congrArg Except.ok (UInt32.toNat_inj.mp ?_)
  simp only [UInt32.toNat_or, UInt32.toNat_shiftLeft, toNat_toUInt32, UInt32.toNat_toUInt8,
    UInt32.toNat_shiftRight, UInt32.toNat_ofNat, Nat.reducePow, Nat.reduceMod,
    Nat.shiftRight_eq_div_pow, Nat.shiftLeft_eq]
  rw [high, ← Nat.two_pow_add_eq_or_of_lt middle, parts, ← Nat.two_pow_add_eq_or_of_lt low]
  exact Nat.div_add_mod _ _

lemma gives {report : UsageReportSrr} (wellFormed : report.WellFormed) :
  Gives decode report.encode report := by
  have takesTrigger (value : UInt32) (found : report.usageReportTrigger = some value) :=
    takes_parsed (decodeTrigger_encodeTrigger (wellFormed.usageReportTrigger value found))
  have gathers : Gathers arms (new 0) report.ies report := by
    refine (one (takes_u32 _)).append ?_
    refine (whenGiven (fun report value => { report with urSeqn := value })
      (fun value _ => takes_u32 value)).append ?_
    refine (whenGiven (fun report value => { report with usageReportTrigger := value })
      takesTrigger).append ?_
    refine (whenGiven (fun report value => { report with volumeMeasurement := value })
      (reads_all VolumeMeasurement.readsBack wellFormed.volumeMeasurement)).append ?_
    refine (whenGiven (fun report value => { report with durationMeasurement := value })
      (fun value _ => takes_u32 value)).append ?_
    refine (whenGiven (fun report value => { report with startTime := value })
      (fun value _ => takes_u32 value)).append ?_
    exact whenGiven (fun report value => { report with endTime := value })
      (fun value _ => takes_u32 value)
  exact gives_gather gathers wellFormed.fits

end UsageReportSrr

lemma DownlinkDataReport.gives {report : DownlinkDataReport} (fits : Fits report.ies) :
  Gives decode report.encode report := by
  have gathers : Gathers arms ⟨0⟩ report.ies report := one (takes_u16 _)
  exact gives_gather gathers fits

lemma firstOf_putU8 (octet : UInt8) : firstOf (putU8 octet) = .ok octet := by
  rw [putU8_eq]
  rfl

lemma NodeReportType.decode_encode (report : NodeReportType) :
  decode report.encode = .ok report := by
  have bits := testBit_flagsOctet (show [report.upfr, report.uprr, report.ckdr,
    report.gpqr].length ≤ 8 by simp)
  unfold decode encode
  rw [firstOf_putU8]
  refine congrArg Except.ok ?_
  simp only [bits]
  rfl

lemma RemoteGtpUPeer.readsBack (peer : RemoteGtpUPeer) :
  ReadsBack id decode peer.encode peer := by
  unfold decode encode
  refine (readsBack_checkedU8 _).bind ?_
  have bits := testBit_flagsOctet (show [peer.ipv4.isSome, peer.ipv6.isSome].length ≤ 8 by simp)
  simp only [bits]
  exact (readsBack_addressIf rfl).bind (readsBack_addressIf rfl).last

lemma UserPlanePathFailureReport.gives {report : UserPlanePathFailureReport}
  (fits : Fits report.ies) : Gives decode report.encode report := by
  have gathers : Gathers arms ⟨[]⟩ report.ies report :=
    every (fun report values => { report with remoteGtpuPeers := values })
      (fun value _ => takes_whole value.readsBack.gives)
  exact gives_gather gathers fits

lemma PfcpAssociationReleaseRequest.decode_encode (release : PfcpAssociationReleaseRequest) :
  decode release.encode = .ok release := by
  have bits := testBit_flagsOctet (show [release.sarr, release.urss].length ≤ 8 by simp)
  unfold decode encode
  rw [firstOf_putU8]
  refine congrArg Except.ok ?_
  simp only [bits]
  rfl

namespace GracefulReleasePeriod

structure WellFormed (period : GracefulReleasePeriod) : Prop where
  timerValue : period.timerValue.toNat < 32
  timerUnit : period.timerUnit.toNat < 8

lemma unpacked : ∀ value < 32, ∀ timerUnit < 8,
  let octet := (ofNat value &&& 0x1F) ||| (ofNat timerUnit &&& 0x07) <<< (5 : UInt8)
  octet &&& 0x1F = ofNat value ∧ octet >>> 5 &&& 0x07 = ofNat timerUnit := by
  decide

lemma decode_encode {period : GracefulReleasePeriod} (wellFormed : period.WellFormed) :
  decode period.encode = .ok period := by
  obtain ⟨value, timerUnit⟩ := period
  have parts := unpacked value.toNat wellFormed.timerValue timerUnit.toNat wellFormed.timerUnit
  rw [UInt8.ofNat_toNat, UInt8.ofNat_toNat] at parts
  unfold decode encode
  rw [firstOf_putU8]
  change Except.ok (GracefulReleasePeriod.mk _ _) = _
  rw [parts.1, parts.2]

end GracefulReleasePeriod

namespace PfdContents

structure WellFormed (contents : PfdContents) : Prop where
  flowDescription : ∀ text ∈ contents.flowDescription, text.length < 2 ^ 16
  url : ∀ text ∈ contents.url, text.length < 2 ^ 16
  domainName : ∀ text ∈ contents.domainName, text.length < 2 ^ 16
  customPfdContent : ∀ text ∈ contents.customPfdContent, text.length < 2 ^ 16
  domainNameProtocol : ∀ text ∈ contents.domainNameProtocol, text.length < 2 ^ 16
  additionalFlowDescription : ∀ text ∈ contents.additionalFlowDescription, text.length < 2 ^ 16
  additionalUrl : ∀ text ∈ contents.additionalUrl, text.length < 2 ^ 16
  additionalDomainNameAndProtocol :
    ∀ text ∈ contents.additionalDomainNameAndProtocol, text.length < 2 ^ 16

lemma readsBack_readLv {text : Bytes} (short : text.length < 2 ^ 16) :
  ReadsBack id readLv (putLv text) text := by
  have declared : (UInt16.ofNat text.length).toNat = text.length :=
    UInt16.toNat_ofNat_of_lt' short
  unfold readLv putLv
  refine (readsBack_checkedU16 _).bind ?_
  rw [declared]
  exact readsBack_checked (readsBack_copyToBytes text) le_rfl

lemma readsBack_lvIf {text : Option Bytes} (short : ∀ found ∈ text, found.length < 2 ^ 16) :
  ReadsBack id (givenIf text.isSome readLv) (putSome putLv text) text :=
  readsBack_givenIf rfl fun found there => readsBack_readLv (short found there)

lemma readsBack {contents : PfdContents} (wellFormed : contents.WellFormed) :
  ReadsBack id decode contents.encode contents := by
  have bits := testBit_flagsOctet (show [contents.flowDescription.isSome, contents.url.isSome,
    contents.domainName.isSome, contents.customPfdContent.isSome,
    contents.domainNameProtocol.isSome, contents.additionalFlowDescription.isSome,
    contents.additionalUrl.isSome, contents.additionalDomainNameAndProtocol.isSome].length ≤ 8
      by simp)
  unfold decode encode
  refine ReadsBack.require ?_ (by simp only [List.length_append, length_beOctets]; omega)
  refine (readsBack_getU8 _).bind ((readsBack_getU8 0).bind ?_)
  simp only [bits]
  exact (readsBack_lvIf wellFormed.flowDescription).bind ((readsBack_lvIf wellFormed.url).bind
    ((readsBack_lvIf wellFormed.domainName).bind ((readsBack_lvIf wellFormed.customPfdContent).bind
        ((readsBack_lvIf wellFormed.domainNameProtocol).bind
          ((readsBack_lvIf wellFormed.additionalFlowDescription).bind
            ((readsBack_lvIf wellFormed.additionalUrl).bind
              (readsBack_lvIf wellFormed.additionalDomainNameAndProtocol).last))))))

end PfdContents

namespace PfdContext

structure WellFormed (context : PfdContext) : Prop where
  pfdContents : ∀ contents ∈ context.pfdContents, contents.WellFormed
  fits : Fits context.ies

lemma gives {context : PfdContext} (wellFormed : context.WellFormed) :
  Gives decode context.encode context := by
  have gathers : Gathers arms ⟨[]⟩ context.ies context := by
    exact every (fun context values => { context with pfdContents := values })
        (reads_all PfdContents.readsBack wellFormed.pfdContents)
  exact gives_gather gathers wellFormed.fits

end PfdContext

namespace ApplicationIdsPfds

structure WellFormed (pfds : ApplicationIdsPfds) : Prop where
  pfdContexts : ∀ context ∈ pfds.pfdContexts, context.WellFormed
  fits : Fits pfds.ies

lemma gives {pfds : ApplicationIdsPfds} (wellFormed : pfds.WellFormed) :
  Gives decode pfds.encode pfds := by
  have gathers : Gathers arms ⟨none, []⟩ pfds.ies ⟨some pfds.applicationId, pfds.pfdContexts⟩ := by
    refine (one (takes_parsed rfl)).append ?_
    exact every (fun pfds values => { pfds with pfdContexts := values })
        (takes_all PfdContext.gives wellFormed.pfdContexts)
  exact gives_gather_bind gathers wellFormed.fits rfl

end ApplicationIdsPfds

lemma PfdPartialFailureInformation.gives {info : PfdPartialFailureInformation}
  (fits : Fits info.ies) : Gives decode info.encode info := by
  have gathers : Gathers arms ⟨none, none⟩ info.ies
      ⟨some info.applicationId, some info.failureCause⟩ :=
    (one (takes_parsed rfl)).append (one (takes_cause _))
  exact gives_gather_bind gathers fits rfl

lemma FqCsidNodeIdType.tryFrom_toU8 (nodeIdType : FqCsidNodeIdType) :
  tryFrom nodeIdType.toU8 = .ok nodeIdType := by
  cases nodeIdType <;> rfl

lemma FqCsidNodeType.tryFrom_toU8 (nodeType : FqCsidNodeType) :
  tryFrom (nodeType.toU8 &&& 0x0F &&& 0x0F) = some nodeType := by
  cases nodeType <;> rfl

namespace FqCsid

variable {fqCsid : FqCsid}

/-- The address is there that the type names, and the number of identifiers fits in four bits. -/
structure WellFormed (fqCsid : FqCsid) : Prop where
  ipv4 : fqCsid.ipv4Addr.isSome ↔ fqCsid.nodeIdType ≠ .ipv6
  ipv6 : fqCsid.ipv6Addr.isSome ↔ fqCsid.nodeIdType = .ipv6
  csids : fqCsid.csids.length ≤ 15

lemma unpacked (nodeIdType : FqCsidNodeIdType) : ∀ count ≤ 15,
  let octet := nodeIdType.toU8 <<< 4 ||| ofNat count
  octet >>> 4 = nodeIdType.toU8 ∧ (octet &&& 0x0F).toNat = count := by
  cases nodeIdType <;> decide

lemma readsBack_decodeAddress (wellFormed : fqCsid.WellFormed) :
  ReadsBack id (decodeAddress fqCsid.nodeIdType) fqCsid.encodeAddress
    (fqCsid.ipv4Addr, fqCsid.ipv6Addr) := by
  obtain ⟨nodeIdType, ipv4Addr, ipv6Addr, csids, nodeType⟩ := fqCsid
  obtain ⟨ipv4, ipv6, -⟩ := wellFormed
  cases ipv4Addr with
  | none =>
    obtain rfl : nodeIdType = .ipv6 := by simpa using ipv4
    obtain ⟨addr, rfl⟩ := Option.isSome_iff_exists.mp (ipv6.mpr rfl)
    exact (readsBack_address addr).last
  | some addr =>
    have other : nodeIdType ≠ .ipv6 := ipv4.mp rfl
    obtain rfl : ipv6Addr = none := by simpa [other] using ipv6
    cases nodeIdType with
    | ipv4 => exact (readsBack_address addr).last
    | ipv6 => exact absurd rfl other
    | other => exact (readsBack_address addr).last

lemma readsBack_csids (csids : List UInt16) :
  ReadsBack id (Reading.times (checked PfcpError.bufferTooShort 2 getU16) csids.length)
    (csids.flatMap putU16) csids := by
  induction csids with
  | nil => exact ReadsBack.pure []
  | cons csid rest ih =>
    exact (readsBack_checkedU16 csid).bind ih.last

lemma gives (wellFormed : fqCsid.WellFormed) : Gives decode fqCsid.encode fqCsid := by
  have few : min fqCsid.csids.length 0x0F = fqCsid.csids.length := min_eq_left wellFormed.csids
  obtain ⟨high, count⟩ := unpacked fqCsid.nodeIdType _ wellFormed.csids
  have type : FqCsidNodeIdType.tryFrom
      ((fqCsid.nodeIdType.toU8 <<< 4 ||| ofNat fqCsid.csids.length) >>> 4) =
      .ok fqCsid.nodeIdType := by
    rw [high, FqCsidNodeIdType.tryFrom_toU8]
  unfold decode encode
  simp only [few, List.take_length]
  refine Gives.bind (readsBack_checkedU8 _) (Gives.skip (ReadsBack.lift type) ?_)
  rw [count]
  refine Gives.bind (readsBack_decodeAddress wellFormed) (Gives.bind (readsBack_csids _) ?_)
  obtain ⟨nodeIdType, ipv4Addr, ipv6Addr, csids, nodeType⟩ := fqCsid
  cases nodeType with
  | none => exact ⟨[], Reading.bind_eq (ifLeft_nil Nat.one_pos)⟩
  | some nodeType =>
    have read : ReadsBack id (ifLeft 1 none (do
        let octet ← getU8
        pure (FqCsidNodeType.tryFrom (octet &&& 0x0F))) : Decoding (Option FqCsidNodeType))
        (putU8 (nodeType.toU8 &&& 0x0F)) (some nodeType) := by
      refine readsBack_ifLeft ?_ (by simp)
      rw [← FqCsidNodeType.tryFrom_toU8]
      exact (readsBack_getU8 _).last
    exact read.last.gives

end FqCsid

lemma CpIpAddress.readsBack (addr : CpIpAddress) : ReadsBack id decode addr.encode addr := by
  unfold decode encode
  refine (readsBack_checkedU8 _).bind ?_
  have bits := testBit_flagsOctet (show [addr.ipv6.isSome, addr.ipv4.isSome].length ≤ 8 by simp)
  simp only [bits]
  exact (readsBack_addressIf rfl).bind (readsBack_addressIf rfl).last

lemma AlternativeSmfIpAddress.readsBack (addr : AlternativeSmfIpAddress) :
  ReadsBack id decode addr.encode addr := by
  unfold decode encode
  refine (readsBack_checkedU8 _).bind ?_
  have bits := testBit_flagsOctet
    (show [addr.ipv6.isSome, addr.ipv4.isSome, addr.ppe].length ≤ 8 by simp)
  simp only [bits]
  exact (readsBack_addressIf rfl).bind (readsBack_addressIf rfl).last

namespace PfcpSessionChangeInfo

structure WellFormed (info : PfcpSessionChangeInfo) : Prop where
  pgwCSmfFqCsids : ∀ fqCsid ∈ info.pgwCSmfFqCsids, fqCsid.WellFormed
  fits : Fits info.ies

lemma gives {info : PfcpSessionChangeInfo} (wellFormed : info.WellFormed) :
  Gives decode info.encode info := by
  have gathers : Gathers arms ⟨[], [], [], none⟩ info.ies ⟨info.pgwCSmfFqCsids, info.groupIds,
      info.cpIpAddresses, some info.alternativeSmfIpAddress⟩ := by
    refine (every (fun (fields : Fields) values => { fields with pgwCSmfFqCsids := values })
      (takes_all FqCsid.gives wellFormed.pgwCSmfFqCsids)).append ?_
    refine (every (fun (fields : Fields) values => { fields with groupIds := values })
      (fun _ _ => takes_parsed rfl)).append ?_
    refine (every (fun (fields : Fields) values => { fields with cpIpAddresses := values })
      (fun value _ => takes_whole value.readsBack.gives)).append ?_
    exact one (takes_whole (AlternativeSmfIpAddress.readsBack _).gives)
  exact gives_gather_bind gathers wellFormed.fits rfl

end PfcpSessionChangeInfo

end NextGCore.Pfcp
