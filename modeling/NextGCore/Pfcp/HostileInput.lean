import NextGCore.Pfcp.Totality

/-!
# Octets that make a decoder panic

All the decoders side by side.  Each of them answers every input, but for the one of packet rates:
it panics exactly when fewer octets follow the flags than they announce.
-/

namespace NextGCore.Pfcp

open Library

inductive Decoder where
  | ieHeader
  | rawIe
  | durationMeasurement
  | usageReportTrigger
  | packetRate
  | qerControlIndications
  | measurementInformation
  | nodeId
  | fSeid
  | fTeid
  | ueIpAddress
  | outerHeaderRemoval
  | outerHeaderCreation
  | bitrate
  | volumeThreshold
  | volumeMeasurement
  | reportingTriggers
  | upFunctionFeatures
  | cpFunctionFeatures
  | loadControlInformation
  | pdi
  | createPdr
  | updatePdr
  | removePdr
  | createdPdr
  | forwardingParameters
  | createFar
  | updateFar
  | removeFar
  | createQer
  | createUrr
  | createBar
  | usageReportSrr
  | downlinkDataReport
  | nodeReportType
  | remoteGtpUPeer
  | userPlanePathFailureReport
  | pfcpAssociationReleaseRequest
  | gracefulReleasePeriod
  | applicationId
  | pfdContents
  | pfdContext
  | applicationIdsPfds
  | pfdPartialFailureInformation
  | fqCsid
  | groupId
  | cpIpAddress
  | alternativeSmfIpAddress
  | pfcpSessionChangeInfo
  | header
  | body (messageType : PfcpMessageType)
  | message
  deriving DecidableEq

namespace Decoder

def outcome {Value : Type} (result : Except (Fault PfcpError) Value) :
  Except (Fault PfcpError) Unit :=
  result.map fun _ => ()

def run : Decoder → Bytes → Except (Fault PfcpError) Unit
  | ieHeader, octets => outcome (IeHeader.decode octets)
  | rawIe, octets => outcome (RawIe.decode octets)
  | durationMeasurement, octets => outcome (DurationMeasurement.decode octets)
  | usageReportTrigger, octets => outcome (UsageReportTrigger.decode octets)
  | packetRate, octets => outcome (PacketRate.decode octets)
  | qerControlIndications, octets => outcome (QerControlIndications.decode octets)
  | measurementInformation, octets => outcome (MeasurementInformation.decode octets)
  | nodeId, octets => outcome (NodeId.decode octets)
  | fSeid, octets => outcome (FSeid.decode octets)
  | fTeid, octets => outcome (FTeid.decode octets)
  | ueIpAddress, octets => outcome (UeIpAddress.decode octets)
  | outerHeaderRemoval, octets => outcome (OuterHeaderRemoval.decode octets)
  | outerHeaderCreation, octets => outcome (OuterHeaderCreation.decode octets)
  | bitrate, octets => outcome (Bitrate.decode octets)
  | volumeThreshold, octets => outcome (VolumeThreshold.decode octets)
  | volumeMeasurement, octets => outcome (VolumeMeasurement.decode octets)
  | reportingTriggers, octets => outcome (ReportingTriggers.decode octets)
  | upFunctionFeatures, octets => outcome (UpFunctionFeatures.decode octets)
  | cpFunctionFeatures, octets => outcome (CpFunctionFeatures.decode octets)
  | loadControlInformation, octets => outcome (LoadControlInformation.decode octets)
  | pdi, octets => outcome (Pdi.decode octets)
  | createPdr, octets => outcome (CreatePdr.decode octets)
  | updatePdr, octets => outcome (UpdatePdr.decode octets)
  | removePdr, octets => outcome (RemovePdr.decode octets)
  | createdPdr, octets => outcome (CreatedPdr.decode octets)
  | forwardingParameters, octets => outcome (ForwardingParameters.decode octets)
  | createFar, octets => outcome (CreateFar.decode octets)
  | updateFar, octets => outcome (UpdateFar.decode octets)
  | removeFar, octets => outcome (RemoveFar.decode octets)
  | createQer, octets => outcome (CreateQer.decode octets)
  | createUrr, octets => outcome (CreateUrr.decode octets)
  | createBar, octets => outcome (CreateBar.decode octets)
  | usageReportSrr, octets => outcome (UsageReportSrr.decode octets)
  | downlinkDataReport, octets => outcome (DownlinkDataReport.decode octets)
  | nodeReportType, octets => outcome (NodeReportType.decode octets)
  | remoteGtpUPeer, octets => outcome (RemoteGtpUPeer.decode octets)
  | userPlanePathFailureReport, octets => outcome (UserPlanePathFailureReport.decode octets)
  | pfcpAssociationReleaseRequest, octets =>
    outcome (PfcpAssociationReleaseRequest.decode octets)
  | gracefulReleasePeriod, octets => outcome (GracefulReleasePeriod.decode octets)
  | applicationId, octets => outcome (ApplicationId.decode octets)
  | pfdContents, octets => outcome (PfdContents.decode octets)
  | pfdContext, octets => outcome (PfdContext.decode octets)
  | applicationIdsPfds, octets => outcome (ApplicationIdsPfds.decode octets)
  | pfdPartialFailureInformation, octets => outcome (PfdPartialFailureInformation.decode octets)
  | fqCsid, octets => outcome (FqCsid.decode octets)
  | groupId, octets => outcome (GroupId.decode octets)
  | cpIpAddress, octets => outcome (CpIpAddress.decode octets)
  | alternativeSmfIpAddress, octets => outcome (AlternativeSmfIpAddress.decode octets)
  | pfcpSessionChangeInfo, octets => outcome (PfcpSessionChangeInfo.decode octets)
  | header, octets => outcome (PfcpHeader.decode octets)
  | body messageType, octets => outcome (PfcpMessage.decodeBody messageType octets)
  | message, octets => outcome (parseMessage octets)

lemma outcome_ne_panic {Value : Type} {result : Except (Fault PfcpError) Value} :
  outcome result ≠ .error .panic ↔ result ≠ .error .panic := by
  cases result with
  | ok value => exact iff_of_true nofun nofun
  | error fault => cases fault <;> simp [outcome, Except.map]

lemma calm {Value : Type} {result : Except (Fault PfcpError) Value}
  (safe : result ≠ .error .panic) : outcome result ≠ .error .panic :=
  outcome_ne_panic.mpr safe

end Decoder

namespace PacketRate

variable {octets : Bytes} {present : Bool}

def announced (flags : UInt8) : ℕ :=
  3 * (flags.toNat.testBit 0).toNat + 3 * (flags.toNat.testBit 1).toNat

def Complete : Bytes → Prop
  | [] => True
  | flags :: rest => announced flags ≤ rest.length

lemma decodeRate_eq (enough : 3 ≤ octets.length) :
  ∃ rate, decodeRate octets = .ok (rate, octets.drop 3) := by
  match octets, enough with
  | _ :: _ :: _ :: _, _ => exact ⟨_, rfl⟩

lemma decodeRate_panics (short : octets.length < 3) : decodeRate octets = .error .panic := by
  match octets, short with
  | [], _ => rfl
  | [_], _ => rfl
  | [_, _], _ => rfl

lemma givenIf_decodeRate_eq (enough : 3 * present.toNat ≤ octets.length) :
  ∃ rate, givenIf present decodeRate octets = .ok (rate, octets.drop (3 * present.toNat)) := by
  cases present with
  | false => exact ⟨none, rfl⟩
  | true =>
    obtain ⟨rate, answer⟩ := decodeRate_eq enough
    exact ⟨some rate, Reading.bind_eq answer⟩

lemma givenIf_decodeRate_panics (short : octets.length < 3 * present.toNat) :
  givenIf present decodeRate octets = .error .panic := by
  cases present with
  | false => exact absurd short (Nat.not_lt_zero _)
  | true => exact bind_panics (decodeRate_panics short)

def decodeRates (uplink downlink : Bool) : Decoding PacketRate := do
  let uplink ← givenIf uplink decodeRate
  let downlink ← givenIf downlink decodeRate
  pure ⟨uplink.map Prod.fst, uplink.map Prod.snd, downlink.map Prod.fst, downlink.map Prod.snd⟩

lemma decode_cons (flags : UInt8) (rest : Bytes) : decode (flags :: rest) =
    decodeRates (flags.toNat.testBit 0) (flags.toNat.testBit 1) rest := by
  have reads : ReadsBack id (checked PfcpError.bufferTooShort 1 getU8) (putU8 flags) flags :=
    readsBack_checked (readsBack_getU8 flags) (by simp)
  rw [putU8_eq] at reads
  exact Reading.bind_eq (reads.answer rest)

lemma decodeRates_ne_panic_iff {uplink downlink : Bool} :
  decodeRates uplink downlink octets ≠ .error .panic ↔
    3 * uplink.toNat + 3 * downlink.toNat ≤ octets.length := by
  rw [decodeRates]
  by_cases first : 3 * uplink.toNat ≤ octets.length
  · obtain ⟨rate, answer⟩ := givenIf_decodeRate_eq first
    rw [Reading.bind_eq answer]
    by_cases second : 3 * downlink.toNat ≤ (octets.drop (3 * uplink.toNat)).length
    · obtain ⟨rate', answer'⟩ := givenIf_decodeRate_eq second
      rw [Reading.bind_eq answer']
      rw [List.length_drop] at second
      exact iff_of_true nofun (by omega)
    · rw [bind_panics (givenIf_decodeRate_panics (Nat.not_le.mp second))]
      rw [List.length_drop] at second
      exact iff_of_false (fun answers => answers rfl) (by omega)
  · rw [bind_panics (givenIf_decodeRate_panics (Nat.not_le.mp first))]
    exact iff_of_false (fun answers => answers rfl) (by omega)

lemma decode_ne_panic_iff (octets : Bytes) :
  decode octets ≠ .error .panic ↔ Complete octets := by
  cases octets with
  | nil => exact iff_of_true nofun trivial
  | cons flags rest =>
    rw [decode_cons]
    exact decodeRates_ne_panic_iff

end PacketRate

namespace Decoder

lemma run_ne_panic {decoder : Decoder} (other : decoder ≠ .packetRate) (octets : Bytes) :
  decoder.run octets ≠ .error .panic := by
  cases decoder with
  | packetRate => exact absurd rfl other
  | ieHeader => exact calm (IeHeader.safe_decode octets)
  | rawIe => exact calm (RawIe.safe_decode octets)
  | durationMeasurement => exact calm (DurationMeasurement.safe_decode octets)
  | usageReportTrigger => exact calm (UsageReportTrigger.safe_decode octets)
  | qerControlIndications | measurementInformation => exact calm (neverPanics_ofFirst _ octets)
  | nodeId => exact calm (NodeId.safe_decode octets)
  | fSeid => exact calm (FSeid.safe_decode octets)
  | fTeid => exact calm (FTeid.safe_decode octets)
  | ueIpAddress => exact calm (UeIpAddress.safe_decode octets)
  | outerHeaderRemoval => exact calm (OuterHeaderRemoval.safe_decode octets)
  | outerHeaderCreation => exact calm (OuterHeaderCreation.safe_decode octets)
  | bitrate => exact calm (Bitrate.safe_decode octets)
  | volumeThreshold => exact calm (VolumeThreshold.safe_decode octets)
  | volumeMeasurement => exact calm (VolumeMeasurement.safe_decode octets)
  | reportingTriggers => exact calm (ReportingTriggers.neverPanics_decode octets)
  | upFunctionFeatures => exact calm (UpFunctionFeatures.safe_decode octets)
  | cpFunctionFeatures => exact calm (CpFunctionFeatures.neverPanics_decode octets)
  | loadControlInformation => exact calm (LoadControlInformation.safe_decode octets)
  | pdi => exact calm (Pdi.safe_decode octets)
  | createPdr => exact calm (CreatePdr.safe_decode octets)
  | updatePdr => exact calm (UpdatePdr.safe_decode octets)
  | removePdr => exact calm (RemovePdr.safe_decode octets)
  | createdPdr => exact calm (CreatedPdr.safe_decode octets)
  | forwardingParameters => exact calm (ForwardingParameters.safe_decode octets)
  | createFar => exact calm (CreateFar.safe_decode octets)
  | updateFar => exact calm (UpdateFar.safe_decode octets)
  | removeFar => exact calm (RemoveFar.safe_decode octets)
  | createQer => exact calm (CreateQer.safe_decode octets)
  | createUrr => exact calm (CreateUrr.safe_decode octets)
  | createBar => exact calm (CreateBar.safe_decode octets)
  | usageReportSrr => exact calm (UsageReportSrr.safe_decode octets)
  | downlinkDataReport => exact calm (DownlinkDataReport.safe_decode octets)
  | nodeReportType => exact calm (NodeReportType.neverPanics_decode octets)
  | remoteGtpUPeer => exact calm (RemoteGtpUPeer.safe_decode octets)
  | userPlanePathFailureReport => exact calm (UserPlanePathFailureReport.safe_decode octets)
  | pfcpAssociationReleaseRequest =>
    exact calm (PfcpAssociationReleaseRequest.neverPanics_decode octets)
  | gracefulReleasePeriod => exact calm (GracefulReleasePeriod.neverPanics_decode octets)
  | applicationId => exact calm (ApplicationId.neverPanics_decode octets)
  | pfdContents => exact calm (PfdContents.safe_decode octets)
  | pfdContext => exact calm (PfdContext.safe_decode octets)
  | applicationIdsPfds => exact calm (ApplicationIdsPfds.safe_decode octets)
  | pfdPartialFailureInformation => exact calm (PfdPartialFailureInformation.safe_decode octets)
  | fqCsid => exact calm (FqCsid.safe_decode octets)
  | groupId => exact calm (GroupId.neverPanics_decode octets)
  | cpIpAddress => exact calm (CpIpAddress.safe_decode octets)
  | alternativeSmfIpAddress => exact calm (AlternativeSmfIpAddress.safe_decode octets)
  | pfcpSessionChangeInfo => exact calm (PfcpSessionChangeInfo.safe_decode octets)
  | header => exact calm (PfcpHeader.safe_decode octets)
  | body messageType => exact calm (PfcpMessage.safe_decodeBody messageType octets)
  | message => exact calm (safe_parseMessage octets)

/-- On any octets every decoder answers, unless it is that of packet rates and they are not
complete. -/
theorem run_answers_iff (decoder : Decoder) (octets : Bytes) : decoder.run octets ≠ .error .panic ↔
    (decoder = .packetRate → PacketRate.Complete octets) := by
  by_cases other : decoder = .packetRate
  · subst other
    have exact' : Decoder.packetRate.run octets ≠ .error .panic ↔ PacketRate.Complete octets :=
      outcome_ne_panic.trans (PacketRate.decode_ne_panic_iff octets)
    exact exact'.trans ⟨fun complete _ => complete, fun complete => complete rfl⟩
  · exact iff_of_true (run_ne_panic other octets) fun same => absurd same other

/-- The flags announce a rate, and nothing follows. -/
theorem packetRate_panics : ¬ ∀ decoder octets, Decoder.run decoder octets ≠ .error .panic := by
  intro answers
  exact answers .packetRate [0x01] rfl

end Decoder

end NextGCore.Pfcp
