import NextGCore.Pfcp.GroupRoundTrip
import NextGCore.Pfcp.Message

/-!
# Round trips of messages
-/

namespace NextGCore.Pfcp

open Library Gathers ReadsBack

namespace HeartbeatRequest

structure WellFormed (message : HeartbeatRequest) : Prop where
  loadControlInformation : ∀ value ∈ message.loadControlInformation, Fits value.ies
  fits : Fits message.ies

lemma gives {message : HeartbeatRequest} (wellFormed : message.WellFormed) :
  Gives decode message.encode message := by
  have gathers : Gathers arms (new 0) message.ies message := by
    refine (one (takes_u32 _)).append ?_
    exact whenGiven (fun message value => { message with loadControlInformation := value })
      (takes_all LoadControlInformation.gives wellFormed.loadControlInformation)
  exact gives_gather gathers wellFormed.fits

end HeartbeatRequest

namespace HeartbeatResponse

lemma gives {message : HeartbeatResponse} (fits : Fits message.ies) :
  Gives decode message.encode message := by
  have gathers : Gathers arms ⟨0⟩ message.ies message :=
    one (takes_u32 _)
  exact gives_gather gathers fits

end HeartbeatResponse

namespace AssociationSetupRequest

structure WellFormed (message : AssociationSetupRequest) : Prop where
  nodeId : message.nodeId.WellFormed
  fits : Fits message.ies

lemma gives {message : AssociationSetupRequest} (wellFormed : message.WellFormed) :
  Gives decode message.encode message := by
  have gathers : Gathers arms ⟨none, 0, none, none⟩ message.ies
      ⟨some message.nodeId, message.recoveryTimeStamp, message.upFunctionFeatures,
        message.cpFunctionFeatures⟩ := by
    refine (one (NodeId.takes wellFormed.nodeId)).append ?_
    refine (one (takes_u32 _)).append ?_
    refine (whenGiven (fun (fields : Fields) value => { fields with
      upFunctionFeatures := value }) (fun value _ => takes_whole value.gives)).append ?_
    exact whenGiven (fun (fields : Fields) value =>
      { fields with cpFunctionFeatures := value }) (fun value _ => takes_parsed value.decode_encode)
  exact gives_gather_bind gathers wellFormed.fits rfl

end AssociationSetupRequest

namespace AssociationSetupResponse

structure WellFormed (message : AssociationSetupResponse) : Prop where
  nodeId : message.nodeId.WellFormed
  fits : Fits message.ies

lemma gives {message : AssociationSetupResponse} (wellFormed : message.WellFormed) :
  Gives decode message.encode message := by
  have gathers : Gathers arms ⟨none, none, 0, none, none⟩ message.ies
      ⟨some message.nodeId, some message.cause, message.recoveryTimeStamp,
        message.upFunctionFeatures, message.cpFunctionFeatures⟩ := by
    refine (one (NodeId.takes wellFormed.nodeId)).append ?_
    refine (one (takes_cause _)).append ?_
    refine (one (takes_u32 _)).append ?_
    refine (whenGiven (fun (fields : Fields) value => { fields with
      upFunctionFeatures := value }) (fun value _ => takes_whole value.gives)).append ?_
    exact whenGiven (fun (fields : Fields) value =>
      { fields with cpFunctionFeatures := value }) (fun value _ => takes_parsed value.decode_encode)
  exact gives_gather_bind gathers wellFormed.fits rfl

end AssociationSetupResponse

namespace AssociationReleaseRequest

structure WellFormed (message : AssociationReleaseRequest) : Prop where
  nodeId : message.nodeId.WellFormed
  fits : Fits message.ies

lemma gives {message : AssociationReleaseRequest} (wellFormed : message.WellFormed) :
  Gives decode message.encode message := by
  have gathers : Gathers arms none message.ies (some message.nodeId) :=
    one (NodeId.takes wellFormed.nodeId)
  exact gives_gather_bind gathers wellFormed.fits rfl

end AssociationReleaseRequest

namespace AssociationReleaseResponse

structure WellFormed (message : AssociationReleaseResponse) : Prop where
  nodeId : message.nodeId.WellFormed
  fits : Fits message.ies

lemma gives {message : AssociationReleaseResponse} (wellFormed : message.WellFormed) :
  Gives decode message.encode message := by
  have gathers : Gathers arms ⟨none, none⟩ message.ies
      ⟨some message.nodeId, some message.cause⟩ := by
    refine (one (NodeId.takes wellFormed.nodeId)).append ?_
    exact one (takes_cause _)
  exact gives_gather_bind gathers wellFormed.fits rfl

end AssociationReleaseResponse

namespace AssociationUpdateRequest

structure WellFormed (message : AssociationUpdateRequest) : Prop where
  nodeId : message.nodeId.WellFormed
  gracefulReleasePeriod : ∀ value ∈ message.gracefulReleasePeriod, value.WellFormed
  fits : Fits message.ies

lemma gives {message : AssociationUpdateRequest} (wellFormed : message.WellFormed) :
  Gives decode message.encode message := by
  have takesGracefulReleasePeriod (value : GracefulReleasePeriod)
      (found : message.gracefulReleasePeriod = some value) :=
    takes_parsed (GracefulReleasePeriod.decode_encode
      (wellFormed.gracefulReleasePeriod value found))
  have gathers : Gathers arms ⟨none, none, none, none, none⟩ message.ies
      ⟨some message.nodeId, message.upFunctionFeatures, message.cpFunctionFeatures,
        message.pfcpAssociationReleaseRequest, message.gracefulReleasePeriod⟩ := by
    refine (one (NodeId.takes wellFormed.nodeId)).append ?_
    refine (whenGiven (fun (fields : Fields) value => { fields with
      upFunctionFeatures := value }) (fun value _ => takes_whole value.gives)).append ?_
    refine (whenGiven (fun (fields : Fields) value => { fields with
      cpFunctionFeatures := value }) (fun value _ => takes_parsed value.decode_encode)).append ?_
    refine (whenGiven (fun (fields : Fields) value => { fields with
      pfcpAssociationReleaseRequest := value })
      (fun value _ => takes_parsed value.decode_encode)).append ?_
    exact whenGiven (fun (fields : Fields) value =>
      { fields with gracefulReleasePeriod := value }) takesGracefulReleasePeriod
  exact gives_gather_bind gathers wellFormed.fits rfl

end AssociationUpdateRequest

namespace AssociationUpdateResponse

structure WellFormed (message : AssociationUpdateResponse) : Prop where
  nodeId : message.nodeId.WellFormed
  fits : Fits message.ies

lemma gives {message : AssociationUpdateResponse} (wellFormed : message.WellFormed) :
  Gives decode message.encode message := by
  have gathers : Gathers arms ⟨none, none, none, none⟩ message.ies
      ⟨some message.nodeId, some message.cause, message.upFunctionFeatures,
        message.cpFunctionFeatures⟩ := by
    refine (one (NodeId.takes wellFormed.nodeId)).append ?_
    refine (one (takes_cause _)).append ?_
    refine (whenGiven (fun (fields : Fields) value => { fields with
      upFunctionFeatures := value }) (fun value _ => takes_whole value.gives)).append ?_
    exact whenGiven (fun (fields : Fields) value =>
      { fields with cpFunctionFeatures := value }) (fun value _ => takes_parsed value.decode_encode)
  exact gives_gather_bind gathers wellFormed.fits rfl

end AssociationUpdateResponse

namespace NodeReportRequest

structure WellFormed (message : NodeReportRequest) : Prop where
  nodeId : message.nodeId.WellFormed
  userPlanePathFailureReport : ∀ value ∈ message.userPlanePathFailureReport, Fits value.ies
  fits : Fits message.ies

lemma gives {message : NodeReportRequest} (wellFormed : message.WellFormed) :
  Gives decode message.encode message := by
  have gathers : Gathers arms ⟨none, none, none⟩ message.ies
      ⟨some message.nodeId, some message.nodeReportType, message.userPlanePathFailureReport⟩ := by
    refine (one (NodeId.takes wellFormed.nodeId)).append ?_
    refine (one (takes_parsed (NodeReportType.decode_encode _))).append ?_
    exact whenGiven (fun (fields : Fields) value =>
      { fields with userPlanePathFailureReport := value })
          (takes_all UserPlanePathFailureReport.gives wellFormed.userPlanePathFailureReport)
  exact gives_gather_bind gathers wellFormed.fits rfl

end NodeReportRequest

namespace NodeAnswer

structure WellFormed (message : NodeAnswer) : Prop where
  nodeId : message.nodeId.WellFormed
  fits : Fits message.ies

lemma gives {message : NodeAnswer} (wellFormed : message.WellFormed) :
  Gives decode message.encode message := by
  have gathers : Gathers arms ⟨none, none, none⟩ message.ies
      ⟨some message.nodeId, some message.cause, message.offendingIe⟩ := by
    refine (one (NodeId.takes wellFormed.nodeId)).append ?_
    refine (one (takes_cause _)).append ?_
    exact whenGiven (fun (fields : Fields) value => { fields with offendingIe := value })
      (fun value _ => takes_u16 value)
  exact gives_gather_bind gathers wellFormed.fits rfl

end NodeAnswer

namespace PfdManagementRequest

structure WellFormed (message : PfdManagementRequest) : Prop where
  applicationIdsPfds : ∀ value ∈ message.applicationIdsPfds, value.WellFormed
  nodeId : ∀ value ∈ message.nodeId, value.WellFormed
  fits : Fits message.ies

lemma gives {message : PfdManagementRequest} (wellFormed : message.WellFormed) :
  Gives decode message.encode message := by
  have gathers : Gathers arms ⟨[], none⟩ message.ies message := by
    refine (every (fun message values => { message with applicationIdsPfds := values })
      (takes_all ApplicationIdsPfds.gives wellFormed.applicationIdsPfds)).append ?_
    exact whenGiven (fun message value => { message with nodeId := value })
        (reads_all NodeId.readsBack wellFormed.nodeId)
  exact gives_gather gathers wellFormed.fits

end PfdManagementRequest

namespace PfdManagementResponse

structure WellFormed (message : PfdManagementResponse) : Prop where
  nodeId : ∀ value ∈ message.nodeId, value.WellFormed
  pfdPartialFailureInformation : ∀ value ∈ message.pfdPartialFailureInformation, Fits value.ies
  fits : Fits message.ies

lemma gives {message : PfdManagementResponse} (wellFormed : message.WellFormed) :
  Gives decode message.encode message := by
  have gathers : Gathers arms ⟨none, none, none, []⟩ message.ies
      ⟨some message.cause, message.offendingIe, message.nodeId,
        message.pfdPartialFailureInformation⟩ := by
    refine (one (takes_cause _)).append ?_
    refine (whenGiven (fun (fields : Fields) value => { fields with offendingIe := value })
      (fun value _ => takes_u16 value)).append ?_
    refine (whenGiven (fun (fields : Fields) value => { fields with nodeId := value })
      (reads_all NodeId.readsBack wellFormed.nodeId)).append ?_
    exact every (fun (fields : Fields) values =>
      { fields with pfdPartialFailureInformation := values })
          (takes_all PfdPartialFailureInformation.gives wellFormed.pfdPartialFailureInformation)
  exact gives_gather_bind gathers wellFormed.fits rfl

end PfdManagementResponse

namespace SessionSetDeletionRequest

structure WellFormed (message : SessionSetDeletionRequest) : Prop where
  nodeId : message.nodeId.WellFormed
  fqCsids : ∀ value ∈ message.fqCsids, value.WellFormed
  fits : Fits message.ies

lemma gives {message : SessionSetDeletionRequest} (wellFormed : message.WellFormed) :
  Gives decode message.encode message := by
  have gathers : Gathers arms ⟨none, []⟩ message.ies ⟨some message.nodeId, message.fqCsids⟩ := by
    refine (one (NodeId.takes wellFormed.nodeId)).append ?_
    exact every (fun (fields : Fields) values => { fields with fqCsids := values })
      (takes_all FqCsid.gives wellFormed.fqCsids)
  exact gives_gather_bind gathers wellFormed.fits rfl

end SessionSetDeletionRequest

namespace SessionSetModificationRequest

structure WellFormed (message : SessionSetModificationRequest) : Prop where
  nodeId : message.nodeId.WellFormed
  pfcpSessionChangeInfo : ∀ value ∈ message.pfcpSessionChangeInfo, value.WellFormed
  fits : Fits message.ies

lemma gives {message : SessionSetModificationRequest} (wellFormed : message.WellFormed) :
  Gives decode message.encode message := by
  have gathers : Gathers arms ⟨none, []⟩ message.ies
      ⟨some message.nodeId, message.pfcpSessionChangeInfo⟩ := by
    refine (one (NodeId.takes wellFormed.nodeId)).append ?_
    exact every (fun (fields : Fields) values =>
      { fields with pfcpSessionChangeInfo := values })
          (takes_all PfcpSessionChangeInfo.gives wellFormed.pfcpSessionChangeInfo)
  exact gives_gather_bind gathers wellFormed.fits rfl

end SessionSetModificationRequest

namespace SessionEstablishmentRequest

structure WellFormed (message : SessionEstablishmentRequest) : Prop where
  nodeId : message.nodeId.WellFormed
  cpFSeid : message.cpFSeid.WellFormed
  createPdrs : ∀ value ∈ message.createPdrs, value.WellFormed
  createFars : ∀ value ∈ message.createFars, value.WellFormed
  createQers : ∀ value ∈ message.createQers, value.WellFormed
  createUrrs : ∀ value ∈ message.createUrrs, value.WellFormed
  createBar : ∀ value ∈ message.createBar, Fits value.ies
  fits : Fits message.ies

lemma gives {message : SessionEstablishmentRequest} (wellFormed : message.WellFormed) :
  Gives decode message.encode message := by
  have gathers : Gathers arms ⟨none, none, [], [], [], [], none⟩ message.ies
      ⟨some message.nodeId, some message.cpFSeid, message.createPdrs, message.createFars,
        message.createQers, message.createUrrs, message.createBar⟩ := by
    refine (one (NodeId.takes wellFormed.nodeId)).append ?_
    refine (one (takes_whole (FSeid.readsBack wellFormed.cpFSeid).gives)).append ?_
    refine (every (fun (fields : Fields) values => { fields with createPdrs := values })
      (takes_all CreatePdr.gives wellFormed.createPdrs)).append ?_
    refine (every (fun (fields : Fields) values => { fields with createFars := values })
      (takes_all CreateFar.gives wellFormed.createFars)).append ?_
    refine (every (fun (fields : Fields) values => { fields with createQers := values })
      (takes_all CreateQer.gives wellFormed.createQers)).append ?_
    refine (every (fun (fields : Fields) values => { fields with createUrrs := values })
      (takes_all CreateUrr.gives wellFormed.createUrrs)).append ?_
    exact whenGiven (fun (fields : Fields) value => { fields with createBar := value })
      (takes_all CreateBar.gives wellFormed.createBar)
  exact gives_gather_bind gathers wellFormed.fits rfl

end SessionEstablishmentRequest

namespace SessionEstablishmentResponse

structure WellFormed (message : SessionEstablishmentResponse) : Prop where
  named : message.nodeId.isSome
  identified : message.cause = .requestAccepted → message.upFSeid.isSome
  nodeId : ∀ value ∈ message.nodeId, value.WellFormed
  upFSeid : ∀ value ∈ message.upFSeid, value.WellFormed
  createdPdrs : ∀ value ∈ message.createdPdrs, value.WellFormed
  fits : Fits message.ies

lemma gives {message : SessionEstablishmentResponse} (wellFormed : message.WellFormed) :
  Gives decode message.encode message := by
  have gathers : Gathers arms ⟨none, none, none, []⟩ message.ies
      ⟨message.nodeId, some message.cause, message.upFSeid, message.createdPdrs⟩ := by
    refine (whenGiven (fun (fields : Fields) value => { fields with nodeId := value })
      (reads_all NodeId.readsBack wellFormed.nodeId)).append ?_
    refine (one (takes_cause _)).append ?_
    refine (whenGiven (fun (fields : Fields) value => { fields with upFSeid := value })
      (reads_all FSeid.readsBack wellFormed.upFSeid)).append ?_
    exact every (fun (fields : Fields) values => { fields with createdPdrs := values })
      (takes_all CreatedPdr.gives wellFormed.createdPdrs)
  refine gives_gather_bind gathers wellFormed.fits ?_
  obtain ⟨nodeId, found⟩ := Option.isSome_iff_exists.mp wellFormed.named
  have accepted : ¬(message.cause = .requestAccepted ∧ message.upFSeid.isNone) := by
    rintro ⟨cause, missing⟩
    rw [Option.isNone_iff_eq_none] at missing
    have there := wellFormed.identified cause
    rw [missing] at there
    cases there
  rw [found]
  change (Reading.refuse (message.cause = .requestAccepted ∧ message.upFSeid.isNone) _ >>=
    fun _ => pure _) [] = _
  rw [Reading.refuse, if_neg accepted, ← found]
  rfl

end SessionEstablishmentResponse

lemma SessionDeletionRequest.gives (message : SessionDeletionRequest) :
  Gives decode message.encode message := ⟨[], rfl⟩

namespace SessionDeletionResponse

lemma gives {message : SessionDeletionResponse} (fits : Fits message.ies) :
  Gives decode message.encode message := by
  have gathers : Gathers arms none message.ies (some message.cause) :=
    one (takes_cause _)
  exact gives_gather_bind gathers fits rfl

end SessionDeletionResponse

namespace SessionModificationRequest

structure WellFormed (message : SessionModificationRequest) : Prop where
  cpFSeid : ∀ value ∈ message.cpFSeid, value.WellFormed
  removePdrs : ∀ value ∈ message.removePdrs, Fits value.ies
  removeFars : ∀ value ∈ message.removeFars, Fits value.ies
  createPdrs : ∀ value ∈ message.createPdrs, value.WellFormed
  createFars : ∀ value ∈ message.createFars, value.WellFormed
  createQers : ∀ value ∈ message.createQers, value.WellFormed
  createUrrs : ∀ value ∈ message.createUrrs, value.WellFormed
  createBar : ∀ value ∈ message.createBar, Fits value.ies
  updatePdrs : ∀ value ∈ message.updatePdrs, value.WellFormed
  updateFars : ∀ value ∈ message.updateFars, value.WellFormed
  fits : Fits message.ies

lemma gives {message : SessionModificationRequest} (wellFormed : message.WellFormed) :
  Gives decode message.encode message := by
  have gathers : Gathers arms new message.ies message := by
    refine (whenGiven (fun message value => { message with cpFSeid := value })
      (reads_all FSeid.readsBack wellFormed.cpFSeid)).append ?_
    refine (every (fun message values => { message with removePdrs := values })
      (takes_all RemovePdr.gives wellFormed.removePdrs)).append ?_
    refine (every (fun message values => { message with removeFars := values })
      (takes_all RemoveFar.gives wellFormed.removeFars)).append ?_
    refine (every (fun message values => { message with createPdrs := values })
      (takes_all CreatePdr.gives wellFormed.createPdrs)).append ?_
    refine (every (fun message values => { message with createFars := values })
      (takes_all CreateFar.gives wellFormed.createFars)).append ?_
    refine (every (fun message values => { message with createQers := values })
      (takes_all CreateQer.gives wellFormed.createQers)).append ?_
    refine (every (fun message values => { message with createUrrs := values })
      (takes_all CreateUrr.gives wellFormed.createUrrs)).append ?_
    refine (whenGiven (fun message value => { message with createBar := value })
      (takes_all CreateBar.gives wellFormed.createBar)).append ?_
    refine (every (fun message values => { message with updatePdrs := values })
      (takes_all UpdatePdr.gives wellFormed.updatePdrs)).append ?_
    refine (every (fun message values => { message with updateFars := values })
      (takes_all UpdateFar.gives wellFormed.updateFars)).append ?_
    exact whenGiven (fun message value => { message with pfcpSmreqFlags := value })
      (fun value _ => takes_u8 value)
  exact gives_gather gathers wellFormed.fits

end SessionModificationRequest

namespace SessionModificationResponse

structure WellFormed (message : SessionModificationResponse) : Prop where
  createdPdrs : ∀ value ∈ message.createdPdrs, value.WellFormed
  fits : Fits message.ies

lemma gives {message : SessionModificationResponse} (wellFormed : message.WellFormed) :
  Gives decode message.encode message := by
  have gathers : Gathers arms ⟨none, none, []⟩ message.ies
      ⟨some message.cause, message.offendingIe, message.createdPdrs⟩ := by
    refine (one (takes_cause _)).append ?_
    refine (whenGiven (fun (fields : Fields) value => { fields with offendingIe := value })
      (fun value _ => takes_u16 value)).append ?_
    exact every (fun (fields : Fields) values => { fields with createdPdrs := values })
      (takes_all CreatedPdr.gives wellFormed.createdPdrs)
  exact gives_gather_bind gathers wellFormed.fits rfl

end SessionModificationResponse

namespace SessionReportRequest

structure WellFormed (message : SessionReportRequest) : Prop where
  downlinkDataReport : ∀ value ∈ message.downlinkDataReport, Fits value.ies
  usageReports : ∀ value ∈ message.usageReports, value.WellFormed
  fits : Fits message.ies

lemma gives {message : SessionReportRequest} (wellFormed : message.WellFormed) :
  Gives decode message.encode message := by
  have gathers : Gathers arms (new ReportType.default) message.ies message := by
    refine (one (takes_octet (ReportType.decode_encode _))).append ?_
    refine (whenGiven (fun message value => { message with downlinkDataReport := value })
      (takes_all DownlinkDataReport.gives wellFormed.downlinkDataReport)).append ?_
    exact every (fun message values => { message with usageReports := values })
      (takes_all UsageReportSrr.gives wellFormed.usageReports)
  exact gives_gather gathers wellFormed.fits

end SessionReportRequest

namespace SessionReportResponse

lemma gives {message : SessionReportResponse} (fits : Fits message.ies) :
  Gives decode message.encode message := by
  have gathers : Gathers arms ⟨none, none, none⟩ message.ies
      ⟨some message.cause, message.offendingIe, message.pfcpSrrspFlags⟩ := by
    refine (one (takes_cause _)).append ?_
    refine (whenGiven (fun (fields : Fields) value => { fields with offendingIe := value })
      (fun value _ => takes_u16 value)).append ?_
    exact whenGiven (fun (fields : Fields) value => { fields with pfcpSrrspFlags := value })
      (fun value _ => takes_u8 value)
  exact gives_gather_bind gathers fits rfl

end SessionReportResponse

namespace PfcpHeader

/-- The fields are there that the flags announce, and fit in the bits that are for them. -/
structure WellFormed (header : PfcpHeader) : Prop where
  version : header.version = PFCP_VERSION
  seid : header.seid.isSome = header.seidPresence
  sequenceNumber : header.sequenceNumber.toNat < 2 ^ 24
  priority : header.priority.isSome = header.messagePriority
  small : ∀ priority ∈ header.priority, priority.toNat < 16

lemma unpacked (seidPresence messagePriority followOn : Bool) :
  let octet := (PFCP_VERSION &&& 0x07) <<< (5 : UInt8) |||
    flagsOctet [seidPresence, messagePriority, followOn]
  octet >>> 5 &&& 0x07 = PFCP_VERSION ∧ octet.toNat.testBit 0 = seidPresence ∧
    octet.toNat.testBit 1 = messagePriority ∧ octet.toNat.testBit 2 = followOn := by
  cases seidPresence <;> cases messagePriority <;> cases followOn <;> decide

lemma nibble_eq : ∀ priority < 16,
  UInt8.ofNat priority <<< 4 >>> 4 &&& 0x0F = UInt8.ofNat priority := by
  decide

lemma readsBack {header : PfcpHeader} (wellFormed : header.WellFormed) :
  ReadsBack id decode header.encode header := by
  obtain ⟨version, seidPresence, messagePriority, followOn, messageType, length, seid,
    sequenceNumber, priority⟩ := header
  obtain ⟨same, withSeid, small, withPriority, nibble⟩ := wellFormed
  simp only at same withSeid small withPriority nibble
  subst same
  obtain ⟨versionBits, first, second, third⟩ := unpacked seidPresence messagePriority followOn
  have kept : (if messagePriority then some ((priority.getD 0 <<< 4) >>> 4 &&& 0x0F) else none) =
      priority := by
    subst withPriority
    cases priority with
    | none => rfl
    | some value =>
      have bits := nibble_eq value.toNat (nibble value rfl)
      rw [UInt8.ofNat_toNat] at bits
      exact congrArg some bits
  have sequence : ReadsBack id (getUint 3 : Decoding ℕ) (putSequence sequenceNumber)
      sequenceNumber.toNat := readsBack_getUint small
  unfold decode encode
  refine require ?_ ?_
  · refine (readsBack_getU8 _).bind ?_
    simp only [versionBits, first, second, third]
    refine (refuse (fun different => different versionBits)).skip ?_
    refine (readsBack_getU8 _).bind ?_
    refine (lift (PfcpMessageType.tryFrom_toU8 messageType)).skip ?_
    refine (readsBack_getU16 _).bind (require ?_ ?_)
    · refine (readsBack_givenIf withSeid fun value _ => readsBack_getU64 value).bind
        (sequence.bind ?_)
      conv_rhs => rw [← kept, ← @UInt32.ofNat_toNat sequenceNumber]
      exact (readsBack_getU8 _).last
    · subst withSeid
      cases seid <;> simp [putSome, putSequence]
  · simp only [List.length_append, length_beOctets]
    omega

end PfcpHeader

variable {sequenceNumber : UInt32} {message : PfcpMessage} {seid : Option UInt64}

lemma gives_decodeAs {Message : Type} {decode : Decoding Message} {chunk : Bytes}
  {message : Message} {make : Message → PfcpMessage} (gives : Gives decode chunk message) :
  Gives (PfcpMessage.decodeAs decode make) chunk (make message) := by
  obtain ⟨left, answer⟩ := gives
  exact ⟨left, Reading.bind_eq answer⟩

namespace PfcpMessage

def WellFormed : PfcpMessage → Prop
  | heartbeatRequest message => message.WellFormed
  | heartbeatResponse message => Fits message.ies
  | associationSetupRequest message | associationSetupResponse message
  | associationReleaseRequest message | associationReleaseResponse message
  | sessionEstablishmentRequest message | sessionEstablishmentResponse message
  | sessionModificationRequest message | sessionModificationResponse message => message.WellFormed
  | sessionDeletionRequest _ => True
  | sessionDeletionResponse message => Fits message.ies
  | sessionReportRequest message => message.WellFormed
  | sessionReportResponse message => Fits message.ies
  | nodeReportRequest message | nodeReportResponse message | associationUpdateRequest message
  | associationUpdateResponse message | pfdManagementRequest message
  | pfdManagementResponse message | sessionSetDeletionRequest message
  | sessionSetDeletionResponse message | sessionSetModificationRequest message
  | sessionSetModificationResponse message => message.WellFormed

lemma gives {message : PfcpMessage} (wellFormed : message.WellFormed) :
  Gives (decodeBody message.messageType) message.encodeBody message := by
  cases message with
  | heartbeatRequest message => exact gives_decodeAs (HeartbeatRequest.gives wellFormed)
  | heartbeatResponse message => exact gives_decodeAs (HeartbeatResponse.gives wellFormed)
  | associationSetupRequest message =>
    exact gives_decodeAs (AssociationSetupRequest.gives wellFormed)
  | associationSetupResponse message =>
    exact gives_decodeAs (AssociationSetupResponse.gives wellFormed)
  | associationReleaseRequest message =>
    exact gives_decodeAs (AssociationReleaseRequest.gives wellFormed)
  | associationReleaseResponse message =>
    exact gives_decodeAs (AssociationReleaseResponse.gives wellFormed)
  | sessionEstablishmentRequest message =>
    exact gives_decodeAs (SessionEstablishmentRequest.gives wellFormed)
  | sessionEstablishmentResponse message =>
    exact gives_decodeAs (SessionEstablishmentResponse.gives wellFormed)
  | sessionModificationRequest message =>
    exact gives_decodeAs (SessionModificationRequest.gives wellFormed)
  | sessionModificationResponse message =>
    exact gives_decodeAs (SessionModificationResponse.gives wellFormed)
  | sessionDeletionRequest message => exact gives_decodeAs (SessionDeletionRequest.gives message)
  | sessionDeletionResponse message =>
    exact gives_decodeAs (SessionDeletionResponse.gives wellFormed)
  | sessionReportRequest message => exact gives_decodeAs (SessionReportRequest.gives wellFormed)
  | sessionReportResponse message => exact gives_decodeAs (SessionReportResponse.gives wellFormed)
  | nodeReportRequest message => exact gives_decodeAs (NodeReportRequest.gives wellFormed)
  | nodeReportResponse message => exact gives_decodeAs (NodeAnswer.gives wellFormed)
  | associationUpdateRequest message =>
    exact gives_decodeAs (AssociationUpdateRequest.gives wellFormed)
  | associationUpdateResponse message =>
    exact gives_decodeAs (AssociationUpdateResponse.gives wellFormed)
  | pfdManagementRequest message => exact gives_decodeAs (PfdManagementRequest.gives wellFormed)
  | pfdManagementResponse message => exact gives_decodeAs (PfdManagementResponse.gives wellFormed)
  | sessionSetDeletionRequest message =>
    exact gives_decodeAs (SessionSetDeletionRequest.gives wellFormed)
  | sessionSetDeletionResponse message => exact gives_decodeAs (NodeAnswer.gives wellFormed)
  | sessionSetModificationRequest message =>
    exact gives_decodeAs (SessionSetModificationRequest.gives wellFormed)
  | sessionSetModificationResponse message => exact gives_decodeAs (NodeAnswer.gives wellFormed)

end PfcpMessage

lemma wellFormed_buildHeader (message : PfcpMessage) (seid : Option UInt64)
  (small : sequenceNumber.toNat < 2 ^ 24) :
  (buildHeader message sequenceNumber seid).WellFormed := by
  cases seid <;> exact ⟨rfl, rfl, small, rfl, nofun⟩

lemma bodyLength_buildHeader (sequenceNumber : UInt32)
  (fits : message.encodeBody.length + headerTail seid.isSome < 2 ^ 16) :
  bodyLength (buildHeader message sequenceNumber seid) = .ok message.encodeBody.length := by
  have declared : (UInt16.ofNat (message.encodeBody.length + headerTail seid.isSome)).toNat =
      message.encodeBody.length + headerTail seid.isSome := UInt16.toNat_ofNat_of_lt' fits
  have length : (buildHeader message sequenceNumber seid).length.toNat =
      message.encodeBody.length + headerTail seid.isSome := by
    cases seid <;> exact declared
  have presence : (buildHeader message sequenceNumber seid).seidPresence = seid.isSome := by
    cases seid <;> rfl
  simp only [bodyLength, presence, length]
  rw [if_pos (Nat.le_add_left _ _), Nat.add_sub_cancel]

lemma readsBack_readWhole_of_gives {Value : Type} {read : Decoding Value} {octets : Bytes}
  {value : Value} (gives : Gives read octets value) :
  ReadsBack id (readWhole read octets) [] value := by
  intro stream tail front
  obtain ⟨left, answer⟩ := gives
  exact ⟨stream, by rw [readWhole, answer]; rfl, front⟩

lemma readsBack_buildMessage (wellFormed : message.WellFormed)
  (small : sequenceNumber.toNat < 2 ^ 24)
  (fits : message.encodeBody.length + headerTail seid.isSome < 2 ^ 16) :
  ReadsBack id parseMessage (buildMessage message sequenceNumber seid)
    (buildHeader message sequenceNumber seid, message) := by
  have type : (buildHeader message sequenceNumber seid).messageType = message.messageType := by
    cases seid <;> rfl
  refine (PfcpHeader.readsBack (wellFormed_buildHeader message seid small)).bind ?_
  refine (lift (bodyLength_buildHeader sequenceNumber fits)).skip ?_
  refine (readsBack_checked (readsBack_copyToBytes _) le_rfl).bind_nil ?_
  rw [type]
  exact (readsBack_readWhole_of_gives (PfcpMessage.gives wellFormed)).last

/-- A message is parsed as it was built. -/
theorem parseMessage_buildMessage {message : PfcpMessage} {sequenceNumber : UInt32}
  {seid : Option UInt64} (wellFormed : message.WellFormed)
  (small : sequenceNumber.toNat < 2 ^ 24)
  (fits : message.encodeBody.length + headerTail seid.isSome < 2 ^ 16) :
  parseMessage (buildMessage message sequenceNumber seid) =
    .ok ((buildHeader message sequenceNumber seid, message), []) := by
  have answer := (readsBack_buildMessage wellFormed small fits).answer []
  rwa [List.append_nil] at answer

def triggered (trigger : UInt32) : PfcpMessage :=
  .sessionReportRequest { SessionReportRequest.new ReportType.default with
    usageReports := [{ UsageReportSrr.new 1 with usageReportTrigger := some trigger }] }

theorem parseMessage_triggered : parseMessage (buildMessage (triggered 0x010203) 1 (some 5)) =
    .ok ((buildHeader (triggered 0x010203) 1 (some 5), triggered 0x010203), []) := by
  have wellFormed : (triggered 0x010203).WellFormed := by
    have report : UsageReportSrr.WellFormed
        { UsageReportSrr.new 1 with usageReportTrigger := some 0x010203 } := by
      refine ⟨?_, nofun, by decide⟩
      rintro trigger ⟨⟩
      decide
    refine ⟨nofun, ?_, by decide⟩
    intro usageReport inside
    obtain rfl := List.mem_singleton.mp inside
    exact report
  exact parseMessage_buildMessage wellFormed (by decide) (by decide)

/-- A response without a node is refused, and the fourth octet of a trigger is lost. -/
theorem parseMessage_lossy :
  parseMessage (buildMessage (.sessionEstablishmentResponse (.new .requestRejected)) 1
      (some 5)) = .error (.refused (.missingMandatoryIe "Node ID")) ∧
    (parseMessage (buildMessage (triggered 0x01000000) 1 (some 5))).map (fun answer =>
      answer.1.2) = .ok (triggered 0) :=
  ⟨rfl, rfl⟩

end NextGCore.Pfcp
