import NextGCore.Pfcp.Message

/-!
# Decoders that do not panic

Every decoder but one checks the length before it reads.  The one that does not is that of packet
rates, which reads three octets for each direction its flags announce.
-/

namespace NextGCore.Pfcp

open Library Safe

variable (value : UInt8) {Value : Type}

lemma safe_address (count : ℕ) : Safe (address count) :=
  safe_checked_copyToSlice _ count

lemma safe_countIf (present : Bool) : Safe (countIf present) :=
  .orElse present 0 (safe_checked_getU64 _)

lemma safe_mandatory (name : String) (field : Option Value) : Safe (mandatory name field) := by
  apply lift
  cases field <;> exact nofun

section

variable {Fields First Second : Type} {read : Decoding Fields} (safe : Safe read)
  {first : Fields → Option First} {second : Fields → Option Second} {name other : String}

include safe

lemma safe_one {make : Fields → First → Value} :
  Safe (read >>= fun fields => mandatory name (first fields) >>= fun one =>
    pure (make fields one)) :=
  safe.bind fun _ => (safe_mandatory _ _).bind fun _ => .pure _

lemma safe_two {make : Fields → First → Second → Value} :
  Safe (read >>= fun fields => mandatory name (first fields) >>= fun one =>
    mandatory other (second fields) >>= fun two => pure (make fields one two)) :=
  safe.bind fun _ => (safe_mandatory _ _).bind fun _ => (safe_mandatory _ _).bind fun _ => .pure _

end

lemma neverPanics_ofFirst (make : UInt8 → Value) :
  NeverPanics (fun data => firstOf data >>= fun octet => pure (make octet)) := by
  intro data
  cases data <;> exact nofun

lemma SourceInterface.tryFrom_ne_panic : SourceInterface.tryFrom value ≠ .error .panic := by
  unfold SourceInterface.tryFrom
  split <;> exact nofun

lemma DestinationInterface.tryFrom_ne_panic :
  DestinationInterface.tryFrom value ≠ .error .panic := by
  unfold DestinationInterface.tryFrom
  split <;> exact nofun

lemma NodeIdType.tryFrom_ne_panic : NodeIdType.tryFrom value ≠ .error .panic := by
  unfold NodeIdType.tryFrom
  split <;> exact nofun

lemma FqCsidNodeIdType.tryFrom_ne_panic : FqCsidNodeIdType.tryFrom value ≠ .error .panic := by
  unfold FqCsidNodeIdType.tryFrom
  split <;> exact nofun

lemma PfcpMessageType.tryFrom_ne_panic : PfcpMessageType.tryFrom value ≠ .error .panic := by
  unfold PfcpMessageType.tryFrom
  split <;> exact nofun

lemma IeHeader.safe_decode : Safe IeHeader.decode :=
  .of_reading fun octets => Calm.require.bind fun _ start there =>
    (calm_getU16 (by omega)).bind fun _ left rest =>
      (calm_getU16 (by simp [rest]; omega)).bind fun _ _ _ => .pure trivial

lemma RawIe.safe_decode : Safe RawIe.decode :=
  .of_calm (Element.calm_decode _)

lemma DurationMeasurement.safe_decode : Safe DurationMeasurement.decode :=
  (safe_checked_getU32 _).bind fun _ => .pure _

lemma UsageReportTrigger.safe_decode : Safe UsageReportTrigger.decode :=
  (safe_checked_getU16 _).bind fun _ => .pure _

lemma NodeId.safe_decodeFqdn : Safe NodeId.decodeFqdn := by
  have within (turns : ℕ) (fqdn : String) : Safe (NodeId.decodeLabels turns fqdn) := by
    induction turns generalizing fqdn with
    | zero => exact .pure fqdn
    | succ turns ih =>
      intro octets
      unfold NodeId.decodeLabels
      cases octets with
      | nil => exact nofun
      | cons octet rest =>
        have turn : Calm (getU8 : Decoding UInt8) (octet :: rest) fun _ left =>
            left = (octet :: rest).drop 1 :=
          calm_getU8 (by simp)
        have label (len : UInt8) : Safe (checked PfcpError.bufferTooShort len.toNat
            (copyToBytes len.toNat) >>= fun label =>
              NodeId.decodeLabels turns ((if fqdn.isEmpty then fqdn else fqdn ++ ".") ++
                Sbi.fromUtf8Lossy label)) :=
          (checked fun _ enough => (Calm.copyToBytes enough).noPanic).bind fun _ =>
            ih _
        refine (turn.bind fun len left _ => calm ?_ left).noPanic
        split
        · exact .pure fqdn
        · exact label len
  exact fun octets => within octets.length "" octets

@[simp]
lemma NodeId.safe_decode : Safe NodeId.decode := by
  refine (safe_checked_getU8 _).bind fun first =>
    (lift (NodeIdType.tryFrom_ne_panic _)).bind fun nodeIdType => ?_
  cases nodeIdType with
  | ipv4 => exact (safe_address 4).bind fun _ => .pure _
  | ipv6 => exact (safe_address 16).bind fun _ => .pure _
  | fqdn => exact NodeId.safe_decodeFqdn.bind fun _ => .pure _

@[simp]
lemma FSeid.safe_decode : Safe FSeid.decode := by
  refine .of_reading fun octets => Calm.require.bind fun _ start there => ?_
  refine (calm_getU8 (by omega)).bind fun flags left rest => ?_
  refine (calm_getU64 (by simp [rest]; omega)).bind fun seid last _ => ?_
  have addresses : Safe (givenIf (flags.toNat.testBit 1) (address 4) >>= fun ipv4Addr =>
      givenIf (flags.toNat.testBit 0) (address 16) >>= fun ipv6Addr =>
        pure (⟨flags.toNat.testBit 1, flags.toNat.testBit 0, seid, ipv4Addr, ipv6Addr⟩ : FSeid)) :=
    (givenIf _ (safe_address 4)).bind fun _ =>
      (givenIf _ (safe_address 16)).bind fun _ => .pure _
  exact addresses.calm last

@[simp]
lemma FTeid.safe_decode : Safe FTeid.decode :=
  (safe_checked_getU8 _).bind fun _ => (Safe.refuse _ _).bind fun _ =>
    (orElse _ 0 (safe_checked_getU32 _)).bind fun _ =>
      (givenIf _ (safe_address 4)).bind fun _ =>
        (givenIf _ (safe_address 16)).bind fun _ =>
          (givenIf _ (safe_checked_getU8 _)).bind fun _ => .pure _

@[simp]
lemma UeIpAddress.safe_decode : Safe UeIpAddress.decode :=
  (safe_checked_getU8 _).bind fun _ => (givenIf _ (safe_address 4)).bind fun _ =>
    (givenIf _ (safe_address 16)).bind fun _ =>
      (givenIf _ (safe_checked_getU8 _)).bind fun _ =>
        (givenIf _ (safe_checked_getU8 _)).bind fun _ => .pure _

@[simp]
lemma neverPanics_takeApplyAction : NeverPanics takeApplyAction := by
  intro data
  unfold takeApplyAction
  split <;> exact nofun

@[simp]
lemma OuterHeaderRemoval.safe_decode : Safe OuterHeaderRemoval.decode :=
  (safe_checked_getU8 _).bind fun _ =>
    (ifLeft fun _ enough => (calm_getU8 enough).noPanic).bind fun _ => .pure _

lemma OuterHeaderCreation.safe_decodeTag (present : Bool) :
  Safe (OuterHeaderCreation.decodeTag present) :=
  .orElse present none (.ifLeft fun _ enough =>
    ((calm_copyToSlice enough).bind fun _ _ _ => .pure trivial : Calm _ _ fun _ _ => True).noPanic)

@[simp]
lemma OuterHeaderCreation.safe_decode : Safe OuterHeaderCreation.decode :=
  (safe_checked_getU16 _).bind fun _ =>
    (givenIf _ (safe_checked_getU32 _)).bind fun _ =>
      (givenIf _ (safe_address 4)).bind fun _ =>
        (givenIf _ (safe_address 16)).bind fun _ =>
          (givenIf _ (safe_checked_getU16 _)).bind fun _ =>
            (safe_decodeTag _).bind fun _ => (safe_decodeTag _).bind fun _ => .pure _

@[simp]
lemma Bitrate.safe_decode : Safe Bitrate.decode := by
  refine .of_reading fun octets => Calm.require.bind fun _ start there => ?_
  have kbps {left : Bytes} (enough : 5 ≤ left.length) :
      Calm Bitrate.getKbps left fun _ rest => rest = left.drop 5 :=
    (calm_getU8 (by omega)).bind fun _ rest read =>
      (calm_getU32 (by simp [read]; omega)).bind fun _ last next =>
        .pure (by rw [next, read, List.drop_drop])
  refine (kbps (by omega)).bind fun _ left rest => ?_
  exact (kbps (by simp [rest]; omega)).bind fun _ _ _ => .pure trivial

@[simp]
lemma VolumeThreshold.safe_decode : Safe VolumeThreshold.decode :=
  (safe_checked_getU8 _).bind fun _ => (safe_countIf _).bind fun _ =>
    (safe_countIf _).bind fun _ => (safe_countIf _).bind fun _ => .pure _

@[simp]
lemma VolumeMeasurement.safe_decode : Safe VolumeMeasurement.decode :=
  (safe_checked_getU8 _).bind fun _ => (safe_countIf _).bind fun _ =>
    (safe_countIf _).bind fun _ => (safe_countIf _).bind fun _ =>
      (safe_countIf _).bind fun _ => (safe_countIf _).bind fun _ =>
        (safe_countIf _).bind fun _ => .pure _

@[simp]
lemma ReportingTriggers.neverPanics_decode : NeverPanics ReportingTriggers.decode := by
  intro data
  unfold ReportingTriggers.decode
  split
  · exact nofun
  · next long =>
      rw [octetAt_of_lt (show 0 < data.length by omega),
        octetAt_of_lt (show 1 < data.length by omega), octetOrZero_eq]
      exact nofun

@[simp]
lemma UpFunctionFeatures.safe_decode : Safe UpFunctionFeatures.decode := by
  refine .of_reading fun octets => Calm.require.bind fun _ start there => ?_
  refine (calm_getU8 (by omega)).bind fun _ left₁ rest₁ => ?_
  refine (calm_getU8 (by simp [rest₁]; omega)).bind fun _ left₂ rest₂ => ?_
  refine (calm_getU8 (by simp [rest₁, rest₂]; omega)).bind fun _ left₃ rest₃ => ?_
  refine (calm_getU8 (by simp [rest₁, rest₂, rest₃]; omega)).bind fun _ left₄ rest₄ => ?_
  refine (calm_getU8 (by simp [rest₁, rest₂, rest₃, rest₄]; omega)).bind fun _ left₅ rest₅ => ?_
  refine (calm_getU8 (by simp [rest₁, rest₂, rest₃, rest₄, rest₅]; omega)).bind fun _ left₆ _ => ?_
  exact ((ifLeft fun _ enough => (calm_getU8 enough).noPanic).calm left₆).bind
    fun _ _ _ => .pure trivial

@[simp]
lemma CpFunctionFeatures.neverPanics_decode : NeverPanics CpFunctionFeatures.decode := by
  intro data
  unfold CpFunctionFeatures.decode
  rw [octetOrZero_eq]
  cases data <;> exact nofun

@[simp]
lemma NodeReportType.neverPanics_decode : NeverPanics NodeReportType.decode :=
  neverPanics_ofFirst _

@[simp]
lemma RemoteGtpUPeer.safe_decode : Safe RemoteGtpUPeer.decode :=
  (safe_checked_getU8 _).bind fun _ => (givenIf _ (safe_address 4)).bind fun _ =>
    (givenIf _ (safe_address 16)).bind fun _ => .pure _

@[simp]
lemma PfcpAssociationReleaseRequest.neverPanics_decode :
  NeverPanics PfcpAssociationReleaseRequest.decode :=
  neverPanics_ofFirst _

@[simp]
lemma GracefulReleasePeriod.neverPanics_decode : NeverPanics GracefulReleasePeriod.decode :=
  neverPanics_ofFirst _

@[simp]
lemma ApplicationId.neverPanics_decode : NeverPanics ApplicationId.decode := fun _ => nofun

lemma PfdContents.safe_readLv : Safe PfdContents.readLv :=
  (safe_checked_getU16 _).bind fun _ =>
    .checked fun _ enough => (Calm.copyToBytes enough).noPanic

@[simp]
lemma PfdContents.safe_decode : Safe PfdContents.decode := by
  refine .of_reading fun octets => Calm.require.bind fun _ start there => ?_
  refine (calm_getU8 (by omega)).bind fun flags left rest => ?_
  refine (calm_getU8 (by simp [rest]; omega)).bind fun _ last _ => ?_
  refine calm ?_ last
  exact (givenIf _ safe_readLv).bind fun _ => (givenIf _ safe_readLv).bind fun _ =>
    (givenIf _ safe_readLv).bind fun _ => (givenIf _ safe_readLv).bind fun _ =>
      (givenIf _ safe_readLv).bind fun _ => (givenIf _ safe_readLv).bind fun _ =>
        (givenIf _ safe_readLv).bind fun _ => (givenIf _ safe_readLv).bind fun _ =>
          .pure _

lemma FqCsid.safe_decodeAddress (nodeIdType : FqCsidNodeIdType) :
  Safe (FqCsid.decodeAddress nodeIdType) := by
  cases nodeIdType with
  | ipv4 => exact (safe_address 4).bind fun _ => .pure _
  | ipv6 => exact (safe_address 16).bind fun _ => .pure _
  | other => exact (safe_address 4).bind fun _ => .pure _

@[simp]
lemma FqCsid.safe_decode : Safe FqCsid.decode := by
  refine (safe_checked_getU8 _).bind fun octet5 =>
    (lift (FqCsidNodeIdType.tryFrom_ne_panic _)).bind fun nodeIdType =>
      (safe_decodeAddress nodeIdType).bind fun addresses =>
        (times (safe_checked_getU16 _) _).bind fun csids => ?_
  refine (ifLeft fun octets enough => ?_).bind fun _ => .pure _
  have last : Calm (getU8 >>= fun octet => pure (FqCsidNodeType.tryFrom (octet &&& 0x0F)) :
      Decoding (Option FqCsidNodeType)) octets fun _ _ => True :=
    (calm_getU8 enough).bind fun _ _ _ => .pure trivial
  exact last.noPanic

@[simp]
lemma GroupId.neverPanics_decode : NeverPanics GroupId.decode := fun _ => nofun

@[simp]
lemma CpIpAddress.safe_decode : Safe CpIpAddress.decode :=
  (safe_checked_getU8 _).bind fun _ => (givenIf _ (safe_address 4)).bind fun _ =>
    (givenIf _ (safe_address 16)).bind fun _ => .pure _

@[simp]
lemma AlternativeSmfIpAddress.safe_decode : Safe AlternativeSmfIpAddress.decode :=
  (safe_checked_getU8 _).bind fun _ => (givenIf _ (safe_address 4)).bind fun _ =>
    (givenIf _ (safe_address 16)).bind fun _ => .pure _

@[simp]
lemma neverPanics_takeU8 : NeverPanics takeU8 :=
  neverPanics_octet id

@[simp]
lemma neverPanics_sourceInterface : NeverPanics
  (firstOctet fun octet => SourceInterface.tryFrom (octet &&& 0x0F) : Taking PfcpError _) :=
  neverPanics_firstOctet fun _ => SourceInterface.tryFrom_ne_panic _

@[simp]
lemma neverPanics_destinationInterface : NeverPanics
  (firstOctet fun octet => DestinationInterface.tryFrom (octet &&& 0x0F) : Taking PfcpError _) :=
  neverPanics_firstOctet fun _ => DestinationInterface.tryFrom_ne_panic _

@[simp]
lemma UserPlanePathFailureReport.safe_decode : Safe UserPlanePathFailureReport.decode :=
  safe_gather (by simp [arms]) _

@[simp]
lemma PfdContext.safe_decode : Safe PfdContext.decode :=
  safe_gather (by simp [arms]) _

@[simp]
lemma ApplicationIdsPfds.safe_decode : Safe ApplicationIdsPfds.decode :=
  safe_one (safe_gather (by simp [arms]) _)

@[simp]
lemma PfdPartialFailureInformation.safe_decode : Safe PfdPartialFailureInformation.decode :=
  safe_two (safe_gather (by simp [arms]) _)

@[simp]
lemma PfcpSessionChangeInfo.safe_decode : Safe PfcpSessionChangeInfo.decode :=
  safe_one (safe_gather (by simp [arms]) _)

@[simp]
lemma LoadControlInformation.safe_decode : Safe LoadControlInformation.decode :=
  safe_two (safe_gather (by simp [arms]) _)

@[simp]
lemma Pdi.safe_decode : Safe Pdi.decode :=
  safe_gather (by simp [arms]) _

@[simp]
lemma CreatePdr.safe_decode : Safe CreatePdr.decode :=
  safe_one (safe_gather (by simp [arms]) _)

@[simp]
lemma UpdatePdr.safe_decode : Safe UpdatePdr.decode :=
  safe_gather (by simp [arms]) _

@[simp]
lemma RemovePdr.safe_decode : Safe RemovePdr.decode :=
  safe_gather (by simp [arms]) _

@[simp]
lemma CreatedPdr.safe_decode : Safe CreatedPdr.decode :=
  safe_gather (by simp [arms]) _

@[simp]
lemma ForwardingParameters.safe_decode : Safe ForwardingParameters.decode :=
  safe_gather (by simp [arms]) _

@[simp]
lemma CreateFar.safe_decode : Safe CreateFar.decode :=
  safe_gather (by simp [arms]) _

@[simp]
lemma UpdateFar.safe_decode : Safe UpdateFar.decode :=
  safe_gather (by simp [arms]) _

@[simp]
lemma RemoveFar.safe_decode : Safe RemoveFar.decode :=
  safe_gather (by simp [arms]) _

@[simp]
lemma CreateQer.safe_decode : Safe CreateQer.decode :=
  safe_gather (by simp [arms]) _

@[simp]
lemma CreateUrr.safe_decode : Safe CreateUrr.decode :=
  safe_gather (by simp [arms]) _

@[simp]
lemma CreateBar.safe_decode : Safe CreateBar.decode :=
  safe_gather (by simp [arms]) _

@[simp]
lemma UsageReportSrr.neverPanics_decodeTrigger : NeverPanics UsageReportSrr.decodeTrigger := by
  intro data
  unfold UsageReportSrr.decodeTrigger
  split <;> exact nofun

@[simp]
lemma UsageReportSrr.safe_decode : Safe UsageReportSrr.decode :=
  safe_gather (by simp [arms]) _

@[simp]
lemma DownlinkDataReport.safe_decode : Safe DownlinkDataReport.decode :=
  safe_gather (by simp [arms]) _

lemma HeartbeatRequest.safe_decode : Safe HeartbeatRequest.decode :=
  safe_gather (by simp [arms]) _

lemma HeartbeatResponse.safe_decode : Safe HeartbeatResponse.decode :=
  safe_gather (by simp [arms]) _

lemma AssociationSetupRequest.safe_decode : Safe AssociationSetupRequest.decode :=
  safe_one (safe_gather (by simp [arms]) _)

lemma AssociationSetupResponse.safe_decode : Safe AssociationSetupResponse.decode :=
  safe_two (safe_gather (by simp [arms]) _)

lemma AssociationReleaseRequest.safe_decode : Safe AssociationReleaseRequest.decode :=
  safe_one (safe_gather (by simp [arms]) _)

lemma AssociationReleaseResponse.safe_decode : Safe AssociationReleaseResponse.decode :=
  safe_two (safe_gather (by simp [arms]) _)

lemma AssociationUpdateRequest.safe_decode : Safe AssociationUpdateRequest.decode :=
  safe_one (safe_gather (by simp [arms]) _)

lemma AssociationUpdateResponse.safe_decode : Safe AssociationUpdateResponse.decode :=
  safe_two (safe_gather (by simp [arms]) _)

lemma NodeReportRequest.safe_decode : Safe NodeReportRequest.decode :=
  safe_two (safe_gather (by simp [arms]) _)

lemma NodeAnswer.safe_decode : Safe NodeAnswer.decode :=
  safe_two (safe_gather (by simp [arms]) _)

lemma PfdManagementRequest.safe_decode : Safe PfdManagementRequest.decode :=
  safe_gather (by simp [arms]) _

lemma PfdManagementResponse.safe_decode : Safe PfdManagementResponse.decode :=
  safe_one (safe_gather (by simp [arms]) _)

lemma SessionSetDeletionRequest.safe_decode : Safe SessionSetDeletionRequest.decode :=
  safe_one (safe_gather (by simp [arms]) _)

lemma SessionSetModificationRequest.safe_decode : Safe SessionSetModificationRequest.decode :=
  safe_one (safe_gather (by simp [arms]) _)

lemma SessionEstablishmentRequest.safe_decode : Safe SessionEstablishmentRequest.decode :=
  safe_two (safe_gather (by simp [arms]) _)

lemma SessionEstablishmentResponse.safe_decode : Safe SessionEstablishmentResponse.decode :=
  (safe_gather (by simp [arms]) _).bind fun _ => (safe_mandatory _ _).bind fun _ =>
    (safe_mandatory _ _).bind fun _ => (Safe.refuse _ _).bind fun _ => .pure _

lemma SessionDeletionResponse.safe_decode : Safe SessionDeletionResponse.decode :=
  safe_one (safe_gather (by simp [arms]) _)

lemma SessionModificationRequest.safe_decode : Safe SessionModificationRequest.decode :=
  safe_gather (by simp [arms]) _

lemma SessionModificationResponse.safe_decode : Safe SessionModificationResponse.decode :=
  safe_one (safe_gather (by simp [arms]) _)

lemma SessionReportRequest.safe_decode : Safe SessionReportRequest.decode :=
  safe_gather (by simp [arms]) _

lemma SessionReportResponse.safe_decode : Safe SessionReportResponse.decode :=
  safe_one (safe_gather (by simp [arms]) _)

lemma PfcpMessage.safe_decodeAs {Message : Type} {decode : Decoding Message}
  (safe : Safe decode) (make : Message → PfcpMessage) : Safe (decodeAs decode make) :=
  safe.bind fun _ => .pure _

lemma PfcpMessage.safe_decodeBody (messageType : PfcpMessageType) :
  Safe (PfcpMessage.decodeBody messageType) := by
  cases messageType with
  | heartbeatRequest => exact safe_decodeAs HeartbeatRequest.safe_decode _
  | heartbeatResponse => exact safe_decodeAs HeartbeatResponse.safe_decode _
  | pfdManagementRequest => exact safe_decodeAs PfdManagementRequest.safe_decode _
  | pfdManagementResponse => exact safe_decodeAs PfdManagementResponse.safe_decode _
  | associationSetupRequest => exact safe_decodeAs AssociationSetupRequest.safe_decode _
  | associationSetupResponse => exact safe_decodeAs AssociationSetupResponse.safe_decode _
  | associationUpdateRequest => exact safe_decodeAs AssociationUpdateRequest.safe_decode _
  | associationUpdateResponse => exact safe_decodeAs AssociationUpdateResponse.safe_decode _
  | associationReleaseRequest => exact safe_decodeAs AssociationReleaseRequest.safe_decode _
  | associationReleaseResponse => exact safe_decodeAs AssociationReleaseResponse.safe_decode _
  | versionNotSupportedResponse => exact fun _ => nofun
  | nodeReportRequest => exact safe_decodeAs NodeReportRequest.safe_decode _
  | nodeReportResponse => exact safe_decodeAs NodeAnswer.safe_decode _
  | sessionSetDeletionRequest => exact safe_decodeAs SessionSetDeletionRequest.safe_decode _
  | sessionSetDeletionResponse => exact safe_decodeAs NodeAnswer.safe_decode _
  | sessionSetModificationRequest =>
    exact safe_decodeAs SessionSetModificationRequest.safe_decode _
  | sessionSetModificationResponse => exact safe_decodeAs NodeAnswer.safe_decode _
  | sessionEstablishmentRequest => exact safe_decodeAs SessionEstablishmentRequest.safe_decode _
  | sessionEstablishmentResponse =>
    exact safe_decodeAs SessionEstablishmentResponse.safe_decode _
  | sessionModificationRequest => exact safe_decodeAs SessionModificationRequest.safe_decode _
  | sessionModificationResponse => exact safe_decodeAs SessionModificationResponse.safe_decode _
  | sessionDeletionRequest => exact safe_decodeAs (pure _) _
  | sessionDeletionResponse => exact safe_decodeAs SessionDeletionResponse.safe_decode _
  | sessionReportRequest => exact safe_decodeAs SessionReportRequest.safe_decode _
  | sessionReportResponse => exact safe_decodeAs SessionReportResponse.safe_decode _

lemma PfcpHeader.safe_decode : Safe PfcpHeader.decode := by
  refine .of_reading fun octets => Calm.require.bind fun _ start there => ?_
  refine (calm_getU8 (by omega)).bind fun firstByte left₁ rest₁ => ?_
  refine Calm.refuse.bind fun _ left₂ same => ?_
  have left₂ := congrArg List.length same.1
  have left₁ := congrArg List.length rest₁
  rw [List.length_drop] at left₁
  refine (calm_getU8 (by omega)).bind fun octet _ rest₃ => ?_
  have left₃ := congrArg List.length rest₃
  rw [List.length_drop] at left₃
  refine (calm_lift (PfcpMessageType.tryFrom_ne_panic octet)).bind fun messageType _ rest₄ => ?_
  have left₄ := congrArg List.length rest₄
  refine (calm_getU16 (by omega)).bind fun length left₅ _ => ?_
  refine Calm.require.bind fun _ left₆ enough => ?_
  have seid : Calm (givenIf (firstByte.toNat.testBit 0) getU64 : Decoding (Option UInt64)) left₆
      fun _ left => 4 ≤ left.length := by
    obtain ⟨-, enough⟩ := enough
    cases flag : firstByte.toNat.testBit 0 with
    | true =>
      rw [flag, if_pos rfl] at enough
      refine (calm_getU64 (by omega)).bind fun _ left rest => .pure ?_
      rw [rest, List.length_drop]
      omega
    | false =>
      rw [flag, if_neg Bool.false_ne_true] at enough
      exact .pure enough
  refine seid.bind fun _ left₇ four => ?_
  refine (Calm.getUint (by omega)).bind fun _ left₈ rest₈ => ?_
  have left₈ := congrArg List.length rest₈.2
  rw [List.length_drop] at left₈
  exact (calm_getU8 (by omega)).bind fun _ _ _ => .pure trivial

lemma safe_parseMessage : Safe parseMessage := by
  refine PfcpHeader.safe_decode.bind fun header => (lift ?_).bind fun bodyLen => ?_
  · unfold bodyLength
    dsimp only
    split <;> exact nofun
  · refine (checked fun _ enough => (Calm.copyToBytes enough).noPanic).bind fun body => ?_
    exact (readWhole (PfcpMessage.safe_decodeBody header.messageType) body).bind
      fun _ => .pure _

end NextGCore.Pfcp
