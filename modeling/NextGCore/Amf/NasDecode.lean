import NextGCore.Amf.NasSecurity

/-!
# What the uplink decoders can do

Both decoders gate the header, may reset COUNT, and then either refuse the
frame, leaving COUNT where the reset left it, or move COUNT to the candidate.
Everything proved about them is derived from the case lemmas of this file.
-/

namespace NextGCore.Amf

open Crypt Nas

namespace NasSecurityHeader

variable (header : NasSecurityHeader) (payload : Bytes) {message : Bytes}

lemma encode_append : header.encode ++ payload =
    header.extendedProtocolDiscriminator :: header.securityHeaderType ::
      (header.messageAuthenticationCode.toList ++ header.sequenceNumber :: payload) := by
  simp [encode]

@[simp]
lemma decode_encode : decode (header.encode ++ payload) = some header := by
  rw [encode_append, toList_mac]
  simp only [List.cons_append, List.nil_append, decode, mac_octets]

@[simp]
lemma drop_two_encode : (header.encode ++ payload).drop 2 =
    header.messageAuthenticationCode.toList ++ header.sequenceNumber :: payload := by
  rw [encode_append]
  rfl

@[simp]
lemma drop_seven_encode : (header.encode ++ payload).drop 7 = payload := by
  rw [encode_append, toList_mac]
  rfl

@[simp]
lemma getElem?_six_encode :
  (header.encode ++ payload)[6]? = some header.sequenceNumber := by
  rw [encode_append, toList_mac]
  rfl

lemma length_encode_append : (header.encode ++ payload).length = 7 + payload.length := by
  rw [encode_append, toList_mac]
  simp only [List.length_cons, List.length_append, List.length_nil]
  omega

lemma not_short_encode : ¬ (header.encode ++ payload).length < 7 := by
  rw [length_encode_append]
  omega

lemma decode_short (short : message.length < 7) : decode message = none := by
  match message with
  | [] | [_] | [_, _] | [_, _, _] | [_, _, _, _] | [_, _, _, _, _] | [_, _, _, _, _, _] =>
    rfl
  | _ :: _ :: _ :: _ :: _ :: _ :: _ :: rest =>
    simp only [List.length_cons] at short
    omega

lemma exists_header (long : ¬ message.length < 7) :
  ∃ header payload, message = encode header ++ payload := by
  match message, long with
  | epd :: sht :: m0 :: m1 :: m2 :: m3 :: sqn :: payload, _ =>
    exact ⟨⟨epd, sht, octets4 m0 m1 m2 m3, sqn⟩, payload, rfl⟩
  | [], long | [_], long | [_, _], long | [_, _, _], long | [_, _, _, _], long
  | [_, _, _, _, _], long | [_, _, _, _, _, _], long =>
    exact absurd (by simp) long

end NasSecurityHeader

def SecurityHeaderType.Protects (headerType : SecurityHeaderType) : Prop :=
  headerType.ciphered ∨ headerType.integrityProtected

instance (headerType : SecurityHeaderType) : Decidable headerType.Protects :=
  inferInstanceAs (Decidable (_ ∨ _))

lemma not_protects_iff (headerType : SecurityHeaderType) :
  (¬ headerType.ciphered ∧ ¬ headerType.integrityProtected) ↔ ¬ headerType.Protects := by
  rw [SecurityHeaderType.Protects, not_or]

section Gate

variable (ue : AmfUe) (securityHeaderType : UInt8)

lemma resetUplink_eq : resetUplink ue securityHeaderType =
    { ue with
      ulCount := if (uplinkHeaderType ue securityHeaderType).newSecurityContext
        then 0 else ue.ulCount
      ulCountEstablished :=
        !(uplinkHeaderType ue securityHeaderType).newSecurityContext &&
          ue.ulCountEstablished } := by
  unfold resetUplink
  cases (uplinkHeaderType ue securityHeaderType).newSecurityContext <;> rfl

lemma resetUplink_selectedEncAlgorithm :
  (resetUplink ue securityHeaderType).selectedEncAlgorithm = ue.selectedEncAlgorithm := by
  rw [resetUplink_eq]

/-- The reset loses something: the header opens a new context over a COUNT or
a baseline. -/
def Forgets : Prop :=
  (uplinkHeaderType ue securityHeaderType).newSecurityContext ∧
    (ue.ulCount ≠ 0 ∨ ue.ulCountEstablished)

lemma not_forgets_iff : ¬ Forgets ue securityHeaderType ↔
    (resetUplink ue securityHeaderType).ulCount = ue.ulCount ∧
      (resetUplink ue securityHeaderType).ulCountEstablished = ue.ulCountEstablished := by
  unfold Forgets
  rw [resetUplink_eq]
  cases (uplinkHeaderType ue securityHeaderType).newSecurityContext with
  | false => simp
  | true =>
    simp only [true_and, not_or, ne_eq, not_not, if_true, Bool.not_true,
      Bool.false_and, Bool.not_eq_true]
    exact and_congr eq_comm eq_comm

end Gate

section Legacy

variable (crypt : Primitives) (ue : AmfUe) (headerType : SecurityHeaderType)
  (header : NasSecurityHeader) (payload : Bytes)

abbrev AmfUe.legacyCount (ue : AmfUe) (sqn : UInt8) : UInt32 :=
  legacyCandidate (ue.ulCount &&& 0x00ffffff) sqn

abbrev AmfUe.uplinkMac (ue : AmfUe) (count : UInt32) (sqn : UInt8) : Vector UInt8 4 :=
  nasMacCalculate crypt ue.selectedIntAlgorithm ue.knasInt count ue.accessType
    Direction.uplink (sqn :: payload)

def LegacyRefuses : Prop :=
  headerType.integrityProtected ∧ ((ue.ulCountEstablished ∧
        ue.legacyCount header.sequenceNumber ≤ ue.ulCount &&& 0x00ffffff) ∨
      ue.uplinkMac crypt payload (ue.legacyCount header.sequenceNumber)
        header.sequenceNumber ≠ header.messageAuthenticationCode)

instance : Decidable (LegacyRefuses crypt ue headerType header payload) :=
  inferInstanceAs (Decidable (_ ∧ _))

def legacyCommit : AmfUe :=
  { ue with
    ulCount := ue.legacyCount header.sequenceNumber
    ulCountEstablished := headerType.integrityProtected || ue.ulCountEstablished }

def legacyPlain : Bytes :=
  if headerType.ciphered then
    nasEncrypt crypt ue.selectedEncAlgorithm ue.knasEnc
      (ue.legacyCount header.sequenceNumber) ue.accessType Direction.uplink payload
  else payload

lemma decodeLegacyFrame_refuses (refuses : LegacyRefuses crypt ue headerType header payload) :
  decodeLegacyFrame crypt ue headerType header payload =
    ({ ue with macFailed := true }, .error .macVerificationFailed) := by
  obtain ⟨integrity, reason⟩ := refuses
  unfold decodeLegacyFrame
  by_cases replayed : headerType.integrityProtected ∧ ue.ulCountEstablished ∧
      ue.legacyCount header.sequenceNumber ≤ ue.ulCount &&& 0x00ffffff
  · exact if_pos replayed
  · refine (if_neg replayed).trans (if_pos ⟨integrity, ?_⟩)
    exact reason.resolve_left fun replay => replayed ⟨integrity, replay⟩

lemma decodeLegacyFrame_commits (accepts : ¬ LegacyRefuses crypt ue headerType header payload) :
  decodeLegacyFrame crypt ue headerType header payload = (legacyCommit ue headerType header,
      if headerType.ciphered ∧ payload = [] then .error .emptyPayload
      else .ok (legacyPlain crypt ue headerType header payload)) := by
  have notReplayed : ¬ (headerType.integrityProtected ∧ ue.ulCountEstablished ∧
      ue.legacyCount header.sequenceNumber ≤ ue.ulCount &&& 0x00ffffff) :=
    fun replay => accepts ⟨replay.1, .inl replay.2⟩
  have verified : ¬ (headerType.integrityProtected ∧
      ue.uplinkMac crypt payload (ue.legacyCount header.sequenceNumber)
        header.sequenceNumber ≠ header.messageAuthenticationCode) :=
    fun forged => accepts ⟨forged.1, .inr forged.2⟩
  refine (if_neg notReplayed).trans ((if_neg verified).trans ?_)
  cases ciphered : headerType.ciphered with
  | false => simp [legacyCommit, legacyPlain, ciphered]
  | true => cases payload <;> simp [legacyCommit, legacyPlain, ciphered]

variable (securityHeaderType : UInt8) {message : Bytes}

lemma decodeLegacy_unprotected (plain : ¬ (uplinkProtection ue securityHeaderType).Protects) :
  nas5gsSecurityDecodeLegacy crypt ue securityHeaderType message =
    (resetUplink ue securityHeaderType, .ok message) :=
  if_pos ((not_protects_iff _).mpr plain)

lemma decodeLegacy_short (protects : (uplinkProtection ue securityHeaderType).Protects)
  (short : message.length < 7) :
  nas5gsSecurityDecodeLegacy crypt ue securityHeaderType message =
    (resetUplink ue securityHeaderType, .error .messageTooShort) :=
  (if_neg fun plain => (not_protects_iff _).mp plain protects).trans (if_pos short)

lemma decodeLegacy_frame (protects : (uplinkProtection ue securityHeaderType).Protects) :
  nas5gsSecurityDecodeLegacy crypt ue securityHeaderType (header.encode ++ payload) =
    decodeLegacyFrame crypt (resetUplink ue securityHeaderType)
      (uplinkProtection ue securityHeaderType) header payload := by
  refine (if_neg fun plain => (not_protects_iff _).mp plain protects).trans ?_
  rw [if_neg (header.not_short_encode payload), header.decode_encode, header.drop_seven_encode]

end Legacy

section Nextgcore

variable (crypt : Primitives) (ue : AmfUe) (headerType : SecurityHeaderType)
  (header : NasSecurityHeader) (payload : Bytes)

abbrev AmfUe.nextgcoreCount (ue : AmfUe) (sqn : UInt8) : NasCount :=
  (nasCountFromU32 ue.ulCount).estimate sqn

/-- The adapter refuses the frame: a replay, or a MAC that is wrong or cannot
be computed. -/
def NextgcoreRefuses : Prop :=
  (ue.ulCountEstablished ∧ headerType.integrityProtected ∧
      (ue.nextgcoreCount header.sequenceNumber).value ≤ (nasCountFromU32 ue.ulCount).value) ∨
    (nasContext ue headerType).calculateMac crypt Direction.uplink 1
      (ue.nextgcoreCount header.sequenceNumber).value
      (header.sequenceNumber :: payload) ≠ .ok header.messageAuthenticationCode

def nextgcorePlain : Except NasError Bytes :=
  if headerType.ciphered then
    (nasContext ue headerType).cipher crypt Direction.uplink 1
      (ue.nextgcoreCount header.sequenceNumber).value payload
  else .ok payload

def nextgcoreCommit : AmfUe :=
  { ue with
    ulCount := nasCountToU32 (ue.nextgcoreCount header.sequenceNumber)
    ulCountEstablished := true }

lemma adapter_keys :
  ({ nasContext ue headerType with ulCount := nasCountFromU32 ue.ulCount } :
    NasSecurityContext).SameKeys (nasContext ue headerType) :=
  ⟨rfl, rfl, rfl⟩

lemma decodeNextgcoreFrame_refuses
  (refuses : NextgcoreRefuses crypt ue headerType header payload) :
  ∃ macFailed error, decodeNextgcoreFrame crypt ue headerType header.sequenceNumber
        (header.messageAuthenticationCode.toList ++ header.sequenceNumber :: payload) =
      ({ ue with macFailed }, .error error) := by
  by_cases replayed : ue.ulCountEstablished ∧ headerType.integrityProtected ∧
      (ue.nextgcoreCount header.sequenceNumber).value ≤ (nasCountFromU32 ue.ulCount).value
  · exact ⟨true, _, if_pos replayed⟩
  · have mismatch := refuses.resolve_left replayed
    have calculation := (adapter_keys ue headerType).calculateMac crypt Direction.uplink 1
      (ue.nextgcoreCount header.sequenceNumber).value (header.sequenceNumber :: payload)
    simp only [decodeNextgcoreFrame]
    rw [if_neg replayed]
    cases calculated : (nasContext ue headerType).calculateMac crypt Direction.uplink 1
        (ue.nextgcoreCount header.sequenceNumber).value
        (header.sequenceNumber :: payload) with
    | error error =>
      rw [calculated] at calculation
      rw [unprotect_uncalculated calculation]
      cases error <;> exact ⟨_, _, rfl⟩
    | ok mac =>
      rw [calculated] at mismatch calculation
      have forged : header.messageAuthenticationCode ≠ mac := by
        rintro rfl
        exact mismatch rfl
      rw [unprotect_forged calculation forged]
      exact ⟨true, _, rfl⟩

lemma nextgcorePlain_error_iff :
  (∃ failure, nextgcorePlain crypt ue headerType header payload = .error failure) ↔
    headerType.ciphered ∧ 3 < ue.selectedEncAlgorithm := by
  unfold nextgcorePlain
  cases headerType.ciphered with
  | false => simp
  | true =>
    simp only [if_true, true_and]
    constructor
    · rintro ⟨failure, undeciphered⟩
      by_contra known
      obtain ⟨text, deciphered⟩ := (nasContext ue headerType).exists_cipher crypt
        (UInt8.not_lt.mp known) Direction.uplink 1
        (ue.nextgcoreCount header.sequenceNumber).value payload
      rw [undeciphered] at deciphered
      cases deciphered
    · intro unknown
      exact (nasContext ue headerType).cipher_unsupported crypt unknown _ _ _ _

variable {crypt ue headerType header payload}

section

variable (accepts : ¬ NextgcoreRefuses crypt ue headerType header payload)

include accepts

lemma unprotect_adapter :
  unprotectNasMessage crypt
      { nasContext ue headerType with ulCount := nasCountFromU32 ue.ulCount }
      Direction.uplink
      (header.messageAuthenticationCode.toList ++ header.sequenceNumber :: payload)
      headerType.ciphered =
    (({ nasContext ue headerType with ulCount := nasCountFromU32 ue.ulCount } :
        NasSecurityContext).commit Direction.uplink (ue.nextgcoreCount header.sequenceNumber),
      nextgcorePlain crypt ue headerType header payload) := by
  have keys := adapter_keys ue headerType
  have verified := not_not.mp fun mismatch => accepts (.inr mismatch)
  rw [← keys.calculateMac crypt] at verified
  rw [unprotect_accepts verified (.inl rfl), nextgcorePlain, ← keys.cipher crypt]
  rfl

lemma decodeNextgcoreFrame_commits {plain : Bytes}
  (deciphered : nextgcorePlain crypt ue headerType header payload = .ok plain) :
  decodeNextgcoreFrame crypt ue headerType header.sequenceNumber
      (header.messageAuthenticationCode.toList ++ header.sequenceNumber :: payload) =
    (nextgcoreCommit ue header, .ok plain) := by
  have notReplayed := fun replay => accepts (.inl replay)
  simp only [decodeNextgcoreFrame]
  rw [if_neg notReplayed, unprotect_adapter accepts, deciphered]
  rfl

lemma decodeNextgcoreFrame_undeciphered {failure : NasError}
  (undeciphered : nextgcorePlain crypt ue headerType header payload = .error failure) :
  ∃ macFailed error, decodeNextgcoreFrame crypt ue headerType header.sequenceNumber
        (header.messageAuthenticationCode.toList ++ header.sequenceNumber :: payload) =
      ({ ue with macFailed }, .error error) := by
  have notReplayed := fun replay => accepts (.inl replay)
  simp only [decodeNextgcoreFrame]
  rw [if_neg notReplayed, unprotect_adapter accepts, undeciphered]
  cases failure <;> exact ⟨_, _, rfl⟩

end

variable (crypt ue header payload) (securityHeaderType : UInt8) {message : Bytes}

lemma decodeNextgcore_unprotected (plain : ¬ (uplinkProtection ue securityHeaderType).Protects) :
  nas5gsSecurityDecodeNextgcore crypt ue securityHeaderType message =
    (resetUplink ue securityHeaderType, .ok message) :=
  if_pos ((not_protects_iff _).mpr plain)

lemma decodeNextgcore_short (protects : (uplinkProtection ue securityHeaderType).Protects)
  (short : message.length < 7) :
  nas5gsSecurityDecodeNextgcore crypt ue securityHeaderType message =
    (resetUplink ue securityHeaderType, .error .messageTooShort) :=
  (if_neg fun plain => (not_protects_iff _).mp plain protects).trans (dif_pos short)

lemma decodeNextgcore_frame (protects : (uplinkProtection ue securityHeaderType).Protects) :
  nas5gsSecurityDecodeNextgcore crypt ue securityHeaderType (header.encode ++ payload) =
    decodeNextgcoreFrame crypt (resetUplink ue securityHeaderType)
      (uplinkProtection ue securityHeaderType) header.sequenceNumber
      (header.messageAuthenticationCode.toList ++ header.sequenceNumber :: payload) := by
  refine (if_neg fun plain => (not_protects_iff _).mp plain protects).trans ?_
  rw [dif_neg (header.not_short_encode payload), header.drop_two_encode]
  congr 1
  have octet := header.getElem?_six_encode payload
  exact (List.getElem?_eq_some_iff.mp octet).2

end Nextgcore

section Keeps

variable (crypt : Primitives) (ue : AmfUe) (securityHeaderType : UInt8) (message : Bytes)

abbrev AmfUe.withUplink (ue : AmfUe) (macFailed : Bool) (ulCount : UInt32)
  (ulCountEstablished : Bool) : AmfUe :=
  { ue with macFailed, ulCount, ulCountEstablished }

lemma decodeLegacy_keeps : ∃ macFailed ulCount established,
    (nas5gsSecurityDecodeLegacy crypt ue securityHeaderType message).1 =
      ue.withUplink macFailed ulCount established := by
  by_cases protects : (uplinkProtection ue securityHeaderType).Protects
  · by_cases short : message.length < 7
    · rw [decodeLegacy_short crypt ue _ protects short, resetUplink_eq]
      exact ⟨_, _, _, rfl⟩
    · obtain ⟨header, payload, rfl⟩ := NasSecurityHeader.exists_header short
      rw [decodeLegacy_frame crypt ue header payload _ protects, resetUplink_eq]
      by_cases refuses : LegacyRefuses crypt (resetUplink ue securityHeaderType)
          (uplinkProtection ue securityHeaderType) header payload
      · rw [resetUplink_eq] at refuses
        rw [decodeLegacyFrame_refuses _ _ _ _ _ refuses]
        exact ⟨_, _, _, rfl⟩
      · rw [resetUplink_eq] at refuses
        rw [decodeLegacyFrame_commits _ _ _ _ _ refuses]
        exact ⟨_, _, _, rfl⟩
  · rw [decodeLegacy_unprotected crypt ue _ protects, resetUplink_eq]
    exact ⟨_, _, _, rfl⟩

lemma decodeNextgcore_keeps : ∃ macFailed ulCount established,
    (nas5gsSecurityDecodeNextgcore crypt ue securityHeaderType message).1 =
      ue.withUplink macFailed ulCount established := by
  by_cases protects : (uplinkProtection ue securityHeaderType).Protects
  · by_cases short : message.length < 7
    · rw [decodeNextgcore_short crypt ue _ protects short, resetUplink_eq]
      exact ⟨_, _, _, rfl⟩
    · obtain ⟨header, payload, rfl⟩ := NasSecurityHeader.exists_header short
      rw [decodeNextgcore_frame crypt ue header payload _ protects, resetUplink_eq]
      by_cases refuses : NextgcoreRefuses crypt (resetUplink ue securityHeaderType)
          (uplinkProtection ue securityHeaderType) header payload
      · rw [resetUplink_eq] at refuses
        obtain ⟨macFailed, error, answer⟩ := decodeNextgcoreFrame_refuses _ _ _ _ _ refuses
        rw [answer]
        exact ⟨_, _, _, rfl⟩
      · rw [resetUplink_eq] at refuses
        cases deciphered : nextgcorePlain crypt _
            (uplinkProtection ue securityHeaderType) header payload with
        | ok plain =>
          rw [decodeNextgcoreFrame_commits refuses deciphered]
          exact ⟨_, _, _, rfl⟩
        | error failure =>
          obtain ⟨macFailed, error, answer⟩ :=
            decodeNextgcoreFrame_undeciphered refuses deciphered
          rw [answer]
          exact ⟨_, _, _, rfl⟩
  · rw [decodeNextgcore_unprotected crypt ue _ protects, resetUplink_eq]
    exact ⟨_, _, _, rfl⟩

lemma decode_keeps : ∃ macFailed ulCount established,
    (nas5gsSecurityDecode crypt ue securityHeaderType message).1 =
      ue.withUplink macFailed ulCount established := by
  unfold nas5gsSecurityDecode
  split
  · exact decodeNextgcore_keeps crypt ue securityHeaderType message
  · exact decodeLegacy_keeps crypt ue securityHeaderType message

end Keeps

end NextGCore.Amf
