import NextGCore.Amf.CryptoAgreement

/-!
# Where the two uplink decoders agree

The decoders share a policy but not its code: COUNT is estimated twice, null
algorithms are dropped twice, and the payload is looked at in different places.
For frames at most 128 ahead of the stored sequence number the two COUNTs are
the same; what is left apart are ciphered frames.
-/

namespace NextGCore.Amf

open Crypt Nas Nat NasCount NasSecurityHeader

section Counts

variable (word : UInt32) {ulCount : UInt32}

lemma and_ffff00 (number : ℕ) : number &&& 0xffff00 = number / 256 % 2 ^ 16 * 256 := by
  have shifted : number / 256 % 2 ^ 16 * 256 = (number >>> 8 % 2 ^ 16) <<< 8 := by
    rw [shiftLeft_eq, shiftRight_eq_div_pow]
  rw [shifted, show (0xffff00 : ℕ) = (2 ^ 16 - 1) <<< 8 from rfl]
  apply eq_of_testBit_eq
  intro bit
  simp only [testBit_and, testBit_shiftLeft, testBit_mod_two_pow,
    testBit_shiftRight, testBit_two_pow_sub_one]
  by_cases low : bit ≥ 8
  · simp [low, show 8 + (bit - 8) = bit by omega, Bool.and_comm]
  · simp [low]

lemma toNat_low_octet : (word &&& 0xff).toUInt8.toNat = word.toNat % 256 := by
  rw [UInt32.toNat_toUInt8, UInt32.toNat_and]
  have masked := and_two_pow_sub_one_eq_mod word.toNat 8
  change (word.toNat &&& (2 ^ 8 - 1)) % 2 ^ 8 = _
  omega

lemma toNat_legacyCandidate {stored : UInt32} (small : stored.toNat < 2 ^ 24) (sqn : UInt8) :
  (legacyCandidate stored sqn).toNat =
    (stored.toNat + (sqn.toNat + 256 - stored.toNat % 256) % 256) % 2 ^ 24 := by
  have octet : sqn.toNat < 2 ^ 8 := sqn.toNat_lt
  have generation : (stored &&& 0xffff00).toNat = (stored.toNat / 256) <<< 8 := by
    rw [UInt32.toNat_and, shiftLeft_eq]
    change stored.toNat &&& 0xffff00 = _
    rw [and_ffff00]
    omega
  have next : ((stored &&& 0xffff00) + 0x100).toNat = (stored.toNat / 256 + 1) <<< 8 := by
    rw [UInt32.toNat_add, generation]
    simp only [shiftLeft_eq]
    change (stored.toNat / 256 * 2 ^ 8 + 256) % 2 ^ 32 = _
    omega
  unfold legacyCandidate
  rw [toNat_mask24]
  split
  · next lower =>
      have below : sqn.toNat < stored.toNat % 256 := by
        have compared := UInt8.lt_iff_toNat_lt.mp lower
        rwa [toNat_low_octet] at compared
      rw [UInt32.toNat_or, next, UInt8.toNat_toUInt32,
        ← shiftLeft_add_eq_or_of_lt octet, shiftLeft_eq]
      omega
  · next notLower =>
      have atLeast : stored.toNat % 256 ≤ sqn.toNat := by
        have compared := fun less => notLower (UInt8.lt_iff_toNat_lt.mpr less)
        rw [toNat_low_octet] at compared
        exact Nat.not_lt.mp compared
      rw [UInt32.toNat_or, generation, UInt8.toNat_toUInt32,
        ← shiftLeft_add_eq_or_of_lt octet, shiftLeft_eq]
      omega

variable {ue : AmfUe} {sqn : UInt8}

lemma forward_nasCountFromU32 (sqn : UInt8) :
  (nasCountFromU32 word).forward sqn = (sqn.toNat + 256 - word.toNat % 256) % 256 := by
  rw [NasCount.forward, nasCountFromU32, new, toNat_low_octet]

@[simp]
lemma value_nasCountFromU32 : (nasCountFromU32 word).value = word :=
  value_new_shift word

/-- A COUNT that a record and a frame may bring to a decoder: nothing received
yet, or a sequence number at most 128 ahead that stays within 24 bits. -/
def InWindow (ulCount : UInt32) (sqn : UInt8) : Prop :=
  ulCount = 0 ∨ (ulCount < 0xFFFF00 ∧ sqn - (ulCount &&& 0xff).toUInt8 ≤ 128)

lemma InWindow.small (window : InWindow ulCount sqn) : ulCount.toNat < 2 ^ 24 := by
  rcases window with rfl | ⟨below, -⟩
  · decide
  · have number : ulCount.toNat < 0xFFFF00 := UInt32.lt_iff_toNat_lt.mp below
    omega

lemma InWindow.mask (window : InWindow ulCount sqn) : ulCount &&& 0x00ffffff = ulCount :=
  mask24_of_lt window.small

lemma InWindow.count (window : InWindow ue.ulCount sqn) :
  (ue.nextgcoreCount sqn).value = ue.legacyCount sqn ∧ (ue.legacyCount sqn).toNat < 2 ^ 24 := by
  have octet : sqn.toNat < 256 := sqn.toNat_lt
  have legacy := toNat_legacyCandidate window.small sqn
  have distance := forward_nasCountFromU32 ue.ulCount sqn
  have small := window.small
  rw [AmfUe.legacyCount, window.mask]
  refine ⟨UInt32.toNat_inj.mp ?_, by omega⟩
  rcases window with zero | ⟨below, ahead⟩
  · rw [zero] at distance legacy
    simp only [UInt32.toNat_zero] at distance legacy
    by_cases forward : (nasCountFromU32 ue.ulCount).forward sqn ≤ 128
    · rw [AmfUe.nextgcoreCount, estimate_forward _ _ forward]
      rw [zero] at forward ⊢
      rw [legacy, value_nasCountFromU32, distance, UInt32.toNat_zero]
      omega
    · rw [AmfUe.nextgcoreCount, estimate_backward _ _ (by omega)]
      rw [zero] at forward ⊢
      have first : (nasCountFromU32 0).sqn < sqn ∧ (nasCountFromU32 0).overflow = 0 := by
        refine ⟨UInt8.lt_iff_toNat_lt.mpr ?_, rfl⟩
        change 0 < sqn.toNat
        omega
      rw [if_pos first, legacy]
      omega
  · have number : ue.ulCount.toNat < 0xFFFF00 := UInt32.lt_iff_toNat_lt.mp below
    have forward : (nasCountFromU32 ue.ulCount).forward sqn ≤ 128 := by
      rw [← toNat_sub_sqn]
      exact UInt8.le_iff_toNat_le.mp ahead
    rw [AmfUe.nextgcoreCount, estimate_forward _ _ forward, legacy, value_nasCountFromU32, distance]
    omega

end Counts

def SameResult : Except NasSecurityError Bytes → Except NasSecurityError Bytes → Prop
  | .ok left, .ok right => left = right
  | .error _, .error _ => True
  | _, _ => False

def Agree (left right : AmfUe × Except NasSecurityError Bytes) : Prop :=
  SameResult left.2 right.2 ∧ left.1.ulCount = right.1.ulCount ∧
    left.1.ulCountEstablished = right.1.ulCountEstablished

section Frames

variable (crypt : Primitives) (ue : AmfUe) (headerType : SecurityHeaderType)
  (header : NasSecurityHeader) (payload : Bytes)

/-- When the decoders agree on a frame with a header.  Frames that are not
ciphered are never apart.  A ciphered frame must be refused by both or carry a
payload that both decipher alike; under the null integrity algorithm the
adapter still wants a zero MAC and still establishes a baseline. -/
def FrameAgreesWhen : Prop :=
  headerType.ciphered →
    if headerType.integrityProtected then
      LegacyRefuses crypt ue headerType header payload ∨
        (payload ≠ [] ∧ TailClear ue.selectedEncAlgorithm payload)
    else if header.messageAuthenticationCode = zeros4 then
      payload ≠ [] ∧ ue.ulCountEstablished ∧ TailClear ue.selectedEncAlgorithm payload
    else
      payload = [] ∧ ue.legacyCount header.sequenceNumber = ue.ulCount

variable {ue headerType header}

lemma refuses_iff (supported : Supported ue) (window : InWindow ue.ulCount header.sequenceNumber)
  (integrity : headerType.integrityProtected) :
  NextgcoreRefuses crypt ue headerType header payload ↔
    LegacyRefuses crypt ue headerType header payload := by
  have count := (window.count).1
  unfold NextgcoreRefuses LegacyRefuses
  rw [calculateMac_nasContext crypt headerType _ _ _ supported, if_pos integrity, count,
    value_nasCountFromU32, window.mask]
  simp only [integrity, true_and, ne_eq, Except.ok.injEq]

lemma refuses_unprotected_iff (supported : Supported ue)
  (noIntegrity : headerType.integrityProtected = false) :
  NextgcoreRefuses crypt ue headerType header payload ↔
    header.messageAuthenticationCode ≠ zeros4 := by
  unfold NextgcoreRefuses
  rw [calculateMac_nasContext crypt headerType _ _ _ supported]
  simp only [noIntegrity, Bool.false_eq_true, false_and, and_false, false_or, if_false,
    ne_eq, Except.ok.injEq]
  exact not_congr eq_comm

lemma exists_nextgcorePlain (supported : Supported ue) :
  ∃ plain, nextgcorePlain crypt ue headerType header payload = .ok plain := by
  cases deciphered : nextgcorePlain crypt ue headerType header payload with
  | ok plain => exact ⟨plain, rfl⟩
  | error failure =>
    have unsupported := (nextgcorePlain_error_iff crypt ue headerType header payload).mp
      ⟨failure, deciphered⟩
    exact absurd supported.ciphering (UInt8.not_le.mpr unsupported.2)

lemma plain_eq_iff (supported : Supported ue)
  (window : InWindow ue.ulCount header.sequenceNumber) {plain : Bytes}
  (deciphered : nextgcorePlain crypt ue headerType header payload = .ok plain) :
  legacyPlain crypt ue headerType header payload = plain ↔
    (headerType.ciphered → TailClear ue.selectedEncAlgorithm payload) := by
  unfold nextgcorePlain at deciphered
  unfold legacyPlain
  cases ciphered : headerType.ciphered with
  | false =>
    rw [ciphered] at deciphered
    simpa using deciphered
  | true =>
    rw [ciphered] at deciphered
    simp only [if_true, window.count.1] at deciphered ⊢
    rw [true_imp_iff, ← cipher_nasContext_iff crypt headerType Direction.uplink
      (ue.legacyCount header.sequenceNumber) payload supported, deciphered,
      Except.ok.injEq]
    exact eq_comm

lemma commits_ulCount (window : InWindow ue.ulCount header.sequenceNumber) :
  (legacyCommit ue headerType header).ulCount = (nextgcoreCommit ue header).ulCount := by
  obtain ⟨same, small⟩ := window.count
  change ue.legacyCount header.sequenceNumber =
    (ue.nextgcoreCount header.sequenceNumber).value &&& 0x00ffffff
  rw [same, mask24_of_lt small]

lemma frames_agree_protected (supported : Supported ue)
  (window : InWindow ue.ulCount header.sequenceNumber)
  (integrity : headerType.integrityProtected) :
  Agree (decodeLegacyFrame crypt ue headerType header payload)
      (decodeNextgcoreFrame crypt ue headerType header.sequenceNumber
        (header.messageAuthenticationCode.toList ++ header.sequenceNumber :: payload)) ↔
    FrameAgreesWhen crypt ue headerType header payload := by
  simp only [FrameAgreesWhen, if_pos integrity]
  by_cases refuses : LegacyRefuses crypt ue headerType header payload
  · obtain ⟨macFailed, error, answer⟩ := decodeNextgcoreFrame_refuses _ _ _ _ _
      ((refuses_iff crypt payload supported window integrity).mpr refuses)
    rw [decodeLegacyFrame_refuses _ _ _ _ _ refuses, answer]
    exact iff_of_true ⟨trivial, rfl, rfl⟩ fun _ => .inl refuses
  · have accepts := fun refused =>
      refuses ((refuses_iff crypt payload supported window integrity).mp refused)
    obtain ⟨plain, deciphered⟩ := exists_nextgcorePlain crypt payload supported
    rw [decodeLegacyFrame_commits _ _ _ _ _ refuses,
      decodeNextgcoreFrame_commits accepts deciphered]
    simp only [refuses, false_or]
    by_cases empty : headerType.ciphered ∧ payload = []
    · rw [if_pos empty]
      exact iff_of_false (fun agree => agree.1) fun when => (when empty.1).1 empty.2
    · have established : (legacyCommit ue headerType header).ulCountEstablished =
          (nextgcoreCommit ue header).ulCountEstablished := by
        simp [legacyCommit, nextgcoreCommit, integrity]
      rw [if_neg empty]
      simp only [Agree, SameResult, commits_ulCount window, established, and_true]
      rw [plain_eq_iff crypt payload supported window deciphered]
      exact forall_congr' fun ciphered =>
        (and_iff_right fun nothing => empty ⟨ciphered, nothing⟩).symm

lemma frames_agree_unprotected (supported : Supported ue)
  (window : InWindow ue.ulCount header.sequenceNumber)
  (noIntegrity : headerType.integrityProtected = false)
  (ciphered : headerType.ciphered) :
  Agree (decodeLegacyFrame crypt ue headerType header payload)
      (decodeNextgcoreFrame crypt ue headerType header.sequenceNumber
        (header.messageAuthenticationCode.toList ++ header.sequenceNumber :: payload)) ↔
    FrameAgreesWhen crypt ue headerType header payload := by
  have legacyAccepts : ¬ LegacyRefuses crypt ue headerType header payload := by
    simp [LegacyRefuses, noIntegrity]
  simp only [FrameAgreesWhen, noIntegrity, ciphered, true_imp_iff, Bool.false_eq_true, if_false]
  rw [decodeLegacyFrame_commits _ _ _ _ _ legacyAccepts]
  by_cases zero : header.messageAuthenticationCode = zeros4
  · have accepts := fun refused =>
      (refuses_unprotected_iff crypt payload supported noIntegrity).mp refused zero
    obtain ⟨plain, deciphered⟩ := exists_nextgcorePlain crypt payload supported
    rw [decodeNextgcoreFrame_commits accepts deciphered, if_pos zero]
    by_cases empty : payload = []
    · rw [if_pos ⟨ciphered, empty⟩]
      exact iff_of_false (fun agree => agree.1) fun when => when.1 empty
    · rw [if_neg fun both => empty both.2]
      simp only [Agree, SameResult, commits_ulCount window, true_and]
      rw [plain_eq_iff crypt payload supported window deciphered]
      simp only [ciphered, true_imp_iff, legacyCommit, nextgcoreCommit, noIntegrity,
        Bool.false_or, ne_eq, empty, not_false_eq_true, true_and]
      exact and_comm
  · obtain ⟨macFailed, error, answer⟩ := decodeNextgcoreFrame_refuses _ _ _ _ _
      ((refuses_unprotected_iff crypt payload supported noIntegrity).mpr zero)
    rw [answer, if_neg zero]
    by_cases empty : payload = []
    · rw [if_pos ⟨ciphered, empty⟩]
      simp [Agree, SameResult, legacyCommit, noIntegrity, empty]
    · rw [if_neg fun both => empty both.2]
      exact iff_of_false (fun agree => agree.1) fun when => empty when.1

end Frames

variable (crypt : Primitives) (ue : AmfUe) (securityHeaderType : UInt8) (message : Bytes)

/-- When the decoders agree on a message: a condition on ciphered frames, in
the record that the header leaves. -/
def AgreesWhen : Prop :=
  match decode message with
  | none => True
  | some header =>
    FrameAgreesWhen crypt (resetUplink ue securityHeaderType)
      (uplinkProtection ue securityHeaderType) header (message.drop 7)

lemma resetUplink_supported (supported : Supported ue) :
  Supported (resetUplink ue securityHeaderType) := by
  rw [resetUplink_eq]
  exact ⟨supported.access, supported.ciphering, supported.integrity⟩

lemma resetUplink_inWindow {sqn : UInt8} (window : InWindow ue.ulCount sqn) :
  InWindow (resetUplink ue securityHeaderType).ulCount sqn := by
  rw [resetUplink_eq]
  cases (uplinkHeaderType ue securityHeaderType).newSecurityContext with
  | false => exact window
  | true => exact .inl rfl

/-- For 3GPP access, algorithms 0 to 3 and a frame at most 128 ahead of the
stored sequence number, the decoders agree exactly under `AgreesWhen`. -/
theorem decoders_agree_iff (supported : Supported ue) (below : ue.ulCount < 0xFFFF00)
  (window : ∀ sqn ∈ message[6]?, sqn - (ue.ulCount &&& 0xff).toUInt8 ≤ 128) :
  Agree (nas5gsSecurityDecodeLegacy crypt ue securityHeaderType message)
      (nas5gsSecurityDecodeNextgcore crypt ue securityHeaderType message) ↔
    AgreesWhen crypt ue securityHeaderType message := by
  unfold AgreesWhen
  by_cases protects : (uplinkProtection ue securityHeaderType).Protects
  · by_cases short : message.length < 7
    · rw [decodeLegacy_short crypt ue _ protects short,
        decodeNextgcore_short crypt ue _ protects short,
        decode_short short]
      exact iff_of_true ⟨trivial, rfl, rfl⟩ trivial
    · obtain ⟨header, payload, rfl⟩ := exists_header short
      have ahead := window header.sequenceNumber (header.getElem?_six_encode payload)
      have resetSupported := resetUplink_supported ue securityHeaderType supported
      have resetWindow := resetUplink_inWindow ue securityHeaderType (.inr ⟨below, ahead⟩)
      rw [decodeLegacy_frame crypt ue header payload _ protects,
        decodeNextgcore_frame crypt ue header payload _ protects]
      simp only [decode_encode, drop_seven_encode]
      cases integrity : (uplinkProtection ue securityHeaderType).integrityProtected with
      | true => exact frames_agree_protected crypt payload resetSupported resetWindow integrity
      | false =>
        have ciphered := protects.resolve_right (by simp [integrity])
        exact frames_agree_unprotected crypt payload resetSupported resetWindow integrity ciphered
  · have notCiphered : (uplinkProtection ue securityHeaderType).ciphered = false := by
      cases ciphered : (uplinkProtection ue securityHeaderType).ciphered with
      | false => rfl
      | true => exact absurd (.inl ciphered) protects
    rw [decodeLegacy_unprotected crypt ue _ protects,
      decodeNextgcore_unprotected crypt ue _ protects]
    refine iff_of_true ⟨rfl, rfl, rfl⟩ ?_
    cases decode message with
    | none => trivial
    | some header => simp [FrameAgreesWhen, notCiphered]

/-- A ciphered frame with one octet of payload and a MAC that verifies. -/
theorem decoders_agree_iff_sample :
  let message := [0x7e, 2, 56, 56, 56, 56, 6, 0x24]
  Agree (nas5gsSecurityDecodeLegacy .sample .sample 2 message)
    (nas5gsSecurityDecodeNextgcore .sample .sample 2 message) := by
  intro message
  have window : ∀ sqn ∈ message[6]?,
      sqn - (AmfUe.sample.ulCount &&& 0xff).toUInt8 ≤ 128 := by
    intro sqn found
    obtain rfl : 6 = sqn := Option.some.inj found
    decide
  apply (decoders_agree_iff .sample .sample 2 message ⟨by decide, by decide, by decide⟩
    (by decide) window).mpr
  exact fun _ => .inr ⟨by decide, tailClear_of_short (by decide)⟩

/-- With the null integrity algorithm and a MAC that is not zero, the legacy
decoder deciphers what the adapter refuses. -/
theorem decoders_disagree :
  ¬ ∀ (crypt : Primitives) (ue : AmfUe) (securityHeaderType : UInt8) (message : Bytes),
    Supported ue → ue.ulCount < 0xFFFF00 → securityHeaderType ≤ 4 →
    (∀ sqn ∈ message[6]?, sqn - (ue.ulCount &&& 0xff).toUInt8 ≤ 128) →
    Agree (nas5gsSecurityDecodeLegacy crypt ue securityHeaderType message)
      (nas5gsSecurityDecodeNextgcore crypt ue securityHeaderType message) := by
  intro agree
  have same := (agree .sample { AmfUe.sample with selectedIntAlgorithm := 0 } 2
    [0x7e, 2, 1, 2, 3, 4, 6, 0x24] ⟨by decide, by decide, by decide⟩ (by decide)
    (by decide) ?_).1
  · exact same
  · intro sqn found
    obtain rfl : 6 = sqn := Option.some.inj found
    decide

end NextGCore.Amf
