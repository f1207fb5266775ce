import NextGCore.Amf.NasDecode

/-!
# Verify, then commit

A decoder is atomic on a frame when an error leaves COUNT and the replay
baseline as they were.  Two writes break this: the reset that a header asks
for before anything is verified, and, in the legacy decoder, the COUNT of a
ciphered frame that turns out to be empty.
-/

namespace NextGCore.Amf

open Crypt Nas NasSecurityHeader

variable (before : AmfUe)

def Atomic (answer : AmfUe × Except NasSecurityError Bytes) : Prop :=
  ∀ error, answer.2 = .error error → answer.1.ulCount = before.ulCount ∧
      answer.1.ulCountEstablished = before.ulCountEstablished

@[simp]
lemma atomic_ok (after : AmfUe) (plain : Bytes) : Atomic before (after, .ok plain) := by
  simp [Atomic]

@[simp]
lemma atomic_error (after : AmfUe) (error : NasSecurityError) :
  Atomic before (after, .error error) ↔ after.ulCount = before.ulCount ∧
      after.ulCountEstablished = before.ulCountEstablished := by
  simp [Atomic]

variable (crypt : Primitives) (ue : AmfUe) (securityHeaderType : UInt8) (message : Bytes)

/-- When the legacy decoder is atomic: a frame that is too short or refused
must not have opened a new context over a COUNT or a baseline, and an empty
ciphered frame that is not refused must leave both where they were. -/
def LegacyAtomicWhen : Prop :=
  let headerType := uplinkProtection ue securityHeaderType
  let reset := resetUplink ue securityHeaderType
  headerType.Protects →
    match decode message with
    | none => ¬ Forgets ue securityHeaderType
    | some header =>
      if LegacyRefuses crypt reset headerType header (message.drop 7) then
        ¬ Forgets ue securityHeaderType
      else
        headerType.ciphered ∧ message.drop 7 = [] →
          reset.legacyCount header.sequenceNumber = ue.ulCount ∧
            (headerType.integrityProtected || reset.ulCountEstablished) = ue.ulCountEstablished

/-- When the adapter is atomic: a frame that is too short, refused or ciphered
with an algorithm it does not have must not have opened a new context over a
COUNT or a baseline. -/
def NextgcoreAtomicWhen : Prop :=
  let headerType := uplinkProtection ue securityHeaderType
  let reset := resetUplink ue securityHeaderType
  headerType.Protects →
    match decode message with
    | none => ¬ Forgets ue securityHeaderType
    | some header =>
      (NextgcoreRefuses crypt reset headerType header (message.drop 7) ∨
        headerType.ciphered ∧ 3 < ue.selectedEncAlgorithm) →
      ¬ Forgets ue securityHeaderType

def AtomicWhen : Prop :=
  if ue.useNextgcoreNasSecurity then
    NextgcoreAtomicWhen crypt ue securityHeaderType message
  else
    LegacyAtomicWhen crypt ue securityHeaderType message

lemma atomic_refusal_iff (macFailed : Bool) (error : NasSecurityError) :
  Atomic ue ({ resetUplink ue securityHeaderType with macFailed }, .error error) ↔
    ¬ Forgets ue securityHeaderType := by
  rw [atomic_error, not_forgets_iff]

lemma decodeLegacy_atomic_iff :
  Atomic ue (nas5gsSecurityDecodeLegacy crypt ue securityHeaderType message) ↔
    LegacyAtomicWhen crypt ue securityHeaderType message := by
  unfold LegacyAtomicWhen
  by_cases protects : (uplinkProtection ue securityHeaderType).Protects
  · simp only [protects, true_imp_iff]
    by_cases short : message.length < 7
    · rw [decodeLegacy_short crypt ue _ protects short, decode_short short]
      exact atomic_refusal_iff ue securityHeaderType _ _
    · obtain ⟨header, payload, rfl⟩ := exists_header short
      rw [decodeLegacy_frame crypt ue header payload _ protects]
      simp only [decode_encode, drop_seven_encode]
      split
      · next refuses =>
          rw [decodeLegacyFrame_refuses _ _ _ _ _ refuses]
          exact atomic_refusal_iff ue securityHeaderType _ _
      · next accepts =>
          rw [decodeLegacyFrame_commits _ _ _ _ _ accepts]
          by_cases empty : (uplinkProtection ue securityHeaderType).ciphered ∧ payload = []
          · rw [if_pos empty, atomic_error]
            simp only [empty, true_imp_iff, legacyCommit, and_self]
          · rw [if_neg empty]
            exact iff_of_true (atomic_ok _ _ _) fun both => absurd both empty
  · rw [decodeLegacy_unprotected crypt ue _ protects]
    exact iff_of_true (atomic_ok _ _ _) fun protects' => absurd protects' protects

lemma decodeNextgcore_atomic_iff :
  Atomic ue (nas5gsSecurityDecodeNextgcore crypt ue securityHeaderType message) ↔
    NextgcoreAtomicWhen crypt ue securityHeaderType message := by
  unfold NextgcoreAtomicWhen
  by_cases protects : (uplinkProtection ue securityHeaderType).Protects
  · simp only [protects, true_imp_iff]
    by_cases short : message.length < 7
    · rw [decodeNextgcore_short crypt ue _ protects short, decode_short short]
      exact atomic_refusal_iff ue securityHeaderType _ _
    · obtain ⟨header, payload, rfl⟩ := exists_header short
      rw [decodeNextgcore_frame crypt ue header payload _ protects]
      simp only [decode_encode, drop_seven_encode]
      by_cases refuses : NextgcoreRefuses crypt (resetUplink ue securityHeaderType)
          (uplinkProtection ue securityHeaderType) header payload
      · obtain ⟨macFailed, error, answer⟩ := decodeNextgcoreFrame_refuses _ _ _ _ _ refuses
        rw [answer, atomic_refusal_iff]
        simp only [refuses, true_or, true_imp_iff]
      · have undecipherable := nextgcorePlain_error_iff crypt (resetUplink ue securityHeaderType)
          (uplinkProtection ue securityHeaderType) header payload
        rw [resetUplink_selectedEncAlgorithm] at undecipherable
        simp only [refuses, false_or, ← undecipherable]
        cases deciphered : nextgcorePlain crypt (resetUplink ue securityHeaderType)
            (uplinkProtection ue securityHeaderType) header payload with
        | ok plain =>
          rw [decodeNextgcoreFrame_commits refuses deciphered]
          exact iff_of_true (atomic_ok _ _ _) fun failed => by simp at failed
        | error failure =>
          obtain ⟨macFailed, error, answer⟩ :=
            decodeNextgcoreFrame_undeciphered refuses deciphered
          rw [answer, atomic_refusal_iff]
          simp
  · rw [decodeNextgcore_unprotected crypt ue _ protects]
    exact iff_of_true (atomic_ok _ _ _) fun protects' => absurd protects' protects

/-- The uplink decoder is atomic on a frame exactly under `AtomicWhen`. -/
theorem decode_atomic_iff : Atomic ue (nas5gsSecurityDecode crypt ue securityHeaderType message) ↔
    AtomicWhen crypt ue securityHeaderType message := by
  unfold nas5gsSecurityDecode AtomicWhen
  split
  · exact decodeNextgcore_atomic_iff crypt ue securityHeaderType message
  · exact decodeLegacy_atomic_iff crypt ue securityHeaderType message

/-- A forged frame that announces a new context wipes COUNT 5 and its baseline
on its way to being refused. -/
theorem decode_not_atomic :
  ¬ ∀ (crypt : Primitives) (ue : AmfUe) (securityHeaderType : UInt8) (message : Bytes),
    Atomic ue (nas5gsSecurityDecode crypt ue securityHeaderType message) := by
  intro atomic
  have kept := (atomic .sample .sample 3 [0x7e, 3, 0xff, 0xff, 0xff, 0xff, 6, 0x7e]
    .macVerificationFailed (by decide)).1
  exact absurd kept (by decide)

end NextGCore.Amf
