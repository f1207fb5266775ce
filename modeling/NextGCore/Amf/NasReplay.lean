import NextGCore.Amf.NasDecode
import NextGCore.Library.Counters

/-!
# Replay protection of the uplink

An AMF with a security context receives any sequence of protected frames.  The
COUNTs it accepts frames at rise above a high-water mark, provided no header
resets an established baseline and the adapter's COUNT stays within the 24
bits that the record keeps of it.
-/

namespace NextGCore.Amf

open Crypt Nas Library SecurityHeaderType

structure UplinkFrame where
  securityHeaderType : UInt8
  message : Bytes
  secured : 1 ≤ securityHeaderType ∧ securityHeaderType ≤ 4

def uplink (crypt : Primitives) :
  Machine AmfUe UplinkFrame (Bytes × Except NasSecurityError Bytes) where
  step ue frame :=
    let (next, result) :=
      nas5gsSecurityDecode crypt ue frame.securityHeaderType frame.message
    (next, frame.message, result)

structure Accepted where
  count : UInt32
  message : Bytes

def accepted : AmfUe × Bytes × Except NasSecurityError Bytes → Option Accepted
  | (ue, message, .ok _) => some ⟨ue.ulCount, message⟩
  | (_, _, .error _) => none

/-- There is a security context, with another algorithm than NIA0. -/
structure Secured (ue : AmfUe) : Prop where
  available : ue.securityContextAvailable
  integrity : ue.selectedIntAlgorithm = 1 ∨ ue.selectedIntAlgorithm = 2 ∨
    ue.selectedIntAlgorithm = 3

def VerifiesAt (crypt : Primitives) (ue : AmfUe) (count : UInt32) (message : Bytes) : Prop :=
  ∃ header payload, message = NasSecurityHeader.encode header ++ payload ∧
    if ue.useNextgcoreNasSecurity then
      (nasContext ue { integrityProtected := true }).calculateMac crypt Direction.uplink 1
        count (header.sequenceNumber :: payload) = .ok header.messageAuthenticationCode
    else
      ue.uplinkMac crypt payload count header.sequenceNumber = header.messageAuthenticationCode

/-- The MAC of the message verifies at one COUNT at most. -/
def TellsCountsApart (crypt : Primitives) (ue : AmfUe) (message : Bytes) : Prop :=
  ∀ one other, VerifiesAt crypt ue one message → VerifiesAt crypt ue other message → one = other

/-- A frame does not undermine the baseline: its header opens no new context
over an established one, and the adapter does not verify its MAC at a COUNT of
more than 24 bits. -/
def KeepsBaseline (crypt : Primitives) (ue : AmfUe) (frame : UplinkFrame) : Prop :=
  ((fromByte frame.securityHeaderType).newSecurityContext →
      ue.ulCountEstablished = false) ∧
    (ue.useNextgcoreNasSecurity → ∀ sqn ∈ frame.message[6]?, ∀ count,
      count = ((resetUplink ue frame.securityHeaderType).nextgcoreCount sqn).value →
        VerifiesAt crypt ue count frame.message → count < 0x1000000)

def replayMark (ue : AmfUe) : Option ℕ :=
  if ue.ulCountEstablished then some (ue.ulCount &&& 0x00ffffff).toNat else none

/-- What a step does to the mark: it refuses the frame and leaves the mark, or
moves the mark to a higher COUNT at which the MAC verifies. -/
def Advances (crypt : Primitives) (ue : AmfUe) (message : Bytes)
  (answer : AmfUe × Except NasSecurityError Bytes) : Prop :=
  (replayMark answer.1 = replayMark ue ∧ ∃ error, answer.2 = .error error) ∨
    (replayMark answer.1 = some answer.1.ulCount.toNat ∧
      Below (replayMark ue) answer.1.ulCount.toNat ∧
      VerifiesAt crypt ue answer.1.ulCount message)

variable {crypt : Primitives} {ue : AmfUe}

lemma replayMark_established {count : UInt32} (established : ue.ulCountEstablished)
  (isCount : ue.ulCount = count) (small : count.toNat < 2 ^ 24) :
  replayMark ue = some count.toNat := by
  rw [replayMark, if_pos established, isCount, mask24_of_lt small]

lemma below_replayMark {count : ℕ}
  (above : ue.ulCountEstablished → (ue.ulCount &&& 0x00ffffff).toNat < count) :
  Below (replayMark ue) count := by
  unfold replayMark
  split
  · next established => exact (below_some _ _).mpr (above established)
  · exact below_none count

section Step

variable (frame : UplinkFrame)

lemma secured_integrity (secured : Secured ue) :
  (uplinkProtection ue frame.securityHeaderType).integrityProtected := by
  obtain ⟨sht, message, low, high⟩ := frame
  have atLeast : 1 ≤ sht.toNat := UInt8.le_iff_toNat_le.mp low
  have atMost : sht.toNat ≤ 4 := UInt8.le_iff_toNat_le.mp high
  have types : sht = 1 ∨ sht = 2 ∨ sht = 3 ∨ sht = 4 := by
    simp only [← UInt8.toNat_inj]
    change _ = 1 ∨ _ = 2 ∨ _ = 3 ∨ _ = 4
    omega
  have selected : (ue.selectedIntAlgorithm != 0) = true := by
    rcases secured.integrity with algorithm | algorithm | algorithm <;> rw [algorithm] <;> rfl
  simp only [uplinkProtection, uplinkHeaderType, secured.available, if_true,
    disableNull, selected, Bool.and_true]
  rcases types with type | type | type | type <;> rw [type] <;> rfl

lemma replayMark_reset (secured : Secured ue) (keeps : KeepsBaseline crypt ue frame) :
  replayMark (resetUplink ue frame.securityHeaderType) = replayMark ue := by
  have fresh := keeps.1
  rw [resetUplink_eq]
  unfold uplinkHeaderType replayMark
  rw [if_pos secured.available]
  cases new : (fromByte frame.securityHeaderType).newSecurityContext with
  | false => rfl
  | true =>
    rw [new] at fresh
    simp [fresh rfl]

variable {headerType : SecurityHeaderType} {header : NasSecurityHeader} {payload : Bytes}

lemma legacyFrame_advances (legacy : ue.useNextgcoreNasSecurity = false)
  (integrity : headerType.integrityProtected) :
  Advances crypt ue (header.encode ++ payload)
    (decodeLegacyFrame crypt ue headerType header payload) := by
  by_cases refuses : LegacyRefuses crypt ue headerType header payload
  · rw [decodeLegacyFrame_refuses _ _ _ _ _ refuses]
    exact .inl ⟨rfl, _, rfl⟩
  · rw [decodeLegacyFrame_commits _ _ _ _ _ refuses]
    have established : (legacyCommit ue headerType header).ulCountEstablished := by
      simp [legacyCommit, integrity]
    refine .inr ⟨replayMark_established established rfl (mask24_lt _),
      below_replayMark fun baseline => ?_, header, payload, rfl, ?_⟩
    · rw [← UInt32.lt_iff_toNat_lt, ← UInt32.not_le]
      exact fun replayed => refuses ⟨integrity, .inl ⟨baseline, replayed⟩⟩
    · rw [legacy, if_neg (by decide)]
      exact not_not.mp fun forged => refuses ⟨integrity, .inr forged⟩

lemma nextgcoreFrame_advances (nextgcore : ue.useNextgcoreNasSecurity)
  (integrity : headerType.integrityProtected)
  (small : VerifiesAt crypt ue (ue.nextgcoreCount header.sequenceNumber).value
    (header.encode ++ payload) → (ue.nextgcoreCount header.sequenceNumber).value < 0x1000000) :
  Advances crypt ue (header.encode ++ payload)
    (decodeNextgcoreFrame crypt ue headerType header.sequenceNumber
      (header.messageAuthenticationCode.toList ++ header.sequenceNumber :: payload)) := by
  by_cases refuses : NextgcoreRefuses crypt ue headerType header payload
  · obtain ⟨macFailed, error, answer⟩ := decodeNextgcoreFrame_refuses _ _ _ _ _ refuses
    rw [answer]
    exact .inl ⟨rfl, _, rfl⟩
  · cases deciphered : nextgcorePlain crypt ue headerType header payload with
    | error failure =>
      obtain ⟨macFailed, error, answer⟩ :=
        decodeNextgcoreFrame_undeciphered refuses deciphered
      rw [answer]
      exact .inl ⟨rfl, _, rfl⟩
    | ok plain =>
      rw [decodeNextgcoreFrame_commits refuses deciphered]
      have verified : VerifiesAt crypt ue (ue.nextgcoreCount header.sequenceNumber).value
          (header.encode ++ payload) := by
        have mac := not_not.mp fun mismatch => refuses (.inr mismatch)
        rw [nasContext, if_pos integrity] at mac
        refine ⟨header, payload, rfl, ?_⟩
        rw [if_pos nextgcore]
        exact mac
      have smallNumber : (ue.nextgcoreCount header.sequenceNumber).value.toNat < 2 ^ 24 :=
        UInt32.lt_iff_toNat_lt.mp (small verified)
      have whole : (nextgcoreCommit ue header).ulCount =
          (ue.nextgcoreCount header.sequenceNumber).value := mask24_of_lt smallNumber
      simp only [Advances, whole]
      refine .inr ⟨replayMark_established rfl whole smallNumber,
        below_replayMark fun baseline => ?_, verified⟩
      have forward : (nasCountFromU32 ue.ulCount).value <
          (ue.nextgcoreCount header.sequenceNumber).value :=
        UInt32.not_le.mp fun replayed => refuses (.inl ⟨baseline, integrity, replayed⟩)
      rw [nasCountFromU32, NasCount.value_new_shift, UInt32.lt_iff_toNat_lt] at forward
      rw [toNat_mask24]
      exact lt_of_le_of_lt (Nat.mod_le _ _) forward

lemma decode_advances (secured : Secured ue) (keeps : KeepsBaseline crypt ue frame) :
  Advances crypt ue frame.message
    (nas5gsSecurityDecode crypt ue frame.securityHeaderType frame.message) := by
  have integrity := secured_integrity frame secured
  have protects : (uplinkProtection ue frame.securityHeaderType).Protects := .inr integrity
  have mark := replayMark_reset frame secured keeps
  by_cases short : frame.message.length < 7
  · unfold nas5gsSecurityDecode
    split
    · rw [decodeNextgcore_short crypt ue _ protects short]
      exact .inl ⟨mark, _, rfl⟩
    · rw [decodeLegacy_short crypt ue _ protects short]
      exact .inl ⟨mark, _, rfl⟩
  · obtain ⟨header, payload, layout⟩ := NasSecurityHeader.exists_header short
    have sameFlag : (resetUplink ue frame.securityHeaderType).useNextgcoreNasSecurity =
        ue.useNextgcoreNasSecurity := by rw [resetUplink_eq]
    have sameMacs : VerifiesAt crypt (resetUplink ue frame.securityHeaderType) =
        VerifiesAt crypt ue := by rw [resetUplink_eq]; rfl
    have window := keeps.2
    rw [layout, ← sameMacs] at window
    rw [layout]
    have advances : Advances crypt (resetUplink ue frame.securityHeaderType)
        (header.encode ++ payload)
        (nas5gsSecurityDecode crypt ue frame.securityHeaderType (header.encode ++ payload)) := by
      unfold nas5gsSecurityDecode
      split
      · next nextgcore =>
          rw [decodeNextgcore_frame crypt ue header payload _ protects]
          exact nextgcoreFrame_advances (sameFlag.trans nextgcore) integrity
            (window nextgcore _ (header.getElem?_six_encode payload) _ rfl)
      · next legacy =>
          rw [decodeLegacy_frame crypt ue header payload _ protects]
          exact legacyFrame_advances (sameFlag.trans (Bool.eq_false_iff.mpr legacy)) integrity
    rwa [Advances, mark, sameMacs] at advances

end Step

section Runs

variable {first : AmfUe}

def SameSecurity (first ue : AmfUe) : Prop :=
  ∃ macFailed ulCount established, ue = first.withUplink macFailed ulCount established

lemma uplink_sameSecurity {frame : UplinkFrame} (same : SameSecurity first ue) :
  SameSecurity first ((uplink crypt).step ue frame).1 := by
  obtain ⟨_, _, _, rfl⟩ := same
  obtain ⟨macFailed, ulCount, established, kept⟩ :=
    decode_keeps crypt (first.withUplink _ _ _) frame.securityHeaderType frame.message
  exact ⟨macFailed, ulCount, established, kept⟩

lemma SameSecurity.secured (same : SameSecurity first ue) (secured : Secured first) :
  Secured ue := by
  obtain ⟨_, _, _, rfl⟩ := same
  exact ⟨secured.available, secured.integrity⟩

lemma SameSecurity.verifiesAt (same : SameSecurity first ue) :
  VerifiesAt crypt ue = VerifiesAt crypt first := by
  obtain ⟨_, _, _, rfl⟩ := same
  rfl

variable {first : AmfUe} {frame : UplinkFrame}

lemma step_advances (same : SameSecurity first ue) (secured : Secured first)
  (keeps : KeepsBaseline crypt ue frame) :
  let answer := (uplink crypt).step ue frame
  (replayMark answer.1 = replayMark ue ∧ accepted answer = none) ∨
    (replayMark answer.1 = some answer.1.ulCount.toNat ∧
      Below (replayMark ue) answer.1.ulCount.toNat ∧
      VerifiesAt crypt first answer.1.ulCount frame.message) := by
  have advances : Advances crypt ue frame.message
      (nas5gsSecurityDecode crypt ue frame.securityHeaderType frame.message) :=
    decode_advances frame (same.secured secured) keeps
  rcases advances with ⟨mark, error, refused⟩ | ⟨mark, below, verified⟩
  · refine .inl ⟨mark, ?_⟩
    simp only [uplink, refused, accepted]
  · rw [same.verifiesAt] at verified
    exact .inr ⟨mark, below, verified⟩

lemma accepted_advances (same : SameSecurity first ue) (secured : Secured first)
  (keeps : KeepsBaseline crypt ue frame) {value : Accepted}
  (isAccepted : accepted ((uplink crypt).step ue frame) = some value) :
  Below (replayMark ue) value.count.toNat ∧
    value.count.toNat ∈ replayMark ((uplink crypt).step ue frame).1 ∧
    VerifiesAt crypt first value.count value.message := by
  have reads : value = ⟨((uplink crypt).step ue frame).1.ulCount, frame.message⟩ := by
    cases result : (nas5gsSecurityDecode crypt ue frame.securityHeaderType frame.message).2 with
    | ok plain =>
      simp only [uplink, result, accepted, Option.some.injEq] at isAccepted
      exact isAccepted.symm
    | error error => simp [uplink, result, accepted] at isAccepted
  rcases step_advances same secured keeps with ⟨-, refused⟩ | ⟨mark, below, verified⟩
  · rw [refused] at isAccepted
    cases isAccepted
  · rw [reads]
    exact ⟨below, mark, verified⟩

variable {frames : List UplinkFrame}

lemma uplink_along (keeps : (uplink crypt).Along (KeepsBaseline crypt) first frames) :
  (uplink crypt).Along (fun ue frame => SameSecurity first ue ∧ KeepsBaseline crypt ue frame)
    first frames :=
  (uplink crypt).along_invariant (fun _ _ same _ => uplink_sameSecurity same)
    ⟨_, _, _, rfl⟩ keeps

lemma acceptedCounts_increasing (secured : Secured first)
  (keeps : (uplink crypt).Along (KeepsBaseline crypt) first frames) :
  ((uplink crypt).emitted accepted first frames).Pairwise
    fun earlier later => earlier.count < later.count := by
  have increasing := emitted_increasing (uplink crypt)
    (fun answer => (accepted answer).map fun value => value.count.toNat) replayMark ?_ ?_
    (uplink_along keeps)
  · rw [← Machine.map_emitted, List.pairwise_map] at increasing
    exact increasing.imp UInt32.lt_iff_toNat_lt.mpr
  · rintro ue frame ⟨same, keepsBaseline⟩
    rcases step_advances same secured keepsBaseline with ⟨mark, -⟩ | ⟨mark, below, -⟩
    · rw [mark]
      exact rises_refl _
    · rw [mark]
      exact fun reached membership => ⟨_, rfl, (below reached membership).le⟩
  · rintro ue frame number ⟨same, keepsBaseline⟩ emission
    obtain ⟨value, isAccepted, rfl⟩ := Option.map_eq_some_iff.mp emission
    obtain ⟨below, mark, -⟩ := accepted_advances same secured keepsBaseline isAccepted
    exact ⟨below, mark⟩

lemma accepted_verifies (secured : Secured first)
  (keeps : (uplink crypt).Along (KeepsBaseline crypt) first frames) :
  ∀ value ∈ (uplink crypt).emitted accepted first frames,
    VerifiesAt crypt first value.count value.message :=
  (uplink crypt).emitted_forall
    (fun _ _ _ both isAccepted =>
      (accepted_advances both.1 secured both.2 isAccepted).2.2)
    (uplink_along keeps)

/-- The uplink accepts frames at strictly increasing COUNTs, and never accepts
a message twice whose MAC tells COUNTs apart. -/
theorem uplink_replay_protected (secured : Secured first)
  (keeps : (uplink crypt).Along (KeepsBaseline crypt) first frames) :
  ((uplink crypt).emitted accepted first frames).Pairwise fun earlier later =>
    earlier.count < later.count ∧
      (TellsCountsApart crypt first later.message → earlier.message ≠ later.message) := by
  have increasing := acceptedCounts_increasing secured keeps
  have verifies := accepted_verifies secured keeps
  refine increasing.imp_of_mem fun {earlier later} isEarlier isLater less => ?_
  refine ⟨less, fun tellsApart same => ?_⟩
  have verifiedEarlier := verifies earlier isEarlier
  rw [same] at verifiedEarlier
  have equal := tellsApart _ _ verifiedEarlier (verifies later isLater)
  rw [equal] at less
  exact UInt32.lt_irrefl _ less

end Runs

/-- Three frames under 128-NIA2, the first of which arrives again. -/
theorem uplink_replay_protected_sample :
  let frame : UplinkFrame := ⟨1, [0x7e, 1, 78, 78, 78, 78, 6, 64], by decide⟩
  let next : UplinkFrame := ⟨1, [0x7e, 1, 80, 80, 80, 80, 7, 64], by decide⟩
  ((uplink .sample).emitted accepted .sample [frame, frame, next]).Pairwise
    fun earlier later => earlier.count < later.count ∧
      (TellsCountsApart .sample .sample later.message → earlier.message ≠ later.message) := by
  intro frame next
  refine uplink_replay_protected ⟨rfl, .inr (.inl rfl)⟩
    ⟨⟨by decide, ?_⟩, ⟨by decide, ?_⟩, ⟨by decide, ?_⟩, trivial⟩ <;>
  · rintro - sqn ⟨⟩ _ rfl -
    decide

/-- A frame that opens a new context is accepted as often as it is sent, each
time at COUNT 0. -/
theorem uplink_replayed :
  ¬ ∀ (crypt : Primitives) (ue : AmfUe) (frames : List UplinkFrame), Secured ue →
    ((uplink crypt).emitted accepted ue frames).Pairwise
      fun earlier later => earlier.count < later.count := by
  intro increasing
  let frame : UplinkFrame := ⟨3, [0x7e, 3, 102, 102, 102, 102, 0, 94], by decide⟩
  have counts : (((uplink .sample).emitted accepted .sample [frame, frame]).map
      Accepted.count).Pairwise (· < ·) :=
    List.pairwise_map.mpr (increasing .sample .sample [frame, frame] ⟨rfl, .inr (.inl rfl)⟩)
  have twice : ((uplink .sample).emitted accepted .sample [frame, frame]).map
      Accepted.count = [0, 0] := by decide
  rw [twice] at counts
  exact absurd counts (by decide)

end NextGCore.Amf
