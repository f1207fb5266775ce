import NextGCore.Library.Framing
import NextGCore.Nas.Elements

/-!
# Where the next information element is looked for

How many octets each decoder takes off the message when it accepts an element, and for which
declared lengths these are the length field and what it declares.
-/

namespace NextGCore.Nas

open Library List Consumes Nat

variable {octets : List UInt8} {checks : Bool} {needed remaining : ℕ}

lemma consumes_enough :
  Consumes (enough needed) octets fun _ count => count = 0 ∧ needed ≤ octets.length :=
  .require

lemma consumes_advance {size : ℕ} :
  Consumes (advance size) octets fun _ count => count = size :=
  copyToBytes.finish fun _ _ => id

lemma consumes_longEnough {length : ℕ} :
  Consumes (longEnough needed length) octets fun _ count => count = 0 ∧ needed ≤ length :=
  refuse.mono fun _ _ _ holds => ⟨holds.1, not_lt.mp holds.2⟩

lemma consumes_subUsize {minuend subtrahend : ℕ} (small : subtrahend ≤ 2 ^ 64) :
  Consumes (subUsize checks minuend subtrahend) octets fun value count => count = 0 ∧
    (value + subtrahend = minuend ∨
      minuend < subtrahend ∧ value + subtrahend = minuend + 2 ^ 64) := by
  intro value rest answer
  rw [subUsize] at answer
  split at answer
  · split at answer
    · cases answer
    · cases answer
      exact ⟨0, zero_le _, rfl, rfl, .inr ⟨‹_›, by omega⟩⟩
  · cases answer
    exact ⟨0, zero_le _, rfl, rfl, .inl (by omega)⟩

lemma consumes_octet :
  Consumes (getU8 : NasReading UInt8) octets fun _ count => count = 1 :=
  getU8.mono fun _ _ _ => And.left

lemma consumes_skipPast {length : UInt8} {size : ℕ} :
  Consumes (skipPast length size) octets fun _ count => count = length.toNat - size := by
  rw [skipPast]
  split
  · exact consumes_advance
  · exact .pure (by omega)

lemma PlmnId.consumes_decode : Consumes PlmnId.decode octets fun _ count => count = 3 := by
  refine consumes_enough.bind fun _ skipped _ started => ?_
  refine getU8.bind fun b0 first _ one => ?_
  refine getU8.bind fun b1 second _ two => ?_
  refine getU8.finish fun b2 third three => ?_
  omega

lemma Tai.consumes_decode : Consumes Tai.decode octets fun _ count => count = 6 := by
  refine PlmnId.consumes_decode.bind fun plmnId first _ three => ?_
  refine consumes_enough.bind fun _ skipped _ started => ?_
  refine copyToSlice.finish fun tac second more => ?_
  omega

def sNssaiContent (remaining : ℕ) : ℕ :=
  1 + (if 3 ≤ remaining then 3 else 0) + (if 4 ≤ remaining then 1 else 0) +
    if 7 ≤ remaining then 3 else 0

lemma SNssai.consumes_decode :
  Consumes (SNssai.decode checks) octets fun value count => count = 1 + value.encodedContentLen ∧
    ∃ remaining, value.encodedContentLen = sNssaiContent remaining ∧
      (remaining + 1 = declared 1 octets ∨ declared 1 octets = 0 ∧ remaining + 1 = 2 ^ 64) := by
  refine consumes_enough.bind fun _ skipped _ started => ?_
  obtain ⟨rfl, -⟩ := started
  refine getU8.bind fun len first _ one => ?_
  obtain ⟨rfl, lengthOctet⟩ := one
  rw [drop_zero] at lengthOctet
  refine consumes_enough.bind fun _ skipped _ enoughLeft => ?_
  refine getU8.bind fun sst second _ two => ?_
  refine (consumes_subUsize (by decide)).bind fun remaining skippedAgain _ difference => ?_
  refine (givenIf .copyToSlice).bind fun sd third _ sdCount => ?_
  refine (givenIf consumes_octet).bind fun mappedHplmnSst fourth _ sstCount => ?_
  refine (givenIf .copyToSlice).finish fun mappedHplmnSd fifth mappedCount => ?_
  have content : 1 + third + fourth + fifth = sNssaiContent remaining := by
    rw [sdCount.2, sstCount.2, mappedCount.2, sNssaiContent]
    simp only [decide_eq_true_eq]
    split_ifs <;> omega
  have encoded : SNssai.encodedContentLen ⟨sst, sd, mappedHplmnSst, mappedHplmnSd⟩ =
      1 + third + fourth + fifth := by
    rw [SNssai.encodedContentLen, sdCount.1, sdCount.2, sstCount.1, sstCount.2, mappedCount.1,
      mappedCount.2]
  refine ⟨by omega, remaining, encoded.trans content, ?_⟩
  rw [declared, ← lengthOctet]
  omega

lemma GprsTimer2.consumes_decode :
  Consumes GprsTimer2.decode octets fun _ count => count = 2 := by
  refine consumes_enough.bind fun _ skipped _ started => ?_
  refine getU8.bind fun length first _ one => ?_
  refine getU8.finish fun value second two => ?_
  omega

lemma GprsTimer3.consumes_decode :
  Consumes GprsTimer3.decode octets fun _ count => count = 2 := by
  refine consumes_enough.bind fun _ skipped _ started => ?_
  refine getU8.bind fun length first _ one => ?_
  refine getU8.finish fun value second two => ?_
  omega

lemma consumes_algorithmsIf {length bound : UInt8} :
  Consumes (algorithmsIf length bound) octets fun _ count =>
    count = if bound.toNat ≤ length.toNat ∧ 1 ≤ octets.length then 1 else 0 := by
  rw [algorithmsIf]
  split
  · have reached : bound.toNat ≤ length.toNat := UInt8.le_iff_toNat_le.mp ‹_›
    intro value rest answer
    rw [ifLeft] at answer
    split at answer
    · have taken : Consumes (getU8 >>= fun algorithms => pure (some algorithms) :
          NasReading (Option UInt8)) octets fun _ count => count = 1 :=
        consumes_octet.finish fun _ _ => id
      rw [if_pos ⟨reached, ‹_›⟩]
      exact taken value rest answer
    · cases answer
      rw [if_neg fun both => absurd both.2 ‹_›]
      exact ⟨0, zero_le _, rfl, rfl⟩
  · refine .pure (if_neg fun both => absurd (UInt8.le_iff_toNat_le.mpr both.1) ‹_›).symm

/-- What `UeSecurityCapability::decode` takes off a message of so many octets. -/
def capabilitySpan (length left : ℕ) : ℕ :=
  3 + (if 3 ≤ length ∧ 4 ≤ left then 1 else 0) + if 4 ≤ length ∧ 5 ≤ left then 1 else 0

lemma UeSecurityCapability.consumes_decode :
  Consumes UeSecurityCapability.decode octets fun _ count =>
    count = capabilitySpan (declared 1 octets) octets.length := by
  refine consumes_enough.bind fun _ skipped _ started => ?_
  obtain ⟨rfl, atLeast⟩ := started
  refine getU8.bind fun length first _ one => ?_
  obtain ⟨rfl, lengthOctet⟩ := one
  rw [drop_zero] at lengthOctet
  refine getU8.bind fun ea second _ two => ?_
  obtain ⟨rfl, -⟩ := two
  refine getU8.bind fun ia third _ three => ?_
  obtain ⟨rfl, -⟩ := three
  refine consumes_algorithmsIf.bind fun eea fourth _ four => ?_
  refine consumes_algorithmsIf.finish fun eia fifth five => ?_
  rw [declared, ← lengthOctet, capabilitySpan]
  simp only [length_drop, UInt8.reduceToNat] at four five
  split_ifs at four five ⊢ <;> omega

lemma Suci.consumes_decodeContent {length : ℕ} :
  Consumes (Suci.decodeContent length) octets fun _ count => count = length := by
  have peeked : Consumes peekSupiFormat octets fun _ count => count = 0 := by
    intro value rest answer
    cases answer
    exact ⟨0, zero_le _, rfl, rfl⟩
  refine peeked.bind fun supiFormat skipped _ nothing => ?_
  dsimp only
  split
  · refine consumes_longEnough.bind fun _ skippedAgain _ long => ?_
    refine consumes_octet.bind fun _ first _ one => ?_
    refine consumes_enough.bind fun _ skippedLast _ enoughLeft => ?_
    refine copyToBytes.finish fun schemeOutput second two => ?_
    omega
  · refine consumes_longEnough.bind fun _ skippedAgain _ long => ?_
    refine consumes_octet.bind fun firstByte first _ one => ?_
    refine PlmnId.consumes_decode.bind fun plmnId second _ two => ?_
    refine copyToSlice.bind fun routingIndicator third _ three => ?_
    refine consumes_octet.bind fun protectionSchemeId fourth _ four => ?_
    refine consumes_octet.bind fun homeNetworkPki fifth _ five => ?_
    refine copyToBytes.finish fun schemeOutput sixth six => ?_
    omega

lemma FiveGGuti.consumes_decodeContent {length : ℕ} :
  Consumes (FiveGGuti.decodeContent length) octets fun _ count => count = 11 := by
  refine consumes_longEnough.bind fun _ skipped _ long => ?_
  refine consumes_octet.bind fun _ first _ one => ?_
  refine PlmnId.consumes_decode.bind fun plmnId second _ two => ?_
  refine consumes_octet.bind fun amfRegionId third _ three => ?_
  refine getU16.bind fun amfId fourth _ four => ?_
  refine getU32.finish fun tmsi fifth five => ?_
  omega

lemma FiveGSTmsi.consumes_decodeContent {length : ℕ} :
  Consumes (FiveGSTmsi.decodeContent length) octets fun _ count => count = 7 := by
  refine consumes_longEnough.bind fun _ skipped _ long => ?_
  refine consumes_octet.bind fun _ first _ one => ?_
  refine getU16.bind fun amfId second _ two => ?_
  refine getU32.finish fun tmsi third three => ?_
  omega

lemma EquipmentIdentity.consumes_decodeContent {octetCount digitCount length : ℕ} :
  Consumes (EquipmentIdentity.decodeContent octetCount digitCount length) octets
    fun _ count => count = 1 + octetCount := by
  refine consumes_longEnough.bind fun _ skipped _ long => ?_
  refine consumes_octet.bind fun firstByte first _ one => ?_
  refine (times (fun _ => consumes_octet) octetCount _).finish fun bytes second two => ?_
  omega

/-- The lengths of the identities whose decoders do not look at what is declared after they have
found it long enough. -/
def MobileIdentityType.fixedLength : MobileIdentityType → Option ℕ
  | .fiveGGuti => some 11
  | .imei => some 8
  | .fiveGSTmsi => some 7
  | .imeisv => some 9
  | _ => none

def identityType (octets : List UInt8) : Option MobileIdentityType :=
  (octets[2]?).bind fun typeByte => (MobileIdentityType.tryFrom (typeByte &&& 0x07)).toOption

def identityFixed (octets : List UInt8) : Option ℕ :=
  (identityType octets).bind MobileIdentityType.fixedLength

lemma consumes_peekByte :
  Consumes peekByte octets fun value count => count = 0 ∧ octets[0]? = some value := by
  intro value rest answer
  cases octets with
  | nil => cases answer
  | cons octet octets =>
    cases answer
    exact ⟨0, zero_le _, rfl, rfl, rfl⟩

lemma MobileIdentity.consumes_decode :
  Consumes MobileIdentity.decode octets fun _ count =>
    count = 2 + (identityFixed octets).getD (declared 2 octets) := by
  refine consumes_enough.bind fun _ skipped _ started => ?_
  obtain ⟨rfl, -⟩ := started
  refine getU16.bind fun length first _ two => ?_
  obtain ⟨rfl, lengthOctets⟩ := two
  rw [drop_zero] at lengthOctets
  refine consumes_enough.bind fun _ skipped _ enoughLeft => ?_
  obtain ⟨rfl, -⟩ := enoughLeft
  refine consumes_peekByte.bind fun typeByte skipped _ peeked => ?_
  obtain ⟨rfl, there⟩ := peeked
  simp only [drop_zero, List.getElem?_drop, add_zero] at there
  have found : Consumes (Reading.lift (MobileIdentityType.tryFrom (typeByte &&& 0x07)))
      (drop 0 (drop 0 (drop 2 (drop 0 octets)))) fun idType count =>
        count = 0 ∧ MobileIdentityType.tryFrom (typeByte &&& 0x07) = .ok idType :=
    lift fun _ accepted => ⟨rfl, accepted⟩
  refine found.bind fun idType skipped _ known => ?_
  obtain ⟨rfl, known⟩ := known
  have fixed : identityFixed octets = idType.fixedLength := by
    rw [identityFixed, identityType, there, Option.bind_some, known]
    rfl
  rw [fixed, declared, ← lengthOctets]
  refine mono (?_ : Consumes _ _ fun _ count =>
    count = idType.fixedLength.getD length.toNat) fun _ count _ taken => by omega
  cases idType with
  | noIdentity => exact consumes_advance.finish fun _ _ => id
  | suci => exact Suci.consumes_decodeContent.finish fun _ _ => id
  | fiveGGuti => exact FiveGGuti.consumes_decodeContent.finish fun _ _ => id
  | imei => exact EquipmentIdentity.consumes_decodeContent.finish fun _ _ => id
  | fiveGSTmsi => exact FiveGSTmsi.consumes_decodeContent.finish fun _ _ => id
  | imeisv => exact EquipmentIdentity.consumes_decodeContent.finish fun _ _ => id
  | macAddress | eui64 => exact .fail _ _

lemma consumes_sNssaisWithin (turns remaining : ℕ) (enoughTurns : octets.length < turns) :
  Consumes (sNssaisWithin checks turns remaining) octets fun _ count =>
    count ≡ remaining [MOD 2 ^ 64] := by
  induction turns generalizing remaining octets with
  | zero => exact absurd enoughTurns (not_lt_zero _)
  | succ turns ih =>
    rw [sNssaisWithin]
    split
    case isTrue nothing => exact .pure (by rw [nothing])
    case isFalse =>
      refine SNssai.consumes_decode.bind fun sNssai first within taken => ?_
      have small : 1 + sNssai.encodedContentLen ≤ 2 ^ 64 := by
        rw [SNssai.encodedContentLen]
        split_ifs <;> omega
      refine (consumes_subUsize small).bind fun left skipped _ difference => ?_
      have fewer : (drop skipped (drop first octets)).length < turns := by
        simp only [length_drop]
        omega
      refine (ih left fewer).finish fun sNssais more others => ?_
      have restored : left + (1 + sNssai.encodedContentLen) ≡ remaining [MOD 2 ^ 64] := by
        rcases difference.2 with exact' | ⟨-, wrapped⟩
        · rw [exact']
        · rw [wrapped]
          exact add_modEq_right
      have counted := others.add_right (1 + sNssai.encodedContentLen)
      rw [difference.1, taken.1, zero_add, add_comm _ more]
      exact counted.trans restored

lemma Nssai.consumes_decode (fits : octets.length < 2 ^ 64) :
  Consumes (Nssai.decode checks) octets fun _ count => count = 1 + declared 1 octets := by
  refine consumes_enough.bind fun _ skipped _ started => ?_
  obtain ⟨rfl, -⟩ := started
  refine getU8.bind fun length first within one => ?_
  obtain ⟨rfl, lengthOctet⟩ := one
  rw [drop_zero] at lengthOctet
  refine consumes_enough.bind fun _ skipped _ enoughLeft => ?_
  have looped : Consumes (sNssais checks length.toNat)
      (drop skipped (drop 1 (drop 0 octets))) fun _ count =>
        count = length.toNat := by
    refine (consumes_sNssaisWithin _ length.toNat (lt_succ_self _)).mono
      fun sNssais count inside taken => ?_
    simp only [length_drop] at inside
    have short := length.toNat_lt
    exact taken.eq_of_lt_of_lt (by omega) (by omega)
  refine looped.finish fun sNssaiList count taken => ?_
  rw [declared, ← lengthOctet]
  omega

lemma PduSessionStatus.consumes_decode :
  Consumes PduSessionStatus.decode octets fun _ count =>
    count = 1 + max 2 (declared 1 octets) := by
  refine consumes_enough.bind fun _ skipped _ started => ?_
  obtain ⟨rfl, -⟩ := started
  refine getU8.bind fun length first _ one => ?_
  rw [drop_zero] at one
  refine copyToBytes.bind fun psi second _ two => ?_
  refine consumes_skipPast.finish fun _ third three => ?_
  rw [declared, ← one.2]
  omega

lemma SessionAmbr.consumes_decode :
  Consumes SessionAmbr.decode octets fun _ count => count = 1 + max 6 (declared 1 octets) := by
  refine consumes_enough.bind fun _ skipped _ started => ?_
  obtain ⟨rfl, -⟩ := started
  refine getU8.bind fun length first _ one => ?_
  rw [drop_zero] at one
  refine consumes_octet.bind fun dlUnit second _ two => ?_
  refine getU16.bind fun dlValue third _ three => ?_
  refine consumes_octet.bind fun ulUnit fourth _ four => ?_
  refine getU16.bind fun ulValue fifth _ five => ?_
  refine consumes_skipPast.finish fun _ sixth six => ?_
  rw [declared, ← one.2]
  omega

lemma PduAddress.consumes_decode :
  Consumes PduAddress.decode octets fun _ count => count = 1 + max 1 (declared 1 octets) := by
  refine consumes_enough.bind fun _ skipped _ started => ?_
  obtain ⟨rfl, -⟩ := started
  refine getU8.bind fun length first _ one => ?_
  rw [drop_zero] at one
  refine consumes_enough.bind fun _ skipped _ enoughLeft => ?_
  refine consumes_octet.bind fun pduSessionType second _ two => ?_
  rw [declared, ← one.2]
  dsimp only
  split
  · refine copyToBytes.finish fun address third three => ?_
    omega
  · refine (pure rfl : Consumes _ _ fun _ count => count = 0).finish
      fun address third three => ?_
    omega

lemma consumes_takeDeclared {n : ℕ} :
  Consumes (takeDeclared remaining n) octets fun left count =>
    count = 0 ∧ left + n = remaining := by
  rw [takeDeclared]
  split
  · exact .fail _ _
  · exact .pure ⟨rfl, by omega⟩

lemma consumes_timesDeclared {Item : Type} {size : ℕ} {read : NasReading Item}
  (consumes : ∀ octets, Consumes read octets fun _ count => count = size) (num remaining : ℕ) :
  Consumes (timesDeclared size read num remaining) octets fun value count =>
    value.2 + count = remaining := by
  induction num generalizing remaining octets with
  | zero => exact .pure rfl
  | succ num ih =>
    refine consumes_takeDeclared.bind fun left skipped _ taken => ?_
    refine (consumes _).bind fun item first _ one => ?_
    refine (ih left).finish fun value more others => ?_
    dsimp only
    omega

lemma consumes_decodeTac : Consumes decodeTac octets fun _ count => count = 3 := by
  refine consumes_enough.bind fun _ skipped _ started => ?_
  exact copyToSlice.mono fun tac count _ taken => by omega

lemma TaiListElement.consumes_decode :
  Consumes (TaiListElement.decode remaining) octets fun value count =>
    value.2 + count = remaining ∧ 1 ≤ count := by
  refine consumes_takeDeclared.bind fun left skipped _ taken => ?_
  refine consumes_enough.bind fun _ skippedAgain _ enoughLeft => ?_
  refine consumes_octet.bind fun typeByte first _ one => ?_
  dsimp only
  split
  · refine consumes_takeDeclared.bind fun left skipped _ taken => ?_
    refine PlmnId.consumes_decode.bind fun plmnId second _ two => ?_
    refine (consumes_timesDeclared (fun _ => consumes_decodeTac) _ left).finish
      fun tacs third three => ?_
    dsimp only
    omega
  · split
    · refine consumes_takeDeclared.bind fun left skipped _ taken => ?_
      refine PlmnId.consumes_decode.bind fun plmnId second _ two => ?_
      refine consumes_takeDeclared.bind fun left skipped _ taken => ?_
      refine consumes_decodeTac.finish fun tac third three => ?_
      dsimp only
      omega
    · split
      · refine (consumes_timesDeclared (fun _ => Tai.consumes_decode) _ left).finish
          fun tais second two => ?_
        dsimp only
        omega
      · exact .fail _ _

lemma consumes_taiListElements (turns remaining : ℕ) (enoughTurns : remaining ≤ turns) :
  Consumes (taiListElements turns remaining) octets fun _ count => count = remaining := by
  induction turns generalizing remaining octets with
  | zero => exact .pure (by omega)
  | succ turns ih =>
    rw [taiListElements]
    split
    case isTrue nothing => exact .pure nothing.symm
    case isFalse =>
      refine TaiListElement.consumes_decode.bind fun element first _ one => ?_
      refine (ih element.2 (by omega)).finish fun elements more others => ?_
      omega

lemma TaiList.consumes_decode :
  Consumes TaiList.decode octets fun _ count => count = 1 + declared 1 octets := by
  refine consumes_enough.bind fun _ skipped _ started => ?_
  obtain ⟨rfl, -⟩ := started
  refine getU8.bind fun length first _ one => ?_
  rw [drop_zero] at one
  refine consumes_enough.bind fun _ skipped _ enoughLeft => ?_
  refine (consumes_taiListElements length.toNat length.toNat le_rfl).finish
    fun elements second two => ?_
  rw [declared, ← one.2]
  omega

inductive LengthPrefixed where
  | mobileIdentity
  | ueSecurityCapability
  | gprsTimer2
  | gprsTimer3
  | sNssai
  | nssai
  | pduSessionStatus
  | sessionAmbr
  | pduAddress
  | taiList

namespace LengthPrefixed

def width : LengthPrefixed → ℕ
  | mobileIdentity => 2
  | _ => 1

def decode (checks : Bool) (element : LengthPrefixed) : NasReading Unit :=
  match element with
  | mobileIdentity => discard MobileIdentity.decode
  | ueSecurityCapability => discard UeSecurityCapability.decode
  | gprsTimer2 => discard GprsTimer2.decode
  | gprsTimer3 => discard GprsTimer3.decode
  | sNssai => discard (SNssai.decode checks)
  | nssai => discard (Nssai.decode checks)
  | pduSessionStatus => discard PduSessionStatus.decode
  | sessionAmbr => discard SessionAmbr.decode
  | pduAddress => discard PduAddress.decode
  | taiList => discard TaiList.decode

def Fits (element : LengthPrefixed) (octets : List UInt8) : Prop :=
  match element with
  | mobileIdentity => ∀ size ∈ identityFixed octets, declared 2 octets = size
  | ueSecurityCapability =>
    2 ≤ declared 1 octets ∧ declared 1 octets ≤ 4 ∧ 1 + declared 1 octets ≤ octets.length
  | gprsTimer2 | gprsTimer3 => declared 1 octets = 1
  | sNssai => declared 1 octets ∈ [1, 4, 5, 8]
  | pduSessionStatus => 2 ≤ declared 1 octets
  | sessionAmbr => 6 ≤ declared 1 octets
  | pduAddress => 1 ≤ declared 1 octets
  | nssai | taiList => True

end LengthPrefixed

lemma consumes_discard {Value : Type} {read : NasReading Value} {post : ℕ → Prop}
  (consumes : Consumes read octets fun _ count => post count) :
  Consumes (discard read) octets fun _ count => post count :=
  consumes.finish fun _ _ => id

namespace LengthPrefixed

lemma sNssaiContent_eq_iff {remaining length : ℕ}
  (known : remaining + 1 = length ∨ length = 0 ∧ remaining + 1 = 2 ^ 64) :
  sNssaiContent remaining = length ↔ length ∈ [1, 4, 5, 8] := by
  simp only [mem_cons, not_mem_nil, or_false]
  rw [sNssaiContent]
  split_ifs <;> omega

lemma capabilitySpan_eq_iff {length left : ℕ} (within : capabilitySpan length left ≤ left) :
  capabilitySpan length left = 1 + length ↔ 2 ≤ length ∧ length ≤ 4 ∧ 1 + length ≤ left := by
  rw [capabilitySpan] at within ⊢
  split_ifs at within ⊢ <;> omega

/-- When a decoder accepts an element, the octet that is taken for the next identifier is the one
after what the length declares, just when the length is one that the decoder's layout fits. -/
theorem framed_iff_fits (checks : Bool) (element : LengthPrefixed) {octets rest : List UInt8}
  (addressable : octets.length < 2 ^ 64)
  (accepted : decode checks element octets = .ok ((), rest)) :
  Framed element.width octets rest ↔ element.Fits octets := by
  cases element with
  | mobileIdentity =>
    refine (consumes_discard MobileIdentity.consumes_decode).framed_iff
      (fun count _ taken => ?_) accepted
    rw [taken, width, Nat.add_left_cancel_iff, Fits]
    cases identityFixed octets with
    | none => simp
    | some size => simp [eq_comm]
  | ueSecurityCapability =>
    refine (consumes_discard UeSecurityCapability.consumes_decode).framed_iff
      (fun count within taken => ?_) accepted
    rw [taken] at within ⊢
    exact capabilitySpan_eq_iff within
  | gprsTimer2 =>
    refine (consumes_discard GprsTimer2.consumes_decode).framed_iff
      (fun count _ taken => ?_) accepted
    simp only [taken, width, Fits]
    omega
  | gprsTimer3 =>
    refine (consumes_discard GprsTimer3.consumes_decode).framed_iff
      (fun count _ taken => ?_) accepted
    simp only [taken, width, Fits]
    omega
  | sNssai =>
    have counted : Consumes (SNssai.decode checks) octets fun _ count => ∃ remaining,
        count = 1 + sNssaiContent remaining ∧ (remaining + 1 = declared 1 octets ∨
          declared 1 octets = 0 ∧ remaining + 1 = 2 ^ 64) :=
      SNssai.consumes_decode.mono fun sNssai count _ ⟨taken, remaining, content, known⟩ =>
        ⟨remaining, by rw [taken, content], known⟩
    refine (consumes_discard counted).framed_iff (fun count _ taken => ?_) accepted
    obtain ⟨remaining, rfl, known⟩ := taken
    rw [show width sNssai = 1 from rfl, Nat.add_left_cancel_iff]
    exact sNssaiContent_eq_iff known
  | nssai =>
    refine (consumes_discard (Nssai.consumes_decode addressable)).framed_iff
      (fun count _ taken => ?_) accepted
    exact iff_true_intro taken
  | pduSessionStatus =>
    refine (consumes_discard PduSessionStatus.consumes_decode).framed_iff
      (fun count _ taken => ?_) accepted
    simp only [taken, width, Fits]
    omega
  | sessionAmbr =>
    refine (consumes_discard SessionAmbr.consumes_decode).framed_iff
      (fun count _ taken => ?_) accepted
    simp only [taken, width, Fits]
    omega
  | pduAddress =>
    refine (consumes_discard PduAddress.consumes_decode).framed_iff
      (fun count _ taken => ?_) accepted
    simp only [taken, width, Fits]
    omega
  | taiList =>
    refine (consumes_discard TaiList.consumes_decode).framed_iff (fun count _ taken => ?_) accepted
    exact iff_true_intro taken

theorem framed_iff_fits_timer :
  Framed 1 [1, 0x21, 0x5D] [0x5D] ↔ declared 1 [1, 0x21, 0x5D] = 1 :=
  framed_iff_fits true gprsTimer3 (by decide) rfl

/-- The last octet of a 5G-GUTI that declares 12 octets is left, and is read as the identifier of
the UE security capability. -/
theorem not_framed : ¬ ∀ (checks : Bool) (element : LengthPrefixed) (octets rest : List UInt8),
  octets.length < 2 ^ 64 → decode checks element octets = .ok ((), rest) →
    Framed element.width octets rest := by
  intro frames
  have framed := frames true mobileIdentity
    [0, 12, 0xF2, 0x00, 0xF1, 0x10, 1, 0x00, 0x41, 0, 0, 0, 1, 0x2E] [0x2E] (by decide) rfl
  have left := congrArg List.length framed.2
  revert left
  decide

end LengthPrefixed

end NextGCore.Nas
