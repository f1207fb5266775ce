import NextGCore.Amf.NasDecode
import NextGCore.Library.Machine

/-!
# The two implementations of the primitives

For 3GPP access and the algorithms 0 to 3, the AMF's own `nas_encrypt` and
`nas_mac_calculate` compute what the NAS crate computes for bearer 1.  The one
difference is the buffer handed to ZUC: its bit length is a 32-bit word, and
octets that it does not reach keep the message in one and zeros in the other.
-/

namespace NextGCore.Amf

open Crypt Nas Library List NasSecurityContext SecurityHeaderType

variable {algorithm : UInt8}

structure Supported (ue : AmfUe) : Prop where
  access : ue.accessType ≤ 1
  ciphering : ue.selectedEncAlgorithm ≤ 3
  integrity : ue.selectedIntAlgorithm ≤ 3

def TailClear (algorithm : UInt8) (message : Bytes) : Prop :=
  algorithm = 3 → ∀ octet ∈ message.drop (message.length % 2 ^ 29), octet = 0

lemma tailClear_of_short {message : Bytes} (short : message.length < 2 ^ 29) :
  TailClear algorithm message := by
  intro _ octet membership
  rw [Nat.mod_eq_of_lt short, drop_length] at membership
  simp at membership

lemma algorithm_cases (known : algorithm ≤ 3) :
  algorithm = 0 ∨ algorithm = 1 ∨ algorithm = 2 ∨ algorithm = 3 := by
  have atMost : algorithm.toNat ≤ 3 := UInt8.le_iff_toNat_le.mp known
  have numbers : algorithm.toNat = 0 ∨ algorithm.toNat = 1 ∨ algorithm.toNat = 2 ∨
      algorithm.toNat = 3 := by omega
  rcases numbers with number | number | number | number
  · exact .inl (UInt8.toNat_inj.mp number)
  · exact .inr (.inl (UInt8.toNat_inj.mp number))
  · exact .inr (.inr (.inl (UInt8.toNat_inj.mp number)))
  · exact .inr (.inr (.inr (UInt8.toNat_inj.mp number)))

lemma bearer_threeGpp {accessType : UInt8} (access : accessType ≤ 1) :
  bearer accessType = 1 := by
  have atMost : accessType.toNat ≤ 1 := UInt8.le_iff_toNat_le.mp access
  unfold bearer
  split
  · rfl
  · next notZero =>
      have positive : accessType.toNat ≠ 0 := fun zero =>
        notZero (UInt8.toNat_inj.mp zero)
      exact UInt8.toNat_inj.mp (show accessType.toNat = 1 by omega)

variable (crypt : Primitives) {ue : AmfUe} (headerType : SecurityHeaderType)
  (direction : UInt8) (count : UInt32) (message : Bytes)

lemma calculateMac_nasContext (supported : Supported ue) :
  (nasContext ue headerType).calculateMac crypt direction 1 count message =
    .ok (if headerType.integrityProtected then
      nasMacCalculate crypt ue.selectedIntAlgorithm ue.knasInt count ue.accessType
        direction message
    else zeros4) := by
  have accessBearer := bearer_threeGpp supported.access
  unfold calculateMac nasMacCalculate nasContext
  cases headerType.integrityProtected with
  | false => rfl
  | true =>
    rcases algorithm_cases supported.integrity with algorithm | algorithm | algorithm |
        algorithm <;>
      simp only [new, algorithm, if_true, accessBearer] <;> rfl

lemma cipherNea3_eq_iff (key : Key) :
  zucEea3 crypt key count 1 direction.toUInt32 (bitLength message) message
      (replicate message.length 0) =
    zucEea3 crypt key count 1 direction.toUInt32 (bitLength message) message message ↔
    ∀ octet ∈ message.drop (message.length % 2 ^ 29), octet = 0 := by
  rw [zucEea3_eq, zucEea3_eq, append_cancel_left_eq, drop_replicate, eq_comm, eq_replicate_iff]
  simp

lemma cipher_nil (ctx : NasSecurityContext) (known : ctx.algorithms.ciphering ≤ 3) :
  ctx.cipher crypt direction 1 count [] = .ok [] := by
  unfold cipher
  rcases algorithm_cases known with algorithm | algorithm | algorithm | algorithm <;>
    simp only [algorithm]
  · simp [cipherNea1, snow3gF8, bitLength]
  · simp [cipherNea2, aesCtr128Encrypt]
  · simp [cipherNea3, zucEea3_eq]

lemma cipher_nasContext_iff (supported : Supported ue) :
  (nasContext ue headerType).cipher crypt direction 1 count message =
      .ok (nasEncrypt crypt ue.selectedEncAlgorithm ue.knasEnc count ue.accessType
        direction message) ↔
    TailClear ue.selectedEncAlgorithm message := by
  cases message with
  | nil =>
    rw [cipher_nil crypt direction count _ supported.ciphering]
    exact iff_of_true rfl (by simp [TailClear])
  | cons octet rest =>
    have accessBearer := bearer_threeGpp supported.access
    unfold cipher nasEncrypt nasContext TailClear
    rcases algorithm_cases supported.ciphering with algorithm | algorithm | algorithm |
        algorithm <;>
      simp only [new, algorithm, accessBearer, isEmpty_cons, Bool.false_eq_true, if_false]
    · exact iff_of_true rfl fun three => absurd three (by decide)
    · exact iff_of_true rfl fun three => absurd three (by decide)
    · simp only [cipherNea2, aesCtr128Encrypt_ok, length_replicate]
      exact iff_of_true rfl fun three => absurd three (by decide)
    · simp only [cipherNea3, Except.ok.injEq, true_imp_iff]
      exact cipherNea3_eq_iff crypt direction count (octet :: rest) ue.knasEnc

/-!
## The two downlink encoders

Two AMFs that differ in the encoder only are run side by side on the same
calls.  They keep one state and give one answer as long as no header opens a
new context over an established replay baseline: the adapter drops the
baseline there and the legacy encoder does not.
-/

inductive NasCall where
  | encode (message : Bytes) (securityHeaderType : UInt8)
  | decode (securityHeaderType : UInt8) (message : Bytes)

inductive NasAnswer where
  | frame (bytes : Option Bytes)
  | plain (result : Except NasSecurityError Bytes)

def codec (crypt : Primitives) (encode : AmfUe → Bytes → UInt8 → AmfUe × Option Bytes) :
  Machine AmfUe NasCall NasAnswer where
  step ue
    | .encode message securityHeaderType =>
      let (ue, bytes) := encode ue message securityHeaderType
      (ue, .frame bytes)
    | .decode securityHeaderType message =>
      let (ue, result) := nas5gsSecurityDecode crypt ue securityHeaderType message
      (ue, .plain result)

/-- The encoders do the same with a call: a header that opens a new context
meets no established baseline, and a ciphered message is one that both
implementations of ZUC cipher alike. -/
def EncodesAlike (ue : AmfUe) : NasCall → Prop
  | .encode message securityHeaderType =>
    let headerType := fromByte securityHeaderType
    (headerType.newSecurityContext → ue.ulCountEstablished = false) ∧
      (headerType.ciphered → TailClear ue.selectedEncAlgorithm message)
  | .decode _ _ => True

variable (crypt : Primitives) {ue : AmfUe} (message : Bytes)

lemma value_increment_nasCountFromU32 (word : UInt32) :
  (nasCountFromU32 word).increment.value = word + 1 := by
  apply UInt32.toNat_inj.mp
  rw [NasCount.toNat_value_increment, nasCountFromU32, NasCount.value_new_shift, UInt32.toNat_add]
  rfl

lemma protect_nasContext (supported : Supported ue) (headerType : SecurityHeaderType)
  (clear : headerType.ciphered → TailClear ue.selectedEncAlgorithm message) :
  let body :=
    if headerType.ciphered then
      nasEncrypt crypt ue.selectedEncAlgorithm ue.knasEnc ue.dlCount ue.accessType
        Direction.downlink message
    else message
  let sqn := (ue.dlCount &&& 0xff).toUInt8
  let mac :=
    if headerType.integrityProtected then
      nasMacCalculate crypt ue.selectedIntAlgorithm ue.knasInt ue.dlCount ue.accessType
        Direction.downlink (sqn :: body)
    else zeros4
  let ctx := { nasContext ue headerType with dlCount := nasCountFromU32 ue.dlCount }
  protectNasMessage crypt ctx Direction.downlink message headerType.ciphered =
    ({ ctx with dlCount := (nasCountFromU32 ue.dlCount).increment },
      .ok (mac.toList ++ sqn :: body)) := by
  intro body sqn mac ctx
  have keys : ctx.SameKeys (nasContext ue headerType) := ⟨rfl, rfl, rfl⟩
  have value : (ctx.count Direction.downlink).value = ue.dlCount :=
    NasCount.value_new_shift ue.dlCount
  refine protect_makes ?_ ?_
  · rw [value]
    cases ciphered : headerType.ciphered with
    | false => simp [body, ciphered]
    | true =>
      rw [if_pos rfl, keys.cipher crypt,
        (cipher_nasContext_iff crypt headerType _ _ _ supported).mpr (clear ciphered)]
      simp [body, ciphered]
  · rw [value, keys.calculateMac crypt, calculateMac_nasContext crypt _ _ _ _ supported]
    rfl

lemma newContext_alike {newSecurityContext : Bool}
  (fresh : newSecurityContext → ue.ulCountEstablished = false) :
  (if newSecurityContext then
      { ue with dlCount := 0, ulCount := 0, ulCountEstablished := false } else ue) =
    if newSecurityContext then { ue with dlCount := 0, ulCount := 0 } else ue := by
  cases newSecurityContext with
  | false => rfl
  | true => rw [if_pos rfl, if_pos rfl, ← fresh rfl]

section

variable (supported : Supported ue) (securityHeaderType : UInt8)

include supported securityHeaderType

lemma encode_alike (alike : EncodesAlike ue (.encode message securityHeaderType)) :
  nas5gsSecurityEncodeLegacy crypt ue message securityHeaderType =
    nas5gsSecurityEncodeNextgcore crypt ue message securityHeaderType := by
  obtain ⟨fresh, clear⟩ := alike
  unfold nas5gsSecurityEncodeLegacy nas5gsSecurityEncodeNextgcore
  split
  · rfl
  · simp only [newContext_alike fresh]
    have opened : ∃ opened : AmfUe, opened =
        (if (fromByte securityHeaderType).newSecurityContext then
          { ue with dlCount := 0, ulCount := 0 } else ue) ∧ Supported opened ∧
        opened.selectedEncAlgorithm = ue.selectedEncAlgorithm := by
      refine ⟨_, rfl, ?_⟩
      split
      · exact ⟨⟨supported.access, supported.ciphering, supported.integrity⟩, rfl⟩
      · exact ⟨supported, rfl⟩
    obtain ⟨opened, equation, openedSupported, sameAlgorithm⟩ := opened
    rw [← equation]
    have protectedFrame := protect_nasContext crypt message openedSupported
      ((fromByte securityHeaderType).disableNull opened) (by
        intro ciphered
        rw [sameAlgorithm]
        exact clear (Bool.and_eq_true_iff.mp ciphered).1)
    simp only [protectedFrame, NasSecurityHeader.encode_append]
    simp only [nasCountToU32, value_increment_nasCountFromU32]

lemma encodeLegacy_supported :
  Supported (nas5gsSecurityEncodeLegacy crypt ue message securityHeaderType).1 := by
  unfold nas5gsSecurityEncodeLegacy
  split
  · exact supported
  · simp only
    split <;> exact ⟨supported.access, supported.ciphering, supported.integrity⟩

lemma decode_supported :
  Supported (nas5gsSecurityDecode crypt ue securityHeaderType message).1 := by
  obtain ⟨macFailed, ulCount, established, kept⟩ :=
    decode_keeps crypt ue securityHeaderType message
  rw [kept]
  exact ⟨supported.access, supported.ciphering, supported.integrity⟩

end

/-- The encoders give the same answers and leave the same records, call by
call, over every run whose calls meet `EncodesAlike`. -/
theorem encoders_equivalent (supported : Supported ue) {calls : List NasCall}
  (alike : (codec crypt (nas5gsSecurityEncodeLegacy crypt)).Along EncodesAlike ue calls) :
  (codec crypt (nas5gsSecurityEncodeLegacy crypt)).trace ue calls =
    (codec crypt (nas5gsSecurityEncodeNextgcore crypt)).trace ue calls := by
  have simulated := (codec crypt (nas5gsSecurityEncodeLegacy crypt)).simulation
    (codec crypt (nas5gsSecurityEncodeNextgcore crypt))
    (fun left right => left = right ∧ Supported left) Eq ?_ ⟨rfl, supported⟩ alike
  · have equal := simulated.imp fun left right both =>
      (Prod.ext both.1.1 both.2 : left = right)
    rwa [forall₂_eq_eq_eq] at equal
  · rintro left _ call ⟨rfl, stillSupported⟩ stepAlike
    cases call with
    | encode message securityHeaderType =>
      have same := encode_alike crypt message stillSupported securityHeaderType stepAlike
      simp only [codec, ← same]
      exact ⟨⟨trivial, encodeLegacy_supported crypt message stillSupported _⟩, trivial⟩
    | decode securityHeaderType message =>
      exact ⟨⟨rfl, decode_supported crypt message stillSupported _⟩, rfl⟩

/-- A ciphered message, a new context before any baseline, and an uplink frame. -/
theorem encoders_equivalent_sample :
  let ue := { AmfUe.sample with ulCount := 0, ulCountEstablished := false }
  let calls := [.encode [0x7e, 0, 0x55] 2, .encode [0x7e, 0, 0x5d] 3,
    .decode 1 [0x7e, 1, 0, 0, 0, 0, 0]]
  (codec .sample (nas5gsSecurityEncodeLegacy .sample)).trace ue calls =
    (codec .sample (nas5gsSecurityEncodeNextgcore .sample)).trace ue calls :=
  encoders_equivalent .sample ⟨by decide, by decide, by decide⟩
    ⟨⟨by decide, fun _ => tailClear_of_short (by decide)⟩,
      ⟨by decide, fun _ => tailClear_of_short (by decide)⟩, trivial, trivial⟩

/-- A new context over an established baseline sets the encoders apart. -/
theorem encoders_differ : ¬ ∀ (crypt : Primitives) (ue : AmfUe) (calls : List NasCall),
    Supported ue → ue.dlCount < 0x1000000 → ue.ulCount < 0x1000000 →
    (codec crypt (nas5gsSecurityEncodeLegacy crypt)).trace ue calls =
      (codec crypt (nas5gsSecurityEncodeNextgcore crypt)).trace ue calls := by
  intro equivalent
  have same := equivalent .sample .sample [.encode [0x7e, 0, 0x5d] 3]
    ⟨by decide, by decide, by decide⟩ (by decide) (by decide)
  have established := congrArg (map fun answer => answer.1.ulCountEstablished) same
  exact absurd established (by decide)

end NextGCore.Amf
