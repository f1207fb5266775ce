import NextGCore.Crypt.Primitives
import NextGCore.Nas.Common
import NextGCore.Nas.Count

/-!
# NAS security contexts

`protect_nas_message` and `unprotect_nas_message` of `nextgcore-nas`: a frame
is `MAC | SQN | payload`, the MAC covers the sequence number and the (ciphered)
payload, and the receiver moves its COUNT only once the MAC has verified.

A call answers with the context it leaves and its result, so that the state
after an error is part of the model.
-/

namespace NextGCore.Nas

open Crypt Library

structure SecurityAlgorithms where
  ciphering : UInt8
  integrity : UInt8

structure NasSecurityContext where
  algorithms : SecurityAlgorithms
  knasEnc : Key
  knasInt : Key
  dlCount : NasCount
  ulCount : NasCount
  dlEstablished : Bool
  ulEstablished : Bool

namespace NasSecurityContext

variable {left right : NasSecurityContext}

def new (algorithms : SecurityAlgorithms) (knasEnc knasInt : Key) :
  NasSecurityContext :=
  { algorithms, knasEnc, knasInt
    dlCount := .default
    ulCount := .default
    dlEstablished := false
    ulEstablished := false }

def count (ctx : NasSecurityContext) (direction : UInt8) : NasCount :=
  if direction = 0 then ctx.ulCount else ctx.dlCount

def established (ctx : NasSecurityContext) (direction : UInt8) : Bool :=
  if direction = 0 then ctx.ulEstablished else ctx.dlEstablished

def setCount (ctx : NasSecurityContext) (direction : UInt8) (count : NasCount) :
  NasSecurityContext :=
  if direction = 0 then { ctx with ulCount := count } else { ctx with dlCount := count }

def commit (ctx : NasSecurityContext) (direction : UInt8) (count : NasCount) :
  NasSecurityContext :=
  if direction = 0 then
    { ctx with ulCount := count, ulEstablished := true }
  else
    { ctx with dlCount := count, dlEstablished := true }

variable (crypt : Primitives) (ctx : NasSecurityContext)

def bearerDirection (bearer direction : UInt8) : UInt8 :=
  (bearer <<< 3) ||| ((direction &&& 0x01) <<< 2)

def calculateMacNia1 (direction bearer : UInt8) (count : UInt32) (message : Bytes) :
  Except NasError (Vector UInt8 4) :=
  .ok (crypt.snow3gF9 ctx.knasInt count (bearer.toUInt32 <<< 27) direction.toUInt32
    message (UInt64.ofNat (message.length * 8)))

def calculateMacNia2 (direction bearer : UInt8) (count : UInt32) (message : Bytes) :
  Except NasError (Vector UInt8 4) :=
  let input := (toBeBytes count).toList ++ [bearerDirection bearer direction, 0, 0, 0] ++ message
  .ok (firstFour (crypt.aesCmacCalculate ctx.knasInt input))

def calculateMacNia3 (direction bearer : UInt8) (count : UInt32) (message : Bytes) :
  Except NasError (Vector UInt8 4) :=
  .ok (toBeBytes (crypt.zucEia3 ctx.knasInt count bearer.toUInt32 direction.toUInt32
    (bitLength message) message))

def calculateMac (direction bearer : UInt8) (count : UInt32) (message : Bytes) :
  Except NasError (Vector UInt8 4) :=
  match ctx.algorithms.integrity with
  | 0 => .ok zeros4
  | 1 => calculateMacNia1 crypt ctx direction bearer count message
  | 2 => calculateMacNia2 crypt ctx direction bearer count message
  | 3 => calculateMacNia3 crypt ctx direction bearer count message
  | other => .error (.securityError
      ("Unsupported integrity algorithm: " ++ toString other.toNat))

def cipherNea1 (direction bearer : UInt8) (count : UInt32) (message : Bytes) :
  Except NasError Bytes :=
  .ok (snow3gF8 crypt ctx.knasEnc count bearer.toUInt32 direction.toUInt32 message
    (bitLength message))

def cipherNea2 (direction bearer : UInt8) (count : UInt32) (message : Bytes) :
  Except NasError Bytes :=
  let output := List.replicate message.length 0
  match aesCtr128Encrypt crypt ctx.knasEnc (countIv count (bearerDirection bearer direction))
      message output with
  | .ok output => .ok output
  | .error error => .error (.securityError ("AES-CTR error: " ++ error.debug))

def cipherNea3 (direction bearer : UInt8) (count : UInt32) (message : Bytes) :
  Except NasError Bytes :=
  let output := List.replicate message.length 0
  .ok (zucEea3 crypt ctx.knasEnc count bearer.toUInt32 direction.toUInt32
    (bitLength message) message output)

def cipher (direction bearer : UInt8) (count : UInt32) (message : Bytes) :
  Except NasError Bytes :=
  match ctx.algorithms.ciphering with
  | 0 => .ok message
  | 1 => cipherNea1 crypt ctx direction bearer count message
  | 2 => cipherNea2 crypt ctx direction bearer count message
  | 3 => cipherNea3 crypt ctx direction bearer count message
  | other => .error (.securityError
      ("Unsupported ciphering algorithm: " ++ toString other.toNat))

structure SameKeys (left right : NasSecurityContext) : Prop where
  algorithms : left.algorithms = right.algorithms
  knasEnc : left.knasEnc = right.knasEnc
  knasInt : left.knasInt = right.knasInt

lemma SameKeys.refl (ctx : NasSecurityContext) : SameKeys ctx ctx := ⟨rfl, rfl, rfl⟩

lemma SameKeys.trans {first second third : NasSecurityContext}
  (left : SameKeys first second) (right : SameKeys second third) :
  SameKeys first third :=
  ⟨left.algorithms.trans right.algorithms, left.knasEnc.trans right.knasEnc,
    left.knasInt.trans right.knasInt⟩

lemma setCount_sameKeys (direction : UInt8) (count : NasCount) :
  SameKeys (ctx.setCount direction count) ctx := by
  unfold setCount
  split <;> exact ⟨rfl, rfl, rfl⟩

lemma commit_sameKeys (direction : UInt8) (count : NasCount) :
  SameKeys (ctx.commit direction count) ctx := by
  unfold commit
  split <;> exact ⟨rfl, rfl, rfl⟩

lemma SameKeys.calculateMac (same : SameKeys left right) (direction bearer : UInt8)
  (count : UInt32) (message : Bytes) :
  left.calculateMac crypt direction bearer count message =
    right.calculateMac crypt direction bearer count message := by
  simp only [NasSecurityContext.calculateMac, calculateMacNia1, calculateMacNia2,
    calculateMacNia3, same.algorithms, same.knasInt]

lemma SameKeys.cipher (same : SameKeys left right) (direction bearer : UInt8) (count : UInt32)
  (message : Bytes) :
  left.cipher crypt direction bearer count message =
    right.cipher crypt direction bearer count message := by
  simp only [NasSecurityContext.cipher, cipherNea1, cipherNea2, cipherNea3,
    same.algorithms, same.knasEnc]

@[simp]
lemma setCount_count (direction : UInt8) (count : NasCount) :
  (ctx.setCount direction count).count direction = count := by
  unfold setCount NasSecurityContext.count
  split <;> rfl

@[simp]
lemma commit_count (direction : UInt8) (count : NasCount) :
  (ctx.commit direction count).count direction = count := by
  unfold commit NasSecurityContext.count
  split <;> rfl

@[simp]
lemma commit_established (direction : UInt8) (count : NasCount) :
  (ctx.commit direction count).established direction = true := by
  unfold commit established
  split <;> rfl

@[simp]
lemma commit_commit (direction : UInt8) (first second : NasCount) :
  (ctx.commit direction first).commit direction second = ctx.commit direction second := by
  unfold commit
  split <;> rfl

lemma exists_calculateMac
  (integrity : ctx.algorithms.integrity = 1 ∨ ctx.algorithms.integrity = 2 ∨
    ctx.algorithms.integrity = 3)
  (direction bearer : UInt8) (count : UInt32) (message : Bytes) :
  ∃ mac, ctx.calculateMac crypt direction bearer count message = .ok mac := by
  unfold calculateMac
  rcases integrity with algorithm | algorithm | algorithm <;> rw [algorithm] <;> exact ⟨_, rfl⟩

lemma exists_cipher (known : ctx.algorithms.ciphering ≤ 3)
  (direction bearer : UInt8) (count : UInt32) (message : Bytes) :
  ∃ text, ctx.cipher crypt direction bearer count message = .ok text := by
  unfold cipher
  split
  · exact ⟨_, rfl⟩
  · exact ⟨_, rfl⟩
  · simp only [cipherNea2, aesCtr128Encrypt_ok, List.length_replicate]
    exact ⟨_, rfl⟩
  · exact ⟨_, rfl⟩
  · next notNull notOne notTwo notThree =>
      have atMost : ctx.algorithms.ciphering.toNat ≤ 3 := UInt8.le_iff_toNat_le.mp known
      have not0 : ctx.algorithms.ciphering.toNat ≠ 0 := fun same =>
        notNull (UInt8.toNat_inj.mp same)
      have not1 : ctx.algorithms.ciphering.toNat ≠ 1 := fun same =>
        notOne (UInt8.toNat_inj.mp same)
      have not2 : ctx.algorithms.ciphering.toNat ≠ 2 := fun same =>
        notTwo (UInt8.toNat_inj.mp same)
      have not3 : ctx.algorithms.ciphering.toNat ≠ 3 := fun same =>
        notThree (UInt8.toNat_inj.mp same)
      omega

lemma cipher_unsupported (unknown : 3 < ctx.algorithms.ciphering)
  (direction bearer : UInt8) (count : UInt32) (message : Bytes) :
  ∃ error, ctx.cipher crypt direction bearer count message = .error error := by
  unfold cipher
  split
  case h_5 => exact ⟨_, rfl⟩
  all_goals
    rename_i algorithm
    rw [algorithm] at unknown
    exact absurd unknown (by decide)

section Involution

variable {direction bearer : UInt8} {count : UInt32} {message text : Bytes}

lemma cipherNea1_cipherNea1
  (enciphered : cipherNea1 crypt ctx direction bearer count message = .ok text) :
  cipherNea1 crypt ctx direction bearer count text = .ok message := by
  obtain rfl := Except.ok.inj enciphered
  have undone := snow3gF8_involutive crypt ctx.knasEnc count bearer.toUInt32
    direction.toUInt32 message
  simp only [cipherNea1, bitLength, length_snow3gF8] at undone ⊢
  rw [undone]

lemma cipherNea2_cipherNea2
  (enciphered : cipherNea2 crypt ctx direction bearer count message = .ok text) :
  cipherNea2 crypt ctx direction bearer count text = .ok message := by
  simp only [cipherNea2, aesCtr128Encrypt_ok, List.length_replicate] at enciphered ⊢
  obtain rfl := Except.ok.inj enciphered
  simp only [length_mask]
  rw [mask_mask _ _ _ xor_cancel]

lemma cipherNea3_cipherNea3 (short : message.length < 2 ^ 29)
  (enciphered : cipherNea3 crypt ctx direction bearer count message = .ok text) :
  cipherNea3 crypt ctx direction bearer count text = .ok message := by
  have covered := Nat.mod_eq_of_lt short
  have result := Except.ok.inj enciphered
  rw [zucEea3_eq, covered, List.take_length, List.drop_eq_nil_of_le (by simp),
    List.append_nil] at result
  subst result
  simp only [cipherNea3, zucEea3_eq, length_mask, covered]
  rw [List.take_of_length_le (by simp), List.drop_eq_nil_of_le (by simp),
    List.append_nil, mask_mask _ _ _ xor_cancel]

lemma cipher_cipher (short : ctx.algorithms.ciphering = 3 → message.length < 2 ^ 29)
  (enciphered : ctx.cipher crypt direction bearer count message = .ok text) :
  ctx.cipher crypt direction bearer count text = .ok message := by
  unfold cipher at enciphered ⊢
  split at enciphered
  · exact congrArg Except.ok (Except.ok.inj enciphered).symm
  · exact cipherNea1_cipherNea1 crypt ctx enciphered
  · exact cipherNea2_cipherNea2 crypt ctx enciphered
  · next algorithm => exact cipherNea3_cipherNea3 crypt ctx (short algorithm) enciphered
  · cases enciphered

end Involution

end NasSecurityContext

variable (crypt : Primitives)

def protectNasMessage (ctx : NasSecurityContext) (direction : UInt8)
  (message : Bytes) (cipher : Bool) :
  NasSecurityContext × Except NasError Bytes :=
  let count := (ctx.count direction).value
  let bearer := 1
  match if cipher then ctx.cipher crypt direction bearer count message
      else .ok message with
  | .error error => (ctx, .error error)
  | .ok protectedMessage =>
    let sn := (ctx.count direction).sqn
    match ctx.calculateMac crypt direction bearer count (sn :: protectedMessage) with
    | .error error => (ctx, .error error)
    | .ok mac =>
      (ctx.setCount direction (ctx.count direction).increment,
        .ok (mac.toList ++ sn :: protectedMessage))

def unprotectNasMessage (ctx : NasSecurityContext) (direction : UInt8)
  (message : Bytes) (ciphered : Bool) :
  NasSecurityContext × Except NasError Bytes :=
  match message with
  | m0 :: m1 :: m2 :: m3 :: sqn :: protectedMessage =>
    let stored := ctx.count direction
    let established := ctx.established direction
    let candidate := stored.estimate sqn
    let count := candidate.value
    let bearer := 1
    match ctx.calculateMac crypt direction bearer count (sqn :: protectedMessage) with
    | .error error => (ctx, .error error)
    | .ok calculatedMac =>
      if octets4 m0 m1 m2 m3 ≠ calculatedMac then
        (ctx, .error .macVerificationFailed)
      else if established ∧ ctx.algorithms.integrity ≠ 0 ∧ candidate.value ≤ stored.value then
        (ctx, .error .replayedSequenceNumber)
      else
        (ctx.commit direction candidate,
          if ciphered then ctx.cipher crypt direction bearer count protectedMessage
          else .ok protectedMessage)
  | _ => (ctx, .error (.bufferTooShort 5 message.length))

section Frames

variable {crypt} {ctx : NasSecurityContext} {direction : UInt8} {body : Bytes}
  {mac : Vector UInt8 4} {sqn : UInt8}

lemma toList_mac (mac : Vector UInt8 4) :
  mac.toList = [mac.get 0, mac.get 1, mac.get 2, mac.get 3] := by
  obtain ⟨⟨octets⟩, size⟩ := mac
  match octets, size with
  | [_, _, _, _], _ => rfl

lemma mac_octets (mac : Vector UInt8 4) :
  octets4 (mac.get 0) (mac.get 1) (mac.get 2) (mac.get 3) = mac := by
  apply Vector.toList_inj.mp
  rw [toList_mac mac]
  rfl

lemma protect_makes {message : Bytes} {cipher : Bool}
  (enciphered : (if cipher then
      ctx.cipher crypt direction 1 (ctx.count direction).value message
    else .ok message) = .ok body)
  (calculated : ctx.calculateMac crypt direction 1 (ctx.count direction).value
    ((ctx.count direction).sqn :: body) = .ok mac) :
  protectNasMessage crypt ctx direction message cipher =
    (ctx.setCount direction (ctx.count direction).increment,
      .ok (mac.toList ++ (ctx.count direction).sqn :: body)) := by
  simp only [protectNasMessage, enciphered, calculated]

abbrev NasSecurityContext.candidate (ctx : NasSecurityContext) (direction sqn : UInt8) :
  NasCount :=
  (ctx.count direction).estimate sqn

section

variable
  (verified : ctx.calculateMac crypt direction 1 (ctx.candidate direction sqn).value
    (sqn :: body) = .ok mac)

include verified

lemma unprotect_accepts
  (forward : ctx.established direction = false ∨
    (ctx.count direction).value < (ctx.candidate direction sqn).value)
  (ciphered : Bool) :
  unprotectNasMessage crypt ctx direction (mac.toList ++ sqn :: body) ciphered =
    (ctx.commit direction (ctx.candidate direction sqn), if ciphered then
        ctx.cipher crypt direction 1 (ctx.candidate direction sqn).value body
      else .ok body) := by
  have notReplayed : ¬ (ctx.established direction = true ∧ ctx.algorithms.integrity ≠ 0 ∧
      (ctx.candidate direction sqn).value ≤ (ctx.count direction).value) := by
    rintro ⟨established, -, notForward⟩
    rcases forward with unestablished | forward
    · exact absurd (established.symm.trans unestablished) (by decide)
    · exact UInt32.not_le.mpr forward notForward
  rw [toList_mac]
  simp only [unprotectNasMessage, List.cons_append, List.nil_append, verified,
    mac_octets, ne_eq, not_true_eq_false, if_false]
  rw [if_neg notReplayed]

lemma unprotect_replayed (established : ctx.established direction = true)
  (integrity : ctx.algorithms.integrity ≠ 0)
  (notForward : (ctx.candidate direction sqn).value ≤ (ctx.count direction).value)
  (ciphered : Bool) :
  unprotectNasMessage crypt ctx direction (mac.toList ++ sqn :: body) ciphered =
    (ctx, .error .replayedSequenceNumber) := by
  rw [toList_mac]
  simp only [unprotectNasMessage, List.cons_append, List.nil_append, verified,
    mac_octets, ne_eq, not_true_eq_false, if_false]
  rw [if_pos ⟨established, integrity, notForward⟩]

end

lemma unprotect_forged {calculated : Vector UInt8 4}
  (calculation : ctx.calculateMac crypt direction 1
    (ctx.candidate direction sqn).value (sqn :: body) = .ok calculated)
  (forged : mac ≠ calculated) (ciphered : Bool) :
  unprotectNasMessage crypt ctx direction (mac.toList ++ sqn :: body) ciphered =
    (ctx, .error .macVerificationFailed) := by
  rw [toList_mac]
  simp only [unprotectNasMessage, List.cons_append, List.nil_append, calculation, mac_octets]
  rw [if_pos forged]

lemma unprotect_uncalculated {error : NasError} (calculation : ctx.calculateMac crypt direction 1
    (ctx.candidate direction sqn).value (sqn :: body) = .error error) (ciphered : Bool) :
  unprotectNasMessage crypt ctx direction (mac.toList ++ sqn :: body) ciphered =
    (ctx, .error error) := by
  rw [toList_mac]
  simp only [unprotectNasMessage, List.cons_append, List.nil_append, calculation]

end Frames

end NextGCore.Nas
