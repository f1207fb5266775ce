import NextGCore.Crypt.Primitives

/-!
# ECIES

`ecies.rs`, and Profile B of `ecc.rs`: an ephemeral Diffie-Hellman, a key
derivation, AES-128 in counter mode and a truncated HMAC.  The two curves, the
derivation and the HMAC are parameters.
-/

namespace NextGCore.Crypt

open Vector

variable {key : Key} {blocks : ℕ} {counter : Vector UInt8 16} {data : Bytes}

abbrev Octets32 := Vector UInt8 32

abbrev Octets33 := Vector UInt8 33

abbrev MacTag := Vector UInt8 8

abbrev DerivedKeys := Key × Vector UInt8 16 × Octets32

structure EciesPrimitives where
  /-- `X25519PublicKey::from(&StaticSecret::from(priv))`. -/
  x25519PublicKey : Octets32 → Octets32
  /-- `StaticSecret::from(priv).diffie_hellman(&X25519PublicKey::from(pub))`. -/
  x25519DiffieHellman : Octets32 → Octets32 → Octets32
  P256Secret : Type
  P256Public : Type
  /-- `SecretKey::from_bytes`. -/
  p256SecretFromBytes : Octets32 → Option P256Secret
  /-- `SecretKey::public_key`. -/
  p256PublicKey : P256Secret → P256Public
  /-- `to_encoded_point(true).as_bytes()`. -/
  p256ToEncodedPoint : P256Public → Bytes
  /-- `EncodedPoint::from_bytes`, then `PublicKey::from_encoded_point`. -/
  p256FromEncodedPoint : Octets33 → Option P256Public
  /-- `p256::ecdh::diffie_hellman`. -/
  p256DiffieHellman : P256Secret → P256Public → Octets32
  /-- `nextgcore_kdf_ansi_x963(z, info)`. -/
  kdfAnsiX963 : Bytes → Bytes → DerivedKeys
  hmacSha256 : Octets32 → Bytes → Octets32

/-- Diffie-Hellman commutes on both curves, and a compressed point of P-256 is
the one it was made of. -/
structure EciesPrimitives.Commutative (ecies : EciesPrimitives) : Prop where
  x25519 : ∀ first second, ecies.x25519DiffieHellman first (ecies.x25519PublicKey second) =
      ecies.x25519DiffieHellman second (ecies.x25519PublicKey first)
  p256 : ∀ first second, ecies.p256DiffieHellman first (ecies.p256PublicKey second) =
      ecies.p256DiffieHellman second (ecies.p256PublicKey first)
  compressed : ∀ point octets, ecies.p256ToEncodedPoint point = octets.toList →
    ecies.p256FromEncodedPoint octets = some point

def nextgcoreKdfAnsiX963 (sha256 : Bytes → Octets32) (z info : Bytes) : DerivedKeys :=
  let output1 := sha256 (z ++ [0, 0, 0, 1] ++ info)
  let output2 := sha256 (z ++ [0, 0, 0, 2] ++ info)
  (.ofFn fun index => output1[index.val], .ofFn fun index => output1[16 + index.val], output2)

def productSecret (priv pub : Octets32) : Octets32 := .zipWith (· * ·) priv pub

def afterPrefix (octets : Octets33) : Octets32 := .ofFn fun index => octets[1 + index.val]

/-- Toy primitives: private keys are their own public keys, and a product is a
shared secret. -/
def EciesPrimitives.sample : EciesPrimitives where
  x25519PublicKey priv := priv
  x25519DiffieHellman := productSecret
  P256Secret := Octets32
  P256Public := Octets32
  p256SecretFromBytes priv := some priv
  p256PublicKey priv := priv
  p256ToEncodedPoint point := 2 :: point.toList
  p256FromEncodedPoint octets := some (afterPrefix octets)
  p256DiffieHellman := productSecret
  kdfAnsiX963 := nextgcoreKdfAnsiX963 fun input => .replicate 32 (checksum 0 input).toUInt8
  hmacSha256 key data := .set key 0 (checksum 0 data).toUInt8

lemma productSecret_comm (priv pub : Octets32) :
  productSecret priv pub = productSecret pub priv := by
  apply Vector.ext
  intro index bound
  simp only [productSecret, getElem_zipWith]
  exact UInt8.mul_comm _ _

lemma afterPrefix_eq {point : Octets32} {octets : Octets33}
  (same : 2 :: point.toList = octets.toList) : afterPrefix octets = point := by
  apply Vector.ext
  intro index bound
  have there := congrArg (·[index + 1]?) same
  simp only [List.getElem?_cons_succ, Vector.getElem?_toList] at there
  rw [Vector.getElem?_eq_getElem bound, Vector.getElem?_eq_getElem (by omega)] at there
  simp only [afterPrefix, getElem_ofFn, Nat.add_comm 1 index]
  exact (Option.some.inj there).symm

lemma EciesPrimitives.sample_commutative : EciesPrimitives.sample.Commutative where
  x25519 first second := productSecret_comm first second
  p256 first second := productSecret_comm first second
  compressed _ _ same := congrArg some (afterPrefix_eq same)

inductive EccError where
  | invalidPublicKey
  | invalidPrivateKey
  | eciesEncryptionFailed
  | eciesMacVerificationFailed

inductive EciesError where
  | schemeOutputTooShort
  | macVerificationFailed
  | profileB (error : EccError)

/-- One turn of the carry loop, from the last octet to the first.  Once the
carry is zero the remaining turns change nothing, and the code stops. -/
def addCarry (octet : UInt8) (carryAndOctets : UInt16 × Bytes) : UInt16 × Bytes :=
  let carry := carryAndOctets.1 + octet.toUInt16
  (carry >>> 8, carry.toUInt8 :: carryAndOctets.2)

lemma length_addCarry (counter : Bytes) (start : UInt16 × Bytes) :
  (counter.foldr addCarry start).2.length = counter.length + start.2.length := by
  induction counter with
  | nil => simp
  | cons octet rest ih =>
    simp only [List.foldr_cons, addCarry, List.length_cons, ih]
    omega

def incrementCounter (counter : Vector UInt8 16) : Vector UInt8 16 :=
  ⟨(counter.toList.foldr addCarry (1, [])).2.toArray,
    (length_addCarry counter.toList (1, [])).trans counter.length_toList⟩

variable (crypt : Primitives)

def aes128CtrLoop (key : Key) : ℕ → Vector UInt8 16 → Bytes → Bytes
  | 0, _, _ => []
  | blocks + 1, counter, data =>
    (data.take 16).zipWith (· ^^^ ·) (crypt.aesEncryptBlock key counter).toList ++
      aes128CtrLoop key blocks (incrementCounter counter) (data.drop 16)

def aes128Ctr (key : Key) (icb : Vector UInt8 16) (data : Bytes) : Bytes :=
  aes128CtrLoop crypt key ((data.length + 15) / 16) icb data

lemma length_aes128CtrLoop (covered : data.length ≤ 16 * blocks) :
  (aes128CtrLoop crypt key blocks counter data).length = data.length := by
  induction blocks generalizing counter data with
  | zero =>
    rw [Nat.mul_zero, Nat.le_zero] at covered
    rw [covered]
    rfl
  | succ blocks ih =>
    rw [aes128CtrLoop, List.length_append, List.length_zipWith, List.length_take,
      length_toList, ih (by rw [List.length_drop]; omega),
      List.length_drop]
    omega

lemma zipWith_xor_cancel {text stream : Bytes} (covered : text.length ≤ stream.length) :
  (text.zipWith (· ^^^ ·) stream).zipWith (· ^^^ ·) stream = text := by
  induction text generalizing stream with
  | nil => simp
  | cons octet text ih =>
    cases stream with
    | nil => simp at covered
    | cons key stream =>
      simp only [List.zipWith_cons_cons, xor_cancel]
      rw [ih (by simpa using covered)]

lemma aes128CtrLoop_involutive (covered : data.length ≤ 16 * blocks) :
  aes128CtrLoop crypt key blocks counter (aes128CtrLoop crypt key blocks counter data) =
    data := by
  induction blocks generalizing counter data with
  | zero =>
    rw [Nat.mul_zero, Nat.le_zero] at covered
    rw [List.length_eq_zero_iff.mp covered]
    rfl
  | succ blocks ih =>
    have rest : (data.drop 16).length ≤ 16 * blocks := by
      rw [List.length_drop]
      omega
    have stream : (data.take 16).length ≤ (crypt.aesEncryptBlock key counter).toList.length := by
      rw [length_toList]
      exact List.length_take_le ..
    rw [aes128CtrLoop, aes128CtrLoop]
    by_cases short : data.length ≤ 16
    · have none : data.drop 16 = [] := List.drop_eq_nil_of_le short
      have nothing : ∀ turns counter, aes128CtrLoop crypt key turns counter [] = [] := by
        intro turns counter
        exact List.length_eq_zero_iff.mp (length_aes128CtrLoop crypt (Nat.zero_le _))
      have block : ((data.take 16).zipWith (· ^^^ ·)
          (crypt.aesEncryptBlock key counter).toList).length ≤ 16 := by
        rw [List.length_zipWith, List.length_take]
        omega
      rw [none, nothing, List.append_nil, List.take_of_length_le block,
        List.drop_eq_nil_of_le block, nothing, List.append_nil, zipWith_xor_cancel stream]
      exact List.take_of_length_le short
    · have block : ((data.take 16).zipWith (· ^^^ ·)
          (crypt.aesEncryptBlock key counter).toList).length = 16 := by
        rw [List.length_zipWith, List.length_take, length_toList]
        omega
      rw [List.take_left' block, List.drop_left' block, ih rest, zipWith_xor_cancel stream]
      exact List.take_append_drop 16 data

@[simp]
lemma length_aes128Ctr (key : Key) (icb : Vector UInt8 16) (data : Bytes) :
  (aes128Ctr crypt key icb data).length = data.length :=
  length_aes128CtrLoop crypt (by omega)

@[simp]
lemma aes128Ctr_involutive (key : Key) (icb : Vector UInt8 16) (data : Bytes) :
  aes128Ctr crypt key icb (aes128Ctr crypt key icb data) = data := by
  unfold aes128Ctr
  rw [length_aes128CtrLoop crypt (by omega)]
  exact aes128CtrLoop_involutive crypt (by omega)

variable (ecies : EciesPrimitives)

def hmacTag (macKey : Octets32) (data : Bytes) : MacTag :=
  .ofFn fun index => (ecies.hmacSha256 macKey data)[index.val]

def sealWith (shared : Octets32) (ephemeralPub plaintext : Bytes) : Bytes × MacTag :=
  let (encKey, icb, macKey) := ecies.kdfAnsiX963 shared.toList ephemeralPub
  let ciphertext := aes128Ctr crypt encKey icb plaintext
  (ciphertext, hmacTag ecies macKey ciphertext)

def openWith (shared : Octets32) (ephemeralPub ciphertext : Bytes) (macTag : MacTag) :
  Option Bytes :=
  let (encKey, icb, macKey) := ecies.kdfAnsiX963 shared.toList ephemeralPub
  if hmacTag ecies macKey ciphertext ≠ macTag then none
  else some (aes128Ctr crypt encKey icb ciphertext)

lemma openWith_sealWith (shared : Octets32) (ephemeralPub plaintext : Bytes) :
  openWith crypt ecies shared ephemeralPub (sealWith crypt ecies shared ephemeralPub plaintext).1
    (sealWith crypt ecies shared ephemeralPub plaintext).2 = some plaintext := by
  simp only [openWith, sealWith, ne_eq, not_true_eq_false, if_false, aes128Ctr_involutive]

def eciesProfileAEncryptWithEphemeral (hnPubKey : Octets32) (plaintext : Bytes)
  (ephPriv : Octets32) : Octets32 × Bytes × MacTag :=
  let ephPub := ecies.x25519PublicKey ephPriv
  let shared := ecies.x25519DiffieHellman ephPriv hnPubKey
  (ephPub, sealWith crypt ecies shared ephPub.toList plaintext)

def eciesProfileADecrypt (hnPrivKey ephemeralPub : Octets32) (ciphertext : Bytes)
  (macTag : MacTag) : Except EciesError Bytes :=
  let shared := ecies.x25519DiffieHellman hnPrivKey ephemeralPub
  match openWith crypt ecies shared ephemeralPub.toList ciphertext macTag with
  | some plaintext => .ok plaintext
  | none => .error .macVerificationFailed

def ecdhSharedSecret (publicKey : Octets33) (privateKey : Octets32) :
  Except EccError Octets32 :=
  match ecies.p256FromEncodedPoint publicKey with
  | none => .error .invalidPublicKey
  | some point =>
    match ecies.p256SecretFromBytes privateKey with
    | none => .error .invalidPrivateKey
    | some secret => .ok (ecies.p256DiffieHellman secret point)

/-- `copy_from_slice(compressed)`, after the check of its length. -/
def compressedPoint (compressed : Bytes) : Option Octets33 :=
  if exact : compressed.length = 33 then some ⟨compressed.toArray, by simpa using exact⟩
  else none

def eciesProfileBEncryptWithEphemeral (pubKey : Octets33) (plaintext : Bytes)
  (ephPriv : Octets32) : Except EccError (Octets33 × Bytes × MacTag) :=
  match ecies.p256SecretFromBytes ephPriv with
  | none => .error .invalidPrivateKey
  | some secret =>
    match compressedPoint (ecies.p256ToEncodedPoint (ecies.p256PublicKey secret)) with
    | none => .error .eciesEncryptionFailed
    | some ephPub =>
      (ecdhSharedSecret ecies pubKey ephPriv).map fun shared =>
        (ephPub, sealWith crypt ecies shared ephPub.toList plaintext)

def eciesProfileBDecrypt (privKey : Octets32) (ephemeralPub : Octets33) (ciphertext : Bytes)
  (macTag : MacTag) : Except EccError Bytes := do
  let shared ← ecdhSharedSecret ecies ephemeralPub privKey
  match openWith crypt ecies shared ephemeralPub.toList ciphertext macTag with
  | some plaintext => .ok plaintext
  | none => .error .eciesMacVerificationFailed

def splitSchemeOutput (ephPubSize : ℕ) (schemeOutput : Bytes) :
  Option (Vector UInt8 ephPubSize × Bytes × MacTag) :=
  if long : ephPubSize + 1 + 8 ≤ schemeOutput.length then
    let ctEnd := schemeOutput.length - 8
    some (⟨(schemeOutput.take ephPubSize).toArray, by simp; omega⟩,
      (schemeOutput.take ctEnd).drop ephPubSize,
      ⟨(schemeOutput.drop ctEnd).toArray, by simp [ctEnd]; omega⟩)
  else none

def suciDeconcealProfileA (hnPrivKey : Octets32) (schemeOutput : Bytes) :
  Except EciesError Bytes :=
  match splitSchemeOutput 32 schemeOutput with
  | none => .error .schemeOutputTooShort
  | some (ephPub, ciphertext, macTag) =>
    eciesProfileADecrypt crypt ecies hnPrivKey ephPub ciphertext macTag

def suciDeconcealProfileB (hnPrivKey : Octets32) (schemeOutput : Bytes) :
  Except EciesError Bytes :=
  match splitSchemeOutput 33 schemeOutput with
  | none => .error .schemeOutputTooShort
  | some (ephPub, ciphertext, macTag) =>
    (eciesProfileBDecrypt crypt ecies hnPrivKey ephPub ciphertext macTag).mapError .profileB

lemma splitSchemeOutput_append {ephPubSize : ℕ} (ephPub : Vector UInt8 ephPubSize)
  {ciphertext : Bytes} (macTag : MacTag) (nonempty : ciphertext ≠ []) :
  splitSchemeOutput ephPubSize (ephPub.toList ++ ciphertext ++ macTag.toList) =
    some (ephPub, ciphertext, macTag) := by
  have occupied : 0 < ciphertext.length := List.length_pos_of_ne_nil nonempty
  have body : (ephPub.toList ++ ciphertext).length = ephPubSize + ciphertext.length := by
    rw [List.length_append, length_toList]
  have size : (ephPub.toList ++ ciphertext ++ macTag.toList).length =
      ephPubSize + ciphertext.length + 8 := by
    rw [List.length_append, body, length_toList]
  have first : (ephPub.toList ++ ciphertext ++ macTag.toList).take ephPubSize = ephPub.toList := by
    rw [List.append_assoc]
    exact List.take_left' ephPub.length_toList
  have middle : ((ephPub.toList ++ ciphertext ++ macTag.toList).take
      (ephPubSize + ciphertext.length)).drop ephPubSize = ciphertext := by
    rw [List.take_left' body]
    exact List.drop_left' ephPub.length_toList
  have last : (ephPub.toList ++ ciphertext ++ macTag.toList).drop
      (ephPubSize + ciphertext.length) = macTag.toList := List.drop_left' body
  unfold splitSchemeOutput
  rw [dif_pos (by omega)]
  simp only [size, Nat.add_sub_cancel, first, middle, last]
  rfl

end NextGCore.Crypt
