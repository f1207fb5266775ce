import NextGCore.Udm.Suci

/-!
# Concealing a SUCI and de-concealing it

The UE's side: the MSIN as TBCD, sealed for the home network and written as
text.  De-concealment reads such a text back.  Nibbles that are no digits are
skipped, though, so not every block that it accepts is the TBCD of the digits
it returns.
-/

namespace NextGCore.Udm

open Crypt Sbi Option EciesPrimitives

variable (octet : UInt8)

def digitValue (digit : Char) : UInt8 := UInt8.ofNat (digit.toNat - 48)

def tbcdOctet (low high : UInt8) : UInt8 := (high <<< 4) ||| low

def msinToBcd : List Char → Bytes
  | [] => []
  | [last] => [tbcdOctet (digitValue last) 0xF]
  | first :: second :: rest => tbcdOctet (digitValue first) (digitValue second) :: msinToBcd rest

def lowNibble : UInt8 := octet &&& 0x0F

def highNibble : UInt8 := (octet >>> 4) &&& 0x0F

inductive Tbcd : Bytes → Prop where
  | nil : Tbcd []
  | odd {octet : UInt8} : lowNibble octet ≤ 9 → highNibble octet = 0xF → Tbcd [octet]
  | pair {octet : UInt8} {rest : Bytes} : lowNibble octet ≤ 9 → highNibble octet ≤ 9 →
      Tbcd rest → Tbcd (octet :: rest)

lemma exists_digit {digit : Char} (isDigit : digit.isDigit = true) :
  ∃ value : Fin 10, digit = Char.ofNat (48 + value.val) := by
  obtain ⟨low, high⟩ : 48 ≤ digit.toNat ∧ digit.toNat ≤ 57 := Char.isDigit_iff_toNat.mp isDigit
  refine ⟨⟨digit.toNat - 48, by omega⟩, ?_⟩
  have value : 48 + (digit.toNat - 48) = digit.toNat := by omega
  rw [value, Char.ofNat_toNat]

lemma nibbles_pair {first second : Char} (firstDigit : first.isDigit = true)
  (secondDigit : second.isDigit = true) :
  lowNibble (tbcdOctet (digitValue first) (digitValue second)) ≤ 9 ∧
    highNibble (tbcdOctet (digitValue first) (digitValue second)) ≤ 9 ∧
    nibbleDigit (lowNibble (tbcdOctet (digitValue first) (digitValue second))) = [first] ∧
    nibbleDigit (highNibble (tbcdOctet (digitValue first) (digitValue second))) = [second] := by
  obtain ⟨first, rfl⟩ := exists_digit firstDigit
  obtain ⟨second, rfl⟩ := exists_digit secondDigit
  revert first second
  decide

lemma nibbles_odd {last : Char} (lastDigit : last.isDigit = true) :
  lowNibble (tbcdOctet (digitValue last) 0xF) ≤ 9 ∧
    highNibble (tbcdOctet (digitValue last) 0xF) = 0xF ∧
    nibbleDigit (lowNibble (tbcdOctet (digitValue last) 0xF)) = [last] ∧
    nibbleDigit (highNibble (tbcdOctet (digitValue last) 0xF)) = [] := by
  obtain ⟨last, rfl⟩ := exists_digit lastDigit
  revert last
  decide

lemma octet_pair {octet : UInt8} (low : lowNibble octet ≤ 9) (high : highNibble octet ≤ 9) :
  ∃ first second, nibbleDigit (lowNibble octet) = [first] ∧
    nibbleDigit (highNibble octet) = [second] ∧
    tbcdOctet (digitValue first) (digitValue second) = octet := by
  have cases256 : ∀ number : Fin 256, lowNibble (UInt8.ofNat number) ≤ 9 →
      highNibble (UInt8.ofNat number) ≤ 9 →
      tbcdOctet (digitValue (Char.ofNat (48 + (lowNibble (UInt8.ofNat number)).toNat)))
          (digitValue (Char.ofNat (48 + (highNibble (UInt8.ofNat number)).toNat))) =
        UInt8.ofNat number := by
    decide +kernel
  have together := cases256 ⟨octet.toNat, octet.toNat_lt⟩
  rw [UInt8.ofNat_toNat] at together
  exact ⟨_, _, if_pos low, if_pos high, together low high⟩

lemma octet_odd {octet : UInt8} (low : lowNibble octet ≤ 9) (high : highNibble octet = 0xF) :
  ∃ last, nibbleDigit (lowNibble octet) = [last] ∧
    nibbleDigit (highNibble octet) = [] ∧ tbcdOctet (digitValue last) 0xF = octet := by
  have cases256 : ∀ number : Fin 256, lowNibble (UInt8.ofNat number) ≤ 9 →
      highNibble (UInt8.ofNat number) = 0xF →
      tbcdOctet (digitValue (Char.ofNat (48 + (lowNibble (UInt8.ofNat number)).toNat))) 0xF =
        UInt8.ofNat number := by
    decide +kernel
  have together := cases256 ⟨octet.toNat, octet.toNat_lt⟩
  rw [UInt8.ofNat_toNat] at together
  exact ⟨_, if_pos low, by rw [high]; rfl, together low high⟩

lemma msinBcdToDigits_cons (rest : Bytes) : msinBcdToDigits (octet :: rest) =
    nibbleDigit (lowNibble octet) ++ nibbleDigit (highNibble octet) ++ msinBcdToDigits rest :=
  rfl

lemma msinBcdToDigits_msinToBcd {msin : List Char} (digits : msin.all Char.isDigit = true) :
  msinBcdToDigits (msinToBcd msin) = msin := by
  induction msin using msinToBcd.induct with
  | case1 => rfl
  | case2 last =>
    obtain ⟨-, -, low, high⟩ := nibbles_odd (by simpa using digits)
    rw [msinToBcd, msinBcdToDigits_cons, low, high]
    rfl
  | case3 first second rest ih =>
    simp only [List.all_cons, Bool.and_eq_true] at digits
    obtain ⟨firstDigit, secondDigit, restDigits⟩ := digits
    obtain ⟨-, -, low, high⟩ := nibbles_pair firstDigit secondDigit
    rw [msinToBcd, msinBcdToDigits_cons, low, high, ih restDigits]
    rfl

lemma tbcd_msinToBcd {msin : List Char} (digits : msin.all Char.isDigit = true) :
  Tbcd (msinToBcd msin) := by
  induction msin using msinToBcd.induct with
  | case1 => exact .nil
  | case2 last =>
    obtain ⟨low, high, -⟩ := nibbles_odd (by simpa using digits)
    exact .odd low high
  | case3 first second rest ih =>
    simp only [List.all_cons, Bool.and_eq_true] at digits
    obtain ⟨firstDigit, secondDigit, restDigits⟩ := digits
    obtain ⟨low, high, -⟩ := nibbles_pair firstDigit secondDigit
    exact .pair low high (ih restDigits)

lemma msinToBcd_msinBcdToDigits {block : Bytes} (tbcd : Tbcd block) :
  msinToBcd (msinBcdToDigits block) = block := by
  induction tbcd with
  | nil => rfl
  | odd low high =>
    obtain ⟨last, lowDigit, highDigit, together⟩ := octet_odd low high
    rw [msinBcdToDigits_cons, lowDigit, highDigit]
    exact congrArg (fun octet => [octet]) together
  | pair low high _ ih =>
    obtain ⟨first, second, lowDigit, highDigit, together⟩ := octet_pair low high
    rw [msinBcdToDigits_cons, lowDigit, highDigit]
    exact congrArg₂ List.cons together ih

lemma all_isDigit_msinBcdToDigits (block : Bytes) :
  (msinBcdToDigits block).all Char.isDigit = true := by
  have nibbles : ∀ number : Fin 256,
      (nibbleDigit (UInt8.ofNat number)).all Char.isDigit = true := by
    decide +kernel
  have nibble : ∀ octet : UInt8, (nibbleDigit octet).all Char.isDigit = true := by
    intro octet
    have digits := nibbles ⟨octet.toNat, octet.toNat_lt⟩
    rwa [UInt8.ofNat_toNat] at digits
  induction block with
  | nil => rfl
  | cons octet rest ih =>
    rw [msinBcdToDigits_cons, List.all_append, List.all_append, nibble, nibble, ih]
    rfl

lemma eq_msinToBcd_iff (block : Bytes) :
  block = msinToBcd (msinBcdToDigits block) ↔ Tbcd block := by
  constructor
  · intro same
    rw [same]
    exact tbcd_msinToBcd (all_isDigit_msinBcdToDigits block)
  · intro tbcd
    exact (msinToBcd_msinBcdToDigits tbcd).symm

def schemeOutputOf {ephPubSize : ℕ} (encrypted : Vector UInt8 ephPubSize × Bytes × MacTag) :
  Bytes :=
  encrypted.1.toList ++ encrypted.2.1 ++ encrypted.2.2.toList

/-- `suci-0-<mcc>-<mnc>-<routing>-<scheme>-<hnkey>-<schemeoutput>`. -/
def suciText (mcc mnc routing : String) (scheme keyId : UInt8) (schemeOutput : Bytes) : String :=
  String.ofList (['-'].intercalate (["suci", "0", mcc, mnc, routing, toString scheme.toNat,
    toString keyId.toNat, bytesToHex schemeOutput].map String.toList))

section Text

variable {mcc mnc routing : String} {scheme keyId : UInt8} {schemeOutput : Bytes}

lemma parseSuci_suciText (mccUndashed : '-' ∉ mcc.toList) (mncUndashed : '-' ∉ mnc.toList)
  (routingUndashed : '-' ∉ routing.toList) :
  parseSuci (suciText mcc mnc routing scheme keyId schemeOutput) =
    some ⟨0, mcc, mnc, scheme, keyId, bytesToHex schemeOutput⟩ := by
  unfold parseSuci suciText
  rw [splitDashes_eq (List.cons_ne_nil _ _)]
  · have zero : parseU8 "0" = some 0 := parseU8_toString 0
    simp only [ne_eq, not_true_eq_false, if_false, zero, parseU8_toString]
    rfl
  · intro piece isPiece
    simp only [List.mem_cons, List.not_mem_nil, or_false] at isPiece
    rcases isPiece with rfl | rfl | rfl | rfl | rfl | rfl | rfl | rfl
    · decide
    · decide
    · exact mccUndashed
    · exact mncUndashed
    · exact routingUndashed
    · exact hyphen_notMem_toString _
    · exact hyphen_notMem_toString _
    · exact dash_notMem_bytesToHex schemeOutput

end Text

lemma startsWith_of_take {text : String} (starts : text.toList.take 5 = "suci-".toList) :
  startsWith "suci-" text = true ∧ startsWith "imsi-" text = false := by
  unfold startsWith
  rw [← List.take_append_drop 5 text.toList, starts]
  exact ⟨rfl, rfl⟩

lemma startsWith_of_parseSuci {suci : String} {parsed : ParsedSuci}
  (read : parseSuci suci = some parsed) :
  startsWith "suci-" suci = true ∧ startsWith "imsi-" suci = false := by
  apply startsWith_of_take
  unfold parseSuci at read
  split at read
  case h_2 => cases read
  case h_1 start supiType mcc mnc routing scheme keyId schemeOutput pieces =>
    split at read
    case isTrue => cases read
    case isFalse isSuci =>
      rw [not_not] at isSuci
      subst isSuci
      have letters : suci.toList.splitOn '-' = ["suci", supiType, mcc, mnc, routing, scheme,
          keyId, schemeOutput].map String.toList := by
        rw [← pieces, splitDashes, List.map_map]
        exact ((List.map_congr_left fun piece _ => String.toList_ofList).trans (List.map_id _)).symm
      have joined : ['-'].intercalate (suci.toList.splitOn '-') = suci.toList :=
        List.intercalate_splitOn '-'
      rw [← joined, letters]
      rfl

section Concealment

variable (crypt : Primitives) (ecies : EciesPrimitives) {block schemeOutput : Bytes}

/-- With the keys of a shared secret, the tag is the MAC of the ciphertext, and
the ciphertext deciphers to the block. -/
structure Verified (shared : Octets32) (ephPub ciphertext : Bytes) (macTag : MacTag)
  (block : Bytes) : Prop where
  mac : hmacTag ecies (ecies.kdfAnsiX963 shared.toList ephPub).2.2 ciphertext = macTag
  plaintext : aes128Ctr crypt (ecies.kdfAnsiX963 shared.toList ephPub).1
    (ecies.kdfAnsiX963 shared.toList ephPub).2.1 ciphertext = block

inductive Conceals (key schemeOutput block : Bytes) : UInt8 → Prop where
  | profileA {privKey ephPub : Octets32} {ciphertext : Bytes} {macTag : MacTag} :
      key = privKey.toList →
      splitSchemeOutput 32 schemeOutput = some (ephPub, ciphertext, macTag) →
      Verified crypt ecies (ecies.x25519DiffieHellman privKey ephPub) ephPub.toList ciphertext
        macTag block →
      Conceals key schemeOutput block protectionSchemeProfileA
  | profileB {privKey : Octets32} {ephPub : Octets33} {ciphertext : Bytes} {macTag : MacTag}
      {shared : Octets32} :
      key = privKey.toList →
      splitSchemeOutput 33 schemeOutput = some (ephPub, ciphertext, macTag) →
      ecdhSharedSecret ecies ephPub privKey = .ok shared →
      Verified crypt ecies shared ephPub.toList ciphertext macTag block →
      Conceals key schemeOutput block protectionSchemeProfileB

variable {crypt ecies}

lemma openWith_eq_some_iff {shared : Octets32} {ephPub ciphertext : Bytes} {macTag : MacTag} :
  openWith crypt ecies shared ephPub ciphertext macTag = some block ↔
    Verified crypt ecies shared ephPub ciphertext macTag block := by
  unfold openWith
  constructor
  · intro opened
    dsimp only at opened
    split at opened
    case isTrue => cases opened
    case isFalse same => exact ⟨not_not.mp same, Option.some.inj opened⟩
  · rintro ⟨mac, plaintext⟩
    dsimp only
    rw [if_neg (not_not_intro mac), plaintext]

lemma suciDeconcealProfileA_ok_iff {privKey : Octets32} :
  suciDeconcealProfileA crypt ecies privKey schemeOutput = .ok block ↔ ∃ ephPub ciphertext macTag,
      splitSchemeOutput 32 schemeOutput = some (ephPub, ciphertext, macTag) ∧
        Verified crypt ecies (ecies.x25519DiffieHellman privKey ephPub) ephPub.toList
          ciphertext macTag block := by
  unfold suciDeconcealProfileA eciesProfileADecrypt
  constructor
  · intro opened
    split at opened
    case h_1 => cases opened
    case h_2 ephPub ciphertext macTag parts =>
      refine ⟨ephPub, ciphertext, macTag, parts, openWith_eq_some_iff.mp ?_⟩
      dsimp only at opened
      split at opened
      case h_1 plaintext opens => rw [opens, Except.ok.inj opened]
      case h_2 => cases opened
  · rintro ⟨ephPub, ciphertext, macTag, parts, verified⟩
    rw [parts]
    dsimp only
    rw [openWith_eq_some_iff.mpr verified]

lemma suciDeconcealProfileB_ok_iff {privKey : Octets32} :
  suciDeconcealProfileB crypt ecies privKey schemeOutput = .ok block ↔
    ∃ ephPub ciphertext macTag shared,
      splitSchemeOutput 33 schemeOutput = some (ephPub, ciphertext, macTag) ∧
        ecdhSharedSecret ecies ephPub privKey = .ok shared ∧
        Verified crypt ecies shared ephPub.toList ciphertext macTag block := by
  unfold suciDeconcealProfileB eciesProfileBDecrypt
  constructor
  · intro opened
    split at opened
    case h_1 => cases opened
    case h_2 ephPub ciphertext macTag parts =>
      cases agreed : ecdhSharedSecret ecies ephPub privKey with
      | error problem =>
        rw [agreed] at opened
        cases opened
      | ok shared =>
        refine ⟨ephPub, ciphertext, macTag, shared, parts, agreed, openWith_eq_some_iff.mp ?_⟩
        rw [agreed] at opened
        simp only [bind, Except.bind] at opened
        split at opened
        case h_1 plaintext opens => rw [opens, Except.ok.inj opened]
        case h_2 => cases opened
  · rintro ⟨ephPub, ciphertext, macTag, shared, parts, agreed, verified⟩
    rw [parts]
    dsimp only
    rw [agreed]
    simp only [bind, Except.bind, openWith_eq_some_iff.mpr verified]
    rfl

lemma toOption_eq_some_iff {Error Value : Type} {outcome : Except Error Value} {value : Value} :
  outcome.toOption = some value ↔ outcome = .ok value := by
  cases outcome with
  | error problem | ok own => simp [Except.toOption]

lemma schemePlaintext_eq_some_iff {scheme : UInt8} {key : Bytes} :
  schemePlaintext crypt ecies scheme key schemeOutput = some block ↔
    Conceals crypt ecies key schemeOutput block scheme := by
  unfold schemePlaintext
  rw [bind_eq_bind, bind_eq_some_iff]
  constructor
  · rintro ⟨privKey, exact, found⟩
    have key := exactOctets_eq_some exact
    split at found
    case isTrue isA =>
      subst isA
      obtain ⟨_, _, _, parts, verified⟩ :=
        suciDeconcealProfileA_ok_iff.mp (toOption_eq_some_iff.mp found)
      exact .profileA key parts verified
    case isFalse =>
      split at found
      case isTrue isB =>
        subst isB
        obtain ⟨_, _, _, _, parts, agreed, verified⟩ :=
          suciDeconcealProfileB_ok_iff.mp (toOption_eq_some_iff.mp found)
        exact .profileB key parts agreed verified
      case isFalse => cases found
  · intro conceals
    cases conceals with
    | profileA key parts verified =>
      subst key
      refine ⟨_, exactOctets_toList _, ?_⟩
      rw [if_pos rfl]
      exact toOption_eq_some_iff.mpr (suciDeconcealProfileA_ok_iff.mpr ⟨_, _, _, parts, verified⟩)
    | profileB key parts agreed verified =>
      subst key
      refine ⟨_, exactOctets_toList _, ?_⟩
      rw [if_neg (by decide), if_pos rfl]
      exact toOption_eq_some_iff.mpr
        (suciDeconcealProfileB_ok_iff.mpr ⟨_, _, _, _, parts, agreed, verified⟩)

lemma verified_sealWith (shared : Octets32) (ephPub plaintext : Bytes) :
  Verified crypt ecies shared ephPub (sealWith crypt ecies shared ephPub plaintext).1
    (sealWith crypt ecies shared ephPub plaintext).2 plaintext :=
  openWith_eq_some_iff.mp (openWith_sealWith crypt ecies shared ephPub plaintext)

lemma sealWith_ne_nil {shared : Octets32} {ephPub plaintext : Bytes} (nonempty : plaintext ≠ []) :
  (sealWith crypt ecies shared ephPub plaintext).1 ≠ [] := by
  intro empty
  have length := congrArg List.length empty
  unfold sealWith at length
  rw [length_aes128Ctr] at length
  exact nonempty (List.length_eq_zero_iff.mp length)

lemma conceals_profileA (commutes : ecies.Commutative) (hnPriv ephPriv : Octets32)
  (nonempty : block ≠ []) :
  Conceals crypt ecies hnPriv.toList
    (schemeOutputOf (eciesProfileAEncryptWithEphemeral crypt ecies
      (ecies.x25519PublicKey hnPriv) block ephPriv)) block protectionSchemeProfileA := by
  refine .profileA rfl (splitSchemeOutput_append _ _ (sealWith_ne_nil nonempty)) ?_
  dsimp only [eciesProfileAEncryptWithEphemeral]
  rw [commutes.x25519 hnPriv ephPriv]
  exact verified_sealWith _ _ _

def P256KeyPair (ecies : EciesPrimitives) (priv : Octets32) (pub : Octets33) : Prop :=
  ∃ secret, ecies.p256SecretFromBytes priv = some secret ∧
    ecies.p256ToEncodedPoint (ecies.p256PublicKey secret) = pub.toList

lemma ecdhSharedSecret_ok {first : Octets32} {pub : Octets33}
  {firstSecret secondSecret} (commutes : ecies.Commutative)
  (firstRead : ecies.p256SecretFromBytes first = some firstSecret)
  (encoded : ecies.p256ToEncodedPoint (ecies.p256PublicKey secondSecret) = pub.toList) :
  ecdhSharedSecret ecies pub first =
    .ok (ecies.p256DiffieHellman firstSecret (ecies.p256PublicKey secondSecret)) := by
  unfold ecdhSharedSecret
  rw [commutes.compressed _ _ encoded, firstRead]

lemma compressedPoint_eq_some {compressed : Bytes} {point : Octets33}
  (read : compressedPoint compressed = some point) : compressed = point.toList := by
  unfold compressedPoint at read
  split at read
  case isTrue =>
    cases read
    rfl
  case isFalse => cases read

lemma conceals_profileB (commutes : ecies.Commutative) {hnPriv ephPriv : Octets32}
  {hnPub : Octets33} {encrypted : Octets33 × Bytes × MacTag}
  (pair : P256KeyPair ecies hnPriv hnPub) (nonempty : block ≠ [])
  (encrypts : eciesProfileBEncryptWithEphemeral crypt ecies hnPub block ephPriv = .ok encrypted) :
  Conceals crypt ecies hnPriv.toList (schemeOutputOf encrypted) block
    protectionSchemeProfileB := by
  obtain ⟨hnSecret, hnRead, hnEncoded⟩ := pair
  unfold eciesProfileBEncryptWithEphemeral at encrypts
  split at encrypts
  case h_1 => cases encrypts
  case h_2 ephSecret ephRead =>
    split at encrypts
    case h_1 => cases encrypts
    case h_2 ephPub ephCompressed =>
      have ephEncoded := compressedPoint_eq_some ephCompressed
      rw [ecdhSharedSecret_ok commutes ephRead hnEncoded] at encrypts
      obtain rfl := Except.ok.inj encrypts
      refine .profileB rfl (splitSchemeOutput_append _ _ (sealWith_ne_nil nonempty))
        (ecdhSharedSecret_ok commutes hnRead ephEncoded) ?_
      rw [commutes.p256 hnSecret ephSecret]
      exact verified_sealWith _ _ _

end Concealment

def Digits (text : String) : Prop := text.toList.all Char.isDigit = true

lemma Digits.undashed {text : String} (digits : Digits text) : '-' ∉ text.toList := by
  intro dash
  have isDigit := List.all_eq_true.mp digits '-' dash
  exact absurd isDigit (by decide)

lemma msinToBcd_ne_nil {msin : String} (nonempty : msin ≠ "") : msinToBcd msin.toList ≠ [] := by
  intro empty
  apply nonempty
  rw [← String.toList_inj]
  match letters : msin.toList with
  | [] => rfl
  | [_] | _ :: _ :: _ => simp [letters, msinToBcd] at empty

variable (crypt : Primitives) (ecies : EciesPrimitives)

lemma deconcealSuci_suciText {keys : SuciKeys} {mcc mnc routing msin : String}
  {scheme keyId : UInt8} {key schemeOutput : Bytes} (mccDigits : Digits mcc)
  (mncDigits : Digits mnc) (routingDigits : Digits routing) (msinDigits : Digits msin)
  (nonempty : msin ≠ "") (protected' : scheme ≠ protectionSchemeNull)
  (registered : keys.hnetKeys.lookup keyId = some ⟨scheme, key⟩)
  (conceals : Conceals crypt ecies key schemeOutput (msinToBcd msin.toList) scheme) :
  deconcealSuci crypt ecies keys (suciText mcc mnc routing scheme keyId schemeOutput) =
    some (some (imsi mcc mnc msin)) := by
  have read := @parseSuci_suciText mcc mnc routing scheme keyId schemeOutput mccDigits.undashed
    mncDigits.undashed routingDigits.undashed
  obtain ⟨concealed, notImsi⟩ := startsWith_of_parseSuci read
  rw [deconcealSuci_eq notImsi concealed read protected', deconcealEcies, if_neg (by simp)]
  simp only [registered, ne_eq, not_true_eq_false, if_false, hexStrToBytes_bytesToHex,
    map_some, bind_eq_bind, bind_some,
    schemePlaintext_eq_some_iff.mpr conceals, msinBcdToDigits_msinToBcd msinDigits,
    String.ofList_toList]
  rw [if_neg]
  rw [List.isEmpty_iff, ← String.toList_empty, String.toList_inj]
  exact nonempty

lemma conceals_of_deconcealSuci {keys : SuciKeys} {suci supi : String} {parsed : ParsedSuci}
  (read : parseSuci suci = some parsed)
  (protected' : parsed.protectionScheme ≠ protectionSchemeNull)
  (deconcealed : deconcealSuci crypt ecies keys suci = some (some supi)) :
  ∃ hnetKey schemeOutput block, keys.hnetKeys.lookup parsed.keyId = some hnetKey ∧
    hnetKey.scheme = parsed.protectionScheme ∧
    hexStrToBytes parsed.schemeOutput = some (some schemeOutput) ∧
    Conceals crypt ecies hnetKey.key schemeOutput block parsed.protectionScheme ∧
    supi = imsi parsed.mcc parsed.mnc (String.ofList (msinBcdToDigits block)) := by
  obtain ⟨concealed, notImsi⟩ := startsWith_of_parseSuci read
  rw [deconcealSuci_eq notImsi concealed read protected', deconcealEcies] at deconcealed
  split at deconcealed
  case isTrue => cases deconcealed
  case isFalse =>
    split at deconcealed
    case h_1 => cases deconcealed
    case h_2 hnetKey registered =>
      split at deconcealed
      case isTrue => cases deconcealed
      case isFalse sameScheme =>
        obtain ⟨text, decoded, found⟩ := map_eq_some_iff.mp deconcealed
        simp only [bind_eq_bind, bind_eq_some_iff] at found
        obtain ⟨schemeOutput, rfl, block, plaintext, msin⟩ := found
        split at msin
        case isTrue => cases msin
        case isFalse =>
          exact ⟨hnetKey, schemeOutput, block, registered, not_not.mp sameScheme,
            decoded, schemePlaintext_eq_some_iff.mp plaintext,
            (Option.some.inj msin).symm⟩

/-- An MSIN concealed under either profile is de-concealed.  What comes out of
any SUCI was authentic under the key registered for its key identifier and
scheme, and its block is the BCD of the digits returned exactly when the block
is TBCD. -/
theorem suci_concealment (commutes : ecies.Commutative) :
  (∀ keys mcc mnc routing msin keyId hnPriv ephPriv,
    Digits mcc → Digits mnc → Digits routing → Digits msin → msin ≠ "" →
    keys.hnetKeys.lookup keyId = some ⟨protectionSchemeProfileA, hnPriv.toList⟩ →
    deconcealSuci crypt ecies keys (suciText mcc mnc routing protectionSchemeProfileA keyId
          (schemeOutputOf (eciesProfileAEncryptWithEphemeral crypt ecies
            (ecies.x25519PublicKey hnPriv) (msinToBcd msin.toList) ephPriv))) =
      some (some (imsi mcc mnc msin))) ∧
  (∀ keys mcc mnc routing msin keyId hnPriv hnPub ephPriv encrypted,
    Digits mcc → Digits mnc → Digits routing → Digits msin → msin ≠ "" →
    P256KeyPair ecies hnPriv hnPub →
    keys.hnetKeys.lookup keyId = some ⟨protectionSchemeProfileB, hnPriv.toList⟩ →
    eciesProfileBEncryptWithEphemeral crypt ecies hnPub (msinToBcd msin.toList) ephPriv =
      .ok encrypted →
    deconcealSuci crypt ecies keys
        (suciText mcc mnc routing protectionSchemeProfileB keyId (schemeOutputOf encrypted)) =
      some (some (imsi mcc mnc msin))) ∧
  (∀ keys suci parsed supi, parseSuci suci = some parsed →
    parsed.protectionScheme ≠ protectionSchemeNull →
    deconcealSuci crypt ecies keys suci = some (some supi) →
    ∃ hnetKey schemeOutput block digits, keys.hnetKeys.lookup parsed.keyId = some hnetKey ∧
      hnetKey.scheme = parsed.protectionScheme ∧
      hexStrToBytes parsed.schemeOutput = some (some schemeOutput) ∧
      Conceals crypt ecies hnetKey.key schemeOutput block parsed.protectionScheme ∧
      supi = imsi parsed.mcc parsed.mnc (String.ofList digits) ∧
      (block = msinToBcd digits ↔ Tbcd block)) := by
  refine ⟨?_, ?_, ?_⟩
  · intro keys mcc mnc routing msin keyId hnPriv ephPriv mccDigits mncDigits routingDigits
      msinDigits nonempty registered
    exact deconcealSuci_suciText crypt ecies mccDigits mncDigits routingDigits msinDigits nonempty
      (by decide) registered (conceals_profileA commutes hnPriv ephPriv (msinToBcd_ne_nil nonempty))
  · intro keys mcc mnc routing msin keyId hnPriv hnPub ephPriv encrypted mccDigits mncDigits
      routingDigits msinDigits nonempty pair registered encrypts
    exact deconcealSuci_suciText crypt ecies mccDigits mncDigits routingDigits msinDigits nonempty
      (by decide) registered (conceals_profileB commutes pair (msinToBcd_ne_nil nonempty) encrypts)
  · intro keys suci parsed supi read protected' deconcealed
    obtain ⟨hnetKey, schemeOutput, block, registered, sameScheme, decoded, conceals, result⟩ :=
      conceals_of_deconcealSuci crypt ecies read protected' deconcealed
    exact ⟨hnetKey, schemeOutput, block, _, registered, sameScheme, decoded, conceals, result,
      eq_msinToBcd_iff block⟩

def sampleKeys : SuciKeys :=
  SuciKeys.hnetKeyAdd ⟨∅, false⟩ 1 protectionSchemeProfileA (Vector.replicate 32 3).toList

theorem suci_concealment_sample : deconcealSuci .sample .sample sampleKeys
      (suciText "001" "01" "0000" protectionSchemeProfileA 1
        (schemeOutputOf (eciesProfileAEncryptWithEphemeral .sample .sample
          (sample.x25519PublicKey (.replicate 32 3))
          (msinToBcd "012345678".toList) (.replicate 32 5)))) =
    some (some (imsi "001" "01" "012345678")) :=
  (suci_concealment .sample .sample sample_commutative).1 sampleKeys
    "001" "01" "0000" "012345678" 1 (.replicate 32 3) (.replicate 32 5)
    rfl rfl rfl rfl (by decide) (AList.lookup_insert _)

def nibbleSuci : String :=
  suciText "001" "01" "0000" protectionSchemeProfileA 1
    (schemeOutputOf (eciesProfileAEncryptWithEphemeral .sample .sample
      (sample.x25519PublicKey (.replicate 32 3)) [0xA1] (.replicate 32 5)))

/-- The nibble is skipped, and the block passes for an MSIN of one digit. -/
theorem nibble_skipped : ¬ ∀ parsed supi, parseSuci nibbleSuci = some parsed →
    parsed.protectionScheme ≠ protectionSchemeNull →
    deconcealSuci .sample .sample sampleKeys nibbleSuci = some (some supi) →
    ∃ hnetKey schemeOutput block digits, sampleKeys.hnetKeys.lookup parsed.keyId = some hnetKey ∧
      hexStrToBytes parsed.schemeOutput = some (some schemeOutput) ∧
      Conceals .sample .sample hnetKey.key schemeOutput block parsed.protectionScheme ∧
      supi = imsi parsed.mcc parsed.mnc (String.ofList digits) ∧
      block = msinToBcd digits := by
  intro encodes
  have read : parseSuci nibbleSuci = some ⟨0, "001", "01", 1, 1, bytesToHex (schemeOutputOf
        (eciesProfileAEncryptWithEphemeral .sample .sample
          (sample.x25519PublicKey (.replicate 32 3)) [0xA1]
          (.replicate 32 5)))⟩ :=
    parseSuci_suciText (by decide) (by decide) (by decide)
  obtain ⟨hnetKey, schemeOutput, block, digits, registered, decoded, conceals, result, same⟩ :=
    encodes _ "imsi-001011" read (by decide) (by decide +kernel)
  obtain rfl := Option.some.inj ((AList.lookup_insert _).symm.trans registered)
  rw [hexStrToBytes_bytesToHex] at decoded
  obtain rfl := Option.some.inj (Option.some.inj decoded)
  have plaintext := schemePlaintext_eq_some_iff.mpr conceals
  have skipped : digits = ['1'] := by
    have letters := congrArg String.toList result
    simpa [imsi] using letters.symm
  rw [same, skipped] at plaintext
  exact absurd plaintext (by decide +kernel)

end NextGCore.Udm
