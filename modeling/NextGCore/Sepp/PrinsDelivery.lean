import NextGCore.Sepp.PrinsReceiver
import NextGCore.Sepp.ReplayWindow

/-!
# What arrives of a PRINS message

The parts of a protected message as the receiver reads them back: request and status lines,
networks, the SEQ, the blocks, and the body as it is rebuilt from its leaves.
-/

namespace NextGCore.Sepp

open Crypt (Bytes)
open Library Sbi Nat Prins PlmnIdMeta

variable {url : String} {parts : String × String}

lemma eq_of_splitAtText {separator : String} (split : splitAtText separator url = some parts) :
  url = parts.1 ++ separator ++ parts.2 := by
  obtain ⟨found, isFound, rfl⟩ := Option.map_eq_some_iff.mp split
  apply String.toList_inj.mp
  simpa using eq_of_splitOnce isFound

lemma scheme_ne_empty (target : startsWith "/" url = true)
  (split : splitAtText "://" url = some parts) : parts.1 ≠ "" := by
  intro empty
  have whole := eq_of_splitAtText split
  obtain ⟨rest, isRest⟩ := List.isPrefixOf_iff_prefix.mp target
  rw [whole, empty] at isRest
  simp at isRest

lemma joinRequestLine_buildRequestLine (method : String) (target : startsWith "/" url = true) :
  joinRequestLine (buildRequestLine method url) = url := by
  unfold joinRequestLine buildRequestLine
  cases atScheme : splitAtText "://" url with
  | none =>
    cases atQuery : splitAtText "?" url with
    | none => simp [atQuery]
    | some parts =>
      simpa [atQuery, String.append_assoc] using (eq_of_splitAtText atQuery).symm
  | some parts =>
    obtain ⟨scheme, rest⟩ := parts
    have nonempty : scheme ≠ "" := scheme_ne_empty target atScheme
    have whole : url = scheme ++ "://" ++ rest := eq_of_splitAtText atScheme
    cases atPath : splitAtText "/" rest with
    | none =>
      have noQuery : splitAtText "?" "" = none := rfl
      simp [nonempty, atPath, noQuery, whole]
    | some parts =>
      obtain ⟨authority, path⟩ := parts
      have isRest : rest = authority ++ "/" ++ path := eq_of_splitAtText atPath
      have together : url = scheme ++ "://" ++ authority ++ ("/" ++ path) := by
        rw [whole, isRest]
        simp only [String.append_assoc]
      cases atQuery : splitAtText "?" ("/" ++ path) with
      | none => simp [nonempty, atPath, atQuery, together]
      | some parts =>
        have isPath : "/" ++ path = parts.1 ++ "?" ++ parts.2 := eq_of_splitAtText atQuery
        simp only [Option.getD_some, if_neg nonempty, atPath, atQuery, Option.elim_some,
          if_pos nonempty, together]
        rw [isPath]
        simp only [String.append_assoc]

lemma parseU16_of_parseU64 {text : String} {value : UInt16}
  (read : parseU64 text = some value.toNat) : parseU16 text = some value := by
  rw [parseU16, read, Option.bind_some, if_pos value.toNat_lt, UInt16.ofNat_toNat]

lemma ofDigitChars_replicate_zero (count : ℕ) (digits : List Char) :
  ofDigitChars 10 (List.replicate count '0' ++ digits) 0 = ofDigitChars 10 digits 0 := by
  induction count with
  | zero => simp
  | succ count ih =>
    rw [List.replicate_succ, List.cons_append, ofDigitChars_cons]
    exact ih

lemma parseU64_zeroPadded (width : ℕ) {value : ℕ} (small : value < 2 ^ 64) :
  parseU64 (zeroPadded width value) = some value := by
  have letters : (toString value).toList = toDigits 10 value := toList_repr
  have number : ofDigitChars 10 (zeroPadded width value).toList 0 = value := by
    rw [zeroPadded, String.toList_ofList, List.leftpad, ofDigitChars_replicate_zero, letters,
      ofDigitChars_ten_toDigits]
  have nonempty : (zeroPadded width value).toList ≠ [] := by
    simp [zeroPadded, List.leftpad, toDigits_ne_nil]
  have digits : ∀ digit ∈ (zeroPadded width value).toList, digit.isDigit = true := by
    intro digit isDigit
    simp only [zeroPadded, String.toList_ofList, List.leftpad, List.mem_append,
      List.mem_replicate, letters] at isDigit
    rcases isDigit with ⟨-, rfl⟩ | isDigit
    · decide
    · exact isDigit_of_mem_toDigits (by decide) (by decide) isDigit
  rw [parseU64_of_digits nonempty digits (number.symm ▸ small), number]

lemma matchesAny_fromPlmn {plmn : PlmnId} {plmns : List PlmnId} (bound : plmn ∈ plmns) :
  (fromPlmn plmn).matchesAny plmns = true := by
  have mcc : parseU16 (fromPlmn plmn).mcc = some plmn.mcc :=
    parseU16_of_parseU64 (parseU64_zeroPadded 3 (plmn.mcc.toNat_lt.trans (by decide)))
  have mnc : parseU16 (fromPlmn plmn).mnc = some plmn.mnc :=
    parseU16_of_parseU64 (parseU64_zeroPadded _ (plmn.mnc.toNat_lt.trans (by decide)))
  rw [matchesAny, mcc, mnc]
  simpa using ⟨plmn, bound, rfl, rfl⟩

lemma statusCodeOf_toString (statusCode : UInt16) :
  statusCodeOf (toString statusCode.toNat) = some statusCode := by
  rw [statusCodeOf, splitWhitespace_toString, List.head?_cons, Option.bind_some]
  exact parseU16_of_parseU64 (parseU64_toString (statusCode.toNat_lt.trans (by decide)))

lemma seq_of_nonce (ivSalt : Vector UInt8 8) (seq : UInt32) :
  (Jose.nonce ivSalt seq).length = 12 ∧ UInt32.ofNat (((Jose.nonce ivSalt seq).drop 8).foldl
      (fun value octet => 256 * value + octet.toNat) 0) = seq := by
  have salt : ivSalt.toList.length = 8 := ivSalt.length_toList
  have octets : (Crypt.toBeBytes seq).toList = [(seq >>> 24).toUInt8, (seq >>> 16).toUInt8,
      (seq >>> 8).toUInt8, seq.toUInt8] := rfl
  refine ⟨by simp [Jose.nonce], ?_⟩
  rw [Jose.nonce, List.drop_append_of_le_length salt.ge, List.drop_of_length_le salt.le,
    List.nil_append, octets]
  have bound := seq.toNat_lt
  apply UInt32.toNat_inj.mp
  simp [shiftRight_eq_div_pow]
  omega

def Codec.ReadsBack {Value : Type} (codec : Codec Value) (value : Value) : Prop :=
  codec.read (codec.write value) = .ok value

/-- The crates take back what they made: texts of octets, what is sealed and what is signed. -/
structure Jose.Inverts (jose : Jose) : Prop where
  base64url : ∀ octets, jose.b64urlDecode (jose.b64urlEncode octets) = .ok octets
  aead : ∀ (enc : JweEnc) (key iv aad plaintext : Bytes), key.length = enc.keyLen →
    iv.length = 12 → ∃ sealed, jose.gcmEncrypt enc key iv aad plaintext = .ok sealed ∧
      sealed.2.length = 16 ∧ jose.gcmDecrypt enc key iv aad sealed.1 sealed.2 = some plaintext
  es256 : ∀ signingKey input,
    jose.es256Verify (jose.verifyingKey signingKey) input (jose.es256Sign signingKey input) = true

section Jose

variable {jose : Jose} {kid : String}

lemma Jose.Inverts.decode (inverts : jose.Inverts) (octets : Bytes) :
  jose.decode (jose.b64urlEncode octets) = .ok octets := by
  rw [Jose.decode, inverts.base64url]
  rfl

lemma Jose.Inverts.jwe (inverts : jose.Inverts) {key : Bytes} {enc : JweEnc}
  (ivSalt : Vector UInt8 8) (seq : UInt32) (plaintext aad : Bytes)
  (long : enc.keyLen ≤ key.length)
  (readsBack : jose.jweHeaders.ReadsBack ⟨"dir", enc.name, some kid⟩) :
  ∃ jwe, jose.jweEncryptWithIvSalt key enc ivSalt seq plaintext aad kid = .ok jwe ∧
    jwe.aad = some (jose.b64urlEncode aad) ∧ (∃ tag, jwe.tag = jose.b64urlEncode tag) ∧
    jose.jweDecrypt key jwe = .ok plaintext ∧ jose.jweSeq jwe = some seq := by
  obtain ⟨twelve, isSeq⟩ := seq_of_nonce ivSalt seq
  have taken : (key.take enc.keyLen).length = enc.keyLen := by simp [long]
  have enough : ¬ key.length < enc.keyLen := Nat.not_lt.mpr long
  let header := jose.b64urlEncode (jose.jweHeaders.write ⟨"dir", enc.name, some kid⟩)
  obtain ⟨sealed, isSealed, tag, opens⟩ := inverts.aead enc (key.take enc.keyLen)
    (Jose.nonce ivSalt seq) (Jose.jweAadInput header (some (jose.b64urlEncode aad))) plaintext
    taken twelve
  refine ⟨⟨header, some (jose.b64urlEncode aad), jose.b64urlEncode (Jose.nonce ivSalt seq),
    jose.b64urlEncode sealed.1, jose.b64urlEncode sealed.2⟩, ?_, rfl, ⟨_, rfl⟩, ?_, ?_⟩
  · rw [Jose.jweEncryptWithIvSalt, refuse, if_neg enough, ok_bind]
    simp only [header] at isSealed
    simp only [isSealed]
    rfl
  · simp only [Jose.jweDecrypt, bind_eq_ok_iff, refuse_eq_ok_iff, given_eq_ok_iff,
      mapError_eq_ok_iff]
    refine ⟨_, inverts.decode _, _, readsBack, (), by simp, enc, enc.fromName_name, (), enough,
      _, inverts.decode _, _, inverts.decode _, _, inverts.decode _, _, inverts.decode _, (), ?_,
      opens⟩
    simp [twelve, tag]
  · rw [Jose.jweSeq, inverts.base64url]
    simp only [twelve, if_true, isSeq]

section

variable (inverts : jose.Inverts) (signingKey : SigningKey) (payload : Bytes)
  (readsBack : jose.jwsHeaders.ReadsBack ⟨"ES256", some kid⟩)

include inverts signingKey payload readsBack

lemma Jose.Inverts.peek :
  jose.jwsPeekHeader (jose.jwsSignEs256 signingKey payload kid) = .ok ⟨"ES256", some kid⟩ := by
  simp only [Jose.jwsPeekHeader, bind_eq_ok_iff, mapError_eq_ok_iff]
  exact ⟨_, inverts.decode _, readsBack⟩

lemma Jose.Inverts.jws :
  jose.jwsVerifyEs256 (jose.verifyingKey signingKey)
    (jose.jwsSignEs256 signingKey payload kid) = .ok payload := by
  have valid := inverts.es256 signingKey
    (Jose.signingInput (jose.jwsSignEs256 signingKey payload kid))
  simp only [Jose.jwsVerifyEs256, bind_eq_ok_iff, refuse_eq_ok_iff]
  exact ⟨_, inverts.peek signingKey payload readsBack, (), by simp, _, inverts.decode _, (),
    fun refused => Bool.noConfusion (valid.symm.trans refused), inverts.decode _⟩

end

end Jose

/-- The contexts of the two SEPPs of one N32-f context, as far as messages from one to the
other depend on them. -/
structure Mirrored (prins : Prins) (sender receiver : PrinsContext) : Prop where
  keyMaterial : receiver.keyMaterial = sender.keyMaterial
  role : receiver.role = sender.role.opposite
  contextId : receiver.localContextId = sender.peerContextId
  signed : ∃ signingKey, sender.localSigningKey = some signingKey ∧
    receiver.verifyingKeyOf sender.localFqdn = some (prins.verifyingKey signingKey)
  bound : ∀ plmn ∈ sender.localPlmnIds.head?, receiver.peerPlmnIds ≠ [] →
    plmn ∈ receiver.peerPlmnIds

structure Documents (prins : Prins) (sender : PrinsContext) (block : DataToIntegrityProtectBlock)
  (dataToEncrypt : List Json) : Prop where
  jweHeader : prins.jweHeaders.ReadsBack ⟨"dir", sender.jweEnc.name, some sender.kid⟩
  jwsHeader : prins.jwsHeaders.ReadsBack ⟨"ES256", some sender.localFqdn⟩
  block : prins.blocks.ReadsBack block
  cipherBlock : prins.cipherBlocks.ReadsBack ⟨dataToEncrypt⟩
  modifications : ∀ tag,
    prins.modifications.ReadsBack ⟨sender.localFqdn, [], prins.b64urlEncode tag⟩

/-- The sender has a SEQ left, and the receiver has seen none from there on. -/
structure InStep (sender receiver : PrinsContext) (direction : N32fDirection)
  (counters : SendCounters) (windows : ReplayWindows) : Prop where
  left : counters (seqKey sender.kid sender.role direction) ≠ 0xFFFFFFFF
  ahead : ∀ high ∈ (windows (peerSeqKey receiver direction)).high,
    high < counters (seqKey sender.kid sender.role direction)

section Delivery

variable {prins : Prins} {sender receiver : PrinsContext} {direction : N32fDirection}
  {block : DataToIntegrityProtectBlock} {dataToEncrypt : List Json}

lemma verifyEntry_of_signed (inverts : prins.Inverts) {signingKey : SigningKey}
  (registered : receiver.verifyingKeyOf sender.localFqdn = some (prins.verifyingKey signingKey))
  (documents : Documents prins sender block dataToEncrypt) (messageId : String) {tag : String}
  (isTag : ∃ octets, tag = prins.b64urlEncode octets) :
  prins.verifyEntry receiver messageId tag 0
    (prins.jwsSignEs256 signingKey (prins.modifications.write ⟨sender.localFqdn, [], tag⟩)
      sender.localFqdn) = .ok [] := by
  obtain ⟨octets, rfl⟩ := isTag
  simp only [verifyEntry, bind_eq_ok_iff, refuse_eq_ok_iff, given_eq_ok_iff,
    mapError_eq_ok_iff, pure_eq_ok_iff]
  exact ⟨_, inverts.peek signingKey _ documents.jwsHeader, (), by simp, _, rfl, _, registered, _,
    inverts.jws signingKey _ documents.jwsHeader, _, documents.modifications octets, (), by simp,
    (), by simp, (), rfl, rfl⟩

lemma authenticate_of_sealed (inverts : prins.Inverts) (mirrored : Mirrored prins sender receiver)
  (documents : Documents prins sender block dataToEncrypt)
  (addressed : block.metaData.n32fContextId = sender.peerContextId) (seq : UInt32) :
  ∃ msg, prins.sealMessage sender direction block dataToEncrypt seq = .ok msg ∧
    prins.authenticate receiver direction msg = .ok ⟨block, [], dataToEncrypt, seq⟩ := by
  obtain ⟨signingKey, isKey, registered⟩ := mirrored.signed
  have long : sender.jweEnc.keyLen ≤ (sender.protectKey direction).1.toList.length := by
    rw [Vector.length_toList]
    exact sender.jweEnc.keyLen_le
  have sameKey : receiver.unprotectKey direction = sender.protectKey direction := by
    rw [PrinsContext.unprotectKey, PrinsContext.protectKey, mirrored.keyMaterial, mirrored.role,
      N32fRole.opposite_opposite]
  obtain ⟨jwe, isJwe, aad, isTag, opens, isSeq⟩ := inverts.jwe (sender.protectKey direction).2 seq
    (prins.cipherBlocks.write ⟨dataToEncrypt⟩) (prins.blocks.write block) long documents.jweHeader
  refine ⟨⟨jwe, [prins.jwsSignEs256 signingKey
    (prins.modifications.write ⟨sender.localFqdn, [], jwe.tag⟩) sender.localFqdn]⟩, ?_, ?_⟩
  · simp only [sealMessage, bind_eq_ok_iff, given_eq_ok_iff, pure_eq_ok_iff]
    exact ⟨jwe, isJwe, signingKey, isKey, rfl⟩
  · simp only [authenticate, readBlock, verifyModifications,
      openCipherBlock, readSeq, verifyEntries, bind_eq_ok_iff, refuse_eq_ok_iff,
      given_eq_ok_iff, mapError_eq_ok_iff, pure_eq_ok_iff, sameKey]
    exact ⟨block, ⟨_, aad, _, inverts.decode _, block, documents.block, (),
        by simp [addressed, mirrored.contextId], rfl⟩,
      [], ⟨(), by simp, [], verifyEntry_of_signed inverts registered documents _ isTag, [], rfl,
        rfl⟩,
      ⟨dataToEncrypt⟩, ⟨_, opens, documents.cipherBlock⟩, seq, isSeq, rfl⟩

end Delivery

end NextGCore.Sepp
