import NextGCore.Diameter.Message

/-!
# Diameter messages are read back

What a message encodes to is decoded to its header with the length filled in and to its AVPs in
order, each with its code, flags and vendor id and with raw data from which the accessor of the
type takes the value.  No octets make the decoder panic, apart from a header whose length is
below its own size.
-/

namespace NextGCore.Diameter

open Library List Nat ReadsBack UInt32

variable (value : UInt32) (octets : Bytes)

@[simp]
lemma length_putU32 : (putU32 value).length = 4 :=
  length_beOctets 4 _

@[simp]
lemma length_putU24 (value : ℕ) : (putU24 value).length = 3 := by
  simp [putU24]

lemma ofNat_beValue_putU32 : ofNat (beValue (putU32 value)) = value := by
  rw [putU32, beValue_beOctets value.toNat_lt, UInt32.ofNat_toNat]

lemma ofNat_beValue_u64 (value : UInt64) :
  UInt64.ofNat (beValue (beOctets 8 value.toNat)) = value := by
  rw [beValue_beOctets value.toNat_lt, UInt64.ofNat_toNat]

lemma readsBack_getU8 (value : UInt8) : ReadsBack id getU8 (beOctets 1 value.toNat) value :=
  readsBack_getUint_as value.toNat_lt UInt8.ofNat_toNat

lemma readsBack_getU32 : ReadsBack id getU32 (putU32 value) value :=
  readsBack_getUint_as value.toNat_lt UInt32.ofNat_toNat

lemma putU24_eq {value : ℕ} (small : value < 2 ^ 24) :
  putU24 value = beOctets 1 (value / 65536) ++ beOctets 2 (value % 65536) := by
  have shifted : value >>> 16 = value / 65536 := shiftRight_eq_div_pow value 16
  have high : (value >>> 16) &&& 0xFF = value / 65536 := by
    rw [shifted, and_two_pow_sub_one_eq_mod (value / 65536) 8, mod_eq_of_lt (by omega)]
  have low : value &&& 0xFFFF = value % 65536 := and_two_pow_sub_one_eq_mod value 16
  rw [putU24, high, low]

lemma readsBack_getU24 {value : ℕ} (small : value < 2 ^ 24) :
  ReadsBack id getU24 (putU24 value) value := by
  have whole : (value / 65536) <<< 16 ||| value % 65536 = value := by
    rw [← shiftLeft_add_eq_or_of_lt (mod_lt value (by decide)), shiftLeft_eq]
    exact div_add_mod' value 65536
  have reads : ReadsBack id getU24 (putU24 value)
      ((value / 65536) <<< 16 ||| value % 65536) := by
    rw [putU24_eq small]
    exact (readsBack_getUint (by omega)).bind (readsBack_getUint (by omega)).last
  rwa [whole] at reads

lemma beValue_putU24 {value : ℕ} (small : value < 2 ^ 24) : beValue (putU24 value) = value := by
  rw [putU24_eq small, beValue_append, beValue_beOctets (by omega), beValue_beOctets (by omega),
    length_beOctets]
  exact div_add_mod' value 65536

mutual

/-- The VENDOR flag is set exactly when there is a vendor id, at every depth. -/
def AvpData.VendorFlagged : AvpData → Prop
  | .grouped avps => AllVendorFlagged avps
  | _ => True

def Avp.VendorFlagged : Avp → Prop
  | ⟨_, flags, vendorId, data⟩ =>
    (flags &&& avp_flags.VENDOR != 0) = vendorId.isSome ∧ data.VendorFlagged

def AllVendorFlagged : List Avp → Prop
  | [] => True
  | avp :: avps => avp.VendorFlagged ∧ AllVendorFlagged avps

end

lemma length_asBytes (text : String) : (asBytes text).length = text.utf8ByteSize :=
  text.size_toByteArray

lemma length_vendorId (vendorId : Option UInt32) :
  AVP_HEADER_SIZE + ((vendorId.map putU32).getD []).length = headerLen vendorId.isSome := by
  cases vendorId with
  | none => rfl
  | some vendorId => simp [AVP_HEADER_SIZE, headerLen, AVP_HEADER_SIZE_VENDOR]

lemma padded_length (isVendor : Bool) (dataLen : ℕ) :
  headerLen isVendor + dataLen + padding dataLen =
    headerLen isVendor + dataLen + 3 - (headerLen isVendor + dataLen + 3) % 4 := by
  have aligned : headerLen isVendor % 4 = 0 := by cases isVendor <;> rfl
  unfold padding
  omega

mutual

lemma AvpData.length_encode : (data : AvpData) → data.VendorFlagged →
    data.encode.length = data.encodedLen
  | .octetString _, _ | .raw _, _ => rfl
  | .integer32 _, _ | .enumerated _, _ | .unsigned32 _, _ | .float32 _, _ | .time _, _ =>
    length_putU32 _
  | .integer64 _, _ | .unsigned64 _, _ | .float64 _, _ => length_beOctets 8 _
  | .address (.v4 _), _ | .address (.v6 _), _ => by simp [AvpData.encode, AvpData.encodedLen]
  | .utf8String text, _ | .diameterIdentity text, _ | .diameterUri text, _ =>
    length_asBytes text
  | .grouped avps, flagged => by
    rw [AvpData.encode, AvpData.encodedLen]
    exact length_encodeAll avps flagged

lemma Avp.length_encode : (avp : Avp) → avp.VendorFlagged → avp.encode.length = avp.encodedLen
  | ⟨code, flags, vendorId, data⟩, ⟨isVendor, flagged⟩ => by
    have dataLength := data.length_encode flagged
    have vendorLength := length_vendorId vendorId
    have padded := padded_length vendorId.isSome data.encodedLen
    simp only [Avp.encode, Avp.encodedLen, isVendor, length_append, length_putU32,
      length_beOctets, length_putU24, length_replicate, dataLength]
    rw [AVP_HEADER_SIZE] at vendorLength
    omega

lemma length_encodeAll : (avps : List Avp) → AllVendorFlagged avps →
    (encodeAll avps).length = encodedLenSum avps
  | [], _ => rfl
  | avp :: avps, ⟨flagged, allFlagged⟩ => by
    rw [encodeAll, encodedLenSum, length_append, avp.length_encode flagged,
      length_encodeAll avps allFlagged]

end

lemma encodeAll_eq (avps : List Avp) : encodeAll avps = (avps.map Avp.encode).flatten := by
  induction avps with
  | nil => rfl
  | cons avp avps ih =>
    rw [encodeAll, ih, map_cons, flatten_cons]

lemma readsBack_decodeVendorId (vendorId : Option UInt32) :
  ReadsBack id (decodeVendorId vendorId.isSome) ((vendorId.map putU32).getD []) vendorId := by
  cases vendorId with
  | none => exact .pure none
  | some vendorId =>
    exact (readsBack_getU32 vendorId).last.require (Nat.le_of_eq (length_putU32 vendorId).symm)

lemma readsBack_decodeData : ReadsBack id (decodeData octets.length)
    (octets ++ replicate (padding octets.length) 0) octets := by
  have skipped : ReadsBack id (advanceWithin (padding octets.length) : Decoding Unit)
      (replicate (padding octets.length) 0) () := by
    simpa using readsBack_advanceWithin (replicate (padding octets.length) 0)
  refine require ?_ (by simp)
  exact (readsBack_copyToBytes octets).bind skipped.last

lemma Avp.readsBack_decode (code : UInt32) (flags : UInt8) (vendorId : Option UInt32)
  (data : AvpData) (isVendor : (flags &&& avp_flags.VENDOR != 0) = vendorId.isSome)
  (dataLength : data.encode.length = data.encodedLen)
  (small : headerLen vendorId.isSome + data.encodedLen < 2 ^ 24) :
  ReadsBack id Avp.decode (Avp.encode ⟨code, flags, vendorId, data⟩)
    ⟨code, flags, vendorId, .raw data.encode⟩ := by
  have body := readsBack_decodeData data.encode
  rw [dataLength] at body
  have lengths : ReadsBack id (subtract (headerLen vendorId.isSome + data.encodedLen)
      (headerLen vendorId.isSome) : Decoding ℕ) [] data.encodedLen := by
    simpa using readsBack_subtract (Nat.le_add_right (headerLen vendorId.isSome) data.encodedLen)
  unfold Avp.decode
  simp only [Avp.encode, isVendor]
  refine require ?_ (by simp [AVP_HEADER_SIZE]; omega)
  refine (readsBack_getU32 code).bind ((readsBack_getU8 flags).bind
    ((readsBack_getU24 small).bind ?_))
  rw [isVendor]
  refine (refuse (Nat.not_lt.mpr (Nat.le_add_right ..))).skip ?_
  exact (readsBack_decodeVendorId vendorId).bind (lengths.skip body.last)

lemma Avp.encode_ne_nil : (avp : Avp) → avp.encode ≠ []
  | ⟨_, _, _, _⟩ => append_ne_nil_of_left_ne_nil (cons_ne_nil _ _) _

lemma readsToEnd_decodeAll {avps found : List Avp}
  (each : Forall₂ (ReadsBack id Avp.decode) (avps.map Avp.encode) found) :
  ReadsToEnd id decodeAll (encodeAll avps) found := by
  rw [encodeAll_eq]
  refine many each fun chunk member => ?_
  obtain ⟨avp, -, rfl⟩ := mem_map.mp member
  exact avp.encode_ne_nil

lemma Avp.le_encodedLen (code : UInt32) (flags : UInt8) (vendorId : Option UInt32)
  (data : AvpData) :
  headerLen (flags &&& avp_flags.VENDOR != 0) + data.encodedLen ≤
    Avp.encodedLen ⟨code, flags, vendorId, data⟩ := by
  rw [Avp.encodedLen]
  omega

mutual

/-- The accessor of the type takes the value from what was decoded.  The types without an
accessor keep their octets. -/
def AvpData.RecoveredFrom : AvpData → Avp → Prop
  | .octetString octets, found | .raw octets, found => found.asOctetString = some octets
  | .integer32 value, found | .enumerated value, found => found.asI32 = some value
  | .unsigned32 value, found | .time value, found => found.asU32 = some value
  | .unsigned64 value, found => found.asU64 = some value
  | .integer64 value, found => found.asOctetString = some (beOctets 8 value.toUInt64.toNat)
  | .float32 bits, found => found.asOctetString = some (putU32 bits)
  | .float64 bits, found => found.asOctetString = some (beOctets 8 bits.toNat)
  | .address addr, found => found.asAddress = some addr
  | .utf8String text, found | .diameterIdentity text, found | .diameterUri text, found =>
    found.asUtf8String = some text
  | .grouped avps, found =>
    ∃ members, found.parseGrouped = .ok members ∧ AllRecovered avps members

def Avp.RecoveredAs : Avp → Avp → Prop
  | ⟨code, flags, vendorId, data⟩, found =>
    found.code = code ∧ found.flags = flags ∧ found.vendorId = vendorId ∧ data.RecoveredFrom found

def AllRecovered : List Avp → List Avp → Prop
  | [], found => found = []
  | avp :: avps, found =>
    ∃ first rest, found = first :: rest ∧ avp.RecoveredAs first ∧ AllRecovered avps rest

end

section Raw

variable (code : UInt32) (flags : UInt8) (vendorId : Option UInt32)

lemma asU32_raw (value : UInt32) :
  Avp.asU32 ⟨code, flags, vendorId, .raw (putU32 value)⟩ = some value := by
  have whole : (putU32 value).take 4 = putU32 value := take_of_length_le (by simp)
  have enough : 4 ≤ (putU32 value).length := Nat.le_of_eq (length_putU32 value).symm
  change (if 4 ≤ (putU32 value).length
    then some (ofNat (beValue ((putU32 value).take 4))) else none) = some value
  rw [if_pos enough, whole, ofNat_beValue_putU32]

lemma asI32_raw (value : Int32) :
  Avp.asI32 ⟨code, flags, vendorId, .raw (putU32 value.toUInt32)⟩ = some value := by
  have whole : (putU32 value.toUInt32).take 4 = putU32 value.toUInt32 :=
    take_of_length_le (by simp)
  have enough : 4 ≤ (putU32 value.toUInt32).length := Nat.le_of_eq (length_putU32 _).symm
  change (if 4 ≤ (putU32 value.toUInt32).length
    then some (ofNat (beValue ((putU32 value.toUInt32).take 4))).toInt32 else none) = some value
  rw [if_pos enough, whole, ofNat_beValue_putU32, Int32.toInt32_toUInt32]

lemma asU64_raw (value : UInt64) :
  Avp.asU64 ⟨code, flags, vendorId, .raw (beOctets 8 value.toNat)⟩ = some value := by
  have whole : (beOctets 8 value.toNat).take 8 = beOctets 8 value.toNat :=
    take_of_length_le (by simp)
  have enough : 8 ≤ (beOctets 8 value.toNat).length := Nat.le_of_eq (length_beOctets 8 _).symm
  change (if 8 ≤ (beOctets 8 value.toNat).length
    then some (UInt64.ofNat (beValue ((beOctets 8 value.toNat).take 8))) else none) = some value
  rw [if_pos enough, whole, ofNat_beValue_u64]

lemma asUtf8String_raw (text : String) :
  Avp.asUtf8String ⟨code, flags, vendorId, .raw (asBytes text)⟩ = some text := by
  change String.fromUTF8? ⟨text.toUTF8.data.toList.toArray⟩ = some text
  rw [Array.toArray_toList, String.fromUTF8?]
  exact dif_pos text.isValidUTF8

lemma asAddress_raw (addr : IpAddr) :
  Avp.asAddress ⟨code, flags, vendorId, .raw (AvpData.address addr).encode⟩ = some addr := by
  cases addr with
  | v4 address =>
    have type : beValue ((beOctets 2 1 ++ putU32 address).take 2) = 1 := by
      rw [take_left' (length_beOctets 2 1), beValue_beOctets (by decide)]
    have rest : (beOctets 2 1 ++ putU32 address).drop 2 = putU32 address :=
      drop_left' (length_beOctets 2 1)
    have whole : (putU32 address).take 4 = putU32 address := take_of_length_le (by simp)
    have enough : 4 ≤ (putU32 address).length := Nat.le_of_eq (length_putU32 address).symm
    have found : Avp.addressOf (beOctets 2 1 ++ putU32 address) = some (.v4 address) := by
      unfold Avp.addressOf
      rw [type, rest]
      simp only [if_pos enough, whole, ofNat_beValue_putU32]
    have long : 6 ≤ (AvpData.address (.v4 address)).encode.length := by simp [AvpData.encode]
    change (if 6 ≤ (AvpData.address (.v4 address)).encode.length
      then Avp.addressOf (AvpData.address (.v4 address)).encode else none) = some (.v4 address)
    rw [if_pos long, AvpData.encode, found]
  | v6 address =>
    have type : beValue ((beOctets 2 2 ++ beOctets 16 address.toNat).take 2) = 2 := by
      rw [take_left' (length_beOctets 2 2), beValue_beOctets (by decide)]
    have rest : (beOctets 2 2 ++ beOctets 16 address.toNat).drop 2 = beOctets 16 address.toNat :=
      drop_left' (length_beOctets 2 2)
    have whole : (beOctets 16 address.toNat).take 16 = beOctets 16 address.toNat :=
      take_of_length_le (by simp)
    have enough : 16 ≤ (beOctets 16 address.toNat).length :=
      Nat.le_of_eq (length_beOctets 16 _).symm
    have small : address.toNat < 256 ^ 16 := address.isLt
    have found : Avp.addressOf (beOctets 2 2 ++ beOctets 16 address.toNat) =
        some (.v6 address) := by
      unfold Avp.addressOf
      rw [type, rest]
      simp only [if_pos enough, whole, beValue_beOctets small, BitVec.ofNat_toNat,
        BitVec.setWidth_eq]
    have long : 6 ≤ (AvpData.address (.v6 address)).encode.length := by simp [AvpData.encode]
    change (if 6 ≤ (AvpData.address (.v6 address)).encode.length
      then Avp.addressOf (AvpData.address (.v6 address)).encode else none) = some (.v6 address)
    rw [if_pos long, AvpData.encode, found]

end Raw

mutual

lemma AvpData.recoveredFrom (code : UInt32) (flags : UInt8) (vendorId : Option UInt32) :
    (data : AvpData) → data.VendorFlagged → data.encodedLen < 2 ^ 24 →
      data.RecoveredFrom ⟨code, flags, vendorId, .raw data.encode⟩
  | .octetString _, _, _ | .raw _, _, _ => rfl
  | .integer32 value, _, _ | .enumerated value, _, _ => asI32_raw code flags vendorId value
  | .unsigned32 value, _, _ | .time value, _, _ => asU32_raw code flags vendorId value
  | .unsigned64 value, _, _ => asU64_raw code flags vendorId value
  | .integer64 _, _, _ | .float32 _, _, _ | .float64 _, _, _ => rfl
  | .address addr, _, _ => asAddress_raw code flags vendorId addr
  | .utf8String text, _, _ | .diameterIdentity text, _, _ | .diameterUri text, _, _ =>
    asUtf8String_raw code flags vendorId text
  | .grouped avps, flagged, small => by
    obtain ⟨members, each, recovered⟩ := forall₂_readsBack avps flagged small
    obtain ⟨left, decoded, -⟩ := readsToEnd_decodeAll each (encodeAll avps) rfl
    exact ⟨members, congrArg (Except.map Prod.fst) decoded, recovered⟩

lemma Avp.recoveredAs : (avp : Avp) → avp.VendorFlagged → avp.encodedLen < 2 ^ 24 →
    ∃ found, ReadsBack id Avp.decode avp.encode found ∧ avp.RecoveredAs found
  | ⟨code, flags, vendorId, data⟩, ⟨isVendor, flagged⟩, small => by
    have within := Avp.le_encodedLen code flags vendorId data
    have recovered := data.recoveredFrom code flags vendorId flagged (by omega)
    rw [isVendor] at within
    exact ⟨_, Avp.readsBack_decode code flags vendorId data isVendor (data.length_encode flagged)
      (by omega), rfl, rfl, rfl, recovered⟩

lemma forall₂_readsBack : (avps : List Avp) → AllVendorFlagged avps →
    encodedLenSum avps < 2 ^ 24 →
      ∃ found, Forall₂ (ReadsBack id Avp.decode) (avps.map Avp.encode) found ∧
        AllRecovered avps found
  | [], _, _ => ⟨[], .nil, rfl⟩
  | avp :: avps, ⟨flagged, allFlagged⟩, small => by
    rw [encodedLenSum] at small
    obtain ⟨first, reads, recovered⟩ := avp.recoveredAs flagged (by omega)
    obtain ⟨rest, each, allRecovered⟩ := forall₂_readsBack avps allFlagged (by omega)
    exact ⟨first :: rest, .cons reads each, first, rest, rfl, recovered, allRecovered⟩

end

lemma DiameterHeader.readsBack_decode (header : DiameterHeader)
  (version : header.version = DIAMETER_VERSION) (length : header.length.toNat < 2 ^ 24)
  (commandCode : header.commandCode.toNat < 2 ^ 24) :
  ReadsBack id DiameterHeader.decode header.encode header := by
  unfold DiameterHeader.decode DiameterHeader.encode
  refine require ?_ (by simp [DIAMETER_HEADER_SIZE])
  refine (readsBack_getU8 header.version).bind ?_
  refine (refuse (not_not.mpr version)).skip ?_
  refine (readsBack_getU24 length).bind ((readsBack_getU8 header.flags).bind
    ((readsBack_getU24 commandCode).bind ((readsBack_getU32 header.applicationId).bind
      ((readsBack_getU32 header.hopByHopId).bind ?_))))
  simp only [UInt32.ofNat_toNat]
  exact (readsBack_getU32 header.endToEndId).last

namespace DiameterMessage

variable (message : DiameterMessage)

def totalLength : ℕ :=
  DIAMETER_HEADER_SIZE + encodedLenSum message.avps

lemma length_encode (flagged : AllVendorFlagged message.avps) :
  message.encode.length = message.totalLength := by
  rw [encode, length_append, length_encodeAll message.avps flagged, totalLength]
  simp [DiameterHeader.encode, DIAMETER_HEADER_SIZE]

lemma calculateLength_toNat (small : message.totalLength < 2 ^ 24) :
  message.calculateLength.toNat = message.totalLength :=
  toNat_ofNat_of_lt' (Nat.lt_trans small (by decide))

lemma readsBack_decode {message : DiameterMessage}
  (flagged : AllVendorFlagged message.avps) (version : message.header.version = DIAMETER_VERSION)
  (commandCode : message.header.commandCode.toNat < 2 ^ 24)
  (small : message.totalLength < 2 ^ 24) :
  ∃ avps, AllRecovered message.avps avps ∧ ReadsBack id DiameterMessage.decode message.encode
      ⟨{ message.header with length := message.calculateLength }, avps⟩ := by
  have length := message.calculateLength_toNat small
  obtain ⟨avps, each, recovered⟩ := forall₂_readsBack message.avps flagged
    (by unfold totalLength at small; omega)
  refine ⟨avps, recovered, ?_⟩
  have header := DiameterHeader.readsBack_decode
    { message.header with length := message.calculateLength } version (length ▸ small) commandCode
  have taken : ReadsBack id (copyToBytes (encodedLenSum message.avps) : Decoding Bytes)
      (encodeAll message.avps) (encodeAll message.avps) := by
    rw [← length_encodeAll message.avps flagged]
    exact readsBack_copyToBytes _
  have lengths : ReadsBack id (subtract message.calculateLength.toNat DIAMETER_HEADER_SIZE :
      Decoding ℕ) [] (encodedLenSum message.avps) := by
    rw [length]
    simpa [totalLength] using readsBack_subtract (Nat.le_add_right DIAMETER_HEADER_SIZE _)
  refine header.bind (lengths.skip ?_)
  refine require ?_ (Nat.le_of_eq (length_encodeAll message.avps flagged).symm)
  exact taken.bind_nil (readsBack_readWhole (readsToEnd_decodeAll each)).last

end DiameterMessage

lemma calm_getU8 {octets : Bytes} (enough : 1 ≤ octets.length) :
  Calm getU8 octets fun value left =>
    value = UInt8.ofNat (beValue (octets.take 1)) ∧ left = octets.drop 1 := by
  refine (Calm.getUint enough).bind fun value left known => ?_
  obtain ⟨rfl, rfl⟩ := known
  exact .pure ⟨rfl, rfl⟩

lemma calm_getU32 {octets : Bytes} (enough : 4 ≤ octets.length) :
  Calm getU32 octets fun _ left => left = octets.drop 4 :=
  (Calm.getUint enough).bind fun _ _ known => .pure known.2

lemma calm_getU24 {octets : Bytes} (enough : 3 ≤ octets.length) :
  Calm getU24 octets fun value left =>
    value = beValue (octets.take 3) ∧ left = octets.drop 3 := by
  refine (Calm.getUint (by omega)).bind fun high left known => ?_
  obtain ⟨rfl, rfl⟩ := known
  have enough' : 2 ≤ (octets.drop 1).length := by
    rw [length_drop]
    omega
  refine (Calm.getUint enough').bind fun low left known => ?_
  obtain ⟨rfl, rfl⟩ := known
  have lengths : ((octets.drop 1).take 2).length = 2 := length_take_of_le enough'
  have small : beValue ((octets.drop 1).take 2) < 2 ^ 16 := by
    have bound := beValue_lt ((octets.drop 1).take 2)
    rwa [lengths] at bound
  refine .pure ⟨?_, drop_drop⟩
  rw [← shiftLeft_add_eq_or_of_lt small, shiftLeft_eq,
    show octets.take 3 = octets.take (1 + 2) from rfl, take_add, beValue_append, lengths]
  rfl

lemma calm_decodeVendorId (isVendor : Bool) (octets : Bytes) :
  Calm (decodeVendorId isVendor) octets fun _ left => left.length ≤ octets.length := by
  cases isVendor with
  | false => exact .pure (Nat.le_refl _)
  | true =>
    refine Calm.require.bind fun _ left known => ?_
    obtain ⟨rfl, enough⟩ := known
    refine (calm_getU32 enough).bind fun vendorId left' known => ?_
    subst known
    exact .pure (by simp)

lemma calm_decodeData (dataLen : ℕ) (octets : Bytes) :
  Calm (decodeData dataLen) octets fun _ left => left.length ≤ octets.length := by
  refine Calm.require.bind fun _ left known => ?_
  obtain ⟨rfl, enough⟩ := known
  refine (Calm.copyToBytes enough).bind fun _ left' shorter => ?_
  exact (Calm.advanceWithin _).bind fun _ left'' shorter' => .pure (by omega)

lemma Avp.calm_decode : Calm Avp.decode octets fun _ left => left.length < octets.length := by
  refine Calm.require.bind fun _ left known => ?_
  obtain ⟨rfl, enough⟩ := known
  rw [AVP_HEADER_SIZE] at enough
  refine (calm_getU32 (by omega)).bind fun code left₁ known => ?_
  subst known
  refine (calm_getU8 (by simp; omega)).bind fun flags left₂ known => ?_
  obtain ⟨-, rfl⟩ := known
  refine (calm_getU24 (by simp; omega)).bind fun avpLen left₃ known => ?_
  obtain ⟨-, rfl⟩ := known
  refine Calm.refuse.bind fun _ left₄ known => ?_
  obtain ⟨rfl, accepted⟩ := known
  refine (calm_decodeVendorId _ _).bind fun vendorId left₅ shorter => ?_
  refine (Calm.subtract (Nat.not_lt.mp accepted)).bind fun dataLen left₆ known => ?_
  obtain ⟨-, rfl⟩ := known
  refine (calm_decodeData dataLen left₆).bind fun _ left₇ shorter' => .pure ?_
  simp only [length_drop] at shorter
  omega

lemma calm_decodeAll : Calm decodeAll octets fun _ left => left = [] := by
  refine (Calm.many (fun _ => True) (fun octets _ => ?_) octets).mono fun _ _ known => known.2
  exact (Avp.calm_decode octets).mono fun _ _ shorter => ⟨trivial, shorter⟩

lemma decodeAll_eq :
  decodeAll octets = if octets.isEmpty then .ok ([], octets)
    else (do
      let avp ← Avp.decode
      let avps ← decodeAll
      pure (avp :: avps)) octets :=
  many_eq (fun octets => (Avp.calm_decode octets).leaves) octets

lemma DiameterHeader.calm_decode :
  Calm DiameterHeader.decode octets fun header _ =>
    octets.head? = some DIAMETER_VERSION ∧ DIAMETER_HEADER_SIZE ≤ octets.length ∧
      header.length.toNat = beValue ((octets.drop 1).take 3) := by
  refine Calm.require.bind fun _ left known => ?_
  obtain ⟨rfl, enough⟩ := known
  rw [DIAMETER_HEADER_SIZE] at enough
  refine (calm_getU8 (by omega)).bind fun version left₁ known => ?_
  obtain ⟨rfl, rfl⟩ := known
  refine Calm.refuse.bind fun _ left₂ known => ?_
  obtain ⟨rfl, accepted⟩ := known
  refine (calm_getU24 (by simp; omega)).bind fun length left₃ known => ?_
  obtain ⟨rfl, rfl⟩ := known
  refine (calm_getU8 (by simp; omega)).bind fun flags left₄ known => ?_
  obtain ⟨-, rfl⟩ := known
  refine (calm_getU24 (by simp; omega)).bind fun commandCode left₅ known => ?_
  obtain ⟨-, rfl⟩ := known
  refine (calm_getU32 (by simp; omega)).bind fun applicationId left₆ known => ?_
  subst known
  refine (calm_getU32 (by simp; omega)).bind fun hopByHopId left₇ known => ?_
  subst known
  refine (calm_getU32 (by simp; omega)).bind fun endToEndId left₈ known => .pure ⟨?_, enough, ?_⟩
  · cases left with
    | nil => simp at enough
    | cons octet rest =>
      have version := not_not.mp accepted
      simpa [beValue] using version
  · have small := beValue_lt ((left.drop 1).take 3)
    rw [length_take_of_le (by simp; omega)] at small
    exact toNat_ofNat_of_lt' (Nat.lt_trans small (by decide))

def LengthBelowHeader : Prop :=
  octets.head? = some DIAMETER_VERSION ∧ DIAMETER_HEADER_SIZE ≤ octets.length ∧
    beValue ((octets.drop 1).take 3) < DIAMETER_HEADER_SIZE

lemma DiameterMessage.calm_decode {octets : Bytes} (counted : ¬ LengthBelowHeader octets) :
  Calm DiameterMessage.decode octets fun _ _ => True := by
  refine (DiameterHeader.calm_decode octets).bind fun header left known => ?_
  obtain ⟨version, enough, length⟩ := known
  have ordered : DIAMETER_HEADER_SIZE ≤ header.length.toNat := by
    rw [length]
    exact Nat.not_lt.mp fun below => counted ⟨version, enough, below⟩
  refine (Calm.subtract ordered).bind fun avpLen left' known => ?_
  refine Calm.require.bind fun _ left'' known' => ?_
  refine (Calm.copyToBytes known'.2).bind fun avpBuf left₃ _ => ?_
  exact (calm_decodeAll avpBuf).readWhole.bind fun _ _ _ => .pure trivial

/-- Reading back, for messages of this version with a command code of three octets; and no
panic and no endless loop. -/
theorem codec_roundTrip : (∀ message : DiameterMessage, AllVendorFlagged message.avps →
    message.header.version = DIAMETER_VERSION → message.header.commandCode.toNat < 2 ^ 24 →
    message.totalLength < 2 ^ 24 →
    ∃ avps, AllRecovered message.avps avps ∧ ∀ following,
      DiameterMessage.decode (message.encode ++ following) =
        .ok (⟨{ message.header with length := UInt32.ofNat message.totalLength }, avps⟩,
          following)) ∧
  (∀ octets, ¬ LengthBelowHeader octets → DiameterMessage.decode octets ≠ .error .panic) ∧
  ∀ octets, decodeAll octets = if octets.isEmpty then .ok ([], octets)
    else (do
      let avp ← Avp.decode
      let avps ← decodeAll
      pure (avp :: avps)) octets := by
  refine ⟨?_, fun octets counted => (DiameterMessage.calm_decode counted).noPanic, decodeAll_eq⟩
  intro message flagged version commandCode small
  obtain ⟨avps, recovered, reads⟩ :=
    DiameterMessage.readsBack_decode flagged version commandCode small
  refine ⟨avps, recovered, fun following => ?_⟩
  obtain ⟨left, answer, rfl⟩ := reads (message.encode ++ following) following rfl
  exact answer

def nested : DiameterMessage :=
  ⟨.newRequest 318 16777251, [.mandatory 443 (.grouped [.vendorMandatory 1407 10415
    (.octetString [0, 1, 2]), .mandatory 444 (.utf8String "001010123456789")])]⟩

theorem codec_roundTrip_nested :
  ∃ avps, AllRecovered nested.avps avps ∧ DiameterMessage.decode (nested.encode ++ [7]) =
    .ok (⟨{ nested.header with length := 68 }, avps⟩, [7]) := by
  obtain ⟨avps, recovered, answer⟩ := codec_roundTrip.1 nested
    ⟨⟨rfl, ⟨rfl, trivial⟩, ⟨rfl, trivial⟩, trivial⟩, trivial⟩ rfl (by decide) (by decide)
  exact ⟨avps, recovered, answer [7]⟩

def decoded (message : DiameterMessage) : Option DiameterMessage :=
  (DiameterMessage.decode message.encode).toOption.map Prod.fst

def versionTwo : DiameterMessage :=
  ⟨{ DiameterHeader.newRequest 318 16777251 with version := 2 }, []⟩

def wideCommand : DiameterMessage := .newRequest 16777534 16777251

def signed : DiameterMessage :=
  ⟨.newRequest 318 16777251, [.mandatory 447 (.integer64 (-1))]⟩

/-- Another version is refused, a fourth octet of the command code is lost, the length becomes
that of the message, and no accessor gives an `Integer64`. -/
theorem codec_roundTrip_bounds : (decoded versionTwo).isNone ∧
  (decoded wideCommand).map (·.header.commandCode) = some 318 ∧
  wideCommand.header.commandCode ≠ 318 ∧
  signed.header.length = 20 ∧ (decoded signed).map (·.header.length) = some 36 ∧
  (decoded signed).map (·.avps.map Avp.asU64) = some [some 18446744073709551615] ∧
  (decoded signed).map (·.avps.map Avp.asOctetString) =
    some [some [255, 255, 255, 255, 255, 255, 255, 255]] := by
  decide

end NextGCore.Diameter
