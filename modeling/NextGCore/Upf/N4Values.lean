import Mathlib.Data.Nat.Bitwise
import NextGCore.Library.Checks
import NextGCore.Pfcp.GroupRoundTrip
import NextGCore.Upf.RatePolicing

/-!
# The values of N4 elements, as three encoders write them

The SMF and the shared library write a value, the UPF reads it.  For each kind of value a source
says who wrote it and with which members, and an equivalence says when the UPF reads these.
-/

namespace NextGCore.Upf

open Library Smf Option Except Vector Pfcp ParsedUeIpAddr UInt8
open Sbi (asBytes fromUtf8Lossy fromUtf8Lossy_asBytes)

variable {count : ℕ} {error : String} (word : UInt32) {mask : UInt16} {place : ℕ} {present : Bool}

lemma beU32_beOctets :
  beU32 (ofNat (word.toNat / 256 ^ 3)) (ofNat (word.toNat / 256 ^ 2))
    (ofNat (word.toNat / 256 ^ 1)) (ofNat (word.toNat / 256 ^ 0)) = word := by
  have small := word.toNat_lt
  apply UInt32.toNat_inj.mp
  rw [toNat_beU32, toNat_ofNat', toNat_ofNat', toNat_ofNat', toNat_ofNat']
  omega

lemma firstU16_putU16 (word : UInt16) (rest : Bytes) :
  firstU16 (putU16 word ++ rest) = some word :=
  congrArg some (beU16_beOctets word)

lemma firstU32_putU32 (rest : Bytes) : firstU32 (putU32 word ++ rest) = some word :=
  congrArg some (beU32_beOctets word)

lemma firstU64_putU64 (word : UInt64) (rest : Bytes) :
  firstU64 (putU64 word ++ rest) = some word := by
  have number : beNumber (beOctets 8 word.toNat) = word.toNat :=
    @beValue_beOctets 8 _ word.toNat_lt
  rw [firstU64, if_neg (by simp), List.take_left' (length_beOctets _ _), number, UInt64.ofNat_toNat]

lemma addressOf_putU32 : addressOf (putU32 word) = word := by
  have first := firstU32_putU32 word []
  rw [List.append_nil] at first
  rw [addressOf, first, getD_some]

lemma mask_eq_testBit {octet mask : UInt8} (isMask : mask.toNat = 2 ^ place) :
  (octet &&& mask != 0) = octet.toNat.testBit place := by
  have zero : (0 : UInt8).toNat = 0 := rfl
  rw [Bool.eq_iff_iff, bne_iff_ne, ne_eq, ← UInt8.toNat_inj, UInt8.toNat_and, isMask, zero,
    Nat.and_two_pow]
  cases octet.toNat.testBit place <;> simp

lemma mask16_eq_testBit {word : UInt16} (isMask : mask.toNat = 2 ^ place) :
  (word &&& mask != 0) = word.toNat.testBit place := by
  have zero : (0 : UInt16).toNat = 0 := rfl
  rw [Bool.eq_iff_iff, bne_iff_ne, ne_eq, ← UInt16.toNat_inj, UInt16.toNat_and, isMask, zero,
    Nat.and_two_pow]
  cases word.toNat.testBit place <;> simp

lemma flag_read {flags : List Bool} (few : flags.length ≤ 8) {mask : UInt8} (place : ℕ)
  (isMask : mask.toNat = 2 ^ place) :
  (flagsOctet flags &&& mask != 0) = flags.getD place false :=
  (mask_eq_testBit isMask).trans (testBit_flagsOctet few place)

lemma flag16_read {flags : List Bool} (few : flags.length ≤ 16) (place : ℕ)
  (isMask : mask.toNat = 2 ^ place) : (flagsWord flags &&& mask != 0) = flags.getD place false :=
  (mask16_eq_testBit isMask).trans (testBit_flagsWord few place)

lemma flags_read (first second third : Bool) :
  ((flagIf first 0x01 ||| flagIf second 0x02 ||| flagIf third 0x04) &&& 0x01 != 0) = first ∧
    ((flagIf first 0x01 ||| flagIf second 0x02 ||| flagIf third 0x04) &&& 0x02 != 0) = second ∧
    ((flagIf first 0x01 ||| flagIf second 0x02 ||| flagIf third 0x04) &&& 0x04 != 0) = third ∧
    ((flagIf first 0x01 ||| flagIf second 0x02 ||| flagIf third 0x04) &&& 0x08 != 0) = false := by
  revert first second third
  decide

lemma fieldIf_append {chunk rest : Bytes} (whole : chunk.length = count) :
  fieldIf true count error (chunk ++ rest) = .ok (some chunk, rest) := by
  have enough : ¬ (chunk ++ rest).length < count := by
    rw [List.length_append, whole]
    omega
  rw [fieldIf, if_pos rfl, field, if_neg enough, List.take_left' whole, List.drop_left' whole]
  rfl

lemma fieldIf_putSome {given : Option (Vector UInt8 count)} (flagged : given.isSome = present)
  (rest : Bytes) :
  fieldIf present count error (putSome Vector.toList given ++ rest) =
    .ok (given.map Vector.toList, rest) := by
  subst flagged
  cases given with
  | none => rfl
  | some array => exact fieldIf_append Vector.length_toList

lemma isSome_of_fieldIf {cursor : Bytes} {parts : Option Bytes × Bytes}
  (read : fieldIf present count error cursor = .ok parts) : parts.1.isSome = present := by
  cases present with
  | false =>
    obtain rfl := ok.inj read
    rfl
  | true =>
    unfold fieldIf field at read
    rw [if_pos rfl] at read
    split at read
    · cases read
    · obtain rfl := ok.inj read
      rfl

def ipv4Read (octets : Vector UInt8 4) : UInt32 := addressOf octets.toList

def ipv6Read (octets : Vector UInt8 16) : BitVec 128 := ipv6Of octets.toList

inductive FTeidSource where
  | smf (teid : UInt32) (ipv4 : Option Ipv4Octets) (ipv6 : Option Ipv6Octets)
      (chooseId : Option UInt8)
  | shared (fTeid : FTeid) (wellFormed : fTeid.WellFormed)

namespace FTeidSource

def octets : FTeidSource → Bytes
  | smf teid ipv4 ipv6 chooseId => fTeidValue teid ipv4 ipv6 chooseId
  | shared fTeid _ => fTeid.encode

def members : FTeidSource → ParsedFTeid
  | smf teid ipv4 ipv6 chooseId =>
    ⟨teid, ipv4.map ipv4Read, ipv6.map ipv6Read, chooseId.isSome, chooseId.isSome, chooseId⟩
  | shared fTeid _ =>
    ⟨fTeid.teid, fTeid.ipv4Addr.map ipv4Read, fTeid.ipv6Addr.map ipv6Read, fTeid.ch, fTeid.chid,
      fTeid.chooseId⟩

def Understood : FTeidSource → Prop
  | smf _ _ _ chooseId => chooseId = none
  | shared _ _ => True

lemma parse_smf (teid : UInt32) (ipv4 : Option Ipv4Octets) (ipv6 : Option Ipv6Octets) :
  ParsedFTeid.parse (fTeidValue teid ipv4 ipv6 none) =
    .ok ⟨teid, ipv4.map ipv4Read, ipv6.map ipv6Read, false, false, none⟩ := by
  obtain ⟨v4, v6, ch, chid⟩ := flags_read ipv4.isSome ipv6.isSome false
  unfold fTeidValue ParsedFTeid.parse
  simp only [isSome_none, v4, v6, ch, chid, Bool.not_false, Bool.and_true]
  rw [fieldIf_append (length_beOctets _ _), ok_bind, fieldIf_putSome rfl, ok_bind,
    fieldIf_putSome rfl, ok_bind]
  simp only [map_some, getD_some, addressOf_putU32, Option.map_map]
  rfl

lemma parse_smf_choose (teid : UInt32) (ipv4 : Option Ipv4Octets) (ipv6 : Option Ipv6Octets)
  (chooseId : UInt8) :
  ParsedFTeid.parse (fTeidValue teid ipv4 ipv6 (some chooseId)) =
    .ok ⟨0, none, none, true, false, none⟩ := by
  obtain ⟨v4, v6, ch, chid⟩ := flags_read ipv4.isSome ipv6.isSome true
  unfold fTeidValue ParsedFTeid.parse
  simp only [isSome_some, v4, v6, ch, chid, Bool.not_true, Bool.and_false]
  rfl

lemma shared_flags (v4 v6 choose chooseId : Bool) :
  (flagsOctet [v4, v6, choose, chooseId] &&& 0x01 != 0) = v4 ∧
    (flagsOctet [v4, v6, choose, chooseId] &&& 0x02 != 0) = v6 ∧
    (flagsOctet [v4, v6, choose, chooseId] &&& 0x04 != 0) = choose ∧
    (flagsOctet [v4, v6, choose, chooseId] &&& 0x08 != 0) = chooseId := by
  have few : [v4, v6, choose, chooseId].length ≤ 8 := by simp
  exact ⟨flag_read few 0 rfl, flag_read few 1 rfl, flag_read few 2 rfl, flag_read few 3 rfl⟩

lemma parse_shared {fTeid : FTeid} (wellFormed : fTeid.WellFormed) :
  ParsedFTeid.parse fTeid.encode = .ok (members (.shared fTeid wellFormed)) := by
  obtain ⟨v4, v6, ch, chid⟩ := shared_flags fTeid.ipv4 fTeid.ipv6 fTeid.ch fTeid.chid
  have teidRead (rest : Bytes) : fieldIf (!fTeid.ch) 4 "F-TEID too short for TEID"
      (putIf (!fTeid.ch) (putU32 fTeid.teid) ++ rest) =
        .ok (if fTeid.ch then none else some (putU32 fTeid.teid), rest) := by
    cases fTeid.ch with
    | false => exact fieldIf_append (length_beOctets _ _)
    | true => rfl
  rw [FTeid.encode_eq wellFormed, putU8_eq]
  unfold ParsedFTeid.parse
  simp only [List.cons_append, List.nil_append, v4, v6, ch, chid]
  rw [teidRead, ok_bind, fieldIf_putSome wellFormed.ipv4, ok_bind,
    fieldIf_putSome wellFormed.ipv6, ok_bind]
  have teid : ((if fTeid.ch then none else some (putU32 fTeid.teid)).map addressOf).getD 0 =
      fTeid.teid := by
    cases chosen : fTeid.ch with
    | false => exact addressOf_putU32 fTeid.teid
    | true => exact (wellFormed.teid chosen).symm
  have chooseId : (if fTeid.chid then (putSome putU8 fTeid.chooseId).head? else none) =
      fTeid.chooseId := by
    rw [← wellFormed.chooseId]
    cases fTeid.chooseId with
    | none => rfl
    | some id => exact congrArg List.head? (putU8_eq id)
  rw [teid, chooseId, Option.map_map, Option.map_map]
  rfl

lemma parse_iff (source : FTeidSource) :
  ParsedFTeid.parse source.octets = .ok source.members ↔ source.Understood := by
  cases source with
  | smf teid ipv4 ipv6 chooseId =>
    cases chooseId with
    | none => exact iff_of_true (parse_smf teid ipv4 ipv6) rfl
    | some chooseId =>
      refine iff_of_false (fun read => ?_) (by simp [Understood])
      have same := (parse_smf_choose teid ipv4 ipv6 chooseId).symm.trans read
      exact absurd (congrArg ParsedFTeid.chooseId (ok.inj same)) nofun
  | shared fTeid wellFormed => exact iff_of_true (parse_shared wellFormed) trivial

end FTeidSource

/-- A UE IP address of `add_ue_ip_address`, or one of the library. -/
inductive UeIpSource where
  | smf (ipv4 : Option Ipv4Octets) (ipv6 : Option Ipv6Octets) (source destination : Bool)
  | shared (ueIp : UeIpAddress) (wellFormed : ueIp.WellFormed)

namespace UeIpSource

variable {ueIp : UeIpAddress}

def octets : UeIpSource → Bytes
  | smf ipv4 ipv6 _ destination => ueIpAddressValue ipv4 ipv6 destination
  | shared ueIp _ => ueIp.encode

/-- The members that were written; a prefix length that is not given is the default. -/
def members : UeIpSource → ParsedUeIpAddr
  | smf ipv4 ipv6 source destination =>
    ⟨ipv4.map ipv4Read, ipv6.map ipv6Read, defaultPrefixLen ipv6.isSome, source, destination⟩
  | shared ueIp _ =>
    ⟨ueIp.ipv4Addr.map ipv4Read, ueIp.ipv6Addr.map ipv6Read,
      ueIp.ipv6PrefixLength.getD (defaultPrefixLen ueIp.ipv6), !ueIp.sd, ueIp.sd⟩

/-- The prefix length that the UPF takes from a UE IP address of the library: the delegated bits,
if there are any. -/
def prefixLenRead (ueIp : UeIpAddress) : UInt8 :=
  ueIp.ipv6PrefixDelegationBits.getD (defaultPrefixLen ueIp.ipv6)

/-- The UPF does not know of addresses that it is to choose, and takes the delegated bits for the
prefix length. -/
def Understood : UeIpSource → Prop
  | smf _ _ source destination => source = !destination
  | shared ueIp _ => (ueIp.ipv4 && ueIp.chv4) = false ∧ (ueIp.ipv6 && ueIp.chv6) = false ∧
      prefixLenRead ueIp = ueIp.ipv6PrefixLength.getD (defaultPrefixLen ueIp.ipv6)

lemma parse_smf (ipv4 : Option Ipv4Octets) (ipv6 : Option Ipv6Octets) (destination : Bool) :
  parse (ueIpAddressValue ipv4 ipv6 destination) =
    .ok (members (.smf ipv4 ipv6 (!destination) destination)) := by
  obtain ⟨v6, v4, sd, ipv6d⟩ := flags_read ipv6.isSome ipv4.isSome destination
  have ipv6Last : fieldIf ipv6.isSome 16 "UE IP too short for IPv6" (putSome Vector.toList ipv6) =
      .ok (ipv6.map Vector.toList, []) := by
    rw [← List.append_nil (putSome Vector.toList ipv6)]
    exact fieldIf_putSome rfl []
  unfold ueIpAddressValue parse
  simp only [v4, v6, sd, ipv6d]
  rw [fieldIf_putSome rfl, ok_bind, ipv6Last, ok_bind, Option.map_map, Option.map_map]
  rfl

lemma shared_flags (v6 v4 sd ipv6d chv4 chv6 ip6pl : Bool) :
  (flagsOctet [v6, v4, sd, ipv6d, chv4, chv6, ip6pl] &&& 0x01 != 0) = v6 ∧
    (flagsOctet [v6, v4, sd, ipv6d, chv4, chv6, ip6pl] &&& 0x02 != 0) = v4 ∧
    (flagsOctet [v6, v4, sd, ipv6d, chv4, chv6, ip6pl] &&& 0x04 != 0) = sd ∧
    (flagsOctet [v6, v4, sd, ipv6d, chv4, chv6, ip6pl] &&& 0x08 != 0) = ipv6d := by
  have few : [v6, v4, sd, ipv6d, chv4, chv6, ip6pl].length ≤ 8 := by simp
  exact ⟨flag_read few 0 rfl, flag_read few 1 rfl, flag_read few 2 rfl, flag_read few 3 rfl⟩

lemma isSome_of_parse {flags : UInt8} {cursor : Bytes} {ueIp : ParsedUeIpAddr}
  (read : parse (flags :: cursor) = .ok ueIp) :
  ueIp.ipv4.isSome = (flags &&& 0x02 != 0) ∧ ueIp.ipv6.isSome = (flags &&& 0x01 != 0) := by
  obtain ⟨ipv4, readIpv4, rest⟩ := bind_eq_ok_iff.mp read
  obtain ⟨ipv6, readIpv6, built⟩ := bind_eq_ok_iff.mp rest
  obtain rfl := ok.inj built
  exact ⟨isSome_map.trans (isSome_of_fieldIf readIpv4),
    isSome_map.trans (isSome_of_fieldIf readIpv6)⟩

lemma parse_shared (wellFormed : ueIp.WellFormed) (ipv4 : ueIp.ipv4Addr.isSome = ueIp.ipv4)
  (ipv6 : ueIp.ipv6Addr.isSome = ueIp.ipv6) :
  parse ueIp.encode =
    .ok ⟨ueIp.ipv4Addr.map ipv4Read, ueIp.ipv6Addr.map ipv6Read, prefixLenRead ueIp, !ueIp.sd,
      ueIp.sd⟩ := by
  obtain ⟨v6, v4, sd, ipv6d⟩ := shared_flags ueIp.ipv6 ueIp.ipv4 ueIp.sd ueIp.ipv6d ueIp.chv4
    ueIp.chv6 ueIp.ip6pl
  unfold UeIpAddress.encode parse
  rw [putU8_eq]
  simp only [List.cons_append, List.nil_append, v6, v4, sd, ipv6d]
  rw [fieldIf_putSome ipv4, ok_bind, fieldIf_putSome ipv6, ok_bind, Option.map_map, Option.map_map]
  have prefixLen : ((if ueIp.ipv6d then (putSome putU8 ueIp.ipv6PrefixDelegationBits ++
      putSome putU8 ueIp.ipv6PrefixLength).head? else none).getD (defaultPrefixLen ueIp.ipv6)) =
      prefixLenRead ueIp := by
    rw [← wellFormed.ipv6d, prefixLenRead]
    cases ueIp.ipv6PrefixDelegationBits with
    | none => rfl
    | some bits =>
      rw [putSome, map_some, getD_some, putU8_eq]
      rfl
  rw [prefixLen]
  rfl

lemma present_iff {present flag chosen : Bool} (leftOut : present = (flag && !chosen)) :
  present = flag ↔ (flag && chosen) = false := by
  subst leftOut
  cases flag <;> cases chosen <;> decide

lemma parse_shared_iff (wellFormed : ueIp.WellFormed) :
  parse ueIp.encode = .ok (members (.shared ueIp wellFormed)) ↔
    Understood (.shared ueIp wellFormed) := by
  have given4 := present_iff wellFormed.ipv4
  have given6 := present_iff wellFormed.ipv6
  constructor
  · intro read
    obtain ⟨v6, v4, -, -⟩ := shared_flags ueIp.ipv6 ueIp.ipv4 ueIp.sd ueIp.ipv6d ueIp.chv4
      ueIp.chv6 ueIp.ip6pl
    have framed : ueIp.encode = flagsOctet [ueIp.ipv6, ueIp.ipv4, ueIp.sd, ueIp.ipv6d, ueIp.chv4,
        ueIp.chv6, ueIp.ip6pl] :: ueIp.encode.tail := by
      unfold UeIpAddress.encode
      rw [putU8_eq]
      rfl
    rw [framed] at read
    obtain ⟨hasIpv4, hasIpv6⟩ := isSome_of_parse read
    have ipv4 : ueIp.ipv4Addr.isSome = ueIp.ipv4 := isSome_map.symm.trans (hasIpv4.trans v4)
    have ipv6 : ueIp.ipv6Addr.isSome = ueIp.ipv6 := isSome_map.symm.trans (hasIpv6.trans v6)
    rw [← framed, parse_shared wellFormed ipv4 ipv6] at read
    exact ⟨given4.mp ipv4, given6.mp ipv6, congrArg ipv6PrefixLen (ok.inj read)⟩
  · rintro ⟨unchosen4, unchosen6, prefixLen⟩
    rw [parse_shared wellFormed (given4.mpr unchosen4) (given6.mpr unchosen6), prefixLen]
    rfl

lemma parse_iff (source : UeIpSource) :
  parse source.octets = .ok source.members ↔ source.Understood := by
  cases source with
  | smf ipv4 ipv6 source destination =>
    change parse (ueIpAddressValue ipv4 ipv6 destination) = _ ↔ _
    rw [parse_smf, ok.injEq]
    constructor
    · intro same
      exact (congrArg ParsedUeIpAddr.source same).symm
    · rintro rfl
      rfl
  | shared ueIp wellFormed => exact parse_shared_iff wellFormed

end UeIpSource

/-- A creation of `add_outer_header_creation`, or one of the library. -/
inductive HeaderSource where
  | smf (description : UInt16) (teid : UInt32) (ipv4 : Option Ipv4Octets)
      (ipv6 : Option Ipv6Octets)
  | shared (creation : OuterHeaderCreation) (wellFormed : creation.WellFormed)

namespace HeaderSource

variable {description : UInt16}

def octets : HeaderSource → Bytes
  | smf description teid ipv4 ipv6 => outerHeaderCreationValue description teid ipv4 ipv6
  | shared creation _ => creation.encode

def members : HeaderSource → ParsedOuterHeaderCreation
  | smf description teid ipv4 ipv6 =>
    ⟨description, teid, ipv4.map ipv4Read, ipv6.map ipv6Read, none⟩
  | shared creation _ =>
    ⟨flagsWord (OuterHeaderCreation.flags creation.description), creation.teid.getD 0,
      creation.ipv4Addr.map ipv4Read, creation.ipv6Addr.map ipv6Read, creation.portNumber⟩

/-- The UPF reads the fields of a GTP-U header only, and takes what is left for a port. -/
def Understood : HeaderSource → Prop
  | smf description _ ipv4 ipv6 =>
    (description &&& 0x0100 != 0) = ipv4.isSome ∧ (description &&& 0x0200 != 0) = ipv6.isSome ∧
      (ipv4.isSome || ipv6.isSome) = true
  | shared creation _ =>
    creation.ipv4Addr.isSome = creation.description.gtpuUdpIpv4 ∧
      creation.ipv6Addr.isSome = creation.description.gtpuUdpIpv6 ∧
      (creation.portNumber = none → creation.cTag = none ∧ creation.sTag = none)

lemma isSome_of_parse {cursor : Bytes} {creation : ParsedOuterHeaderCreation}
  (read : ParsedOuterHeaderCreation.parse (putU16 description ++ cursor) = .ok creation) :
  creation.ipv4.isSome = (description &&& 0x0100 != 0) ∧
    creation.ipv6.isSome = (description &&& 0x0200 != 0) := by
  obtain ⟨teid, readTeid, rest⟩ := bind_eq_ok_iff.mp read
  obtain ⟨ipv4, readIpv4, rest⟩ := bind_eq_ok_iff.mp rest
  obtain ⟨ipv6, readIpv6, built⟩ := bind_eq_ok_iff.mp rest
  obtain rfl := ok.inj built
  rw [beU16_beOctets] at readIpv4 readIpv6
  exact ⟨isSome_map.trans (isSome_of_fieldIf readIpv4),
    isSome_map.trans (isSome_of_fieldIf readIpv6)⟩

lemma parse_named {gtpuIpv4 gtpuIpv6 : Bool} (teid : Option UInt32) (ipv4 : Option Ipv4Octets)
  (ipv6 : Option Ipv6Octets) (named4 : (description &&& 0x0100 != 0) = gtpuIpv4)
  (named6 : (description &&& 0x0200 != 0) = gtpuIpv6)
  (hasTeid : teid.isSome = (gtpuIpv4 || gtpuIpv6)) (hasIpv4 : ipv4.isSome = gtpuIpv4)
  (hasIpv6 : ipv6.isSome = gtpuIpv6) (rest : Bytes) :
  ParsedOuterHeaderCreation.parse (putU16 description ++ (putSome putU32 teid ++
      (putSome Vector.toList ipv4 ++ (putSome Vector.toList ipv6 ++ rest)))) =
    .ok ⟨description, teid.getD 0, ipv4.map ipv4Read, ipv6.map ipv6Read, firstU16 rest⟩ := by
  have teidRead (rest : Bytes) : fieldIf (gtpuIpv4 || gtpuIpv6) 4 "OHC too short for TEID"
      (putSome putU32 teid ++ rest) = .ok (teid.map fun teid => putU32 teid, rest) := by
    rw [← hasTeid]
    cases teid with
    | none => rfl
    | some teid => exact fieldIf_append (length_beOctets _ _)
  have teidMember : ((teid.map fun teid => putU32 teid).map addressOf).getD 0 = teid.getD 0 := by
    cases teid with
    | none => rfl
    | some teid => exact addressOf_putU32 teid
  unfold ParsedOuterHeaderCreation.parse
  simp only [beOctets, List.cons_append, List.nil_append, beU16_beOctets, named4, named6]
  rw [teidRead, ok_bind, fieldIf_putSome hasIpv4, ok_bind, fieldIf_putSome hasIpv6, ok_bind,
    teidMember, Option.map_map, Option.map_map]
  rfl

lemma parse_smf_iff (description : UInt16) (teid : UInt32) (ipv4 : Option Ipv4Octets)
  (ipv6 : Option Ipv6Octets) :
  ParsedOuterHeaderCreation.parse (outerHeaderCreationValue description teid ipv4 ipv6) =
      .ok (members (.smf description teid ipv4 ipv6)) ↔
    Understood (.smf description teid ipv4 ipv6) := by
  constructor
  · intro read
    obtain ⟨hasIpv4, hasIpv6⟩ := isSome_of_parse read
    have named4 := hasIpv4.symm.trans (isSome_map (f := ipv4Read))
    have named6 := hasIpv6.symm.trans (isSome_map (f := ipv6Read))
    refine ⟨named4, named6, ?_⟩
    by_contra without
    obtain ⟨no4, no6⟩ := Bool.or_eq_false_iff.mp (Bool.eq_false_iff.mpr without)
    -- Without a GTP-U header the octets of the TEID are left, and count as a port.
    obtain rfl : ipv4 = none := by simpa using no4
    obtain rfl : ipv6 = none := by simpa using no6
    have parsed := parse_named none none none named4 named6 rfl rfl rfl (putU32 teid)
    have same := parsed.symm.trans read
    exact absurd (congrArg ParsedOuterHeaderCreation.port (ok.inj same)) nofun
  · rintro ⟨named4, named6, oneGiven⟩
    have parsed := parse_named (some teid) ipv4 ipv6 named4 named6 oneGiven.symm rfl rfl []
    rw [List.append_nil] at parsed
    exact parsed

lemma shared_flags (description : OuterHeaderCreationDescription) :
  (flagsWord (OuterHeaderCreation.flags description) &&& 0x0100 != 0) = description.gtpuUdpIpv4 ∧
    (flagsWord (OuterHeaderCreation.flags description) &&& 0x0200 != 0) =
      description.gtpuUdpIpv6 := by
  have few : (OuterHeaderCreation.flags description).length ≤ 16 := le_rfl
  exact ⟨flag16_read few 8 rfl, flag16_read few 9 rfl⟩

lemma port_iff (portNumber : Option UInt16) (cTag sTag : Option (Vector UInt8 3)) :
  firstU16 (putSome putU16 portNumber ++
      (putSome Vector.toList cTag ++ putSome Vector.toList sTag)) = portNumber ↔
    (portNumber = none → cTag = none ∧ sTag = none) := by
  have tagRead (tag : Vector UInt8 3) (rest : Bytes) : firstU16 (tag.toList ++ rest) ≠ none := by
    obtain ⟨first, second, third, octets⟩ : ∃ first second third,
        tag.toList = [first, second, third] := List.length_eq_three.mp Vector.length_toList
    rw [octets]
    nofun
  cases portNumber with
  | some port => exact iff_of_true (firstU16_putU16 port _) nofun
  | none =>
    cases cTag with
    | some tag => exact iff_of_false (tagRead tag _) (by simp)
    | none =>
      cases sTag with
      | some tag =>
        refine iff_of_false (fun none => tagRead tag [] ?_) (by simp)
        rw [List.append_nil]
        exact none
      | none => exact iff_of_true rfl fun _ => ⟨rfl, rfl⟩

lemma parse_shared_iff {creation : OuterHeaderCreation} (wellFormed : creation.WellFormed) :
  ParsedOuterHeaderCreation.parse creation.encode = .ok (members (.shared creation wellFormed)) ↔
    Understood (.shared creation wellFormed) := by
  obtain ⟨named4, named6⟩ := shared_flags creation.description
  have parsed (hasIpv4 : creation.ipv4Addr.isSome = creation.description.gtpuUdpIpv4)
      (hasIpv6 : creation.ipv6Addr.isSome = creation.description.gtpuUdpIpv6) :=
    parse_named _ _ _ named4 named6 wellFormed.teid hasIpv4 hasIpv6
      (putSome putU16 creation.portNumber ++
        (putSome Vector.toList creation.cTag ++ putSome Vector.toList creation.sTag))
  constructor
  · intro read
    obtain ⟨readIpv4, readIpv6⟩ := isSome_of_parse read
    have hasIpv4 := (isSome_map (f := ipv4Read)).symm.trans (readIpv4.trans named4)
    have hasIpv6 := (isSome_map (f := ipv6Read)).symm.trans (readIpv6.trans named6)
    have same := (parsed hasIpv4 hasIpv6).symm.trans read
    exact ⟨hasIpv4, hasIpv6,
      (port_iff _ _ _).mp (congrArg ParsedOuterHeaderCreation.port (ok.inj same))⟩
  · rintro ⟨hasIpv4, hasIpv6, tags⟩
    refine (parsed hasIpv4 hasIpv6).trans ?_
    rw [(port_iff _ _ _).mpr tags]
    rfl

lemma parse_iff (source : HeaderSource) :
  ParsedOuterHeaderCreation.parse source.octets = .ok source.members ↔ source.Understood := by
  cases source with
  | smf description teid ipv4 ipv6 => exact parse_smf_iff description teid ipv4 ipv6
  | shared creation wellFormed => exact parse_shared_iff wellFormed

end HeaderSource

inductive ActionSource where
  | smf (action : UInt16)
  | shared (action : ApplyAction)

namespace ActionSource

def octets : ActionSource → Bytes
  | smf action => putU16 action
  | shared action => action.encodeIe.value

def flags : ActionSource → UInt16
  | smf action => action
  | shared action => action.encode

/-- The library writes the octets in the other order, which makes no difference to two octets that
are the same. -/
def Understood : ActionSource → Prop
  | smf _ => True
  | shared action =>
    action.drop = action.edrt ∧ action.forw = action.bdpn ∧ action.buff = action.ddpn ∧
      (action.nocp || action.dupl || action.ipma || action.ipmd || action.dfrt) = false

lemma testBit_of_swapped {word : UInt16}
  (swapped : beU16 word.toUInt8 (word >>> 8).toUInt8 = word) {place : ℕ} (low : place < 8) :
  word.toNat.testBit place = word.toNat.testBit (place + 8) := by
  have numbers := congrArg UInt16.toNat swapped
  have small := word.toNat_lt
  have shifted : (word >>> 8).toNat = word.toNat / 2 ^ 8 := by
    rw [UInt16.toNat_shiftRight]
    exact Nat.shiftRight_eq_div_pow _ 8
  rw [toNat_beU16, UInt16.toNat_toUInt8, UInt16.toNat_toUInt8, shifted] at numbers
  have same : word.toNat % 2 ^ 8 = word.toNat / 2 ^ 8 := by omega
  rw [← Nat.testBit_div_two_pow, ← same, Nat.testBit_mod_two_pow, decide_eq_true low, Bool.true_and]

lemma swapped_iff (action : ApplyAction) :
  beU16 action.encode.toUInt8 (action.encode >>> 8).toUInt8 = action.encode ↔
    Understood (.shared action) := by
  obtain ⟨drop, forw, buff, nocp, dupl, ipma, ipmd, dfrt, edrt, bdpn, ddpn⟩ := action
  constructor
  · intro swapped
    have flags (place : ℕ) (low : place < 8) :
        [drop, forw, buff, nocp, dupl, ipma, ipmd, dfrt, edrt, bdpn, ddpn].getD place false =
          [drop, forw, buff, nocp, dupl, ipma, ipmd, dfrt, edrt, bdpn, ddpn].getD (place + 8)
            false := by
      have bits := testBit_of_swapped swapped low
      rwa [ApplyAction.encode, testBit_flagsWord (by simp), testBit_flagsWord (by simp)]
        at bits
    refine ⟨flags 0 (by decide), flags 1 (by decide), flags 2 (by decide), ?_⟩
    rw [show nocp = false from flags 3 (by decide), show dupl = false from flags 4 (by decide),
      show ipma = false from flags 5 (by decide), show ipmd = false from flags 6 (by decide),
      show dfrt = false from flags 7 (by decide)]
    rfl
  · intro understood
    obtain ⟨edrt, bdpn, ddpn, others⟩ : drop = edrt ∧ forw = bdpn ∧ buff = ddpn ∧
        (nocp || dupl || ipma || ipmd || dfrt) = false := understood
    subst edrt bdpn ddpn
    simp only [Bool.or_eq_false_iff] at others
    obtain ⟨⟨⟨⟨rfl, rfl⟩, rfl⟩, rfl⟩, rfl⟩ := others
    revert drop forw buff
    decide

lemma applyActionOf_iff (source : ActionSource) :
  (applyActionOf source.octets).getD 0 = source.flags ↔ source.Understood := by
  cases source with
  | smf action => exact iff_of_true (beU16_beOctets action) trivial
  | shared action => exact swapped_iff action

end ActionSource

structure SdfMembers where
  flowDescription : Option String
  tosTrafficClass : Option UInt16
  securityParamIndex : Option UInt32
  flowLabel : Option UInt32
  sdfFilterId : Option UInt32

namespace SdfMembers

def octets (sdf : SdfMembers) : Bytes :=
  sdfFilterValue sdf.flowDescription sdf.tosTrafficClass sdf.securityParamIndex sdf.flowLabel
    sdf.sdfFilterId

lemma flags_flowDescription (fd ttc spi fl bid : Bool) :
  ((flagIf fd 0x01 ||| flagIf ttc 0x02 ||| flagIf spi 0x04 ||| flagIf fl 0x08 |||
    flagIf bid 0x10) &&& 0x01 != 0) = fd := by
  revert fd ttc spi fl bid
  decide

lemma flowDescriptionOf_octets {sdf : SdfMembers} (short : sdf.octets.length < 65536) :
  flowDescriptionOf sdf.octets = sdf.flowDescription := by
  obtain ⟨flowDescription, ttc, spi, fl, bid⟩ := sdf
  have described := flags_flowDescription flowDescription.isSome ttc.isSome spi.isSome fl.isSome
    bid.isSome
  cases flowDescription with
  | none =>
    have undescribed (flags : UInt8) (clear : (flags &&& 0x01 != 0) = false) (rest : Bytes) :
        flowDescriptionOf (flags :: rest) = none := by
      unfold flowDescriptionOf
      split
      · rename_i same
        obtain rfl := (List.cons.inj same).1
        rw [clear]
        rfl
      · rfl
    exact undescribed _ described _
  | some text =>
    have textShort : (asBytes text).length < 65536 := by
      simp only [octets, sdfFilterValue, putSome, map_some, getD_some,
        List.length_cons, List.length_append] at short
      omega
    have isLength : (beU16 (ofNat ((asBytes text).length / 256 ^ 1))
        (ofNat ((asBytes text).length / 256 ^ 0))).toNat = (asBytes text).length := by
      rw [toNat_beU16, toNat_ofNat', toNat_ofNat']
      omega
    unfold octets sdfFilterValue flowDescriptionOf
    simp only [putSome, map_some, getD_some, beOctets, List.cons_append, List.nil_append]
    rw [isLength, described, List.take_left' rfl, fromUtf8Lossy_asBytes]
    simp

end SdfMembers

end NextGCore.Upf
