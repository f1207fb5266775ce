import NextGCore.Pfcp.NodeTypes
import NextGCore.Pfcp.RuleTypes

/-!
# Values read back

A value is well formed when the fields are there that its flags announce and no others.  Then its
decoder gives it back from its octets.
-/

namespace NextGCore.Pfcp

open Library Sbi Nat Vector Gives

lemma readsBack_address {count : ℕ} (addr : Vector UInt8 count) :
  ReadsBack id (address count) addr.toList addr :=
  readsBack_checked (readsBack_copyToSlice addr) Vector.length_toList.ge

lemma readsBack_addressIf {count : ℕ} {present : Bool} {given : Option (Vector UInt8 count)}
  (agrees : given.isSome = present) :
  ReadsBack id (givenIf present (address count)) (putSome Vector.toList given) given :=
  readsBack_givenIf agrees fun addr _ => readsBack_address addr

lemma readsBack_checkedU8 (value : UInt8) :
  ReadsBack id (checked PfcpError.bufferTooShort 1 getU8) (putU8 value) value :=
  readsBack_checked (readsBack_getU8 value) (by simp)

lemma readsBack_checkedU16 (value : UInt16) :
  ReadsBack id (checked PfcpError.bufferTooShort 2 getU16) (putU16 value) value :=
  readsBack_checked (readsBack_getU16 value) (by simp)

lemma readsBack_checkedU32 (value : UInt32) :
  ReadsBack id (checked PfcpError.bufferTooShort 4 getU32) (putU32 value) value :=
  readsBack_checked (readsBack_getU32 value) (by simp)

namespace NodeId

variable {fqdn : String}

structure FqdnWellFormed (fqdn : String) : Prop where
  dotted : fqdn = "" ∨ ∀ label ∈ fqdn.toList.splitOn '.', label ≠ []
  short : ∀ label ∈ labels fqdn, (asBytes label).length < 256

inductive WellFormed : NodeId → Prop
  | ipv4 (addr : Ipv4) : WellFormed (newIpv4 addr)
  | ipv6 (addr : Ipv6) : WellFormed (newIpv6 addr)
  | fqdn {fqdn : String} (labels : FqdnWellFormed fqdn) : WellFormed (newFqdn fqdn)

def joinFrom : String → List String → String
  | fqdn, [] => fqdn
  | fqdn, label :: rest =>
    joinFrom ((if fqdn.isEmpty then fqdn else fqdn ++ ".") ++ label) rest

lemma decodeLabels_eq {labels : List String} {tail : Bytes} {turns : ℕ}
  (good : ∀ label ∈ labels, 0 < (asBytes label).length ∧ (asBytes label).length < 256)
  (enough : labels.length < turns) :
  decodeLabels turns fqdn (labels.flatMap encodeLabel ++ (putU8 0 ++ tail)) =
    .ok (joinFrom fqdn labels, tail) := by
  obtain ⟨turns, rfl⟩ : ∃ fewer, turns = fewer + 1 := ⟨turns - 1, by omega⟩
  induction labels generalizing fqdn turns with
  | nil =>
    have stop : (getU8 : Decoding UInt8) (putU8 0 ++ tail) = .ok (0, tail) := by
      exact (readsBack_getU8 0).answer tail
    rw [List.flatMap_nil, List.nil_append, decodeLabels]
    have some : ¬(putU8 0 ++ tail).isEmpty := by simp [putU8_eq]
    simp only [if_neg some]
    exact Reading.bind_eq stop
  | cons label rest ih =>
    obtain ⟨⟨positive, short⟩, goodRest⟩ := List.forall_mem_cons.mp good
    have declared : (UInt8.ofNat (asBytes label).length).toNat = (asBytes label).length :=
      UInt8.toNat_ofNat_of_lt' short
    obtain ⟨turns, rfl⟩ : ∃ fewer, turns = fewer + 1 :=
      ⟨turns - 1, by rw [List.length_cons] at enough; omega⟩
    have length := (readsBack_getU8 (UInt8.ofNat (asBytes label).length) :
      ReadsBack id (getU8 : Decoding UInt8) _ _).answer
        (asBytes label ++ (rest.flatMap encodeLabel ++ (putU8 0 ++ tail)))
    have value : (checked PfcpError.bufferTooShort (asBytes label).length
        (copyToBytes (asBytes label).length) : Decoding Bytes)
          (asBytes label ++ (rest.flatMap encodeLabel ++ (putU8 0 ++ tail))) =
        .ok (asBytes label, rest.flatMap encodeLabel ++ (putU8 0 ++ tail)) :=
      (readsBack_checked (readsBack_copyToBytes (asBytes label)) le_rfl).answer _
    have some : ¬(putU8 (UInt8.ofNat (asBytes label).length) ++
        (asBytes label ++ (rest.flatMap encodeLabel ++ (putU8 0 ++ tail)))).isEmpty := by
      simp [putU8_eq]
    have nonzero : ¬UInt8.ofNat (asBytes label).length = 0 := by
      intro zero
      rw [zero] at declared
      exact absurd declared.symm positive.ne'
    rw [List.flatMap_cons, encodeLabel, List.append_assoc, List.append_assoc, decodeLabels]
    simp only [if_neg some]
    rw [Reading.bind_eq length]
    simp only [if_neg nonzero, declared]
    rw [Reading.bind_eq value]
    simp only [fromUtf8Lossy_asBytes]
    exact ih goodRest turns (by rw [List.length_cons] at enough; omega)

lemma joinFrom_map {words : List (List Char)} (some : words ≠ [])
  (nonempty : ∀ word ∈ words, word ≠ []) (fqdn : String) :
  joinFrom fqdn (words.map String.ofList) =
    (if fqdn.isEmpty then fqdn else fqdn ++ ".") ++ String.ofList (['.'].intercalate words) := by
  induction words generalizing fqdn with
  | nil => exact absurd rfl some
  | cons word rest ih =>
    obtain ⟨first, others⟩ := List.forall_mem_cons.mp nonempty
    rw [List.map_cons, joinFrom]
    generalize (if fqdn.isEmpty then fqdn else fqdn ++ ".") = dotted
    cases rest with
    | nil => simp [joinFrom]
    | cons next rest =>
      have occupied : (dotted ++ String.ofList word).isEmpty = false := by
        simp [first]
      rw [ih (List.cons_ne_nil _ _) others, occupied,
        List.intercalate_cons_of_ne_nil (List.cons_ne_nil _ _)]
      simp only [Bool.false_eq_true, if_false, String.ofList_append, String.append_assoc]

lemma joinFrom_labels (wellFormed : FqdnWellFormed fqdn) : joinFrom "" (labels fqdn) = fqdn := by
  rcases wellFormed.dotted with rfl | nonempty
  · rfl
  · have all : (fqdn.toList.splitOn '.').filter (fun label => !label.isEmpty) =
        fqdn.toList.splitOn '.' := by
      rw [List.filter_eq_self]
      intro label inside
      simp [nonempty label inside]
    rw [labels, all, joinFrom_map (List.splitOn_ne_nil _ _) nonempty, List.intercalate_splitOn,
      String.ofList_toList]
    rfl

lemma encodable (wellFormed : FqdnWellFormed fqdn) :
  ∀ label ∈ labels fqdn, 0 < (asBytes label).length ∧ (asBytes label).length < 256 := by
  intro label inside
  refine ⟨?_, wellFormed.short label inside⟩
  obtain ⟨word, kept, rfl⟩ := List.mem_map.mp inside
  have occupied : word ≠ [] := by
    intro empty
    rw [empty] at kept
    simp at kept
  have least := length_le_length_asBytes word
  rw [asBytes, String.toList_ofList]
  exact (List.length_pos_of_ne_nil occupied).trans_le least

lemma length_lt_length_encode {labels : List String}
  (good : ∀ label ∈ labels, 0 < (asBytes label).length ∧ (asBytes label).length < 256)
  (tail : Bytes) :
  labels.length < (labels.flatMap encodeLabel ++ (putU8 0 ++ tail)).length := by
  induction labels with
  | nil => simp
  | cons label rest ih =>
    have more := ih (List.forall_mem_cons.mp good).2
    simp only [List.flatMap_cons, encodeLabel, List.length_append, length_beOctets,
      List.length_cons] at more ⊢
    omega

lemma readsBack {nodeId : NodeId} (wellFormed : nodeId.WellFormed) :
  ReadsBack id decode nodeId.encode nodeId := by
  cases wellFormed with
  | ipv4 addr =>
    have type : NodeIdType.tryFrom (NodeIdType.ipv4.toU8 &&& 0x0F) = .ok .ipv4 := rfl
    exact (readsBack_checkedU8 _).bind ((ReadsBack.lift type).skip (readsBack_address addr).last)
  | ipv6 addr =>
    have type : NodeIdType.tryFrom (NodeIdType.ipv6.toU8 &&& 0x0F) = .ok .ipv6 := rfl
    exact (readsBack_checkedU8 _).bind ((ReadsBack.lift type).skip (readsBack_address addr).last)
  | @fqdn fqdn wellFormed =>
    have labels : ReadsBack id decodeFqdn (encodeFqdn fqdn) fqdn := by
      intro stream tail front
      rw [id_eq, encodeFqdn, List.append_assoc] at front
      subst front
      refine ⟨tail, ?_, rfl⟩
      rw [decodeFqdn, decodeLabels_eq (encodable wellFormed)
        (length_lt_length_encode (encodable wellFormed) tail), joinFrom_labels wellFormed]
    have type : NodeIdType.tryFrom (NodeIdType.fqdn.toU8 &&& 0x0F) = .ok .fqdn := rfl
    exact (readsBack_checkedU8 _).bind ((ReadsBack.lift type).skip labels.last)

lemma takes {nodeId : NodeId} (wellFormed : nodeId.WellFormed) :
  Takes (whole decode : Taking PfcpError NodeId) nodeId.encode nodeId :=
  takes_whole (readsBack wellFormed).gives

end NodeId

namespace FSeid

structure WellFormed (fSeid : FSeid) : Prop where
  ipv4 : fSeid.ipv4Addr.isSome = fSeid.ipv4
  ipv6 : fSeid.ipv6Addr.isSome = fSeid.ipv6

lemma readsBack {fSeid : FSeid} (wellFormed : fSeid.WellFormed) :
  ReadsBack id decode fSeid.encode fSeid := by
  unfold decode encode
  refine ReadsBack.require ?_ (by simp only [List.length_append, length_beOctets]; omega)
  refine (readsBack_getU8 _).bind ((readsBack_getU64 _).bind ?_)
  have bits := testBit_flagsOctet (show [fSeid.ipv6, fSeid.ipv4].length ≤ 8 by simp)
  simp only [bits]
  exact (readsBack_addressIf wellFormed.ipv4).bind (readsBack_addressIf wellFormed.ipv6).last

end FSeid

namespace FTeid

/-- The CHOOSE ID flag comes with the CHOOSE flag, which leaves out all that is chosen. -/
structure WellFormed (fTeid : FTeid) : Prop where
  chid : fTeid.chid = true → fTeid.ch = true
  teid : fTeid.ch = true → fTeid.teid = 0
  ipv4 : fTeid.ipv4Addr.isSome = (fTeid.ipv4 && !fTeid.ch)
  ipv6 : fTeid.ipv6Addr.isSome = (fTeid.ipv6 && !fTeid.ch)
  chooseId : fTeid.chooseId.isSome = fTeid.chid

lemma encode_eq {fTeid : FTeid} (wellFormed : fTeid.WellFormed) :
  fTeid.encode = putU8 (flagsOctet [fTeid.ipv4, fTeid.ipv6, fTeid.ch, fTeid.chid]) ++
    (putIf (!fTeid.ch) (putU32 fTeid.teid) ++ (putSome Vector.toList fTeid.ipv4Addr ++
        (putSome Vector.toList fTeid.ipv6Addr ++ putSome putU8 fTeid.chooseId))) := by
  have chosen : putIf fTeid.chid (putU8 (fTeid.chooseId.getD 0)) =
      putSome putU8 fTeid.chooseId := by
    rw [← wellFormed.chooseId]
    cases fTeid.chooseId <;> rfl
  unfold encode
  rw [chosen]
  cases ch : fTeid.ch with
  | false => simp only [Bool.not_false, putIf, if_true, List.append_assoc]
  | true =>
    have ipv4 := wellFormed.ipv4
    have ipv6 := wellFormed.ipv6
    rw [ch, Bool.not_true, Bool.and_false, Option.isSome_eq_false_iff,
      Option.isNone_iff_eq_none] at ipv4 ipv6
    rw [ipv4, ipv6]
    rfl

lemma readsBack {fTeid : FTeid} (wellFormed : fTeid.WellFormed) :
  ReadsBack id decode fTeid.encode fTeid := by
  rw [encode_eq wellFormed]
  unfold decode
  refine (readsBack_checkedU8 _).bind ?_
  have bits := testBit_flagsOctet
    (show [fTeid.ipv4, fTeid.ipv6, fTeid.ch, fTeid.chid].length ≤ 8 by simp)
  simp only [bits]
  refine (ReadsBack.refuse ?_).skip ?_
  · rintro ⟨chid, ch⟩
    rw [bits] at chid ch
    exact absurd (wellFormed.chid chid) (Bool.eq_false_iff.mp ch)
  refine (readsBack_orElse (readsBack_checkedU32 _) ?_).bind ?_
  · intro ch
    exact wellFormed.teid (by simpa using ch)
  exact (readsBack_addressIf wellFormed.ipv4).bind ((readsBack_addressIf wellFormed.ipv6).bind
    (readsBack_givenIf wellFormed.chooseId fun value _ => readsBack_checkedU8 value).last)

end FTeid

namespace UeIpAddress

structure WellFormed (ueIp : UeIpAddress) : Prop where
  ipv4 : ueIp.ipv4Addr.isSome = (ueIp.ipv4 && !ueIp.chv4)
  ipv6 : ueIp.ipv6Addr.isSome = (ueIp.ipv6 && !ueIp.chv6)
  ipv6d : ueIp.ipv6PrefixDelegationBits.isSome = ueIp.ipv6d
  ip6pl : ueIp.ipv6PrefixLength.isSome = ueIp.ip6pl

lemma readsBack {ueIp : UeIpAddress} (wellFormed : ueIp.WellFormed) :
  ReadsBack id decode ueIp.encode ueIp := by
  unfold decode encode
  refine (readsBack_checkedU8 _).bind ?_
  have bits := testBit_flagsOctet (show [ueIp.ipv6, ueIp.ipv4, ueIp.sd, ueIp.ipv6d, ueIp.chv4,
    ueIp.chv6, ueIp.ip6pl].length ≤ 8 by simp)
  simp only [bits]
  exact (readsBack_addressIf wellFormed.ipv4).bind ((readsBack_addressIf wellFormed.ipv6).bind
    ((readsBack_givenIf wellFormed.ipv6d fun value _ => readsBack_checkedU8 value).bind
      (readsBack_givenIf wellFormed.ip6pl fun value _ => readsBack_checkedU8 value).last))

end UeIpAddress

lemma SourceInterface.takes (interface : SourceInterface) :
  Takes (firstOctet fun octet => tryFrom (octet &&& 0x0F)) (putU8 interface.toU8) interface := by
  apply takes_firstOctet
  cases interface <;> rfl

lemma DestinationInterface.takes (interface : DestinationInterface) :
  Takes (firstOctet fun octet => tryFrom (octet &&& 0x0F)) (putU8 interface.toU8) interface := by
  apply takes_firstOctet
  cases interface <;> rfl

namespace ApplyAction

lemma decode_encode (action : ApplyAction) : decode action.encode = action := by
  have bits := testBit_flagsWord (show [action.drop, action.forw, action.buff, action.nocp,
    action.dupl, action.ipma, action.ipmd, action.dfrt, action.edrt, action.bdpn,
    action.ddpn].length ≤ 16 by simp)
  unfold decode encode
  simp only [bits]
  rfl

lemma octets_eq (word : UInt16) :
  word.toUInt8.toUInt16 ||| (word >>> 8).toUInt8.toUInt16 <<< (8 : UInt16) = word := by
  have small : word.toNat < 2 ^ 16 := word.toNat_lt
  have low : word.toNat % 256 < 2 ^ 8 := mod_lt _ (by decide)
  have high : word.toNat / 2 ^ 8 % 256 * 2 ^ 8 % 65536 = 2 ^ 8 * (word.toNat / 2 ^ 8) := by omega
  apply UInt16.toNat_inj.mp
  simp only [UInt16.toNat_or, UInt16.toNat_shiftLeft, UInt8.toNat_toUInt16, UInt16.toNat_toUInt8,
    UInt16.toNat_shiftRight, UInt16.toNat_ofNat, reducePow, reduceMod]
  rw [shiftRight_eq_div_pow, shiftLeft_eq, high, Nat.or_comm, ← two_pow_add_eq_or_of_lt low]
  exact div_add_mod _ _

lemma decodeIe_encodeIe (action : ApplyAction) : decodeIe action.encodeIe.value = action := by
  unfold decodeIe encodeIe encodeBytesIe
  simp only [List.getElem?_cons_zero, List.getElem?_cons_succ, Option.getD_some, octets_eq,
    decode_encode]

end ApplyAction

namespace OuterHeaderRemoval

lemma ofU8_toU8 (description : OuterHeaderRemovalDescription) :
  OuterHeaderRemovalDescription.ofU8 description.toU8 = description := by
  cases description <;> rfl

lemma gives (removal : OuterHeaderRemoval) : Gives decode removal.encode removal := by
  obtain ⟨description, container⟩ := removal
  refine Gives.bind (readsBack_checkedU8 _) ?_
  cases container with
  | false =>
    refine ⟨[], (Reading.bind_eq (ifLeft_nil Nat.one_pos)).trans ?_⟩
    rw [ofU8_toU8]
    rfl
  | true =>
    have read : ReadsBack id (ifLeft 1 0 getU8 : Decoding UInt8) (putU8 1) 1 :=
      readsBack_ifLeft (readsBack_getU8 1) (by simp)
    rw [ofU8_toU8]
    exact read.last.gives

end OuterHeaderRemoval

namespace OuterHeaderCreation

structure WellFormed (creation : OuterHeaderCreation) : Prop where
  teid : creation.teid.isSome =
    (creation.description.gtpuUdpIpv4 || creation.description.gtpuUdpIpv6)
  ipv4 : creation.ipv4Addr.isSome = (creation.description.gtpuUdpIpv4 ||
    creation.description.udpIpv4 || creation.description.ipv4)
  ipv6 : creation.ipv6Addr.isSome = (creation.description.gtpuUdpIpv6 ||
    creation.description.udpIpv6 || creation.description.ipv6)
  portNumber : creation.portNumber.isSome =
    (creation.description.udpIpv4 || creation.description.udpIpv6)
  cTag : creation.cTag.isSome = creation.description.cTag
  sTag : creation.sTag.isSome = creation.description.sTag

lemma describe_flags (description : OuterHeaderCreationDescription) :
  describe (flagsWord (flags description)) = description := by
  have bits := testBit_flagsWord (show (flags description).length ≤ 16 from le_rfl)
  unfold describe
  simp only [bits]
  rfl

lemma readsBack_decodeTag {present : Bool} {tag : Option (Vector UInt8 3)}
  (agrees : tag.isSome = present) :
  ReadsBack id (decodeTag present) (putSome Vector.toList tag) tag := by
  subst agrees
  cases tag with
  | none => exact ReadsBack.pure none
  | some tag =>
    exact readsBack_ifLeft (readsBack_copyToSlice tag).last Vector.length_toList.ge

lemma readsBack {creation : OuterHeaderCreation} (wellFormed : creation.WellFormed) :
  ReadsBack id decode creation.encode creation := by
  unfold decode encode
  refine (readsBack_checkedU16 _).bind ?_
  simp only [describe_flags]
  exact (readsBack_givenIf wellFormed.teid fun value _ => readsBack_checkedU32 value).bind
    ((readsBack_addressIf wellFormed.ipv4).bind ((readsBack_addressIf wellFormed.ipv6).bind
      ((readsBack_givenIf wellFormed.portNumber fun value _ => readsBack_checkedU16 value).bind
        ((readsBack_decodeTag wellFormed.cTag).bind (readsBack_decodeTag wellFormed.sTag).last))))

end OuterHeaderCreation

lemma GateStatus.decode_encode (status : GateStatus) : decode status.encode = status := by
  obtain ⟨ulGate, dlGate⟩ := status
  cases ulGate <;> cases dlGate <;> rfl

namespace Bitrate

variable {rate : UInt64}

structure WellFormed (rate : Bitrate) : Prop where
  uplink : rate.uplink.toNat % 1000 = 0 ∧ rate.uplink.toNat / 1000 < 2 ^ 40
  downlink : rate.downlink.toNat % 1000 = 0 ∧ rate.downlink.toNat / 1000 < 2 ^ 40

lemma toNat_toKbps (whole : rate.toNat % 1000 = 0) : (toKbps rate).toNat = rate.toNat / 1000 := by
  have zero : rate % 1000 = 0 := UInt64.toNat_inj.mp whole
  rw [toKbps, if_pos zero]
  simp

lemma toKbps_mul (whole : rate.toNat % 1000 = 0) : toKbps rate * 1000 = rate := by
  have small : rate.toNat < 2 ^ 64 := rate.toNat_lt
  apply UInt64.toNat_inj.mp
  rw [UInt64.toNat_mul, toNat_toKbps whole]
  simp only [UInt64.toNat_ofNat, reducePow, reduceMod]
  omega

lemma fortyBits_eq {kbps : UInt64} (small : kbps.toNat < 2 ^ 40) :
  ((kbps >>> 32).toUInt8.toUInt64 <<< 32) ||| kbps.toUInt32.toUInt64 = kbps := by
  have low : kbps.toNat % 4294967296 < 2 ^ 32 := mod_lt _ (by decide)
  have high : kbps.toNat / 2 ^ 32 % 256 * 2 ^ 32 % 18446744073709551616 =
      2 ^ 32 * (kbps.toNat / 2 ^ 32) := by omega
  apply UInt64.toNat_inj.mp
  simp only [UInt64.toNat_or, UInt64.toNat_shiftLeft, UInt8.toNat_toUInt64, UInt64.toNat_toUInt8,
    UInt64.toNat_shiftRight, UInt64.toNat_ofNat, UInt64.toNat_toUInt32, UInt32.toNat_toUInt64,
    reducePow, reduceMod]
  rw [shiftRight_eq_div_pow, shiftLeft_eq, high, ← two_pow_add_eq_or_of_lt low]
  exact div_add_mod _ _

lemma readsBack_getKbps (good : rate.toNat % 1000 = 0 ∧ rate.toNat / 1000 < 2 ^ 40) :
  ReadsBack id getKbps (putKbps (toKbps rate)) (toKbps rate) := by
  have small : (toKbps rate).toNat < 2 ^ 40 := by
    rw [toNat_toKbps good.1]
    exact good.2
  have reads : ReadsBack id getKbps (putKbps (toKbps rate)) _ :=
    (readsBack_getU8 _).bind (readsBack_getU32 _).last
  rwa [fortyBits_eq small] at reads

lemma readsBack {rate : Bitrate} (wellFormed : rate.WellFormed) :
  ReadsBack id decode rate.encode rate := by
  have same : (⟨toKbps rate.uplink * 1000, toKbps rate.downlink * 1000⟩ : Bitrate) = rate := by
    rw [toKbps_mul wellFormed.uplink.1, toKbps_mul wellFormed.downlink.1]
  unfold decode encode
  refine ReadsBack.require ?_ ?_
  · conv_rhs => rw [← same]
    exact (readsBack_getKbps wellFormed.uplink).bind (readsBack_getKbps wellFormed.downlink).last
  · simp only [putKbps, List.length_append, length_beOctets]
    omega

end Bitrate

lemma readsBack_countIf {present : Bool} {count : UInt64} (absent : present = false → count = 0) :
  ReadsBack id (countIf present) (putIf present (putU64 count)) count :=
  readsBack_orElse (readsBack_checked (readsBack_getU64 count) (by simp)) absent

namespace VolumeThreshold

structure WellFormed (threshold : VolumeThreshold) : Prop where
  total : threshold.tovol = false → threshold.totalVolume = 0
  uplink : threshold.ulvol = false → threshold.uplinkVolume = 0
  downlink : threshold.dlvol = false → threshold.downlinkVolume = 0

lemma readsBack {threshold : VolumeThreshold} (wellFormed : threshold.WellFormed) :
  ReadsBack id decode threshold.encode threshold := by
  unfold decode encode
  refine (readsBack_checkedU8 _).bind ?_
  have bits := testBit_flagsOctet
    (show [threshold.tovol, threshold.ulvol, threshold.dlvol].length ≤ 8 by simp)
  simp only [bits]
  exact (readsBack_countIf wellFormed.total).bind ((readsBack_countIf wellFormed.uplink).bind
    (readsBack_countIf wellFormed.downlink).last)

end VolumeThreshold

namespace VolumeMeasurement

structure WellFormed (measurement : VolumeMeasurement) : Prop where
  total : measurement.tovol = false → measurement.totalVolume = 0
  uplink : measurement.ulvol = false → measurement.uplinkVolume = 0
  downlink : measurement.dlvol = false → measurement.downlinkVolume = 0
  totalPackets : measurement.tonop = false → measurement.totalNPackets = 0
  uplinkPackets : measurement.ulnop = false → measurement.uplinkNPackets = 0
  downlinkPackets : measurement.dlnop = false → measurement.downlinkNPackets = 0

lemma readsBack {measurement : VolumeMeasurement} (wellFormed : measurement.WellFormed) :
  ReadsBack id decode measurement.encode measurement := by
  unfold decode encode
  refine (readsBack_checkedU8 _).bind ?_
  have bits := testBit_flagsOctet (show [measurement.tovol, measurement.ulvol,
    measurement.dlvol, measurement.tonop, measurement.ulnop, measurement.dlnop].length ≤ 8 by simp)
  simp only [bits]
  exact (readsBack_countIf wellFormed.total).bind ((readsBack_countIf wellFormed.uplink).bind
    ((readsBack_countIf wellFormed.downlink).bind ((readsBack_countIf wellFormed.totalPackets).bind
        ((readsBack_countIf wellFormed.uplinkPackets).bind
          (readsBack_countIf wellFormed.downlinkPackets).last))))

end VolumeMeasurement

lemma ReportingTriggers.decode_encode (triggers : ReportingTriggers) :
  decode triggers.encode = .ok triggers := by
  have first := testBit_flagsOctet (show [triggers.perio, triggers.volth, triggers.timth,
    triggers.quhti, triggers.start, triggers.stopt, triggers.droth, triggers.liusa].length ≤ 8
      by simp)
  have second := testBit_flagsOctet (show [triggers.volqu, triggers.timqu, triggers.envcl,
    triggers.macar, triggers.eveth, triggers.evequ, triggers.ipmjl, triggers.quvti].length ≤ 8
      by simp)
  have third := testBit_flagsOctet (show [triggers.reemr, triggers.upint].length ≤ 8 by simp)
  unfold decode encode
  simp only [octetOrZero_eq]
  rw [if_neg (by simp)]
  refine congrArg Except.ok ?_
  simp only [List.getD_cons_zero, List.getD_cons_succ, first, second, third]

lemma ReportType.decode_encode (report : ReportType) : decode report.encode = report := by
  have bits := testBit_flagsOctet (show [report.dldr, report.usar, report.erir, report.upir,
    report.tmir, report.sesr, report.uisr].length ≤ 8 by simp)
  unfold decode encode
  simp only [bits]
  rfl

lemma MeasurementMethod.decode_encode (method : MeasurementMethod) :
  decode method.encode = method := by
  have bits := testBit_flagsOctet (show [method.durat, method.volum, method.event].length ≤ 8
    by simp)
  unfold decode encode
  simp only [bits]
  rfl

lemma UpFunctionFeatures.gives (features : UpFunctionFeatures) :
  Gives decode features.encode features := by
  have bits (f0 f1 f2 f3 f4 f5 f6 f7 : Bool) :=
    testBit_flagsOctet (show [f0, f1, f2, f3, f4, f5, f6, f7].length ≤ 8 by simp)
  have last := testBit_flagsOctet (show [features.drqos, features.mbsn4, features.psuprm,
    features.eppi].length ≤ 8 by simp)
  have seventh (octet : UInt8) :
      ReadsBack id (ifLeft 1 0 getU8 : Decoding UInt8) (putU8 octet) octet :=
    readsBack_ifLeft (readsBack_getU8 octet) (by simp)
  unfold decode
  refine Gives.require ?_ (by simp [encode])
  refine Gives.bind (readsBack_getU8 _) (Gives.bind (readsBack_getU8 _)
    (Gives.bind (readsBack_getU8 _) (Gives.bind (readsBack_getU8 _)
      (Gives.bind (readsBack_getU8 _) (Gives.bind (readsBack_getU8 _)
        (Gives.bind (seventh _) ⟨putU8 0, ?_⟩))))))
  simp only [bits, last]
  rfl

lemma CpFunctionFeatures.decode_encode (features : CpFunctionFeatures) :
  decode features.encode = .ok features := by
  have first := testBit_flagsOctet (show [features.load, features.ovrl, features.epfar,
    features.sset, features.bundl, features.mpas, features.ardr, features.uiaur].length ≤ 8 by simp)
  have second := testBit_flagsOctet (show [features.psucc].length ≤ 8 by simp)
  unfold decode encode firstOf
  simp only [octetOrZero_eq]
  refine congrArg Except.ok ?_
  simp only [List.getD_cons_zero, List.getD_cons_succ, first, second]

end NextGCore.Pfcp
