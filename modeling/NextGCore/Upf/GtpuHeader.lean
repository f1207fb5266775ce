import NextGCore.Library.Buffer
import NextGCore.Upf.DataPlane

/-!
# GTP-U headers

The parser of the tunnel's headers, the walker that looks for the QoS flow of a packet on its own,
and the builder of the header of a downlink packet.
-/

namespace NextGCore.Upf

open Library PacketTuple

namespace GtpuMsgType

def ECHO_REQUEST : UInt8 := 1

def ECHO_RESPONSE : UInt8 := 2

def ERROR_INDICATION : UInt8 := 26

def END_MARKER : UInt8 := 254

def GPDU : UInt8 := 255

end GtpuMsgType

inductive GtpPathError where
  | packetTooShort
  | invalidVersion (version : UInt8)

structure GtpuHeaderDesc where
  msgType : UInt8
  teid : UInt32
  seqNum : Option UInt16
  qfi : Option UInt8
  /-- Total header length in bytes (including optional fields and extensions) -/
  headerLen : ℕ

def PDU_SESSION_CONTAINER : UInt8 := 0x85

/-- The QFI of the last container, and the end of the extension headers from `offset` on; every
turn takes four octets or more. -/
def walkExtensions (data : Bytes) : ℕ → UInt8 → ℕ → Option UInt8 → Option UInt8 × ℕ
  | 0, _, offset, qfi => (qfi, offset)
  | fuel + 1, nextExt, offset, qfi =>
    if nextExt ≠ 0 ∧ offset < data.length then
      let extLen := (data.getD offset 0).toNat * 4
      if extLen = 0 ∨ data.length < offset + extLen then (qfi, offset)
      else
        let qfi :=
          if nextExt = PDU_SESSION_CONTAINER then some (data.getD (offset + 1) 0 &&& 0x3F)
          else qfi
        walkExtensions data fuel (data.getD (offset + extLen - 1) 0) (offset + extLen) qfi
    else (qfi, offset)

def parseGtpuHeader (data : Bytes) : Except GtpPathError GtpuHeaderDesc :=
  if data.length < 8 then .error .packetTooShort
  else
    let flags := data.getD 0 0
    let version := flags >>> 5 &&& 0x07
    if version ≠ 1 then .error (.invalidVersion version)
    else
      let msgType := data.getD 1 0
      let teid := addressAt data 4
      if flags &&& 0x07 ≠ 0 then
        if data.length < 12 then .error .packetTooShort
        else
          let walked :=
            if flags &&& 0x04 ≠ 0 then walkExtensions data data.length (data.getD 11 0) 12 none
            else (none, 12)
          .ok ⟨msgType, teid, some (portAt data 8), walked.1, walked.2⟩
      else .ok ⟨msgType, teid, none, none, 8⟩

def extractQfiFrom (data : Bytes) : ℕ → UInt8 → ℕ → Option UInt8
  | 0, _, _ => none
  | fuel + 1, nextExt, offset =>
    if nextExt ≠ 0 ∧ offset < data.length then
      let extLen := (data.getD offset 0).toNat * 4
      if extLen = 0 ∨ data.length < offset + extLen then none
      else if nextExt = PDU_SESSION_CONTAINER then some (data.getD (offset + 2) 0 &&& 0x3F)
      else extractQfiFrom data fuel (data.getD (offset + extLen - 1) 0) (offset + extLen)
    else none

def extractQfiFromGtpHeader (data : Bytes) : Option UInt8 :=
  if data.length < 12 ∨ data.getD 0 0 &&& 0x04 = 0 then none
  else extractQfiFrom data data.length (data.getD 11 0) 12

structure DlPduSessionInformation where
  qfi : UInt8
  rqi : Bool
  ppi : Option UInt8
  dlSendingTimestamp : Option UInt64
  dlQfiSequenceNumber : Option UInt32

namespace DlPduSessionInformation

variable (information : DlPduSessionInformation)

def dl (qfi : UInt8) : DlPduSessionInformation := ⟨qfi &&& 0x3F, false, none, none, none⟩

def octet0 : UInt8 :=
  (information.dlSendingTimestamp.isSome.toUInt8 <<< (3 : UInt8)) |||
    (information.dlQfiSequenceNumber.isSome.toUInt8 <<< (2 : UInt8))

def octet1 : UInt8 :=
  (information.ppi.isSome.toUInt8 <<< (7 : UInt8)) |||
    (information.rqi.toUInt8 <<< (6 : UInt8)) ||| (information.qfi &&& 0x3F)

def encodeContent : Bytes :=
  [information.octet0, information.octet1] ++
    (information.ppi.toList.map fun ppi => (ppi &&& 0x07) <<< (5 : UInt8)) ++
    (information.dlSendingTimestamp.toList.flatMap fun stamp => beOctets 8 stamp.toNat) ++
    (information.dlQfiSequenceNumber.toList.flatMap fun number => (toBeU32 number).drop 1)

end DlPduSessionInformation

structure Gtp1ExtHeader where
  extType : UInt8
  content : Bytes

namespace Gtp1ExtHeader

variable (header : Gtp1ExtHeader)

/-- Zeroes up to a multiple of four octets, with the octets of length and of type counted. -/
def new (extType : UInt8) (content : Bytes) : Gtp1ExtHeader :=
  ⟨extType, content ++ List.replicate ((4 - (content.length + 2) % 4) % 4) 0⟩

def pduSessionContainer (container : DlPduSessionInformation) : Gtp1ExtHeader :=
  new PDU_SESSION_CONTAINER container.encodeContent

def lengthUnits : UInt8 := UInt8.ofNat ((header.content.length + 2) / 4)

def encodedLen : ℕ := header.content.length + 2

def encode (nextType : UInt8) : Bytes :=
  header.lengthUnits :: (header.content ++ [nextType])

end Gtp1ExtHeader

/-- The sum of lengths is one of sixteen bits: `none` when it overflows. -/
def buildGtpuHeaderWithQfi (teid : UInt32) (payloadLen : UInt16) (qfi : UInt8) : Option Bytes :=
  let ext := Gtp1ExtHeader.pduSessionContainer (.dl qfi)
  let totalLen := 4 + ext.encodedLen + payloadLen.toNat
  if totalLen < 2 ^ 16 then
    some ([0x34, GtpuMsgType.GPDU] ++ toBeU16 (UInt16.ofNat totalLen) ++ toBeU32 teid ++
      [0, 0, 0, ext.extType] ++ ext.encode 0)
  else none

def buildGtpuHeader (teid : UInt32) (payloadLen : UInt16) : Bytes :=
  [0x30, GtpuMsgType.GPDU] ++ toBeU16 payloadLen ++ toBeU32 teid

def encapsulateDlGpdu (innerIp : Bytes) (teid : UInt32) (qfi : Option UInt8) : Option Bytes :=
  match qfi with
  | some qfi =>
    (buildGtpuHeaderWithQfi teid (UInt16.ofNat innerIp.length) qfi).map (· ++ innerIp)
  | none => some (buildGtpuHeader teid (UInt16.ofNat innerIp.length) ++ innerIp)

/-!
## The readers of a GTP-U header, compared

Both walkers follow the same chain of extension headers.  The parser takes the QFI from the octet
after the length of a container and keeps the last one; the other walker takes it one octet further
on, where the builder puts it, and stops at the first.
-/

variable {inner : Bytes} {data : Bytes} {header : GtpuHeaderDesc}

structure Extension where
  kind : UInt8
  offset : ℕ

structure ExtensionWhole (data : Bytes) (offset : ℕ) : Prop where
  inside : offset < data.length
  nonempty : (data.getD offset 0).toNat * 4 ≠ 0
  fits : offset + (data.getD offset 0).toNat * 4 ≤ data.length

/-- The extension headers from an offset on, up to the first that is not whole. -/
inductive Chain (data : Bytes) : UInt8 → ℕ → List Extension → Prop
  | ends {nextExt : UInt8} {offset : ℕ} (stops : nextExt = 0 ∨ ¬ ExtensionWhole data offset) :
      Chain data nextExt offset []
  | more {nextExt : UInt8} {offset : ℕ} {rest : List Extension} (named : nextExt ≠ 0)
      (whole : ExtensionWhole data offset)
      (later : Chain data (data.getD (offset + (data.getD offset 0).toNat * 4 - 1) 0)
        (offset + (data.getD offset 0).toNat * 4) rest) :
      Chain data nextExt offset (⟨nextExt, offset⟩ :: rest)

def containers (extensions : List Extension) : List Extension :=
  extensions.filter fun extension => extension.kind = PDU_SESSION_CONTAINER

lemma containers_cons (kind : UInt8) (offset : ℕ) (rest : List Extension) :
  containers (⟨kind, offset⟩ :: rest) =
    if kind = PDU_SESSION_CONTAINER then ⟨kind, offset⟩ :: containers rest
    else containers rest := by
  simp [containers, List.filter_cons]

lemma exists_chain (data : Bytes) (nextExt : UInt8) (offset : ℕ) :
  ∃ extensions, Chain data nextExt offset extensions := by
  induction remaining : data.length - offset using Nat.strong_induction_on
    generalizing nextExt offset with
  | _ count ih =>
    by_cases stops : nextExt = 0 ∨ ¬ ExtensionWhole data offset
    · exact ⟨[], .ends stops⟩
    · rw [not_or, not_not] at stops
      have nonempty := stops.2.nonempty
      have inside := stops.2.inside
      have shorter : data.length - (offset + (data.getD offset 0).toNat * 4) < count := by
        omega
      obtain ⟨rest, later⟩ := ih _ shorter _ _ rfl
      exact ⟨_, .more stops.1 stops.2 later⟩

section Walkers

variable {data : Bytes} {nextExt : UInt8} {offset : ℕ} {extensions : List Extension} {fuel : ℕ}

lemma cut_of_stops (stops : nextExt = 0 ∨ ¬ ExtensionWhole data offset)
  (continues : nextExt ≠ 0 ∧ offset < data.length) :
  (data.getD offset 0).toNat * 4 = 0 ∨
    data.length < offset + (data.getD offset 0).toNat * 4 := by
  by_contra read
  rw [not_or, not_lt] at read
  exact stops.elim continues.1 fun cut => cut ⟨continues.2, read.1, read.2⟩

lemma ExtensionWhole.continues (whole : ExtensionWhole data offset) :
  ¬ ((data.getD offset 0).toNat * 4 = 0 ∨
    data.length < offset + (data.getD offset 0).toNat * 4) := by
  rw [not_or, not_lt]
  exact ⟨whole.nonempty, whole.fits⟩

section

variable (chain : Chain data nextExt offset extensions) (enough : data.length ≤ offset + fuel)

include chain enough

lemma walkExtensions_of_chain (qfi : Option UInt8) :
  (walkExtensions data fuel nextExt offset qfi).1 =
    ((containers extensions).getLast?.map fun container =>
      data.getD (container.offset + 1) 0 &&& 0x3F).or qfi := by
  induction chain generalizing fuel qfi with
  | @ends nextExt offset stops =>
    cases fuel with
    | zero => rfl
    | succ fuel =>
      rw [walkExtensions]
      by_cases continues : nextExt ≠ 0 ∧ offset < data.length
      · simp only [if_pos continues, if_pos (cut_of_stops stops continues)]
        rfl
      · rw [if_neg continues]
        rfl
  | @more nextExt offset rest named whole later ih =>
    have inside := whole.inside
    have nonempty := whole.nonempty
    obtain ⟨fuel, rfl⟩ : ∃ smaller, fuel = smaller + 1 := ⟨fuel - 1, by omega⟩
    rw [walkExtensions, if_pos ⟨named, inside⟩]
    simp only [if_neg whole.continues]
    rw [ih (by omega), containers_cons]
    by_cases isContainer : nextExt = PDU_SESSION_CONTAINER
    · rw [if_pos isContainer, if_pos isContainer, List.getLast?_cons]
      cases (containers rest).getLast? with
      | none => rfl
      | some last => rfl
    · rw [if_neg isContainer, if_neg isContainer]

lemma extractQfiFrom_of_chain :
  extractQfiFrom data fuel nextExt offset = (containers extensions).head?.map fun container =>
      data.getD (container.offset + 2) 0 &&& 0x3F := by
  induction chain generalizing fuel with
  | @ends nextExt offset stops =>
    cases fuel with
    | zero => rfl
    | succ fuel =>
      rw [extractQfiFrom]
      by_cases continues : nextExt ≠ 0 ∧ offset < data.length
      · simp only [if_pos continues, if_pos (cut_of_stops stops continues)]
        rfl
      · rw [if_neg continues]
        rfl
  | @more nextExt offset rest named whole later ih =>
    have inside := whole.inside
    have nonempty := whole.nonempty
    obtain ⟨fuel, rfl⟩ : ∃ smaller, fuel = smaller + 1 := ⟨fuel - 1, by omega⟩
    rw [extractQfiFrom, if_pos ⟨named, inside⟩, containers_cons]
    simp only [if_neg whole.continues]
    by_cases isContainer : nextExt = PDU_SESSION_CONTAINER
    · rw [if_pos isContainer, if_pos isContainer]
      rfl
    · rw [if_neg isContainer, if_neg isContainer]
      exact ih (by omega)

end

end Walkers

/-- The octet that the one walker takes of the first container and the octet that the parser takes
of the last one have the same low six bits. -/
def QfiOctetsAgree (data : Bytes) : Prop :=
  data.getD 0 0 &&& 0x04 ≠ 0 → ∀ extensions, Chain data (data.getD 11 0) 12 extensions →
    ∀ first last, (containers extensions).head? = some first →
      (containers extensions).getLast? = some last →
      data.getD (last.offset + 1) 0 &&& 0x3F = data.getD (first.offset + 2) 0 &&& 0x3F

lemma parseGtpuHeader_qfi (accepted : parseGtpuHeader data = .ok header) :
  (data.getD 0 0 &&& 0x04 = 0 ∧ header.qfi = none) ∨
    (data.getD 0 0 &&& 0x04 ≠ 0 ∧ 12 ≤ data.length ∧
      header.qfi = (walkExtensions data data.length (data.getD 11 0) 12 none).1) := by
  unfold parseGtpuHeader at accepted
  simp only at accepted
  -- the extension flag is one of the three that announce the optional octets
  have oneOfThree : ∀ flags : UInt8, flags &&& 0x07 = 0 → flags &&& 0x04 = 0 := by
    intro flags unset
    have within : (0x04 : UInt8) = 0x07 &&& 0x04 := by decide
    rw [within, ← UInt8.and_assoc, unset, UInt8.zero_and]
  split_ifs at accepted with short version optional cut extended
  · cases accepted
    exact .inr ⟨extended, not_lt.mp cut, rfl⟩
  · cases accepted
    exact .inl ⟨not_not.mp extended, rfl⟩
  · cases accepted
    exact .inl ⟨oneOfThree _ (not_not.mp optional), rfl⟩

lemma qfi_eq_extract_iff (accepted : parseGtpuHeader data = .ok header) :
  header.qfi = extractQfiFromGtpHeader data ↔ QfiOctetsAgree data := by
  rcases parseGtpuHeader_qfi accepted with ⟨plain, unknown⟩ | ⟨extended, long, walked⟩
  · have unread : extractQfiFromGtpHeader data = none := if_pos (.inr plain)
    rw [unknown, unread]
    exact ⟨fun _ extended => absurd plain extended, fun _ => rfl⟩
  · have reads : ¬ (data.length < 12 ∨ data.getD 0 0 &&& 0x04 = 0) := by
      rw [not_or, not_lt]
      exact ⟨long, extended⟩
    have enough : data.length ≤ 12 + data.length := Nat.le_add_left _ _
    have parsed : ∀ extensions, Chain data (data.getD 11 0) 12 extensions →
        header.qfi = (containers extensions).getLast?.map fun container =>
          data.getD (container.offset + 1) 0 &&& 0x3F := by
      intro extensions chain
      rw [walked, walkExtensions_of_chain chain enough, Option.or_none]
    have extracted : ∀ extensions, Chain data (data.getD 11 0) 12 extensions →
        extractQfiFromGtpHeader data = (containers extensions).head?.map fun container =>
          data.getD (container.offset + 2) 0 &&& 0x3F := by
      intro extensions chain
      rw [extractQfiFromGtpHeader, if_neg reads, extractQfiFrom_of_chain chain enough]
    constructor
    · intro same _ extensions chain first last isFirst isLast
      rw [parsed extensions chain, extracted extensions chain, isFirst, isLast] at same
      exact Option.some.inj same
    · intro agree
      obtain ⟨extensions, chain⟩ := exists_chain data (data.getD 11 0) 12
      rw [parsed extensions chain, extracted extensions chain]
      cases carried : containers extensions with
      | nil => rfl
      | cons first rest =>
        have isFirst : (containers extensions).head? = some first := by rw [carried]; rfl
        have isLast : (containers extensions).getLast? = some (rest.getLast?.getD first) := by
          rw [carried, List.getLast?_cons]
        rw [List.head?_cons, List.getLast?_cons]
        exact congrArg some (agree extended extensions chain first _ isFirst isLast)

lemma encapsulateDlGpdu_eq (fits : inner.length ≤ 65527) (teid : UInt32) (qfi : UInt8) :
  ∃ high low : UInt8, encapsulateDlGpdu inner teid (some qfi) =
    some (0x34 :: 255 :: high :: low :: (teid >>> 24).toUInt8 :: (teid >>> 16).toUInt8 ::
      (teid >>> 8).toUInt8 :: teid.toUInt8 :: 0 :: 0 :: 0 :: PDU_SESSION_CONTAINER ::
      1 :: 0 :: (DlPduSessionInformation.dl qfi).octet1 :: 0 :: inner) := by
  -- two octets of content need no padding
  have octet0 : (DlPduSessionInformation.dl qfi).octet0 = 0 := by
    change (false.toUInt8 <<< (3 : UInt8)) ||| (false.toUInt8 <<< (2 : UInt8)) = 0
    decide
  have content : Gtp1ExtHeader.pduSessionContainer (.dl qfi) =
      ⟨PDU_SESSION_CONTAINER, [0, (DlPduSessionInformation.dl qfi).octet1]⟩ := by
    have frame : (DlPduSessionInformation.dl qfi).encodeContent =
        [0, (DlPduSessionInformation.dl qfi).octet1] := by
      rw [DlPduSessionInformation.encodeContent, octet0]
      rfl
    simp [Gtp1ExtHeader.pduSessionContainer, Gtp1ExtHeader.new, frame]
  have encodedLen : (Gtp1ExtHeader.pduSessionContainer (.dl qfi)).encodedLen = 4 := by
    rw [content]
    rfl
  have encoded : (Gtp1ExtHeader.pduSessionContainer (.dl qfi)).encode 0 =
      [1, 0, (DlPduSessionInformation.dl qfi).octet1, 0] := by
    simp [content, Gtp1ExtHeader.encode, Gtp1ExtHeader.lengthUnits]
  have small : (UInt16.ofNat inner.length).toNat = inner.length := by
    rw [UInt16.toNat_ofNat']
    omega
  have room : 4 + 4 + inner.length < 2 ^ 16 := by omega
  unfold encapsulateDlGpdu buildGtpuHeaderWithQfi
  simp only [encodedLen, small, if_pos room, encoded, Option.map_some]
  rw [content]
  exact ⟨_, _, rfl⟩

lemma parseGtpuHeader_encapsulate {pkt : Bytes} (fits : inner.length ≤ 65527) (teid : UInt32)
  (qfi : UInt8) (built : encapsulateDlGpdu inner teid (some qfi) = some pkt) :
  ∃ header, parseGtpuHeader pkt = .ok header ∧ header.teid = teid ∧
    pkt.drop header.headerLen = inner ∧ header.qfi = some 0 := by
  obtain ⟨high, low, octets⟩ := encapsulateDlGpdu_eq fits teid qfi
  cases built.symm.trans octets
  generalize (DlPduSessionInformation.dl qfi).octet1 = octet1
  generalize packetIs : (0x34 :: 255 :: high :: low :: (teid >>> 24).toUInt8 ::
    (teid >>> 16).toUInt8 :: (teid >>> 8).toUInt8 :: teid.toUInt8 :: 0 :: 0 :: 0 ::
    PDU_SESSION_CONTAINER :: 1 :: 0 :: octet1 :: 0 :: inner : Bytes) = pkt
  have long : 16 ≤ pkt.length := by
    simp only [← packetIs, List.length_cons]
    omega
  have flags : pkt.getD 0 0 = 0x34 := by rw [← packetIs]; rfl
  have nextExt : pkt.getD 11 0 = PDU_SESSION_CONTAINER := by rw [← packetIs]; rfl
  have units : pkt.getD 12 0 = 1 := by rw [← packetIs]; rfl
  have frame : pkt.getD 13 0 = 0 := by rw [← packetIs]; rfl
  have noMore : pkt.getD 15 0 = 0 := by rw [← packetIs]; rfl
  have teidRead : addressAt pkt 4 = teid := by
    rw [← packetIs]
    exact beU32_octets teid
  have walked : walkExtensions pkt pkt.length (pkt.getD 11 0) 12 none = (some 0, 16) := by
    obtain ⟨fuel, isFuel⟩ : ∃ fuel, pkt.length = fuel + 2 := ⟨pkt.length - 2, by omega⟩
    have named : PDU_SESSION_CONTAINER ≠ 0 ∧ 12 < pkt.length := ⟨by decide, by omega⟩
    have whole : ¬ (4 = 0 ∨ pkt.length < 12 + 4) := by
      rw [not_or, not_lt]
      exact ⟨by decide, long⟩
    have four : (1 : UInt8).toNat * 4 = 4 := rfl
    have nothing : (0x00 : UInt8) &&& 0x3F = 0 := by decide
    rw [nextExt, isFuel, walkExtensions, if_pos named, units]
    simp only [four, if_neg whole, frame, nothing, noMore, if_true]
    rw [walkExtensions, if_neg (fun (continues : (0 : UInt8) ≠ 0 ∧ _) => continues.1 rfl)]
  refine ⟨⟨pkt.getD 1 0, teid, some (portAt pkt 8), some 0, 16⟩, ?_, rfl, ?_, rfl⟩
  · have optional : (0x34 : UInt8) &&& 0x07 ≠ 0 := by decide
    have extended : (0x34 : UInt8) &&& 0x04 ≠ 0 := by decide
    have version : ¬ ((0x34 : UInt8) >>> 5 &&& 0x07 ≠ 1) := by decide
    unfold parseGtpuHeader
    simp only [flags, if_neg version, if_pos optional, if_pos extended, walked, teidRead]
    rw [if_neg (by omega), if_neg (by omega)]
  · rw [← packetIs]
    rfl

def RoundTrips (inner : Bytes) (teid : UInt32) (qfi : UInt8) : Prop :=
  ∃ pkt header, encapsulateDlGpdu inner teid (some qfi) = some pkt ∧
    parseGtpuHeader pkt = .ok header ∧ header.teid = teid ∧
    pkt.drop header.headerLen = inner ∧ header.qfi = some qfi

lemma roundTrips_qfi_iff (fits : inner.length ≤ 65527) (teid : UInt32) (qfi : UInt8) :
  RoundTrips inner teid qfi ↔ qfi = 0 := by
  obtain ⟨high, low, octets⟩ := encapsulateDlGpdu_eq fits teid qfi
  obtain ⟨header, parsed, sameTeid, sameInner, zero⟩ :=
    parseGtpuHeader_encapsulate fits teid qfi octets
  constructor
  · rintro ⟨pkt, other, built, parsedToo, -, -, kept⟩
    cases octets.symm.trans built
    cases parsed.symm.trans parsedToo
    exact Option.some.inj (kept.symm.trans zero)
  · rintro rfl
    exact ⟨_, header, octets, parsed, sameTeid, sameInner, zero⟩

/-- The parser and the builder agree on QFI 0 only, and the two walkers on the packets in which
the octets that they take agree. -/
theorem gtpuHeaders_agree_iff {inner data : Bytes} (fits : inner.length ≤ 65527)
  (teid : UInt32) (qfi : UInt8) {header : GtpuHeaderDesc}
  (accepted : parseGtpuHeader data = .ok header) :
  (RoundTrips inner teid qfi ∧ header.qfi = extractQfiFromGtpHeader data) ↔
    qfi = 0 ∧ QfiOctetsAgree data :=
  and_congr (roundTrips_qfi_iff fits teid qfi) (qfi_eq_extract_iff accepted)

/-- A container with one number in both of its octets. -/
def contained : Bytes := [0x34, 255, 0, 8, 0, 0, 0, 1, 0, 0, 0, 0x85, 1, 9, 9, 0]

theorem gtpuHeaders_agree_plain :
  (RoundTrips [0x45] 1 0 ∧ some 9 = extractQfiFromGtpHeader contained) ↔
    (0 : UInt8) = 0 ∧ QfiOctetsAgree contained := by
  have accepted : parseGtpuHeader contained = .ok ⟨255, 1, some 0, some 9, 16⟩ := by
    with_unfolding_all rfl
  exact gtpuHeaders_agree_iff (by decide) 1 0 accepted

/-- QFI 9, built and read back, and one container read by the two walkers. -/
theorem gtpuHeaders_disagree :
  (¬ ∀ inner teid qfi, qfi < 64 → inner.length ≤ 65527 → RoundTrips inner teid qfi) ∧
    ¬ ∀ data header, parseGtpuHeader data = .ok header →
      header.qfi = extractQfiFromGtpHeader data := by
  constructor
  · intro roundTrips
    have kept := (roundTrips_qfi_iff (by decide) 1 9).mp
      (roundTrips [0x45] 1 9 (by decide) (by decide))
    exact absurd kept (by decide)
  · intro agree
    have same := agree [0x34, 255, 0, 8, 0, 0, 0, 1, 0, 0, 0, 0x85, 1, 0, 9, 0] _ rfl
    exact absurd same (by decide)

end NextGCore.Upf
