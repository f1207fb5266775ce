import NextGCore.Library.OnesComplement
import NextGCore.Upf.DataPlane

/-!
# DSCP marking

`apply_dscp_to_ip_packet` writes the code point into the TOS field of an IPv4 packet, and completes
its checksum, or into the traffic class of an IPv6 packet.  The two bits below the code point carry
congestion notification.  In IPv6 the traffic class lies across two octets, and the marking takes
these two bits from where they stand in IPv4.
-/

namespace NextGCore.Upf

open Library List
open UInt8 (ofNat)

variable {first dscp : UInt8} {packet : Bytes} {place : ℕ} {csum : UInt16}

def headerLength (first : UInt8) : ℕ := (first &&& 0x0F).toNat * 4

def wordSum : ℕ → Bytes → ℕ
  | _, [] => 0
  | _, [last] => last.toNat <<< 8
  | offset, high :: low :: rest =>
    (if offset = 10 then 0 else (beU16 high low).toNat) + wordSum (offset + 2) rest

def ipv4HeaderChecksum (header : Bytes) : Option UInt16 :=
  header.head?.map fun first =>
    ~~~(UInt16.ofNat (foldCarries 16 (wordSum 0 (header.take (headerLength first)))))

def ipv4HeaderChecksumValid (packet : Bytes) : Option Bool :=
  match packet with
  | [] => some false
  | first :: _ =>
    if packet.length < 20 ∨ first >>> 4 ≠ 4 then some false
    else if headerLength first < 20 ∨ packet.length < headerLength first then some false
    else
      let stored := beU16 (packet.getD 10 0) (packet.getD 11 0)
      (ipv4HeaderChecksum (packet.take (headerLength first))).map (· == stored)

def applyDscpToIpPacket (packet : Bytes) (dscp : UInt8) : Option (Bool × Bytes) :=
  match packet with
  | [] => some (false, packet)
  | first :: _ =>
    let version := (first >>> 4) &&& 0x0F
    if version = 4 ∧ 20 ≤ packet.length then
      let ihl := headerLength first
      if ihl < 20 ∨ packet.length < ihl then some (false, packet)
      else
        let packet := packet.set 1 ((dscp <<< 2) ||| (packet.getD 1 0 &&& 0x03))
        (ipv4HeaderChecksum (packet.take ihl)).map fun (csum : UInt16) =>
          (true, (packet.set 10 (csum >>> 8).toUInt8).set 11 csum.toUInt8)
    else if version = 6 ∧ 40 ≤ packet.length then
      let tc : UInt8 := (dscp <<< 2) ||| (packet.getD 1 0 &&& 0x03)
      let packet := packet.set 0 ((first &&& 0xF0) ||| ((tc >>> (4 : UInt8)) &&& 0x0F))
      some (true, packet.set 1 (((tc &&& 0x0F) <<< 4) ||| (packet.getD 1 0 &&& 0x0F)))
    else some (false, packet)

def ipVersion (packet : Bytes) : UInt8 := packet.getD 0 0 >>> 4

/-- The TOS field of an IPv4 packet; in IPv6 four bits of the first octet and four of the second. -/
def trafficClass (packet : Bytes) : UInt8 :=
  if ipVersion packet = 6
  then ((packet.getD 0 0 &&& 0x0F) <<< 4) ||| (packet.getD 1 0 >>> 4)
  else packet.getD 1 0

def dscpOf (packet : Bytes) : UInt8 := trafficClass packet >>> 2

def ecnOf (packet : Bytes) : UInt8 := trafficClass packet &&& 0x03

def flowLabel (packet : Bytes) : UInt8 × UInt8 × UInt8 :=
  (packet.getD 1 0 &&& 0x0F, packet.getD 2 0, packet.getD 3 0)

def markedPlaces (packet : Bytes) : List ℕ :=
  if ipVersion packet = 6 then [0, 1] else [1, 10, 11]

/-- The packet differs in its code point only, and in the checksum over it. -/
structure MinimallyMarked (dscp : UInt8) (packet marked : Bytes) : Prop where
  dscp : dscpOf marked = dscp
  ecn : ecnOf marked = ecnOf packet
  version : ipVersion marked = ipVersion packet
  flow : ipVersion packet = 6 → flowLabel marked = flowLabel packet
  checksum : ipVersion packet = 4 → ipv4HeaderChecksumValid marked = some true
  frame : marked.length = packet.length ∧
    ∀ place, place ∉ markedPlaces packet → marked[place]? = packet[place]?

lemma wordSum_set {offset : ℕ} (checksum : offset + 2 * place = 10) (header : Bytes)
  (inside : 2 * place + 1 < header.length) (high low : UInt8) :
  wordSum offset ((header.set (2 * place) high).set (2 * place + 1) low) =
    wordSum offset header := by
  induction place generalizing offset header with
  | zero =>
    match header, inside with
    | first :: second :: rest, _ =>
      have atChecksum : offset = 10 := by omega
      simp [wordSum, atChecksum]
  | succ place ih =>
    match header, inside with
    | first :: second :: rest, inside =>
      have insideRest : 2 * place + 1 < rest.length := by
        simp only [length_cons] at inside
        omega
      have shifted : 2 * (place + 1) = 2 * place + 1 + 1 := by omega
      simp only [shifted, set_cons_succ, wordSum]
      rw [ih (by omega) rest insideRest]

lemma ipv4HeaderChecksum_set {header : Bytes} (head : header.head? = some first)
  (long : 12 ≤ headerLength first) (whole : 12 ≤ header.length) (high low : UInt8) :
  ipv4HeaderChecksum ((header.set 10 high).set 11 low) = ipv4HeaderChecksum header := by
  have headSet : ((header.set 10 high).set 11 low).head? = some first := by
    rw [List.head?_eq_getElem?] at head ⊢
    rw [List.getElem?_set_ne (by decide), List.getElem?_set_ne (by decide), head]
  unfold ipv4HeaderChecksum
  rw [headSet, head, Option.map_some, Option.map_some, take_set, take_set]
  have inside : 2 * 5 + 1 < (header.take (headerLength first)).length := by
    rw [length_take]
    omega
  rw [show (10 : ℕ) = 2 * 5 from rfl, show (11 : ℕ) = 2 * 5 + 1 from rfl, wordSum_set rfl _ inside]

lemma getD_set (packet : Bytes) (inside : place < packet.length) (octet : UInt8) (other : ℕ) :
  (packet.set place octet).getD other 0 =
    if place = other then octet else packet.getD other 0 := by
  rw [getD_eq_getElem?_getD, List.getElem?_set, getD_eq_getElem?_getD]
  split <;> simp

lemma ipv4HeaderChecksumValid_complete (head : packet.head? = some first)
  (version : first >>> 4 = 4) (long : 20 ≤ headerLength first)
  (whole : headerLength first ≤ packet.length)
  (completed : ipv4HeaderChecksum (packet.take (headerLength first)) = some csum) :
  ipv4HeaderChecksumValid ((packet.set 10 (csum >>> 8).toUInt8).set 11 csum.toUInt8) =
    some true := by
  generalize completedIs : (packet.set 10 (csum >>> 8).toUInt8).set 11 csum.toUInt8 = marked
  have stored : beU16 (marked.getD 10 0) (marked.getD 11 0) = csum := by
    have inside : 11 < (packet.set 10 (csum >>> 8).toUInt8).length := by
      rw [length_set]
      omega
    rw [← completedIs, getD_set _ inside, getD_set _ inside, getD_set _ (by omega)]
    exact beU16_octets csum
  have headTake : (packet.take (headerLength first)).head? = some first := by
    rw [List.head?_take, if_neg (by omega), head]
  have lengthTake : 12 ≤ (packet.take (headerLength first)).length := by
    rw [length_take]
    omega
  have checksum : ipv4HeaderChecksum (marked.take (headerLength first)) = some csum := by
    rw [← completedIs, take_set, take_set,
      ipv4HeaderChecksum_set headTake (by omega) lengthTake, completed]
  have markedLength : marked.length = packet.length := by simp [← completedIs]
  have markedHead : marked.head? = some first := by
    rw [← completedIs, List.head?_eq_getElem?, List.getElem?_set_ne (by decide),
      List.getElem?_set_ne (by decide), ← List.head?_eq_getElem?, head]
  obtain ⟨rest, rfl⟩ := List.head?_eq_some_iff.mp markedHead
  have goodLength : ¬ ((first :: rest).length < 20 ∨ first >>> 4 ≠ 4) := by
    rw [not_or, not_not]
    exact ⟨by omega, version⟩
  have goodHeader : ¬ (headerLength first < 20 ∨ (first :: rest).length < headerLength first) := by
    omega
  simp only [ipv4HeaderChecksumValid, if_neg goodLength, if_neg goodHeader, checksum, stored,
    Option.map_some, beq_self_eq_true]

lemma mark_fields (small : dscp < 64) (octet : UInt8) :
  ((dscp <<< 2) ||| (octet &&& 0x03)) >>> 2 = dscp ∧
    ((dscp <<< 2) ||| (octet &&& 0x03)) &&& 0x03 = octet &&& 0x03 := by
  have fields : ∀ point : Fin 64, ∀ ecn : Fin 4,
      ((ofNat point <<< 2) ||| ofNat ecn) >>> 2 = ofNat point ∧
        ((ofNat point <<< 2) ||| ofNat ecn) &&& 0x03 = ofNat ecn := by
    decide
  have two : (octet &&& 0x03).toNat < 4 := by
    rw [UInt8.toNat_and]
    exact Nat.and_lt_two_pow (n := 2) _ (by decide)
  simpa using fields ⟨dscp.toNat, small⟩ ⟨_, two⟩

lemma nibble_fields {high low : UInt8} (smallHigh : high < 16) (smallLow : low < 16) :
  ((high <<< (4 : UInt8)) ||| low) >>> (4 : UInt8) = high ∧
    ((high <<< (4 : UInt8)) ||| low) &&& 0x0F = low ∧
    ((high <<< (4 : UInt8)) ||| low) &&& 0x03 = low &&& 0x03 := by
  have fields : ∀ high low : Fin 16,
      ((ofNat high <<< (4 : UInt8)) ||| ofNat low) >>> (4 : UInt8) = ofNat high ∧
        ((ofNat high <<< (4 : UInt8)) ||| ofNat low) &&& 0x0F = ofNat low ∧
        ((ofNat high <<< (4 : UInt8)) ||| ofNat low) &&& 0x03 =
          ofNat low &&& 0x03 := by
    decide
  simpa using fields ⟨high.toNat, smallHigh⟩ ⟨low.toNat, smallLow⟩

lemma octet_halves (octet : UInt8) :
  octet &&& 0xF0 = (octet >>> (4 : UInt8)) <<< (4 : UInt8) ∧ octet >>> (4 : UInt8) < 16 ∧
    octet &&& 0x0F < 16 ∧
    (octet >>> (4 : UInt8)) &&& 0x0F = octet >>> (4 : UInt8) ∧
    ((octet >>> (4 : UInt8)) <<< (4 : UInt8)) ||| (octet &&& 0x0F) = octet := by
  have halves : ∀ octet : Fin 256,
      ofNat octet &&& 0xF0 = (ofNat octet >>> (4 : UInt8)) <<< (4 : UInt8) ∧
        ofNat octet >>> (4 : UInt8) < 16 ∧ ofNat octet &&& 0x0F < 16 ∧
        (ofNat octet >>> (4 : UInt8)) &&& 0x0F = ofNat octet >>> (4 : UInt8) ∧
        ((ofNat octet >>> (4 : UInt8)) <<< (4 : UInt8)) ||| (ofNat octet &&& 0x0F) =
          ofNat octet := by
    decide +kernel
  simpa using halves ⟨octet.toNat, octet.toNat_lt⟩

lemma minimallyMarked_ipv4 (small : dscp < 64) (head : packet.head? = some first)
  (version : ipVersion packet = 4) (long : 20 ≤ headerLength first)
  (whole : headerLength first ≤ packet.length)
  (completed : ipv4HeaderChecksum
    ((packet.set 1 ((dscp <<< 2) ||| (packet.getD 1 0 &&& 0x03))).take (headerLength first)) =
      some csum) :
  MinimallyMarked dscp packet
    (((packet.set 1 ((dscp <<< 2) ||| (packet.getD 1 0 &&& 0x03))).set 10
      (csum >>> 8).toUInt8).set 11 csum.toUInt8) := by
  generalize tosIs : (dscp <<< 2) ||| (packet.getD 1 0 &&& 0x03) = tos at completed ⊢
  generalize changedIs :
    ((packet.set 1 tos).set 10 (csum >>> 8).toUInt8).set 11 csum.toUInt8 = marked
  obtain ⟨point, ecn⟩ := mark_fields small (packet.getD 1 0)
  rw [tosIs] at point ecn
  have inside : 20 ≤ packet.length := le_trans long whole
  have octets : ∀ place, marked.getD place 0 =
      if 11 = place then csum.toUInt8 else if 10 = place then (csum >>> 8).toUInt8
      else if 1 = place then tos else packet.getD place 0 := by
    intro place
    rw [← changedIs, getD_set _ (by simp only [length_set]; omega),
      getD_set _ (by simp only [length_set]; omega), getD_set _ (by omega)]
  have sameVersion : ipVersion marked = ipVersion packet := by
    rw [ipVersion, octets]
    rfl
  have notSix : ipVersion packet ≠ 6 := by rw [version]; decide
  have markedClass : trafficClass marked = tos := by
    rw [trafficClass, sameVersion, if_neg notSix, octets]
    rfl
  have packetClass : trafficClass packet = packet.getD 1 0 := by rw [trafficClass, if_neg notSix]
  have markedLength : marked.length = packet.length := by simp [← changedIs]
  refine ⟨by rw [dscpOf, markedClass, point], by rw [ecnOf, ecnOf, markedClass, packetClass, ecn],
    sameVersion, fun isSix => absurd isSix notSix, fun _ => ?_, markedLength, ?_⟩
  · have tosHead : (packet.set 1 tos).head? = some first := by
      rw [List.head?_eq_getElem?, List.getElem?_set_ne (by decide), ← List.head?_eq_getElem?, head]
    have firstVersion : first >>> 4 = 4 := by
      obtain ⟨rest, rfl⟩ := List.head?_eq_some_iff.mp head
      exact version
    rw [← changedIs]
    exact ipv4HeaderChecksumValid_complete tosHead firstVersion long (by simpa using whole)
      completed
  · intro place unmarked
    rw [markedPlaces, if_neg notSix] at unmarked
    simp only [mem_cons, not_mem_nil, or_false, not_or] at unmarked
    rw [← changedIs, List.getElem?_set_ne (by omega), List.getElem?_set_ne (by omega),
      List.getElem?_set_ne (by omega)]

/-- The congestion bits of an IPv6 packet agree with the two bits that the marking takes for
them. -/
def CongestionInPlace (packet : Bytes) : Prop :=
  ipVersion packet = 6 → 40 ≤ packet.length →
    packet.getD 1 0 &&& 0x03 = (packet.getD 1 0 >>> (4 : UInt8)) &&& 0x03

def markIpv6 (packet : Bytes) (tc : UInt8) : Bytes :=
  (packet.set 0 ((packet.getD 0 0 &&& 0xF0) ||| ((tc >>> (4 : UInt8)) &&& 0x0F))).set 1
    (((tc &&& 0x0F) <<< (4 : UInt8)) ||| (packet.getD 1 0 &&& 0x0F))

lemma markIpv6_fields (version : ipVersion packet = 6) (whole : 40 ≤ packet.length) (tc : UInt8) :
  trafficClass (markIpv6 packet tc) = tc ∧ ipVersion (markIpv6 packet tc) = ipVersion packet ∧
    flowLabel (markIpv6 packet tc) = flowLabel packet ∧
    (markIpv6 packet tc).length = packet.length ∧
    ∀ place, place ∉ markedPlaces packet → (markIpv6 packet tc)[place]? = packet[place]? := by
  have octets : ∀ place, (markIpv6 packet tc).getD place 0 =
      if 1 = place then ((tc &&& 0x0F) <<< (4 : UInt8)) ||| (packet.getD 1 0 &&& 0x0F)
      else if 0 = place then (packet.getD 0 0 &&& 0xF0) ||| ((tc >>> (4 : UInt8)) &&& 0x0F)
      else packet.getD place 0 := by
    intro place
    rw [markIpv6, getD_set _ (by simp only [length_set]; omega), getD_set _ (by omega)]
  obtain ⟨high, small, -⟩ := octet_halves (packet.getD 0 0)
  obtain ⟨-, tcHigh, tcLow, tcSame, tcWhole⟩ := octet_halves tc
  obtain ⟨-, -, flowSmall, -⟩ := octet_halves (packet.getD 1 0)
  obtain ⟨firstHigh, firstLow, -⟩ := nibble_fields small tcHigh
  obtain ⟨secondHigh, secondLow, -⟩ := nibble_fields tcLow flowSmall
  rw [← high, ← tcSame] at firstHigh firstLow
  have sameVersion : ipVersion (markIpv6 packet tc) = ipVersion packet := by
    rw [ipVersion, octets]
    exact firstHigh
  refine ⟨?_, sameVersion, ?_, ?_, ?_⟩
  · rw [trafficClass, sameVersion, if_pos version, octets, octets]
    change (((packet.getD 0 0 &&& 0xF0) ||| ((tc >>> (4 : UInt8)) &&& 0x0F)) &&& 0x0F) <<<
        (4 : UInt8) |||
      (((tc &&& 0x0F) <<< (4 : UInt8)) ||| (packet.getD 1 0 &&& 0x0F)) >>> (4 : UInt8) = tc
    rw [firstLow, secondHigh, tcSame, tcWhole]
  · rw [flowLabel, octets, octets, octets]
    exact Prod.ext secondLow rfl
  · simp [markIpv6]
  · intro place unmarked
    rw [markedPlaces, if_pos version] at unmarked
    simp only [mem_cons, not_mem_nil, or_false, not_or] at unmarked
    rw [markIpv6, List.getElem?_set_ne (by omega), List.getElem?_set_ne (by omega)]

lemma minimallyMarked_ipv6 (small : dscp < 64) (version : ipVersion packet = 6)
  (whole : 40 ≤ packet.length) :
  MinimallyMarked dscp packet (markIpv6 packet ((dscp <<< 2) ||| (packet.getD 1 0 &&& 0x03))) ↔
    packet.getD 1 0 &&& 0x03 = (packet.getD 1 0 >>> (4 : UInt8)) &&& 0x03 := by
  obtain ⟨point, ecn⟩ := mark_fields small (packet.getD 1 0)
  obtain ⟨written, sameVersion, flow, markedLength, frame⟩ := markIpv6_fields version whole
    ((dscp <<< 2) ||| (packet.getD 1 0 &&& 0x03))
  have packetEcn : ecnOf packet = (packet.getD 1 0 >>> (4 : UInt8)) &&& 0x03 := by
    obtain ⟨-, -, smallHigh, -⟩ := octet_halves (packet.getD 0 0)
    obtain ⟨-, smallLow, -⟩ := octet_halves (packet.getD 1 0)
    rw [ecnOf, trafficClass, if_pos version]
    exact (nibble_fields smallHigh smallLow).2.2
  constructor
  · intro marked
    have kept := marked.ecn
    rw [packetEcn] at kept
    rw [← kept, ecnOf, written, ecn]
  · intro inPlace
    refine ⟨by rw [dscpOf, written, point], by rw [ecnOf, written, ecn, packetEcn, inPlace],
      sameVersion, fun _ => flow, fun four => ?_, markedLength, frame⟩
    exact absurd (version.symm.trans four) (by decide)

/-- The call leaves the packet alone, or it changes its code point and nothing else. -/
def MarksMinimally (dscp : UInt8) (packet : Bytes) : Prop :=
  ∃ changed marked, applyDscpToIpPacket packet dscp = some (changed, marked) ∧
    (changed = false ∧ marked = packet ∨ changed = true ∧ MinimallyMarked dscp packet marked)

section Branches

variable {dscp : UInt8} {first : UInt8} {rest : Bytes}

lemma version_of_first (first : UInt8) (rest : Bytes) :
  (first >>> 4) &&& 0x0F = ipVersion (first :: rest) :=
  (octet_halves first).2.2.2.1

lemma marksMinimally_ipv4 (small : dscp < 64)
  (four : ipVersion (first :: rest) = 4 ∧ 20 ≤ (first :: rest).length) :
  MarksMinimally dscp (first :: rest) := by
  unfold MarksMinimally
  simp only [applyDscpToIpPacket, version_of_first first rest, if_pos four]
  by_cases bad : headerLength first < 20 ∨ (first :: rest).length < headerLength first
  · exact ⟨false, first :: rest, if_pos bad, .inl ⟨rfl, rfl⟩⟩
  · rw [if_neg bad]
    rw [not_or, not_lt, not_lt] at bad
    have tosHead : (((first :: rest).set 1
        ((dscp <<< 2) ||| ((first :: rest).getD 1 0 &&& 0x03))).take
          (headerLength first)).head? = some first := by
      rw [List.head?_take, if_neg (by omega)]
      rfl
    obtain ⟨csum, completed⟩ : ∃ csum, ipv4HeaderChecksum (((first :: rest).set 1
        ((dscp <<< 2) ||| ((first :: rest).getD 1 0 &&& 0x03))).take
          (headerLength first)) = some csum := by
      rw [ipv4HeaderChecksum, tosHead]
      exact ⟨_, rfl⟩
    exact ⟨true, _, by rw [completed]; rfl,
      .inr ⟨rfl, minimallyMarked_ipv4 small rfl four.1 bad.1 bad.2 completed⟩⟩

lemma marksMinimally_ipv6_iff (small : dscp < 64)
  (six : ipVersion (first :: rest) = 6 ∧ 40 ≤ (first :: rest).length) :
  MarksMinimally dscp (first :: rest) ↔ CongestionInPlace (first :: rest) := by
  have notFour : ¬ (ipVersion (first :: rest) = 4 ∧ 20 ≤ (first :: rest).length) := fun four =>
    absurd (four.1.symm.trans six.1) (by decide)
  have marks : applyDscpToIpPacket (first :: rest) dscp = some (true, markIpv6 (first :: rest)
        ((dscp <<< 2) ||| ((first :: rest).getD 1 0 &&& 0x03))) := by
    simp only [applyDscpToIpPacket, version_of_first first rest, if_neg notFour, if_pos six]
    rfl
  have inPlace := minimallyMarked_ipv6 small six.1 six.2
  rw [MarksMinimally, marks]
  constructor
  · rintro ⟨changed, marked, result, unchanged | marksIt⟩
    · cases result
      cases unchanged.1
    · cases result
      exact fun _ _ => inPlace.mp marksIt.2
  · intro congestion
    exact ⟨true, _, rfl, .inr ⟨rfl, inPlace.mpr (congestion six.1 six.2)⟩⟩

lemma marksMinimally_other
  (notFour : ¬ (ipVersion (first :: rest) = 4 ∧ 20 ≤ (first :: rest).length))
  (notSix : ¬ (ipVersion (first :: rest) = 6 ∧ 40 ≤ (first :: rest).length)) :
  MarksMinimally dscp (first :: rest) := by
  refine ⟨false, first :: rest, ?_, .inl ⟨rfl, rfl⟩⟩
  simp only [applyDscpToIpPacket, version_of_first first rest, if_neg notFour, if_neg notSix]

end Branches

/-- A marking is the minimal change but in an IPv6 packet whose congestion bits differ from the
two lowest bits of its second octet, which belong to the flow label. -/
theorem marksMinimally_iff {dscp : UInt8} (small : dscp < 64) (packet : Bytes) :
  MarksMinimally dscp packet ↔ CongestionInPlace packet := by
  match packet with
  | [] =>
    have inPlace : CongestionInPlace [] := fun _ long => absurd long (by decide)
    exact ⟨fun _ => inPlace, fun _ => ⟨false, [], rfl, .inl ⟨rfl, rfl⟩⟩⟩
  | first :: rest =>
    by_cases four : ipVersion (first :: rest) = 4 ∧ 20 ≤ (first :: rest).length
    · have inPlace : CongestionInPlace (first :: rest) := fun six =>
        absurd (four.1.symm.trans six) (by decide)
      exact iff_of_true (marksMinimally_ipv4 small four) inPlace
    · by_cases six : ipVersion (first :: rest) = 6 ∧ 40 ≤ (first :: rest).length
      · exact marksMinimally_ipv6_iff small six
      · have inPlace : CongestionInPlace (first :: rest) := fun version long =>
          absurd ⟨version, long⟩ six
        exact iff_of_true (marksMinimally_other four six) inPlace

/-- An IPv6 packet of traffic class 0 and flow label 0 is marked as it should be. -/
theorem marksMinimally_unlabelled : MarksMinimally 46 (0x60 :: replicate 39 0) :=
  (marksMinimally_iff (by decide) _).mpr fun _ _ => by decide

def labelled : Bytes := 0x60 :: 0x01 :: replicate 38 0

/-- The marking of the labelled packet sets a congestion bit. -/
theorem marking_sets_congestion :
  ¬ ∀ dscp : UInt8, dscp < 64 → ∀ packet, MarksMinimally dscp packet := by
  intro minimal
  obtain ⟨changed, marked, result, unchanged | marks⟩ := minimal 46 (by decide) labelled
  · have ends : applyDscpToIpPacket labelled 46 = some (true, 0x6B :: 0x91 :: labelled.drop 2) := by
      decide
    cases ends.symm.trans result
    cases unchanged.1
  · have ends : applyDscpToIpPacket labelled 46 = some (true, 0x6B :: 0x91 :: labelled.drop 2) := by
      decide
    cases ends.symm.trans result
    exact absurd marks.2.ecn (by decide)

end NextGCore.Upf
