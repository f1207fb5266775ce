import NextGCore.Library.LeadingBits
import NextGCore.Upf.SdfFiltering

/-!
# Packet filters of rules

The components that are made of a rule, whose source is the remote end of a packet or the local
one.  A range of ports that begins at 0 makes none.
-/

namespace NextGCore.Ipfw

open UInt8
open IpAddrMask (maskTurn ipv6Mask)
open Library (SameLeading)
open Upf (Endpoint FlowDescription PacketTuple PortRange)

variable {mask : List UInt8} {place : ℕ} {direction : UInt8} {range : PortRange} {side : Side}
  (remaining : ℕ) (prefixLen : UInt8) {ones i : ℕ} {endpoint : Endpoint}
  {description : FlowDescription}

inductive PfComponent where
  | protocol (proto : UInt8)
  | ipv4Address (addr mask : UInt32) (isLocal : Bool)
  | ipv6AddressPrefix (addr : Vector UInt32 4) (prefixLen : UInt8) (isLocal : Bool)
  | ipv6AddressMask (addr mask : Vector UInt32 4) (isLocal : Bool)
  | singlePort (port : UInt16) (isLocal : Bool)
  | portRange (low high : UInt16) (isLocal : Bool)
  | securityParameterIndex (index : UInt32)
  | tosTrafficClass (tos : UInt16)
  | flowLabel (label : UInt32)

def PfComponent.encodedLen : PfComponent → ℕ
  | .protocol _ => 2
  | .ipv4Address _ _ _ => 9
  | .ipv6AddressPrefix _ _ _ => 18
  | .ipv6AddressMask _ _ _ => 33
  | .singlePort _ _ => 3
  | .portRange _ _ _ => 5
  | .securityParameterIndex _ => 5
  | .tosTrafficClass _ => 3
  | .flowLabel _ => 4

structure PfContent where
  length : ℕ
  components : List PfComponent

namespace PfContent

def new : PfContent := ⟨0, []⟩

def addComponent (content : PfContent) (component : PfComponent) : PfContent where
  length := content.length + component.encodedLen
  components := content.components ++ [component]

end PfContent

def contigmaskLoop (mask : List UInt8) : ℕ → ℕ → ℤ → Bool → ℤ
  | 0, _, count, _ => count
  | left + 1, i, count, foundZero =>
    match mask[i / 8]? with
    | none => count
    | some octet =>
      if octet >>> UInt8.ofNat (7 - i % 8) &&& 1 = 1 then
        if foundZero then -1 else contigmaskLoop mask left (i + 1) (count + 1) foundZero
      else contigmaskLoop mask left (i + 1) count true

def contigmask (mask : List UInt8) (len : ℕ) : ℤ := contigmaskLoop mask len 0 0 false

def DOWNLINK_ONLY : UInt8 := 1
def UPLINK_ONLY : UInt8 := 2
def BIDIRECTIONAL : UInt8 := 3

/-- The source is remote and the destination local, but for the uplink.  In other directions both
are remote. -/
def isLocal (isSrc : Bool) (direction : UInt8) : Bool :=
  if direction = DOWNLINK_ONLY ∨ direction = BIDIRECTIONAL then !isSrc
  else if direction = UPLINK_ONLY then isSrc
  else false

namespace PfContent

variable (content : PfContent)

def addProtocol (proto : UInt8) : PfContent :=
  if proto ≠ 0 then content.addComponent (.protocol proto) else content

def addIpv4 (side : Side) (isLocal noIpv4v6LocalAddr : Bool) : PfContent :=
  if side.ipv4 then
    if !isLocal || !noIpv4v6LocalAddr then
      content.addComponent (.ipv4Address side.ip.addr[0] side.ip.mask[0] isLocal)
    else content
  else content

def addIpv6 (side : Side) (isLocal noIpv4v6LocalAddr asMask : Bool) : PfContent :=
  if side.ipv6 then
    if !isLocal || !noIpv4v6LocalAddr then
      if asMask then content.addComponent (.ipv6AddressMask side.ip.addr side.ip.mask isLocal)
      else
        let prefixLen := ofInt (contigmask (wordOctets side.ip.mask).toList 128)
        content.addComponent (.ipv6AddressPrefix side.ip.addr prefixLen isLocal)
    else content
  else content

def addPort (port : PortRange) (isLocal : Bool) : PfContent :=
  if port.low ≠ 0 then
    if port.low = port.high then content.addComponent (.singlePort port.low isLocal)
    else content.addComponent (.portRange port.low port.high isLocal)
  else content

end PfContent

def pfContentFromIpfwRule (direction : UInt8) (rule : IpfwRule) (noIpv4v6LocalAddr : Bool) :
  PfContent :=
  let srcLocal := isLocal true direction
  let dstLocal := isLocal false direction
  let content := PfContent.new.addProtocol rule.proto
  let content := content.addIpv4 rule.src srcLocal noIpv4v6LocalAddr
  let content := content.addIpv4 rule.dst dstLocal noIpv4v6LocalAddr
  let content := content.addIpv6 rule.src srcLocal noIpv4v6LocalAddr noIpv4v6LocalAddr
  let content :=
    content.addIpv6 rule.dst dstLocal noIpv4v6LocalAddr (noIpv4v6LocalAddr && !dstLocal)
  let content := content.addPort rule.src.port srcLocal
  content.addPort rule.dst.port dstLocal

inductive Ip where
  | v4 (addr : UInt32)
  | v6 (words : Vector UInt32 4)

def Ip.isIpv6 : Ip → Bool
  | .v4 _ => false
  | .v6 _ => true

structure PacketEnd where
  ip : Ip
  port : UInt16

variable {seen : PacketEnd}

structure Packet where
  protocol : UInt8
  remoteEnd : PacketEnd
  localEnd : PacketEnd
  sameFamily : remoteEnd.ip.isIpv6 = localEnd.ip.isIpv6
  securityParameterIndex : UInt32
  tosTrafficClass : UInt16
  flowLabel : UInt32

variable {packet : Packet}

def Packet.endAt (packet : Packet) (isLocal : Bool) : PacketEnd :=
  if isLocal then packet.localEnd else packet.remoteEnd

def number (words : Vector UInt32 4) : ℕ :=
  ((words[0].toNat * 2 ^ 32 + words[1].toNat) * 2 ^ 32 + words[2].toNat) * 2 ^ 32 + words[3].toNat

def SameMasked (mask first second : Vector UInt32 4) : Prop :=
  first.zipWith (· &&& ·) mask = second.zipWith (· &&& ·) mask

def PfComponent.Holds (packet : Packet) : PfComponent → Prop
  | .protocol proto => packet.protocol = proto
  | .ipv4Address addr mask isLocal =>
    ∃ ip, (packet.endAt isLocal).ip = .v4 ip ∧ ip &&& mask = addr &&& mask
  | .ipv6AddressPrefix addr prefixLen isLocal =>
    ∃ ip, (packet.endAt isLocal).ip = .v6 ip ∧
      SameLeading 128 prefixLen.toNat (number ip) (number addr)
  | .ipv6AddressMask addr mask isLocal =>
    ∃ ip, (packet.endAt isLocal).ip = .v6 ip ∧ SameMasked mask ip addr
  | .singlePort port isLocal => (packet.endAt isLocal).port = port
  | .portRange low high isLocal =>
    low ≤ (packet.endAt isLocal).port ∧ (packet.endAt isLocal).port ≤ high
  | .securityParameterIndex index => packet.securityParameterIndex = index
  | .tosTrafficClass tos => packet.tosTrafficClass = tos
  | .flowLabel label => packet.flowLabel = label

def PfContent.Holds (packet : Packet) (content : PfContent) : Prop :=
  ∀ component ∈ content.components, component.Holds packet

structure Side.Located (seen : PacketEnd) (side : Side) : Prop where
  ipv4 : side.ipv4 = true → ∃ ip, seen.ip = .v4 ip ∧
    ip &&& side.ip.mask[0] = side.ip.addr[0] &&& side.ip.mask[0]
  ipv6 : side.ipv6 = true → ∃ ip, seen.ip = .v6 ip ∧ SameMasked side.ip.mask ip side.ip.addr

def Within (port : UInt16) (range : PortRange) : Prop := range.low ≤ port ∧ port ≤ range.high

instance (port : UInt16) (range : PortRange) : Decidable (Within port range) :=
  inferInstanceAs (Decidable (range.low ≤ port ∧ port ≤ range.high))

structure Side.Holds (seen : PacketEnd) (side : Side) : Prop where
  located : side.Located seen
  port : side.port.isEmpty = true ∨ Within seen.port side.port

/-- The packet goes from the remote end to the local one, or the other way on the uplink. -/
structure IpfwRule.Holds (direction : UInt8) (packet : Packet) (rule : IpfwRule) : Prop where
  proto : rule.proto ≠ 0 → packet.protocol = rule.proto
  src : rule.src.Holds (packet.endAt (direction == UPLINK_ONLY))
  dst : rule.dst.Holds (packet.endAt (direction != UPLINK_ONLY))

/-- The filter lets through the packets that the rule is about, and its length is that of its
components. -/
structure KeepsMeaning (direction : UInt8) (rule : IpfwRule) : Prop where
  holds : ∀ packet, (pfContentFromIpfwRule direction rule false).Holds packet ↔
    rule.Holds direction packet
  length : (pfContentFromIpfwRule direction rule false).length =
    ((pfContentFromIpfwRule direction rule false).components.map PfComponent.encodedLen).sum

lemma Side.holds_iff_of_v4 {ip : UInt32} (isIp : seen.ip = .v4 ip) :
  side.Holds seen ↔ side.ipv6 = false ∧
    (side.ipv4 = false ∨ PacketTuple.within ip (Upf.firstWord side.ip) = true) ∧
      PacketTuple.inRange seen.port side.port = true := by
  rw [PacketTuple.inRange, Bool.or_eq_true, decide_eq_true_eq, PacketTuple.within, beq_iff_eq]
  constructor
  · rintro ⟨⟨ipv4, ipv6⟩, port⟩
    refine ⟨?_, ?_, port⟩
    · by_contra present
      obtain ⟨_, family, -⟩ := ipv6 (Bool.eq_true_of_not_eq_false present)
      cases isIp.symm.trans family
    · refine or_iff_not_imp_left.mpr fun present => ?_
      obtain ⟨_, family, same⟩ := ipv4 (Bool.eq_true_of_not_eq_false present)
      cases isIp.symm.trans family
      exact same
  · rintro ⟨ipv6, ipv4, port⟩
    refine ⟨⟨fun present => ⟨ip, isIp, ?_⟩, fun present => ?_⟩, port⟩
    · exact ipv4.resolve_left fun absent => Bool.false_ne_true (absent.symm.trans present)
    · exact absurd (ipv6.symm.trans present) Bool.false_ne_true

/-- On IPv4 packets a rule without IPv6 addresses is what the data plane matches. -/
lemma holds_iff_matchesRule {rule : IpfwRule} {src dst : UInt32}
  (srcIp : (packet.endAt (direction == UPLINK_ONLY)).ip = .v4 src)
  (dstIp : (packet.endAt (direction != UPLINK_ONLY)).ip = .v4 dst) :
  rule.Holds direction packet ↔ rule.src.ipv6 = false ∧ rule.dst.ipv6 = false ∧
    PacketTuple.matchesRule
      ⟨src, dst, packet.protocol, (packet.endAt (direction == UPLINK_ONLY)).port,
        (packet.endAt (direction != UPLINK_ONLY)).port⟩ (Upf.firstWords rule) = true := by
  have parts : rule.Holds direction packet ↔
      (rule.proto ≠ 0 → packet.protocol = rule.proto) ∧
      rule.src.Holds (packet.endAt (direction == UPLINK_ONLY)) ∧
      rule.dst.Holds (packet.endAt (direction != UPLINK_ONLY)) :=
    ⟨fun holds => ⟨holds.proto, holds.src, holds.dst⟩, fun all => ⟨all.1, all.2.1, all.2.2⟩⟩
  rw [parts, Side.holds_iff_of_v4 srcIp, Side.holds_iff_of_v4 dstIp, PacketTuple.matchesRule]
  simp only [Upf.firstWords, Bool.and_eq_true, Bool.or_eq_true, beq_iff_eq,
    Bool.not_eq_true', ← or_iff_not_imp_left, ne_eq, @eq_comm _ packet.protocol]
  constructor
  · rintro ⟨proto, ⟨srcIpv6, srcIpv4, srcPort⟩, dstIpv6, dstIpv4, dstPort⟩
    exact ⟨srcIpv6, dstIpv6, ⟨⟨⟨proto, srcIpv4⟩, dstIpv4⟩, srcPort⟩, dstPort⟩
  · rintro ⟨srcIpv6, dstIpv6, ⟨⟨⟨proto, srcIpv4⟩, dstIpv4⟩, srcPort⟩, dstPort⟩
    exact ⟨proto, ⟨srcIpv6, srcIpv4, srcPort⟩, dstIpv6, dstIpv4, dstPort⟩

namespace PfContent

def Measured (content : PfContent) : Prop :=
  content.length = (content.components.map PfComponent.encodedLen).sum

namespace Measured

variable {content : PfContent} (measured : content.Measured)

include measured

lemma addComponent (component : PfComponent) : (content.addComponent component).Measured := by
  rw [Measured, PfContent.addComponent, List.map_append, List.sum_append, ← measured]
  rfl

lemma addProtocol (proto : UInt8) : (content.addProtocol proto).Measured := by
  unfold PfContent.addProtocol
  split
  · exact measured.addComponent _
  · exact measured

lemma addIpv4 (side : Side) (isLocal noLocal : Bool) :
  (content.addIpv4 side isLocal noLocal).Measured := by
  unfold PfContent.addIpv4
  split_ifs
  · exact measured.addComponent _
  · exact measured
  · exact measured

lemma addIpv6 (side : Side) (isLocal noLocal asMask : Bool) :
  (content.addIpv6 side isLocal noLocal asMask).Measured := by
  unfold PfContent.addIpv6
  split_ifs
  · exact measured.addComponent _
  · exact measured.addComponent _
  · exact measured
  · exact measured

lemma addPort (port : PortRange) (isLocal : Bool) : (content.addPort port isLocal).Measured := by
  unfold PfContent.addPort
  split_ifs
  · exact measured.addComponent _
  · exact measured.addComponent _
  · exact measured

end Measured

end PfContent

lemma measured_pfContentFromIpfwRule (direction : UInt8) (rule : IpfwRule) (noLocal : Bool) :
  (pfContentFromIpfwRule direction rule noLocal).Measured := by
  have empty : PfContent.new.Measured := rfl
  exact ((((((empty.addProtocol _).addIpv4 _ _ _).addIpv4 _ _ _).addIpv6 _ _ _ _).addIpv6
    _ _ _ _).addPort _ _).addPort _ _

namespace PfContent

variable {packet : Packet} {content : PfContent} {side : Side}

lemma holds_addComponent {component : PfComponent} :
  (content.addComponent component).Holds packet ↔
    content.Holds packet ∧ component.Holds packet := by
  unfold Holds addComponent
  rw [List.forall_mem_append, List.forall_mem_singleton]

lemma holds_addProtocol {proto : UInt8} : (content.addProtocol proto).Holds packet ↔
    content.Holds packet ∧ (proto ≠ 0 → packet.protocol = proto) := by
  unfold addProtocol
  split
  case isTrue named => rw [holds_addComponent, forall_prop_of_true named]; rfl
  case isFalse unnamed => rw [forall_prop_of_false unnamed, and_true]

lemma holds_addIpv4 {isLocal : Bool} :
  (content.addIpv4 side isLocal false).Holds packet ↔
    content.Holds packet ∧ (side.ipv4 = true → ∃ ip, (packet.endAt isLocal).ip = .v4 ip ∧
      ip &&& side.ip.mask[0] = side.ip.addr[0] &&& side.ip.mask[0]) := by
  unfold addIpv4
  rw [Bool.not_false, Bool.or_true, if_pos rfl]
  split
  case isTrue present => rw [holds_addComponent, forall_prop_of_true present]; rfl
  case isFalse absent => rw [forall_prop_of_false absent, and_true]

lemma holds_addIpv6 {isLocal : Bool} :
  (content.addIpv6 side isLocal false false).Holds packet ↔
    content.Holds packet ∧ (side.ipv6 = true → ∃ ip, (packet.endAt isLocal).ip = .v6 ip ∧
      SameLeading 128 (ofInt (contigmask (wordOctets side.ip.mask).toList 128)).toNat
        (number ip) (number side.ip.addr)) := by
  unfold addIpv6
  rw [Bool.not_false, Bool.or_true, if_pos rfl, if_neg Bool.false_ne_true]
  split
  case isTrue present => rw [holds_addComponent, forall_prop_of_true present]; rfl
  case isFalse absent => rw [forall_prop_of_false absent, and_true]

lemma holds_addPort {port : PortRange} {isLocal : Bool} :
  (content.addPort port isLocal).Holds packet ↔
    content.Holds packet ∧ (port.low ≠ 0 → Within (packet.endAt isLocal).port port) := by
  unfold addPort
  split
  case isTrue named =>
    rw [forall_prop_of_true named]
    split
    case isTrue single =>
      rw [holds_addComponent, PfComponent.Holds, Within, ← single]
      refine and_congr_right fun _ => ⟨fun same => ?_, fun both => ?_⟩
      · rw [same]
        exact ⟨UInt16.le_refl _, UInt16.le_refl _⟩
      · exact UInt16.le_antisymm both.2 both.1
    case isFalse => exact holds_addComponent
  case isFalse unnamed => rw [forall_prop_of_false unnamed, and_true]

end PfContent

lemma contigmaskLoop_ones (left : ℕ) (count : ℤ)
  (set : ∀ place, i ≤ place → place < i + ones → ∃ octet, mask[place / 8]? = some octet ∧
    octet >>> UInt8.ofNat (7 - place % 8) &&& 1 = 1) :
  contigmaskLoop mask (left + ones) i count false =
    contigmaskLoop mask left (i + ones) (count + ones) false := by
  induction ones generalizing i count with
  | zero => simp
  | succ ones ih =>
    obtain ⟨octet, there, bit⟩ := set i (Nat.le_refl i) (by omega)
    rw [← Nat.add_assoc, contigmaskLoop, there]
    dsimp only
    rw [if_pos bit, if_neg Bool.false_ne_true, ih]
    · rw [Nat.add_assoc i, Nat.add_comm 1, Int.add_assoc, Int.add_comm 1]
      rfl
    · exact fun place least below => set place (by omega) (by omega)

lemma contigmaskLoop_zeros {left : ℕ} {count : ℤ} {foundZero : Bool}
  (clear : ∀ place, i ≤ place → place < i + left → ∃ octet, mask[place / 8]? = some octet ∧
    ¬ octet >>> UInt8.ofNat (7 - place % 8) &&& 1 = 1) :
  contigmaskLoop mask left i count foundZero = count := by
  induction left generalizing i foundZero with
  | zero => rfl
  | succ left ih =>
    obtain ⟨octet, there, bit⟩ := clear i (Nat.le_refl i) (by omega)
    rw [contigmaskLoop, there]
    dsimp only
    rw [if_neg bit]
    exact ih fun place least below => clear place (by omega) (by omega)

lemma contigmask_eq {len : ℕ} (few : ones ≤ len)
  (bits : ∀ place < len, ∃ octet, mask[place / 8]? = some octet ∧
    (octet >>> UInt8.ofNat (7 - place % 8) &&& 1 = 1 ↔ place < ones)) :
  contigmask mask len = ones := by
  obtain ⟨zeros, rfl⟩ := Nat.exists_eq_add_of_le' few
  rw [contigmask, contigmaskLoop_ones, contigmaskLoop_zeros, Int.zero_add]
  · intro place least below
    obtain ⟨octet, there, bit⟩ := bits place (by omega)
    exact ⟨octet, there, fun set => absurd (bit.mp set) (by omega)⟩
  · intro place least below
    obtain ⟨octet, there, bit⟩ := bits place (by omega)
    exact ⟨octet, there, bit.mpr (by omega)⟩

lemma bit_iff (octet : UInt8) (below : place < 8) :
  octet >>> UInt8.ofNat place &&& 1 = 1 ↔ octet.toNat.testBit place = true := by
  rw [← UInt8.toNat_inj, UInt8.toNat_and, UInt8.toNat_shiftRight, toNat_ofNat_of_lt' (by
    exact Nat.lt_trans below (by decide)), Nat.mod_eq_of_lt below]
  simp [Nat.testBit, Nat.and_comm]

lemma testBit_toUInt8 (word : UInt32) (below : place < 8) :
  word.toUInt8.toNat.testBit place = word.toNat.testBit place := by
  rw [UInt32.toNat_toUInt8, Nat.testBit_mod_two_pow, decide_eq_true below, Bool.true_and]

lemma exists_octet (words : Vector UInt32 4) (below : place < 128) :
  ∃ octet, (wordOctets words).toList[place / 8]? = some octet ∧
    octet.toNat.testBit (7 - place % 8) =
      (words.toList.getD (place / 32) 0).toNat.testBit (31 - place % 32) := by
  obtain ⟨⟨letters⟩, size⟩ := words
  match letters, size with
  | [word₀, word₁, word₂, word₃], _ =>
    have last (word : UInt32) (at' : 31 - place % 32 = 7 - place % 8) :
        word.toUInt8.toNat.testBit (7 - place % 8) = word.toNat.testBit (31 - place % 32) := by
      rw [testBit_toUInt8 _ (by omega), at']
    have other (word : UInt32) {shift : ℕ} (short : shift < 32)
        (at' : 31 - place % 32 = shift + (7 - place % 8)) :
        (word >>> UInt32.ofNat shift).toUInt8.toNat.testBit (7 - place % 8) =
          word.toNat.testBit (31 - place % 32) := by
      rw [testBit_toUInt8 _ (by omega), UInt32.toNat_shiftRight,
        UInt32.toNat_ofNat_of_lt' (Nat.lt_trans short (by decide)), Nat.mod_eq_of_lt short,
        Nat.testBit_shiftRight, at']
    obtain ⟨octet, isOctet⟩ : ∃ octet, place / 8 = octet := ⟨_, rfl⟩
    have word : place / 32 = octet / 4 := by omega
    have inside : octet < 16 := by omega
    rw [isOctet, word]
    interval_cases octet
    -- four octets to each word
    iterate 4
      · exact ⟨_, rfl, @other _ 24 (by decide) (by omega)⟩
      · exact ⟨_, rfl, @other _ 16 (by decide) (by omega)⟩
      · exact ⟨_, rfl, @other _ 8 (by decide) (by omega)⟩
      · exact ⟨_, rfl, last _ (by omega)⟩

lemma toBitVec_maskTurn :
  (maskTurn remaining).1.toBitVec = BitVec.allOnes 32 <<< (32 - remaining) := by
  unfold maskTurn
  split
  case isTrue long =>
    rw [Nat.sub_eq_zero_of_le long]
    rfl
  case isFalse short =>
    rw [Nat.not_le] at short
    interval_cases remaining <;> rfl

lemma testBit_maskTurn (below : place < 32) :
  (maskTurn remaining).1.toNat.testBit place = decide (32 - remaining ≤ place) := by
  rw [← UInt32.toNat_toBitVec, BitVec.testBit_toNat, toBitVec_maskTurn, BitVec.getLsbD_shiftLeft,
    BitVec.getLsbD_allOnes]
  by_cases most : 32 - remaining ≤ place
  · simp [most, below, Nat.not_lt.mpr most]; omega
  · simp [most, Nat.not_le.mp most]

lemma maskTurn_snd : (maskTurn remaining).2 = remaining - 32 := by
  unfold maskTurn
  split_ifs <;> dsimp only <;> omega

lemma and_maskTurn_iff {first second : UInt32} (remaining : ℕ) :
  first &&& (maskTurn remaining).1 = second &&& (maskTurn remaining).1 ↔
    SameLeading 32 remaining first.toNat second.toNat := by
  rw [← UInt32.toBitVec_inj, UInt32.toBitVec_and, UInt32.toBitVec_and, toBitVec_maskTurn,
    Library.and_mask_eq_iff]
  rfl

lemma sameLeading_number_iff {bits : ℕ} (first second : Vector UInt32 4) :
  SameLeading 128 bits (number first) (number second) ↔
    SameLeading 32 bits first[0].toNat second[0].toNat ∧
    SameLeading 32 (bits - 32) first[1].toNat second[1].toNat ∧
    SameLeading 32 (bits - 64) first[2].toNat second[2].toNat ∧
    SameLeading 32 (bits - 96) first[3].toNat second[3].toNat := by
  have front := @SameLeading.append_iff 32 32 bits first[0].toNat second[0].toNat _ _
    first[1].toNat_lt second[1].toNat_lt
  have three := @SameLeading.append_iff 64 32 bits (first[0].toNat * 2 ^ 32 + first[1].toNat)
    (second[0].toNat * 2 ^ 32 + second[1].toNat) _ _ first[2].toNat_lt second[2].toNat_lt
  have whole := @SameLeading.append_iff 96 32 bits
    ((first[0].toNat * 2 ^ 32 + first[1].toNat) * 2 ^ 32 + first[2].toNat)
    ((second[0].toNat * 2 ^ 32 + second[1].toNat) * 2 ^ 32 + second[2].toNat) _ _
    first[3].toNat_lt second[3].toNat_lt
  exact whole.trans (by rw [three, front, and_assoc, and_assoc])

lemma sameMasked_iff {mask first second : Vector UInt32 4} : SameMasked mask first second ↔
    first[0] &&& mask[0] = second[0] &&& mask[0] ∧ first[1] &&& mask[1] = second[1] &&& mask[1] ∧
    first[2] &&& mask[2] = second[2] &&& mask[2] ∧
    first[3] &&& mask[3] = second[3] &&& mask[3] := by
  unfold SameMasked
  rw [Vector.ext_iff]
  constructor
  · intro same
    have word (place : ℕ) (below : place < 4) :
        first[place] &&& mask[place] = second[place] &&& mask[place] := by
      have there := same place below
      rwa [Vector.getElem_zipWith, Vector.getElem_zipWith] at there
    exact ⟨word 0 (by decide), word 1 (by decide), word 2 (by decide), word 3 (by decide)⟩
  · rintro ⟨word₀, word₁, word₂, word₃⟩ place below
    rw [Vector.getElem_zipWith, Vector.getElem_zipWith]
    match place, below with
    | 0, _ => exact word₀
    | 1, _ => exact word₁
    | 2, _ => exact word₂
    | 3, _ => exact word₃

lemma ipv6Mask_eq : ipv6Mask prefixLen =
    #v[(maskTurn prefixLen.toNat).1, (maskTurn (prefixLen.toNat - 32)).1,
      (maskTurn (prefixLen.toNat - 64)).1,
      (maskTurn (prefixLen.toNat - 96)).1] := by
  simp only [ipv6Mask, maskTurn_snd, Nat.sub_sub]

lemma contigmask_ipv6Mask : contigmask (wordOctets (ipv6Mask prefixLen)).toList 128 =
    (min prefixLen.toNat 128 : ℕ) := by
  refine contigmask_eq (Nat.min_le_right _ _) fun place below => ?_
  obtain ⟨octet, there, bits⟩ := exists_octet (ipv6Mask prefixLen) below
  have word : (ipv6Mask prefixLen).toList.getD (place / 32) 0 =
      (maskTurn (prefixLen.toNat - 32 * (place / 32))).1 := by
    obtain ⟨index, isIndex⟩ : ∃ index, place / 32 = index := ⟨_, rfl⟩
    have inside : index < 4 := by omega
    rw [isIndex, ipv6Mask_eq]
    interval_cases index <;> rfl
  refine ⟨octet, there, ?_⟩
  rw [bit_iff octet (by omega), bits, word, testBit_maskTurn _ (by omega), decide_eq_true_eq]
  omega

lemma sameMasked_ipv6Mask_iff (first second : Vector UInt32 4) :
  SameMasked (ipv6Mask prefixLen) first second ↔ SameLeading 128 (ofInt
      (contigmask (wordOctets (ipv6Mask prefixLen)).toList 128)).toNat
      (number first) (number second) := by
  have counted : (ofInt
      (contigmask (wordOctets (ipv6Mask prefixLen)).toList 128)).toNat =
        min prefixLen.toNat 128 := by
    have small : min prefixLen.toNat 128 < UInt8.size :=
      Nat.lt_of_le_of_lt (Nat.min_le_right _ _) (by decide)
    have whole : ((min prefixLen.toNat 128 : ℕ) : ℤ) % 2 ^ 8 = (min prefixLen.toNat 128 : ℕ) :=
      Int.emod_eq_of_lt (Int.natCast_nonneg _) (Int.ofNat_lt.mpr small)
    rw [contigmask_ipv6Mask, ofInt, whole, Int.toNat_natCast, toNat_ofNat_of_lt' small]
  have whole : SameLeading 128 (min prefixLen.toNat 128) (number first) (number second) ↔
      SameLeading 128 prefixLen.toNat (number first) (number second) := by
    unfold SameLeading
    rw [show 128 - min prefixLen.toNat 128 = 128 - prefixLen.toNat by omega]
  rw [counted, whole, sameLeading_number_iff, ipv6Mask_eq, sameMasked_iff]
  exact and_congr (and_maskTurn_iff _) (and_congr (and_maskTurn_iff _)
    (and_congr (and_maskTurn_iff _) (and_maskTurn_iff _)))

lemma exists_ipv6Mask (present : (sideOf endpoint).ipv6 = true) :
  ∃ prefixLen, (sideOf endpoint).ip.mask = ipv6Mask prefixLen := by
  obtain ⟨range, ports⟩ := endpoint
  cases range with
  | any | v4 => cases present
  | v6 addr prefixLen => exact ⟨prefixLen, rfl⟩

lemma not_ipv4_and_ipv6 (endpoint : Endpoint) :
  ¬ ((sideOf endpoint).ipv4 = true ∧ (sideOf endpoint).ipv6 = true) := by
  obtain ⟨range, ports⟩ := endpoint
  cases range with
  | any => exact fun both => nomatch both.1
  | v4 => exact fun both => nomatch both.2
  | v6 => exact fun both => nomatch both.1

lemma isLocal_eq (known : direction ∈ [DOWNLINK_ONLY, UPLINK_ONLY, BIDIRECTIONAL]) :
  isLocal true direction = (direction == UPLINK_ONLY) ∧
    isLocal false direction = (direction != UPLINK_ONLY) := by
  simp only [List.mem_cons, List.not_mem_nil, or_false] at known
  rcases known with rfl | rfl | rfl <;> decide

/-- What the filter asks of one end: nothing of the port when the range begins at 0. -/
structure Side.Filtered (seen : PacketEnd) (side : Side) : Prop where
  located : side.Located seen
  port : side.port.low ≠ 0 → Within seen.port side.port

lemma located_iff : (sideOf endpoint).Located seen ↔
    ((sideOf endpoint).ipv4 = true → ∃ ip, seen.ip = .v4 ip ∧
      ip &&& (sideOf endpoint).ip.mask[0] =
        (sideOf endpoint).ip.addr[0] &&& (sideOf endpoint).ip.mask[0]) ∧
    ((sideOf endpoint).ipv6 = true → ∃ ip, seen.ip = .v6 ip ∧ SameLeading 128
        (ofInt (contigmask (wordOctets (sideOf endpoint).ip.mask).toList 128)).toNat
        (number ip) (number (sideOf endpoint).ip.addr)) := by
  have masks : ∀ ip, (sideOf endpoint).ipv6 = true →
      (SameMasked (sideOf endpoint).ip.mask ip (sideOf endpoint).ip.addr ↔ SameLeading 128
          (ofInt (contigmask (wordOctets (sideOf endpoint).ip.mask).toList 128)).toNat
          (number ip) (number (sideOf endpoint).ip.addr)) := by
    intro ip present
    obtain ⟨prefixLen, mask⟩ := exists_ipv6Mask present
    rw [mask]
    exact sameMasked_ipv6Mask_iff prefixLen ip _
  constructor
  · rintro ⟨ipv4, ipv6⟩
    refine ⟨ipv4, fun present => ?_⟩
    obtain ⟨ip, family, same⟩ := ipv6 present
    exact ⟨ip, family, (masks ip present).mp same⟩
  · rintro ⟨ipv4, ipv6⟩
    refine ⟨ipv4, fun present => ?_⟩
    obtain ⟨ip, family, same⟩ := ipv6 present
    exact ⟨ip, family, (masks ip present).mpr same⟩

lemma holds_pfContentFromIpfwRule_iff
  (known : direction ∈ [DOWNLINK_ONLY, UPLINK_ONLY, BIDIRECTIONAL])
  (description : FlowDescription) :
  (pfContentFromIpfwRule direction (ruleOf description) false).Holds packet ↔
    (description.proto ≠ 0 → packet.protocol = description.proto) ∧
    (sideOf description.source).Filtered (packet.endAt (direction == UPLINK_ONLY)) ∧
    (sideOf description.destination).Filtered (packet.endAt (direction != UPLINK_ONLY)) := by
  obtain ⟨srcLocal, dstLocal⟩ := isLocal_eq known
  have empty : PfContent.new.Holds packet := nofun
  simp only [pfContentFromIpfwRule, srcLocal, dstLocal, Bool.false_and,
    PfContent.holds_addPort, PfContent.holds_addIpv6, PfContent.holds_addIpv4,
    PfContent.holds_addProtocol, empty, true_and]
  constructor
  · rintro ⟨⟨⟨⟨⟨⟨proto, srcIpv4⟩, dstIpv4⟩, srcIpv6⟩, dstIpv6⟩, srcPort⟩, dstPort⟩
    exact ⟨proto, ⟨located_iff.mpr ⟨srcIpv4, srcIpv6⟩, srcPort⟩,
      ⟨located_iff.mpr ⟨dstIpv4, dstIpv6⟩, dstPort⟩⟩
  · rintro ⟨proto, ⟨src, srcPort⟩, ⟨dst, dstPort⟩⟩
    obtain ⟨srcIpv4, srcIpv6⟩ := located_iff.mp src
    obtain ⟨dstIpv4, dstIpv6⟩ := located_iff.mp dst
    exact ⟨⟨⟨⟨⟨⟨proto, srcIpv4⟩, dstIpv4⟩, srcIpv6⟩, dstIpv6⟩, srcPort⟩, dstPort⟩

def LeftOut (range : PortRange) : Prop := range.low = 0 ∧ range.high ≠ 0 ∧ range.high ≠ 0xFFFF

/-- The rule is about no packet: its ends are of two families, or a range is empty. -/
def IpfwRule.Contradicts (rule : IpfwRule) : Prop :=
  rule.src.ipv4 = true ∧ rule.dst.ipv6 = true ∨ rule.src.ipv6 = true ∧ rule.dst.ipv4 = true ∨
    rule.src.port.high < rule.src.port.low ∨ rule.dst.port.high < rule.dst.port.low

lemma port_iff_of_not_leftOut (kept : ¬ LeftOut range) (port : UInt16) :
  range.isEmpty = true ∨ Within port range ↔ (range.low ≠ 0 → Within port range) := by
  rw [PortRange.isEmpty, Bool.and_eq_true, beq_iff_eq, beq_iff_eq]
  constructor
  · rintro (⟨zero, -⟩ | within) named
    · exact absurd zero named
    · exact within
  · intro asked
    by_cases zero : range.low = 0
    · by_cases none : range.high = 0
      · exact .inl ⟨zero, none⟩
      · have all : range.high = 0xFFFF := by
          by_contra some
          exact kept ⟨zero, none, some⟩
        refine .inr ⟨?_, ?_⟩
        · rw [zero, UInt16.le_iff_toNat_le]
          exact Nat.zero_le _
        · rw [all, UInt16.le_iff_toNat_le]
          exact Nat.le_of_lt_succ port.toNat_lt
    · exact .inr (asked zero)

lemma not_port_of_leftOut (leftOut : LeftOut range) :
  ¬ (range.isEmpty = true ∨ Within 0xFFFF range) := by
  rintro (empty | within)
  · rw [PortRange.isEmpty, Bool.and_eq_true, beq_iff_eq, beq_iff_eq] at empty
    exact leftOut.2.1 empty.2
  · refine leftOut.2.2 (UInt16.le_antisymm ?_ within.2)
    rw [UInt16.le_iff_toNat_le]
    exact Nat.le_of_lt_succ range.high.toNat_lt

lemma Side.Filtered.of_holds (holds : side.Holds seen) : side.Filtered seen where
  located := holds.located
  port named := by
    refine holds.port.resolve_left fun empty => named ?_
    rw [PortRange.isEmpty, Bool.and_eq_true, beq_iff_eq] at empty
    exact empty.1

lemma Side.holds_iff_filtered (kept : ¬ LeftOut side.port) :
  side.Holds seen ↔ side.Filtered seen :=
  ⟨.of_holds, fun filtered =>
    ⟨filtered.located, (port_iff_of_not_leftOut kept seen.port).mpr filtered.port⟩⟩

lemma Side.Filtered.not_inverted (filtered : side.Filtered seen) :
  ¬ side.port.high < side.port.low := by
  intro inverted
  have named : side.port.low ≠ 0 := by
    intro zero
    rw [zero, UInt16.lt_iff_toNat_lt] at inverted
    exact Nat.not_lt_zero _ inverted
  have within := filtered.port named
  exact absurd (UInt16.lt_of_le_of_lt (UInt16.le_trans within.1 within.2) inverted)
    (UInt16.lt_irrefl _)

lemma not_contradicts_of_filtered {rule : IpfwRule}
  (src : rule.src.Filtered (packet.endAt (direction == UPLINK_ONLY)))
  (dst : rule.dst.Filtered (packet.endAt (direction != UPLINK_ONLY))) : ¬ rule.Contradicts := by
  have family : (packet.endAt (direction == UPLINK_ONLY)).ip.isIpv6 =
      (packet.endAt (direction != UPLINK_ONLY)).ip.isIpv6 := by
    have same := packet.sameFamily
    rw [bne]
    cases direction == UPLINK_ONLY
    · exact same
    · exact same.symm
  rintro (⟨ipv4, ipv6⟩ | ⟨ipv6, ipv4⟩ | inverted | inverted)
  · obtain ⟨_, srcIp, -⟩ := src.located.ipv4 ipv4
    obtain ⟨_, dstIp, -⟩ := dst.located.ipv6 ipv6
    rw [srcIp, dstIp] at family
    cases family
  · obtain ⟨_, srcIp, -⟩ := src.located.ipv6 ipv6
    obtain ⟨_, dstIp, -⟩ := dst.located.ipv4 ipv4
    rw [srcIp, dstIp] at family
    cases family
  · exact src.not_inverted inverted
  · exact dst.not_inverted inverted

lemma exists_packet (direction proto : UInt8) {src dst : PacketEnd}
  (family : src.ip.isIpv6 = dst.ip.isIpv6) :
  ∃ packet : Packet, packet.protocol = proto ∧ packet.endAt (direction == UPLINK_ONLY) = src ∧
    packet.endAt (direction != UPLINK_ONLY) = dst := by
  rw [bne]
  cases direction == UPLINK_ONLY
  · exact ⟨⟨proto, src, dst, family, 0, 0, 0⟩, rfl, rfl, rfl⟩
  · exact ⟨⟨proto, dst, src, family.symm, 0, 0, 0⟩, rfl, rfl, rfl⟩

def Side.ipOf (side : Side) (isIpv6 : Bool) : Ip :=
  if isIpv6 then .v6 side.ip.addr else .v4 side.ip.addr[0]

lemma isIpv6_ipOf (side : Side) (isIpv6 : Bool) : (side.ipOf isIpv6).isIpv6 = isIpv6 := by
  cases isIpv6 <;> rfl

lemma located_ipOf {isIpv6 : Bool} (ipv4 : side.ipv4 = true → isIpv6 = false)
  (ipv6 : side.ipv6 = true → isIpv6 = true) (port : UInt16) :
  side.Located ⟨side.ipOf isIpv6, port⟩ where
  ipv4 present := by
    rw [ipv4 present]
    exact ⟨_, rfl, rfl⟩
  ipv6 present := by
    rw [ipv6 present]
    exact ⟨_, rfl, rfl⟩

lemma exists_located (direction : UInt8) (possible : ¬ (ruleOf description).Contradicts)
  (srcPort dstPort : UInt16) :
  ∃ packet : Packet, packet.protocol = description.proto ∧
    (sideOf description.source).Located (packet.endAt (direction == UPLINK_ONLY)) ∧
    (packet.endAt (direction == UPLINK_ONLY)).port = srcPort ∧
    (sideOf description.destination).Located (packet.endAt (direction != UPLINK_ONLY)) ∧
    (packet.endAt (direction != UPLINK_ONLY)).port = dstPort := by
  have srcFamily := not_ipv4_and_ipv6 description.source
  have dstFamily := not_ipv4_and_ipv6 description.destination
  have mixed : ¬ ((sideOf description.source).ipv4 = true ∧
      (sideOf description.destination).ipv6 = true) := fun both => possible (.inl both)
  have mixed' : ¬ ((sideOf description.source).ipv6 = true ∧
      (sideOf description.destination).ipv4 = true) := fun both => possible (.inr (.inl both))
  let isIpv6 := (sideOf description.source).ipv6 || (sideOf description.destination).ipv6
  obtain ⟨packet, proto, src, dst⟩ := @exists_packet direction description.proto
    ⟨(sideOf description.source).ipOf isIpv6, srcPort⟩
    ⟨(sideOf description.destination).ipOf isIpv6, dstPort⟩
    ((isIpv6_ipOf _ _).trans (isIpv6_ipOf _ _).symm)
  refine ⟨packet, proto, ?_, congrArg PacketEnd.port src, ?_, congrArg PacketEnd.port dst⟩
  · rw [src]
    refine located_ipOf (fun ipv4 => ?_) (fun ipv6 => ?_) srcPort
    · exact Bool.or_eq_false_iff.mpr ⟨Bool.eq_false_iff.mpr fun ipv6 => srcFamily ⟨ipv4, ipv6⟩,
        Bool.eq_false_iff.mpr fun ipv6 => mixed ⟨ipv4, ipv6⟩⟩
    · exact Bool.or_eq_true_iff.mpr (.inl ipv6)
  · rw [dst]
    refine located_ipOf (fun ipv4 => ?_) (fun ipv6 => ?_) dstPort
    · exact Bool.or_eq_false_iff.mpr ⟨Bool.eq_false_iff.mpr fun ipv6 => mixed' ⟨ipv6, ipv4⟩,
        Bool.eq_false_iff.mpr fun ipv6 => dstFamily ⟨ipv4, ipv6⟩⟩
    · exact Bool.or_eq_true_iff.mpr (.inr ipv6)

lemma exists_port (ordered : ¬ range.high < range.low) :
  ∃ port, (range.low ≠ 0 → Within port range) ∧
    (LeftOut range → ¬ (range.isEmpty = true ∨ Within port range)) := by
  by_cases leftOut : LeftOut range
  · exact ⟨0xFFFF, fun named => absurd leftOut.1 named, fun _ => not_port_of_leftOut leftOut⟩
  · exact ⟨range.low, fun _ => ⟨UInt16.le_refl _, UInt16.not_lt.mp ordered⟩,
      fun isLeftOut => absurd isLeftOut leftOut⟩

lemma not_leftOut_of_keepsMeaning
  (known : direction ∈ [DOWNLINK_ONLY, UPLINK_ONLY, BIDIRECTIONAL])
  (keeps : KeepsMeaning direction (ruleOf description))
  (possible : ¬ (ruleOf description).Contradicts) :
  ¬ LeftOut (ruleOf description).src.port ∧ ¬ LeftOut (ruleOf description).dst.port := by
  have srcOrdered : ¬ (ruleOf description).src.port.high < (ruleOf description).src.port.low :=
    fun inverted => possible (.inr (.inr (.inl inverted)))
  have dstOrdered : ¬ (ruleOf description).dst.port.high < (ruleOf description).dst.port.low :=
    fun inverted => possible (.inr (.inr (.inr inverted)))
  obtain ⟨srcPort, srcAsked, srcMissed⟩ := exists_port srcOrdered
  obtain ⟨dstPort, dstAsked, dstMissed⟩ := exists_port dstOrdered
  obtain ⟨packet, proto, src, srcIs, dst, dstIs⟩ :=
    exists_located direction possible srcPort dstPort
  have filtered : (pfContentFromIpfwRule direction (ruleOf description) false).Holds packet :=
    (holds_pfContentFromIpfwRule_iff known description).mpr
      ⟨fun _ => proto, ⟨src, srcIs ▸ srcAsked⟩, ⟨dst, dstIs ▸ dstAsked⟩⟩
  have holds := (keeps.holds packet).mp filtered
  exact ⟨fun leftOut => srcMissed leftOut (srcIs ▸ holds.src.port),
    fun leftOut => dstMissed leftOut (dstIs ▸ holds.dst.port)⟩

/-- The filter of a compiled rule keeps its meaning unless a range from 0 on is left out of it,
and the rule was about some packet. -/
theorem keepsMeaning_iff {flowDescription : String} {rule : IpfwRule} {direction : UInt8}
  (compiled : compileRule flowDescription = some (.ok rule))
  (known : direction ∈ [DOWNLINK_ONLY, UPLINK_ONLY, BIDIRECTIONAL]) :
  KeepsMeaning direction rule ↔
    ¬ LeftOut rule.src.port ∧ ¬ LeftOut rule.dst.port ∨ rule.Contradicts := by
  obtain ⟨description, -, rfl⟩ := compileRule_eq_ok_iff.mp compiled
  have asks (packet : Packet) := @holds_pfContentFromIpfwRule_iff direction packet known description
  constructor
  · intro keeps
    by_cases contradicts : (ruleOf description).Contradicts
    · exact .inr contradicts
    · exact .inl (not_leftOut_of_keepsMeaning known keeps contradicts)
  · intro fine
    refine ⟨fun packet => ?_, measured_pfContentFromIpfwRule _ _ _⟩
    rw [asks]
    rcases fine with ⟨src, dst⟩ | contradicts
    · constructor
      · rintro ⟨proto, srcFiltered, dstFiltered⟩
        exact ⟨proto, (Side.holds_iff_filtered src).mpr srcFiltered,
          (Side.holds_iff_filtered dst).mpr dstFiltered⟩
      · exact fun holds => ⟨holds.proto, .of_holds holds.src, .of_holds holds.dst⟩
    · constructor
      · rintro ⟨-, src, dst⟩
        exact absurd contradicts (not_contradicts_of_filtered src dst)
      · intro holds
        exact absurd contradicts
          (not_contradicts_of_filtered (.of_holds holds.src) (.of_holds holds.dst))

/-- A network and a port on the downlink. -/
theorem keepsMeaning_network : KeepsMeaning DOWNLINK_ONLY
    ⟨17, ⟨true, false, .fromIpv4 0x0A000000 24, .none⟩,
      { Side.none with port := .single 80 }⟩ := by
  have compiled : compileRule "permit out 17 from 10.0.0.0/24 to any 80" = some (.ok
      ⟨17, ⟨true, false, .fromIpv4 0x0A000000 24, .none⟩,
        { Side.none with port := .single 80 }⟩) := by
    decide
  refine (keepsMeaning_iff compiled (by decide)).mpr (.inl ⟨?_, ?_⟩)
  · exact fun leftOut => leftOut.2.1 rfl
  · exact fun leftOut => absurd leftOut.1 (by decide)

/-- The ports up to 80, of which the filter says nothing. -/
theorem not_keepsMeaning : ¬ ∀ (flowDescription : String) (rule : IpfwRule) (direction : UInt8),
    compileRule flowDescription = some (.ok rule) →
      direction ∈ [DOWNLINK_ONLY, UPLINK_ONLY, BIDIRECTIONAL] → KeepsMeaning direction rule := by
  intro always
  have compiled : compileRule "permit out 17 from any 0-80 to any" =
      some (.ok ⟨17, { Side.none with port := ⟨0, 80⟩ }, .none⟩) := by
    decide
  have keeps := always _ _ DOWNLINK_ONLY compiled (by decide)
  let packet : Packet := ⟨17, ⟨.v4 0x0A000001, 443⟩, ⟨.v4 0x0A000002, 5000⟩, rfl, 0, 0, 0⟩
  have filtered : (pfContentFromIpfwRule DOWNLINK_ONLY
      ⟨17, { Side.none with port := ⟨0, 80⟩ }, .none⟩ false).Holds packet := by
    intro component among
    have only : component = .protocol 17 := List.mem_singleton.mp among
    rw [only]
    rfl
  have within := ((keeps.holds packet).mp filtered).src.port
  exact absurd within (by decide)

end NextGCore.Ipfw
