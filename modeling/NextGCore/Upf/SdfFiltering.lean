import NextGCore.Ipfw.Compilation
import NextGCore.Upf.FlowDescription

/-!
# What an SDF filter lets through

A flow description says which packets it is about: its protocol, its prefixes and its ranges of
ports, of an IPv4 or an IPv6 packet.  The data plane sees the description through the rule that
was compiled of it, and the packet through a tuple of IPv4 fields.
-/

namespace NextGCore.Upf

open Option Nat UInt32 Prod PacketTuple DataPlaneSession
open Ipfw (parsePortRange parseProtocol ruleOf sideOf)
open Sbi (splitWhitespace)

variable {text : String}

structure PacketFacts where
  protocol : UInt8
  source : IpAddr
  destination : IpAddr
  ports : Option (UInt16 × UInt16)

namespace PacketFacts

variable (packet : Bytes)

def portsAt (protocol : UInt8) (start : ℕ) : Option (UInt16 × UInt16) :=
  if (protocol = 6 ∨ protocol = 17) ∧ start + 4 ≤ packet.length then
    some (portAt packet start, portAt packet (start + 2))
  else none

def asIpv4 : Option PacketFacts :=
  if packet.length < 20 then none
  else
    some {
      protocol := packet.getD 9 0
      source := .v4 (addressAt packet 12)
      destination := .v4 (addressAt packet 16)
      ports := portsAt packet (packet.getD 9 0) ((packet.getD 0 0 &&& 0x0F).toNat * 4)
    }

def ipv6At (start : ℕ) : IpAddr :=
  .v6 (BitVec.ofNat 128
    (((packet.drop start).take 16).foldl (fun value octet => 256 * value + octet.toNat) 0))

def asIpv6 : Option PacketFacts :=
  if packet.length < 40 then none
  else
    some {
      protocol := packet.getD 6 0
      source := ipv6At packet 8
      destination := ipv6At packet 24
      ports := portsAt packet (packet.getD 6 0) 40
    }

def version : UInt8 := packet.getD 0 0 >>> 4

def ofPacket : Option PacketFacts :=
  if version packet = 4 then asIpv4 packet
  else if version packet = 6 then asIpv6 packet
  else none

end PacketFacts

namespace AddressRange

def SamePrefix (width prefixLen address ip : ℕ) : Prop :=
  address / 2 ^ (width - prefixLen) = ip / 2 ^ (width - prefixLen)

def number (octets : Vector UInt8 16) : ℕ :=
  octets.toList.foldl (fun value octet => 256 * value + octet.toNat) 0

def Contains : AddressRange → IpAddr → Prop
  | .any, _ => True
  | .v4 address prefixLen, .v4 ip => SamePrefix 32 prefixLen.toNat address.toNat ip.toNat
  | .v6 address prefixLen, .v6 ip => SamePrefix 128 prefixLen.toNat (number address) ip.toNat
  | _, _ => False

def NamesIpv6 : AddressRange → Prop
  | .v6 _ _ => True
  | _ => False

def Fits : AddressRange → Prop
  | .any => True
  | .v4 _ prefixLen => prefixLen ≤ 32
  | .v6 _ prefixLen => prefixLen ≤ 128

end AddressRange

namespace Endpoint

variable (endpoint : Endpoint)

def Allows (ip : IpAddr) (port : Option UInt16) : Prop :=
  endpoint.range.Contains ip ∧
    ∀ ports ∈ endpoint.ports, ∃ carried ∈ port, ports.low ≤ carried ∧ carried ≤ ports.high

/-- An IPv4 prefix without the address, or a range of ports without the port.  The range 0–0 is
none, and the port of a packet without ports is 0. -/
def Excludes (ip : IpAddr) (port : Option UInt16) : Prop :=
  (∃ address prefixLen, endpoint.range = .v4 address prefixLen ∧ ¬ endpoint.range.Contains ip) ∨
    ∃ ports ∈ endpoint.ports, ports ≠ .none ∧ ¬ (ports.low ≤ port.getD 0 ∧ port.getD 0 ≤ ports.high)

/-- The port that is asked for is there, and is 0 when the range is 0–0. -/
def PortCarried (port : Option UInt16) : Prop :=
  ∀ ports ∈ endpoint.ports, ∃ carried ∈ port, ports = .none → carried = 0

end Endpoint

namespace FlowDescription

structure Describes (description : FlowDescription) (facts : PacketFacts) : Prop where
  protocol : description.proto = 0 ∨ description.proto = facts.protocol
  source : description.source.Allows facts.source (facts.ports.map fst)
  destination : description.destination.Allows facts.destination (facts.ports.map snd)

def Excludes (description : FlowDescription) (facts : PacketFacts) : Prop :=
  (description.proto ≠ 0 ∧ description.proto ≠ facts.protocol) ∨
    description.source.Excludes facts.source (facts.ports.map fst) ∨
    description.destination.Excludes facts.destination (facts.ports.map snd)

def NamesIpv6 (description : FlowDescription) : Prop :=
  description.source.range.NamesIpv6 ∨ description.destination.range.NamesIpv6

def PortsCarried (description : FlowDescription) (facts : PacketFacts) : Prop :=
  description.source.PortCarried (facts.ports.map fst) ∧
    description.destination.PortCarried (facts.ports.map snd)

/-- What the data plane sees of the rule of a description. -/
def rule (description : FlowDescription) : IpfwRule := firstWords (ruleOf description)

def WellFormed (text : String) (description : FlowDescription) : Prop :=
  ∃ proto source destination,
    splitWhitespace text = "permit" :: "out" :: proto :: "from" :: source ++ "to" :: destination ∧
    source.length ≤ 2 ∧ destination.length ≤ 2 ∧
    parseProtocol proto = .ok description.proto ∧
    Endpoint.read source = some description.source ∧
    Endpoint.read destination = some description.destination ∧
    description.source.range.Fits ∧ description.destination.range.Fits

end FlowDescription

variable {description : FlowDescription}

/-- What the filter is for: the text is a description, of this packet among others. -/
def Described (text : String) (packet : Bytes) : Prop :=
  ∃ description, FlowDescription.WellFormed text description ∧
    ∃ facts, PacketFacts.ofPacket packet = some facts ∧ description.Describes facts

lemma toOption_compileRule (text : String) : (compileRule text).bind Except.toOption =
    (FlowDescription.read text).map FlowDescription.rule := by
  have whole := congrArg (Option.map firstWords) (Ipfw.toOption_compileRule text)
  rw [Option.map_map] at whole
  refine Eq.trans ?_ whole
  rw [compileRule]
  cases Ipfw.compileRule text with
  | none => rfl
  | some answer => cases answer <;> rfl

lemma and_mask_eq_iff {width shift : ℕ} (short : shift ≤ width) {first second : ℕ}
  (firstFits : first < 2 ^ width) (secondFits : second < 2 ^ width) :
  first &&& (2 ^ width - 2 ^ shift) = second &&& (2 ^ width - 2 ^ shift) ↔
    first / 2 ^ shift = second / 2 ^ shift := by
  have bit (index : ℕ) : (2 ^ width - 2 ^ shift).testBit index =
      (decide (index < width) && !decide (index < shift)) := by
    have small : 2 ^ shift - 1 < 2 ^ width :=
      lt_of_lt_of_le (sub_lt (Nat.two_pow_pos shift) Nat.one_pos)
        (Nat.pow_le_pow_right Nat.two_pos short)
    have shape : 2 ^ width - 2 ^ shift = 2 ^ width - (2 ^ shift - 1 + 1) := by
      rw [Nat.sub_add_cancel (Nat.two_pow_pos shift)]
    rw [shape, testBit_two_pow_sub_succ small, testBit_two_pow_sub_one]
  constructor
  · intro same
    apply eq_of_testBit_eq
    intro index
    rw [testBit_div_two_pow, testBit_div_two_pow]
    by_cases inside : index + shift < width
    · have at' := congrArg (fun value => value.testBit (index + shift)) same
      simp only [testBit_and, bit, inside, decide_true,
        decide_eq_false (Nat.not_lt.mpr (Nat.le_add_left shift index)), Bool.not_false,
        Bool.and_true] at at'
      exact at'
    · have beyond : 2 ^ width ≤ 2 ^ (index + shift) :=
        Nat.pow_le_pow_right Nat.two_pos (not_lt.mp inside)
      rw [testBit_lt_two_pow (firstFits.trans_le beyond),
        testBit_lt_two_pow (secondFits.trans_le beyond)]
  · intro same
    apply eq_of_testBit_eq
    intro index
    rw [testBit_and, testBit_and, bit]
    by_cases low : index < shift
    · simp [low]
    · have at' := congrArg (fun value => value.testBit (index - shift)) same
      simp only [testBit_div_two_pow, Nat.sub_add_cancel (not_lt.mp low)] at at'
      rw [at']

lemma toNat_maskOf (prefixLen : UInt8) :
  (Ipfw.IpAddrMask.maskOf prefixLen).toNat = 2 ^ 32 - 2 ^ (32 - prefixLen.toNat) := by
  unfold Ipfw.IpAddrMask.maskOf
  by_cases whole : 32 ≤ prefixLen
  · have long : 32 ≤ prefixLen.toNat := UInt8.le_iff_toNat_le.mp whole
    rw [if_pos whole, Nat.sub_eq_zero_of_le long]
    rfl
  · rw [if_neg whole]
    have short : prefixLen.toNat < 32 := UInt8.lt_iff_toNat_lt.mp (UInt8.not_le.mp whole)
    by_cases empty : prefixLen = 0
    · rw [if_pos empty, empty]
      rfl
    · rw [if_neg empty]
      have positive : 0 < prefixLen.toNat :=
        UInt8.lt_iff_toNat_lt.mp (UInt8.pos_iff_ne_zero.mpr empty)
      have fits : prefixLen.toUInt32 ≤ 32 := by
        rw [le_iff_toNat_le, UInt8.toNat_toUInt32]
        exact short.le
      have count : (32 - prefixLen.toUInt32).toNat = 32 - prefixLen.toNat := by
        rw [UInt32.toNat_sub_of_le _ _ fits, UInt8.toNat_toUInt32]
        rfl
      have turns : 32 - prefixLen.toNat < 32 := sub_lt (by decide) positive
      have power : ((1 : UInt32) <<< (32 - prefixLen.toUInt32)).toNat =
          2 ^ (32 - prefixLen.toNat) := by
        rw [UInt32.toNat_shiftLeft, count, mod_eq_of_lt turns, toNat_one, one_shiftLeft]
        exact mod_eq_of_lt (Nat.pow_lt_pow_right Nat.one_lt_two turns)
      have least : (1 : UInt32) ≤ 1 <<< (32 - prefixLen.toUInt32) := by
        rw [le_iff_toNat_le, power]
        exact Nat.two_pow_pos _
      rw [toNat_not, UInt32.toNat_sub_of_le _ _ least, power]
      have room := Nat.two_pow_pos (32 - prefixLen.toNat)
      simp only [UInt32.size, toNat_one]
      omega

lemma within_fromIpv4_iff (ip address : UInt32) (prefixLen : UInt8) :
  within ip (firstWord (.fromIpv4 address prefixLen)) = true ↔
    AddressRange.SamePrefix 32 prefixLen.toNat address.toNat ip.toNat := by
  have masked := and_mask_eq_iff (sub_le 32 prefixLen.toNat) ip.toNat_lt address.toNat_lt
  unfold AddressRange.SamePrefix
  change (ip &&& Ipfw.IpAddrMask.maskOf prefixLen ==
    address &&& Ipfw.IpAddrMask.maskOf prefixLen) = true ↔ _
  rw [beq_iff_eq, ← UInt32.toNat_inj, UInt32.toNat_and, UInt32.toNat_and, toNat_maskOf, masked]
  exact eq_comm

structure RuleEnd where
  ipv4 : Bool
  ip : IpAddrMask
  port : PortRange

def IpfwRule.endOf (rule : IpfwRule) (isSrc : Bool) : RuleEnd :=
  if isSrc then ⟨rule.ipv4Src, rule.ipSrc, rule.portSrc⟩
  else ⟨rule.ipv4Dst, rule.ipDst, rule.portDst⟩

def RuleEnd.passes (asked : RuleEnd) (ip : UInt32) (port : UInt16) : Bool :=
  (!asked.ipv4 || within ip asked.ip) && inRange port asked.port

lemma matchesRule_eq (tuple : PacketTuple) (rule : IpfwRule) :
  tuple.matchesRule rule = ((rule.proto == 0 || rule.proto == tuple.protocol) &&
    (rule.endOf true).passes tuple.srcIp tuple.srcPort &&
    (rule.endOf false).passes tuple.dstIp tuple.dstPort) := by
  simp only [matchesRule, IpfwRule.endOf, RuleEnd.passes, ↓reduceIte,
    Bool.false_eq_true, Bool.and_assoc, Bool.and_left_comm, Bool.and_comm]

namespace Endpoint

variable (endpoint : Endpoint)

def asked : RuleEnd :=
  let side := sideOf endpoint
  ⟨side.ipv4, firstWord side.ip, side.port⟩

lemma inRange_iff (port : UInt16) (ports : PortRange) : inRange port ports = true ↔
    (ports ≠ .none → ports.low ≤ port ∧ port ≤ ports.high) := by
  have empty : ports.isEmpty = true ↔ ports = .none := by
    obtain ⟨low, high⟩ := ports
    simp [PortRange.isEmpty, PortRange.none]
  unfold inRange
  rw [Bool.or_eq_true, empty, decide_eq_true_iff]
  exact or_iff_not_imp_left

lemma range_passes_iff (ip : UInt32) :
  (!endpoint.asked.ipv4 || within ip endpoint.asked.ip) = true ↔
    ¬ ∃ address prefixLen, endpoint.range = .v4 address prefixLen ∧
      ¬ endpoint.range.Contains (.v4 ip) := by
  obtain ⟨range, ports⟩ := endpoint
  cases range with
  | any => simp [asked, sideOf, Ipfw.Side.none]
  | v6 address prefixLen => simp [asked, sideOf]
  | v4 address prefixLen => simp [asked, sideOf, AddressRange.Contains, within_fromIpv4_iff]

lemma port_passes_iff (port : Option UInt16) :
  inRange (port.getD 0) endpoint.asked.port = true ↔ ¬ ∃ ports ∈ endpoint.ports, ports ≠ .none ∧
      ¬ (ports.low ≤ port.getD 0 ∧ port.getD 0 ≤ ports.high) := by
  have port' : endpoint.asked.port = endpoint.ports.getD .none := by
    unfold asked sideOf
    cases endpoint.range <;> rfl
  rw [inRange_iff, port']
  cases endpoint.ports with
  | none => simp
  | some ports => simp

lemma passes_asked_iff (ip : UInt32) (port : Option UInt16) :
  endpoint.asked.passes ip (port.getD 0) = true ↔ ¬ endpoint.Excludes (.v4 ip) port := by
  unfold RuleEnd.passes Excludes
  rw [Bool.and_eq_true, range_passes_iff, port_passes_iff, not_or]

lemma contains_iff (range : AddressRange) (ip : UInt32) :
  range.Contains (.v4 ip) ↔ ¬ (∃ address prefixLen, range = .v4 address prefixLen ∧
    ¬ range.Contains (.v4 ip)) ∧ ¬ range.NamesIpv6 := by
  cases range with
  | any | v4 address prefixLen | v6 address prefixLen =>
    simp [AddressRange.Contains, AddressRange.NamesIpv6]

lemma ports_allow_iff (port : Option UInt16) :
  (∀ ports ∈ endpoint.ports, ∃ carried ∈ port, ports.low ≤ carried ∧ carried ≤ ports.high) ↔
    (¬ ∃ ports ∈ endpoint.ports, ports ≠ .none ∧
      ¬ (ports.low ≤ port.getD 0 ∧ port.getD 0 ≤ ports.high)) ∧
    endpoint.PortCarried port := by
  unfold PortCarried
  cases endpoint.ports with
  | none => simp
  | some ports =>
    cases port with
    | none => simp
    | some carried =>
      by_cases empty : ports = .none
      · simp [empty, PortRange.none, UInt16.le_zero_iff]
      · simp [empty]

lemma allows_iff (ip : UInt32) (port : Option UInt16) :
  endpoint.Allows (.v4 ip) port ↔ ¬ endpoint.Excludes (.v4 ip) port ∧
    ¬ endpoint.range.NamesIpv6 ∧ endpoint.PortCarried port := by
  unfold Allows Excludes
  rw [not_or]
  exact (and_congr (contains_iff endpoint.range ip) (ports_allow_iff endpoint port)).trans
    and_and_and_comm

end Endpoint

namespace FlowDescription

variable {packet : Bytes} {facts : PacketFacts} (description : FlowDescription) {token : String}

lemma fromIpv4Packet_eq (packet : Bytes) :
  fromIpv4Packet packet = (PacketFacts.asIpv4 packet).map fun facts =>
    ⟨addressAt packet 12, addressAt packet 16, facts.protocol,
      (facts.ports.map fst).getD 0, (facts.ports.map snd).getD 0⟩ := by
  unfold fromIpv4Packet PacketFacts.asIpv4
  split
  · rfl
  · simp only [map_some, Option.some.injEq, PacketFacts.portsAt, Bool.and_eq_true,
      Bool.or_eq_true, beq_iff_eq, decide_eq_true_iff]
    split <;> rfl

@[simp]
lemma proto_rule : description.rule.proto = description.proto := rfl

@[simp]
lemma endOf_rule_true : description.rule.endOf true = description.source.asked := rfl

@[simp]
lemma endOf_rule_false : description.rule.endOf false = description.destination.asked := rfl

section

variable (read : PacketFacts.asIpv4 packet = some facts)

include read

lemma addresses_asIpv4 :
  facts.source = .v4 (addressAt packet 12) ∧ facts.destination = .v4 (addressAt packet 16) := by
  unfold PacketFacts.asIpv4 at read
  split at read
  · cases read
  · cases read
    exact ⟨rfl, rfl⟩

lemma sdfMatches_rule_iff :
  sdfMatches (some description.rule) (fromIpv4Packet packet) =
    true ↔ ¬ description.Excludes facts := by
  obtain ⟨source, destination⟩ := addresses_asIpv4 read
  have protocol : (description.proto == 0 || description.proto == facts.protocol) = true ↔
      ¬ (description.proto ≠ 0 ∧ description.proto ≠ facts.protocol) := by
    rw [Bool.or_eq_true, beq_iff_eq, beq_iff_eq]
    tauto
  rw [fromIpv4Packet_eq, read]
  simp only [sdfMatches, all_some, map_some, any_some,
    matchesRule_eq, proto_rule, endOf_rule_true, endOf_rule_false]
  rw [Bool.and_eq_true, Bool.and_eq_true, protocol, Endpoint.passes_asked_iff,
    Endpoint.passes_asked_iff, Excludes, source, destination, not_or, not_or, and_assoc]

lemma describes_iff :
  description.Describes facts ↔ ¬ description.Excludes facts ∧
    ¬ description.NamesIpv6 ∧ description.PortsCarried facts := by
  obtain ⟨source, destination⟩ := addresses_asIpv4 read
  have first := description.source.allows_iff (addressAt packet 12)
    (facts.ports.map fst)
  have second := description.destination.allows_iff (addressAt packet 16)
    (facts.ports.map snd)
  rw [← source] at first
  rw [← destination] at second
  unfold Excludes NamesIpv6 PortsCarried
  constructor
  · rintro ⟨protocol, from', to'⟩
    have from' := first.mp from'
    have to' := second.mp to'
    tauto
  · rintro ⟨open', ipv4, carried⟩
    refine ⟨?_, first.mpr ?_, second.mpr ?_⟩ <;> tauto

end

lemma ne_of_parseProtocol {proto : UInt8} (parsed : parseProtocol token = .ok proto) :
  token ≠ "from" ∧ token ≠ "to" := by
  constructor
  · rintro rfl
    exact absurd (congrArg Except.toOption parsed)
      (show (parseProtocol "from").toOption ≠ some proto by
        rw [show (parseProtocol "from").toOption = none by decide]
        exact nofun)
  · rintro rfl
    exact absurd (congrArg Except.toOption parsed)
      (show (parseProtocol "to").toOption ≠ some proto by
        rw [show (parseProtocol "to").toOption = none by decide]
        exact nofun)

lemma notMem_of_read {tokens : List String} {endpoint : Endpoint} (short : tokens.length ≤ 2)
  (read : Endpoint.read tokens = some endpoint) : "to" ∉ tokens := by
  have address : AddressRange.read "to" = none := by decide
  have port : (parsePortRange "to").toOption = none := by decide
  match tokens, short with
  | [], _ => exact List.not_mem_nil
  | [token], _ =>
    intro member
    obtain rfl := List.mem_singleton.mp member
    simp [Endpoint.read, address] at read
  | [token, portStr], _ =>
    intro member
    obtain rfl | member := List.mem_cons.mp member
    · simp [Endpoint.read, address] at read
    · obtain rfl := List.mem_singleton.mp member
      simp [Endpoint.read, port] at read

lemma idxOf?_append_of_notMem (before after : List String) (absent : token ∉ before) :
  (before ++ token :: after).idxOf? token = some before.length := by
  induction before with
  | nil => simp [List.idxOf?_cons]
  | cons first before ih =>
    have other : first ≠ token := fun same => absent (same ▸ List.mem_cons_self)
    have absent : token ∉ before := fun member => absent (List.mem_cons_of_mem _ member)
    rw [List.cons_append, List.idxOf?_cons, if_neg (by simpa using other), ih absent]
    rfl

lemma read_of_wellFormed {text : String} {description : FlowDescription}
  (formed : WellFormed text description) : read text = some description := by
  obtain ⟨proto, source, destination, tokens, shortSource, -, protocol, first, second, -, -⟩ :=
    formed
  obtain ⟨notFrom, notTo⟩ := ne_of_parseProtocol protocol
  have from' : (splitWhitespace text).idxOf? "from" = some 3 := by
    rw [tokens]
    exact idxOf?_append_of_notMem ["permit", "out", proto] _ (by simp [notFrom.symm])
  have to' : (splitWhitespace text).idxOf? "to" = some (4 + source.length) := by
    rw [tokens, idxOf?_append_of_notMem]
    · simp only [List.length_cons, Option.some.injEq]
      omega
    · have absent := notMem_of_read shortSource first
      simp [notTo.symm, absent]
  have start : (splitWhitespace text).head? = some "permit" ∧
      (splitWhitespace text)[1]? = some "out" ∧ (splitWhitespace text)[2]? = some proto := by
    rw [tokens]
    exact ⟨rfl, rfl, rfl⟩
  have between : ((splitWhitespace text).take (4 + source.length)).drop (3 + 1) = source := by
    rw [tokens]
    simp [Nat.add_comm 4]
  have rest : (splitWhitespace text).drop (4 + source.length + 1) = destination := by
    rw [tokens]
    simp [Nat.add_comm 4]
  obtain ⟨permit, out, third⟩ := start
  unfold read readEnds
  dsimp only
  rw [if_pos ⟨permit, out⟩, third, from', to']
  simp only [bind_eq_bind, bind_some, protocol, Except.toOption, between, rest, first, second]
  rw [if_neg (by omega)]

end FlowDescription

def seen (uplink : Bool) (packet : Bytes) : Option PacketTuple :=
  if uplink then fromIpv4Packet packet else downlinkTuple packet

/-- The rule sees what there is to see.  Of an IPv4 packet that it lets through, nothing that
the text asks for was missed; of any other packet, what it takes for IPv4 fields answers as the
packet does. -/
structure Sees (text : String) (description : FlowDescription) (uplink : Bool) (packet : Bytes) :
  Prop where
  ipv4 : PacketFacts.version packet = 4 → ∀ facts ∈ PacketFacts.asIpv4 packet,
    description.Excludes facts ∨ (FlowDescription.WellFormed text description ∧
      ¬ description.NamesIpv6 ∧ description.PortsCarried facts)
  downlink : PacketFacts.version packet ≠ 4 → uplink = false → ¬ Described text packet
  uplink : PacketFacts.version packet ≠ 4 → uplink = true →
    ((∃ facts ∈ PacketFacts.asIpv4 packet, ¬ description.Excludes facts) ↔ Described text packet)

lemma sdfMatches_fromIpv4Packet_iff (description : FlowDescription) (packet : Bytes) :
  sdfMatches (some description.rule) (fromIpv4Packet packet) =
    true ↔ ∃ facts ∈ PacketFacts.asIpv4 packet, ¬ description.Excludes facts := by
  cases read : PacketFacts.asIpv4 packet with
  | none =>
    rw [FlowDescription.fromIpv4Packet_eq, read]
    simp [sdfMatches]
  | some facts =>
    rw [description.sdfMatches_rule_iff read]
    simp

lemma described_iff_of_ipv4 {packet : Bytes}
  (read : FlowDescription.read text = some description) (ipv4 : PacketFacts.version packet = 4) :
  Described text packet ↔ ∃ facts ∈ PacketFacts.asIpv4 packet,
    FlowDescription.WellFormed text description ∧ ¬ description.Excludes facts ∧
      ¬ description.NamesIpv6 ∧ description.PortsCarried facts := by
  have facts : PacketFacts.ofPacket packet = PacketFacts.asIpv4 packet := if_pos ipv4
  constructor
  · rintro ⟨other, formed, facts', found, describes⟩
    obtain rfl : description = other :=
      Option.some.inj (read.symm.trans (FlowDescription.read_of_wellFormed formed))
    rw [facts] at found
    exact ⟨facts', found, formed, (description.describes_iff found).mp describes⟩
  · rintro ⟨facts', found, formed, describes⟩
    exact ⟨description, formed, facts', facts.trans found,
      (description.describes_iff found).mpr describes⟩

lemma matches_iff_described_iff (uplink : Bool) (packet : Bytes)
  (read : FlowDescription.read text = some description) :
  (sdfMatches (some description.rule) (seen uplink packet) = true ↔
    Described text packet) ↔ Sees text description uplink packet := by
  by_cases ipv4 : PacketFacts.version packet = 4
  · have tuple : seen uplink packet = fromIpv4Packet packet := by
      have downlink : downlinkTuple packet = fromIpv4Packet packet := if_pos (beq_iff_eq.mpr ipv4)
      rw [seen, downlink, ite_self]
    rw [tuple, sdfMatches_fromIpv4Packet_iff, described_iff_of_ipv4 read ipv4]
    constructor
    · intro same
      refine ⟨fun _ facts found => ?_, fun other => absurd ipv4 other,
        fun other => absurd ipv4 other⟩
      by_cases excluded : description.Excludes facts
      · exact .inl excluded
      · obtain ⟨facts', found', formed, -, rest⟩ := same.mp ⟨facts, found, excluded⟩
        obtain rfl : facts = facts' := mem_unique found found'
        exact .inr ⟨formed, rest⟩
    · intro sees
      constructor
      · rintro ⟨facts, found, open'⟩
        obtain excluded | ⟨formed, rest⟩ := sees.ipv4 ipv4 facts found
        · exact absurd excluded open'
        · exact ⟨facts, found, formed, open', rest⟩
      · rintro ⟨facts, found, -, open', -⟩
        exact ⟨facts, found, open'⟩
  · cases uplink with
    | true =>
      rw [show seen true packet = fromIpv4Packet packet from rfl, sdfMatches_fromIpv4Packet_iff]
      exact ⟨fun same => ⟨fun is => absurd is ipv4, fun _ => nofun, fun _ _ => same⟩,
        fun sees => sees.uplink ipv4 rfl⟩
    | false =>
      have tuple : downlinkTuple packet = none :=
        if_neg fun same => ipv4 (beq_iff_eq.mp same)
      rw [show seen false packet = none from tuple]
      have never : sdfMatches (some description.rule) none ≠ true := by
        simp [sdfMatches]
      exact ⟨fun same => ⟨fun is => absurd is ipv4, fun _ _ described =>
          never (same.mpr described), fun _ => nofun⟩,
        fun sees => ⟨fun matched => absurd matched never,
          fun described => absurd described (sees.downlink ipv4 rfl)⟩⟩

/-- A filter matches the packets that its text describes exactly if the text is one that reads
as a description and the rule sees of the packet all that the text asks. -/
theorem sdf_matches_iff_described (text : String) (uplink : Bool) (packet : Bytes) :
  (∀ rule, compileSdf (some text) = some rule →
    (sdfMatches rule (seen uplink packet) = true ↔ Described text packet)) ↔
  (compileRule text ≠ none → ∃ description, FlowDescription.read text = some description ∧
    Sees text description uplink packet) := by
  have compiled := toOption_compileRule text
  rw [show compileSdf (some text) = (compileRule text).map Except.toOption from rfl]
  cases outcome : compileRule text with
  | none => simp
  | some result =>
    rw [outcome] at compiled
    cases result with
    | error error =>
      have unread := map_eq_none_iff.mp compiled.symm
      constructor
      · intro same
        obtain ⟨description, formed, -⟩ := (same none rfl).mp rfl
        exact absurd (FlowDescription.read_of_wellFormed formed) (unread ▸ nofun)
      · intro sees
        obtain ⟨description, read, -⟩ := sees nofun
        exact absurd read (unread ▸ nofun)
    | ok rule =>
      obtain ⟨description, read, rfl⟩ := map_eq_some_iff.mp compiled.symm
      have same := matches_iff_described_iff uplink packet read
      constructor
      · intro matched _
        exact ⟨description, read, same.mp (matched _ rfl)⟩
      · intro sees rule' installed
        obtain ⟨other, read', sees⟩ := sees nofun
        obtain rfl : description = other := Option.some.inj (read.symm.trans read')
        cases installed
        exact same.mpr sees

/-- A description of what is denied does not compile, and the PDR matches every packet. -/
theorem uncompiled_filter_matches :
  let text := "deny out ip from any to any"
  let packet : Bytes :=
    [0x45, 0, 0, 20, 0, 0, 0, 0, 64, 17, 0, 0, 10, 45, 0, 2, 8, 8, 8, 8]
  compileSdf (some text) = some none ∧
    sdfMatches none (seen true packet) = true ∧ ¬ Described text packet := by
  refine ⟨by decide, by decide, ?_⟩
  rintro ⟨description, formed, -⟩
  have unread : FlowDescription.read "deny out ip from any to any" = none := by decide
  exact absurd (FlowDescription.read_of_wellFormed formed) (unread ▸ nofun)

end NextGCore.Upf
