import NextGCore.Upf.ContextCoherence
import NextGCore.Upf.DataPlane

/-!
# The session of a packet

`rule_match.rs` finds the session that a packet is for by the destination address.  The headers are
read as structures in memory: the octets of an IPv6 address make words in network order, while an
IPv4 address is a word of the host, which is little-endian.
-/

namespace NextGCore.Upf

open Library PacketTuple

variable {data : Bytes}

def IP_VERSION_4 : UInt8 := 4

def IP_VERSION_6 : UInt8 := 6

def IPV4_MIN_HEADER_LEN : ℕ := 20

def IPV6_HEADER_LEN : ℕ := 40

def hostU32At (data : Bytes) (start : ℕ) : UInt32 :=
  beU32 (data.getD (start + 3) 0) (data.getD (start + 2) 0) (data.getD (start + 1) 0)
    (data.getD start 0)

structure Ipv4Header where
  versionIhl : UInt8
  saddr : UInt32
  daddr : UInt32

namespace Ipv4Header

def ofPacket (data : Bytes) : Ipv4Header := ⟨data.getD 0 0, hostU32At data 12, hostU32At data 16⟩

def version (header : Ipv4Header) : UInt8 := (header.versionIhl >>> 4) &&& 0x0F

def dstAddr (header : Ipv4Header) : UInt32 := header.daddr

end Ipv4Header

structure Ipv6Header where
  saddr : Bytes
  daddr : Bytes

namespace Ipv6Header

def ofPacket (data : Bytes) : Ipv6Header := ⟨(data.drop 8).take 16, (data.drop 24).take 16⟩

def dstAddr (header : Ipv6Header) : IpWords :=
  ⟨addressAt header.daddr 0, addressAt header.daddr 4,
    addressAt header.daddr 8, addressAt header.daddr 12⟩

end Ipv6Header

def versionOf (data : Bytes) : UInt8 := (data.getD 0 0 >>> 4) &&& 0x0F

def upfSessFindByUeIpAddress (context : UpfContext) (data : Bytes) : Option UpfSess :=
  if data.isEmpty then none
  else if versionOf data = IP_VERSION_4 then
    if data.length < IPV4_MIN_HEADER_LEN then none
    else if (Ipv4Header.ofPacket data).version ≠ IP_VERSION_4 then none
    else context.sessFindByIpv4 (Ipv4Header.ofPacket data).dstAddr
  else if versionOf data = IP_VERSION_6 then
    if data.length < IPV6_HEADER_LEN then none
    else context.sessFindByIpv6 (Ipv6Header.ofPacket data).dstAddr
  else none

namespace AddressFamily

variable {Address Key : Type} (family : AddressFamily Address Key)

/-- The longest of the framed routes that contain the address is the live session's. -/
def Routed (context : UpfContext) (addr : Address) (sess : UpfSess) : Prop :=
  ∃ path id, LongestWith (family.trie context).lookup (family.bits addr) path ∧
    (family.trie context).lookup path = some id ∧ context.sessFindById id = some sess

lemma routed_iff (context : UpfContext) (addr : Address) (sess : UpfSess) :
  family.Routed context addr sess ↔
    (longestPrefix (family.trie context).lookup (family.bits addr)).bind
      context.sessFindById = some sess := by
  rw [Option.bind_eq_some_iff]
  constructor
  · rintro ⟨path, id, longest, found, stored⟩
    exact ⟨id, longestPrefix_eq_some_iff.mpr ⟨path, longest, found⟩, stored⟩
  · rintro ⟨id, found, stored⟩
    obtain ⟨path, longest, found⟩ := longestPrefix_eq_some_iff.mp found
    exact ⟨path, id, longest, found, stored⟩

variable [DecidableEq Key]

/-- `sess_set_ue_ip` has put the live session under the address. -/
def Registered (context : UpfContext) (addr : Address) (sess : UpfSess) : Prop :=
  ∃ id, (family.hash context).lookup (family.key addr) = some id ∧
    context.sessFindById id = some sess

/-- The framed routes are for the addresses that no session is registered for. -/
def Owns (context : UpfContext) (addr : Address) (sess : UpfSess) : Prop :=
  family.Registered context addr sess ∨
    (∀ other, ¬ family.Registered context addr other) ∧ family.Routed context addr sess

lemma registered_iff (context : UpfContext) (addr : Address) (sess : UpfSess) :
  family.Registered context addr sess ↔
    ((family.hash context).lookup (family.key addr)).bind context.sessFindById = some sess := by
  rw [Option.bind_eq_some_iff, Registered]

lemma find_eq_some_iff (context : UpfContext) (addr : Address) (sess : UpfSess) :
  family.find context addr = some sess ↔ family.Owns context addr sess := by
  rw [find, RoutedIndex.find, Option.or_eq_some_iff, Owns, registered_iff, routed_iff,
    Option.eq_none_iff_forall_ne_some]
  simp only [registered_iff]
  rfl

end AddressFamily

def IsIpv4Packet (data : Bytes) : Prop :=
  IPV4_MIN_HEADER_LEN ≤ data.length ∧ versionOf data = IP_VERSION_4

def IsIpv6Packet (data : Bytes) : Prop :=
  IPV6_HEADER_LEN ≤ data.length ∧ versionOf data = IP_VERSION_6

def ipv4Destination (data : Bytes) : UInt32 := addressAt data 16

def ipv6Destination (data : Bytes) : IpWords :=
  ⟨addressAt data 24, addressAt data 28, addressAt data 32,
    addressAt data 36⟩

/-- The session that is found, if any, is the one whose the destination is. -/
structure FindsOwner (context : UpfContext) (data : Bytes) : Prop where
  ipv4 : IsIpv4Packet data → ∀ sess, upfSessFindByUeIpAddress context data = some sess ↔
    AddressFamily.ipv4.Owns context (ipv4Destination data) sess
  ipv6 : IsIpv6Packet data → ∀ sess, upfSessFindByUeIpAddress context data = some sess ↔
    AddressFamily.ipv6.Owns context (ipv6Destination data) sess

lemma ne_nil_of_length {least : ℕ} (positive : 0 < least) (enough : least ≤ data.length) :
  data.isEmpty ≠ true := by
  intro isEmpty
  rw [List.isEmpty_iff.mp isEmpty] at enough
  exact absurd (positive.trans_le enough) (Nat.lt_irrefl 0)

lemma find_ipv4Packet (context : UpfContext) (packet : IsIpv4Packet data) :
  upfSessFindByUeIpAddress context data = context.sessFindByIpv4 (hostU32At data 16) := by
  obtain ⟨enough, version⟩ := packet
  have sameVersion : (Ipv4Header.ofPacket data).version = IP_VERSION_4 := version
  rw [upfSessFindByUeIpAddress, if_neg (ne_nil_of_length (by decide) enough), if_pos version,
    if_neg (Nat.not_lt.mpr enough), if_neg (not_not.mpr sameVersion)]
  rfl

lemma addressAt_daddr (data : Bytes) {start : ℕ} (inside : start + 4 ≤ 16) :
  addressAt (Ipv6Header.ofPacket data).daddr start = addressAt data (24 + start) := by
  have octet (index : ℕ) (isInside : index < 16) :
      (Ipv6Header.ofPacket data).daddr.getD index 0 = data.getD (24 + index) 0 := by
    rw [Ipv6Header.ofPacket, List.getD_eq_getElem?_getD, List.getElem?_take_of_lt isInside,
      List.getElem?_drop, ← List.getD_eq_getElem?_getD]
  unfold addressAt
  rw [octet start (by omega), octet (start + 1) (by omega), octet (start + 2) (by omega),
    octet (start + 3) (by omega)]
  rfl

lemma find_ipv6Packet (context : UpfContext) (packet : IsIpv6Packet data) :
  upfSessFindByUeIpAddress context data = context.sessFindByIpv6 (ipv6Destination data) := by
  obtain ⟨enough, version⟩ := packet
  have otherVersion : versionOf data ≠ IP_VERSION_4 := by
    rw [version]
    decide
  rw [upfSessFindByUeIpAddress, if_neg (ne_nil_of_length (by decide) enough),
    if_neg otherVersion, if_pos version, if_neg (Nat.not_lt.mpr enough), Ipv6Header.dstAddr,
    addressAt_daddr data (by decide), addressAt_daddr data (by decide),
    addressAt_daddr data (by decide), addressAt_daddr data (by decide)]
  rfl

/-- A session is found by an IPv4 destination when what the context knows of the address is also
what it knows of the address backwards. -/
theorem findsOwner_iff (context : UpfContext) (data : Bytes) : FindsOwner context data ↔
    (IsIpv4Packet data → ∀ sess, AddressFamily.ipv4.Owns context (hostU32At data 16) sess ↔
      AddressFamily.ipv4.Owns context (ipv4Destination data) sess) := by
  have found_ipv4 (packet : IsIpv4Packet data) (sess : UpfSess) :
      upfSessFindByUeIpAddress context data = some sess ↔
        AddressFamily.ipv4.Owns context (hostU32At data 16) sess := by
    rw [find_ipv4Packet context packet, sessFindByIpv4_eq, AddressFamily.find_eq_some_iff]
  have found_ipv6 (packet : IsIpv6Packet data) (sess : UpfSess) :
      upfSessFindByUeIpAddress context data = some sess ↔
        AddressFamily.ipv6.Owns context (ipv6Destination data) sess := by
    rw [find_ipv6Packet context packet, sessFindByIpv6_eq, AddressFamily.find_eq_some_iff]
  constructor
  · intro finds packet sess
    rw [← found_ipv4 packet sess]
    exact finds.ipv4 packet sess
  · intro same
    exact ⟨fun packet sess => (found_ipv4 packet sess).trans (same packet sess), found_ipv6⟩

def ueContext : UpfContext :=
  (((UpfContext.init 0).sessAdd ⟨7, none, none⟩).1.sessSetUeIp 1 (some 0x0A2D0002) none).1

def toUe : Bytes :=
  [0x45, 0, 0, 20, 0, 0, 0, 0, 64, 17, 0, 0, 8, 8, 8, 8, 10, 45, 0, 2]

/-- The session of the UE is looked for under 2.0.45.10. -/
theorem ue_not_found : ¬ FindsOwner ueContext toUe := by
  intro finds
  have packet : IsIpv4Packet toUe := ⟨by decide, by decide⟩
  have owns : AddressFamily.ipv4.Owns ueContext (ipv4Destination toUe)
      { id := 1, upfN4Seid := 1, smfN4FSeid := ⟨7, none, none⟩,
        ipv4 := some ⟨0x0A2D0002, 0, 0, 0⟩ } :=
    .inl ⟨1, by decide, by decide⟩
  have found := (finds.ipv4 packet _).mpr owns
  have missed : upfSessFindByUeIpAddress ueContext toUe = none := by decide
  rw [missed] at found
  cases found

end NextGCore.Upf
