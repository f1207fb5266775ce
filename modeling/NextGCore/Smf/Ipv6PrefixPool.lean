import NextGCore.Library.LeadingBits
import NextGCore.Library.Machine

/-!
# The IPv6 prefix pool of the SMF

`Ipv6PrefixPool` of `session_extensions.rs`.  The number of an allocation is written to the octets
4 to 7 of the base address, whatever the lengths of the pool and of a prefix are.
-/

namespace NextGCore.Smf

open Library Vector

structure Ipv6PrefixPool where
  basePrefix : Vector UInt8 16
  poolPrefixLen : UInt8
  uePrefixLen : UInt8
  nextAlloc : UInt32

namespace Ipv6PrefixPool

def new (base : Vector UInt8 16) (poolPrefixLen uePrefixLen : UInt8) : Ipv6PrefixPool :=
  ⟨base, poolPrefixLen, uePrefixLen, 1⟩

def defaultPool : Ipv6PrefixPool :=
  new #v[0xfd, 0, 0xca, 0xfe, 0, 0, 0, 0, 0, 0, 0, 0, 0, 0, 0, 0] 32 64

def addr (pool : Ipv6PrefixPool) : Vector UInt8 16 :=
  let idx := pool.nextAlloc
  (((pool.basePrefix.set 4 ((idx >>> 24) &&& 0xFF).toUInt8).set 5
    ((idx >>> 16) &&& 0xFF).toUInt8).set 6 ((idx >>> 8) &&& 0xFF).toUInt8).set 7
    (idx &&& 0xFF).toUInt8

def allocate (pool : Ipv6PrefixPool) : Ipv6PrefixPool × (UInt8 × Vector UInt8 16) :=
  ({ pool with nextAlloc := pool.nextAlloc + 1 }, pool.uePrefixLen, pool.addr)

def allocations : ℕ → Ipv6PrefixPool → List (UInt8 × Vector UInt8 16)
  | 0, _ => []
  | count + 1, pool => pool.allocate.2 :: allocations count pool.allocate.1

end Ipv6PrefixPool

def addrValue (addr : Vector UInt8 16) : ℕ := beValue addr.toList

/-- The addresses of the prefix are among those of another, no longer one. -/
def LiesWithin (inner outer : UInt8 × Vector UInt8 16) : Prop :=
  outer.1 ≤ inner.1 ∧ SameLeading 128 outer.1.toNat (addrValue inner.2) (addrValue outer.2)

def Overlap (first second : UInt8 × Vector UInt8 16) : Prop :=
  SameLeading 128 (min first.1.toNat second.1.toNat) (addrValue first.2) (addrValue second.2)

/-- All prefixes have the length for a UE, lie in the pool, and share no address. -/
def Leased (base : Vector UInt8 16) (poolPrefixLen uePrefixLen : UInt8)
  (prefixes : List (UInt8 × Vector UInt8 16)) : Prop :=
  (∀ leased ∈ prefixes, leased.1 = uePrefixLen ∧ LiesWithin leased (poolPrefixLen, base)) ∧
    prefixes.Pairwise fun first second => ¬Overlap first second

lemma octets_value (idx : UInt32) :
  beValue [((idx >>> 24) &&& 0xFF).toUInt8, ((idx >>> 16) &&& 0xFF).toUInt8,
    ((idx >>> 8) &&& 0xFF).toUInt8, (idx &&& 0xFF).toUInt8] = idx.toNat := by
  have small : idx.toNat < 2 ^ 32 := idx.toNat_lt
  have octet (number : ℕ) : number &&& 255 = number % 256 := Nat.and_two_pow_sub_one_eq_mod number 8
  simp [beValue, octet, Nat.shiftRight_eq_div_pow]
  omega

lemma set_octets (octets : List UInt8) (long : 8 ≤ octets.length) (a b c d : UInt8) :
  (((octets.set 4 a).set 5 b).set 6 c).set 7 d =
    octets.take 4 ++ ([a, b, c, d] ++ octets.drop 8) := by
  rcases octets with _ | ⟨_, _ | ⟨_, _ | ⟨_, _ | ⟨_, _ | ⟨_, _ | ⟨_, _ | ⟨_, _ | ⟨_, _⟩⟩⟩⟩⟩⟩⟩⟩
  iterate 8 simp only [List.length_cons, List.length_nil] at long; omega
  rfl

lemma addrValue_addr (pool : Ipv6PrefixPool) :
  addrValue pool.addr = (beValue (pool.basePrefix.toList.take 4) * 2 ^ 32 +
    pool.nextAlloc.toNat) * 2 ^ 64 + beValue (pool.basePrefix.toList.drop 8) := by
  have long : pool.basePrefix.toList.length = 16 := length_toList
  simp only [addrValue, Ipv6PrefixPool.addr, toList_set]
  rw [set_octets _ (by omega), beValue_append, beValue_append, octets_value, List.length_append,
    List.length_drop, long]
  change _ * 256 ^ 12 + (_ * 256 ^ 8 + _) = _
  ring

def word (base : Vector UInt8 16) : ℕ := beValue ((base.toList.drop 4).take 4)

lemma addrValue_base (base : Vector UInt8 16) :
  addrValue base = (beValue (base.toList.take 4) * 2 ^ 32 + word base) * 2 ^ 64 +
    beValue (base.toList.drop 8) := by
  have long : base.toList.length = 16 := length_toList
  have parts : base.toList =
      base.toList.take 4 ++ ((base.toList.drop 4).take 4 ++ base.toList.drop 8) := by
    rw [← List.drop_drop (i := 4) (j := 4), List.take_append_drop, List.take_append_drop]
  have middle : ((base.toList.drop 4).take 4).length = 4 := by simp [long]
  have back : (base.toList.drop 8).length = 8 := by simp [long]
  have value := congrArg beValue parts
  rw [beValue_append, beValue_append, List.length_append, middle, back] at value
  rw [addrValue, value, word]
  ring

lemma word_lt (base : Vector UInt8 16) : word base < 2 ^ 32 := by
  have small := beValue_lt ((base.toList.drop 4).take 4)
  rw [List.length_take, List.length_drop, length_toList] at small
  exact small

lemma sameLeading_word_iff {front back left right bits : ℕ} (backLt : back < 2 ^ 64)
  (leftLt : left < 2 ^ 32) (rightLt : right < 2 ^ 32) :
  SameLeading 128 bits ((front * 2 ^ 32 + left) * 2 ^ 64 + back)
      ((front * 2 ^ 32 + right) * 2 ^ 64 + back) ↔
    left / 2 ^ (64 - bits) = right / 2 ^ (64 - bits) := by
  rw [show (128 : ℕ) = 64 + 64 from rfl, SameLeading.append_iff backLt backLt,
    and_iff_left (SameLeading.refl _ _ _), show (64 : ℕ) = 32 + 32 from rfl,
    SameLeading.append_iff leftLt rightLt, and_iff_right (SameLeading.refl _ _ _),
    SameLeading.div_iff leftLt rightLt]
  rcases Nat.le_total 32 bits with more | fewer
  · rw [show 32 - (bits - 32) = 32 + 32 - bits by omega]
  · have beyond : 2 ^ 32 ≤ 2 ^ (32 + 32 - bits) := Nat.pow_le_pow_right Nat.two_pos (by omega)
    rw [Nat.sub_eq_zero_of_le fewer, Nat.div_eq_of_lt leftLt, Nat.div_eq_of_lt rightLt,
      Nat.div_eq_of_lt (leftLt.trans_le beyond), Nat.div_eq_of_lt (rightLt.trans_le beyond)]

variable {base : Vector UInt8 16} {poolPrefixLen uePrefixLen : UInt8} {count idx other : ℕ}

def leasedAt (base : Vector UInt8 16) (poolPrefixLen uePrefixLen : UInt8) (idx : ℕ) :
  UInt8 × Vector UInt8 16 :=
  (uePrefixLen, Ipv6PrefixPool.addr ⟨base, poolPrefixLen, uePrefixLen, UInt32.ofNat idx⟩)

lemma allocations_eq (start count : ℕ) : Ipv6PrefixPool.allocations count
      ⟨base, poolPrefixLen, uePrefixLen, UInt32.ofNat start⟩ =
    (List.range' start count).map (leasedAt base poolPrefixLen uePrefixLen) := by
  induction count generalizing start with
  | zero => rfl
  | succ count ih =>
    have next : UInt32.ofNat start + 1 = UInt32.ofNat (start + 1) := (UInt32.ofNat_add _ _).symm
    rw [Ipv6PrefixPool.allocations, List.range'_succ, List.map_cons, Ipv6PrefixPool.allocate]
    simp only [next, ih]
    rfl

lemma addrValue_leasedAt (small : idx < 2 ^ 32) :
  addrValue (leasedAt base poolPrefixLen uePrefixLen idx).2 =
    (beValue (base.toList.take 4) * 2 ^ 32 + idx) * 2 ^ 64 + beValue (base.toList.drop 8) := by
  rw [leasedAt, addrValue_addr, UInt32.toNat_ofNat_of_lt' small]

lemma back_lt (base : Vector UInt8 16) : beValue (base.toList.drop 8) < 2 ^ 64 := by
  have small := beValue_lt (base.toList.drop 8)
  rw [List.length_drop, length_toList] at small
  exact small

lemma liesWithin_iff (order : poolPrefixLen ≤ uePrefixLen) (small : idx < 2 ^ 32) :
  LiesWithin (leasedAt base poolPrefixLen uePrefixLen idx) (poolPrefixLen, base) ↔
    idx / 2 ^ (64 - poolPrefixLen.toNat) = word base / 2 ^ (64 - poolPrefixLen.toNat) := by
  refine (and_iff_right order).trans ?_
  rw [addrValue_leasedAt small, addrValue_base,
    sameLeading_word_iff (back_lt base) small (word_lt base)]

lemma overlap_iff (small : idx < 2 ^ 32) (otherSmall : other < 2 ^ 32) :
  Overlap (leasedAt base poolPrefixLen uePrefixLen idx)
      (leasedAt base poolPrefixLen uePrefixLen other) ↔
    idx / 2 ^ (64 - uePrefixLen.toNat) = other / 2 ^ (64 - uePrefixLen.toNat) := by
  rw [Overlap, addrValue_leasedAt small, addrValue_leasedAt otherSmall, leasedAt, leasedAt,
    Nat.min_self, sameLeading_word_iff (back_lt base) small otherSmall]

lemma pairwise_div_iff {length : ℕ} :
  ((List.range' 1 count).Pairwise fun idx other =>
      ¬idx / 2 ^ (64 - length) = other / 2 ^ (64 - length)) ↔
    64 ≤ length ∨ count ≤ 1 ∨ length = 63 ∧ count ≤ 2 := by
  rw [List.pairwise_iff_getElem]
  simp only [List.length_range', List.getElem_range', one_mul]
  constructor
  · intro apart
    by_contra more
    obtain ⟨short, several, many⟩ : length < 64 ∧ 2 ≤ count ∧ (length = 63 → 3 ≤ count) := by
      omega
    rcases Nat.lt_or_ge length 63 with shorter | exact63
    · have four : 2 ^ 2 ≤ 2 ^ (64 - length) := Nat.pow_le_pow_right Nat.two_pos (by omega)
      refine apart 0 1 (by omega) (by omega) Nat.one_pos ?_
      rw [Nat.div_eq_of_lt (by omega), Nat.div_eq_of_lt (by omega)]
    · obtain rfl : length = 63 := by omega
      exact apart 1 2 (by omega) (by omega) (by omega) rfl
  · rintro (long | few | ⟨rfl, few⟩) idx other idxLt otherLt less
    · rw [Nat.sub_eq_zero_of_le long, pow_zero, Nat.div_one, Nat.div_one]
      omega
    · omega
    · obtain ⟨rfl, rfl⟩ : idx = 0 ∧ other = 1 := by omega
      decide

lemma forall_div_iff {value unit : ℕ} : (∀ idx ∈ List.range' 1 count, idx / unit = value / unit) ↔
    count = 0 ∨ 1 / unit = value / unit ∧ count / unit = value / unit := by
  simp only [List.mem_range'_1]
  constructor
  · intro all
    rcases Nat.eq_zero_or_pos count with none | pos
    · exact .inl none
    · exact .inr ⟨all 1 (by omega), all count (by omega)⟩
  · rintro (rfl | ⟨first, last⟩) idx ⟨least, most⟩
    · omega
    · exact le_antisymm (last ▸ Nat.div_le_div_right (by omega))
        (first ▸ Nat.div_le_div_right least)

/-- The leases are as they should be just when the base agrees with the number 1 and with the last
number on what the pool's length covers of the octets 4 to 7, and a prefix covers these octets:
one bit less is enough for two leases. -/
theorem allocations_leased_iff (base : Vector UInt8 16) {poolPrefixLen uePrefixLen : UInt8}
  {count : ℕ} (order : poolPrefixLen ≤ uePrefixLen) (few : count < 2 ^ 32) :
  Leased base poolPrefixLen uePrefixLen
      ((Ipv6PrefixPool.new base poolPrefixLen uePrefixLen).allocations count) ↔
    count = 0 ∨ (1 / 2 ^ (64 - poolPrefixLen.toNat) = word base / 2 ^ (64 - poolPrefixLen.toNat) ∧
          count / 2 ^ (64 - poolPrefixLen.toNat) = word base / 2 ^ (64 - poolPrefixLen.toNat)) ∧
        (64 ≤ uePrefixLen.toNat ∨ count ≤ 1 ∨ uePrefixLen.toNat = 63 ∧ count ≤ 2) := by
  have small {idx : ℕ} (among : idx ∈ List.range' 1 count) : idx < 2 ^ 32 := by
    rw [List.mem_range'_1] at among
    omega
  have inside : (∀ leased ∈ (List.range' 1 count).map (leasedAt base poolPrefixLen uePrefixLen),
      leased.1 = uePrefixLen ∧ LiesWithin leased (poolPrefixLen, base)) ↔
      ∀ idx ∈ List.range' 1 count, idx / 2 ^ (64 - poolPrefixLen.toNat) =
        word base / 2 ^ (64 - poolPrefixLen.toNat) := by
    rw [List.forall_mem_map]
    exact forall₂_congr fun idx among =>
      (and_iff_right rfl).trans (liesWithin_iff order (small among))
  have apart : ((List.range' 1 count).map (leasedAt base poolPrefixLen uePrefixLen)).Pairwise
      (fun first second => ¬Overlap first second) ↔
      (List.range' 1 count).Pairwise fun idx other =>
        ¬idx / 2 ^ (64 - uePrefixLen.toNat) = other / 2 ^ (64 - uePrefixLen.toNat) := by
    rw [List.pairwise_map]
    exact List.Pairwise.iff_of_mem fun among otherAmong =>
      not_congr (overlap_iff (small among) (small otherAmong))
  rw [show Ipv6PrefixPool.new base poolPrefixLen uePrefixLen =
      ⟨base, poolPrefixLen, uePrefixLen, UInt32.ofNat 1⟩ from rfl, allocations_eq, Leased, inside,
    apart, forall_div_iff, pairwise_div_iff]
  omega

/-- Three leases of the default pool. -/
theorem defaultPool_leased : Leased (Ipv6PrefixPool.basePrefix .defaultPool) 32 64
    (Ipv6PrefixPool.defaultPool.allocations 3) :=
  (allocations_leased_iff _ (by decide) (by decide)).mpr (.inr ⟨by decide, .inl (by decide)⟩)

def otherBase : Vector UInt8 16 :=
  #v[0x20, 0x01, 0x0d, 0xb8, 0, 1, 0, 0, 0, 0, 0, 0, 0, 0, 0, 0]

/-- The first lease is 2001:db8:0:1::/64, outside the pool. -/
theorem not_leased_otherBase :
  ¬Leased otherBase 48 64 ((Ipv6PrefixPool.new otherBase 48 64).allocations 1) := by
  rintro ⟨inside, -⟩
  have bit := (inside _ (.head _)).2.2 80 (by decide) (by decide)
  revert bit
  decide

end NextGCore.Smf
