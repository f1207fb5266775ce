import Mathlib.Data.UInt
import NextGCore.Library.Bits

/-!
# The IPv4 address pool of the SMF

`Ipv4Pool` of `session_extensions.rs`: a /16 subnet as a bitmap of host numbers,
with a counter beside it.  The network address and the gateway are marked when
the pool is made and are not counted.
-/

namespace NextGCore.Smf

open Library Nat Finset Bitmap

structure Ipv4Addr where
  a : UInt8
  b : UInt8
  c : UInt8
  d : UInt8
  deriving DecidableEq

def poolSize : ℕ := 65536

def bitmapWords : ℕ := 1024

structure Ipv4Pool where
  base : UInt8 × UInt8
  bitmap : List (BitVec 64)
  allocatedCount : UInt32
  sized : bitmap.length = bitmapWords

namespace Ipv4Pool

variable {host : ℕ} {addr : Ipv4Addr}

def new (baseA baseB : UInt8) : Ipv4Pool where
  base := (baseA, baseB)
  bitmap := setBit (setBit (List.replicate bitmapWords 0) 0) 1
  allocatedCount := 0
  sized := by rw [length_setBit, length_setBit, List.length_replicate]

def addrOf (pool : Ipv4Pool) (hostIdx : ℕ) : Ipv4Addr :=
  ⟨pool.base.1, pool.base.2, UInt8.ofNat ((hostIdx >>> 8) &&& 0xFF), UInt8.ofNat (hostIdx &&& 0xFF)⟩

def hostIdx (pool : Ipv4Pool) (addr : Ipv4Addr) : Option ℕ :=
  if addr.a ≠ pool.base.1 ∨ addr.b ≠ pool.base.2 then none
  else some ((addr.c.toNat <<< 8) ||| addr.d.toNat)

lemma length_takeClear {words words' : List (BitVec 64)} {index : ℕ}
  (taken : takeClear words = some (index, words')) : words'.length = words.length := by
  rw [(takeClear_eq_some (by decide) taken).2.2, length_setBit]

def allocate (pool : Ipv4Pool) : Option (Ipv4Addr × Ipv4Pool) :=
  match taken : takeClear pool.bitmap with
  | none => none
  | some (hostIdx, bitmap) =>
    if poolSize ≤ hostIdx then none
    else
      some (pool.addrOf hostIdx,
        { pool with
          bitmap := bitmap
          allocatedCount := pool.allocatedCount + 1
          sized := (length_takeClear taken).trans pool.sized })

def release (pool : Ipv4Pool) (addr : Ipv4Addr) : Bool × Ipv4Pool :=
  match pool.hostIdx addr with
  | none => (false, pool)
  | some hostIdx =>
    if poolSize ≤ hostIdx then (false, pool)
    else if Bitmap.bit pool.bitmap hostIdx then
      (true,
        { pool with
          bitmap := clearBit pool.bitmap hostIdx
          allocatedCount := pool.allocatedCount - 1
          sized := (length_clearBit _ _).trans pool.sized })
    else (false, pool)

def activeCount (pool : Ipv4Pool) : UInt32 := pool.allocatedCount

def allocated (pool : Ipv4Pool) : Finset ℕ := members pool.bitmap poolSize

def reservedHosts : Finset ℕ := {0, 1}

def Reserved (pool : Ipv4Pool) (addr : Ipv4Addr) : Prop :=
  ∃ host ∈ reservedHosts, pool.hostIdx addr = some host

instance decidableReserved (pool : Ipv4Pool) (addr : Ipv4Addr) : Decidable (pool.Reserved addr) :=
  inferInstanceAs (Decidable (∃ host ∈ reservedHosts, _))

def Allocated (pool : Ipv4Pool) (addr : Ipv4Addr) : Prop :=
  ∃ host ∈ pool.allocated, pool.hostIdx addr = some host

def Counted (pool : Ipv4Pool) : Prop :=
  pool.activeCount.toNat = (pool.allocated \ reservedHosts).card

variable {pool pool' : Ipv4Pool}

lemma covered (pool : Ipv4Pool) : poolSize = 64 * pool.bitmap.length := by
  rw [pool.sized]
  rfl

lemma mem_allocated :
  host ∈ pool.allocated ↔ host < poolSize ∧ Bitmap.bit pool.bitmap host = true :=
  mem_members

lemma hostIdx_eq (high : addr.a = pool.base.1) (low : addr.b = pool.base.2) :
  pool.hostIdx addr = some (256 * addr.c.toNat + addr.d.toNat) := by
  unfold hostIdx
  rw [if_neg (by simp [high, low]), ← shiftLeft_add_eq_or_of_lt addr.d.toNat_lt,
    shiftLeft_eq, Nat.mul_comm]

lemma lt_of_hostIdx (isHost : pool.hostIdx addr = some host) :
  host < poolSize ∧ pool.addrOf host = addr := by
  have inSubnet : addr.a = pool.base.1 ∧ addr.b = pool.base.2 := by
    unfold hostIdx at isHost
    split at isHost
    case isTrue => cases isHost
    case isFalse same => simpa [not_or] using same
  rw [hostIdx_eq inSubnet.1 inSubnet.2] at isHost
  obtain rfl := Option.some.inj isHost
  have third := addr.c.toNat_lt
  have fourth := addr.d.toNat_lt
  refine ⟨by rw [poolSize]; omega, ?_⟩
  have high : (256 * addr.c.toNat + addr.d.toNat) >>> 8 &&& 0xFF = addr.c.toNat := by
    rw [shiftRight_eq_div_pow, show 0xFF = 2 ^ 8 - 1 from rfl, and_two_pow_sub_one_eq_mod]
    omega
  have low : (256 * addr.c.toNat + addr.d.toNat) &&& 0xFF = addr.d.toNat := by
    rw [show 0xFF = 2 ^ 8 - 1 from rfl, and_two_pow_sub_one_eq_mod]
    omega
  simp only [addrOf, high, low, UInt8.ofNat_toNat, ← inSubnet.1, ← inSubnet.2]

lemma hostIdx_addrOf (inPool : host < poolSize) :
  pool.hostIdx (pool.addrOf host) = some host := by
  rw [poolSize] at inPool
  rw [hostIdx_eq rfl rfl]
  have high : (host >>> 8) &&& 0xFF = host / 256 := by
    rw [shiftRight_eq_div_pow, show 0xFF = 2 ^ 8 - 1 from rfl, and_two_pow_sub_one_eq_mod]
    omega
  have low : host &&& 0xFF = host % 256 := by
    rw [show 0xFF = 2 ^ 8 - 1 from rfl, and_two_pow_sub_one_eq_mod]
  simp only [addrOf, high, low, UInt8.toNat_ofNat']
  congr 1
  omega

lemma hostIdx_inj {first second : Ipv4Addr} (one : pool.hostIdx first = some host)
  (other : pool.hostIdx second = some host) : first = second :=
  (lt_of_hostIdx one).2.symm.trans (lt_of_hostIdx other).2

lemma allocated_iff (isHost : pool.hostIdx addr = some host) :
  pool.Allocated addr ↔ host ∈ pool.allocated := by
  constructor
  · rintro ⟨other, allocated, isOther⟩
    rwa [Option.some.inj (isHost.symm.trans isOther)]
  · intro allocated
    exact ⟨host, allocated, isHost⟩

lemma reserved_iff (isHost : pool.hostIdx addr = some host) :
  pool.Reserved addr ↔ host ∈ reservedHosts := by
  constructor
  · rintro ⟨other, reserved, isOther⟩
    rwa [Option.some.inj (isHost.symm.trans isOther)]
  · intro reserved
    exact ⟨host, reserved, isHost⟩

lemma hostIdx_congr (sameBase : pool'.base = pool.base) (addr : Ipv4Addr) :
  pool'.hostIdx addr = pool.hostIdx addr := by
  unfold hostIdx
  rw [sameBase]

lemma allocate_eq (allocates : pool.allocate = some (addr, pool')) :
  ∃ host, pool.hostIdx addr = some host ∧ host ∉ pool.allocated ∧
    pool'.allocated = insert host pool.allocated ∧ pool'.base = pool.base ∧
    pool'.activeCount = pool.activeCount + 1 := by
  unfold allocate at allocates
  split at allocates
  case h_1 => cases allocates
  case h_2 host bitmap taken =>
    obtain ⟨inside, clear, rfl⟩ := takeClear_eq_some (by decide) taken
    rw [← pool.covered] at inside
    rw [if_neg (Nat.not_le_of_lt inside)] at allocates
    obtain ⟨rfl, rfl⟩ := Prod.mk.injEq _ _ _ _ ▸ Option.some.inj allocates
    refine ⟨host, hostIdx_addrOf inside, ?_, ?_, rfl, rfl⟩
    · intro member
      rw [(mem_allocated.mp member).2] at clear
      cases clear
    · unfold allocated
      rw [pool.covered]
      exact members_setBit (by decide) (pool.covered ▸ inside)

lemma release_eq (pool : Ipv4Pool) (addr : Ipv4Addr) :
  (∃ host, pool.hostIdx addr = some host ∧ host ∈ pool.allocated ∧ (pool.release addr).1 = true ∧
    (pool.release addr).2.allocated = pool.allocated.erase host ∧
    (pool.release addr).2.base = pool.base ∧
    (pool.release addr).2.activeCount = pool.activeCount - 1) ∨
  (¬ pool.Allocated addr ∧ pool.release addr = (false, pool)) := by
  unfold release
  cases isHost : pool.hostIdx addr with
  | none =>
    refine .inr ⟨?_, rfl⟩
    rintro ⟨host, -, isOther⟩
    rw [isHost] at isOther
    cases isOther
  | some host =>
    have inside := (lt_of_hostIdx isHost).1
    simp only
    rw [if_neg (Nat.not_le_of_lt inside)]
    by_cases set : Bitmap.bit pool.bitmap host = true
    · rw [if_pos set]
      refine .inl ⟨host, rfl, mem_allocated.mpr ⟨inside, set⟩, rfl, ?_, rfl, rfl⟩
      unfold allocated
      rw [pool.covered]
      exact members_clearBit (by decide) (pool.covered ▸ inside)
    · rw [if_neg set]
      refine .inr ⟨?_, rfl⟩
      rw [allocated_iff isHost, mem_allocated]
      exact fun both => set both.2

lemma card_active_lt (pool : Ipv4Pool) : (pool.allocated \ reservedHosts).card < 2 ^ 32 - 1 := by
  have bound : (pool.allocated \ reservedHosts).card ≤ (range poolSize).card := by
    apply card_le_card
    intro host member
    exact mem_range.mpr (mem_allocated.mp (mem_sdiff.mp member).1).1
  rw [card_range] at bound
  exact Nat.lt_of_le_of_lt bound (by decide)

lemma Counted.insert (counted : pool.Counted) (fresh : host ∉ pool.allocated)
  (unreserved : host ∉ reservedHosts)
  (allocated : pool'.allocated = Insert.insert host pool.allocated)
  (count : pool'.activeCount = pool.activeCount + 1) : pool'.Counted := by
  have bound := pool.card_active_lt
  unfold Counted at counted ⊢
  rw [allocated, count, insert_sdiff_of_notMem _ unreserved,
    card_insert_of_notMem (fun member => fresh (mem_sdiff.mp member).1), ← counted]
  rw [← counted] at bound
  rw [UInt32.toNat_add]
  exact mod_eq_of_lt (by change _ + 1 < _; omega)

lemma Counted.erase (counted : pool.Counted) (member : host ∈ pool.allocated)
  (unreserved : host ∉ reservedHosts) (allocated : pool'.allocated = pool.allocated.erase host)
  (count : pool'.activeCount = pool.activeCount - 1) : pool'.Counted := by
  have active : host ∈ pool.allocated \ reservedHosts := mem_sdiff.mpr ⟨member, unreserved⟩
  have positive := Finset.card_pos.mpr ⟨host, active⟩
  unfold Counted at counted ⊢
  rw [allocated, count, erase_sdiff_comm, card_erase_of_mem active, ← counted]
  rw [← counted] at positive
  exact UInt32.toNat_sub_of_le _ _ (UInt32.le_iff_toNat_le.mpr positive)

lemma reserved_congr (sameBase : pool'.base = pool.base) :
  pool'.Reserved addr ↔ pool.Reserved addr := by
  unfold Reserved
  simp only [hostIdx_congr sameBase]

lemma allocate_base (allocates : pool.allocate = some (addr, pool')) :
  pool'.base = pool.base := by
  obtain ⟨host, -, -, -, sameBase, -⟩ := allocate_eq allocates
  exact sameBase

lemma allocated_allocate (allocates : pool.allocate = some (addr, pool')) :
  ¬ pool.Allocated addr ∧
    ∀ other, pool'.Allocated other ↔ other = addr ∨ pool.Allocated other := by
  obtain ⟨host, isHost, fresh, allocated, sameBase, -⟩ := allocate_eq allocates
  refine ⟨fun before => fresh ((allocated_iff isHost).mp before), fun other => ?_⟩
  unfold Allocated
  simp only [hostIdx_congr sameBase, allocated]
  constructor
  · rintro ⟨otherHost, member, isOther⟩
    rcases mem_insert.mp member with rfl | before
    · exact .inl (hostIdx_inj isOther isHost)
    · exact .inr ⟨otherHost, before, isOther⟩
  · rintro (rfl | ⟨otherHost, before, isOther⟩)
    · exact ⟨host, mem_insert_self _ _, isHost⟩
    · exact ⟨otherHost, mem_insert_of_mem before, isOther⟩

lemma Counted.allocate (counted : pool.Counted) (allocates : pool.allocate = some (addr, pool'))
  (unreserved : ¬ pool.Reserved addr) : pool'.Counted := by
  obtain ⟨host, isHost, fresh, allocated, -, count⟩ := allocate_eq allocates
  exact counted.insert fresh (fun reserved => unreserved ((reserved_iff isHost).mpr reserved))
    allocated count

lemma release_base (pool : Ipv4Pool) (addr : Ipv4Addr) :
  (pool.release addr).2.base = pool.base := by
  rcases release_eq pool addr with ⟨host, -, -, -, -, sameBase, -⟩ | ⟨-, same⟩
  · exact sameBase
  · rw [same]

lemma allocated_release (pool : Ipv4Pool) (addr other : Ipv4Addr) :
  (pool.release addr).2.Allocated other ↔ pool.Allocated other ∧ other ≠ addr := by
  rcases release_eq pool addr with ⟨host, isHost, -, -, allocated, sameBase, -⟩ | ⟨free, same⟩
  · unfold Allocated
    simp only [hostIdx_congr sameBase, allocated]
    constructor
    · rintro ⟨otherHost, member, isOther⟩
      obtain ⟨different, before⟩ := mem_erase.mp member
      refine ⟨⟨otherHost, before, isOther⟩, ?_⟩
      rintro rfl
      exact different (Option.some.inj (isOther.symm.trans isHost))
    · rintro ⟨⟨otherHost, before, isOther⟩, different⟩
      refine ⟨otherHost, mem_erase.mpr ⟨?_, before⟩, isOther⟩
      rintro rfl
      exact different (hostIdx_inj isOther isHost)
  · rw [same]
    constructor
    · intro before
      refine ⟨before, ?_⟩
      rintro rfl
      exact free before
    · exact And.left

lemma Counted.release (counted : pool.Counted) (unreserved : ¬ pool.Reserved addr) :
  (pool.release addr).2.Counted := by
  rcases release_eq pool addr with ⟨host, isHost, member, -, allocated, -, count⟩ | ⟨-, same⟩
  · exact counted.erase member (fun reserved => unreserved ((reserved_iff isHost).mpr reserved))
      allocated count
  · rw [same]
    exact counted

lemma allocated_new (baseA baseB : UInt8) : (new baseA baseB).allocated = reservedHosts := by
  ext host
  have clear : ∀ index, Bitmap.bit (List.replicate bitmapWords (0 : BitVec 64)) index = false := by
    intro index
    unfold Bitmap.bit
    rw [List.getD_eq_getElem?_getD, List.getElem?_replicate]
    split <;> exact BitVec.getLsbD_zero
  have size : (List.replicate bitmapWords (0 : BitVec 64)).length = bitmapWords :=
    List.length_replicate
  rw [mem_allocated, new, bit_setBit (by decide), bit_setBit (by decide), clear]
  rotate_left
  · rw [size]
    decide
  · rw [length_setBit, size]
    decide
  simp only [reservedHosts, mem_insert, mem_singleton, Bool.false_or,
    Bool.or_eq_true, decide_eq_true_eq]
  constructor
  · rintro ⟨-, known⟩
    exact known
  · rintro (rfl | rfl)
    · exact ⟨by decide, .inl rfl⟩
    · exact ⟨by decide, .inr rfl⟩

lemma counted_new (baseA baseB : UInt8) : (new baseA baseB).Counted := by
  unfold Counted
  rw [allocated_new, Finset.sdiff_self]
  rfl

end Ipv4Pool

end NextGCore.Smf
