import Mathlib.Data.UInt

/-!
# NAS COUNT

A COUNT is a 24-bit overflow counter over an 8-bit sequence number, of which
only the sequence number travels.  The receiver estimates the rest from the
last COUNT it accepted.  The specifications below read a COUNT as the number
`value` it stands for.
-/

namespace NextGCore.Nas

open Nat UInt8

structure NasCount where
  overflow : UInt32
  sqn : UInt8
  bounded : overflow.toNat < 2 ^ 24

lemma toNat_mask24 (word : UInt32) :
  (word &&& 0x00FFFFFF).toNat = word.toNat % 2 ^ 24 := by
  rw [UInt32.toNat_and]
  exact and_two_pow_sub_one_eq_mod word.toNat 24

lemma mask24_lt (word : UInt32) : (word &&& 0x00FFFFFF).toNat < 2 ^ 24 := by
  rw [toNat_mask24]
  exact mod_lt _ (by decide)

lemma mask24_of_lt {word : UInt32} (small : word.toNat < 2 ^ 24) :
  word &&& 0x00FFFFFF = word := by
  apply UInt32.toNat_inj.mp
  rw [toNat_mask24, mod_eq_of_lt small]

lemma toNat_shift_or (high : UInt32) (low : UInt8) (small : high.toNat < 2 ^ 24) :
  ((high <<< 8) ||| low.toUInt32).toNat = high.toNat * 256 + low.toNat := by
  have octet : low.toNat < 2 ^ 8 := low.toNat_lt
  have shifted : (high <<< 8).toNat = high.toNat <<< 8 := by
    rw [UInt32.toNat_shiftLeft]
    simp only [shiftLeft_eq]
    change high.toNat * 2 ^ 8 % 2 ^ 32 = _
    omega
  rw [UInt32.toNat_or, shifted, toNat_toUInt32, ← shiftLeft_add_eq_or_of_lt octet, shiftLeft_eq]

namespace NasCount

variable (count : NasCount)

@[ext]
lemma ext {left right : NasCount} (overflow : left.overflow = right.overflow)
  (sqn : left.sqn = right.sqn) : left = right := by
  cases left
  cases right
  simp_all

def new (overflow : UInt32) (sqn : UInt8) : NasCount :=
  ⟨overflow &&& 0x00FFFFFF, sqn, mask24_lt overflow⟩

def default : NasCount := new 0 0

def value : UInt32 :=
  ((count.overflow &&& 0x00FFFFFF) <<< 8) ||| count.sqn.toUInt32

def increment : NasCount :=
  if count.sqn = 255 then
    ⟨(count.overflow + 1) &&& 0x00FFFFFF, 0, mask24_lt _⟩
  else
    { count with sqn := count.sqn + 1 }

def forwardWindow : UInt8 := 128

/-- `NasCount::estimate`: the COUNT a received sequence number stands for,
`self` being the last one verified. -/
def estimate (self : NasCount) (sqn : UInt8) : NasCount :=
  let fwd := sqn - self.sqn
  if fwd = 0 then
    { self with sqn }
  else if fwd ≤ forwardWindow then
    -- forward: only the wrap from 255 to 0 lowers the sequence number
    if sqn < self.sqn then
      ⟨(self.overflow + 1) &&& 0x00FFFFFF, sqn, mask24_lt _⟩
    else
      { self with sqn }
  else if sqn > self.sqn ∧ self.overflow > 0 then
    ⟨(self.overflow - 1) &&& 0x00FFFFFF, sqn, mask24_lt _⟩
  else
    { self with sqn }

lemma toNat_value : count.value.toNat = count.overflow.toNat * 256 + count.sqn.toNat := by
  rw [value, mask24_of_lt count.bounded, toNat_shift_or _ _ count.bounded]

lemma eq_of_value {left right : NasCount} (same : left.value = right.value) :
  left = right := by
  have numbers := congrArg UInt32.toNat same
  simp only [toNat_value] at numbers
  have leftOctet := left.sqn.toNat_lt
  have rightOctet := right.sqn.toNat_lt
  refine NasCount.ext ?_ ?_
  · exact UInt32.toNat_inj.mp (by omega)
  · exact UInt8.toNat_inj.mp (by omega)

@[simp]
lemma value_new_shift (word : UInt32) :
  (new (word >>> 8) (word &&& 0xff).toUInt8).value = word := by
  apply UInt32.toNat_inj.mp
  have shifted : (word >>> 8).toNat = word.toNat / 256 := by
    rw [UInt32.toNat_shiftRight, shiftRight_eq_div_pow]
    rfl
  have octet : (word &&& 0xff).toUInt8.toNat = word.toNat % 256 := by
    rw [UInt32.toNat_toUInt8, UInt32.toNat_and]
    have masked := and_two_pow_sub_one_eq_mod word.toNat 8
    change (word.toNat &&& (2 ^ 8 - 1)) % 2 ^ 8 = _
    omega
  have small : word.toNat < 2 ^ 32 := word.toNat_lt
  rw [toNat_value]
  simp only [new, toNat_mask24, shifted, octet]
  omega

lemma toNat_value_increment : count.increment.value.toNat = (count.value.toNat + 1) % 2 ^ 32 := by
  have bounded := count.bounded
  have octet : count.sqn.toNat < 256 := count.sqn.toNat_lt
  unfold increment
  split
  · next last =>
      simp only [toNat_value, toNat_mask24, UInt32.toNat_add, last]
      change (count.overflow.toNat + 1) % 2 ^ 32 % 2 ^ 24 * 256 + 0 =
        (count.overflow.toNat * 256 + 255 + 1) % 2 ^ 32
      omega
  · next notLast =>
      have notMax : count.sqn.toNat ≠ 255 := fun max =>
        notLast (UInt8.toNat_inj.mp max)
      simp only [toNat_value, UInt8.toNat_add]
      change count.overflow.toNat * 256 + (count.sqn.toNat + 1) % 2 ^ 8 = _
      omega

section Estimate

variable (self : NasCount) (sqn : UInt8)

def forward : ℕ := (sqn.toNat + 256 - self.sqn.toNat) % 256

lemma toNat_sub_sqn : (sqn - self.sqn).toNat = self.forward sqn := by
  have stored : self.sqn.toNat < 2 ^ 8 := self.sqn.toNat_lt
  rw [UInt8.toNat_sub, forward]
  congr 1
  omega

lemma estimate_forward (inWindow : self.forward sqn ≤ 128) : (self.estimate sqn).value.toNat =
    (self.value.toNat + self.forward sqn) % 2 ^ 32 := by
  have bounded := self.bounded
  have stored : self.sqn.toNat < 256 := self.sqn.toNat_lt
  have received : sqn.toNat < 256 := sqn.toNat_lt
  have distance := self.toNat_sub_sqn sqn
  have splitting : self.forward sqn = (sqn.toNat + 256 - self.sqn.toNat) % 256 := rfl
  simp only [estimate]
  split
  · next same =>
      rw [same] at distance
      change 0 = _ at distance
      simp only [toNat_value]
      omega
  · split
    · split
      · next lower =>
          rw [lt_iff_toNat_lt] at lower
          simp only [toNat_value, toNat_mask24, UInt32.toNat_add]
          change (self.overflow.toNat + 1) % 2 ^ 32 % 2 ^ 24 * 256 + sqn.toNat = _
          omega
      · next notLower =>
          rw [lt_iff_toNat_lt] at notLower
          simp only [toNat_value]
          omega
    · next beyond =>
        rw [le_iff_toNat_le, distance] at beyond
        exact absurd inWindow beyond

lemma estimate_backward (beyond : 128 < self.forward sqn) : (self.estimate sqn).value.toNat =
    if self.sqn < sqn ∧ self.overflow = 0 then sqn.toNat
    else self.value.toNat + self.forward sqn - 256 := by
  have bounded := self.bounded
  have stored : self.sqn.toNat < 256 := self.sqn.toNat_lt
  have received : sqn.toNat < 256 := sqn.toNat_lt
  have distance := self.toNat_sub_sqn sqn
  have splitting : self.forward sqn = (sqn.toNat + 256 - self.sqn.toNat) % 256 := rfl
  have notSame : ¬ sqn - self.sqn = 0 := by
    intro same
    rw [same] at distance
    change 0 = _ at distance
    omega
  have notForward : ¬ sqn - self.sqn ≤ forwardWindow := by
    rw [le_iff_toNat_le, distance]
    exact Nat.not_le.mpr beyond
  simp only [estimate, if_neg notSame, if_neg notForward, gt_iff_lt]
  have positive : 0 < self.overflow ↔ 0 < self.overflow.toNat := by
    rw [UInt32.lt_iff_toNat_lt]
    rfl
  have first : self.overflow = 0 ↔ self.overflow.toNat = 0 := by
    rw [← UInt32.toNat_inj]
    rfl
  simp only [first]
  by_cases higher : self.sqn < sqn
  · have above := lt_iff_toNat_lt.mp higher
    by_cases generation : 0 < self.overflow
    · have lowered : (self.overflow - 1).toNat = self.overflow.toNat - 1 := by
        apply UInt32.toNat_sub_of_le
        rw [UInt32.le_iff_toNat_le]
        exact positive.mp generation
      have later := positive.mp generation
      rw [if_pos ⟨higher, generation⟩, if_neg (by omega)]
      simp only [toNat_value, toNat_mask24, lowered]
      omega
    · have initial : self.overflow.toNat = 0 := by
        rw [positive] at generation
        omega
      rw [if_neg (fun both => generation both.2), if_pos ⟨higher, initial⟩]
      simp only [toNat_value]
      omega
  · have notAbove : ¬ self.sqn.toNat < sqn.toNat := fun less =>
      higher (lt_iff_toNat_lt.mpr less)
    rw [if_neg (fun both => higher both.1), if_neg (fun both => higher both.1)]
    simp only [toNat_value]
    omega

end Estimate

lemma estimate_ahead {stored count : NasCount} {distance : ℕ}
  (ahead : count.value.toNat = stored.value.toNat + distance)
  (window : distance ≤ 128) : stored.estimate count.sqn = count := by
  have octet : count.sqn.toNat < 256 := count.sqn.toNat_lt
  have storedOctet : stored.sqn.toNat < 256 := stored.sqn.toNat_lt
  have distance_eq : stored.forward count.sqn = distance := by
    simp only [toNat_value] at ahead
    unfold forward
    omega
  apply eq_of_value
  apply UInt32.toNat_inj.mp
  rw [estimate_forward _ _ (distance_eq ▸ window), distance_eq, ← ahead]
  exact mod_eq_of_lt count.value.toNat_lt

lemma estimate_behind {stored count : NasCount} {distance : ℕ}
  (behind : stored.value.toNat = count.value.toNat + distance)
  (window : distance ≤ 127) : stored.estimate count.sqn = count := by
  rcases Nat.eq_zero_or_pos distance with same | positive
  · have ahead : count.value.toNat = stored.value.toNat + 0 := by omega
    exact estimate_ahead ahead (by omega)
  · have octet : count.sqn.toNat < 256 := count.sqn.toNat_lt
    have storedOctet : stored.sqn.toNat < 256 := stored.sqn.toNat_lt
    have numbers := behind
    simp only [toNat_value] at numbers
    have distance_eq : stored.forward count.sqn = 256 - distance := by
      unfold forward
      omega
    have laterGeneration : ¬ (stored.sqn < count.sqn ∧ stored.overflow = 0) := by
      rintro ⟨higher, first⟩
      rw [lt_iff_toNat_lt] at higher
      have zero : stored.overflow.toNat = 0 := by rw [first]; rfl
      omega
    apply eq_of_value
    apply UInt32.toNat_inj.mp
    rw [estimate_backward _ _ (by omega), if_neg laterGeneration, distance_eq]
    omega

/-- The two classes of a received sequence number: up to 128 ahead it is added, further on it
stands for a COUNT below the stored one. -/
def Classifies (stored : NasCount) (sqn : UInt8) : Prop :=
  (stored.forward sqn ≤ 128 → stored.value.toNat + stored.forward sqn < 2 ^ 32 →
    (stored.estimate sqn).value.toNat = stored.value.toNat + stored.forward sqn) ∧
  (129 ≤ stored.forward sqn → (stored.estimate sqn).value < stored.value)

/-- In generation 0 there is no COUNT below for a sequence number that is far above the stored
one. -/
theorem estimate_classifies_iff (stored : NasCount) (sqn : UInt8) :
  Classifies stored sqn ↔ stored.overflow ≠ 0 ∨ sqn.toNat ≤ stored.sqn.toNat + 128 := by
  have octet : stored.sqn.toNat < 256 := stored.sqn.toNat_lt
  have received : sqn.toNat < 256 := sqn.toNat_lt
  have distance : stored.forward sqn = (sqn.toNat + 256 - stored.sqn.toNat) % 256 := rfl
  have first : stored.overflow = 0 ↔ stored.overflow.toNat = 0 := UInt32.toNat_inj.symm
  have value := stored.toNat_value
  constructor
  · intro classifies
    by_contra neither
    rw [not_or, Classical.not_not, Nat.not_le] at neither
    obtain ⟨initial, far⟩ := neither
    have higher : stored.sqn < sqn := lt_iff_toNat_lt.mpr (by omega)
    have beyond : 128 < stored.forward sqn := by omega
    have below := UInt32.lt_iff_toNat_lt.mp (classifies.2 beyond)
    rw [estimate_backward _ _ beyond, if_pos ⟨higher, initial⟩] at below
    have generation := first.mp initial
    omega
  · intro fits
    refine ⟨fun near below => ?_, fun beyond => ?_⟩
    · rw [estimate_forward _ _ near, mod_eq_of_lt below]
    · have notInitial : ¬ (stored.sqn < sqn ∧ stored.overflow = 0) := by
        rintro ⟨higher, initial⟩
        have above := lt_iff_toNat_lt.mp higher
        have near := fits.resolve_left (not_not.mpr initial)
        omega
      rw [UInt32.lt_iff_toNat_lt, estimate_backward _ _ beyond, if_neg notInitial]
      rw [ne_eq, first] at fits
      omega

/-- 200 after 5 in generation 0. -/
theorem estimate_above_stored : ¬ ∀ stored sqn, Classifies stored sqn := by
  intro always
  exact absurd ((always (new 0 5) 200).2 (by decide)) (by decide)

end NasCount

end NextGCore.Nas
