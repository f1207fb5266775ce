import Mathlib.Tactic.IntervalCases
import NextGCore.Library.Buffer

/-!
# Leading bits

Two numbers of a width agree in so many of their most significant bits.  Programs compare these
under masks, word by word or octet by octet.
-/

namespace NextGCore.Library

open List Nat UInt8

variable {bits : ℕ}

def SameLeading (width bits left right : ℕ) : Prop :=
  ∀ place, width - bits ≤ place → place < width → left.testBit place = right.testBit place

namespace SameLeading

lemma of_zero (width left right : ℕ) : SameLeading width 0 left right :=
  fun _ least below => absurd least (by omega)

lemma refl (width bits number : ℕ) : SameLeading width bits number number := fun _ _ _ => rfl

lemma div_iff {width bits left right : ℕ} (leftLt : left < 2 ^ width)
  (rightLt : right < 2 ^ width) : SameLeading width bits left right ↔
    left / 2 ^ (width - bits) = right / 2 ^ (width - bits) := by
  constructor
  · intro same
    refine eq_of_testBit_eq fun place => ?_
    rw [testBit_div_two_pow, testBit_div_two_pow]
    by_cases inside : place + (width - bits) < width
    · exact same _ (by omega) inside
    · have beyond := Nat.pow_le_pow_right Nat.two_pos (Nat.not_lt.mp inside)
      rw [testBit_lt_two_pow (leftLt.trans_le beyond), testBit_lt_two_pow (rightLt.trans_le beyond)]
  · intro same place least below
    have there := congrArg (fun number => number.testBit (place - (width - bits))) same
    simp only [testBit_div_two_pow, Nat.sub_add_cancel least] at there
    exact there

lemma all_iff {width bits left right : ℕ} (whole : width ≤ bits) (leftLt : left < 2 ^ width)
  (rightLt : right < 2 ^ width) : SameLeading width bits left right ↔ left = right := by
  rw [div_iff leftLt rightLt, Nat.sub_eq_zero_of_le whole, pow_zero, Nat.div_one, Nat.div_one]

lemma append_iff {high low bits left right leftLow rightLow : ℕ} (leftLt : leftLow < 2 ^ low)
  (rightLt : rightLow < 2 ^ low) :
  SameLeading (high + low) bits (left * 2 ^ low + leftLow) (right * 2 ^ low + rightLow) ↔
    SameLeading high bits left right ∧ SameLeading low (bits - high) leftLow rightLow := by
  have testBit : ∀ {front back : ℕ}, back < 2 ^ low → ∀ place,
      (front * 2 ^ low + back).testBit place =
        if place < low then back.testBit place else front.testBit (place - low) := by
    intro front back small place
    rw [Nat.mul_comm, testBit_two_pow_mul_add _ small]
  constructor
  · intro same
    constructor
    · intro place least below
      have there := same (place + low) (by omega) (by omega)
      rw [testBit leftLt, testBit rightLt, if_neg (by omega), if_neg (by omega),
        Nat.add_sub_cancel] at there
      exact there
    · intro place least below
      have there := same place (by omega) (by omega)
      rwa [testBit leftLt, testBit rightLt, if_pos below, if_pos below] at there
  · rintro ⟨front, back⟩ place least below
    rw [testBit leftLt, testBit rightLt]
    split
    · exact back place (by omega) ‹_›
    · exact front (place - low) (by omega) (by omega)

end SameLeading

lemma and_mask_eq_iff {width : ℕ} {left right : BitVec width} :
  left &&& BitVec.allOnes width <<< (width - bits) =
      right &&& BitVec.allOnes width <<< (width - bits) ↔
    SameLeading width bits left.toNat right.toNat := by
  constructor
  · intro same place least below
    have there := congrArg (fun word => word.getLsbD place) same
    simp only [BitVec.getLsbD_and, BitVec.getLsbD_shiftLeft, BitVec.getLsbD_allOnes] at there
    rw [BitVec.testBit_toNat, BitVec.testBit_toNat]
    simpa [below, Nat.not_lt.mpr least, show place - (width - bits) < width by omega] using there
  · intro same
    refine BitVec.eq_of_getLsbD_eq fun place below => ?_
    simp only [BitVec.getLsbD_and, BitVec.getLsbD_shiftLeft, BitVec.getLsbD_allOnes]
    by_cases least : width - bits ≤ place
    · have there := same place least below
      rw [BitVec.testBit_toNat, BitVec.testBit_toNat] at there
      rw [there]
    · simp [Nat.not_le.mp least]

lemma and_mask_eq_iff_octet {left right : UInt8} (pos : 0 < bits) (few : bits < 8) :
  left &&& (0xFF : UInt8) <<< ofNat (8 - bits) = right &&& (0xFF : UInt8) <<< ofNat (8 - bits) ↔
    SameLeading 8 bits left.toNat right.toNat := by
  have mask : ((0xFF : UInt8) <<< ofNat (8 - bits)).toBitVec = BitVec.allOnes 8 <<< (8 - bits) := by
    interval_cases bits <;> rfl
  rw [← UInt8.toBitVec_inj, UInt8.toBitVec_and, UInt8.toBitVec_and, mask, and_mask_eq_iff]
  rfl

def wordMask (bits : UInt8) : UInt32 :=
  if bits = 0 then 0 else 0xFFFFFFFF <<< (32 - bits.toUInt32)

lemma toBitVec_wordMask {bits : UInt8} (few : bits ≤ 32) :
  (wordMask bits).toBitVec = BitVec.allOnes 32 <<< (32 - bits.toNat) := by
  have small : bits.toNat ≤ 32 := le_iff_toNat_le.mp few
  have same : bits = ofNat bits.toNat := UInt8.ofNat_toNat.symm
  generalize bits.toNat = count at small same
  subst same
  interval_cases count <;> rfl

lemma and_mask_eq_iff_word {left right : UInt32} {bits : UInt8} (few : bits ≤ 32) :
  left &&& wordMask bits = right &&& wordMask bits ↔
    SameLeading 32 bits.toNat left.toNat right.toNat := by
  rw [← UInt32.toBitVec_inj, UInt32.toBitVec_and, UInt32.toBitVec_and, toBitVec_wordMask few,
    and_mask_eq_iff]
  rfl

lemma take_and_mask_iff {left right : List UInt8} (length : left.length = right.length)
  (few : bits ≤ 8 * left.length) :
  left.take (bits / 8) = right.take (bits / 8) ∧ (bits % 8 = 0 ∨
        left.getD (bits / 8) 0 &&& (0xFF : UInt8) <<< ofNat (8 - bits % 8) =
          right.getD (bits / 8) 0 &&& (0xFF : UInt8) <<< ofNat (8 - bits % 8)) ↔
    SameLeading (8 * left.length) bits (beValue left) (beValue right) := by
  induction left generalizing right bits with
  | nil =>
    cases right with
    | nil =>
      rw [length_nil, Nat.mul_zero, le_zero] at few
      subst few
      exact ⟨fun _ => SameLeading.refl _ _ _, fun _ => ⟨rfl, .inl rfl⟩⟩
    | cons => cases length
  | cons octet left ih =>
    cases right with
    | nil => cases length
    | cons other right =>
      rw [length_cons, length_cons, succ_inj] at length
      have power : (256 : ℕ) ^ left.length = 2 ^ (8 * left.length) := by
        rw [pow_mul]
        rfl
      have leftLt := beValue_lt left
      have rightLt := beValue_lt right
      rw [← length] at rightLt
      rw [power] at leftLt rightLt
      rw [beValue_cons, beValue_cons, ← length, power, length_cons, mul_succ,
        Nat.add_comm _ 8, SameLeading.append_iff leftLt rightLt]
      rcases Nat.lt_or_ge bits 8 with few | many
      · rw [div_eq_of_lt few, mod_eq_of_lt few, take_zero, take_zero,
          getD_cons_zero, getD_cons_zero, Nat.sub_eq_zero_of_le few.le,
          and_iff_right rfl, and_iff_left (SameLeading.of_zero _ _ _)]
        rcases Nat.eq_zero_or_pos bits with rfl | pos
        · exact iff_of_true (.inl rfl) (SameLeading.of_zero _ _ _)
        · rw [or_iff_right pos.ne', and_mask_eq_iff_octet pos few]
      · obtain ⟨more, rfl⟩ := Nat.exists_eq_add_of_le' many
        rw [length_cons] at few
        rw [add_div_right _ (by decide), add_mod_right, Nat.add_sub_cancel,
          take_succ_cons, take_succ_cons, getD_cons_succ, getD_cons_succ,
          List.cons.injEq, and_assoc, ih length (by omega),
          SameLeading.all_iff many octet.toNat_lt other.toNat_lt, UInt8.toNat_inj]

end NextGCore.Library
