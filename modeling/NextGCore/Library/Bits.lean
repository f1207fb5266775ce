import Mathlib.Data.Nat.Digits.Lemmas
import NextGCore.Library.Buffer

/-!
# Bits
-/

open List BitVec

namespace NextGCore.Library.Bitmap

variable {width : ℕ}

def bit (words : List (BitVec width)) (index : ℕ) : Bool :=
  (words.getD (index / width) 0).getLsbD (index % width)

def setBit (words : List (BitVec width)) (index : ℕ) : List (BitVec width) :=
  words.modify (index / width) (· ||| twoPow width (index % width))

def clearBit (words : List (BitVec width)) (index : ℕ) : List (BitVec width) :=
  words.modify (index / width) (· &&& ~~~twoPow width (index % width))

def takeClear : List (BitVec width) → Option (ℕ × List (BitVec width))
  | [] => none
  | word :: rest =>
    if word = allOnes width then
      (takeClear rest).map fun (index, rest) => (width + index, word :: rest)
    else
      let bit := (~~~word).ctz.toNat
      some (bit, (word ||| twoPow width bit) :: rest)

def members (words : List (BitVec width)) (bound : ℕ) : Finset ℕ :=
  (Finset.range bound).filter fun index => bit words index

lemma mem_members {words : List (BitVec width)} {bound index : ℕ} :
  index ∈ members words bound ↔ index < bound ∧ bit words index = true := by
  simp [members]

lemma length_setBit (words : List (BitVec width)) (index : ℕ) :
  (setBit words index).length = words.length := by
  simp [setBit]

lemma length_clearBit (words : List (BitVec width)) (index : ℕ) :
  (clearBit words index).length = words.length := by
  simp [clearBit]

lemma getD_modify (words : List (BitVec width)) (position other : ℕ)
  (change : BitVec width → BitVec width) :
  (words.modify position change).getD other 0 =
    if position = other ∧ other < words.length then change (words.getD other 0)
    else words.getD other 0 := by
  simp only [getD_eq_getElem?_getD, List.getElem?_modify]
  by_cases inside : other < words.length
  · rw [List.getElem?_eq_getElem inside]
    by_cases same : position = other
    · simp [same, inside]
    · simp [same]
  · rw [List.getElem?_eq_none (Nat.le_of_not_lt inside)]
    simp [inside]

lemma eq_of_div_of_mod {first second : ℕ} (word : first / width = second / width)
  (place : first % width = second % width) : first = second := by
  rw [← Nat.div_add_mod first width, word, place, Nat.div_add_mod]

lemma bit_cons_lt (word : BitVec width) (rest : List (BitVec width)) {index : ℕ}
  (first : index < width) : bit (word :: rest) index = word.getLsbD index := by
  unfold bit
  rw [Nat.div_eq_of_lt first, Nat.mod_eq_of_lt first, getD_cons_zero]

lemma setBit_cons_lt (word : BitVec width) (rest : List (BitVec width)) {index : ℕ}
  (first : index < width) :
  setBit (word :: rest) index = (word ||| twoPow width index) :: rest := by
  unfold setBit
  rw [Nat.div_eq_of_lt first, Nat.mod_eq_of_lt first, modify_zero_cons]

variable (positive : 0 < width)

include positive

lemma div_lt {index count : ℕ} (inside : index < width * count) : index / width < count :=
  (Nat.div_lt_iff_lt_mul positive).mpr (Nat.mul_comm width count ▸ inside)

section

variable {words : List (BitVec width)} {index : ℕ} (inside : index < width * words.length)
  (other : ℕ)

include inside other

lemma bit_modify (change : BitVec width → BitVec width) (written : Bool → Bool → Bool)
  (unwritten : ∀ bit, written bit false = bit)
  (changes : ∀ word, (change word).getLsbD (other % width) =
    written (word.getLsbD (other % width)) (decide (index % width = other % width))) :
  bit (words.modify (index / width) change) other =
    written (bit words other) (decide (other = index)) := by
  unfold bit
  rw [getD_modify]
  by_cases sameWord : index / width = other / width
  · rw [if_pos ⟨sameWord, sameWord ▸ div_lt positive inside⟩, changes]
    have iff : index % width = other % width ↔ other = index :=
      ⟨fun samePlace => (eq_of_div_of_mod sameWord samePlace).symm, fun same => same ▸ rfl⟩
    simp only [iff]
  · have different : other ≠ index := fun same => sameWord (same ▸ rfl)
    rw [if_neg (fun both => sameWord both.1), decide_eq_false different, unwritten]

lemma bit_setBit :
  bit (setBit words index) other = (bit words other || decide (other = index)) := by
  refine bit_modify positive inside other _ or Bool.or_false fun word => ?_
  rw [getLsbD_or, getLsbD_twoPow]
  simp [Nat.mod_lt _ positive]

lemma bit_clearBit :
  bit (clearBit words index) other = (bit words other && decide (other ≠ index)) := by
  rw [decide_not]
  refine bit_modify positive inside other _ (fun bit shut => bit && !shut) Bool.and_true
    fun word => ?_
  rw [getLsbD_and, getLsbD_not, getLsbD_twoPow]
  simp [Nat.mod_lt _ positive]

end

lemma bit_cons_add (word : BitVec width) (rest : List (BitVec width)) (index : ℕ) :
  bit (word :: rest) (width + index) = bit rest index := by
  unfold bit
  rw [Nat.add_div_left _ positive, Nat.add_mod_left, getD_cons_succ]

lemma setBit_cons_add (word : BitVec width) (rest : List (BitVec width)) (index : ℕ) :
  setBit (word :: rest) (width + index) = word :: setBit rest index := by
  unfold setBit
  rw [Nat.add_div_left _ positive, Nat.add_mod_left, modify_succ_cons]

lemma takeClear_eq_some {words words' : List (BitVec width)} {index : ℕ}
  (taken : takeClear words = some (index, words')) :
  index < width * words.length ∧ bit words index = false ∧ words' = setBit words index := by
  induction words generalizing index words' with
  | nil => cases taken
  | cons word rest ih =>
    rw [takeClear] at taken
    split at taken
    case isTrue =>
      obtain ⟨⟨place, rest'⟩, found, result⟩ := Option.map_eq_some_iff.mp taken
      obtain ⟨rfl, rfl⟩ := Prod.mk.injEq _ _ _ _ ▸ result
      obtain ⟨inside, clear, changed⟩ := ih found
      refine ⟨?_, ?_, ?_⟩
      · rw [length_cons, Nat.mul_succ]
        omega
      · rwa [bit_cons_add positive]
      · rw [setBit_cons_add positive, changed]
    case isFalse notFull =>
      have nonzero : ~~~word ≠ 0 := by
        intro zero
        apply notFull
        rw [← BitVec.not_not (b := word), zero]
        exact not_zero
      have first : (~~~word).ctz.toNat < width :=
        by simpa [lt_def] using ctz_lt_iff_ne_zero.mpr nonzero
      obtain ⟨rfl, rfl⟩ := Prod.mk.injEq _ _ _ _ ▸ Option.some.inj taken
      refine ⟨?_, ?_, ?_⟩
      · rw [length_cons, Nat.mul_succ]
        omega
      · rw [bit_cons_lt _ _ first]
        have set := getLsbD_true_ctz_of_ne_zero nonzero
        simpa [first] using set
      · rw [setBit_cons_lt _ _ first]

section

variable {words : List (BitVec width)} {index : ℕ} (inside : index < width * words.length)

include inside

lemma members_setBit :
  members (setBit words index) (width * words.length) =
    insert index (members words (width * words.length)) := by
  ext other
  rw [mem_members, bit_setBit positive inside, Finset.mem_insert, mem_members]
  constructor
  · rintro ⟨below, set⟩
    rcases Bool.or_eq_true_iff.mp set with before | same
    · exact .inr ⟨below, before⟩
    · exact .inl (of_decide_eq_true same)
  · rintro (rfl | ⟨below, set⟩)
    · exact ⟨inside, by simp⟩
    · exact ⟨below, by simp [set]⟩

lemma members_clearBit :
  members (clearBit words index) (width * words.length) =
    (members words (width * words.length)).erase index := by
  ext other
  rw [mem_members, bit_clearBit positive inside, Finset.mem_erase, mem_members]
  constructor
  · rintro ⟨below, set⟩
    obtain ⟨before, different⟩ := Bool.and_eq_true_iff.mp set
    exact ⟨of_decide_eq_true different, below, before⟩
  · rintro ⟨different, below, set⟩
    exact ⟨below, by simp [set, different]⟩

end

end NextGCore.Library.Bitmap

/-!
## Numbers in bits and in the fewest octets

Bits stand most significant first.  A number takes as many octets as it has base-256 digits; a
number below zero is shifted right, sign kept, until an octet with its top bit set stands for
all that is left.
-/

namespace NextGCore.Library

def bitWidth (value : ℕ) : ℕ := if value = 0 then 0 else value.log2 + 1

lemma bitWidth_le_iff {value width : ℕ} : bitWidth value ≤ width ↔ value < 2 ^ width := by
  by_cases zero : value = 0
  · simp [bitWidth, zero]
  · rw [bitWidth, if_neg zero, Nat.succ_le_iff, Nat.log2_lt zero]

lemma lt_two_pow_bitWidth (value : ℕ) : value < 2 ^ bitWidth value :=
  bitWidth_le_iff.mp (Nat.le_refl _)

lemma bitWidth_mono {small large : ℕ} (ordered : small ≤ large) :
  bitWidth small ≤ bitWidth large :=
  bitWidth_le_iff.mpr (Nat.lt_of_le_of_lt ordered (lt_two_pow_bitWidth large))

lemma mod_two_pow_succ (value place : ℕ) :
  value % 2 ^ (place + 1) = (value.testBit place).toNat * 2 ^ place + value % 2 ^ place := by
  have bit : (value.testBit place).toNat = value / 2 ^ place % 2 := Nat.toNat_testBit value place
  rw [Nat.mod_pow_succ, bit, Nat.add_comm, Nat.mul_comm]

def bitsValue (bits : List Bool) : ℕ :=
  bits.foldl (fun value bit => 2 * value + bit.toNat) 0

def octetBits (octet : UInt8) : List Bool :=
  [7, 6, 5, 4, 3, 2, 1, 0].map octet.toNat.testBit

def octetsOfBits : ℕ → List Bool → List UInt8
  | 0, _ => []
  | count + 1, bits =>
    UInt8.ofNat (bitsValue (bits.take 8)) :: octetsOfBits count (bits.drop 8)

@[simp]
lemma length_octetBits (octet : UInt8) : (octetBits octet).length = 8 := rfl

lemma octetBits_bitsValue {bits : List Bool} (eight : bits.length = 8) :
  octetBits (UInt8.ofNat (bitsValue bits)) = bits := by
  have every : ∀ b7 b6 b5 b4 b3 b2 b1 b0 : Bool,
      octetBits (UInt8.ofNat (bitsValue [b7, b6, b5, b4, b3, b2, b1, b0])) =
        [b7, b6, b5, b4, b3, b2, b1, b0] := by decide
  obtain ⟨b7, b6, b5, b4, b3, b2, b1, b0, rfl⟩ :
      ∃ b7 b6 b5 b4 b3 b2 b1 b0, bits = [b7, b6, b5, b4, b3, b2, b1, b0] := by
    match bits, eight with
    | [b7, b6, b5, b4, b3, b2, b1, b0], _ => exact ⟨b7, b6, b5, b4, b3, b2, b1, b0, rfl⟩
  exact every b7 b6 b5 b4 b3 b2 b1 b0

lemma flatMap_octetsOfBits {count : ℕ} {bits : List Bool} (whole : bits.length = 8 * count) :
  (octetsOfBits count bits).flatMap octetBits = bits := by
  induction count generalizing bits with
  | zero => rw [eq_nil_of_length_eq_zero whole]; rfl
  | succ count ih =>
    have front : (bits.take 8).length = 8 := by rw [length_take]; omega
    have back : (bits.drop 8).length = 8 * count := by rw [length_drop]; omega
    rw [octetsOfBits, flatMap_cons, octetBits_bitsValue front, ih back, take_append_drop]

/-- `while value > 0 { octets.push((value & 0xFF) as u8); value >>= 8 }; octets.reverse()` -/
def leastOctets (value : ℕ) : List UInt8 := ((Nat.digits 256 value).map UInt8.ofNat).reverse

lemma beValue_concat (octets : List UInt8) (octet : UInt8) :
  beValue (octets ++ [octet]) = 256 * beValue octets + octet.toNat := by
  rw [beValue, foldl_append]
  rfl

lemma beValue_reverse (octets : List UInt8) :
  beValue octets.reverse = Nat.ofDigits 256 (octets.map UInt8.toNat) := by
  induction octets with
  | nil => rfl
  | cons octet octets ih =>
    rw [reverse_cons, beValue_concat, ih, map_cons, Nat.ofDigits_cons, Nat.add_comm]

@[simp]
lemma beValue_leastOctets (value : ℕ) : beValue (leastOctets value) = value := by
  have kept : (Nat.digits 256 value).map (UInt8.toNat ∘ UInt8.ofNat) = Nat.digits 256 value := by
    refine map_congr_left (fun digit member => ?_) |>.trans (map_id _)
    have below : digit < 256 := Nat.digits_lt_base (by decide) member
    rw [Function.comp_apply, UInt8.toNat_ofNat', Nat.mod_eq_of_lt below, id]
  rw [leastOctets, beValue_reverse, map_map, kept, Nat.ofDigits_digits]

lemma length_leastOctets_le_iff {value count : ℕ} :
  (leastOctets value).length ≤ count ↔ value < 256 ^ count := by
  rw [leastOctets, length_reverse, length_map, Nat.digits_length_le_iff (by decide)]

lemma length_leastOctets_pos {value : ℕ} (positive : 0 < value) :
  0 < (leastOctets value).length := by
  by_contra none
  have below := length_leastOctets_le_iff.mp (Nat.le_of_not_lt none)
  omega

/-- `loop { octets.push(value & 0xFF); value >>= 8; .. }` until what is left is the sign of the
last octet, in at most `rounds` rounds. -/
def signedOctets : ℕ → ℤ → List UInt8
  | 0, _ => []
  | rounds + 1, value =>
    let octet := UInt8.ofNat (value % 256).toNat
    let left := value / 256
    if (left = -1 ∧ 128 ≤ octet.toNat) ∨ (left = 0 ∧ octet.toNat < 128) then [octet]
    else octet :: signedOctets rounds left

lemma signedOctets_spec {rounds : ℕ} {value : ℤ} (least : -(128 * 256 ^ rounds) ≤ value)
  (negative : value < 0) :
  ∃ top others, (signedOctets (rounds + 1) value).reverse = top :: others ∧
    128 ≤ top.toNat ∧ others.length ≤ rounds ∧
    (beValue (top :: others) : ℤ) = value + 256 ^ (others.length + 1) := by
  have octet : ((UInt8.ofNat (value % 256).toNat).toNat : ℤ) = value % 256 := by
    rw [UInt8.toNat_ofNat', Nat.mod_eq_of_lt (by omega)]
    omega
  induction rounds generalizing value with
  | zero =>
    have left : value / 256 = -1 := by omega
    have last : 128 ≤ (UInt8.ofNat (value % 256).toNat).toNat := by omega
    refine ⟨_, [], by rw [signedOctets, if_pos (.inl ⟨left, last⟩)]; rfl, last, le_rfl, ?_⟩
    simp only [beValue, foldl_cons, foldl_nil, length_nil, Nat.mul_zero, Nat.zero_add, octet]
    omega
  | succ rounds ih =>
    rw [signedOctets]
    by_cases ended : (value / 256 = -1 ∧ 128 ≤ (UInt8.ofNat (value % 256).toNat).toNat) ∨
        (value / 256 = 0 ∧ (UInt8.ofNat (value % 256).toNat).toNat < 128)
    · have last : value / 256 = -1 ∧ 128 ≤ (UInt8.ofNat (value % 256).toNat).toNat := by omega
      refine ⟨_, [], by rw [if_pos ended]; rfl, last.2, by simp, ?_⟩
      simp only [beValue, foldl_cons, foldl_nil, length_nil, Nat.mul_zero, Nat.zero_add, octet]
      omega
    · have least' : -(128 * 256 ^ rounds) ≤ value / 256 := by
        rw [pow_succ] at least
        omega
      obtain ⟨top, others, reversed, signed, short, valued⟩ :=
        ih least' (by omega) (by
          rw [UInt8.toNat_ofNat', Nat.mod_eq_of_lt (by omega)]; omega)
      refine ⟨top, others ++ [UInt8.ofNat (value % 256).toNat], ?_, signed, ?_, ?_⟩
      · rw [if_neg ended, reverse_cons, reversed, List.cons_append]
      · rw [length_append, length_singleton]
        omega
      · rw [← List.cons_append, beValue_concat, length_append, length_singleton,
          pow_succ (256 : ℤ) (others.length + 1)]
        push_cast
        rw [valued, octet]
        omega

lemma or_shifted {value part width : ℕ} (narrow : width ≤ 64) (small : part < 2 ^ width) :
  (value * 2 ^ width % 2 ^ 64) ||| part = (value * 2 ^ width + part) % 2 ^ 64 := by
  have whole : 2 ^ 64 = 2 ^ (64 - width) * 2 ^ width := by rw [← pow_add]; congr 1; omega
  have shifted : value * 2 ^ width % 2 ^ 64 = (value % 2 ^ (64 - width)) <<< width := by
    rw [whole, Nat.mul_mod_mul_right, Nat.shiftLeft_eq]
  have below : (value % 2 ^ (64 - width)) * 2 ^ width + part < 2 ^ 64 := by
    have bound : value % 2 ^ (64 - width) < 2 ^ (64 - width) := Nat.mod_lt _ (by positivity)
    rw [whole]
    nlinarith
  rw [shifted, ← Nat.shiftLeft_add_eq_or_of_lt small, Nat.shiftLeft_eq, ← Nat.mod_eq_of_lt below,
    ← Nat.mul_mod_mul_right, ← whole, Nat.mod_add_mod]

lemma toNat_shiftIn_bit (value : UInt64) (bit : Bool) :
  (value <<< 1 ||| bit.toUInt64).toNat = (2 * value.toNat + bit.toNat) % 2 ^ 64 := by
  have small : bit.toNat < 2 ^ 1 := by cases bit <;> decide
  have part : bit.toUInt64.toNat = bit.toNat := by cases bit <;> rfl
  have shifted : (value <<< 1).toNat = value.toNat * 2 ^ 1 % 2 ^ 64 := by
    rw [UInt64.toNat_shiftLeft, Nat.shiftLeft_eq]
    rfl
  rw [UInt64.toNat_or, shifted, part, or_shifted (by decide) small, Nat.mul_comm]
  rfl

lemma toNat_shiftIn_octet {value part : UInt64} (small : part.toNat < 256) :
  (value <<< 8 ||| part).toNat = (256 * value.toNat + part.toNat) % 2 ^ 64 := by
  have shifted : (value <<< 8).toNat = value.toNat * 2 ^ 8 % 2 ^ 64 := by
    rw [UInt64.toNat_shiftLeft, Nat.shiftLeft_eq]
    rfl
  rw [UInt64.toNat_or, shifted, or_shifted (by decide) small, Nat.mul_comm]
  rfl

end NextGCore.Library
