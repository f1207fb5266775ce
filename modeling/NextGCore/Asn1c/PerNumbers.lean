import NextGCore.Asn1c.PerPrimitives

/-!
# Numbers in PER
-/

namespace NextGCore.Asn1c

open NextGCore.Library List Nat AperDecoder Recovers Encoder AperEncoder Decoder Int64 Constraint
  UInt64

variable {checks : Bool} {low left right : Int64} {high difference : Int64}

lemma toNat_toUInt64 (value : Int64) : (value.toUInt64.toNat : ℤ) = value.toInt % 2 ^ 64 := by
  have wrapped : value.toInt = (value.toUInt64.toNat : ℤ).bmod (2 ^ 64) :=
    BitVec.toInt_eq_toNat_bmod value.toBitVec
  have below : value.toUInt64.toNat < 2 ^ 64 := value.toUInt64.toNat_lt
  rw [wrapped]
  have back := Int.bmod_emod (x := (value.toUInt64.toNat : ℤ)) (m := 2 ^ 64)
  omega

lemma toInt_toInt64 (value : UInt64) : value.toInt64.toInt = (value.toNat : ℤ).bmod (2 ^ 64) :=
  BitVec.toInt_eq_toNat_bmod value.toBitVec

lemma toInt_toInt64_of_lt {value : UInt64} (small : value.toNat < 2 ^ 63) :
  value.toInt64.toInt = value.toNat := by
  rw [toInt_toInt64, Int.bmod_eq_of_le (by omega) (by omega)]

lemma asUsize_asI64 {size : ℕ} (small : size < 2 ^ 64) : asUsize (asI64 size) = size := by
  rw [asUsize, asI64, toUInt64_ofNat', UInt64.toNat_ofNat', mod_eq_of_lt small]

lemma toInt_asI64 {size : ℕ} (small : size < 2 ^ 63) : (asI64 size).toInt = size :=
  toInt_ofNat_of_lt small

lemma toNat_sub_of_le (ordered : low ≤ high) :
  ((high - low).toUInt64.toNat : ℤ) = high.toInt - low.toInt := by
  have below := high.toInt_lt
  have above := low.le_toInt
  have nonneg := le_iff_toInt_le.mp ordered
  have wrapped : (high - low).toInt = (high.toInt - low.toInt).bmod (2 ^ 64) :=
    toInt_sub high low
  have back := Int.bmod_emod (x := high.toInt - low.toInt) (m := 2 ^ 64)
  rw [toNat_toUInt64, wrapped]
  omega

lemma eq_of_subI64 (done : subI64 checks left right = .ok difference) :
  difference = left - right ∧ (checks → (left - right).toInt = left.toInt - right.toInt) := by
  unfold subI64 at done
  split at done
  · exact nomatch done
  · rename_i unwrapped
    refine ⟨(Except.ok.inj done).symm, fun checked => ?_⟩
    by_contra inexact
    exact unwrapped ⟨checked, inexact⟩

lemma subI64_of_exact (unwrapped : (left - right).toInt = left.toInt - right.toInt) :
  subI64 checks left right = .ok (left - right) := if_neg fun overflows => overflows.2 unwrapped

lemma addI64_of_exact (unwrapped : (left + right).toInt = left.toInt + right.toInt) :
  addI64 checks left right = .ok (left + right) := if_neg fun overflows => overflows.2 unwrapped

namespace Constraint

/-- The constraint has every `i64`, and their number is one too many for a `u64`. -/
def Unlimited (constraint : Constraint) : Prop :=
  constraint.min = Int64.minValue ∧ constraint.max = Int64.maxValue

instance (constraint : Constraint) : Decidable constraint.Unlimited :=
  inferInstanceAs (Decidable (_ ∧ _))

variable {constraint : Constraint} {range : UInt64}

lemma unlimited_iff : constraint.Unlimited ↔
  constraint.max.toInt - constraint.min.toInt = 2 ^ 64 - 1 := by
  have top := constraint.max.toInt_lt
  have bottom := constraint.min.le_toInt
  have least : minValue.toInt = -2 ^ 63 := rfl
  have most : maxValue.toInt = 2 ^ 63 - 1 := rfl
  rw [Unlimited, ← toInt_inj, ← toInt_inj, least, most]
  omega

section

variable (ordered : constraint.min ≤ constraint.max) (done : constraint.range checks = .ok range)

include ordered done

lemma toNat_range :
  (range.toNat : ℤ) = (constraint.max.toInt - constraint.min.toInt + 1) % 2 ^ 64 := by
  rw [Constraint.range, if_pos ordered] at done
  cases widened : subI64 checks constraint.max constraint.min with
  | error stop => rw [widened] at done; exact nomatch done
  | ok width =>
    rw [widened] at done
    have sum : range = width.toUInt64 + 1 := by
      unfold addU64 at done
      simp only [bind, Except.bind] at done
      split at done
      · exact nomatch done
      · exact (Except.ok.inj done).symm
    have distance := toNat_sub_of_le ordered
    have one : (1 : UInt64).toNat = 1 := rfl
    rw [sum, (eq_of_subI64 widened).1, UInt64.toNat_add, one]
    omega

lemma range_eq_zero_iff : range = 0 ↔ constraint.Unlimited := by
  have counted := toNat_range ordered done
  have top := constraint.max.toInt_lt
  have bottom := constraint.min.le_toInt
  have nonneg := le_iff_toInt_le.mp ordered
  have zero : (0 : UInt64).toNat = 0 := rfl
  rw [unlimited_iff, ← UInt64.toNat_inj, zero]
  omega

lemma toNat_range_of_ne_zero (limited : range ≠ 0) :
  (range.toNat : ℤ) = constraint.max.toInt - constraint.min.toInt + 1 := by
  have counted := toNat_range ordered done
  have some_left := mt (range_eq_zero_iff ordered done).mpr limited
  rw [unlimited_iff] at some_left
  have top := constraint.max.toInt_lt
  have bottom := constraint.min.le_toInt
  have nonneg := le_iff_toInt_le.mp ordered
  omega

end

lemma bitsNeeded_of_range (done : constraint.range checks = .ok range) :
  constraint.bitsNeeded checks = .ok (if range ≤ 1 then 0 else bitWidth (range.toNat - 1)) := by
  rw [bitsNeeded, done]
  simp only [bind, Except.bind]
  split <;> rfl

lemma range_of_near (ordered : constraint.min ≤ constraint.max)
  (near : constraint.max.toInt - constraint.min.toInt < 2 ^ 63) :
  ∃ range, constraint.range checks = .ok range ∧
    (range.toNat : ℤ) = constraint.max.toInt - constraint.min.toInt + 1 := by
  have nonneg := le_iff_toInt_le.mp ordered
  have unwrapped : (constraint.max - constraint.min).toInt =
      constraint.max.toInt - constraint.min.toInt := by
    rw [toInt_sub, Int.bmod_eq_of_le (by omega) (by omega)]
  have distance := toNat_sub_of_le ordered
  have one : (1 : UInt64).toNat = 1 := rfl
  have sum : ((constraint.max - constraint.min).toUInt64 + 1).toNat =
      (constraint.max - constraint.min).toUInt64.toNat + (1 : UInt64).toNat := by
    rw [UInt64.toNat_add, mod_eq_of_lt (by omega)]
  refine ⟨(constraint.max - constraint.min).toUInt64 + 1, ?_, by rw [sum, one]; omega⟩
  rw [Constraint.range, if_pos ordered, subI64_of_exact unwrapped]
  exact if_neg fun overflows => overflows.2 sum

end Constraint

lemma addI64_difference {value : Int64} (done : subI64 checks value low = .ok difference) :
  addI64 checks low difference.toUInt64.toInt64 = .ok value := by
  obtain ⟨rfl, unwrapped⟩ := eq_of_subI64 done
  have back : low + (value - low) = value := by
    rw [Int64.add_comm, Int64.sub_add_cancel]
  rw [toInt64_toUInt64]
  unfold addI64
  rw [back]
  refine if_neg fun overflows => overflows.2 ?_
  have distance := unwrapped overflows.1
  omega

lemma addI64_of_le {offset : UInt64} (near : high.toInt - low.toInt < 2 ^ 63)
  (inside : (offset.toNat : ℤ) ≤ high.toInt - low.toInt) :
  ∃ value, addI64 checks low offset.toInt64 = .ok value ∧
    value.toInt = low.toInt + offset.toNat := by
  have top := high.toInt_lt
  have bottom := low.le_toInt
  have signed : offset.toInt64.toInt = offset.toNat := toInt_toInt64_of_lt (by omega)
  have sum : (low + offset.toInt64).toInt = low.toInt + offset.toNat := by
    rw [toInt_add, signed, Int.bmod_eq_of_le (by omega) (by omega)]
  exact ⟨low + offset.toInt64, addI64_of_exact (by rw [sum, signed]), sum⟩

variable {checks : Bool} {variant : Variant} (value : Int64) (bytes : List UInt8)

/-- The value that is read: nothing is written under a constraint that has all of `i64`. -/
def Constraint.recovered (constraint : Constraint) (value : Int64) : Int64 :=
  if constraint.Unlimited then constraint.min else value

section Constrained

variable {constraint : Constraint} {value difference : Int64} {range : UInt64} {offset : UInt64}
  {most count : ℕ}

lemma octetsFor_mono {few many : ℕ} (fewer : few ≤ many) : octetsFor few ≤ octetsFor many := by
  unfold octetsFor
  omega

lemma decoded_offset (least : constraint.min ≤ value) (most : value ≤ constraint.max)
  (ranged : constraint.range checks = .ok range)
  (differs : subI64 checks value constraint.min = .ok difference)
  (read : range ≠ 0 ∧ offset = difference.toUInt64 ∨ range = 0 ∧ offset = 0) :
  (if range ≠ 0 ∧ range ≤ offset then throw (.error (outsideRange offset range))
    else liftM (addI64 checks constraint.min offset.toInt64) : Decoder Int64) =
    pure (constraint.recovered value) := by
  have ordered : constraint.min ≤ constraint.max := Int64.le_trans least most
  rcases read with ⟨limited, rfl⟩ | ⟨rfl, rfl⟩
  · have counted := toNat_range_of_ne_zero ordered ranged limited
    have distance := toNat_sub_of_le least
    have below := le_iff_toInt_le.mp most
    have inside : ¬range ≤ difference.toUInt64 := by
      rw [(eq_of_subI64 differs).1, le_iff_toNat_le]
      omega
    have some_left := mt (range_eq_zero_iff ordered ranged).mpr limited
    rw [if_neg fun outside => inside outside.2, addI64_difference differs, recovered,
      if_neg some_left]
    rfl
  · have unlimited := (range_eq_zero_iff ordered ranged).mp rfl
    have unwrapped : (constraint.min + (0 : UInt64).toInt64).toInt =
        constraint.min.toInt + (0 : UInt64).toInt64.toInt := by
      have zero : (0 : UInt64).toInt64 = 0 := rfl
      rw [zero, Int64.add_zero, toInt_zero, Int.add_zero]
    have zero : (0 : UInt64).toInt64 = 0 := rfl
    rw [if_neg fun outside => outside.1 rfl, addI64_of_exact unwrapped, zero, Int64.add_zero,
      recovered, if_pos unlimited]
    rfl

lemma offset_in_bits (least : constraint.min ≤ value) (most : value ≤ constraint.max)
  (ranged : constraint.range checks = .ok range)
  (differs : subI64 checks value constraint.min = .ok difference) (several : range ≠ 1) :
  let bits := if range ≤ 1 then 0 else bitWidth (range.toNat - 1)
  let offset := UInt64.ofNat (difference.toUInt64.toNat % 2 ^ bits)
  range ≠ 0 ∧ offset = difference.toUInt64 ∨ range = 0 ∧ offset = 0 := by
  have ordered : constraint.min ≤ constraint.max := Int64.le_trans least most
  by_cases empty : range = 0
  · right
    subst empty
    refine ⟨rfl, ?_⟩
    rw [if_pos (by decide), pow_zero, mod_one]
    rfl
  · left
    have counted := toNat_range_of_ne_zero ordered ranged empty
    have distance := toNat_sub_of_le least
    have below := le_iff_toInt_le.mp most
    have one : (1 : UInt64).toNat = 1 := rfl
    have notOne : range.toNat ≠ 1 := fun equal => several (UInt64.toNat_inj.mp equal)
    have notZero : range.toNat ≠ 0 := fun equal => empty (UInt64.toNat_inj.mp equal)
    have wide : ¬range ≤ 1 := by
      rw [le_iff_toNat_le]
      omega
    have fits : difference.toUInt64.toNat < 2 ^ bitWidth (range.toNat - 1) := by
      refine Nat.lt_of_le_of_lt ?_ (lt_two_pow_bitWidth _)
      rw [(eq_of_subI64 differs).1]
      omega
    refine ⟨empty, ?_⟩
    rw [if_neg wide, mod_eq_of_lt fits, UInt64.ofNat_toNat]

lemma value_of_range_one (least : constraint.min ≤ value) (most : value ≤ constraint.max)
  (ranged : constraint.range checks = .ok 1) : constraint.recovered value = constraint.min := by
  have ordered : constraint.min ≤ constraint.max := Int64.le_trans least most
  have counted := toNat_range_of_ne_zero ordered ranged (by decide)
  have one : (1 : UInt64).toNat = 1 := rfl
  have below := le_iff_toInt_le.mp most
  have above := le_iff_toInt_le.mp least
  have only : value = constraint.min := toInt_inj.mp (by omega)
  rw [recovered, only, ite_self]

lemma readBack_uperConstrained (value : Int64) (constraint : Constraint) :
  ReadBack (UperEncoder.encodeConstrainedWholeNumber checks value constraint)
    (fun input => UperDecoder.decodeConstrainedWholeNumber checks input constraint)
    (pure (constraint.recovered value)) := by
  unfold UperEncoder.encodeConstrainedWholeNumber UperDecoder.decodeConstrainedWholeNumber
  by_cases violated : value < constraint.min ∨ constraint.max < value
  · rw [if_pos violated]
    exact stopped
  · rw [not_or, Int64.not_lt, Int64.not_lt] at violated
    rw [if_neg (by rwa [not_or, Int64.not_lt, Int64.not_lt])]
    refine computed fun range ranged => ?_
    by_cases single : range = 1
    · subst single
      rw [if_pos rfl, value_of_range_one violated.1 violated.2 ranged]
      exact idle
    · simp only [if_neg single]
      refine computing fun difference differs => ?_
      simp only [bitsNeeded_of_range ranged, liftM_ok, pure_bind]
      refine settled (readBack_readBits _ _) fun input => ?_
      exact decoded_offset violated.1 violated.2 ranged differs
        (offset_in_bits violated.1 violated.2 ranged differs single)

lemma offsetOctets_bounds {offset : ℕ} (large : 65536 ≤ most) (word : most < 2 ^ 64)
  (below : offset ≤ most) :
  1 ≤ offsetOctets offset ∧ offsetOctets offset ≤ octetsFor (bitWidth most) ∧
    3 ≤ octetsFor (bitWidth most) ∧ octetsFor (bitWidth most) ≤ 8 := by
  have widest : bitWidth most ≤ 64 := bitWidth_le_iff.mpr word
  have widish : ¬bitWidth most ≤ 16 := by
    rw [bitWidth_le_iff]
    omega
  have ordered := octetsFor_mono (bitWidth_mono below)
  have three : 3 ≤ octetsFor (bitWidth most) := by unfold octetsFor; omega
  have eight : octetsFor (bitWidth most) ≤ 8 := by unfold octetsFor; omega
  unfold offsetOctets
  by_cases zero : offset = 0
  · rw [if_pos zero]
    omega
  · have positive : ¬bitWidth offset ≤ 0 := by
      rw [bitWidth_le_iff]
      omega
    rw [if_neg zero]
    refine ⟨?_, ordered, three, eight⟩
    unfold octetsFor
    omega

lemma lt_pow_offsetOctets (offset : ℕ) : offset < 256 ^ offsetOctets offset := by
  unfold offsetOctets
  by_cases zero : offset = 0
  · rw [if_pos zero, zero]
    decide
  · rw [if_neg zero]
    calc offset < 2 ^ bitWidth offset := lt_two_pow_bitWidth offset
      _ ≤ 2 ^ (8 * octetsFor (bitWidth offset)) :=
          Nat.pow_le_pow_right (by decide) (by unfold octetsFor; omega)
      _ = 256 ^ octetsFor (bitWidth offset) := by rw [pow_mul]; rfl

lemma readBack_whole_offset (small : offset.toNat < 256 ^ count) :
  ReadBack (writeOffset offset.toNat count)
    (fun input => readOffset checks input count 0) (pure offset) := by
  have whole : UInt64.ofNat ((0 : UInt64).toNat * 256 ^ count + offset.toNat % 256 ^ count) =
      offset := by
    rw [UInt64.toNat_zero, Nat.zero_mul, Nat.zero_add, mod_eq_of_lt small, UInt64.ofNat_toNat]
  have back : ReadBack (writeOffset offset.toNat count)
      (fun input => readOffset checks input count 0) (pure (UInt64.ofNat
        ((0 : UInt64).toNat * 256 ^ count + offset.toNat % 256 ^ count))) :=
    readBack_readOffset offset.toNat count 0
  rwa [whole] at back

lemma readBack_aperConstrainedWithin {calls : ℕ} (value : Int64) (constraint : Constraint)
  (inner : (∃ range, constraint.range checks = .ok range ∧ 65536 < range.toNat) →
    ∀ count most : ℕ, 1 ≤ count → count ≤ most → 3 ≤ most → most ≤ 8 →
      ReadBack (encodeConstrainedWithin checks calls (asI64 count) (new 1 (asI64 most)))
        (fun input => decodeConstrainedWithin checks input calls
          (new 1 (asI64 most))) (pure (asI64 count))) :
  ReadBack (encodeConstrainedWithin checks (calls + 1) value constraint)
    (fun input => decodeConstrainedWithin checks input (calls + 1) constraint)
    (pure (constraint.recovered value)) := by
  unfold encodeConstrainedWithin decodeConstrainedWithin
  by_cases violated : value < constraint.min ∨ constraint.max < value
  · rw [if_pos violated]
    exact stopped
  · have bounded : constraint.min ≤ value ∧ value ≤ constraint.max := by
      rwa [not_or, Int64.not_lt, Int64.not_lt] at violated
    obtain ⟨least, most⟩ := bounded
    rw [if_neg violated]
    refine computed fun range ranged => computing fun difference differs => ?_
    by_cases single : range = 1
    · subst single
      simp only [if_pos]
      rw [value_of_range_one least most ranged]
      exact idle
    · simp only [if_neg single]
      have ordered : constraint.min ≤ constraint.max := Int64.le_trans least most
      have distance := toNat_sub_of_le least
      have below := le_iff_toInt_le.mp most
      by_cases few : range ≤ 255
      · simp only [if_pos few, bitsNeeded_of_range ranged, liftM_ok, pure_bind]
        exact settled (readBack_readBits _ _) fun _ =>
          decoded_offset least most ranged differs (offset_in_bits least most ranged differs single)
      · have limited : range ≠ 0 := by
          rintro rfl
          exact few (by decide)
        have counted := toNat_range_of_ne_zero ordered ranged limited
        have within : difference.toUInt64.toNat ≤ range.toNat - 1 := by
          rw [(eq_of_subI64 differs).1]
          omega
        have whole : UInt64.ofNat difference.toUInt64.toNat = difference.toUInt64 :=
          UInt64.ofNat_toNat
        have finish := decoded_offset least most ranged differs (.inl ⟨limited, rfl⟩)
        simp only [if_neg few]
        by_cases octet : range = 256
        · have small : difference.toUInt64.toNat < 2 ^ 8 := by
            have counted : range.toNat = 256 := by rw [octet]; rfl
            omega
          simp only [if_pos octet]
          refine seq readBack_align ?_
          refine settled (readBack_readBits_of_lt small) fun _ => ?_
          rw [whole]
          exact finish
        · simp only [if_neg octet]
          by_cases octets : range ≤ 65536
          · have small : difference.toUInt64.toNat < 2 ^ 16 := by
              have counted : range.toNat ≤ 65536 := le_iff_toNat_le.mp octets
              omega
            simp only [if_pos octets]
            refine seq readBack_align ?_
            refine settled (readBack_readBits_of_lt small) fun _ => ?_
            rw [whole]
            exact finish
          · have many : 65536 < range.toNat := by
              rw [le_iff_toNat_le] at octets
              exact Nat.lt_of_not_le octets
            have wide : ¬range ≤ 1 := by
              have one : (1 : UInt64).toNat = 1 := rfl
              rw [le_iff_toNat_le]
              omega
            have word := range.toNat_lt
            obtain ⟨one, fits, three, eight⟩ : 1 ≤ offsetOctets difference.toUInt64.toNat ∧
                  offsetOctets difference.toUInt64.toNat ≤ octetsFor (bitWidth (range.toNat - 1)) ∧
                  3 ≤ octetsFor (bitWidth (range.toNat - 1)) ∧
                  octetsFor (bitWidth (range.toNat - 1)) ≤ 8 :=
              offsetOctets_bounds (by omega) (by omega) within
            simp only [if_neg octets, bitsNeeded_of_range ranged, if_neg wide, liftM_ok, pure_bind]
            refine seq (inner ⟨range, ranged, many⟩ _ _ one fits three eight) ?_
            refine seq readBack_align ?_
            refine settled (?_ : ReadBack _ _ (pure difference.toUInt64)) fun _ => finish
            rw [asUsize_asI64 (by omega)]
            exact readBack_whole_offset (lt_pow_offsetOctets _)

lemma recovered_of_near {constraint : Constraint} {value : Int64}
  (near : constraint.max.toInt - constraint.min.toInt < 2 ^ 63) :
  constraint.recovered value = value := by
  refine if_neg fun unlimited => ?_
  have whole := unlimited_iff.mp unlimited
  omega

lemma readBack_octetCount (three : 3 ≤ most) (eight : most ≤ 8) :
  ReadBack (encodeConstrainedWithin checks 1 (asI64 count) (new 1 (asI64 most)))
    (fun input => decodeConstrainedWithin checks input 1
      (new 1 (asI64 most))) (pure (asI64 count)) := by
  let constraint := new 1 (asI64 most)
  have top : constraint.max.toInt = most := toInt_asI64 (by omega)
  have bottom : constraint.min.toInt = 1 := rfl
  have near : constraint.max.toInt - constraint.min.toInt < 2 ^ 63 := by omega
  have recovers : ReadBack (encodeConstrainedWithin checks 1 (asI64 count) constraint)
      (fun input => decodeConstrainedWithin checks input 1 constraint)
      (pure (constraint.recovered (asI64 count))) := by
    refine readBack_aperConstrainedWithin (asI64 count) constraint ?_
    rintro ⟨range, ranged, large⟩
    have ordered : constraint.min ≤ constraint.max := le_iff_toInt_le.mpr (by omega)
    have counted := toNat_range ordered ranged
    omega
  rwa [recovered_of_near near] at recovers

lemma readBack_aperConstrained (value : Int64) (constraint : Constraint) :
  ReadBack (AperEncoder.encodeConstrainedWholeNumber checks value constraint)
    (fun input => AperDecoder.decodeConstrainedWholeNumber checks input constraint)
    (pure (constraint.recovered value)) :=
  readBack_aperConstrainedWithin value constraint fun _ _ _ _ _ three eight =>
    readBack_octetCount three eight

end Constrained

lemma readBack_constrained (constraint : Constraint) :
  ReadBack (Encoder.encodeConstrainedWholeNumber checks variant value constraint)
    (fun input => Decoder.decodeConstrainedWholeNumber checks input variant constraint)
    (pure (constraint.recovered value)) := by
  cases variant with
  | aligned => exact readBack_aperConstrained value constraint
  | unaligned => exact readBack_uperConstrained value constraint

lemma twosComplementMinOctets_spec :
  ∃ first others, twosComplementMinOctets value = first :: others ∧ others.length < 8 ∧
    (128 ≤ first.toNat ↔ value.toInt < 0) ∧
    (beValue (first :: others) : ℤ) =
      value.toInt + if value.toInt < 0 then 256 ^ (others.length + 1) else 0 := by
  have top := value.toInt_lt
  have bottom := value.le_toInt
  have zero : (0 : Int64).toInt = 0 := rfl
  unfold twosComplementMinOctets
  by_cases negative : 0 ≤ value
  · have nonneg : 0 ≤ value.toInt := le_iff_toInt_le.mp negative
    have word : (value.toUInt64.toNat : ℤ) = value.toInt := by
      rw [toNat_toUInt64]
      omega
    rw [if_pos negative]
    by_cases none : value = 0
    · rw [if_pos none, none]
      exact ⟨0, [], rfl, by decide, by decide, by decide⟩
    · have positive : 0 < value.toUInt64.toNat := by
        have := mt (fun equal : value.toInt = 0 => toInt_inj.mp (equal.trans zero.symm)) none
        omega
      rw [if_neg none]
      have short : (leastOctets value.toUInt64.toNat).length ≤ 8 :=
        length_leastOctets_le_iff.mpr value.toUInt64.toNat_lt
      have valued := beValue_leastOctets value.toUInt64.toNat
      cases octets : leastOctets value.toUInt64.toNat with
      | nil =>
        have some_left := length_leastOctets_pos positive
        rw [octets] at some_left
        exact nomatch some_left
      | cons first others =>
        rw [octets] at short valued
        rw [beValue_cons] at valued
        rw [length_cons] at short
        by_cases high : 128 ≤ first.toNat
        · have shorter : others.length ≠ 7 := by
            intro seven
            rw [seven] at valued
            omega
          have signed : ¬value.toInt < 0 := by omega
          refine ⟨0, first :: others, if_pos high, by rw [length_cons]; omega, ?_, ?_⟩
          · exact ⟨fun above => absurd above (by decide), fun below => absurd below signed⟩
          · rw [if_neg signed, beValue_cons, beValue_cons, valued]
            push_cast
            rw [word]
            simp
        · have signed : ¬value.toInt < 0 := by omega
          refine ⟨first, others, if_neg high, by omega, by omega, ?_⟩
          rw [if_neg signed, beValue_cons, valued, word, Int.add_zero]
  · have below : value.toInt < 0 := by
      rw [le_iff_toInt_le, zero] at negative
      omega
    have least : -(128 * 256 ^ 7) ≤ value.toInt := by omega
    obtain ⟨first, others, reversed, signed, short, valued⟩ := signedOctets_spec least below
    rw [if_neg negative]
    refine ⟨first, others, reversed, by omega, by omega, ?_⟩
    rw [valued, if_pos below]

lemma toNat_foldl_octets (start : UInt64) :
  (bytes.foldl (fun (value : UInt64) byte => value <<< 8 ||| byte.toUInt64) start).toNat =
    (start.toNat * 256 ^ bytes.length + beValue bytes) % 2 ^ 64 := by
  induction bytes generalizing start with
  | nil =>
    have word := start.toNat_lt
    simp [beValue, mod_eq_of_lt word]
  | cons byte bytes ih =>
    have small : byte.toUInt64.toNat < 256 := byte.toNat_lt
    have same : byte.toUInt64.toNat = byte.toNat := rfl
    rw [foldl_cons, ih, toNat_shiftIn_octet small, same, beValue_cons,
      length_cons, add_mod, mod_mul_mod, ← add_mod]
    congr 1
    ring

lemma toUInt64_foldl_octets (start : Int64) :
  (bytes.foldl (fun (value : Int64) byte =>
      value <<< 8 ||| byte.toUInt64.toInt64) start).toUInt64 =
    bytes.foldl (fun (value : UInt64) byte => value <<< 8 ||| byte.toUInt64) start.toUInt64 := by
  induction bytes generalizing start with
  | nil => rfl
  | cons byte bytes ih =>
    rw [foldl_cons, foldl_cons, ih]
    rfl

lemma readBack_unconstrained : ReadBack (encodeUnconstrainedWholeNumber variant value)
    (fun input => decodeUnconstrainedWholeNumber checks input variant) (pure value) := by
  obtain ⟨first, others, octets, short, signed, valued⟩ := twosComplementMinOctets_spec value
  unfold encodeUnconstrainedWholeNumber decodeUnconstrainedWholeNumber
  rw [octets]
  have allowed : ¬((first :: others).length = 0 ∨ 8 < (first :: others).length) := by
    rw [length_cons]
    omega
  refine seq (readBack_lengthDeterminant _) ?_
  simp only [if_neg allowed]
  refine seq readBack_align (settled (readBack_readBytes _) fun input => ?_)
  let sign : Int64 := if 128 ≤ first.toNat then -1 else 0
  have whole : (first :: others).foldl (fun (value : Int64) byte =>
      value <<< 8 ||| byte.toUInt64.toInt64) sign = value := by
    have word := toNat_toUInt64 value
    have folded := toNat_foldl_octets (first :: others) sign.toUInt64
    rw [← toUInt64_foldl_octets, length_cons] at folded
    have same : ((sign.toUInt64.toNat * 256 ^ (others.length + 1) +
        beValue (first :: others) : ℕ) : ℤ) % 2 ^ 64 = value.toInt % 2 ^ 64 := by
      by_cases negative : value.toInt < 0
      · have ones : sign.toUInt64.toNat = 2 ^ 64 - 1 := by
          have above := signed.mpr negative
          simp only [sign, if_pos above]
          rfl
        rw [if_pos negative] at valued
        rw [ones]
        push_cast
        rw [valued]
        omega
      · have zeros : sign.toUInt64.toNat = 0 := by
          have below := mt signed.mp negative
          simp only [sign, if_neg below]
          rfl
        rw [if_neg negative] at valued
        rw [zeros]
        push_cast
        rw [valued]
        omega
    generalize (first :: others).foldl (fun (value : Int64) byte =>
      value <<< 8 ||| byte.toUInt64.toInt64) sign = result at folded ⊢
    have equal : result.toUInt64.toNat = value.toUInt64.toNat := by omega
    exact congrArg UInt64.toInt64 (UInt64.toNat_inj.mp equal)
  exact congrArg pure whole

lemma readBack_octets_as_offset (start : UInt64) :
  ReadBack (writeBytes bytes) (fun input => readOffset checks input bytes.length start)
    (pure (bytes.foldl (fun (value : UInt64) byte => value <<< 8 ||| byte.toUInt64) start)) := by
  induction bytes generalizing start with
  | nil => exact idle
  | cons byte bytes ih =>
    have small : byte.toNat < 2 ^ 8 := byte.toNat_lt
    have same : UInt64.ofNat byte.toNat = byte.toUInt64 := by
      apply UInt64.toNat_inj.mp
      rw [UInt64.toNat_ofNat', mod_eq_of_lt (by omega)]
      rfl
    refine seq (readBack_readBits_of_lt small) ?_
    rw [same]
    exact ih _

lemma readBack_normallySmall (value : UInt64) :
  ReadBack (encodeNormallySmallNonNegative variant value)
    (fun input => decodeNormallySmallNonNegative checks input variant) (pure value) := by
  unfold encodeNormallySmallNonNegative decodeNormallySmallNonNegative
  have whole : UInt64.ofNat value.toNat = value := UInt64.ofNat_toNat
  by_cases small : value ≤ 63
  · have six : value.toNat < 2 ^ 6 := by
      have most : value.toNat ≤ 63 := le_iff_toNat_le.mp small
      omega
    have back : ReadBack (writeBits value.toNat 6) (fun input => readBits checks input 6)
        (pure (UInt64.ofNat value.toNat)) := readBack_readBits_of_lt six
    rw [whole] at back
    rw [if_pos small]
    exact seq Recovers.one back
  · have positive : 0 < value.toNat := by
      rw [le_iff_toNat_le] at small
      omega
    have some_left := length_leastOctets_pos positive
    have short : (leastOctets value.toNat).length ≤ 8 :=
      length_leastOctets_le_iff.mpr value.toNat_lt
    have allowed : ¬((leastOctets value.toNat).length = 0 ∨
        8 < (leastOctets value.toNat).length) := by omega
    have read : (leastOctets value.toNat).foldl
        (fun (value : UInt64) byte => value <<< 8 ||| byte.toUInt64) 0 = value := by
      apply UInt64.toNat_inj.mp
      rw [toNat_foldl_octets, UInt64.toNat_zero, Nat.zero_mul, Nat.zero_add, beValue_leastOctets,
        mod_eq_of_lt value.toNat_lt]
    have back : ReadBack (writeBytes (leastOctets value.toNat))
        (fun input => readOffset checks input (leastOctets value.toNat).length 0)
        (pure ((leastOctets value.toNat).foldl
          (fun (value : UInt64) byte => value <<< 8 ||| byte.toUInt64) 0)) :=
      readBack_octets_as_offset _ 0
    rw [read] at back
    rw [if_neg small]
    refine seq Recovers.one (seq (readBack_lengthDeterminant _) ?_)
    simp only [if_neg allowed]
    exact seq readBack_align back

end NextGCore.Asn1c
