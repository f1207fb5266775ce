import NextGCore.Asn1c.Uper

/-!
# Decoders on any input

Whatever the octets, wherever the cursor and whatever was read before, a read under a proper
constraint ends, with the cursor inside the data, in a value within the constraint or in an
error.
-/

namespace NextGCore.Asn1c

open NextGCore.Library List UperDecoder AperDecoder Decoder Confined

variable {checks : Bool} {variant : Variant} {input : Input} {count position : ℕ}
  {constraint : Constraint} {numAlternatives : UInt64}

def Stop.Refused : Stop → Prop
  | .error _ => True
  | _ => False

abbrev Careful {Value : Type} (input : Input) (gain : ℕ) (reader : Decoder Value)
  (answers : Value → Prop) : Prop :=
  Confined input.bits.length gain Stop.Refused reader answers

lemma subUsize_of_le {left right : ℕ} (ordered : right ≤ left) :
  subUsize checks left right = .ok (left - right) := if_pos ordered

lemma run_readBitsLoop (room : position + count ≤ input.bits.length) (start : UInt64) : ∃ value,
  (readBitsLoop input count start).run position = .ok value (position + count) := by
  induction count generalizing position start with
  | zero => exact ⟨start, rfl⟩
  | succ count ih =>
    have found : input.bits[position]? = some input.bits[position] :=
      List.getElem?_eq_getElem (by omega)
    have room' : position + 1 + count ≤ input.bits.length := by omega
    obtain ⟨value, read⟩ :=
      ih room' (start <<< 1 ||| input.bits[position].toUInt64)
    refine ⟨value, ?_⟩
    rw [readBitsLoop, run_bind_of_ok (run_pull_of_some found), read]
    congr 1
    omega

lemma run_readBits (inside : position ≤ input.bits.length) (cursor : position + count < 2 ^ 64) :
  (readBits checks input count).run position = if input.bits.length < position + count then
      .error (.error (.bufferUnderflow count (input.bits.length - position))) position
    else (readBitsLoop input count 0).run position := by
  rw [readBits, run_bind_of_ok (EStateM.run_get position), addCursor_of_lt cursor, liftM_ok,
    pure_bind]
  split
  · rw [subUsize_of_le inside, liftM_ok, pure_bind]
    rfl
  · rfl

lemma careful_readBits (word : count ≤ 64) :
  Careful input count (readBits checks input count) fun _ => True := by
  have held := input.length_bits_le
  constructor
  · intro position value after inside done
    rw [run_readBits inside (by omega)] at done
    split at done
    · exact nomatch done
    · have room : position + count ≤ input.bits.length := by omega
      obtain ⟨value, read⟩ := run_readBitsLoop room 0
      rw [read] at done
      obtain ⟨⟩ := done
      exact ⟨Nat.le_refl _, by omega, trivial⟩
  · intro position stop after inside stopped
    rw [run_readBits inside (by omega)] at stopped
    split at stopped
    · obtain ⟨⟩ := stopped
      exact ⟨inside, trivial⟩
    · have room : position + count ≤ input.bits.length := by omega
      obtain ⟨value, read⟩ := run_readBitsLoop room 0
      rw [read] at stopped
      exact nomatch stopped

lemma careful_readBit : Careful input 1 (readBit input) fun _ => True :=
  pull trivial

lemma careful_refusal {Value : Type} {gain : ℕ} {error : PerError} {answers : Value → Prop} :
  Careful input gain (throw (.error error)) answers := throw trivial

lemma careful_remainingBits :
  Careful input 0 (remainingBits input) fun _ => True := by
  constructor
  · rintro position value after inside ⟨⟩
    exact ⟨Nat.le_refl _, inside, trivial⟩
  · intro position stop after inside stopped
    exact nomatch stopped

lemma careful_align : Careful input 0 (Decoder.align variant) fun _ => True := by
  cases variant with
  | unaligned => exact pure trivial
  | aligned =>
    constructor
    · rintro position value after inside ⟨⟩
      have octets := input.length_bits
      have padded := padded_whole position
      have few := paddingBits_lt position
      have ends : position + paddingBits position ≤ input.bits.length := by omega
      exact ⟨Nat.le_add_right _ _, ends, trivial⟩
    · intro position stop after inside stopped
      exact nomatch stopped

lemma careful_alignAbove (most size : UInt64) :
  Careful input 0 (alignAbove variant most size) fun _ => True := by
  unfold alignAbove
  split
  · exact careful_align
  · exact pure trivial

lemma careful_readBytes (count : ℕ) :
  Careful input 0 (readBytes checks input count) fun bytes => bytes.length = count := by
  have loop (count : ℕ) : Careful input 0 (readBytesLoop checks input count)
      fun bytes => bytes.length = count := by
    induction count with
    | zero => exact pure rfl
    | succ count ih =>
      refine (careful_readBits (by decide)).andThen fun byte _ => ?_
      refine ih.andThen fun bytes sized => pure ?_
      rw [length_cons, sized]
  unfold readBytes
  split
  · exact careful_refusal
  · refine careful_remainingBits.andThen fun remaining _ => ?_
    split
    · exact careful_refusal
    · exact loop count

lemma careful_readBitSliceLoop (count : ℕ) :
  Careful input 0 (readBitSliceLoop input count) fun bits => bits.length = count := by
  induction count with
  | zero => exact pure rfl
  | succ count ih =>
    refine careful_readBit.andThen fun bit _ => ?_
    refine ih.andThen fun bits sized => pure ?_
    rw [length_cons, sized]

lemma careful_readBitSlice (count : ℕ) :
  Careful input 0 (readBitSlice input count) fun bits => bits.length = count := by
  refine careful_remainingBits.andThen fun remaining _ => ?_
  split
  · exact careful_refusal
  · exact careful_readBitSliceLoop count

lemma careful_readOffset (count : ℕ) (start : UInt64) :
  Careful input 0 (readOffset checks input count start) fun _ => True := by
  induction count generalizing start with
  | zero => exact pure trivial
  | succ count ih =>
    exact (careful_readBits (by decide)).andThen fun octet _ => ih _

def Constraint.Proper (constraint : Constraint) : Prop :=
  constraint.min ≤ constraint.max ∧ constraint.max.toInt - constraint.min.toInt < 2 ^ 63

lemma Constraint.Proper.ranged (proper : constraint.Proper) (checks : Bool) :
  ∃ range, constraint.range checks = .ok range ∧
    (range.toNat : ℤ) = constraint.max.toInt - constraint.min.toInt + 1 :=
  range_of_near proper.1 proper.2

def Constraint.Contains (constraint : Constraint) (value : Int64) : Prop :=
  constraint.min ≤ value ∧ value ≤ constraint.max

section Constrained

variable {constraint : Constraint} {range : UInt64}

lemma careful_ofExcept {Value : Type} {result : Except Stop Value} {value : Value}
  {answers : Value → Prop} (done : result = .ok value) (answered : answers value) :
  Careful input 0 (liftM result) answers := by
  rw [done]
  exact pure answered

lemma careful_offset (proper : constraint.Proper)
  (counted : (range.toNat : ℤ) = constraint.max.toInt - constraint.min.toInt + 1)
  (offset : UInt64) :
  Careful input 0 (if range ≠ 0 ∧ range ≤ offset then
      throw (.error (outsideRange offset range))
    else liftM (addI64 checks constraint.min offset.toInt64)) constraint.Contains := by
  split
  · exact careful_refusal
  · rename_i inside
    have nonneg := Int64.le_iff_toInt_le.mp proper.1
    have limited : range ≠ 0 := by
      rintro rfl
      have zero : (0 : UInt64).toNat = 0 := rfl
      omega
    have below : offset.toNat < range.toNat := by
      by_contra outside
      exact inside ⟨limited, UInt64.le_iff_toNat_le.mpr (Nat.le_of_not_lt outside)⟩
    have short : (offset.toNat : ℤ) ≤ constraint.max.toInt - constraint.min.toInt := by omega
    obtain ⟨value, added, sum⟩ : ∃ value, addI64 checks constraint.min offset.toInt64 = .ok value ∧
          value.toInt = constraint.min.toInt + offset.toNat := addI64_of_le proper.2 short
    refine careful_ofExcept added ⟨?_, ?_⟩
    · rw [Int64.le_iff_toInt_le]
      omega
    · rw [Int64.le_iff_toInt_le]
      omega

lemma careful_uperConstrained (proper : constraint.Proper) :
  Careful input 0 (UperDecoder.decodeConstrainedWholeNumber checks input constraint)
    constraint.Contains := by
  obtain ⟨range, ranged, counted⟩ := proper.ranged checks
  have word := range.toNat_lt
  have narrow : (if range ≤ 1 then 0 else bitWidth (range.toNat - 1)) ≤ 64 := by
    split
    · exact Nat.zero_le _
    · exact bitWidth_le_iff.mpr (by omega)
  unfold UperDecoder.decodeConstrainedWholeNumber
  simp only [ranged, Constraint.bitsNeeded_of_range ranged, liftM_ok, pure_bind]
  split
  · exact pure ⟨Int64.le_refl _, proper.1⟩
  · exact (careful_readBits narrow).andThen fun offset _ => careful_offset proper counted offset

lemma careful_aperConstrainedWithin {calls : ℕ} (proper : constraint.Proper)
  (inner : constraint.max.toInt - constraint.min.toInt ≥ 65536 → ∀ most : ℕ, 3 ≤ most → most ≤ 8 →
      Careful input 0 (decodeConstrainedWithin checks input calls
        (Constraint.new 1 (asI64 most))) fun _ => True) :
  Careful input 0 (decodeConstrainedWithin checks input (calls + 1) constraint)
    constraint.Contains := by
  obtain ⟨range, ranged, counted⟩ := proper.ranged checks
  have word := range.toNat_lt
  unfold decodeConstrainedWithin
  simp only [ranged, Constraint.bitsNeeded_of_range ranged, liftM_ok, pure_bind]
  by_cases single : range = 1
  · rw [if_pos single]
    exact pure ⟨Int64.le_refl _, proper.1⟩
  · rw [if_neg single]
    have finish (offset : UInt64) : Careful input 0 (if range ≠ 0 ∧ range ≤ offset then
        throw (.error (outsideRange offset range))
      else liftM (addI64 checks constraint.min offset.toInt64)) constraint.Contains :=
      careful_offset proper counted offset
    by_cases few : range ≤ 255
    · have narrow : (if range ≤ 1 then 0 else bitWidth (range.toNat - 1)) ≤ 64 := by
        split
        · exact Nat.zero_le _
        · exact bitWidth_le_iff.mpr (by omega)
      rw [if_pos few]
      exact (careful_readBits narrow).andThen fun offset _ => finish offset
    · rw [if_neg few]
      by_cases octet : range = 256
      · rw [if_pos octet]
        exact careful_align.andThen fun _ _ =>
          (careful_readBits (by decide)).andThen fun offset _ => finish offset
      · rw [if_neg octet]
        by_cases octets : range ≤ 65536
        · rw [if_pos octets]
          exact careful_align.andThen fun _ _ =>
            (careful_readBits (by decide)).andThen fun offset _ => finish offset
        · have many : 65536 < range.toNat := by
            rw [UInt64.le_iff_toNat_le] at octets
            exact Nat.lt_of_not_le octets
          have wide : ¬range ≤ 1 := by
            have one : (1 : UInt64).toNat = 1 := rfl
            rw [UInt64.le_iff_toNat_le]
            omega
          have large : 65536 ≤ range.toNat - 1 := by omega
          obtain ⟨_, _, three, eight⟩ := offsetOctets_bounds large (by omega) (Nat.zero_le _)
          rw [if_neg octets, if_neg wide]
          refine (inner (by omega) _ three eight).andThen fun count _ => ?_
          refine careful_align.andThen fun _ _ => ?_
          exact (careful_readOffset _ _).andThen fun offset _ => finish offset

lemma careful_aperConstrained (proper : constraint.Proper) :
  Careful input 0 (AperDecoder.decodeConstrainedWholeNumber checks input constraint)
    constraint.Contains := by
  refine careful_aperConstrainedWithin proper fun _ most three eight => ?_
  let inner := Constraint.new 1 (asI64 most)
  have top : inner.max.toInt = most := toInt_asI64 (by omega)
  have bottom : inner.min.toInt = 1 := rfl
  have properInner : inner.Proper := ⟨Int64.le_iff_toInt_le.mpr (by omega), by omega⟩
  have recursion : inner.max.toInt - inner.min.toInt ≥ 65536 → ∀ most : ℕ, 3 ≤ most → most ≤ 8 →
      Careful input 0 (decodeConstrainedWithin checks input 0
        (Constraint.new 1 (asI64 most))) fun _ => True := by omega
  exact (careful_aperConstrainedWithin properInner recursion).mono (Nat.le_refl 0)
    fun _ _ => trivial

lemma careful_constrained (proper : constraint.Proper) :
  Careful input 0 (Decoder.decodeConstrainedWholeNumber checks input variant constraint)
    constraint.Contains := by
  cases variant with
  | aligned => exact careful_aperConstrained proper
  | unaligned => exact careful_uperConstrained proper

lemma run_readBits_zero {position : ℕ} (inside : position ≤ input.bits.length) :
  (readBits checks input 0).run position = .ok 0 position := by
  have held := input.length_bits_le
  have cursor : position + 0 < 2 ^ 64 := by omega
  rw [run_readBits inside cursor, Nat.add_zero, if_neg (Nat.not_lt.mpr inside)]
  rfl

lemma careful_emptyConstrained (empty : constraint.max < constraint.min) :
  Careful input 0 (Decoder.decodeConstrainedWholeNumber checks input variant constraint)
    (· = constraint.min) := by
  have ranged : constraint.range checks = .ok 0 := if_neg (Int64.not_le.mpr empty)
  have none : (0 : UInt64).toInt64 = 0 := rfl
  have unwrapped : (constraint.min + (0 : UInt64).toInt64).toInt =
      constraint.min.toInt + (0 : UInt64).toInt64.toInt := by
    rw [none, Int64.add_zero, Int64.toInt_zero, Int.add_zero]
  have added : addI64 checks constraint.min (0 : UInt64).toInt64 = .ok constraint.min := by
    rw [addI64_of_exact unwrapped, none, Int64.add_zero]
  have run (position : ℕ) (inside : position ≤ input.bits.length) :
      (Decoder.decodeConstrainedWholeNumber checks input variant constraint).run position =
        .ok constraint.min position := by
    have few : (0 : UInt64) ≤ 255 := by decide
    have bits : (if (0 : UInt64) ≤ 1 then 0 else bitWidth ((0 : UInt64).toNat - 1)) = 0 := rfl
    have several : (0 : UInt64) ≠ 1 := by decide
    cases variant with
    | aligned =>
      unfold Decoder.decodeConstrainedWholeNumber AperDecoder.decodeConstrainedWholeNumber
        decodeConstrainedWithin
      simp only [ranged, Constraint.bitsNeeded_of_range ranged, liftM_ok, pure_bind, bits,
        if_neg several, if_pos few]
      rw [run_bind_of_ok (run_readBits_zero inside), if_neg fun outside => outside.1 rfl, added]
      rfl
    | unaligned =>
      unfold Decoder.decodeConstrainedWholeNumber UperDecoder.decodeConstrainedWholeNumber
      simp only [ranged, Constraint.bitsNeeded_of_range ranged, liftM_ok, pure_bind, bits,
        if_neg several]
      rw [run_bind_of_ok (run_readBits_zero inside), if_neg fun outside => outside.1 rfl, added]
      rfl
  constructor
  · intro position value after inside done
    rw [run position inside] at done
    cases done
    exact ⟨Nat.le_refl _, inside, rfl⟩
  · intro position stop after inside stopped
    rw [run position inside] at stopped
    cases stopped

end Constrained

lemma careful_lengthFragment :
  Careful input 8 (decodeLengthFragment checks input variant) fun _ => True := by
  refine (careful_align.bind fun _ _ => (careful_readBits (by decide)).bind fun first _ =>
    (?_ : Careful input 0 _ fun _ => True)).mono (Nat.le_refl 8) fun _ => id
  dsimp only
  split
  · exact pure trivial
  · split
    · exact (careful_readBits (by decide)).andThen fun second _ => pure trivial
    · split
      · exact careful_refusal
      · exact pure trivial

lemma careful_lengthDeterminant :
  Careful input 0 (decodeLengthDeterminant checks input variant) fun _ => True := by
  refine careful_lengthFragment.andThen fun block _ => ?_
  split
  · exact careful_refusal
  · exact pure trivial

lemma toInt_of_le_toNat {size : UInt64} (large : 2 ^ 63 ≤ size.toNat) :
  size.toInt64.toInt = size.toNat - 2 ^ 64 := by
  have word := size.toNat_lt
  rw [toInt_toInt64, Int.bmod_def]
  omega

lemma careful_constrainedLength {min max : UInt64} (ordered : min ≤ max) :
  Careful input 0 (decodeConstrainedLength checks input variant min max)
    fun length => min.toNat ≤ length ∧ length ≤ max.toNat := by
  let constraint := Constraint.new min.toInt64 max.toInt64
  have sizes := UInt64.le_iff_toNat_le.mp ordered
  have low : constraint.min.toInt = if min.toNat < 2 ^ 63 then (min.toNat : ℤ)
      else min.toNat - 2 ^ 64 := by
    split
    · exact toInt_toInt64_of_lt (by assumption)
    · exact toInt_of_le_toNat (by omega)
  have high : constraint.max.toInt = if max.toNat < 2 ^ 63 then (max.toNat : ℤ)
      else max.toNat - 2 ^ 64 := by
    split
    · exact toInt_toInt64_of_lt (by assumption)
    · exact toInt_of_le_toNat (by omega)
  have size (value : Int64) : (asUsize value : ℤ) = value.toInt % 2 ^ 64 := toNat_toUInt64 value
  have word := max.toNat_lt
  by_cases straddling : min.toNat < 2 ^ 63 ∧ 2 ^ 63 ≤ max.toNat
  · have empty : constraint.max < constraint.min := by
      rw [Int64.lt_iff_toInt_lt]
      omega
    refine (careful_emptyConstrained empty).andThen fun value only => pure ?_
    subst only
    have counted := size constraint.min
    omega
  · have proper : constraint.Proper := ⟨Int64.le_iff_toInt_le.mpr (by omega), by omega⟩
    refine (careful_constrained proper).andThen fun value contained => pure ?_
    have counted := size value
    have above := Int64.le_iff_toInt_le.mp contained.1
    have below := Int64.le_iff_toInt_le.mp contained.2
    omega

lemma careful_unconstrained :
  Careful input 0 (decodeUnconstrainedWholeNumber checks input variant)
    fun _ => True := by
  refine careful_lengthDeterminant.andThen fun len _ => ?_
  split
  · exact careful_refusal
  · rename_i allowed
    refine careful_align.andThen fun _ _ => (careful_readBytes len).andThen fun bytes sized => ?_
    cases bytes with
    | nil =>
      rw [length_nil] at sized
      exact absurd (.inl sized.symm) allowed
    | cons first others => exact pure trivial

lemma careful_normallySmall :
  Careful input 0 (decodeNormallySmallNonNegative checks input variant)
    fun _ => True := by
  refine careful_readBit.andThen fun large _ => ?_
  split
  · exact (careful_readBits (by decide)).mono (Nat.zero_le _) fun _ => id
  · refine careful_lengthDeterminant.andThen fun len _ => ?_
    split
    · exact careful_refusal
    · exact careful_align.andThen fun _ _ => careful_readOffset _ _

lemma above_of_extensionValue {index : UInt64} {value : Int64}
  (found : extensionValue constraint index = some value) : constraint.max < value := by
  unfold extensionValue at found
  split at found
  · rename_i small
    obtain ⟨first, started, added⟩ := Option.bind_eq_some_iff.mp found
    unfold checkedAddI64 at started added
    split at started
    · rename_i next
      split at added
      · rename_i sum
        obtain ⟨⟩ := started
        obtain ⟨⟩ := added
        have one : (1 : Int64).toInt = 1 := rfl
        have signed := toInt_toInt64_of_lt small
        rw [Int64.lt_iff_toInt_lt]
        omega
      · exact nomatch added
    · exact nomatch started
  · exact nomatch found

lemma careful_enumerated (proper : constraint.Proper) :
  Careful input 0 (decodeEnumerated checks input variant constraint) fun value =>
    constraint.min ≤ value ∧ (value ≤ constraint.max ∨ constraint.extensible) := by
  have root : Careful input 0 (Decoder.decodeConstrainedWholeNumber checks input variant constraint)
      fun value => constraint.min ≤ value ∧ (value ≤ constraint.max ∨ constraint.extensible) :=
    (careful_constrained proper).mono (Nat.le_refl 0) fun _ contained =>
      ⟨contained.1, .inl contained.2⟩
  unfold decodeEnumerated
  split
  · rename_i extensible
    refine careful_readBit.andThen fun extended _ => ?_
    split
    · exact root
    · refine careful_normallySmall.andThen fun index _ => ?_
      cases found : extensionValue constraint index with
      | none => exact careful_refusal
      | some value =>
        have above := Int64.le_of_lt (above_of_extensionValue found)
        exact pure ⟨Int64.le_trans proper.1 above, .inr extensible⟩
  · exact root

lemma careful_rootChoice (least : 1 ≤ numAlternatives.toNat)
  (most : numAlternatives.toNat ≤ 2 ^ 63) :
  Careful input 0 (decodeRootChoice checks input variant numAlternatives)
    fun index => index < numAlternatives := by
  let constraint := Constraint.new 0 (asI64 (numAlternatives.toNat - 1))
  have top : constraint.max.toInt = (numAlternatives.toNat - 1 : ℕ) := toInt_asI64 (by omega)
  have bottom : constraint.min.toInt = 0 := rfl
  have proper : constraint.Proper := ⟨Int64.le_iff_toInt_le.mpr (by omega), by omega⟩
  unfold decodeRootChoice
  rw [subUsize_of_le least, liftM_ok, pure_bind]
  refine (careful_constrained proper).andThen fun value contained => pure ?_
  have size := toNat_toUInt64 value
  have above := Int64.le_iff_toInt_le.mp contained.1
  have below := Int64.le_iff_toInt_le.mp contained.2
  rw [UInt64.lt_iff_toNat_lt]
  omega

lemma careful_choiceIndex (extensible : Bool) (least : 1 ≤ numAlternatives.toNat)
  (most : numAlternatives.toNat ≤ 2 ^ 63) :
  Careful input 0 (decodeChoiceIndex checks input variant numAlternatives extensible)
    fun index => index < numAlternatives ∨ extensible := by
  have root : Careful input 0 (decodeRootChoice checks input variant numAlternatives)
      fun index => index < numAlternatives ∨ extensible :=
    (careful_rootChoice least most).mono (Nat.le_refl 0) fun _ => .inl
  unfold decodeChoiceIndex
  split
  · rename_i extended
    refine careful_readBit.andThen fun large _ => ?_
    split
    · exact root
    · refine careful_normallySmall.andThen fun index _ => ?_
      split
      · exact pure (.inr extended)
      · exact careful_refusal
  · exact root

section Strings

variable {Item : Type} {read : ℕ → Decoder (List Item)}

lemma fragments_end
  (each : ∀ count, Careful input 0 (read count) fun items => items.length = count)
  {rounds position : ℕ} (items : List Item) (inside : position ≤ input.bits.length)
  (enough : input.bits.length < rounds + position) :
  (∀ value after, (decodeFragments checks input variant read rounds items).run position =
      .ok value after → position ≤ after ∧ after ≤ input.bits.length) ∧
    ∀ stop after, (decodeFragments checks input variant read rounds items).run position =
      .error stop after → after ≤ input.bits.length ∧ stop.Refused := by
  induction rounds generalizing position items with
  | zero => omega
  | succ rounds ih =>
    have header : Careful input 8 (decodeLengthFragment checks input variant)
        fun _ => True := careful_lengthFragment
    constructor
    · intro value after done
      obtain ⟨block, headed, first, done⟩ := run_bind_eq_ok done
      obtain ⟨gained, within, _⟩ := header.ok position block headed inside first
      obtain ⟨more, filled, second, done⟩ := run_bind_eq_ok done
      obtain ⟨moved, within, _⟩ := (each block.1).ok headed more filled within second
      by_cases fragmented : block.2 = true
      · rw [if_pos fragmented] at done
        have last := (ih _ within (by omega)).1 value after done
        exact ⟨by omega, last.2⟩
      · rw [if_neg fragmented] at done
        obtain ⟨⟩ := done
        exact ⟨by omega, within⟩
    · intro stop after stopped
      rcases run_bind_eq_error stopped with first | ⟨block, headed, first, stopped⟩
      · exact header.error position stop after inside first
      · obtain ⟨gained, within, _⟩ := header.ok position block headed inside first
        rcases run_bind_eq_error stopped with second | ⟨more, filled, second, stopped⟩
        · exact (each block.1).error headed stop after within second
        · obtain ⟨moved, within, _⟩ := (each block.1).ok headed more filled within second
          by_cases fragmented : block.2 = true
          · rw [if_pos fragmented] at stopped
            exact (ih _ within (by omega)).2 stop after stopped
          · rw [if_neg fragmented] at stopped
            exact nomatch stopped

def SizeWithin (minLen maxLen : Option UInt64) (size : ℕ) : Prop :=
  ∀ min max, minLen = some min → maxLen = some max → min.toNat ≤ size ∧ size ≤ max.toNat

lemma careful_string
  (each : ∀ count, Careful input 0 (read count) fun items => items.length = count)
  (most : UInt64) {minLen maxLen : Option UInt64}
  (ordered : ∀ min max, minLen = some min → maxLen = some max → min ≤ max) :
  Careful input 0 (decodeString checks input variant read most minLen maxLen)
    fun items => SizeWithin minLen maxLen items.length := by
  have free (unbounded : minLen = none ∨ maxLen = none) :
      Careful input 0 (decodeFragments checks input variant read
        (input.bits.length + 1) []) fun items => SizeWithin minLen maxLen items.length := by
    have anySize (size : ℕ) : SizeWithin minLen maxLen size := by
      rintro min max rfl rfl
      rcases unbounded with none | none
      · exact nomatch none
      · exact nomatch none
    constructor
    · intro position items after inside done
      have last := (fragments_end each [] inside (by omega)).1 items after done
      exact ⟨last.1, last.2, anySize _⟩
    · intro position stop after inside stopped
      exact (fragments_end each [] inside (by omega)).2 stop after stopped
  cases minLen with
  | none => exact free (.inl rfl)
  | some min =>
    cases maxLen with
    | none => exact free (.inr rfl)
    | some max =>
      unfold decodeString
      dsimp only
      split
      · rename_i fixed
        subst fixed
        refine (careful_alignAbove most min).andThen fun _ _ => ?_
        refine (each min.toNat).mono (Nat.le_refl 0) fun items sized => ?_
        rintro _ _ ⟨⟩ ⟨⟩
        exact ⟨sized.ge, sized.le⟩
      · refine (careful_constrainedLength (ordered min max rfl rfl)).andThen fun len bounds => ?_
        refine (careful_alignAbove most max).andThen fun _ _ => ?_
        refine (each len).mono (Nat.le_refl 0) fun items sized => ?_
        rintro _ _ ⟨⟩ ⟨⟩
        rwa [sized]

end Strings

/-- What a decoder may be asked for.  The unaligned decoder has no `align`; the aligned one has
only the plain fields. -/
inductive Read where
  | align
  | bit
  | bits (numBits : UInt64)
  | bytes (numBytes : UInt64)
  | lengthDeterminant
  | lengthFragment
  | constrainedLength (min max : UInt64)
  | field (type : UperType)

namespace Read

abbrev Answer : Read → Type
  | .align => Unit
  | .bit => Bool
  | .bits _ => UInt64
  | .bytes _ => List UInt8
  | .lengthDeterminant => ℕ
  | .lengthFragment => ℕ × Bool
  | .constrainedLength _ _ => ℕ
  | .field type => type.Content

def perform (checks : Bool) (variant : Variant) (input : Input) :
    (read : Read) → Decoder read.Answer
  | .align => Decoder.align variant
  | .bit => readBit input
  | .bits numBits => readBits checks input numBits.toNat
  | .bytes numBytes => readBytes checks input numBytes.toNat
  | .lengthDeterminant => decodeLengthDeterminant checks input variant
  | .lengthFragment => decodeLengthFragment checks input variant
  | .constrainedLength min max => decodeConstrainedLength checks input variant min max
  | .field (.plain type) => decodeField checks variant input type
  | .field .normallySmallLength => UperDecoder.decodeField checks input .normallySmallLength
  | .field (.sequencePreamble extensible numOptionals) =>
    UperDecoder.decodeField checks input (.sequencePreamble extensible numOptionals)
  | .field .extensionAdditions => UperDecoder.decodeField checks input .extensionAdditions

/-- The constraint of the read has its bounds in order, less than 2^63 apart. -/
def Proper : Read → Prop
  | .constrainedLength min max => min ≤ max
  | .field (.plain (.constrained constraint)) | .field (.plain (.enumerated constraint)) =>
    constraint.Proper
  | .field (.plain (.choiceIndex numAlternatives _)) =>
    1 ≤ numAlternatives.toNat ∧ numAlternatives.toNat ≤ 2 ^ 63
  | .field (.plain (.octetString minLen maxLen)) | .field (.plain (.bitString minLen maxLen)) =>
    ∀ min max, minLen = some min → maxLen = some max → min ≤ max
  | _ => True

def Within : (read : Read) → read.Answer → Prop
  | .bytes numBytes, data => data.length = numBytes.toNat
  | .constrainedLength min max, length => min.toNat ≤ length ∧ length ≤ max.toNat
  | .field (.plain (.constrained constraint)), value => constraint.Contains value
  | .field (.plain (.enumerated constraint)), value =>
    constraint.min ≤ value ∧ (value ≤ constraint.max ∨ constraint.extensible)
  | .field (.plain (.choiceIndex numAlternatives extensible)), index =>
    index < numAlternatives ∨ extensible
  | .field (.plain (.octetString minLen maxLen)), data
  | .field (.plain (.bitString minLen maxLen)), data => SizeWithin minLen maxLen data.length
  | .field (.sequencePreamble _ numOptionals), preamble =>
    preamble.2.length = numOptionals.toNat
  | _, _ => True

end Read

variable {read : Read}

lemma careful_normallySmallLength :
  Careful input 0 (decodeNormallySmallLength checks input) fun _ => True := by
  refine careful_readBit.andThen fun large _ => ?_
  split
  · exact (careful_readBits (by decide)).andThen fun less _ => pure trivial
  · exact careful_lengthDeterminant

lemma careful_sequencePreamble (extensible : Bool) (numOptionals : ℕ) :
  Careful input 0 (decodeSequencePreamble input extensible numOptionals)
    fun preamble => preamble.2.length = numOptionals := by
  have optionals (ext : Bool) : Careful input 0 (do
      let optionals ← readBitSliceLoop input numOptionals
      pure (ext, optionals)) fun preamble => preamble.2.length = numOptionals :=
    (careful_readBitSliceLoop numOptionals).andThen fun bits sized => pure sized
  unfold decodeSequencePreamble
  cases extensible with
  | true => exact careful_readBit.andThen fun ext _ => optionals ext
  | false => exact optionals false

lemma careful_octetString {minLen maxLen : Option UInt64}
  (ordered : ∀ min max, minLen = some min → maxLen = some max → min ≤ max) :
  Careful input 0 (decodeOctetString checks input variant minLen maxLen)
    fun data => SizeWithin minLen maxLen data.length :=
  careful_string careful_readBytes 2 ordered

lemma careful_extensionAdditions :
  Careful input 0 (decodeExtensionAdditions checks input) fun _ => True := by
  have openTypes (present : List Bool) :
      Careful input 0 (decodeOpenTypes checks input present) fun _ => True := by
    induction present with
    | nil => exact pure trivial
    | cons present others ih =>
      have rest (member : Option (List UInt8)) : Careful input 0 (do
          let members ← decodeOpenTypes checks input others
          pure (member :: members)) fun _ => True :=
        ih.andThen fun members _ => pure trivial
      have unbounded (min max : UInt64) (bound : (none : Option UInt64) = some min)
          (_ : (none : Option UInt64) = some max) : min ≤ max := nomatch bound
      unfold decodeOpenTypes
      cases present with
      | true =>
        simp only [if_true, map_eq_pure_bind, bind_assoc, pure_bind]
        exact (careful_octetString unbounded).andThen fun data _ => rest (some data)
      | false => exact rest none
  refine careful_normallySmallLength.andThen fun n _ => ?_
  exact (careful_readBitSliceLoop n).andThen fun present _ => openTypes present

lemma careful_perform (proper : read.Proper) (counted : ∀ numBits, read ≠ .bits numBits) :
  Careful input 0 (read.perform checks variant input) read.Within := by
  cases read with
  | align => exact careful_align
  | bit => exact careful_readBit.mono (Nat.zero_le 1) fun _ => id
  | bits numBits => exact absurd rfl (counted numBits)
  | bytes numBytes => exact careful_readBytes numBytes.toNat
  | lengthDeterminant => exact careful_lengthDeterminant
  | lengthFragment => exact careful_lengthFragment.mono (Nat.zero_le 8) fun _ => id
  | constrainedLength min max => exact careful_constrainedLength proper
  | field type =>
    cases type with
    | plain type =>
      cases type with
      | constrained constraint => exact careful_constrained proper
      | unconstrained => exact careful_unconstrained
      | enumerated constraint => exact careful_enumerated proper
      | choiceIndex numAlternatives extensible =>
        exact careful_choiceIndex extensible proper.1 proper.2
      | normallySmall => exact careful_normallySmall
      | octetString minLen maxLen => exact careful_octetString proper
      | bitString minLen maxLen => exact careful_string careful_readBitSlice 16 proper
    | normallySmallLength =>
      unfold Read.perform UperDecoder.decodeField
      simp only [map_eq_pure_bind]
      exact careful_normallySmallLength.andThen fun n _ => pure trivial
    | sequencePreamble extensible numOptionals => exact careful_sequencePreamble _ _
    | extensionAdditions => exact careful_extensionAdditions

lemma confined_readBitsLoop (count : ℕ) (start : UInt64) :
  Confined input.bits.length 0 (· = .panic .index) (readBitsLoop input count start)
    fun _ => True := by
  induction count generalizing start with
  | zero => exact pure trivial
  | succ count ih =>
    have front : Confined input.bits.length 1 (· = Stop.panic .index)
        (pull input.bits (Stop.panic .index)) fun _ => True := pull rfl
    exact front.andThen fun bit _ => ih _

lemma readBits_past_usize (inside : position ≤ input.bits.length)
  (past : 2 ^ 64 ≤ position + count) :
  stateAfter ((readBits checks input count).run position) ≤ input.bits.length ∧
    ∀ stop after, (readBits checks input count).run position = .error stop after →
      stop.Refused ∨ stop = .panic .cursor ∨ stop = .panic .index := by
  have wraps : addCursor checks position count =
      if checks then .error (.panic .cursor) else .ok ((position + count) % 2 ^ 64) :=
    if_neg (Nat.not_lt.mpr past)
  rw [readBits, run_bind_of_ok (EStateM.run_get position), wraps]
  cases checks with
  | true =>
    refine ⟨inside, ?_⟩
    rintro stop after ⟨⟩
    exact .inr (.inl rfl)
  | false =>
    simp only [Bool.false_eq_true, if_false, liftM_ok, pure_bind]
    split
    · rw [subUsize_of_le inside, liftM_ok, pure_bind]
      refine ⟨inside, ?_⟩
      rintro stop after ⟨⟩
      exact .inl trivial
    · have loop : Confined input.bits.length 0 (· = Stop.panic .index)
          (readBitsLoop input count 0) fun _ => True := confined_readBitsLoop count 0
      cases outcome : (readBitsLoop input count 0).run position with
      | ok value after =>
        refine ⟨(loop.ok position value after inside outcome).2.1, ?_⟩
        intro _ _ stopped
        cases stopped
      | error stop after =>
        obtain ⟨within, index⟩ := loop.error position stop after inside outcome
        refine ⟨within, ?_⟩
        rintro _ _ ⟨⟩
        exact .inr (.inr index)

structure Report where
  read : Read
  position : ℕ
  result : EStateM.Result Stop ℕ read.Answer

/-- The reads one after the other, each from where the one before has left the cursor, be it in
an error or in a panic that was caught. -/
def performEach (checks : Bool) (variant : Variant) (input : Input) : List Read → ℕ → List Report
  | [], _ => []
  | read :: reads, position =>
    let result := (read.perform checks variant input).run position
    ⟨read, position, result⟩ :: performEach checks variant input reads (stateAfter result)

/-- The cursor was and is inside the data; an answer is within the constraint; there is no panic
and no loop without an end, but for a number of bits that takes the cursor out of `usize`. -/
structure Report.Safe (input : Input) (report : Report) : Prop where
  inside : report.position ≤ input.bits.length
  stays : stateAfter report.result ≤ input.bits.length
  within : ∀ value after, report.result = .ok value after → report.read.Within value
  ends : ∀ stop after, report.result = .error stop after → stop.Refused ∨
    ∃ numBits, report.read = .bits numBits ∧ 2 ^ 64 ≤ report.position + numBits.toNat ∧
      (stop = .panic .cursor ∨ stop = .panic .index)

lemma Careful.safe (inside : position ≤ input.bits.length)
  (careful : Careful input 0 (read.perform checks variant input) read.Within) :
  (⟨read, position, (read.perform checks variant input).run position⟩ : Report).Safe input := by
  constructor
  · exact inside
  · cases outcome : (read.perform checks variant input).run position with
    | ok value after => exact (careful.ok position value after inside outcome).2.1
    | error stop after => exact (careful.error position stop after inside outcome).1
  · exact fun value after done => (careful.ok position value after inside done).2.2
  · exact fun stop after stopped => .inl (careful.error position stop after inside stopped).2

lemma bits_safe {numBits : UInt64} (inside : position ≤ input.bits.length) :
  (⟨.bits numBits, position,
    (readBits checks input numBits.toNat).run position⟩ : Report).Safe input := by
  by_cases cursor : position + numBits.toNat < 2 ^ 64
  · have run : (readBits checks input numBits.toNat).run position = _ :=
      run_readBits inside cursor
    split at run
    · refine ⟨inside, ?_, fun _ _ _ => trivial, fun stop after stopped => ?_⟩
      · dsimp only
        rw [run]
        exact inside
      · obtain ⟨⟩ := run.symm.trans stopped
        exact .inl trivial
    · have room : position + numBits.toNat ≤ input.bits.length := by omega
      obtain ⟨value, read⟩ := run_readBitsLoop room 0
      refine ⟨inside, ?_, fun _ _ _ => trivial, fun stop after stopped => ?_⟩
      · dsimp only
        rw [run, read]
        exact room
      · exact nomatch (run.trans read).symm.trans stopped
  · have past := Nat.le_of_not_lt cursor
    obtain ⟨stays, ends⟩ : stateAfter ((readBits checks input numBits.toNat).run position) ≤
          input.bits.length ∧ _ := readBits_past_usize inside past
    refine ⟨inside, stays, fun _ _ _ => trivial, fun stop after stopped => ?_⟩
    rcases ends stop after stopped with refused | panicked
    · exact .inl refused
    · exact .inr ⟨numBits, rfl, past, panicked⟩

lemma perform_safe (inside : position ≤ input.bits.length) (proper : read.Proper) :
  (⟨read, position, (read.perform checks variant input).run position⟩ : Report).Safe input := by
  by_cases counted : ∀ numBits, read ≠ .bits numBits
  · exact Careful.safe inside (careful_perform proper counted)
  · obtain ⟨numBits, counted⟩ := not_forall.mp counted
    obtain rfl := not_not.mp counted
    exact bits_safe inside

/-- Any reads of either decoder, from any place in any octets. -/
theorem reads_safe {reads : List Read} {position : ℕ} (inside : position ≤ input.bits.length)
  (proper : ∀ read ∈ reads, read.Proper) :
  ∀ report ∈ performEach checks variant input reads position, report.Safe input := by
  induction reads generalizing position with
  | nil => exact fun report member => nomatch member
  | cons read reads ih =>
    have first : (⟨read, position, (read.perform checks variant input).run position⟩ :
        Report).Safe input := perform_safe inside (proper read (.head _))
    intro report member
    rcases mem_cons.mp member with rfl | later
    · exact first
    · exact ih first.stays (fun other present => proper other (.tail _ present))
        report later

lemma threeHeld : [0x80, 0xC1, (7 : UInt8)].length ≤ 2 ^ 58 := by decide

def threeOctets : Input := ⟨[0x80, 0xC1, 7], threeHeld⟩

theorem three_reads_safe :
  Forall (Report.Safe threeOctets) (performEach true .aligned threeOctets
    [.field (.plain (.constrained ⟨0, 100000, false⟩)), .bits 2,
      .field (.plain (.octetString none none))] 3) := by
  refine forall_iff_forall_mem.mpr (reads_safe (by decide) fun read member => ?_)
  rcases mem_cons.mp member with rfl | member
  · exact ⟨by decide, by decide⟩
  · rcases mem_cons.mp member with rfl | member
    · trivial
    · obtain rfl := mem_singleton.mp member
      exact fun _ _ bound => nomatch bound

end NextGCore.Asn1c
