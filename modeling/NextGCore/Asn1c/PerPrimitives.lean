import NextGCore.Asn1c.Per

/-!
# What the primitives write is read back

Bits, octets, octet boundaries and lengths, at any place in the buffer.
-/

namespace NextGCore.Asn1c

open NextGCore.Library List Nat Recovers Encoder Decoder UInt64

variable {checks : Bool} {variant : Variant} (input : Input) (value : ℕ) (bits : List Bool)

/-- The decoder that starts at the encoder's place is left where the encoder ended. -/
abbrev ReadBack {Value : Type} (write : Encoder) (read : Input → Decoder Value)
  (next : Decoder Value) : Prop := Recovers Input.bits write read next

lemma Input.length_bits : input.bits.length = 8 * input.octets.length := by
  rw [Input.bits, length_flatMap]
  simp [Nat.mul_comm]

lemma Input.length_bits_le : input.bits.length ≤ 2 ^ 61 := by
  have := input.held
  rw [input.length_bits]
  omega

@[simp]
lemma liftM_ok {State Value : Type} (value : Value) :
  (liftM (Except.ok value : Except Stop Value) : EStateM Stop State Value) = pure value := rfl

lemma addCursor_of_lt {position count : ℕ} (inside : position + count < 2 ^ 64) :
  addCursor checks position count = .ok (position + count) := if_pos inside

lemma appends_writeBits (count : ℕ) : Appends (writeBits value count) count := by
  induction count with
  | zero => exact Appends.idle
  | succ place ih =>
    have both := (Appends.one (value.testBit place)).seq ih
    rwa [Nat.add_comm] at both

lemma appends_writeBitSlice : Appends (writeBitSlice bits) bits.length := by
  induction bits with
  | nil => exact Appends.idle
  | cons bit bits ih =>
    rw [length_cons, Nat.add_comm]
    exact (Appends.one _).seq ih

lemma appends_writeBytes (bytes : List UInt8) :
  Appends (writeBytes bytes) (bytes.length * 8) := by
  induction bytes with
  | nil => exact Appends.idle
  | cons byte bytes ih =>
    rw [length_cons, Nat.add_mul, Nat.add_comm]
    exact (appends_writeBits _ 8).seq ih

lemma readBack_readBitsLoop (count : ℕ) (start : UInt64) :
  ReadBack (writeBits value count) (fun input => readBitsLoop input count start)
    (pure (ofNat (start.toNat * 2 ^ count + value % 2 ^ count))) := by
  induction count generalizing start with
  | zero =>
    have same : ofNat (start.toNat * 2 ^ 0 + value % 2 ^ 0) = start := by
      simp [mod_one]
    rw [same]
    exact idle
  | succ place ih =>
    let bit := value.testBit place
    have shifted : ofNat ((start <<< 1 ||| bit.toUInt64).toNat * 2 ^ place + value % 2 ^ place) =
        ofNat (start.toNat * 2 ^ (place + 1) + value % 2 ^ (place + 1)) := by
      apply UInt64.toNat_inj.mp
      rw [UInt64.toNat_ofNat', UInt64.toNat_ofNat', toNat_shiftIn_bit,
        mod_two_pow_succ value place, add_mod, mod_mul_mod, ← add_mod]
      congr 1
      ring
    rw [← shifted]
    exact seq one (ih _)

lemma readBack_readBits (count : ℕ) :
  ReadBack (writeBits value count) (fun input => readBits checks input count)
    (pure (ofNat (value % 2 ^ count))) := by
  have loop := readBack_readBitsLoop value count 0
  rw [UInt64.toNat_zero, Nat.zero_mul, Nat.zero_add] at loop
  refine loop.guarded (appends_writeBits value count) fun input position room => ?_
  have held := input.length_bits_le
  have inside : position + count < 2 ^ 64 := by omega
  have enough : ¬input.bits.length < position + count := by omega
  rw [readBits, run_bind_of_ok (EStateM.run_get position), addCursor_of_lt inside,
    liftM_ok, pure_bind, if_neg enough]

lemma readBack_readBits_of_lt {value count : ℕ} (small : value < 2 ^ count) :
  ReadBack (writeBits value count) (fun input => readBits checks input count)
    (pure (ofNat value)) := by
  have back : ReadBack (writeBits value count) (fun input => readBits checks input count)
      (pure (ofNat (value % 2 ^ count))) := readBack_readBits value count
  rwa [mod_eq_of_lt small] at back

lemma run_remainingBits (position : ℕ) :
  (remainingBits input).run position = .ok (input.bits.length - position) position :=
  rfl

lemma readBack_readBitSlice :
  ReadBack (writeBitSlice bits) (fun input => readBitSlice input bits.length)
    (pure bits) := by
  have loop : ReadBack (writeBitSlice bits)
      (fun input => readBitSliceLoop input bits.length) (pure bits) := by
    induction bits with
    | nil => exact idle
    | cons bit bits ih =>
      exact seq one ih.onto
  refine loop.guarded (appends_writeBitSlice bits) fun input position room => ?_
  have enough : ¬input.bits.length - position < bits.length := by omega
  rw [readBitSlice, run_bind_of_ok (run_remainingBits input position), if_neg enough]

lemma readBack_readBytes (bytes : List UInt8) :
  ReadBack (writeBytes bytes) (fun input => readBytes checks input bytes.length)
    (pure bytes) := by
  have loop : ReadBack (writeBytes bytes)
      (fun input => readBytesLoop checks input bytes.length) (pure bytes) := by
    induction bytes with
    | nil => exact idle
    | cons byte bytes ih =>
      have small : byte.toNat < 2 ^ 8 := byte.toNat_lt
      have same : (ofNat byte.toNat).toUInt8 = byte := by simp
      refine seq (readBack_readBits_of_lt small) ?_
      rw [same]
      exact ih.onto
  refine loop.guarded (appends_writeBytes bytes) fun input position room => ?_
  have held := input.length_bits_le
  have counted : ¬2 ^ 64 ≤ bytes.length * 8 := by omega
  have enough : ¬input.bits.length - position < bytes.length * 8 := by omega
  rw [readBytes, if_neg counted, run_bind_of_ok (run_remainingBits input position), if_neg enough]

lemma run_writeBitSlice (buffer : List Bool) :
  (writeBitSlice bits).run buffer = .ok () (buffer ++ bits) := by
  induction bits generalizing buffer with
  | nil => rw [append_nil]; rfl
  | cons bit bits ih =>
    have first : (writeBit bit).run buffer = .ok () (buffer ++ [bit]) := rfl
    rw [writeBitSlice, run_bind_of_ok first, ih, append_assoc, singleton_append]

lemma readBack_align :
  ReadBack (Encoder.align variant) (fun _ => Decoder.align variant) (pure ()) := by
  cases variant with
  | unaligned => exact idle
  | aligned =>
    intro before after done
    rw [Encoder.align, run_bind_of_ok (EStateM.run_get before), run_writeBitSlice] at done
    obtain ⟨⟩ := done
    refine ⟨prefix_append _ _, fun input within => ?_⟩
    rw [length_append, length_replicate]
    rfl

lemma readBack_alignAbove (most size : UInt64) : ReadBack (Encoder.alignAbove variant most size)
    (fun _ => Decoder.alignAbove variant most size) (pure ()) := by
  unfold Encoder.alignAbove Decoder.alignAbove
  split
  · exact readBack_align
  · exact idle

lemma readBack_readOffset (offset count : ℕ) (start : UInt64) :
  ReadBack (writeOffset offset count) (fun input => readOffset checks input count start)
    (pure (ofNat (start.toNat * 256 ^ count + offset % 256 ^ count))) := by
  induction count generalizing start with
  | zero =>
    have same : ofNat (start.toNat * 256 ^ 0 + offset % 256 ^ 0) = start := by
      simp [mod_one]
    rw [same]
    exact idle
  | succ place ih =>
    have power : 2 ^ (place * 8) = 256 ^ place := by rw [Nat.mul_comm, pow_mul]; rfl
    let octet := offset >>> (place * 8) % 256
    have small : octet < 2 ^ 8 := mod_lt _ (by decide)
    have word : (ofNat octet).toNat = octet := by
      rw [UInt64.toNat_ofNat', mod_eq_of_lt (by omega)]
    have shifted : ofNat ((start <<< 8 ||| ofNat octet).toNat * 256 ^ place +
        offset % 256 ^ place) =
        ofNat (start.toNat * 256 ^ (place + 1) + offset % 256 ^ (place + 1)) := by
      have next : offset % 256 ^ (place + 1) = octet * 256 ^ place + offset % 256 ^ place := by
        rw [mod_pow_succ, ← power, ← shiftRight_eq_div_pow, Nat.add_comm, Nat.mul_comm]
      apply UInt64.toNat_inj.mp
      rw [UInt64.toNat_ofNat', UInt64.toNat_ofNat', toNat_shiftIn_octet (by omega), word, next,
        add_mod, mod_mul_mod, ← add_mod]
      congr 1
      ring
    rw [← shifted]
    exact seq (readBack_readBits_of_lt small) (ih _)

lemma writeBits_add (high low : ℕ) :
  writeBits value (high + low) = (do writeBits (value >>> low) high; writeBits value low) := by
  induction high with
  | zero => rw [Nat.zero_add]; rfl
  | succ high ih =>
    rw [succ_add_eq_add_succ, add_succ, writeBits, writeBits, ih,
      bind_assoc, testBit_shiftRight, Nat.add_comm low high]

lemma readBack_lengthFragment (length : ℕ) :
  ReadBack (encodeLengthDeterminant variant length)
    (fun input => decodeLengthFragment checks input variant) (pure (length, false)) := by
  refine seq readBack_align ?_
  by_cases short : length ≤ 127
  · have byte : (ofNat length).toNat % 256 = length := by
      rw [UInt64.toNat_ofNat']
      omega
    have plain : length < 128 := by omega
    rw [if_pos short]
    refine settled (readBack_readBits_of_lt (by omega)) fun input => ?_
    simp only [byte, if_pos plain]
  · rw [if_neg short]
    by_cases long : length ≤ 16383
    · have header : 0x8000 ||| length = 0x8000 + length :=
        (two_pow_add_eq_or_of_lt (i := 15) (by omega) 1).symm
      have high : (0x8000 ||| length) >>> 8 = 128 + length / 256 := by
        rw [header, shiftRight_eq_div_pow]
        omega
      have first : (ofNat (128 + length / 256)).toNat % 256 = 128 + length / 256 := by
        rw [UInt64.toNat_ofNat']
        omega
      have second : (ofNat ((0x8000 ||| length) % 2 ^ 8)).toNat % 256 = length % 256 := by
        rw [header, UInt64.toNat_ofNat']
        omega
      have above : ¬128 + length / 256 < 128 := by omega
      have unfragmented : 128 + length / 256 < 192 := by omega
      have together : (128 + length / 256) % 64 * 256 + length % 256 = length := by omega
      rw [if_pos long, writeBits_add _ 8 8, high]
      refine seq (readBack_readBits_of_lt (by omega)) ?_
      simp only [first, if_neg above, if_pos unfragmented]
      refine settled (readBack_readBits _ 8) fun input => ?_
      simp only [second, together]
    · rw [if_neg long]
      exact stopped

lemma readBack_lengthDeterminant (length : ℕ) :
  ReadBack (encodeLengthDeterminant variant length)
    (fun input => decodeLengthDeterminant checks input variant) (pure length) :=
  settled (readBack_lengthFragment length) fun _ => rfl

lemma readBack_fragmentHeader {multiplier : ℕ} (least : 1 ≤ multiplier) (most : multiplier ≤ 4) :
  ReadBack (do Encoder.align variant; writeBits (0xC0 ||| multiplier) 8)
    (fun input => decodeLengthFragment checks input variant)
    (pure (multiplier * 16384, true)) := by
  have header : 0xC0 ||| multiplier = 192 + multiplier := by
    interval_cases multiplier <;> rfl
  have byte : (ofNat (192 + multiplier)).toNat % 256 = 192 + multiplier := by
    rw [UInt64.toNat_ofNat']
    omega
  have above : ¬192 + multiplier < 128 := by omega
  have fragmented : ¬192 + multiplier < 192 := by omega
  have counted : (192 + multiplier) % 64 = multiplier := by omega
  have allowed : ¬(multiplier < 1 ∨ 4 < multiplier) := by omega
  rw [header]
  refine seq readBack_align (settled (readBack_readBits_of_lt (by omega)) ?_)
  intro input
  simp only [byte, if_neg above, if_neg fragmented, counted, if_neg allowed]

lemma lt_length_of_fragmentHeader {multiplier : ℕ} {before after : List Bool}
  (done : (do Encoder.align variant; writeBits (0xC0 ||| multiplier) 8 : Encoder).run before =
    .ok () after) : before.length < after.length := by
  obtain ⟨⟨⟩, aligned, padded, wrote⟩ := run_bind_eq_ok done
  have extended := (readBack_align before aligned padded).1.length_le
  have eight := appends_writeBits _ 8 aligned after wrote
  omega

variable {Item : Type} {write : List Item → Encoder} {read : Input → ℕ → Decoder (List Item)}

section

variable
  (each : ∀ chunk, ReadBack (write chunk) (fun input => read input chunk.length) (pure chunk))

include each

lemma fragments_read_back {rest : List Item} {before after : List Bool}
  (done : (encodeFragmented variant write rest).run before = .ok () after) :
  before <+: after ∧ ∀ input : Input, after <+: input.bits → ∀ rounds items,
    input.bits.length < rounds + before.length →
      (decodeFragments checks input variant (read input) rounds items).run before.length =
        .ok (items ++ rest) after.length := by
  induction size : rest.length using Nat.strong_induction_on generalizing rest before with
  | h size ih =>
    subst size
    rw [encodeFragmented] at done
    by_cases large : 16383 < rest.length
    · let multiplier := min (rest.length / 16384) 4
      let chunk := rest.take (multiplier * 16384)
      have least : 1 ≤ multiplier := by omega
      have chunked : chunk.length = multiplier * 16384 := by
        rw [length_take]
        omega
      rw [if_pos large] at done
      obtain ⟨⟨⟩, aligned, padded, done⟩ := run_bind_eq_ok done
      obtain ⟨⟨⟩, headed, wrote, done⟩ := run_bind_eq_ok done
      obtain ⟨⟨⟩, filled, wroteChunk, done⟩ := run_bind_eq_ok done
      have header : (do Encoder.align variant; writeBits (0xC0 ||| multiplier) 8 : Encoder).run
          before = .ok () headed := by rw [run_bind_of_ok padded, wrote]
      have room := lt_length_of_fragmentHeader header
      obtain ⟨extended₁, reads₁⟩ :=
        readBack_fragmentHeader least (by omega) before headed header
      obtain ⟨extended₂, reads₂⟩ := each chunk headed filled wroteChunk
      obtain ⟨extended₃, reads₃⟩ := ih (rest.drop (multiplier * 16384)).length
        (by rw [length_drop]; omega) done rfl
      refine ⟨(extended₁.trans extended₂).trans extended₃, ?_⟩
      intro input within rounds items enough
      have withinFilled := extended₃.trans within
      have growing := extended₂.length_le
      have ends := within.length_le
      have ending := extended₃.length_le
      cases rounds with
      | zero => omega
      | succ rounds =>
        rw [decodeFragments, run_bind_of_ok (reads₁ input (extended₂.trans withinFilled))]
        dsimp only
        rw [← chunked, run_bind_of_ok (reads₂ input withinFilled), if_pos rfl,
          reads₃ input within rounds _ (by omega), append_assoc, take_append_drop]
    · rw [if_neg large] at done
      obtain ⟨⟨⟩, headed, wrote, done⟩ := run_bind_eq_ok done
      obtain ⟨extended₁, reads₁⟩ :=
        readBack_lengthFragment rest.length before headed wrote
      obtain ⟨extended₂, reads₂⟩ := each rest headed after done
      refine ⟨extended₁.trans extended₂, fun input within rounds items enough => ?_⟩
      have ends := (extended₁.trans extended₂ |>.trans within).length_le
      cases rounds with
      | zero => omega
      | succ rounds =>
        rw [decodeFragments, run_bind_of_ok (reads₁ input (extended₂.trans within)),
          run_bind_of_ok (reads₂ input within)]
        rfl

lemma readBack_fragments (rest : List Item) :
  ReadBack (encodeFragmented variant write rest)
    (fun input => decodeFragments checks input variant (read input)
      (input.bits.length + 1) []) (pure rest) := by
  intro before after done
  obtain ⟨extended, reads⟩ := fragments_read_back each done
  exact ⟨extended, fun input within => reads input within _ _ (by omega)⟩

end

end NextGCore.Asn1c
