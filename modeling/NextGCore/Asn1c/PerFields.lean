import NextGCore.Asn1c.PerNumbers

/-!
# Typed fields

The type of a field is what the encoder and the decoder are both called with; its content is
what one is given and the other returns.
-/

namespace NextGCore.Asn1c

open NextGCore.Library List Recovers Encoder Decoder

variable {value : Int64} {beyond index : Int64} {constraint : Constraint} {input : Input}
  {count position last : ℕ}

inductive FieldType where
  | constrained (constraint : Constraint)
  | unconstrained
  | enumerated (constraint : Constraint)
  | choiceIndex (numAlternatives : UInt64) (extensible : Bool)
  | normallySmall
  | octetString (minLen maxLen : Option UInt64)
  | bitString (minLen maxLen : Option UInt64)
  deriving DecidableEq

abbrev FieldType.Content : FieldType → Type
  | .constrained _ => Int64
  | .unconstrained => Int64
  | .enumerated _ => Int64
  | .choiceIndex _ _ => UInt64
  | .normallySmall => UInt64
  | .octetString _ _ => List UInt8
  | .bitString _ _ => List Bool

instance (type : FieldType) : DecidableEq type.Content :=
  match type with
  | .constrained _ | .unconstrained | .enumerated _ => inferInstanceAs (DecidableEq Int64)
  | .choiceIndex _ _ | .normallySmall => inferInstanceAs (DecidableEq UInt64)
  | .octetString _ _ => inferInstanceAs (DecidableEq (List UInt8))
  | .bitString _ _ => inferInstanceAs (DecidableEq (List Bool))

def encodeField (checks : Bool) (variant : Variant) : (type : FieldType) → type.Content → Encoder
  | .constrained constraint, value =>
    encodeConstrainedWholeNumber checks variant value constraint
  | .unconstrained, value => encodeUnconstrainedWholeNumber variant value
  | .enumerated constraint, value => encodeEnumerated checks variant value constraint
  | .choiceIndex numAlternatives extensible, index =>
    encodeChoiceIndex checks variant index numAlternatives extensible
  | .normallySmall, value => encodeNormallySmallNonNegative variant value
  | .octetString minLen maxLen, data =>
    encodeOctetString checks variant data minLen maxLen
  | .bitString minLen maxLen, bits => encodeBitString checks variant bits minLen maxLen

def decodeField (checks : Bool) (variant : Variant) (input : Input) :
    (type : FieldType) → Decoder type.Content
  | .constrained constraint =>
    Decoder.decodeConstrainedWholeNumber checks input variant constraint
  | .unconstrained => decodeUnconstrainedWholeNumber checks input variant
  | .enumerated constraint => decodeEnumerated checks input variant constraint
  | .choiceIndex numAlternatives extensible =>
    decodeChoiceIndex checks input variant numAlternatives extensible
  | .normallySmall => decodeNormallySmallNonNegative checks input variant
  | .octetString minLen maxLen => decodeOctetString checks input variant minLen maxLen
  | .bitString minLen maxLen => decodeBitString checks input variant minLen maxLen

def FieldType.Storable : (type : FieldType) → type.Content → Prop
  | .octetString _ _, data => data.length < 2 ^ 63
  | .bitString _ _, bits => bits.length < 2 ^ 63
  | _, _ => True

namespace Constraint

def Carries (constraint : Constraint) (value : Int64) : Prop :=
  constraint.Unlimited → value = constraint.min

lemma carries_iff {constraint : Constraint} {value : Int64} :
  constraint.Carries value ↔ constraint.recovered value = value := by
  unfold Carries recovered
  split
  · rename_i unlimited
    exact ⟨fun carried => (carried unlimited).symm, fun equal _ => equal.symm⟩
  · rename_i limited
    exact ⟨fun _ => rfl, fun _ unlimited => absurd unlimited limited⟩

end Constraint

/-- The size is not lost to a range that has wrapped, as it is under the bounds 2^63 and
2^63 - 1, which are all of `i64`. -/
def SizeCarried : Option UInt64 → Option UInt64 → Prop
  | some min, some max => min = max ∨ ¬(Constraint.new min.toInt64 max.toInt64).Unlimited
  | _, _ => True

def FieldType.Recoverable : (type : FieldType) → type.Content → Prop
  | .constrained constraint, value => constraint.Carries value
  | .enumerated constraint, value =>
    if constraint.extensible ∧ constraint.max < value then
      value.toInt - constraint.max.toInt - 1 < 2 ^ 63
    else constraint.Carries value
  | .octetString minLen maxLen, _ => SizeCarried minLen maxLen
  | .bitString minLen maxLen, _ => SizeCarried minLen maxLen
  | _, _ => True

variable {checks : Bool} {variant : Variant}

lemma toNat_extensionIndex {max : Int64} (above : max < value)
  (first : subI64 checks value max = .ok beyond) (second : subI64 checks beyond 1 = .ok index) :
  (index.toUInt64.toNat : ℤ) = value.toInt - max.toInt - 1 := by
  obtain ⟨rfl, _⟩ := eq_of_subI64 first
  obtain ⟨rfl, _⟩ := eq_of_subI64 second
  have distance := toNat_sub_of_le (Int64.le_of_lt above)
  have apart := Int64.lt_iff_toInt_lt.mp above
  have one : (1 : Int64).toUInt64.toNat = 1 := rfl
  rw [Int64.toUInt64_sub, UInt64.toNat_sub, one]
  have word := (value - max).toUInt64.toNat_lt
  omega

lemma extensionValue_eq {index : UInt64} (above : constraint.max < value)
  (indexed : (index.toNat : ℤ) = value.toInt - constraint.max.toInt - 1) :
  extensionValue constraint index =
    if value.toInt - constraint.max.toInt - 1 < 2 ^ 63 then some value else none := by
  have apart := Int64.lt_iff_toInt_lt.mp above
  have top := value.toInt_lt
  have bottom := constraint.max.le_toInt
  unfold extensionValue
  by_cases small : value.toInt - constraint.max.toInt - 1 < 2 ^ 63
  · have word : index.toNat < 2 ^ 63 := by omega
    have one : (1 : Int64).toInt = 1 := rfl
    have next : (constraint.max + 1).toInt = constraint.max.toInt + (1 : Int64).toInt := by
      rw [Int64.toInt_add, one, Int.bmod_eq_of_le (by omega) (by omega)]
    have signed := toInt_toInt64_of_lt word
    have sum : (constraint.max + 1 + index.toInt64).toInt = value.toInt := by
      rw [Int64.toInt_add, next, signed, one, Int.bmod_eq_of_le (by omega) (by omega)]
      omega
    have added : (constraint.max + 1 + index.toInt64).toInt =
        (constraint.max + 1).toInt + index.toInt64.toInt := by
      rw [sum, next, signed, one]
      omega
    rw [if_pos word, if_pos small, checkedAddI64, if_pos next, Option.bind_some, checkedAddI64,
      if_pos added, Int64.toInt_inj.mp sum]
  · rw [if_neg (by omega), if_neg small]

lemma recoversIff_extension (above : constraint.max < value)
  (first : subI64 checks value constraint.max = .ok beyond)
  (second : subI64 checks beyond 1 = .ok index) :
  RecoversIff Input.bits (encodeNormallySmallNonNegative variant index.toUInt64)
    (fun input => do
      let index ← decodeNormallySmallNonNegative checks input variant
      match extensionValue constraint index with
      | some value => pure value
      | none => throw (.error (.decodeError s!"Enumerated extension index {index} too large")))
    value (value.toInt - constraint.max.toInt - 1 < 2 ^ 63) := by
  have found := extensionValue_eq above (toNat_extensionIndex above first second)
  refine (readBack_normallySmall index.toUInt64).onto.recoversIff ?_ ?_
  · intro small
    rw [pure_bind, found, if_pos small]
  · intro position last given
    by_contra large
    rw [pure_bind, found, if_neg large] at given
    exact nomatch given

lemma recoversIff_enumerated (value : Int64) (constraint : Constraint) :
  RecoversIff Input.bits (encodeEnumerated checks variant value constraint)
    (fun input => decodeEnumerated checks input variant constraint) value
    (if constraint.extensible ∧ constraint.max < value then
      value.toInt - constraint.max.toInt - 1 < 2 ^ 63
    else constraint.Carries value) := by
  have root : RecoversIff Input.bits
      (encodeConstrainedWholeNumber checks variant value constraint)
      (fun input => Decoder.decodeConstrainedWholeNumber checks input variant constraint) value
      (constraint.Carries value) := by
    rw [Constraint.carries_iff]
    exact (readBack_constrained value constraint).recoversIff_eq
  unfold encodeEnumerated decodeEnumerated
  by_cases extensible : constraint.extensible
  · simp only [extensible, true_and]
    by_cases inRoot : constraint.min ≤ value ∧ value ≤ constraint.max
    · rw [if_pos inRoot, if_neg (Int64.not_lt.mpr inRoot.2), decide_eq_true inRoot]
      exact RecoversIff.seq Recovers.one root
    · rw [if_neg inRoot, decide_eq_false inRoot]
      by_cases within : value ≤ constraint.max
      · rw [if_pos within]
        exact RecoversIff.seq Recovers.one RecoversIff.stopped
      · have above := Int64.not_le.mp within
        rw [if_neg within, if_pos above]
        refine RecoversIff.seq Recovers.one ?_
        refine RecoversIff.computing fun beyond first => ?_
        exact RecoversIff.computing fun index second => recoversIff_extension above first second
  · rw [if_neg extensible, if_neg fun extended => extensible extended.1]
    simp only [if_neg extensible]
    exact root

lemma readBack_rootChoice (index numAlternatives : UInt64) :
  ReadBack (do
      let last ← subUsize checks numAlternatives.toNat 1
      encodeConstrainedWholeNumber checks variant index.toInt64
        (Constraint.new 0 (asI64 last)))
    (fun input => decodeRootChoice checks input variant numAlternatives)
    (pure index) := by
  refine computed fun last _ => settled (readBack_constrained _ _) fun _ => ?_
  have limited : ¬(Constraint.new 0 (asI64 last)).Unlimited := fun unlimited =>
    absurd (congrArg Int64.toInt unlimited.1) (by decide : (0 : Int64).toInt ≠ Int64.minValue.toInt)
  rw [Constraint.recovered, if_neg limited, UInt64.toUInt64_toInt64]

lemma readBack_choiceIndex (index numAlternatives : UInt64) (extensible : Bool) :
  ReadBack (encodeChoiceIndex checks variant index numAlternatives extensible)
    (fun input => decodeChoiceIndex checks input variant numAlternatives extensible)
    (pure index) := by
  unfold encodeChoiceIndex decodeChoiceIndex
  cases extensible with
  | true =>
    by_cases inRoot : index < numAlternatives
    · simp only [if_true, if_pos inRoot, decide_eq_true inRoot]
      exact seq Recovers.one (readBack_rootChoice index numAlternatives)
    · simp only [if_true, if_neg inRoot, decide_eq_false inRoot]
      refine seq Recovers.one (settled (readBack_normallySmall _) fun _ => ?_)
      have most : numAlternatives ≤ index := UInt64.not_lt.mp inRoot
      have distance := UInt64.toNat_sub_of_le index numAlternatives most
      have word := index.toNat_lt
      have ordered := UInt64.le_iff_toNat_le.mp most
      have fits : numAlternatives.toNat + (index - numAlternatives).toNat < 2 ^ 64 := by omega
      have sum : numAlternatives + (index - numAlternatives) = index := by
        rw [UInt64.add_comm, UInt64.sub_add_cancel]
      rw [checkedAddUsize, if_pos fits, sum]
  | false =>
    by_cases beyond : numAlternatives ≤ index
    · simp only [Bool.false_eq_true, if_false, if_pos beyond]
      exact computing fun last _ => stopped
    · simp only [Bool.false_eq_true, if_false, if_neg beyond]
      exact readBack_rootChoice index numAlternatives

lemma length_of_readBytes {bytes : List UInt8}
  (done : (readBytes checks input count).run position = .ok bytes last) :
  bytes.length = count := by
  have loop {count position last : ℕ} {bytes : List UInt8}
      (done : (readBytesLoop checks input count).run position = .ok bytes last) :
      bytes.length = count := by
    induction count generalizing position last bytes with
    | zero =>
      obtain ⟨⟩ := done
      rfl
    | succ count ih =>
      obtain ⟨byte, next, _, done⟩ := run_bind_eq_ok done
      obtain ⟨rest, final, read, done⟩ := run_bind_eq_ok done
      obtain ⟨⟩ := done
      rw [length_cons, ih read]
  unfold readBytes at done
  split at done
  · exact nomatch done
  · rw [run_bind_of_ok (run_remainingBits input position)] at done
    split at done
    · exact nomatch done
    · exact loop done

lemma length_of_readBitSlice {bits : List Bool}
  (done : (readBitSlice input count).run position = .ok bits last) :
  bits.length = count := by
  have loop {count position last : ℕ} {bits : List Bool}
      (done : (readBitSliceLoop input count).run position = .ok bits last) :
      bits.length = count := by
    induction count generalizing position last bits with
    | zero =>
      cases done
      rfl
    | succ count ih =>
      obtain ⟨bit, next, _, done⟩ := run_bind_eq_ok done
      obtain ⟨rest, final, read, done⟩ := run_bind_eq_ok done
      cases done
      rw [length_cons, ih read]
  rw [readBitSlice, run_bind_of_ok (run_remainingBits input position)] at done
  split at done
  · cases done
  · exact loop done

section Strings

variable {Item : Type} {write : List Item → Encoder} {read : Input → ℕ → Decoder (List Item)}

lemma recoversIff_string
  (each : ∀ chunk, ReadBack (write chunk) (fun input => read input chunk.length) (pure chunk))
  (counts : ∀ input count position items last,
    (read input count).run position = .ok items last → items.length = count)
  {items : List Item} (storable : items.length < 2 ^ 63) (most : UInt64)
  (minLen maxLen : Option UInt64) :
  RecoversIff Input.bits (encodeString checks variant write most items minLen maxLen)
    (fun input => decodeString checks input variant (read input) most minLen maxLen)
    items (SizeCarried minLen maxLen) := by
  have free : RecoversIff Input.bits (encodeFragmented variant write items)
      (fun input => decodeFragments checks input variant (read input)
        (input.bits.length + 1) []) items True :=
    (readBack_fragments each items).recoversIff_of trivial
  cases minLen with
  | none => exact free
  | some min =>
    cases maxLen with
    | none => exact free
    | some max =>
      unfold encodeString decodeString
      by_cases fixed : min = max
      · simp only [if_pos fixed]
        by_cases sized : items.length ≠ min.toNat
        · rw [if_pos sized]
          exact RecoversIff.stopped
        · have size : items.length = min.toNat := not_not.mp sized
          rw [if_neg sized, ← size]
          exact (seq (readBack_alignAbove most min) (each items)).recoversIff_of
            (.inl fixed)
      · simp only [if_neg fixed]
        let constraint := Constraint.new min.toInt64 max.toInt64
        have length : ReadBack (encodeConstrainedLength checks variant items.length min max)
            (fun input => decodeConstrainedLength checks input variant min max)
            (pure (asUsize (constraint.recovered (asI64 items.length)))) :=
          settled (readBack_constrained _ _) fun _ => rfl
        by_cases unlimited : constraint.Unlimited
        · have recovered : asUsize (constraint.recovered (asI64 items.length)) = 2 ^ 63 := by
            rw [Constraint.recovered, if_pos unlimited, unlimited.1]
            rfl
          have fails : ¬SizeCarried (some min) (some max) := by
            rintro (same | limited)
            · exact fixed same
            · exact limited unlimited
          rw [recovered] at length
          refine RecoversIff.seq length (RecoversIff.seq (readBack_alignAbove most max) ?_)
          refine (each items).not_recoversIff fails ?_
          intro input position last given
          have := counts input _ position items last given
          omega
        · have recovered : asUsize (constraint.recovered (asI64 items.length)) = items.length := by
            rw [Constraint.recovered, if_neg unlimited, asUsize_asI64 (by omega)]
          rw [recovered] at length
          exact (seq length (seq (readBack_alignAbove most max)
            (each items))).recoversIff_of (.inr unlimited)

end Strings

lemma recoversIff_field {type : FieldType} {content : type.Content}
  (storable : type.Storable content) :
  RecoversIff Input.bits (encodeField checks variant type content)
    (fun input => decodeField checks variant input type) content
    (type.Recoverable content) := by
  cases type with
  | constrained constraint =>
    have recovers : RecoversIff Input.bits
        (encodeConstrainedWholeNumber checks variant content constraint)
        (fun input => Decoder.decodeConstrainedWholeNumber checks input variant constraint)
        content (constraint.Carries content) := by
      rw [Constraint.carries_iff]
      exact (readBack_constrained content constraint).recoversIff_eq
    exact recovers
  | unconstrained => exact (readBack_unconstrained content).recoversIff_of trivial
  | enumerated constraint => exact recoversIff_enumerated content constraint
  | choiceIndex numAlternatives extensible =>
    exact (readBack_choiceIndex content numAlternatives extensible).recoversIff_of trivial
  | normallySmall => exact (readBack_normallySmall content).recoversIff_of trivial
  | octetString minLen maxLen =>
    exact recoversIff_string readBack_readBytes (fun _ _ _ _ _ => length_of_readBytes) storable 2
      minLen maxLen
  | bitString minLen maxLen =>
    exact recoversIff_string readBack_readBitSlice (fun _ _ _ _ _ => length_of_readBitSlice)
      storable 16 minLen maxLen

/-!
## Sequences of aligned fields

A decoder of what an encoder has written gives back the sequence of fields, and ends where the
encoder did, unless an index or a size among them was lost to a number that wraps.
-/

variable {input : Input}

structure Field where
  type : FieldType
  content : type.Content
  storable : type.Storable content

namespace Field

def typed (field : Field) : (type : FieldType) × type.Content := ⟨field.type, field.content⟩

def Recoverable (field : Field) : Prop := field.type.Recoverable field.content

end Field

def AperEncoder.encodeFields (checks : Bool) (fields : List Field) : Encoder :=
  writeEach (encodeField checks .aligned) (fields.map Field.typed)

def AperDecoder.decodeFields (checks : Bool) (input : Input) (types : List FieldType) :
  Decoder (List ((type : FieldType) × type.Content)) :=
  readEach (decodeField checks .aligned) input types

lemma padded_whole (length : ℕ) :
  length + paddingBits length = 8 * ((length + paddingBits length) / 8) := by
  unfold paddingBits
  split <;> omega

lemma paddingBits_lt (length : ℕ) : paddingBits length < 8 := by
  unfold paddingBits
  split <;> omega

lemma Input.bits_of_octetsOfBits {bits : List Bool}
  (whole : bits.length = 8 * (bits.length / 8))
  (lent : Input.ofBytes (octetsOfBits (bits.length / 8) bits) = some input) :
  input.bits = bits := by
  unfold Input.ofBytes at lent
  split at lent
  · obtain ⟨⟩ := lent
    exact flatMap_octetsOfBits whole
  · exact nomatch lent

lemma AperEncoder.prefix_intoBytes {dead : ℕ → Bool} {buffer : List Bool}
  (lent : Input.ofBytes (AperEncoder.intoBytes dead buffer) = some input) :
  buffer <+: input.bits := by
  have length : (buffer ++ (List.range (paddingBits buffer.length)).map dead).length =
      buffer.length + paddingBits buffer.length := by
    rw [length_append, length_map, length_range]
  have bits := Input.bits_of_octetsOfBits (length ▸ padded_whole buffer.length)
    (by rw [length]; exact lent)
  rw [bits]
  exact prefix_append _ _

namespace AperDecoder

/-- From any bit position, whatever the last octet has past the end: the fields are read back
exactly if each of them is recoverable. -/
theorem fields_read_back_iff {checks : Bool} {dead : ℕ → Bool} {fields : List Field}
  {before after : List Bool} {input : Input}
  (accepted : (AperEncoder.encodeFields checks fields).run before = .ok () after)
  (lent : Input.ofBytes (AperEncoder.intoBytes dead after) = some input) :
  (decodeFields checks input (fields.map Field.type)).run before.length =
      .ok (fields.map Field.typed) after.length ↔
    ∀ field ∈ fields, field.Recoverable := by
  have each : ∀ entry ∈ fields.map Field.typed, RecoversIff Input.bits
      (encodeField checks .aligned entry.1 entry.2)
      (fun input => decodeField checks .aligned input entry.1) entry.2
      (entry.1.Recoverable entry.2) := by
    intro entry member
    obtain ⟨field, _, rfl⟩ := mem_map.mp member
    exact recoversIff_field field.storable
  obtain ⟨_, reads⟩ := recoversIff_each each before after accepted
  obtain ⟨gives, needs⟩ := reads input (AperEncoder.prefix_intoBytes lent)
  have types : (fields.map Field.typed).map Sigma.fst = fields.map Field.type := by
    rw [map_map]
    rfl
  rw [types] at gives needs
  rw [decodeFields]
  constructor
  · intro given field member
    exact needs _ given field.typed (mem_map_of_mem member)
  · intro recoverable
    refine gives fun entry member => ?_
    obtain ⟨field, present, rfl⟩ := mem_map.mp member
    exact recoverable field present

def wideFields : List Field :=
  [⟨.constrained ⟨0, 100000, false⟩, 70000, trivial⟩, ⟨.unconstrained, -300, trivial⟩,
    ⟨.enumerated ⟨0, 3, true⟩, 9, trivial⟩]

def wideBits : List Bool :=
  stateAfter ((AperEncoder.encodeFields true wideFields).run [true])

lemma wideHeld :
  (AperEncoder.intoBytes (fun _ => true) wideBits).length ≤ 2 ^ 58 := by decide

def wideInput : Input := ⟨AperEncoder.intoBytes (fun _ => true) wideBits, wideHeld⟩

theorem wide_fields_read_back_iff :
  (decodeFields true wideInput (wideFields.map Field.type)).run [true].length =
      .ok (wideFields.map Field.typed) wideBits.length ↔
    ∀ field ∈ wideFields, field.Recoverable :=
  fields_read_back_iff (by decide) (dif_pos wideHeld)

def lostFields : List Field :=
  [⟨.enumerated ⟨-10, -2, true⟩, Int64.maxValue, trivial⟩]

def lostBits : List Bool :=
  stateAfter ((AperEncoder.encodeFields false lostFields).run [])

lemma lostHeld :
  (AperEncoder.intoBytes (fun _ => false) lostBits).length ≤ 2 ^ 58 := by decide

def lostInput : Input := ⟨AperEncoder.intoBytes (fun _ => false) lostBits, lostHeld⟩

/-- Built without overflow checks: the encoder writes the index 2^63 of an extension value, and
the decoder refuses it. -/
theorem extension_value_not_read_back :
  (AperEncoder.encodeFields false lostFields).run [] = .ok () lostBits ∧
    Input.ofBytes (AperEncoder.intoBytes (fun _ => false) lostBits) = some lostInput ∧
    (decodeFields false lostInput (lostFields.map Field.type)).run 0 ≠
      .ok (lostFields.map Field.typed) lostBits.length := by
  refine ⟨by decide, dif_pos lostHeld, by decide⟩

end AperDecoder

end NextGCore.Asn1c
