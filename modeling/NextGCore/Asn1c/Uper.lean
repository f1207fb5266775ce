import NextGCore.Asn1c.PerFields

/-!
# Unaligned packed encoding rules

What the unaligned encoder and decoder have besides the fields of the aligned ones: normally
small lengths, the preamble of a sequence and its block of extension additions, each an open
type.  A message is padded once, at its end.
-/

namespace NextGCore.Asn1c

open NextGCore.Library List Recovers

namespace UperEncoder

def encodeNormallySmallLength (n : ℕ) : Encoder :=
  if n = 0 then throw (.error (.invalidLength 0))
  else if n ≤ 64 then do
    writeBit false
    writeBits (n - 1) 6
  else do
    writeBit true
    Encoder.encodeLengthDeterminant .unaligned n

def encodeSequencePreamble (extensionPresent : Option Bool) (optionals : List Bool) : Encoder :=
  match extensionPresent with
  | some ext => do
    writeBit ext
    writeBitSlice optionals
  | none => writeBitSlice optionals

/-- `for m in members.iter().flatten() { self.encode_octet_string(m, None, None)? }` -/
def encodeOpenTypes (checks : Bool) : List (Option (List UInt8)) → Encoder
  | [] => pure ()
  | none :: members => encodeOpenTypes checks members
  | some member :: members => do
    Encoder.encodeOctetString checks .unaligned member none none
    encodeOpenTypes checks members

def encodeExtensionAdditions (checks : Bool) (members : List (Option (List UInt8))) : Encoder :=
  if members.isEmpty then pure ()
  else do
    encodeNormallySmallLength members.length
    writeBitSlice (members.map Option.isSome)
    encodeOpenTypes checks members

def intoBytes (buffer : List Bool) : List UInt8 :=
  let padded := buffer ++ replicate (paddingBits buffer.length) false
  octetsOfBits (padded.length / 8) padded

end UperEncoder

namespace UperDecoder

variable (checks : Bool) (input : Input)

open Decoder

def decodeNormallySmallLength : Decoder ℕ := do
  let large ← readBit input
  if !large then do
    let less ← readBits checks input 6
    pure (less.toNat + 1)
  else decodeLengthDeterminant checks input .unaligned

def decodeSequencePreamble (extensible : Bool) (numOptionals : ℕ) :
  Decoder (Bool × List Bool) := do
  let extensionPresent ← if extensible then readBit input else pure false
  let optionals ← readBitSliceLoop input numOptionals
  pure (extensionPresent, optionals)

def decodeOpenTypes : List Bool → Decoder (List (Option (List UInt8)))
  | [] => pure []
  | present :: others => do
    let member ←
      if present then some <$> decodeOctetString checks input .unaligned none none
      else pure none
    let members ← decodeOpenTypes others
    pure (member :: members)

def decodeExtensionAdditions : Decoder (List (Option (List UInt8))) := do
  let n ← decodeNormallySmallLength checks input
  let present ← readBitSliceLoop input n
  decodeOpenTypes checks input present

end UperDecoder

inductive UperType where
  | plain (type : FieldType)
  | normallySmallLength
  | sequencePreamble (extensible : Bool) (numOptionals : UInt64)
  | extensionAdditions
  deriving DecidableEq

namespace UperType

abbrev Content : UperType → Type
  | .plain type => type.Content
  | .normallySmallLength => UInt64
  | .sequencePreamble _ _ => Bool × List Bool
  | .extensionAdditions => List (Option (List UInt8))

instance (type : UperType) : DecidableEq type.Content :=
  match type with
  | .plain type => inferInstanceAs (DecidableEq type.Content)
  | .normallySmallLength => inferInstanceAs (DecidableEq UInt64)
  | .sequencePreamble _ _ => inferInstanceAs (DecidableEq (Bool × List Bool))
  | .extensionAdditions => inferInstanceAs (DecidableEq (List (Option (List UInt8))))

/-- The content is one of the type: a presence bit for each optional field, no extensions of a
type that has none, and a block only where there are additions. -/
def Fits : (type : UperType) → type.Content → Prop
  | .plain type, content => type.Storable content
  | .normallySmallLength, _ => True
  | .sequencePreamble extensible numOptionals, preamble =>
    preamble.2.length = numOptionals.toNat ∧ (extensible = false → preamble.1 = false)
  | .extensionAdditions, members => members ≠ []

def Recoverable : (type : UperType) → type.Content → Prop
  | .plain type, content => type.Recoverable content
  | _, _ => True

end UperType

structure UperField where
  type : UperType
  content : type.Content
  fits : type.Fits content

namespace UperField

def typed (field : UperField) : (type : UperType) × type.Content := ⟨field.type, field.content⟩

def Recoverable (field : UperField) : Prop := field.type.Recoverable field.content

end UperField

def UperEncoder.encodeField (checks : Bool) : (type : UperType) → type.Content → Encoder
  | .plain type, content => Asn1c.encodeField checks .unaligned type content
  | .normallySmallLength, n => UperEncoder.encodeNormallySmallLength n.toNat
  | .sequencePreamble extensible _, preamble =>
    UperEncoder.encodeSequencePreamble (if extensible then some preamble.1 else none) preamble.2
  | .extensionAdditions, members => UperEncoder.encodeExtensionAdditions checks members

def UperDecoder.decodeField (checks : Bool) (input : Input) :
    (type : UperType) → Decoder type.Content
  | .plain type => Asn1c.decodeField checks .unaligned input type
  | .normallySmallLength => UInt64.ofNat <$> UperDecoder.decodeNormallySmallLength checks input
  | .sequencePreamble extensible numOptionals =>
    UperDecoder.decodeSequencePreamble input extensible numOptionals.toNat
  | .extensionAdditions => UperDecoder.decodeExtensionAdditions checks input

def UperEncoder.encodeFields (checks : Bool) (fields : List UperField) : Encoder :=
  writeEach (UperEncoder.encodeField checks) (fields.map UperField.typed)

def UperDecoder.decodeFields (checks : Bool) (input : Input) (types : List UperType) :
  Decoder (List ((type : UperType) × type.Content)) :=
  readEach (UperDecoder.decodeField checks) input types

variable {checks : Bool}

lemma readBack_normallySmallLength (n : ℕ) : ReadBack (UperEncoder.encodeNormallySmallLength n)
    (fun input => UperDecoder.decodeNormallySmallLength checks input) (pure n) := by
  unfold UperEncoder.encodeNormallySmallLength UperDecoder.decodeNormallySmallLength
  by_cases none : n = 0
  · rw [if_pos none]
    exact stopped
  · rw [if_neg none]
    by_cases few : n ≤ 64
    · have word : (UInt64.ofNat (n - 1)).toNat + 1 = n := by
        rw [UInt64.toNat_ofNat']
        omega
      rw [if_pos few]
      refine seq one ?_
      refine settled (readBack_readBits_of_lt (by omega)) fun _ => ?_
      rw [word]
    · rw [if_neg few]
      exact seq one (readBack_lengthDeterminant n)

lemma readBack_readBitSliceLoop (bits : List Bool) :
  ReadBack (writeBitSlice bits) (fun input => Decoder.readBitSliceLoop input bits.length)
    (pure bits) := by
  induction bits with
  | nil => exact idle
  | cons bit bits ih =>
    exact seq one (ih.settled fun _ => rfl)

lemma readBack_sequencePreamble {extensible ext : Bool} (optionals : List Bool)
  (fits : extensible = false → ext = false) :
  ReadBack (UperEncoder.encodeSequencePreamble (if extensible then some ext else none) optionals)
    (fun input => UperDecoder.decodeSequencePreamble input extensible optionals.length)
    (pure (ext, optionals)) := by
  have loop := readBack_readBitSliceLoop optionals
  cases extensible with
  | true => exact seq one (loop.settled fun _ => rfl)
  | false =>
    rw [fits rfl]
    exact loop.settled fun _ => rfl

lemma readBack_openType (member : List UInt8) :
  ReadBack (Encoder.encodeOctetString checks .unaligned member none none)
    (fun input => Decoder.decodeOctetString checks input .unaligned none none) (pure member) :=
  readBack_fragments readBack_readBytes member

lemma readBack_openTypes (members : List (Option (List UInt8))) :
  ReadBack (UperEncoder.encodeOpenTypes checks members)
    (fun input => UperDecoder.decodeOpenTypes checks input (members.map Option.isSome))
    (pure members) := by
  induction members with
  | nil => exact idle
  | cons member members ih =>
    cases member with
    | none => exact ih.settled fun _ => rfl
    | some member =>
      exact seq (readBack_openType member).mapped (ih.settled fun _ => rfl)

lemma readBack_extensionAdditions {members : List (Option (List UInt8))}
  (present : members ≠ []) :
  ReadBack (UperEncoder.encodeExtensionAdditions checks members)
    (fun input => UperDecoder.decodeExtensionAdditions checks input) (pure members) := by
  have some_left : ¬members.isEmpty = true := by rwa [List.isEmpty_iff]
  have bits := readBack_readBitSliceLoop (members.map Option.isSome)
  rw [length_map] at bits
  rw [UperEncoder.encodeExtensionAdditions, if_neg some_left]
  exact seq (readBack_normallySmallLength members.length)
    (seq bits (readBack_openTypes members))

lemma recoversIff_uperField {type : UperType} {content : type.Content}
  (fits : type.Fits content) :
  RecoversIff Input.bits (UperEncoder.encodeField checks type content)
    (fun input => UperDecoder.decodeField checks input type) content
    (type.Recoverable content) := by
  cases type with
  | plain type => exact recoversIff_field fits
  | normallySmallLength =>
    have whole : UInt64.ofNat content.toNat = content := UInt64.ofNat_toNat
    have back : ReadBack (UperEncoder.encodeNormallySmallLength content.toNat)
        (fun input =>
          UInt64.ofNat <$> UperDecoder.decodeNormallySmallLength checks input)
        (pure (UInt64.ofNat content.toNat)) :=
      (readBack_normallySmallLength content.toNat).mapped
    rw [whole] at back
    exact back.recoversIff_of trivial
  | sequencePreamble extensible numOptionals =>
    obtain ⟨counted, unextended⟩ := fits
    have back := readBack_sequencePreamble content.2 unextended
    rw [counted] at back
    exact back.recoversIff_of trivial
  | extensionAdditions => exact (readBack_extensionAdditions fits).recoversIff_of trivial

lemma UperEncoder.bits_intoBytes {buffer : List Bool} {input : Input}
  (lent : Input.ofBytes (UperEncoder.intoBytes buffer) = some input) :
  input.bits = buffer ++ replicate (paddingBits buffer.length) false := by
  refine Input.bits_of_octetsOfBits ?_ lent
  rw [length_append, length_replicate]
  exact padded_whole buffer.length

namespace UperDecoder

/-- The fields are read back, all bits of them and no more, exactly if each of them is
recoverable; what is left is less than an octet of zeros. -/
theorem message_read_back_iff {checks : Bool} {fields : List UperField} {message : List Bool}
  {input : Input} (accepted : (UperEncoder.encodeFields checks fields).run [] = .ok () message)
  (lent : Input.ofBytes (UperEncoder.intoBytes message) = some input) :
  ((decodeFields checks input (fields.map UperField.type)).run 0 =
        .ok (fields.map UperField.typed) message.length ∧
      ∃ padding < 8, input.bits.drop message.length = replicate padding false) ↔
    ∀ field ∈ fields, field.Recoverable := by
  have each : ∀ entry ∈ fields.map UperField.typed, RecoversIff Input.bits
      (UperEncoder.encodeField checks entry.1 entry.2)
      (fun input => decodeField checks input entry.1) entry.2 (entry.1.Recoverable entry.2) := by
    intro entry member
    obtain ⟨field, _, rfl⟩ := mem_map.mp member
    exact recoversIff_uperField field.fits
  have bits := UperEncoder.bits_intoBytes lent
  have within : message <+: input.bits := by
    rw [bits]
    exact prefix_append _ _
  obtain ⟨_, reads⟩ := recoversIff_each each [] message accepted
  obtain ⟨gives, needs⟩ := reads input within
  have types : (fields.map UperField.typed).map Sigma.fst = fields.map UperField.type := by
    rw [map_map]
    rfl
  rw [types] at gives needs
  constructor
  · rintro ⟨given, _⟩ field member
    exact needs _ given field.typed (mem_map_of_mem member)
  · intro recoverable
    refine ⟨gives fun entry member => ?_, paddingBits message.length, paddingBits_lt _, ?_⟩
    · obtain ⟨field, present, rfl⟩ := mem_map.mp member
      exact recoverable field present
    · rw [bits, drop_left]

def extendedFields : List UperField :=
  [⟨.sequencePreamble true 2, (true, [true, false]), ⟨rfl, fun plain => nomatch plain⟩⟩,
    ⟨.plain (.constrained ⟨0, 3279165, false⟩), 640000, trivial⟩,
    ⟨.extensionAdditions, [some [1, 2], none], cons_ne_nil _ _⟩]

def extendedMessage : List Bool :=
  stateAfter ((UperEncoder.encodeFields true extendedFields).run [])

lemma extendedHeld :
  (UperEncoder.intoBytes extendedMessage).length ≤ 2 ^ 58 := by decide +kernel

def extendedInput : Input := ⟨UperEncoder.intoBytes extendedMessage, extendedHeld⟩

theorem extended_message_read_back_iff :
  ((decodeFields true extendedInput (extendedFields.map UperField.type)).run 0 =
        .ok (extendedFields.map UperField.typed) extendedMessage.length ∧
      ∃ padding < 8, extendedInput.bits.drop extendedMessage.length =
        replicate padding false) ↔
    ∀ field ∈ extendedFields, field.Recoverable :=
  message_read_back_iff (by decide +kernel) (dif_pos extendedHeld)

def unlimitedFields : List UperField :=
  [⟨.plain (.constrained ⟨Int64.minValue, Int64.maxValue, false⟩), 0, trivial⟩]

lemma emptyHeld : (UperEncoder.intoBytes []).length ≤ 2 ^ 58 := by decide

/-- Built without overflow checks: an integer that may be any `i64` is written in no bits, and
read as the least of them. -/
theorem unlimited_integer_not_read_back :
  (UperEncoder.encodeFields false unlimitedFields).run [] = .ok () [] ∧
    Input.ofBytes (UperEncoder.intoBytes []) = some ⟨UperEncoder.intoBytes [], emptyHeld⟩ ∧
    (decodeFields false ⟨UperEncoder.intoBytes [], emptyHeld⟩
      (unlimitedFields.map UperField.type)).run 0 ≠
        .ok (unlimitedFields.map UperField.typed) 0 := by
  refine ⟨by decide, dif_pos emptyHeld, by decide⟩

end UperDecoder

end NextGCore.Asn1c
