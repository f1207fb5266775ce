import NextGCore.Library.Bits
import NextGCore.Library.Cursor

/-!
# Packed encoding rules

The typed fields of the aligned (`AperEncoder`, `AperDecoder`) and the unaligned (`UperEncoder`,
`UperDecoder`) packed encoding rules.  The two families have the same functions; the unaligned
ones never align, and write a constrained whole number in the bits of its range whatever the
range is.  Where the only difference is that no octet boundary is sought, one function stands
for both and takes the variant.

Arithmetic that overflows panics in a build with overflow checks and wraps in one without:
`checks` says which of the two the build is.
-/

namespace NextGCore.Asn1c

open NextGCore.Library

inductive PerError where
  | bufferUnderflow (needed available : ℕ)
  | bufferOverflow (needed : ℕ)
  | constraintViolation (value min max : Int64)
  | invalidChoiceIndex (index max : ℕ)
  | invalidLength (length : ℕ)
  | unsupportedExtension
  | decodeError (message : String)
  deriving DecidableEq

inductive Panic where
  | subtraction
  | addition
  /-- `self.position + num_bits` leaves `usize`. -/
  | cursor
  | index
  deriving DecidableEq

/-- What ends a call before it has a value; `exhausted` is a loop or a recursion that is not
over after the rounds that it is given here. -/
inductive Stop where
  | error (error : PerError)
  | panic (panic : Panic)
  | exhausted
  deriving DecidableEq

inductive Variant where
  | aligned
  | unaligned

instance {State : Type} : MonadLift (Except Stop) (EStateM Stop State) :=
  ⟨MonadExcept.ofExcept⟩

section Arithmetic

variable (checks : Bool) (left : Int64)

def subI64 (right : Int64) : Except Stop Int64 :=
  if checks ∧ (left - right).toInt ≠ left.toInt - right.toInt then .error (.panic .subtraction)
  else .ok (left - right)

def addI64 (right : Int64) : Except Stop Int64 :=
  if checks ∧ (left + right).toInt ≠ left.toInt + right.toInt then .error (.panic .addition)
  else .ok (left + right)

def addU64 (left right : UInt64) : Except Stop UInt64 :=
  if checks ∧ (left + right).toNat ≠ left.toNat + right.toNat then .error (.panic .addition)
  else .ok (left + right)

def subUsize (left right : ℕ) : Except Stop ℕ :=
  if right ≤ left then .ok (left - right)
  else if checks then .error (.panic .subtraction)
  else .ok (2 ^ 64 + left - right)

def addCursor (position count : ℕ) : Except Stop ℕ :=
  if position + count < 2 ^ 64 then .ok (position + count)
  else if checks then .error (.panic .cursor)
  else .ok ((position + count) % 2 ^ 64)

def checkedAddI64 (right : Int64) : Option Int64 :=
  if (left + right).toInt = left.toInt + right.toInt then some (left + right) else none

def checkedAddUsize (left right : UInt64) : Option UInt64 :=
  if left.toNat + right.toNat < 2 ^ 64 then some (left + right) else none

end Arithmetic

def asUsize (value : Int64) : ℕ := value.toUInt64.toNat

def asI64 (size : ℕ) : Int64 := Int64.ofNat size

structure Constraint where
  min : Int64
  max : Int64
  extensible : Bool
  deriving DecidableEq

namespace Constraint

def new (min max : Int64) : Constraint := ⟨min, max, false⟩

/-- How many values there are; 0 stands for a constraint without any, and for all of `i64`,
where the count wraps. -/
def range (checks : Bool) (constraint : Constraint) : Except Stop UInt64 :=
  if constraint.min ≤ constraint.max then do
    let width ← subI64 checks constraint.max constraint.min
    addU64 checks width.toUInt64 1
  else .ok 0

def bitsNeeded (checks : Bool) (constraint : Constraint) : Except Stop ℕ := do
  let range ← constraint.range checks
  if range ≤ 1 then pure 0 else pure (bitWidth (range.toNat - 1))

end Constraint

def octetsFor (bits : ℕ) : ℕ := (bits + 7) / 8

def offsetOctets (offset : ℕ) : ℕ := if offset = 0 then 1 else octetsFor (bitWidth offset)

abbrev Encoder : Type := Writing Stop Bool Unit

def writeBit (bit : Bool) : Encoder := push bit

def writeBits (value : ℕ) : ℕ → Encoder
  | 0 => pure ()
  | place + 1 => do
    writeBit (value.testBit place)
    writeBits value place

def writeBitSlice : List Bool → Encoder
  | [] => pure ()
  | bit :: bits => do
    writeBit bit
    writeBitSlice bits

def writeBytes : List UInt8 → Encoder
  | [] => pure ()
  | byte :: bytes => do
    writeBits byte.toNat 8
    writeBytes bytes

/-- `for i in (0..num_octets).rev() { self.write_bits((offset >> (i * 8)) & 0xFF, 8) }` -/
def writeOffset (offset : ℕ) : ℕ → Encoder
  | 0 => pure ()
  | place + 1 => do
    writeBits (offset >>> (place * 8) % 256) 8
    writeOffset offset place

def paddingBits (position : ℕ) : ℕ := if position % 8 ≠ 0 then 8 - position % 8 else 0

namespace Encoder

def align : Variant → Encoder
  | .aligned => do
    let buffer ← get
    writeBitSlice (List.replicate (paddingBits buffer.length) false)
  | .unaligned => pure ()

def alignAbove (variant : Variant) (most size : UInt64) : Encoder :=
  if most < size then align variant else pure ()

end Encoder

section Encoding

variable (checks : Bool) (value : Int64)

/-- The function calls itself only to write the number of octets of a large offset, which is
eight at most. -/
def AperEncoder.encodeConstrainedWithin : ℕ → Int64 → Constraint → Encoder
  | 0, _, _ => throw .exhausted
  | calls + 1, value, constraint =>
    if value < constraint.min ∨ constraint.max < value then
      throw (.error (.constraintViolation value constraint.min constraint.max))
    else do
      let range ← constraint.range checks
      let difference ← subI64 checks value constraint.min
      let offset := difference.toUInt64.toNat
      if range = 1 then pure ()
      else if range ≤ 255 then do
        let bits ← constraint.bitsNeeded checks
        writeBits offset bits
      else if range = 256 then do
        Encoder.align .aligned
        writeBits offset 8
      else if range ≤ 65536 then do
        Encoder.align .aligned
        writeBits offset 16
      else do
        let bits ← constraint.bitsNeeded checks
        let maxOctets := octetsFor bits
        let numOctets := offsetOctets offset
        encodeConstrainedWithin calls (asI64 numOctets) (Constraint.new 1 (asI64 maxOctets))
        Encoder.align .aligned
        writeOffset offset numOctets

def AperEncoder.encodeConstrainedWholeNumber (constraint : Constraint) : Encoder :=
  AperEncoder.encodeConstrainedWithin checks 2 value constraint

def UperEncoder.encodeConstrainedWholeNumber (constraint : Constraint) : Encoder :=
  if value < constraint.min ∨ constraint.max < value then
    throw (.error (.constraintViolation value constraint.min constraint.max))
  else do
    let range ← constraint.range checks
    if range = 1 then pure ()
    else do
      let difference ← subI64 checks value constraint.min
      let bits ← constraint.bitsNeeded checks
      writeBits difference.toUInt64.toNat bits

def twosComplementMinOctets : List UInt8 :=
  if 0 ≤ value then
    if value = 0 then [0]
    else
      let octets := leastOctets value.toUInt64.toNat
      if 128 ≤ (octets.headD 0).toNat then 0 :: octets else octets
  else (signedOctets 8 value.toInt).reverse

namespace Encoder

variable (variant : Variant)

def encodeConstrainedWholeNumber (value : Int64) (constraint : Constraint) : Encoder :=
  match variant with
  | .aligned => AperEncoder.encodeConstrainedWholeNumber checks value constraint
  | .unaligned => UperEncoder.encodeConstrainedWholeNumber checks value constraint

def encodeLengthDeterminant (length : ℕ) : Encoder := do
  align variant
  if length ≤ 127 then writeBits length 8
  else if length ≤ 16383 then writeBits (0x8000 ||| length) 16
  else throw (.error (.invalidLength length))

def encodeUnconstrainedWholeNumber (value : Int64) : Encoder := do
  let bytes := twosComplementMinOctets value
  encodeLengthDeterminant variant bytes.length
  align variant
  writeBytes bytes

/-- Data in blocks of 16K items, each after its header, and a last block with a plain length. -/
def encodeFragmented {Item : Type} (write : List Item → Encoder) (rest : List Item) : Encoder :=
  if 16383 < rest.length then do
    let multiplier := min (rest.length / 16384) 4
    let chunk := multiplier * 16384
    align variant
    writeBits (0xC0 ||| multiplier) 8
    write (rest.take chunk)
    encodeFragmented write (rest.drop chunk)
  else do
    encodeLengthDeterminant variant rest.length
    write rest
termination_by rest.length
decreasing_by
  rw [List.length_drop]
  omega

def encodeFragmentedOctets (data : List UInt8) : Encoder := encodeFragmented variant writeBytes data

def encodeFragmentedBits (bits : List Bool) : Encoder := encodeFragmented variant writeBitSlice bits

def encodeConstrainedLength (length : ℕ) (min max : UInt64) : Encoder :=
  encodeConstrainedWholeNumber checks variant (asI64 length)
    (Constraint.new min.toInt64 max.toInt64)

def encodeNormallySmallNonNegative (value : UInt64) : Encoder :=
  if value ≤ 63 then do
    writeBit false
    writeBits value.toNat 6
  else do
    let bytes := leastOctets value.toNat
    writeBit true
    encodeLengthDeterminant variant bytes.length
    align variant
    writeBytes bytes

def encodeEnumerated (value : Int64) (constraint : Constraint) : Encoder :=
  if constraint.extensible then do
    let inRoot := constraint.min ≤ value ∧ value ≤ constraint.max
    writeBit (!decide inRoot)
    if inRoot then encodeConstrainedWholeNumber checks variant value constraint
    else if value ≤ constraint.max then
      throw (.error (.constraintViolation value constraint.min constraint.max))
    else do
      let beyond ← subI64 checks value constraint.max
      let index ← subI64 checks beyond 1
      encodeNormallySmallNonNegative variant index.toUInt64
  else encodeConstrainedWholeNumber checks variant value constraint

def encodeChoiceIndex (index numAlternatives : UInt64) (extensible : Bool) : Encoder :=
  if extensible then do
    let inRoot := index < numAlternatives
    writeBit (!decide inRoot)
    if inRoot then do
      let last ← subUsize checks numAlternatives.toNat 1
      encodeConstrainedWholeNumber checks variant index.toInt64 (Constraint.new 0 (asI64 last))
    else encodeNormallySmallNonNegative variant (index - numAlternatives)
  else if numAlternatives ≤ index then do
    let last ← subUsize checks numAlternatives.toNat 1
    throw (.error (.invalidChoiceIndex index.toNat last))
  else do
    let last ← subUsize checks numAlternatives.toNat 1
    encodeConstrainedWholeNumber checks variant index.toInt64 (Constraint.new 0 (asI64 last))

/-- A string of octets or of bits.  The contents are aligned where the size may be above
`unalignedUpTo`. -/
def encodeString {Item : Type} (write : List Item → Encoder) (unalignedUpTo : UInt64)
  (items : List Item) (minLen maxLen : Option UInt64) : Encoder :=
  match minLen, maxLen with
  | some min, some max =>
    if min = max then
      if items.length ≠ min.toNat then throw (.error (.invalidLength items.length))
      else do
        alignAbove variant unalignedUpTo min
        write items
    else do
      encodeConstrainedLength checks variant items.length min max
      alignAbove variant unalignedUpTo max
      write items
  | _, _ => encodeFragmented variant write items

def encodeOctetString (data : List UInt8) (minLen maxLen : Option UInt64) : Encoder :=
  encodeString checks variant writeBytes 2 data minLen maxLen

def encodeBitString (bits : List Bool) (minLen maxLen : Option UInt64) : Encoder :=
  encodeString checks variant writeBitSlice 16 bits minLen maxLen

end Encoder

end Encoding

/-- `BitVec::into_vec` leaves the bits of the last octet that are past the end as they are. -/
def AperEncoder.intoBytes (dead : ℕ → Bool) (buffer : List Bool) : List UInt8 :=
  let padding := paddingBits buffer.length
  octetsOfBits ((buffer.length + padding) / 8) (buffer ++ (List.range padding).map dead)

structure Input where
  octets : List UInt8
  held : octets.length ≤ 2 ^ 58

/-- `AperDecoder::new`, `UperDecoder::new`: `BitSlice::from_slice` panics at a slice that is too
long for it. -/
def Input.ofBytes (data : List UInt8) : Option Input :=
  if held : data.length ≤ 2 ^ 58 then some ⟨data, held⟩ else none

def Input.bits (input : Input) : List Bool := input.octets.flatMap octetBits

abbrev Decoder (Value : Type) : Type := CursorReading Stop Value

namespace Decoder

def align : Variant → Decoder Unit
  | .aligned => modify fun position => position + paddingBits position
  | .unaligned => pure ()

def alignAbove (variant : Variant) (most size : UInt64) : Decoder Unit :=
  if most < size then align variant else pure ()

section Decoding

variable (checks : Bool) (variant : Variant) (input : Input) (count : ℕ)

def remainingBits : Decoder ℕ := do
  let position ← get
  pure (input.bits.length - position)

def readBit : Decoder Bool := pull input.bits (.error (.bufferUnderflow 1 0))

def readBitsLoop : ℕ → UInt64 → Decoder UInt64
  | 0, value => pure value
  | count + 1, value => do
    let bit ← pull input.bits (.panic .index)
    readBitsLoop count (value <<< 1 ||| bit.toUInt64)

def readBits : Decoder UInt64 := do
  let position ← get
  let last ← addCursor checks position count
  if input.bits.length < last then do
    let available ← subUsize checks input.bits.length position
    throw (.error (.bufferUnderflow count available))
  else readBitsLoop input count 0

def readBytesLoop : ℕ → Decoder (List UInt8)
  | 0 => pure []
  | count + 1 => do
    let byte ← readBits checks input 8
    let bytes ← readBytesLoop count
    pure (byte.toUInt8 :: bytes)

def readBytes : Decoder (List UInt8) :=
  if 2 ^ 64 ≤ count * 8 then throw (.error (.invalidLength count))
  else do
    let remaining ← remainingBits input
    if remaining < count * 8 then throw (.error (.bufferUnderflow (count * 8) remaining))
    else readBytesLoop checks input count

/-- `for _ in 0..count { value = (value << 8) | self.read_bits(8)? }` -/
def readOffset : ℕ → UInt64 → Decoder UInt64
  | 0, value => pure value
  | count + 1, value => do
    let octet ← readBits checks input 8
    readOffset count (value <<< 8 ||| octet)

def readBitSliceLoop : ℕ → Decoder (List Bool)
  | 0 => pure []
  | count + 1 => do
    let bit ← readBit input
    let bits ← readBitSliceLoop count
    pure (bit :: bits)

def readBitSlice : Decoder (List Bool) := do
  let remaining ← remainingBits input
  if remaining < count then throw (.error (.bufferUnderflow count remaining))
  else readBitSliceLoop input count

def outsideRange (offset range : UInt64) : PerError :=
  .decodeError s!"Decoded offset {offset} outside constraint range {range}"

end Decoding

end Decoder

section Decoding

variable (checks : Bool) (input : Input)

open Decoder

def AperDecoder.decodeConstrainedWithin : ℕ → Constraint → Decoder Int64
  | 0, _ => throw .exhausted
  | calls + 1, constraint => do
    let range ← constraint.range checks
    if range = 1 then pure constraint.min
    else do
      let offset ←
        if range ≤ 255 then do
          let bits ← constraint.bitsNeeded checks
          readBits checks input bits
        else if range = 256 then do
          align .aligned
          readBits checks input 8
        else if range ≤ 65536 then do
          align .aligned
          readBits checks input 16
        else do
          let bits ← constraint.bitsNeeded checks
          let maxOctets := octetsFor bits
          let numOctets ← decodeConstrainedWithin calls (Constraint.new 1 (asI64 maxOctets))
          align .aligned
          readOffset checks input (asUsize numOctets) 0
      if range ≠ 0 ∧ range ≤ offset then throw (.error (outsideRange offset range))
      else addI64 checks constraint.min offset.toInt64

def AperDecoder.decodeConstrainedWholeNumber (constraint : Constraint) : Decoder Int64 :=
  AperDecoder.decodeConstrainedWithin checks input 2 constraint

def UperDecoder.decodeConstrainedWholeNumber (constraint : Constraint) : Decoder Int64 := do
  let range ← constraint.range checks
  if range = 1 then pure constraint.min
  else do
    let bits ← constraint.bitsNeeded checks
    let offset ← readBits checks input bits
    if range ≠ 0 ∧ range ≤ offset then throw (.error (outsideRange offset range))
    else addI64 checks constraint.min offset.toInt64

namespace Decoder

variable (variant : Variant)

def decodeConstrainedWholeNumber (constraint : Constraint) : Decoder Int64 :=
  match variant with
  | .aligned => AperDecoder.decodeConstrainedWholeNumber checks input constraint
  | .unaligned => UperDecoder.decodeConstrainedWholeNumber checks input constraint

/-- A block of the length: how many items follow, and whether another block does. -/
def decodeLengthFragment : Decoder (ℕ × Bool) := do
  align variant
  let firstByte ← readBits checks input 8
  let firstByte := firstByte.toNat % 256
  if firstByte < 128 then pure (firstByte, false)
  else if firstByte < 192 then do
    let secondByte ← readBits checks input 8
    pure ((firstByte % 64) * 256 + secondByte.toNat % 256, false)
  else
    let multiplier := firstByte % 64
    if multiplier < 1 ∨ 4 < multiplier then throw (.error (.invalidLength (multiplier * 16384)))
    else pure (multiplier * 16384, true)

def decodeLengthDeterminant : Decoder ℕ := do
  let block ← decodeLengthFragment checks input variant
  if block.2 then
    throw (.error (.decodeError "Fragmented length determinant not permitted in this context"))
  else pure block.1

def decodeUnconstrainedWholeNumber : Decoder Int64 := do
  let len ← decodeLengthDeterminant checks input variant
  if len = 0 ∨ 8 < len then
    throw (.error (.decodeError s!"Invalid unconstrained integer length: {len}"))
  else do
    align variant
    let bytes ← readBytes checks input len
    match bytes.head? with
    | none => throw (.panic .index)
    | some first =>
      let sign : Int64 := if 128 ≤ first.toNat then -1 else 0
      pure (bytes.foldl (fun value byte => value <<< 8 ||| byte.toUInt64.toInt64) sign)

def decodeConstrainedLength (min max : UInt64) : Decoder ℕ := do
  let value ← decodeConstrainedWholeNumber checks input variant
    (Constraint.new min.toInt64 max.toInt64)
  pure (asUsize value)

def decodeNormallySmallNonNegative : Decoder UInt64 := do
  let large ← readBit input
  if !large then readBits checks input 6
  else do
    let len ← decodeLengthDeterminant checks input variant
    if len = 0 ∨ 8 < len then
      throw (.error (.decodeError s!"Invalid normally-small number length: {len}"))
    else do
      align variant
      readOffset checks input len 0

/-- The value with this index among the extension additions, if it is an `i64`. -/
def extensionValue (constraint : Constraint) (index : UInt64) : Option Int64 :=
  if index.toNat < 2 ^ 63 then
    (checkedAddI64 constraint.max 1).bind fun first => checkedAddI64 first index.toInt64
  else none

def decodeEnumerated (constraint : Constraint) : Decoder Int64 :=
  if constraint.extensible then do
    let extended ← readBit input
    if !extended then decodeConstrainedWholeNumber checks input variant constraint
    else do
      let index ← decodeNormallySmallNonNegative checks input variant
      match extensionValue constraint index with
      | some value => pure value
      | none => throw (.error (.decodeError s!"Enumerated extension index {index} too large"))
  else decodeConstrainedWholeNumber checks input variant constraint

def decodeRootChoice (numAlternatives : UInt64) : Decoder UInt64 := do
  let last ← subUsize checks numAlternatives.toNat 1
  let value ← decodeConstrainedWholeNumber checks input variant (Constraint.new 0 (asI64 last))
  pure value.toUInt64

def decodeChoiceIndex (numAlternatives : UInt64) (extensible : Bool) : Decoder UInt64 :=
  if extensible then do
    let extended ← readBit input
    if !extended then decodeRootChoice checks input variant numAlternatives
    else do
      let extIndex ← decodeNormallySmallNonNegative checks input variant
      match checkedAddUsize numAlternatives extIndex with
      | some index => pure index
      | none => throw (.error (.decodeError s!"Choice extension index {extIndex} too large"))
  else decodeRootChoice checks input variant numAlternatives

def decodeFragments {Item : Type} (read : ℕ → Decoder (List Item)) :
    ℕ → List Item → Decoder (List Item)
  | 0, _ => throw .exhausted
  | rounds + 1, items => do
    let block ← decodeLengthFragment checks input variant
    let more ← read block.1
    if block.2 then decodeFragments read rounds (items ++ more)
    else pure (items ++ more)

def decodeString {Item : Type} (read : ℕ → Decoder (List Item)) (unalignedUpTo : UInt64)
  (minLen maxLen : Option UInt64) : Decoder (List Item) :=
  match minLen, maxLen with
  | some min, some max =>
    if min = max then do
      alignAbove variant unalignedUpTo min
      read min.toNat
    else do
      let len ← decodeConstrainedLength checks input variant min max
      alignAbove variant unalignedUpTo max
      read len
  | _, _ => decodeFragments checks input variant read (input.bits.length + 1) []

def decodeOctetString (minLen maxLen : Option UInt64) : Decoder (List UInt8) :=
  decodeString checks input variant (readBytes checks input) 2 minLen maxLen

def decodeBitString (minLen maxLen : Option UInt64) : Decoder (List Bool) :=
  decodeString checks input variant (readBitSlice input) 16 minLen maxLen

end Decoder

end Decoding

end NextGCore.Asn1c
