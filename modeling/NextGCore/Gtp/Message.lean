import Mathlib.Data.UInt
import NextGCore.Library.CountedRead

/-!
# GTPv2-C messages

A message is a header, information elements and possibly a message piggybacked on it, which has
a header of its own.  A grouped element's value is a concatenation of elements.
-/

namespace NextGCore.Gtp

open Library

abbrev Bytes := List UInt8

inductive GtpError where
  | bufferTooShort (needed available : ℕ)
  | invalidFormat (text : String)
  | invalidHeader (text : String)
  | invalidVersion (version : UInt8)

abbrev Decoding := BufferReading GtpError

def getU8 : Decoding UInt8 := do
  let value ← getUint 1
  pure (UInt8.ofNat value)

def getU16 : Decoding UInt16 := do
  let value ← getUint 2
  pure (UInt16.ofNat value)

def getU32 : Decoding UInt32 := do
  let value ← getUint 4
  pure (UInt32.ofNat value)

structure Gtp2Ie where
  ieType : UInt8
  ieInstance : UInt8
  value : Bytes

namespace Gtp2Ie

def new (ieType ieInstance : UInt8) (value : Bytes) : Gtp2Ie :=
  ⟨ieType, ieInstance &&& 0x0F, value⟩

def encode (ie : Gtp2Ie) : Bytes :=
  beOctets 1 ie.ieType.toNat ++ (beOctets 2 (UInt16.ofNat ie.value.length).toNat ++
    (beOctets 1 (ie.ieInstance &&& 0x0F).toNat ++ ie.value))

def decode : Decoding Gtp2Ie := do
  require 4 (.bufferTooShort 4)
  let ieType ← getU8
  let length ← getU16
  let ieInstance ← getU8
  require length.toNat (.bufferTooShort length.toNat)
  let value ← copyToBytes length.toNat
  pure ⟨ieType, ieInstance &&& 0x0F, value⟩

def encodedLen (ie : Gtp2Ie) : ℕ := 4 + ie.value.length

end Gtp2Ie

def encodeIes (ies : List Gtp2Ie) : Bytes := (ies.map Gtp2Ie.encode).flatten

def Gtp2IeType.BearerContext : UInt8 := 93

structure Gtp2BearerContextIe where
  ies : List Gtp2Ie

namespace Gtp2BearerContextIe

variable (bearer : Gtp2BearerContextIe)

def addIe (ie : Gtp2Ie) : Gtp2BearerContextIe :=
  ⟨bearer.ies ++ [ie]⟩

def encodeValue : Bytes := encodeIes bearer.ies

def toIe (ieInstance : UInt8) : Gtp2Ie :=
  .new Gtp2IeType.BearerContext ieInstance bearer.encodeValue

/-- `while buf.remaining() > 0 { ies.push(Gtp2Ie::decode(&mut buf)?) }` -/
def decode (value : Bytes) : Except (Fault GtpError) Gtp2BearerContextIe :=
  (Reading.many id Gtp2Ie.decode value).map fun answer => ⟨answer.1⟩

end Gtp2BearerContextIe

structure Gtp2Header where
  version : UInt8
  piggybacked : Bool
  teidPresence : Bool
  messageType : UInt8
  length : UInt16
  teid : Option UInt32
  sequenceNumber : UInt32

def headerExtra (teidPresence : Bool) : ℕ := if teidPresence then 8 else 4

namespace Gtp2Header

def new (messageType : UInt8) (teid sequenceNumber : UInt32) : Gtp2Header :=
  ⟨2, false, true, messageType, 0, some teid, sequenceNumber⟩

def flags (header : Gtp2Header) : UInt8 :=
  ((header.version &&& 0x07) <<< 5) ||| (if header.piggybacked then 0x10 else 0) |||
    (if header.teidPresence then 0x08 else 0)

def encode (header : Gtp2Header) : Bytes :=
  beOctets 1 header.flags.toNat ++ (beOctets 1 header.messageType.toNat ++
    (beOctets 2 header.length.toNat ++
      ((if header.teidPresence then beOctets 4 (header.teid.getD 0).toNat else []) ++
        beOctets 4 (header.sequenceNumber <<< 8).toNat)))

def decodeTeid (teidPresence : Bool) : Decoding (Option UInt32) :=
  if teidPresence then do
    let teid ← getU32
    pure (some teid)
  else pure none

def decode : Decoding Gtp2Header := do
  require 4 (.bufferTooShort 4)
  let flags ← getU8
  let version := (flags >>> 5) &&& 0x07
  let teidPresence := flags &&& 0x08 != 0
  let messageType ← getU8
  let length ← getU16
  Reading.refuse (version ≠ 2) (.refused (.invalidVersion version))
  require (headerExtra teidPresence) (.bufferTooShort (headerExtra teidPresence))
  let teid ← decodeTeid teidPresence
  let sqnRaw ← getU32
  pure ⟨version, flags &&& 0x10 != 0, teidPresence, messageType, length, teid, sqnRaw >>> 8⟩

end Gtp2Header

structure Gtp2Message where
  header : Gtp2Header
  ies : List Gtp2Ie
  piggybacked : Option Gtp2Message

namespace Gtp2Message

variable (header : Gtp2Header) (message : Gtp2Message)

@[elab_as_elim]
lemma chain_induction {motive : Gtp2Message → Prop}
    (last : ∀ header ies, motive ⟨header, ies, none⟩)
    (carrier : ∀ header ies next, motive next → motive ⟨header, ies, some next⟩) :
    (message : Gtp2Message) → motive message
  | ⟨header, ies, none⟩ => last header ies
  | ⟨header, ies, some next⟩ => carrier header ies next (chain_induction last carrier next)

def new : Gtp2Message := ⟨header, [], none⟩

def addIe (ie : Gtp2Ie) : Gtp2Message :=
  { message with ies := message.ies ++ [ie] }

def addBearerContext (ieInstance : UInt8) (bearer : Gtp2BearerContextIe) : Gtp2Message :=
  message.addIe (bearer.toIe ieInstance)

def setPiggybacked (next : Gtp2Message) : Gtp2Message :=
  { message with piggybacked := some next }

def calculateLength (ies : List Gtp2Ie) : UInt16 :=
  ies.foldl (fun length ie => length + UInt16.ofNat ie.encodedLen)
    (UInt16.ofNat (headerExtra header.teidPresence))

def framedHeader (ies : List Gtp2Ie) (piggybacked : Bool) : Gtp2Header :=
  { header with piggybacked, length := calculateLength header ies }

def encode : Gtp2Message → Bytes
  | ⟨header, ies, none⟩ => (framedHeader header ies false).encode ++ encodeIes ies
  | ⟨header, ies, some next⟩ =>
    (framedHeader header ies true).encode ++ (encodeIes ies ++ next.encode)

def payloadLen : Decoding ℕ := do
  Reading.refuse (header.length.toNat < headerExtra header.teidPresence)
    (.refused (.invalidHeader "Length shorter than TEID/sequence fields"))
  pure (header.length.toNat - headerExtra header.teidPresence)

/-- `if header.piggybacked { .. Some(Box::new(Self::decode(buf)?)) }` -/
def decodePiggybacked (flagged : Bool) (decode : Decoding Gtp2Message) :
  Decoding (Option Gtp2Message) :=
  if flagged then do
    require 1 fun _ => .invalidFormat "P flag set but no piggybacked message follows"
    let next ← decode
    pure (some next)
  else pure none

/-- `Gtp2Message::decode`, for chains of fewer messages than `depth`. -/
def decodeWithin : ℕ → Decoding Gtp2Message
  | 0 => fun _ => .error .panic
  | depth + 1 => do
    let header ← Gtp2Header.decode
    let payload ← payloadLen header
    require payload (.bufferTooShort payload)
    let ies ← counted Gtp2Ie.decode payload
    let piggybacked ← decodePiggybacked header.piggybacked (decodeWithin depth)
    pure ⟨header, ies, piggybacked⟩

def decode : Decoding Gtp2Message := fun octets => decodeWithin (octets.length + 1) octets

end Gtp2Message

end NextGCore.Gtp
