import Mathlib.Data.UInt
import NextGCore.Library.Buffer

/-!
# Diameter messages and their AVPs
-/

namespace NextGCore.Diameter

namespace avp_code

def ORIGIN_HOST : UInt32 := 264
def ORIGIN_REALM : UInt32 := 296
def RESULT_CODE : UInt32 := 268
def AUTH_APPLICATION_ID : UInt32 := 258
def VENDOR_ID : UInt32 := 266
def VENDOR_SPECIFIC_APPLICATION_ID : UInt32 := 260
def ACCT_APPLICATION_ID : UInt32 := 259
def HOST_IP_ADDRESS : UInt32 := 257
def PRODUCT_NAME : UInt32 := 269
def SUPPORTED_VENDOR_ID : UInt32 := 265
def FIRMWARE_REVISION : UInt32 := 267
def ORIGIN_STATE_ID : UInt32 := 278

end avp_code

inductive ResultCode where
  | multiRoundAuth
  | success | limitedSuccess
  | commandUnsupported | unableToDeliver | realmNotServed | tooBusy | loopDetected
  | redirectIndication | applicationUnsupported | invalidHdrBits | invalidAvpBits | unknownPeer
  | authenticationRejected | outOfSpace | electionLost
  | avpUnsupported | unknownSessionId | authorizationRejected | invalidAvpValue | missingAvp
  | resourcesExceeded | contradictingAvps | avpNotAllowed | avpOccursTooManyTimes
  | noCommonApplication | unsupportedVersion | unableToComply | invalidBitInHeader
  | invalidAvpLength | invalidMessageLength | invalidAvpBitCombo | noCommonSecurity
  | userUnknown

namespace ResultCode

def toU32 : ResultCode → UInt32
  | multiRoundAuth => 1001
  | success => 2001
  | limitedSuccess => 2002
  | commandUnsupported => 3001
  | unableToDeliver => 3002
  | realmNotServed => 3003
  | tooBusy => 3004
  | loopDetected => 3005
  | redirectIndication => 3006
  | applicationUnsupported => 3007
  | invalidHdrBits => 3008
  | invalidAvpBits => 3009
  | unknownPeer => 3010
  | authenticationRejected => 4001
  | outOfSpace => 4002
  | electionLost => 4003
  | avpUnsupported => 5001
  | unknownSessionId => 5002
  | authorizationRejected => 5003
  | invalidAvpValue => 5004
  | missingAvp => 5005
  | resourcesExceeded => 5006
  | contradictingAvps => 5007
  | avpNotAllowed => 5008
  | avpOccursTooManyTimes => 5009
  | noCommonApplication => 5010
  | unsupportedVersion => 5011
  | unableToComply => 5012
  | invalidBitInHeader => 5013
  | invalidAvpLength => 5014
  | invalidMessageLength => 5015
  | invalidAvpBitCombo => 5016
  | noCommonSecurity => 5017
  | userUnknown => 5030

/-- The codes that `From<u32>` knows; it takes every other number for `unableToComply`. -/
def known : List ResultCode :=
  [multiRoundAuth, success, limitedSuccess, commandUnsupported, unableToDeliver, realmNotServed,
    tooBusy, loopDetected, redirectIndication, applicationUnsupported, invalidHdrBits,
    invalidAvpBits, unknownPeer, authenticationRejected, outOfSpace, electionLost, avpUnsupported,
    unknownSessionId, authorizationRejected, invalidAvpValue, missingAvp, resourcesExceeded,
    contradictingAvps, avpNotAllowed, avpOccursTooManyTimes, noCommonApplication,
    unsupportedVersion, unableToComply, invalidBitInHeader, invalidAvpLength, invalidMessageLength,
    invalidAvpBitCombo, noCommonSecurity, userUnknown]

def ofU32 (value : UInt32) : ResultCode :=
  (known.find? (·.toU32 == value)).getD unableToComply

def isSuccess (code : ResultCode) : Bool := 2000 ≤ code.toU32 && code.toU32 < 3000

end ResultCode

/-!
## Attribute-value pairs

An AVP is a code, flags, the id of a vendor and data of some type.  The wire does not tell the
types apart: what is decoded has raw data, and an accessor of the type gives the value.  A
float stands as its bits.
-/

open Library

abbrev Bytes := List UInt8

def asBytes (text : String) : Bytes := text.toUTF8.data.toList

def fromUtf8 (octets : Bytes) : Option String := String.fromUTF8? ⟨octets.toArray⟩

inductive IpAddr where
  | v4 (address : UInt32)
  | v6 (address : BitVec 128)

mutual

inductive AvpData where
  | octetString (octets : Bytes)
  | integer32 (value : Int32)
  | integer64 (value : Int64)
  | unsigned32 (value : UInt32)
  | unsigned64 (value : UInt64)
  | float32 (bits : UInt32)
  | float64 (bits : UInt64)
  | address (addr : IpAddr)
  | utf8String (text : String)
  | diameterIdentity (text : String)
  | diameterUri (text : String)
  | time (seconds : UInt32)
  | grouped (avps : List Avp)
  | enumerated (value : Int32)
  | raw (octets : Bytes)

structure Avp where
  code : UInt32
  flags : UInt8
  vendorId : Option UInt32
  data : AvpData

end

inductive AvpProblem where
  /-- `AVP length {avp_len} is less than header size {header_len}` -/
  | lengthBelowHeader (avpLen headerLen : ℕ)
  /-- `AVP {code} data {other:?} cannot be parsed as Grouped` -/
  | notGrouped (code : UInt32) (other : AvpData)

inductive DiameterError where
  | invalidAvp (problem : AvpProblem)
  | bufferTooSmall (needed available : ℕ)
  | protocol (text : String)
  | missingAvp (text : String)
  | requestTimeout (command : UInt32) (seconds : ℕ)
  | io (text : String)

abbrev Decoding := BufferReading DiameterError

def putU32 (value : UInt32) : Bytes := beOctets 4 value.toNat

def putU24 (value : ℕ) : Bytes :=
  beOctets 1 ((value >>> 16) &&& 0xFF) ++ beOctets 2 (value &&& 0xFFFF)

def getU8 : Decoding UInt8 := do
  let value ← getUint 1
  pure (UInt8.ofNat value)

def getU32 : Decoding UInt32 := do
  let value ← getUint 4
  pure (UInt32.ofNat value)

def getU24 : Decoding ℕ := do
  let high ← getUint 1
  let low ← getUint 2
  pure ((high <<< 16) ||| low)

namespace avp_flags

def VENDOR : UInt8 := 0x80

def MANDATORY : UInt8 := 0x40

end avp_flags

def AVP_HEADER_SIZE : ℕ := 8

def AVP_HEADER_SIZE_VENDOR : ℕ := 12

def Avp.mandatory (code : UInt32) (data : AvpData) : Avp :=
  ⟨code, avp_flags.MANDATORY, none, data⟩

def Avp.vendorMandatory (code vendorId : UInt32) (data : AvpData) : Avp :=
  ⟨code, avp_flags.VENDOR ||| avp_flags.MANDATORY, some vendorId, data⟩

def Avp.isVendorSpecific (avp : Avp) : Bool := avp.flags &&& avp_flags.VENDOR != 0

def headerLen (isVendor : Bool) : ℕ :=
  if isVendor then AVP_HEADER_SIZE_VENDOR else AVP_HEADER_SIZE

def padding (dataLen : ℕ) : ℕ := (4 - dataLen % 4) % 4

mutual

def AvpData.encodedLen : AvpData → ℕ
  | .octetString octets | .raw octets => octets.length
  | .integer32 _ | .unsigned32 _ | .enumerated _ => 4
  | .integer64 _ | .unsigned64 _ => 8
  | .float32 _ | .time _ => 4
  | .float64 _ => 8
  | .address (.v4 _) => 6
  | .address (.v6 _) => 18
  | .utf8String text | .diameterIdentity text | .diameterUri text => text.utf8ByteSize
  | .grouped avps => encodedLenSum avps

def Avp.encodedLen : Avp → ℕ
  | ⟨_, flags, _, data⟩ =>
    let total := headerLen (flags &&& avp_flags.VENDOR != 0) + data.encodedLen
    (total + 3) - (total + 3) % 4

def encodedLenSum : List Avp → ℕ
  | [] => 0
  | avp :: avps => avp.encodedLen + encodedLenSum avps

end

mutual

def AvpData.encode : AvpData → Bytes
  | .octetString octets | .raw octets => octets
  | .integer32 value | .enumerated value => putU32 value.toUInt32
  | .integer64 value => beOctets 8 value.toUInt64.toNat
  | .unsigned32 value => putU32 value
  | .unsigned64 value => beOctets 8 value.toNat
  | .float32 bits => putU32 bits
  | .float64 bits => beOctets 8 bits.toNat
  | .time seconds => putU32 seconds
  | .address (.v4 address) => beOctets 2 1 ++ putU32 address
  | .address (.v6 address) => beOctets 2 2 ++ beOctets 16 address.toNat
  | .utf8String text | .diameterIdentity text | .diameterUri text => asBytes text
  | .grouped avps => encodeAll avps

def Avp.encode : Avp → Bytes
  | ⟨code, flags, vendorId, data⟩ =>
    let dataLen := data.encodedLen
    let avpLen := headerLen (flags &&& avp_flags.VENDOR != 0) + dataLen
    putU32 code ++ (beOctets 1 flags.toNat ++ (putU24 avpLen ++
      ((vendorId.map putU32).getD [] ++ (data.encode ++ List.replicate (padding dataLen) 0))))

def encodeAll : List Avp → Bytes
  | [] => []
  | avp :: avps => avp.encode ++ encodeAll avps

end

def decodeVendorId (isVendor : Bool) : Decoding (Option UInt32) :=
  if isVendor then do
    require 4 (.bufferTooSmall 4)
    let vendorId ← getU32
    pure (some vendorId)
  else pure none

def decodeData (dataLen : ℕ) : Decoding Bytes := do
  require dataLen (.bufferTooSmall dataLen)
  let dataBytes ← copyToBytes dataLen
  advanceWithin (padding dataLen)
  pure dataBytes

def Avp.decode : Decoding Avp := do
  require AVP_HEADER_SIZE (.bufferTooSmall AVP_HEADER_SIZE)
  let code ← getU32
  let flags ← getU8
  let avpLen ← getU24
  let isVendor := flags &&& avp_flags.VENDOR != 0
  Reading.refuse (avpLen < headerLen isVendor)
    (.refused (.invalidAvp (.lengthBelowHeader avpLen (headerLen isVendor))))
  let vendorId ← decodeVendorId isVendor
  let dataLen ← subtract avpLen (headerLen isVendor)
  let dataBytes ← decodeData dataLen
  pure ⟨code, flags, vendorId, .raw dataBytes⟩

/-- `while buf.has_remaining() { avps.push(Avp::decode(&mut buf)?) }` -/
def decodeAll : Decoding (List Avp) := Reading.many id Avp.decode

namespace Avp

variable (avp : Avp)

def asOctetString : Option Bytes :=
  match avp.data with
  | .octetString octets | .raw octets => some octets
  | _ => none

def asU32 : Option UInt32 :=
  match avp.data with
  | .unsigned32 value => some value
  | .enumerated value => some value.toUInt32
  | .raw octets =>
    if 4 ≤ octets.length then some (UInt32.ofNat (beValue (octets.take 4))) else none
  | _ => none

def asU64 : Option UInt64 :=
  match avp.data with
  | .unsigned64 value => some value
  | .raw octets =>
    if 8 ≤ octets.length then some (UInt64.ofNat (beValue (octets.take 8))) else none
  | _ => none

def asI32 : Option Int32 :=
  match avp.data with
  | .integer32 value | .enumerated value => some value
  | .raw octets =>
    if 4 ≤ octets.length then some (UInt32.ofNat (beValue (octets.take 4))).toInt32 else none
  | _ => none

def asUtf8String : Option String :=
  match avp.data with
  | .utf8String text | .diameterIdentity text | .diameterUri text => some text
  | .raw octets => fromUtf8 octets
  | _ => none

def parseGrouped : Except (Fault DiameterError) (List Avp) :=
  match avp.data with
  | .grouped avps => .ok avps
  | .octetString octets | .raw octets => (decodeAll octets).map Prod.fst
  | other => .error (.refused (.invalidAvp (.notGrouped avp.code other)))

def addressOf (octets : Bytes) : Option IpAddr :=
  let rest := octets.drop 2
  match beValue (octets.take 2) with
  | 1 =>
    if 4 ≤ rest.length then some (.v4 (UInt32.ofNat (beValue (rest.take 4)))) else none
  | 2 =>
    if 16 ≤ rest.length then some (.v6 (BitVec.ofNat 128 (beValue (rest.take 16)))) else none
  | _ => none

def asAddress : Option IpAddr :=
  match avp.data with
  | .address addr => some addr
  | .raw octets => if 6 ≤ octets.length then addressOf octets else none
  | _ => none

end Avp

def findAvp (avps : List Avp) (code : UInt32) : Option Avp :=
  avps.find? (·.code == code)

def DIAMETER_VERSION : UInt8 := 1

def DIAMETER_HEADER_SIZE : ℕ := 20

namespace cmd_flags

def REQUEST : UInt8 := 0x80

def PROXIABLE : UInt8 := 0x40

def ERROR : UInt8 := 0x20

end cmd_flags

structure DiameterHeader where
  version : UInt8
  length : UInt32
  flags : UInt8
  commandCode : UInt32
  applicationId : UInt32
  hopByHopId : UInt32
  endToEndId : UInt32
  deriving DecidableEq

namespace DiameterHeader

variable (header : DiameterHeader)

def newRequest (commandCode applicationId : UInt32) : DiameterHeader where
  version := DIAMETER_VERSION
  length := UInt32.ofNat DIAMETER_HEADER_SIZE
  flags := cmd_flags.REQUEST ||| cmd_flags.PROXIABLE
  commandCode := commandCode
  applicationId := applicationId
  hopByHopId := 0
  endToEndId := 0

def newAnswer (request : DiameterHeader) : DiameterHeader where
  version := DIAMETER_VERSION
  length := UInt32.ofNat DIAMETER_HEADER_SIZE
  flags := cmd_flags.PROXIABLE
  commandCode := request.commandCode
  applicationId := request.applicationId
  hopByHopId := request.hopByHopId
  endToEndId := request.endToEndId

def isRequest : Bool := header.flags &&& cmd_flags.REQUEST != 0

def isAnswer : Bool := !header.isRequest

def setError : DiameterHeader :=
  { header with flags := header.flags ||| cmd_flags.ERROR }

def encode : Bytes :=
  beOctets 1 header.version.toNat ++ (putU24 header.length.toNat ++
    (beOctets 1 header.flags.toNat ++ (putU24 header.commandCode.toNat ++
      (putU32 header.applicationId ++ (putU32 header.hopByHopId ++ putU32 header.endToEndId)))))

def decode : Decoding DiameterHeader := do
  require DIAMETER_HEADER_SIZE (.bufferTooSmall DIAMETER_HEADER_SIZE)
  let version ← getU8
  Reading.refuse (version ≠ DIAMETER_VERSION)
    (.refused (.protocol s!"Unsupported Diameter version: {version}"))
  let length ← getU24
  let flags ← getU8
  let commandCode ← getU24
  let applicationId ← getU32
  let hopByHopId ← getU32
  let endToEndId ← getU32
  pure ⟨version, UInt32.ofNat length, flags, UInt32.ofNat commandCode, applicationId, hopByHopId,
    endToEndId⟩

end DiameterHeader

structure DiameterMessage where
  header : DiameterHeader
  avps : List Avp

namespace DiameterMessage

variable (message : DiameterMessage)

def newRequest (commandCode applicationId : UInt32) : DiameterMessage :=
  ⟨.newRequest commandCode applicationId, []⟩

def newAnswer (request : DiameterMessage) : DiameterMessage := ⟨.newAnswer request.header, []⟩

def addAvp (avp : Avp) : DiameterMessage :=
  { message with avps := message.avps ++ [avp] }

def findAvp (message : DiameterMessage) (code : UInt32) : Option Avp :=
  Diameter.findAvp message.avps code

def originHost : Option String :=
  (message.findAvp avp_code.ORIGIN_HOST).bind Avp.asUtf8String

def originRealm : Option String :=
  (message.findAvp avp_code.ORIGIN_REALM).bind Avp.asUtf8String

def resultCode : Option UInt32 :=
  (message.findAvp avp_code.RESULT_CODE).bind Avp.asU32

def calculateLength : UInt32 :=
  UInt32.ofNat (DIAMETER_HEADER_SIZE + encodedLenSum message.avps)

def encode (message : DiameterMessage) : Bytes :=
  { message.header with length := message.calculateLength }.encode ++ encodeAll message.avps

def decode : Decoding DiameterMessage := do
  let header ← DiameterHeader.decode
  let avpLen ← subtract header.length.toNat DIAMETER_HEADER_SIZE
  require avpLen (.bufferTooSmall avpLen)
  let avpBuf ← copyToBytes avpLen
  let avps ← readWhole decodeAll avpBuf
  pure ⟨header, avps⟩

end DiameterMessage

namespace base_cmd

def CAPABILITIES_EXCHANGE : UInt32 := 257

def DEVICE_WATCHDOG : UInt32 := 280

def DISCONNECT_PEER : UInt32 := 282

end base_cmd

def BASE_APPLICATION_ID : UInt32 := 0

end NextGCore.Diameter
