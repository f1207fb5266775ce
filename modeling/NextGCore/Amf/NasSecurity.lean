import NextGCore.Nas.Security

/-!
# NAS security in the AMF

`nas_security.rs` of the AMF has every operation twice: a hand-written one
(`legacy`) and one that delegates to the NAS crate (`nextgcore`).  A flag of
the UE record chooses between them.  All operations answer with the record
they leave and their result.
-/

namespace NextGCore.Amf

open Crypt Nas

structure AmfUe where
  useNextgcoreNasSecurity : Bool
  securityContextAvailable : Bool
  macFailed : Bool
  selectedEncAlgorithm : UInt8
  selectedIntAlgorithm : UInt8
  knasEnc : Key
  knasInt : Key
  accessType : UInt8
  dlCount : UInt32
  ulCount : UInt32
  ulCountEstablished : Bool

variable (ue : AmfUe)

/-- A record on 3GPP access with 128-NEA1 and 128-NIA2 selected and COUNT 5
verified last. -/
def AmfUe.sample : AmfUe where
  useNextgcoreNasSecurity := false
  securityContextAvailable := true
  macFailed := false
  selectedEncAlgorithm := 1
  selectedIntAlgorithm := 2
  knasEnc := Vector.replicate 16 7
  knasInt := Vector.replicate 16 7
  accessType := 1
  dlCount := 0
  ulCount := 5
  ulCountEstablished := true

inductive NasSecurityError where
  | messageTooShort
  | invalidHeader
  | emptyPayload
  | macVerificationFailed
  deriving DecidableEq

namespace Direction

def uplink : UInt8 := 0

def downlink : UInt8 := 1

end Direction

structure SecurityHeaderType where
  integrityProtected : Bool := false
  newSecurityContext : Bool := false
  ciphered : Bool := false

def SecurityHeaderType.fromByte (headerType : UInt8) : SecurityHeaderType :=
  match headerType with
  | 0 => {}
  | 1 => { integrityProtected := true }
  | 2 => { integrityProtected := true, ciphered := true }
  | 3 => { integrityProtected := true, newSecurityContext := true }
  | 4 => { integrityProtected := true, newSecurityContext := true, ciphered := true }
  | _ => {}

structure NasSecurityHeader where
  extendedProtocolDiscriminator : UInt8
  securityHeaderType : UInt8
  messageAuthenticationCode : Vector UInt8 4
  sequenceNumber : UInt8

def NasSecurityHeader.decode : Bytes → Option NasSecurityHeader
  | epd :: sht :: m0 :: m1 :: m2 :: m3 :: sqn :: _ => some ⟨epd, sht, octets4 m0 m1 m2 m3, sqn⟩
  | _ => none

def NasSecurityHeader.encode (header : NasSecurityHeader) : Bytes :=
  header.extendedProtocolDiscriminator :: header.securityHeaderType ::
    (header.messageAuthenticationCode.toList ++ [header.sequenceNumber])

def bearer (accessType : UInt8) : UInt8 := if accessType = 0 then 1 else accessType

section Primitives

variable (crypt : Primitives)

def nasEncrypt (algorithm : UInt8) (key : Key) (count : UInt32)
  (accessType direction : UInt8) (message : Bytes) : Bytes :=
  if message.isEmpty then
    message
  else
    let bearer := bearer accessType
    match algorithm with
    | 1 => snow3gF8 crypt key count bearer.toUInt32 direction.toUInt32 message
        (bitLength message)
    | 2 =>
      let iv := countIv count ((bearer <<< 3) ||| ((direction &&& 0x01) <<< 2))
      match aesCtr128Encrypt crypt key iv message message with
      | .ok output => output
      | .error _ => message
    -- the output buffer is the message itself
    | 3 => zucEea3 crypt key count bearer.toUInt32 direction.toUInt32
        (bitLength message) message message
    | _ => message

def nasMacCalculate (algorithm : UInt8) (key : Key) (count : UInt32)
  (accessType direction : UInt8) (message : Bytes) : Vector UInt8 4 :=
  let bearer := bearer accessType
  match algorithm with
  | 1 => crypt.snow3gF9 key count (bearer.toUInt32 <<< 27) direction.toUInt32 message
      (UInt64.ofNat (message.length * 8))
  | 2 =>
    let input := (toBeBytes count).toList ++
      [(bearer <<< 3) ||| ((direction &&& 0x01) <<< 2), 0, 0, 0] ++ message
    firstFour (crypt.aesCmacCalculate key input)
  | 3 => toBeBytes (crypt.zucEia3 key count bearer.toUInt32 direction.toUInt32
      (bitLength message) message)
  | _ => zeros4

end Primitives

def SecurityHeaderType.disableNull (headerType : SecurityHeaderType) (ue : AmfUe) :
  SecurityHeaderType :=
  { headerType with
    ciphered := headerType.ciphered && ue.selectedEncAlgorithm != 0
    integrityProtected := headerType.integrityProtected && ue.selectedIntAlgorithm != 0 }

def nasCountFromU32 (word : UInt32) : NasCount :=
  NasCount.new (word >>> 8) (word &&& 0xff).toUInt8

def nasCountToU32 (count : NasCount) : UInt32 := count.value &&& 0x00ffffff

/-- The context that the adapters hand to the NAS crate: integrity that is
switched off is handed over as the null algorithm. -/
def nasContext (headerType : SecurityHeaderType) : NasSecurityContext :=
  NasSecurityContext.new
    { ciphering := ue.selectedEncAlgorithm
      integrity := if headerType.integrityProtected then ue.selectedIntAlgorithm else 0 }
    ue.knasEnc ue.knasInt

section Encode

variable (crypt : Primitives) (ue : AmfUe)

def nas5gsSecurityEncodeLegacy (message : Bytes) (securityHeaderType : UInt8) :
  AmfUe × Option Bytes :=
  if securityHeaderType = 0 then
    (ue, some message)
  else
    let headerType := SecurityHeaderType.fromByte securityHeaderType
    -- the replay baseline of the uplink stays as it is
    let ue := if headerType.newSecurityContext then { ue with dlCount := 0, ulCount := 0 } else ue
    let headerType := headerType.disableNull ue
    let sequenceNumber := (ue.dlCount &&& 0xff).toUInt8
    let protectedMessage :=
      if headerType.ciphered then
        nasEncrypt crypt ue.selectedEncAlgorithm ue.knasEnc ue.dlCount ue.accessType
          Direction.downlink message
      else message
    let mac :=
      if headerType.integrityProtected then
        nasMacCalculate crypt ue.selectedIntAlgorithm ue.knasInt ue.dlCount ue.accessType
          Direction.downlink (sequenceNumber :: protectedMessage)
      else zeros4
    let header : NasSecurityHeader := ⟨0x7e, securityHeaderType, mac, sequenceNumber⟩
    ({ ue with
        dlCount := (ue.dlCount + 1) &&& 0xffffff
        securityContextAvailable := true },
      some (header.encode ++ protectedMessage))

def nas5gsSecurityEncodeNextgcore (message : Bytes) (securityHeaderType : UInt8) :
  AmfUe × Option Bytes :=
  if securityHeaderType = 0 then
    (ue, some message)
  else
    let headerType := SecurityHeaderType.fromByte securityHeaderType
    let ue := if headerType.newSecurityContext then
      { ue with dlCount := 0, ulCount := 0, ulCountEstablished := false } else ue
    let headerType := headerType.disableNull ue
    let ctx := { nasContext ue headerType with dlCount := nasCountFromU32 ue.dlCount }
    match protectNasMessage crypt ctx Direction.downlink message headerType.ciphered with
    | (_, .error _) => (ue, none)
    | (ctx, .ok protectedMessage) =>
      ({ ue with
          dlCount := nasCountToU32 ctx.dlCount
          securityContextAvailable := true },
        some (0x7e :: securityHeaderType :: protectedMessage))

def nas5gsSecurityEncode (message : Bytes) (securityHeaderType : UInt8) : AmfUe × Option Bytes :=
  if ue.useNextgcoreNasSecurity then
    nas5gsSecurityEncodeNextgcore crypt ue message securityHeaderType
  else
    nas5gsSecurityEncodeLegacy crypt ue message securityHeaderType

end Encode

def uplinkHeaderType (securityHeaderType : UInt8) : SecurityHeaderType :=
  if ue.securityContextAvailable then SecurityHeaderType.fromByte securityHeaderType else {}

/-- A header that opens a new context zeroes COUNT and forgets the replay
baseline, before anything has been verified. -/
def resetUplink (securityHeaderType : UInt8) : AmfUe :=
  if (uplinkHeaderType ue securityHeaderType).newSecurityContext then
    { ue with ulCount := 0, ulCountEstablished := false }
  else ue

def uplinkProtection (securityHeaderType : UInt8) : SecurityHeaderType :=
  (uplinkHeaderType ue securityHeaderType).disableNull ue

def legacyCandidate (stored : UInt32) (sqn : UInt8) : UInt32 :=
  let currentSqn := (stored &&& 0xff).toUInt8
  (if currentSqn > sqn then ((stored &&& 0xffff00) + 0x100) ||| sqn.toUInt32
    else (stored &&& 0xffff00) ||| sqn.toUInt32) &&& 0x00ffffff

section Decode

variable (crypt : Primitives) (ue : AmfUe)

def decodeLegacyFrame (headerType : SecurityHeaderType) (header : NasSecurityHeader)
  (payload : Bytes) : AmfUe × Except NasSecurityError Bytes :=
  let sqn := header.sequenceNumber
  let stored := ue.ulCount &&& 0x00ffffff
  let candidate := legacyCandidate stored sqn
  if headerType.integrityProtected ∧ ue.ulCountEstablished ∧ candidate ≤ stored then
    ({ ue with macFailed := true }, .error .macVerificationFailed)
  else if headerType.integrityProtected ∧
      nasMacCalculate crypt ue.selectedIntAlgorithm ue.knasInt candidate ue.accessType
        Direction.uplink (sqn :: payload) ≠ header.messageAuthenticationCode then
    ({ ue with macFailed := true }, .error .macVerificationFailed)
  else
    let ue := { ue with
      ulCount := candidate
      ulCountEstablished := headerType.integrityProtected || ue.ulCountEstablished }
    if headerType.ciphered then
      -- COUNT has moved by now
      if payload.isEmpty then
        (ue, .error .emptyPayload)
      else
        (ue, .ok (nasEncrypt crypt ue.selectedEncAlgorithm ue.knasEnc ue.ulCount
          ue.accessType Direction.uplink payload))
    else
      (ue, .ok payload)

def nas5gsSecurityDecodeLegacy (securityHeaderType : UInt8) (message : Bytes) :
  AmfUe × Except NasSecurityError Bytes :=
  let headerType := uplinkProtection ue securityHeaderType
  let ue := resetUplink ue securityHeaderType
  if ¬ headerType.ciphered ∧ ¬ headerType.integrityProtected then
    (ue, .ok message)
  else if message.length < 7 then
    (ue, .error .messageTooShort)
  else
    match NasSecurityHeader.decode message with
    | none => (ue, .error .invalidHeader)
    | some header => decodeLegacyFrame crypt ue headerType header (message.drop 7)

/-- `nas_5gs_security_decode_nextgcore` from the length check on; `inner` is
the frame without its first two octets. -/
def decodeNextgcoreFrame (headerType : SecurityHeaderType) (sqn : UInt8) (inner : Bytes) :
  AmfUe × Except NasSecurityError Bytes :=
  let stored := nasCountFromU32 ue.ulCount
  let candidate := stored.estimate sqn
  if ue.ulCountEstablished ∧ headerType.integrityProtected ∧ candidate.value ≤ stored.value then
    ({ ue with macFailed := true }, .error .macVerificationFailed)
  else
    let ctx := { nasContext ue headerType with ulCount := stored }
    match unprotectNasMessage crypt ctx Direction.uplink inner headerType.ciphered with
    | (ctx, .ok plain) =>
      ({ ue with ulCount := nasCountToU32 ctx.ulCount, ulCountEstablished := true }, .ok plain)
    | (_, .error .macVerificationFailed) | (_, .error .replayedSequenceNumber) =>
      ({ ue with macFailed := true }, .error .macVerificationFailed)
    | (_, .error _) => (ue, .error .invalidHeader)

def nas5gsSecurityDecodeNextgcore (securityHeaderType : UInt8) (message : Bytes) :
  AmfUe × Except NasSecurityError Bytes :=
  let headerType := uplinkProtection ue securityHeaderType
  let ue := resetUplink ue securityHeaderType
  if ¬ headerType.ciphered ∧ ¬ headerType.integrityProtected then
    (ue, .ok message)
  else if short : message.length < 7 then
    (ue, .error .messageTooShort)
  else
    decodeNextgcoreFrame crypt ue headerType message[6] (message.drop 2)

def nas5gsSecurityDecode (securityHeaderType : UInt8) (message : Bytes) :
  AmfUe × Except NasSecurityError Bytes :=
  if ue.useNextgcoreNasSecurity then
    nas5gsSecurityDecodeNextgcore crypt ue securityHeaderType message
  else
    nas5gsSecurityDecodeLegacy crypt ue securityHeaderType message

end Decode

end NextGCore.Amf
