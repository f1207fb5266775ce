import NextGCore.Library.Fields
import NextGCore.Nas.Common

/-!
# Information elements of 5GMM messages

The decoders of the elements that begin with a length.  Each reads its layout from the rest of the
message; how far it gets is its own matter, and what the length declares is looked at as the
decoder pleases.  `checks` says whether the crate is built with overflow checks.
-/

namespace NextGCore.Nas

open Library

variable (checks : Bool)

abbrev NasReading := BufferReading NasError

/-- `if buf.remaining() < needed { return Err(NasError::BufferTooShort { .. }) }` -/
def enough (needed : ℕ) : NasReading Unit := require needed (NasError.bufferTooShort needed)

def advance (count : ℕ) : NasReading Unit := do
  let _ ← copyToBytes count
  pure ()

def subUsize (minuend subtrahend : ℕ) : NasReading ℕ := fun octets =>
  if minuend < subtrahend then
    if checks then .error .panic else .ok (minuend + 2 ^ 64 - subtrahend, octets)
  else .ok (minuend - subtrahend, octets)

def PlmnId.decode : NasReading PlmnId := do
  enough 3
  let b0 ← getU8
  let b1 ← getU8
  let b2 ← getU8
  let mnc3 := (b1 >>> 4) &&& 0x0F
  let mncLen := if mnc3 = 0x0F then 2 else 3
  pure
    { mcc := #v[b0 &&& 0x0F, (b0 >>> 4) &&& 0x0F, b1 &&& 0x0F]
      mnc := #v[b2 &&& 0x0F, (b2 >>> 4) &&& 0x0F, if mncLen = 3 then mnc3 else 0]
      mncLen }

structure Tai where
  plmnId : PlmnId
  tac : Vector UInt8 3

def Tai.decode : NasReading Tai := do
  let plmnId ← PlmnId.decode
  enough 3
  let tac ← copyToSlice 3
  pure { plmnId, tac }

structure SNssai where
  sst : UInt8
  sd : Option (Vector UInt8 3)
  mappedHplmnSst : Option UInt8
  mappedHplmnSd : Option (Vector UInt8 3)

def SNssai.decode : NasReading SNssai := do
  enough 2
  let len ← getU8
  enough len.toNat
  let sst ← getU8
  let remaining ← subUsize checks len.toNat 1
  let sd ← givenIf (3 ≤ remaining) (copyToSlice 3)
  let remaining := remaining - 3
  let mappedHplmnSst ← givenIf (1 ≤ remaining) getU8
  let remaining := remaining - 1
  let mappedHplmnSd ← givenIf (3 ≤ remaining) (copyToSlice 3)
  pure { sst, sd, mappedHplmnSst, mappedHplmnSd }

def SNssai.encodedContentLen (snssai : SNssai) : ℕ :=
  1 + (if snssai.sd.isSome then 3 else 0) + (if snssai.mappedHplmnSst.isSome then 1 else 0) +
    if snssai.mappedHplmnSd.isSome then 3 else 0

structure GprsTimer2 where
  length : UInt8
  value : UInt8

def GprsTimer2.decode : NasReading GprsTimer2 := do
  enough 2
  let length ← getU8
  let value ← getU8
  pure { length, value }

structure GprsTimer3 where
  length : UInt8
  unit : UInt8
  value : UInt8

def GprsTimer3.decode : NasReading GprsTimer3 := do
  enough 2
  let length ← getU8
  let byte ← getU8
  pure { length, unit := (byte >>> 5) &&& 0x07, value := byte &&& 0x1F }

structure UeSecurityCapability where
  length : UInt8
  ea : UInt8
  ia : UInt8
  eea : Option UInt8
  eia : Option UInt8

/-- `if length >= bound && buf.remaining() >= 1 { Some(buf.get_u8()) }` -/
def algorithmsIf (length : UInt8) (bound : UInt8) : NasReading (Option UInt8) :=
  if bound ≤ length then
    ifLeft 1 none (do
      let algorithms ← getU8
      pure (some algorithms))
  else pure none

def UeSecurityCapability.decode : NasReading UeSecurityCapability := do
  enough 3
  let length ← getU8
  let ea ← getU8
  let ia ← getU8
  let eea ← algorithmsIf length 3
  let eia ← algorithmsIf length 4
  pure { length, ea, ia, eea, eia }

inductive MobileIdentityType where
  | noIdentity
  | suci
  | fiveGGuti
  | imei
  | fiveGSTmsi
  | imeisv
  | macAddress
  | eui64

def MobileIdentityType.tryFrom (value : UInt8) : Except (Fault NasError) MobileIdentityType :=
  if value = 0 then .ok .noIdentity
  else if value = 1 then .ok .suci
  else if value = 2 then .ok .fiveGGuti
  else if value = 3 then .ok .imei
  else if value = 4 then .ok .fiveGSTmsi
  else if value = 5 then .ok .imeisv
  else if value = 6 then .ok .macAddress
  else if value = 7 then .ok .eui64
  else .error (.refused (.invalidMobileIdentityType value))

structure Suci where
  supiFormat : UInt8
  plmnId : PlmnId
  routingIndicator : Vector UInt8 2
  protectionSchemeId : UInt8
  homeNetworkPki : UInt8
  schemeOutput : List UInt8

structure FiveGGuti where
  plmnId : PlmnId
  amfRegionId : UInt8
  amfSetId : UInt16
  amfPointer : UInt8
  tmsi : UInt32

structure FiveGSTmsi where
  amfSetId : UInt16
  amfPointer : UInt8
  tmsi : UInt32

structure EquipmentIdentity where
  digits : List UInt8

inductive MobileIdentity where
  | noIdentity
  | suci (suci : Suci)
  | fiveGGuti (guti : FiveGGuti)
  | imei (imei : EquipmentIdentity)
  | fiveGSTmsi (tmsi : FiveGSTmsi)
  | imeisv (imeisv : EquipmentIdentity)

def peekSupiFormat : NasReading UInt8 := fun octets =>
  .ok (match octets with
    | [] => 0
    | octet :: _ => (octet >>> 4) &&& 0x07, octets)

/-- `if length < needed { return Err(NasError::BufferTooShort { .. }) }` -/
def longEnough (needed length : ℕ) : NasReading Unit :=
  Reading.refuse (length < needed) (.refused (.bufferTooShort needed length))

def Suci.decodeContent (length : ℕ) : NasReading Suci := do
  let supiFormat ← peekSupiFormat
  if supiFormat = 1 then do
    longEnough 1 length
    let _ ← getU8
    let naiLen := length - 1
    enough naiLen
    let schemeOutput ← copyToBytes naiLen
    pure
      { supiFormat, plmnId := ⟨#v[0, 0, 0], #v[0, 0, 0], 0⟩, routingIndicator := #v[0, 0]
        protectionSchemeId := 0, homeNetworkPki := 0, schemeOutput }
  else do
    longEnough 8 length
    let firstByte ← getU8
    let plmnId ← PlmnId.decode
    let routingIndicator ← copyToSlice 2
    let protectionSchemeId ← getU8
    let homeNetworkPki ← getU8
    let schemeOutput ← copyToBytes (length - 8)
    pure
      { supiFormat := (firstByte >>> 4) &&& 0x07, plmnId, routingIndicator, protectionSchemeId
        homeNetworkPki, schemeOutput }

def FiveGGuti.decodeContent (length : ℕ) : NasReading FiveGGuti := do
  longEnough 11 length
  let _ ← getU8
  let plmnId ← PlmnId.decode
  let amfRegionId ← getU8
  let amfId ← getU16
  let tmsi ← getU32
  pure
    { plmnId, amfRegionId, amfSetId := (amfId >>> 6) &&& 0x3FF
      amfPointer := (amfId &&& 0x3F).toUInt8, tmsi }

def FiveGSTmsi.decodeContent (length : ℕ) : NasReading FiveGSTmsi := do
  longEnough 7 length
  let _ ← getU8
  let amfId ← getU16
  let tmsi ← getU32
  pure { amfSetId := (amfId >>> 6) &&& 0x3FF, amfPointer := (amfId &&& 0x3F).toUInt8, tmsi }

def EquipmentIdentity.decodeContent (octetCount digitCount length : ℕ) :
  NasReading EquipmentIdentity := do
  longEnough (1 + octetCount) length
  let firstByte ← getU8
  let bytes ← Reading.times getU8 octetCount
  let digits := ((firstByte >>> 4) &&& 0x0F) ::
    bytes.flatMap fun byte => [byte &&& 0x0F, (byte >>> 4) &&& 0x0F]
  pure { digits := digits.take digitCount }

def decodeImei (length : ℕ) : NasReading EquipmentIdentity :=
  EquipmentIdentity.decodeContent 7 15 length

def decodeImeisv (length : ℕ) : NasReading EquipmentIdentity :=
  EquipmentIdentity.decodeContent 8 16 length

def peekByte : NasReading UInt8 := fun octets =>
  match octets with
  | [] => .error .panic
  | octet :: _ => .ok (octet, octets)

def MobileIdentity.decode : NasReading MobileIdentity := do
  enough 3
  let length ← getU16
  let length := length.toNat
  enough length
  let typeByte ← peekByte
  let idType ← Reading.lift (MobileIdentityType.tryFrom (typeByte &&& 0x07))
  match idType with
  | .noIdentity => do
    advance length
    pure .noIdentity
  | .suci => do
    let suci ← Suci.decodeContent length
    pure (.suci suci)
  | .fiveGGuti => do
    let guti ← FiveGGuti.decodeContent length
    pure (.fiveGGuti guti)
  | .imei => do
    let imei ← decodeImei length
    pure (.imei imei)
  | .fiveGSTmsi => do
    let tmsi ← FiveGSTmsi.decodeContent length
    pure (.fiveGSTmsi tmsi)
  | .imeisv => do
    let imeisv ← decodeImeisv length
    pure (.imeisv imeisv)
  | .macAddress | .eui64 => fail (.invalidMobileIdentityType (typeByte &&& 0x07))

structure Nssai where
  length : UInt8
  sNssaiList : List SNssai

/-- `while remaining > 0 { .. remaining -= 1 + s_nssai.encoded_content_len(); .. }`, at most
`turns` times. -/
def sNssaisWithin (checks : Bool) : ℕ → ℕ → NasReading (List SNssai)
  | 0, _ => pure []
  | turns + 1, remaining =>
    if remaining = 0 then pure []
    else do
      let sNssai ← SNssai.decode checks
      let remaining ← subUsize checks remaining (1 + sNssai.encodedContentLen)
      let sNssaiList ← sNssaisWithin checks turns remaining
      pure (sNssai :: sNssaiList)

/-- A turn takes octets off the buffer, so it has at most as many as there are, and the one that
finds none. -/
def sNssais (remaining : ℕ) : NasReading (List SNssai) := fun octets =>
  sNssaisWithin checks (octets.length + 1) remaining octets

def Nssai.decode : NasReading Nssai := do
  enough 1
  let length ← getU8
  enough length.toNat
  let sNssaiList ← sNssais checks length.toNat
  pure { length, sNssaiList }

structure PduSessionStatus where
  length : UInt8
  psi : UInt16

/-- `if length > size { buf.advance((length - size) as usize) }` -/
def skipPast (length : UInt8) (size : ℕ) : NasReading Unit :=
  if size < length.toNat then advance (length.toNat - size) else pure ()

def PduSessionStatus.decode : NasReading PduSessionStatus := do
  enough 3
  let length ← getU8
  let psi ← copyToBytes 2
  skipPast length 2
  -- `buf.get_u16_le()`
  pure { length, psi := UInt16.ofNat (beValue psi.reverse) }

structure SessionAmbr where
  length : UInt8
  dlUnit : UInt8
  dlValue : UInt16
  ulUnit : UInt8
  ulValue : UInt16

def SessionAmbr.decode : NasReading SessionAmbr := do
  enough 7
  let length ← getU8
  let dlUnit ← getU8
  let dlValue ← getU16
  let ulUnit ← getU8
  let ulValue ← getU16
  skipPast length 6
  pure { length, dlUnit, dlValue, ulUnit, ulValue }

structure PduAddress where
  pduSessionType : UInt8
  address : List UInt8

def PduAddress.decode : NasReading PduAddress := do
  enough 2
  let length ← getU8
  enough length.toNat
  let pduSessionType ← getU8
  let address ← if 1 < length.toNat then copyToBytes (length.toNat - 1) else pure []
  pure { pduSessionType := pduSessionType &&& 0x07, address }

inductive TaiListElement where
  | partialTaiList0 (plmnId : PlmnId) (tacs : List (Vector UInt8 3))
  | partialTaiList1 (plmnId : PlmnId) (tac : Vector UInt8 3)
  | partialTaiList2 (tais : List Tai)

structure TaiList where
  length : UInt8
  elements : List TaiListElement

def takeDeclared (remaining n : ℕ) : NasReading ℕ :=
  if remaining < n then fail (.decodingError "Truncated TAI list: length underflow")
  else pure (remaining - n)

def timesDeclared {Item : Type} (size : ℕ) (read : NasReading Item) :
    ℕ → ℕ → NasReading (List Item × ℕ)
  | 0, remaining => pure ([], remaining)
  | num + 1, remaining => do
    let remaining ← takeDeclared remaining size
    let item ← read
    let (items, remaining) ← timesDeclared size read num remaining
    pure (item :: items, remaining)

def decodeTac : NasReading (Vector UInt8 3) := do
  enough 3
  copyToSlice 3

def TaiListElement.decode (remaining : ℕ) : NasReading (TaiListElement × ℕ) := do
  let remaining ← takeDeclared remaining 1
  enough 1
  let typeByte ← getU8
  let listType := (typeByte >>> 5) &&& 0x03
  let num := (typeByte &&& 0x1F).toNat + 1
  if listType = 0 then do
    let remaining ← takeDeclared remaining 3
    let plmnId ← PlmnId.decode
    let (tacs, remaining) ← timesDeclared 3 decodeTac num remaining
    pure (.partialTaiList0 plmnId tacs, remaining)
  else if listType = 1 then do
    let remaining ← takeDeclared remaining 3
    let plmnId ← PlmnId.decode
    let remaining ← takeDeclared remaining 3
    let tac ← decodeTac
    pure (.partialTaiList1 plmnId tac, remaining)
  else if listType = 2 then do
    let (tais, remaining) ← timesDeclared 6 Tai.decode num remaining
    pure (.partialTaiList2 tais, remaining)
  else fail (.decodingError "Invalid TAI list type")

/-- `while remaining > 0`; every turn takes at least one octet of what remains. -/
def taiListElements : ℕ → ℕ → NasReading (List TaiListElement)
  | 0, _ => pure []
  | turns + 1, remaining =>
    if remaining = 0 then pure []
    else do
      let (element, remaining) ← TaiListElement.decode remaining
      let elements ← taiListElements turns remaining
      pure (element :: elements)

def TaiList.decode : NasReading TaiList := do
  enough 1
  let length ← getU8
  enough length.toNat
  let elements ← taiListElements length.toNat length.toNat
  pure { length, elements }

end NextGCore.Nas
