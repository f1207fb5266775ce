import NextGCore.Sbi.Json
import NextGCore.Sepp.N32f

/-!
# PRINS messages

`prins.rs`: how a SEPP protects requests and responses, and how the other SEPP verifies,
opens and reassembles them.
-/

namespace NextGCore.Sepp

open Crypt (Bytes)
open Library Sbi

inductive IeLocation where
  | uriParam
  | header
  | body
  | multipartBinary
  | uriPath
  deriving DecidableEq

structure PlmnIdMeta where
  mcc : String
  mnc : String

def zeroPadded (width value : ℕ) : String :=
  String.ofList (List.leftpad width '0' (toString value).toList)

def parseU16 (text : String) : Option UInt16 :=
  (parseU64 text).bind fun value => if value < 2 ^ 16 then some (UInt16.ofNat value) else none

namespace PlmnIdMeta

def fromPlmn (plmn : PlmnId) : PlmnIdMeta where
  mcc := zeroPadded 3 plmn.mcc.toNat
  mnc := zeroPadded (if plmn.mncLen = 2 then 2 else 3) plmn.mnc.toNat

def matchesAny (claimed : PlmnIdMeta) (plmns : List PlmnId) : Bool :=
  match parseU16 claimed.mcc, parseU16 claimed.mnc with
  | some mcc, some mnc => plmns.any fun plmn => plmn.mcc = mcc && plmn.mnc = mnc
  | _, _ => false

end PlmnIdMeta

structure N32fMetaData where
  n32fContextId : String
  messageId : String
  authorizedIpxId : String
  senderPlmnId : Option PlmnIdMeta

structure RequestLine where
  method : String
  scheme : String
  authority : String
  path : String
  protocolVersion : String
  queryFragment : Option String
  pathQueryProtectInd : Option (List IeLocation)

inductive EncodedHttpHeaderValue where
  | plain (value : String)
  | encrypted (encBlockIndex : ℕ)

structure HttpHeader where
  header : String
  value : EncodedHttpHeaderValue

structure N32fPayloadElement where
  iePath : String
  ieValueLocation : IeLocation
  value : Json

structure DataToIntegrityProtectBlock where
  metaData : N32fMetaData
  requestLine : Option RequestLine
  statusLine : Option String
  headers : List HttpHeader
  payload : List N32fPayloadElement

structure DataToIntegrityProtectAndCipherBlock where
  dataToEncrypt : List Json

structure ModificationsBlockPayload where
  identity : String
  operations : List Json
  tag : String

structure N32fReformattedMessage where
  reformattedData : FlatJwe
  modificationsBlock : List FlatJws

structure Prins extends Jose where
  json : Codec Json
  blocks : Codec DataToIntegrityProtectBlock
  cipherBlocks : Codec DataToIntegrityProtectAndCipherBlock
  modifications : Codec ModificationsBlockPayload
  /-- `Value::to_string`. -/
  display : Json → String

structure Flattened where
  dataToEncrypt : List Json
  elements : List N32fPayloadElement

namespace Flattened

def encrypt (flat : Flattened) (pointer : String) (value : Json) : Flattened where
  dataToEncrypt := flat.dataToEncrypt ++ [value]
  elements := flat.elements ++
    [⟨pointer, .body, .object [("encBlockIndex", .ofNat flat.dataToEncrypt.length)]⟩]

def clear (flat : Flattened) (pointer : String) (value : Json) : Flattened :=
  { flat with elements := flat.elements ++ [⟨pointer, .body, value⟩] }

end Flattened

mutual

def flattenBodyLeaves (encryptPaths : List String) : Json → String → Flattened → Flattened
  | value, pointer, flat =>
    if pointer ∈ encryptPaths then flat.encrypt pointer value
    else
      match value with
      | .object members => flattenMembers encryptPaths members pointer flat
      | leaf => flat.clear pointer leaf

def flattenMembers (encryptPaths : List String) :
    List (String × Json) → String → Flattened → Flattened
  | [], _, flat => flat
  | member :: rest, pointer, flat =>
    flattenMembers encryptPaths rest pointer
      (flattenBodyLeaves encryptPaths member.2 (childPointer pointer member.1) flat)

end

/-- The payload of a message with this body; without leaves the body is carried whole. -/
def payloadOf (prins : Prins) (encryptPaths : List String) : Option Bytes → Flattened
  | none => ⟨[], []⟩
  | some body =>
    match prins.json.read body with
    | .ok json =>
      let flat := flattenBodyLeaves encryptPaths json "" ⟨[], []⟩
      if flat.elements.isEmpty then flat.clear "" json else flat
    | .error _ => ⟨[], [⟨"", .multipartBinary, .string (prins.b64urlEncode body)⟩]⟩

def splitAtText (separator url : String) : Option (String × String) :=
  (splitOnce separator.toList url.toList).map fun parts =>
    (String.ofList parts.1, String.ofList parts.2)

def buildRequestLine (method url : String) : RequestLine :=
  let schemeAndRest := (splitAtText "://" url).getD ("", url)
  let authorityAndRest : String × String :=
    if schemeAndRest.1 = "" then ("", schemeAndRest.2)
    else
      match splitAtText "/" schemeAndRest.2 with
      | some parts => (parts.1, "/" ++ parts.2)
      | none => (schemeAndRest.2, "")
  let pathAndQuery : String × Option String :=
    match splitAtText "?" authorityAndRest.2 with
    | some parts => (parts.1, some parts.2)
    | none => (authorityAndRest.2, none)
  { method := method
    scheme := schemeAndRest.1
    authority := authorityAndRest.1
    path := pathAndQuery.1
    protocolVersion := "2"
    queryFragment := pathAndQuery.2
    pathQueryProtectInd := none }

def joinRequestLine (line : RequestLine) : String :=
  let start :=
    if line.scheme ≠ "" then line.scheme ++ "://" ++ line.authority else line.authority
  start ++ line.path ++ (line.queryFragment.elim "" fun query => "?" ++ query)

def extractServiceName (url : String) : String :=
  let path := (url.toList.takeWhile (· ≠ '?')).dropWhile (· = '/')
  String.ofList (path.takeWhile (· ≠ '/'))

namespace Prins

variable (prins : Prins) (ctx : PrinsContext)

def metaDataTo (messageId : String) : N32fMetaData where
  n32fContextId := ctx.peerContextId
  messageId := messageId
  authorizedIpxId := "NULL"
  senderPlmnId := ctx.localPlmnIds.head?.map PlmnIdMeta.fromPlmn

def plainHeaders (headers : List (String × String)) : List HttpHeader :=
  headers.map fun header => ⟨header.1, .plain header.2⟩

def requestBlock (messageId method url : String) (headers : List (String × String))
  (payload : List N32fPayloadElement) : DataToIntegrityProtectBlock where
  metaData := metaDataTo ctx messageId
  requestLine := some (buildRequestLine method url)
  statusLine := none
  headers := plainHeaders headers
  payload := payload

def responseBlock (messageId : String) (statusCode : UInt16) (headers : List (String × String))
  (payload : List N32fPayloadElement) : DataToIntegrityProtectBlock where
  metaData := metaDataTo ctx messageId
  requestLine := none
  statusLine := some (toString statusCode.toNat)
  headers := plainHeaders headers
  payload := payload

/-- The JWE over the blocks and the first entry of the modifications, signed over its tag. -/
def sealMessage (direction : N32fDirection) (block : DataToIntegrityProtectBlock)
  (dataToEncrypt : List Json) (seq : UInt32) :
  Except JoseError N32fReformattedMessage := do
  let keys := ctx.protectKey direction
  let jwe ← prins.jweEncryptWithIvSalt keys.1.toList ctx.jweEnc keys.2 seq
    (prins.cipherBlocks.write ⟨dataToEncrypt⟩) (prins.blocks.write block) ctx.kid
  let signingKey ← given
    (.crypto "no local ES256 signing key for modificationsBlock") ctx.localSigningKey
  let modifications := prins.modifications.write ⟨ctx.localFqdn, [], jwe.tag⟩
  return ⟨jwe, [prins.jwsSignEs256 signingKey modifications ctx.localFqdn]⟩

def protectBlock (direction : N32fDirection) (block : DataToIntegrityProtectBlock)
  (dataToEncrypt : List Json) (counters : SendCounters) :
  Except JoseError N32fReformattedMessage × SendCounters :=
  let seq := nextSendSeq counters (seqKey ctx.kid ctx.role direction)
  (seq.1 >>= prins.sealMessage ctx direction block dataToEncrypt, seq.2)

def encryptPaths (url : String) : List String :=
  ((ctx.findProfile (extractServiceName url)).map DataTypeProfile.bodyPaths).getD []

def protectMessage (messageId method url : String) (headers : List (String × String))
  (body : Option Bytes) (counters : SendCounters) :
  Except JoseError N32fReformattedMessage × SendCounters :=
  let payload := payloadOf prins (encryptPaths ctx url) body
  prins.protectBlock ctx .request (requestBlock ctx messageId method url headers payload.elements)
    payload.dataToEncrypt counters

def protectResponseMessage (messageId : String) (statusCode : UInt16)
  (headers : List (String × String)) (body : Option Bytes) (counters : SendCounters) :
  Except JoseError N32fReformattedMessage × SendCounters :=
  let payload := payloadOf prins [] body
  prins.protectBlock ctx .response (responseBlock ctx messageId statusCode headers payload.elements)
    payload.dataToEncrypt counters

end Prins

inductive N32fErrorType where
  | integrityCheckFailed
  | integrityCheckOnModificationsFailed
  | modificationsInstructionsFailed
  | decipheringFailed
  | messageReconstructionFailed
  | unavailablePrinsContext
  | policyMismatch

structure N32fUnprotectError where
  errorType : N32fErrorType
  messageId : Option String
  detail : String
  failedModifications : List String := []

structure N32fErrorInfo where
  n32fMessageId : String
  n32fErrorType : N32fErrorType
  failedModificationList : List String
  errorDetailsList : List String

def N32fUnprotectError.toErrorInfo (error : N32fUnprotectError) : N32fErrorInfo where
  n32fMessageId := error.messageId.getD "unknown"
  n32fErrorType := error.errorType
  failedModificationList := error.failedModifications
  errorDetailsList := [error.detail]

end NextGCore.Sepp
