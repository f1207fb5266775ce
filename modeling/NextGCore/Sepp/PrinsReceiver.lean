import NextGCore.Sepp.Prins

/-!
# Unprotecting PRINS messages

The checks of `unprotect_common` in their order, and what is rebuilt after them.  The one
step that changes a store is the commit of the SEQ.
-/

namespace NextGCore.Sepp

open Crypt (Bytes)
open Library Sbi

structure ReconstructedRequest where
  method : String
  url : String
  headers : List (String × String)
  body : Option Bytes
  messageId : String

structure ReconstructedResponse where
  statusCode : UInt16
  headers : List (String × String)
  body : Option Bytes
  messageId : String

namespace Prins

variable (prins : Prins) (ctx : PrinsContext) (messageId : String)

def badBlock (detail : String) : N32fUnprotectError :=
  { errorType := .messageReconstructionFailed, messageId := none, detail := detail }

def readBlock (msg : N32fReformattedMessage) :
  Except N32fUnprotectError DataToIntegrityProtectBlock := do
  let aad ← given (badBlock "missing JWE aad (DataToIntegrityProtectBlock)") msg.reformattedData.aad
  let aadBytes ← (prins.decode aad).mapError fun problem => badBlock problem.display
  let block ← (prins.blocks.read aadBytes).mapError fun problem =>
    badBlock ("bad DataToIntegrityProtectBlock: " ++ problem)
  refuse (block.metaData.n32fContextId ≠ ctx.localContextId)
    { errorType := .unavailablePrinsContext
      messageId := some block.metaData.messageId
      detail := "unknown n32fContextId [" ++ block.metaData.n32fContextId ++ "]" }
  return block

def badEntry (detail : String) (failed : List String) : N32fUnprotectError where
  errorType := .integrityCheckOnModificationsFailed
  messageId := some messageId
  detail := detail
  failedModifications := failed

def operationPath (operation : Json) : String := (operation.getStr "path").getD ""

def checkPolicy (ctx : PrinsContext) (messageId identity : String) :
    List Json → Except N32fUnprotectError Unit
  | [] => .ok ()
  | operation :: rest => do
    let path := operationPath operation
    refuse (path ∉ ctx.modificationPolicy.allowedPaths)
      { errorType := .policyMismatch
        messageId := some messageId
        detail := "modification of [" ++ path ++ "] not permitted by policy"
        failedModifications := [identity] }
    checkPolicy ctx messageId identity rest

def verifyEntry (messageId jweTag : String) (index : ℕ) (jws : FlatJws) :
  Except N32fUnprotectError (List Json) := do
  let place := "modificationsBlock[" ++ toString index ++ "]"
  let entry := "entry-" ++ toString index
  let header ← (prins.jwsPeekHeader jws).mapError fun problem =>
    badEntry messageId (place ++ " header: " ++ problem.display) [entry]
  refuse (header.alg ≠ "ES256")
    (badEntry messageId (place ++ " uses non-asymmetric alg [" ++ header.alg ++ "]")
      [header.kid.getD entry])
  let signer ← given (badEntry messageId (place ++ " missing signer kid") [entry]) header.kid
  let verifyingKey ← given
    (badEntry messageId (place ++ " signer [" ++ signer ++ "] has no registered key") [signer])
    (ctx.verifyingKeyOf signer)
  let payloadBytes ← (prins.jwsVerifyEs256 verifyingKey jws).mapError fun problem =>
    badEntry messageId (place ++ ": " ++ problem.display) [signer]
  let payload ← (prins.modifications.read payloadBytes).mapError fun problem =>
    badEntry messageId (place ++ " payload: " ++ problem) []
  refuse (payload.identity ≠ signer) (badEntry messageId
      (place ++ " identity [" ++ payload.identity ++ "] != kid [" ++ signer ++ "]")
      [payload.identity])
  refuse (payload.tag ≠ jweTag)
    (badEntry messageId (place ++ " tag does not bind to the JWE Authentication Tag")
      [payload.identity])
  checkPolicy ctx messageId payload.identity payload.operations
  return payload.operations

def verifyEntries (ctx : PrinsContext) (messageId jweTag : String) :
    ℕ → List FlatJws → Except N32fUnprotectError (List Json)
  | _, [] => .ok []
  | index, jws :: rest => do
    let operations ← prins.verifyEntry ctx messageId jweTag index jws
    let others ← verifyEntries ctx messageId jweTag (index + 1) rest
    return operations ++ others

def verifyModifications (messageId : String) (msg : N32fReformattedMessage) :
  Except N32fUnprotectError (List Json) := do
  refuse (msg.modificationsBlock = []) (badEntry messageId "empty modificationsBlock" [])
  prins.verifyEntries ctx messageId msg.reformattedData.tag 0 msg.modificationsBlock

def openCipherBlock (direction : N32fDirection) (messageId : String)
  (msg : N32fReformattedMessage) :
  Except N32fUnprotectError DataToIntegrityProtectAndCipherBlock := do
  let plaintext ←
    (prins.jweDecrypt (ctx.unprotectKey direction).1.toList msg.reformattedData).mapError
      fun problem =>
        { errorType :=
            if problem = .tampered then .integrityCheckFailed else .decipheringFailed
          messageId := some messageId
          detail := problem.display }
  (prins.cipherBlocks.read plaintext).mapError fun problem =>
    { errorType := .decipheringFailed
      messageId := some messageId
      detail := "bad DataToIntegrityProtectAndCipherBlock: " ++ problem }

def readSeq (msg : N32fReformattedMessage) : Except N32fUnprotectError UInt32 :=
  given
    { errorType := .integrityCheckFailed
      messageId := some messageId
      detail := "malformed JWE nonce (expected IV salt(8) || SEQ(32-bit))" }
    (prins.jweSeq msg.reformattedData)

def badContent (detail : String) : N32fUnprotectError :=
  { errorType := .messageReconstructionFailed, messageId := some messageId, detail := detail }

def checkPlmn (block : DataToIntegrityProtectBlock) : Except N32fUnprotectError Unit :=
  match block.metaData.senderPlmnId with
  | none => .ok ()
  | some claimed =>
    refuse (ctx.peerPlmnIds ≠ [] ∧ claimed.matchesAny ctx.peerPlmnIds = false)
      { errorType := .policyMismatch
        messageId := some block.metaData.messageId
        detail := "sender PLMN-ID " ++ claimed.mcc ++ "-" ++ claimed.mnc ++
          " is not bound to the N32-f context" }

def setAtJsonPointer (pointer : String) (value root : Json) : Except String Json :=
  match pointer.toList with
  | [] => .ok value
  | '/' :: rest => .ok (Json.setAt value (pointerTokens rest) root)
  | _ => .error "pointer must be empty or start with '/'"

def reference (value : Json) : Option ℕ := (value.get "encBlockIndex").bind Json.asU64

def resolveElement (dataToEncrypt : List Json) (value : Json) : Except N32fUnprotectError Json :=
  match reference value with
  | none => .ok value
  | some index =>
    given (badContent messageId ("encBlockIndex " ++ toString index ++ " out of range"))
      dataToEncrypt[index]?

/-- The body as far as it is rebuilt: JSON, or the octets of another body. -/
structure Rebuilt where
  json : Option Json
  raw : Option Bytes

def applyElement (dataToEncrypt : List Json) (rebuilt : Rebuilt) (element : N32fPayloadElement) :
  Except N32fUnprotectError Rebuilt :=
  match element.ieValueLocation with
  | .body => do
    let value ← resolveElement messageId dataToEncrypt element.value
    let json ← (setAtJsonPointer element.iePath value (rebuilt.json.getD .null)).mapError
      fun detail =>
        badContent messageId ("INVALID_JSON_POINTER [" ++ element.iePath ++ "]: " ++ detail)
    return { rebuilt with json := some json }
  | .multipartBinary => do
    let raw ← (prins.decode (element.value.asStr.getD "")).mapError fun problem =>
      badContent messageId problem.display
    return { rebuilt with raw := some raw }
  | _ => .ok rebuilt

def applyReplaces (json : Json) : List Json → Except String Json
  | [] => .ok json
  | operation :: rest => do
    let kind := (operation.getStr "op").getD ""
    refuse (kind ≠ "replace") ("unsupported JSON-Patch op [" ++ kind ++ "]")
    let path ← given "missing path" (operation.getStr "path")
    let value ← given "missing value" (operation.get "value")
    let changed ← given ("path [" ++ path ++ "] not found") (Json.replaceAtPointer value path json)
    applyReplaces changed rest

def applyOperations (operations : List Json) : Option Json → Except N32fUnprotectError (Option Json)
  | none => .ok none
  | some json =>
    ((applyReplaces json operations).mapError fun detail =>
      { errorType := .modificationsInstructionsFailed
        messageId := some messageId
        detail := detail }).map some

def headerValue (dataToEncrypt : List Json) (header : HttpHeader) :
  Except N32fUnprotectError String :=
  match header.value with
  | .plain value => .ok value
  | .encrypted index => do
    let value ← given (badContent messageId ("header [" ++ header.header ++ "] encBlockIndex " ++
        toString index ++ " out of range")) dataToEncrypt[index]?
    return value.asStr.getD (prins.display value)

def rebuildHeaders (dataToEncrypt : List Json) (headers : List HttpHeader) :
  Except N32fUnprotectError (List (String × String)) :=
  headers.foldlM (fun rebuilt header => do
    let value ← prins.headerValue messageId dataToEncrypt header
    return Members.insert rebuilt header.header value) []

def reassemble (block : DataToIntegrityProtectBlock) (operations dataToEncrypt : List Json) :
  Except N32fUnprotectError (List (String × String) × Option Bytes) := do
  let messageId := block.metaData.messageId
  checkPlmn ctx block
  let rebuilt ← block.payload.foldlM (prins.applyElement messageId dataToEncrypt) ⟨none, none⟩
  let json ← applyOperations messageId operations rebuilt.json
  let headers ← prins.rebuildHeaders messageId dataToEncrypt block.headers
  return (headers, (json.map prins.json.write).or rebuilt.raw)

structure Authenticated where
  block : DataToIntegrityProtectBlock
  operations : List Json
  dataToEncrypt : List Json
  seq : UInt32

def authenticate (direction : N32fDirection) (msg : N32fReformattedMessage) :
  Except N32fUnprotectError Authenticated := do
  let block ← prins.readBlock ctx msg
  let messageId := block.metaData.messageId
  let operations ← prins.verifyModifications ctx messageId msg
  let cipherBlock ← prins.openCipherBlock ctx direction messageId msg
  let seq ← prins.readSeq messageId msg
  return ⟨block, operations, cipherBlock.dataToEncrypt, seq⟩

def peerSeqKey (direction : N32fDirection) : String :=
  seqKey ctx.kid ctx.role.opposite direction

structure Unprotected where
  block : DataToIntegrityProtectBlock
  headers : List (String × String)
  body : Option Bytes

def unprotectCommon (direction : N32fDirection) (msg : N32fReformattedMessage)
  (windows : ReplayWindows) : Except N32fUnprotectError Unprotected × ReplayWindows :=
  match prins.authenticate ctx direction msg with
  | .error problem => (.error problem, windows)
  | .ok message =>
    match checkRecvSeq windows (peerSeqKey ctx direction) message.seq with
    | (.error reason, windows) =>
      (.error
        { errorType := .integrityCheckFailed
          messageId := some message.block.metaData.messageId
          detail := reason },
        windows)
    | (.ok (), windows) =>
      ((prins.reassemble ctx message.block message.operations message.dataToEncrypt).map
        fun rebuilt => ⟨message.block, rebuilt.1, rebuilt.2⟩,
        windows)

def unprotectMessage (msg : N32fReformattedMessage) (windows : ReplayWindows) :
  Except N32fUnprotectError ReconstructedRequest × ReplayWindows :=
  let answer := prins.unprotectCommon ctx .request msg windows
  (do
    let message ← answer.1
    let messageId := message.block.metaData.messageId
    let line ← given (badContent messageId "N32-f request message carries no requestLine")
      message.block.requestLine
    return ⟨line.method, joinRequestLine line, message.headers, message.body, messageId⟩,
    answer.2)

/-- The first word of the line: the code, or the code with its reason after it. -/
def statusCodeOf (statusLine : String) : Option UInt16 :=
  (splitWhitespace statusLine).head?.bind parseU16

def unprotectResponseMessage (msg : N32fReformattedMessage) (windows : ReplayWindows) :
  Except N32fUnprotectError ReconstructedResponse × ReplayWindows :=
  let answer := prins.unprotectCommon ctx .response msg windows
  (do
    let message ← answer.1
    let messageId := message.block.metaData.messageId
    let line ← given (badContent messageId "N32-f response message carries no statusLine")
      message.block.statusLine
    let statusCode ← given (badContent messageId ("malformed statusLine [" ++ line ++ "]"))
      (statusCodeOf line)
    return ⟨statusCode, message.headers, message.body, messageId⟩,
    answer.2)

end Prins

end NextGCore.Sepp
