import NextGCore.Library.Checks
import NextGCore.Library.Members
import NextGCore.Sbi.Text

/-!
# JOSE and N32-f
-/

namespace NextGCore.Sepp

open Crypt (Bytes)
open Library Sbi

structure Codec (Value : Type) where
  write : Value → Bytes
  read : Bytes → Except String Value

inductive JoseError where
  | format (text : String)
  | unsupportedAlgorithm (text : String)
  | tampered
  | crypto (text : String)
  deriving DecidableEq

def JoseError.display : JoseError → String
  | format text => "JOSE format error: " ++ text
  | unsupportedAlgorithm text => "unsupported JOSE algorithm: " ++ text
  | tampered => "JOSE integrity verification failed"
  | crypto text => "JOSE crypto error: " ++ text

inductive JweEnc where
  | a128Gcm
  | a256Gcm

namespace JweEnc

def fromName (name : String) : Option JweEnc :=
  if name = "A128GCM" then some a128Gcm
  else if name = "A256GCM" then some a256Gcm
  else none

def name : JweEnc → String
  | a128Gcm => "A128GCM"
  | a256Gcm => "A256GCM"

def keyLen : JweEnc → ℕ
  | a128Gcm => 16
  | a256Gcm => 32

@[simp]
lemma fromName_name (enc : JweEnc) : fromName enc.name = some enc := by
  cases enc <;> rfl

lemma keyLen_le (enc : JweEnc) : enc.keyLen ≤ 32 := by
  cases enc <;> decide

end JweEnc

structure FlatJwe where
  protectedHeader : String
  aad : Option String
  iv : String
  ciphertext : String
  tag : String

structure FlatJws where
  protectedHeader : String
  payload : String
  signature : String

structure JweHeader where
  alg : String
  enc : String
  kid : Option String

structure JwsHeader where
  alg : String
  kid : Option String

abbrev SigningKey := Bytes

abbrev VerifyingKey := Bytes

structure Jose where
  b64urlEncode : Bytes → String
  b64urlDecode : String → Except String Bytes
  jweHeaders : Codec JweHeader
  jwsHeaders : Codec JwsHeader
  gcmEncrypt : JweEnc → Bytes → Bytes → Bytes → Bytes → Except String (Bytes × Bytes)
  gcmDecrypt : JweEnc → Bytes → Bytes → Bytes → Bytes → Bytes → Option Bytes
  es256Sign : SigningKey → Bytes → Bytes
  es256Verify : VerifyingKey → Bytes → Bytes → Bool
  verifyingKey : SigningKey → VerifyingKey

namespace Jose

variable (jose : Jose) (key : Bytes)

def decode (text : String) : Except JoseError Bytes :=
  (jose.b64urlDecode text).mapError fun problem => .format ("base64url: " ++ problem)

def jweAadInput (protectedHeader : String) (aad : Option String) : Bytes :=
  match aad with
  | some aad => asBytes (protectedHeader ++ "." ++ aad)
  | none => asBytes protectedHeader

def keyTooShort (enc : JweEnc) : JoseError :=
  .crypto ("key too short for " ++ enc.name ++ ": need " ++ toString enc.keyLen ++ ", got " ++
    toString key.length)

def nonce (ivSalt : Vector UInt8 8) (seq : UInt32) : Bytes :=
  ivSalt.toList ++ (Crypt.toBeBytes seq).toList

def jweEncryptWithIvSalt (enc : JweEnc) (ivSalt : Vector UInt8 8) (seq : UInt32)
  (plaintext aad : Bytes) (kid : String) : Except JoseError FlatJwe := do
  refuse (key.length < enc.keyLen) (keyTooShort key enc)
  let header := jose.b64urlEncode (jose.jweHeaders.write ⟨"dir", enc.name, some kid⟩)
  let aad := jose.b64urlEncode aad
  let iv := nonce ivSalt seq
  let sealed ← (jose.gcmEncrypt enc (key.take enc.keyLen) iv (jweAadInput header (some aad))
    plaintext).mapError .crypto
  return {
    protectedHeader := header
    aad := some aad
    iv := jose.b64urlEncode iv
    ciphertext := jose.b64urlEncode sealed.1
    tag := jose.b64urlEncode sealed.2 }

def jweSeq (jwe : FlatJwe) : Option UInt32 :=
  match jose.b64urlDecode jwe.iv with
  | .error _ => none
  | .ok iv =>
    if iv.length = 12 then
      some (UInt32.ofNat ((iv.drop 8).foldl (fun value octet => 256 * value + octet.toNat) 0))
    else none

def jweDecrypt (jwe : FlatJwe) : Except JoseError Bytes := do
  let headerBytes ← jose.decode jwe.protectedHeader
  let header ← (jose.jweHeaders.read headerBytes).mapError fun problem =>
    .format ("JWE header: " ++ problem)
  let unsupported : JoseError :=
    .unsupportedAlgorithm ("alg=" ++ header.alg ++ " enc=" ++ header.enc)
  refuse (header.alg ≠ "dir") unsupported
  let enc ← given unsupported (JweEnc.fromName header.enc)
  refuse (key.length < enc.keyLen) (keyTooShort key enc)
  let iv ← jose.decode jwe.iv
  let ciphertext ← jose.decode jwe.ciphertext
  let tag ← jose.decode jwe.tag
  let _ ← jwe.aad.elim (.ok []) jose.decode
  refuse (iv.length ≠ 12 ∨ tag.length ≠ 16) (.format "bad IV/tag length")
  given .tampered (jose.gcmDecrypt enc (key.take enc.keyLen) iv
    (jweAadInput jwe.protectedHeader jwe.aad) ciphertext tag)

def signingInput (jws : FlatJws) : Bytes :=
  asBytes (jws.protectedHeader ++ "." ++ jws.payload)

def jwsSignEs256 (signingKey : SigningKey) (payload : Bytes) (kid : String) : FlatJws :=
  let header := jose.b64urlEncode (jose.jwsHeaders.write ⟨"ES256", some kid⟩)
  let payload := jose.b64urlEncode payload
  { protectedHeader := header
    payload := payload
    signature := jose.b64urlEncode
      (jose.es256Sign signingKey (signingInput ⟨header, payload, ""⟩)) }

def jwsPeekHeader (jws : FlatJws) : Except JoseError JwsHeader := do
  let headerBytes ← jose.decode jws.protectedHeader
  (jose.jwsHeaders.read headerBytes).mapError fun problem => .format ("JWS header: " ++ problem)

def jwsVerifyEs256 (verifyingKey : VerifyingKey) (jws : FlatJws) : Except JoseError Bytes := do
  let header ← jose.jwsPeekHeader jws
  refuse (header.alg ≠ "ES256") (.unsupportedAlgorithm header.alg)
  let signature ← jose.decode jws.signature
  refuse (jose.es256Verify verifyingKey (signingInput jws) signature = false) .tampered
  jose.decode jws.payload

end Jose

open Library

structure PlmnId where
  mcc : UInt16
  mnc : UInt16
  mncLen : UInt8

inductive N32fRole where
  | initiator
  | responder
  deriving DecidableEq

namespace N32fRole

def opposite : N32fRole → N32fRole
  | initiator => responder
  | responder => initiator

def debug : N32fRole → String
  | initiator => "Initiator"
  | responder => "Responder"

@[simp]
lemma opposite_opposite (role : N32fRole) : role.opposite.opposite = role := by
  cases role <;> rfl

end N32fRole

inductive N32fDirection where
  | request
  | response
  deriving DecidableEq

def N32fDirection.debug : N32fDirection → String
  | request => "Request"
  | response => "Response"

abbrev KeyPair := Vector UInt8 32 × Vector UInt8 8

structure N32fKeyMaterial where
  parallelReq : KeyPair
  parallelResp : KeyPair
  reverseReq : KeyPair
  reverseResp : KeyPair

def N32fKeyMaterial.select (keys : N32fKeyMaterial) : N32fRole → N32fDirection → KeyPair
  | .initiator, .request => keys.parallelReq
  | .initiator, .response => keys.parallelResp
  | .responder, .request => keys.reverseReq
  | .responder, .response => keys.reverseResp

structure IeDescriptor where
  location : String
  path : String

structure DataTypeProfile where
  id : String
  serviceName : String
  encryptIes : List IeDescriptor

def DataTypeProfile.bodyPaths (profile : DataTypeProfile) : List String :=
  (profile.encryptIes.filter fun ie => ie.location = "BODY").map IeDescriptor.path

structure ModificationPolicy where
  allowedPaths : List String

structure PrinsContext where
  localContextId : String
  peerContextId : String
  keyMaterial : N32fKeyMaterial
  role : N32fRole
  kid : String
  localFqdn : String
  localSigningKey : Option SigningKey
  peerVerifyingKeys : List (String × VerifyingKey)
  profiles : List DataTypeProfile
  modificationPolicy : ModificationPolicy
  jweEnc : JweEnc
  localPlmnIds : List PlmnId
  peerPlmnIds : List PlmnId

namespace PrinsContext

variable (ctx : PrinsContext)

def protectKey (direction : N32fDirection) : KeyPair :=
  ctx.keyMaterial.select ctx.role direction

def unprotectKey (direction : N32fDirection) : KeyPair :=
  ctx.keyMaterial.select ctx.role.opposite direction

def findProfile (serviceName : String) : Option DataTypeProfile :=
  ctx.profiles.find? fun profile => profile.serviceName = serviceName

def verifyingKeyOf (identity : String) : Option VerifyingKey :=
  Members.get ctx.peerVerifyingKeys identity

end PrinsContext

def seqKey (kid : String) (originator : N32fRole) (direction : N32fDirection) : String :=
  kid ++ "|" ++ originator.debug ++ "|" ++ direction.debug

abbrev SendCounters := String → UInt32

def nextSendSeq (counters : SendCounters) (key : String) :
  Except JoseError UInt32 × SendCounters :=
  let seq := counters key
  (refuse (seq = 0xFFFFFFFF) (.crypto "N32-f SEQ space exhausted; rekey required") >>=
      fun _ => .ok seq,
    Function.update counters key (seq + 1))

/-- The largest accepted SEQ, and bit `high - seq` for each accepted SEQ. -/
structure ReplayWindow where
  high : Option UInt32
  bitmap : UInt64
  deriving DecidableEq

namespace ReplayWindow

def new : ReplayWindow := ⟨none, 0⟩

/-- The result, and the window that the call leaves. -/
def checkAndCommit (window : ReplayWindow) (seq : UInt32) : Except String Unit × ReplayWindow :=
  match window.high with
  | none => (.ok (), ⟨some seq, 1⟩)
  | some high =>
    if high < seq then
      let shift := seq - high
      (.ok (), ⟨some seq, if 64 ≤ shift then 1 else window.bitmap <<< shift.toUInt64 ||| 1⟩)
    else
      let diff := high - seq
      let bit : UInt64 := 1 <<< diff.toUInt64
      if 64 ≤ diff then
        (.error ("N32-f SEQ " ++ toString seq.toNat ++
          " is older than the replay window (high " ++ toString high.toNat ++ ")"), window)
      else if window.bitmap &&& bit ≠ 0 then
        (.error ("N32-f SEQ " ++ toString seq.toNat ++ " replayed"), window)
      else (.ok (), { window with bitmap := window.bitmap ||| bit })

end ReplayWindow

abbrev ReplayWindows := String → ReplayWindow

def checkRecvSeq (windows : ReplayWindows) (key : String) (seq : UInt32) :
  Except String Unit × ReplayWindows :=
  let answer := (windows key).checkAndCommit seq
  (answer.1, Function.update windows key answer.2)

end NextGCore.Sepp
