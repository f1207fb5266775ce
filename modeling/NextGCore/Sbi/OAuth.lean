import NextGCore.Library.Checks
import NextGCore.Sbi.Message
import NextGCore.Sbi.Text

/-!
# Access tokens

`oauth.rs`: an ES256 access token is verified against a JWKS.  Base64url, JSON and ECDSA are
parameters.  A token that names a key is verified under the first key of that name, and one
that names none under the first key of all.
-/

namespace NextGCore.Sbi

open Crypt (Bytes)
open Library

inductive SbiError where
  | authorizationFailed (text : String)

structure AccessTokenClaims where
  iss : String
  sub : String
  aud : Json
  scope : String
  exp : UInt64

/-- What the module takes from its crates; a problem is the text of an error. -/
structure OAuthCrates (VerifyingKey Signature : Type) where
  b64urlDecode : String → Except String Bytes
  parseValue : Bytes → Except String Json
  parseClaims : Bytes → Except String AccessTokenClaims
  display : Json → String
  fromEncodedPoint : Bytes → Bytes → Except String VerifyingKey
  signatureFromSlice : Bytes → Except String Signature
  verify : VerifyingKey → Bytes → Signature → Bool

def trim (letters : List Char) : List Char :=
  ((letters.dropWhile isWhitespace).reverse.dropWhile isWhitespace).reverse

def bearerToken (authHeader : Option String) : Option String := do
  let letters := (← authHeader).toList
  let rest ← (stripPrefix "Bearer ".toList letters).or (stripPrefix "bearer ".toList letters)
  if trim rest = [] then none else some (String.ofList (trim rest))

structure Jwt where
  header : String
  payload : String
  signature : String

def Jwt.ofToken (token : String) : Option Jwt :=
  match token.toList.splitOn '.' with
  | [header, payload, signature] =>
    some ⟨String.ofList header, String.ofList payload, String.ofList signature⟩
  | _ => none

def Jwt.signingInput (jwt : Jwt) : Bytes :=
  asBytes (jwt.header ++ "." ++ jwt.payload)

section Verification

variable {VerifyingKey Signature : Type} (crates : OAuthCrates VerifyingKey Signature)
  (token : String)

/-- `map_err`, with the text of the error after a text of our own. -/
def orFailed {Value : Type} (text : String) (result : Except String Value) :
  Except SbiError Value :=
  result.mapError fun problem => .authorizationFailed (text ++ problem)

def splitToken : Except SbiError Jwt :=
  given (.authorizationFailed "Access token is not a valid JWT") (Jwt.ofToken token)

def readHeader (jwt : Jwt) : Except SbiError Json := do
  let headerBytes ← orFailed "Invalid JWT header: " (crates.b64urlDecode jwt.header)
  orFailed "Invalid JWT header JSON: " (crates.parseValue headerBytes)

def invalidJwk (text : String) : SbiError := .authorizationFailed ("Invalid ES256 JWK: " ++ text)

def parseEs256Jwk (jwk : Json) : Except SbiError VerifyingKey := do
  refuse (jwk.getStr "kty" ≠ some "EC" ∨ jwk.getStr "crv" ≠ some "P-256")
    (invalidJwk "expected kty=EC, crv=P-256")
  let xText ← given (invalidJwk "missing x") (jwk.getStr "x")
  let yText ← given (invalidJwk "missing y") (jwk.getStr "y")
  let x ← (crates.b64urlDecode xText).mapError fun problem => invalidJwk ("x: " ++ problem)
  let y ← (crates.b64urlDecode yText).mapError fun problem => invalidJwk ("y: " ++ problem)
  refuse (x.length ≠ 32 ∨ y.length ≠ 32) (invalidJwk "x/y must each be 32 bytes")
  (crates.fromEncodedPoint x y).mapError fun problem =>
    invalidJwk ("not a valid public key: " ++ problem)

def verifyAccessToken (key : VerifyingKey) (now : UInt64) :
  Except SbiError AccessTokenClaims := do
  let jwt ← splitToken token
  let header ← readHeader crates jwt
  refuse (header.getStr "alg" ≠ some "ES256") (.authorizationFailed "token alg is not ES256")
  let sigBytes ← orFailed "Invalid JWT signature: " (crates.b64urlDecode jwt.signature)
  let signature ← orFailed "Malformed ES256 signature: " (crates.signatureFromSlice sigBytes)
  refuse (crates.verify key jwt.signingInput signature = false)
    (.authorizationFailed "token signature verification failed")
  let payloadBytes ← orFailed "Invalid JWT payload: " (crates.b64urlDecode jwt.payload)
  let claims ← orFailed "Invalid token claims: " (crates.parseClaims payloadBytes)
  refuse (claims.exp ≤ now) (.authorizationFailed "access token has expired")
  return claims

def jwksKeys (jwks : Json) : Option (List Json) :=
  match jwks.get "keys" with
  | some (.array keys) => some keys
  | _ => none

/-- The key that a header selects: the first of its `kid`, or of all. -/
def selectJwk (header : Json) (keys : List Json) : Option Json :=
  keys.find? fun jwk => (header.getStr "kid").all fun kid => jwk.getStr "kid" = some kid

def kidMismatchMsg : String := "no JWKS key matches token kid"

def verifyAccessTokenWithJwks (jwks : Json) (now : UInt64) :
  Except SbiError AccessTokenClaims := do
  let jwt ← splitToken token
  let header ← readHeader crates jwt
  let keys ← given (.authorizationFailed "JWKS has no 'keys' array") (jwksKeys jwks)
  let jwk ← given (.authorizationFailed kidMismatchMsg) (selectJwk header keys)
  let key ← parseEs256Jwk crates jwk
  verifyAccessToken crates token key now

def matchesAudience (expected : String) : Json → Bool
  | .string audience => audience = expected
  | .array items => items.any fun item => item.asStr = some expected
  | _ => false

def checkAudience (aud : Json) (expected : String) : Except SbiError Unit :=
  refuse (matchesAudience expected aud = false) <| .authorizationFailed <|
    "token audience " ++ crates.display aud ++ " does not include expected audience '" ++
      expected ++ "'"

def authorizeBearerAud (authHeader : Option String) (jwks : Json)
  (expectedAudience : Option String) (now : UInt64) : Except SbiError AccessTokenClaims := do
  let token ← given (.authorizationFailed "missing or malformed Bearer token")
    (bearerToken authHeader)
  let claims ← verifyAccessTokenWithJwks crates token jwks now
  expectedAudience.elim (.ok ()) (checkAudience crates claims.aud)
  return claims

end Verification

/-!
## Which tokens are authorized

A token is to be authorized if it is good under the key of the JWKS that it names, or under the
only key when it names none.  The first key stands for the only one, and for all keys of one
name; the tokens for which this makes a difference are described exactly.
-/

section Tokens

variable {VerifyingKey Signature : Type} (crates : OAuthCrates VerifyingKey Signature)

/-- The header carries a token of three segments, which are read as `header` and `claims`. -/
structure Presents (authHeader : Option String) (jwt : Jwt) (header : Json)
  (claims : AccessTokenClaims) : Prop where
  bearer : bearerToken authHeader = some (jwt.header ++ "." ++ jwt.payload ++ "." ++ jwt.signature)
  separated : '.' ∉ jwt.header.toList ∧ '.' ∉ jwt.payload.toList ∧ '.' ∉ jwt.signature.toList
  header : ∃ octets, crates.b64urlDecode jwt.header = .ok octets ∧
    crates.parseValue octets = .ok header
  claims : ∃ octets, crates.b64urlDecode jwt.payload = .ok octets ∧
    crates.parseClaims octets = .ok claims

def HasAudience (aud : Json) (expected : String) : Prop :=
  aud = .string expected ∨ ∃ items, aud = .array items ∧ .string expected ∈ items

/-- The signature over header and payload verifies under a key of the JWKS. -/
def SignedUnder (jwt : Jwt) (jwk : Json) : Prop :=
  ∃ key octets signature, parseEs256Jwk crates jwk = .ok key ∧
    crates.b64urlDecode jwt.signature = .ok octets ∧
      crates.signatureFromSlice octets = .ok signature ∧
        crates.verify key (asBytes (jwt.header ++ "." ++ jwt.payload)) signature = true

structure Grants (expectedAudience : Option String) (now : UInt64) (jwt : Jwt) (header : Json)
  (claims : AccessTokenClaims) (jwk : Json) : Prop where
  alg : header.getStr "alg" = some "ES256"
  signed : SignedUnder crates jwt jwk
  unexpired : now < claims.exp
  audience : ∀ expected ∈ expectedAudience, HasAudience claims.aud expected

/-- The key is in the JWKS, and it has the `kid` of the token or is the only one. -/
structure IsKeyOf (jwks header jwk : Json) : Prop where
  listed : ∃ keys, jwksKeys jwks = some keys ∧ jwk ∈ keys
  named : ∀ kid, header.getStr "kid" = some kid → jwk.getStr "kid" = some kid
  only : header.getStr "kid" = none → jwksKeys jwks = some [jwk]

/-- What is authorized is what a token grants under its key. -/
def AccessControlled (authHeader : Option String) (jwks : Json)
  (expectedAudience : Option String) (now : UInt64) : Prop :=
  ∀ claims, authorizeBearerAud crates authHeader jwks expectedAudience now = .ok claims ↔
    ∃ jwt header jwk, Presents crates authHeader jwt header claims ∧
      IsKeyOf jwks header jwk ∧ Grants crates expectedAudience now jwt header claims jwk

end Tokens

lemma ofToken_eq_some_iff {token : String} {jwt : Jwt} : Jwt.ofToken token = some jwt ↔
    token = jwt.header ++ "." ++ jwt.payload ++ "." ++ jwt.signature ∧
      '.' ∉ jwt.header.toList ∧ '.' ∉ jwt.payload.toList ∧ '.' ∉ jwt.signature.toList := by
  constructor
  · intro split
    unfold Jwt.ofToken at split
    split at split
    · rename_i header payload signature pieces
      obtain rfl := Option.some.inj split
      have whole : ['.'].intercalate (token.toList.splitOn '.') = token.toList :=
        List.intercalate_splitOn '.'
      have separated (piece : List Char) (isPiece : piece ∈ token.toList.splitOn '.') :=
        notMem_of_mem_splitOn isPiece
      simp only [pieces, List.forall_mem_cons] at whole separated
      refine ⟨?_, ?_⟩
      · apply String.toList_inj.mp
        simpa using whole.symm
      · simpa using separated
    · cases split
  · rintro ⟨rfl, header, payload, signature⟩
    have letters : (jwt.header ++ "." ++ jwt.payload ++ "." ++ jwt.signature).toList =
        ['.'].intercalate [jwt.header.toList, jwt.payload.toList, jwt.signature.toList] := by
      simp
    have pieces : (['.'].intercalate [jwt.header.toList, jwt.payload.toList,
        jwt.signature.toList]).splitOn '.' =
          [jwt.header.toList, jwt.payload.toList, jwt.signature.toList] :=
      List.splitOn_intercalate '.' (by simp [header, payload, signature]) (by simp)
    unfold Jwt.ofToken
    rw [letters, pieces]
    simp

section Authorized

variable {VerifyingKey Signature : Type} {crates : OAuthCrates VerifyingKey Signature} {jwt : Jwt}
  {header : Json} {claims : AccessTokenClaims} {aud jwk : Json}

lemma matchesAudience_iff {expected : String} :
  matchesAudience expected aud = true ↔ HasAudience aud expected := by
  have asStr (item : Json) : item.asStr = some expected ↔ item = .string expected := by
    cases item <;> simp [Json.asStr]
  cases aud <;> simp [matchesAudience, HasAudience, asStr]

lemma readHeader_eq_ok_iff : readHeader crates jwt = .ok header ↔
    ∃ octets, crates.b64urlDecode jwt.header = .ok octets ∧
      crates.parseValue octets = .ok header := by
  simp [readHeader, orFailed]

lemma verifyAccessToken_eq_ok_iff {token : String} {key : VerifyingKey} {now : UInt64} :
  verifyAccessToken crates token key now = .ok claims ↔
    ∃ jwt header, Jwt.ofToken token = some jwt ∧ readHeader crates jwt = .ok header ∧
      header.getStr "alg" = some "ES256" ∧
        (∃ octets signature, crates.b64urlDecode jwt.signature = .ok octets ∧
          crates.signatureFromSlice octets = .ok signature ∧
            crates.verify key jwt.signingInput signature = true) ∧
          (∃ octets, crates.b64urlDecode jwt.payload = .ok octets ∧
            crates.parseClaims octets = .ok claims) ∧ now < claims.exp := by
  simp only [verifyAccessToken, splitToken, orFailed, bind_eq_ok_iff, given_eq_ok_iff,
    mapError_eq_ok_iff, refuse_eq_ok_iff, pure_eq_ok_iff, not_not, Bool.not_eq_false,
    UInt64.not_le]
  constructor
  · rintro ⟨jwt, isJwt, header, isHeader, _, alg, octets, decoded, signature, isSignature, _,
      verified, payload, isPayload, _, areClaims, _, unexpired, rfl⟩
    exact ⟨jwt, header, isJwt, isHeader, alg, ⟨octets, signature, decoded, isSignature, verified⟩,
      ⟨payload, isPayload, areClaims⟩, unexpired⟩
  · rintro ⟨jwt, header, isJwt, isHeader, alg, ⟨octets, signature, decoded, isSignature, verified⟩,
      ⟨payload, isPayload, areClaims⟩, unexpired⟩
    exact ⟨jwt, isJwt, header, isHeader, (), alg, octets, decoded, signature, isSignature, (),
      verified, payload, isPayload, claims, areClaims, (), unexpired, rfl⟩

variable {authHeader : Option String} {jwks : Json} {expectedAudience : Option String}
  {now : UInt64}

lemma Presents.unique {jwt' : Jwt} {header' : Json} {claims' : AccessTokenClaims}
  (first : Presents crates authHeader jwt header claims)
  (second : Presents crates authHeader jwt' header' claims') : jwt = jwt' ∧ header = header' := by
  have split := ofToken_eq_some_iff.mpr ⟨rfl, first.separated⟩
  have split' := ofToken_eq_some_iff.mpr ⟨rfl, second.separated⟩
  rw [Option.some.inj (first.bearer.symm.trans second.bearer), split'] at split
  obtain rfl := Option.some.inj split
  refine ⟨rfl, ?_⟩
  exact Except.ok.inj ((readHeader_eq_ok_iff.mpr first.header).symm.trans
    (readHeader_eq_ok_iff.mpr second.header))

lemma checkAudience_eq_ok_iff {done : Unit} :
  expectedAudience.elim (.ok ()) (checkAudience crates aud) = .ok done ↔
    ∀ expected ∈ expectedAudience, HasAudience aud expected := by
  cases expectedAudience with
  | none => simp
  | some expected => simp [checkAudience, matchesAudience_iff]

lemma authorizeBearerAud_eq_ok_iff :
  authorizeBearerAud crates authHeader jwks expectedAudience now = .ok claims ↔
    ∃ jwt header jwk, Presents crates authHeader jwt header claims ∧
      (∃ keys, jwksKeys jwks = some keys ∧ selectJwk header keys = some jwk) ∧
        Grants crates expectedAudience now jwt header claims jwk := by
  simp only [authorizeBearerAud, verifyAccessTokenWithJwks, splitToken, bind_eq_ok_iff,
    given_eq_ok_iff, pure_eq_ok_iff, checkAudience_eq_ok_iff, verifyAccessToken_eq_ok_iff]
  constructor
  · rintro ⟨token, bearer, _, ⟨jwt, isJwt, header, isHeader, keys, areKeys, jwk, selected, key,
      isKey, jwt', header', isJwt', isHeader', alg, ⟨octets, signature, decoded, isSignature,
      verified⟩, areClaims, unexpired⟩, _, audience, rfl⟩
    obtain rfl := Option.some.inj (isJwt.symm.trans isJwt')
    obtain rfl := Except.ok.inj (isHeader.symm.trans isHeader')
    obtain ⟨rfl, separated⟩ := ofToken_eq_some_iff.mp isJwt
    exact ⟨jwt, header, jwk, ⟨bearer, separated, readHeader_eq_ok_iff.mp isHeader, areClaims⟩,
      ⟨keys, areKeys, selected⟩, alg,
      ⟨key, octets, signature, isKey, decoded, isSignature, verified⟩, unexpired, audience⟩
  · rintro ⟨jwt, header, jwk, presented, ⟨keys, areKeys, selected⟩, granted⟩
    obtain ⟨key, octets, signature, isKey, decoded, isSignature, verified⟩ := granted.signed
    have isJwt := ofToken_eq_some_iff.mpr ⟨rfl, presented.separated⟩
    have isHeader := readHeader_eq_ok_iff.mpr presented.header
    exact ⟨_, presented.bearer, claims, ⟨jwt, isJwt, header, isHeader, keys, areKeys, jwk,
      selected, key, isKey, jwt, header, isJwt, isHeader, granted.alg,
      ⟨octets, signature, decoded, isSignature, verified⟩, presented.claims,
      granted.unexpired⟩, (), granted.audience, rfl⟩

variable (crates authHeader jwks expectedAudience now) in
/-- No token without a `kid` is good under the first of several keys, and a token that is good
under some key of its `kid` is so under the first of them. -/
structure FirstKeySettles : Prop where
  unnamed : ∀ jwt header claims first second rest,
    Presents crates authHeader jwt header claims → header.getStr "kid" = none →
      jwksKeys jwks = some (first :: second :: rest) →
        ¬ Grants crates expectedAudience now jwt header claims first
  named : ∀ jwt header claims kid keys jwk, Presents crates authHeader jwt header claims →
    header.getStr "kid" = some kid → jwksKeys jwks = some keys → jwk ∈ keys →
      jwk.getStr "kid" = some kid → Grants crates expectedAudience now jwt header claims jwk →
        ∃ first, keys.find? (fun jwk => jwk.getStr "kid" = some kid) = some first ∧
          Grants crates expectedAudience now jwt header claims first

lemma selectJwk_of_unnamed (unnamed : header.getStr "kid" = none) (keys : List Json) :
  selectJwk header keys = keys.head? := by
  cases keys <;> simp [selectJwk, unnamed]

lemma selectJwk_of_named {kid : String} (named : header.getStr "kid" = some kid)
  (keys : List Json) :
  selectJwk header keys = keys.find? fun jwk => jwk.getStr "kid" = some kid := by
  simp [selectJwk, named]

lemma FirstKeySettles.isKeyOf
  (settled : FirstKeySettles crates authHeader jwks expectedAudience now) {keys : List Json}
  (presented : Presents crates authHeader jwt header claims)
  (areKeys : jwksKeys jwks = some keys) (selected : selectJwk header keys = some jwk)
  (granted : Grants crates expectedAudience now jwt header claims jwk) :
  IsKeyOf jwks header jwk := by
  refine ⟨⟨keys, areKeys, List.mem_of_find?_eq_some selected⟩, ?_, ?_⟩
  · intro kid named
    rw [selectJwk_of_named named] at selected
    simpa using List.find?_some selected
  · intro unnamed
    rw [selectJwk_of_unnamed unnamed] at selected
    obtain ⟨rest, rfl⟩ := List.head?_eq_some_iff.mp selected
    cases rest with
    | nil => exact areKeys
    | cons second rest =>
      exact absurd granted
        (settled.unnamed jwt header claims jwk second rest presented unnamed areKeys)

lemma FirstKeySettles.selects
  (settled : FirstKeySettles crates authHeader jwks expectedAudience now)
  (presented : Presents crates authHeader jwt header claims) (isKey : IsKeyOf jwks header jwk)
  (granted : Grants crates expectedAudience now jwt header claims jwk) :
  ∃ first, (∃ keys, jwksKeys jwks = some keys ∧ selectJwk header keys = some first) ∧
    Grants crates expectedAudience now jwt header claims first := by
  cases named : header.getStr "kid" with
  | none =>
    exact ⟨jwk, ⟨[jwk], isKey.only named,
      by rw [selectJwk_of_unnamed named, List.head?_cons]⟩, granted⟩
  | some kid =>
    obtain ⟨keys, areKeys, isListed⟩ := isKey.listed
    obtain ⟨first, found, granted'⟩ := settled.named jwt header claims kid keys jwk
      presented named areKeys isListed (isKey.named kid named) granted
    exact ⟨first, ⟨keys, areKeys, by rw [selectJwk_of_named named, found]⟩, granted'⟩

/-- Exactly the good tokens are authorized, if and only if the first key settles. -/
theorem accessControlled_iff_firstKeySettles :
  AccessControlled crates authHeader jwks expectedAudience now ↔
    FirstKeySettles crates authHeader jwks expectedAudience now := by
  constructor
  · intro controlled
    refine ⟨?_, ?_⟩
    · intro jwt header claims first second rest presented unnamed areKeys granted
      have authorized := authorizeBearerAud_eq_ok_iff.mpr ⟨jwt, header, first, presented,
        ⟨_, areKeys, by rw [selectJwk_of_unnamed unnamed, List.head?_cons]⟩, granted⟩
      obtain ⟨jwt', header', jwk, presented', isKey, -⟩ := (controlled claims).mp authorized
      obtain ⟨-, rfl⟩ := presented.unique presented'
      have single := areKeys.symm.trans (isKey.only unnamed)
      simp at single
    · intro jwt header claims kid keys jwk presented named areKeys isListed hasKid granted
      have isKey : IsKeyOf jwks header jwk :=
        ⟨⟨keys, areKeys, isListed⟩, by simp [named, hasKid], by simp [named]⟩
      have authorized := (controlled claims).mpr ⟨jwt, header, jwk, presented, isKey, granted⟩
      obtain ⟨jwt', header', first, presented', ⟨keys', areKeys', selected⟩, granted'⟩ :=
        authorizeBearerAud_eq_ok_iff.mp authorized
      obtain ⟨rfl, rfl⟩ := presented.unique presented'
      obtain rfl := Option.some.inj (areKeys.symm.trans areKeys')
      exact ⟨first, selectJwk_of_named named keys ▸ selected, granted'⟩
  · intro settled claims
    rw [authorizeBearerAud_eq_ok_iff]
    constructor
    · rintro ⟨jwt, header, jwk, presented, ⟨keys, areKeys, selected⟩, granted⟩
      exact ⟨jwt, header, jwk, presented,
        settled.isKeyOf presented areKeys selected granted, granted⟩
    · rintro ⟨jwt, header, jwk, presented, isKey, granted⟩
      obtain ⟨first, selected, granted'⟩ := settled.selects presented isKey granted
      exact ⟨jwt, header, first, presented, selected, granted'⟩

end Authorized

def tokenHeader : Json := .object [("alg", .string "ES256")]

def tokenClaims : AccessTokenClaims :=
  ⟨"nrf-1", "amf-1", .string "UDM", "nudm-sdm", 1000⟩

def plainCrates : OAuthCrates Bytes Bytes where
  b64urlDecode text := .ok (asBytes text)
  parseValue _ := .ok tokenHeader
  parseClaims _ := .ok tokenClaims
  display _ := ""
  fromEncodedPoint x _ := .ok x
  signatureFromSlice octets := .ok octets
  verify key _ signature := key.take 1 = signature

def publishedJwk (kid coordinate : String) : Json :=
  .object [("kty", .string "EC"), ("crv", .string "P-256"), ("kid", .string kid),
    ("x", .string coordinate), ("y", .string coordinate)]

def twoKeys : Json :=
  .object [("keys", .array [publishedJwk "new" "kkkkkkkkkkkkkkkkkkkkkkkkkkkkkkkk",
    publishedJwk "old" "oooooooooooooooooooooooooooooooo"])]

/-- A token that names no key is authorized under the first of two. -/
theorem unnamed_key_authorized :
  ¬ AccessControlled plainCrates (some "Bearer header.payload.k") twoKeys (some "UDM") 0 := by
  intro controlled
  have presented : Presents plainCrates (some "Bearer header.payload.k")
      ⟨"header", "payload", "k"⟩ tokenHeader tokenClaims :=
    ⟨by decide, by decide, ⟨_, rfl, rfl⟩, ⟨_, rfl, rfl⟩⟩
  have granted : Grants plainCrates (some "UDM") 0 ⟨"header", "payload", "k"⟩ tokenHeader
      tokenClaims (publishedJwk "new" "kkkkkkkkkkkkkkkkkkkkkkkkkkkkkkkk") :=
    ⟨by decide, ⟨_, _, _, rfl, rfl, rfl, rfl⟩, by decide,
      by simp [HasAudience, tokenClaims]⟩
  obtain ⟨jwt, header, jwk, presented', isKey, -⟩ := (controlled tokenClaims).mp
    (authorizeBearerAud_eq_ok_iff.mpr ⟨_, _, _, presented, ⟨_, rfl, rfl⟩, granted⟩)
  obtain ⟨-, rfl⟩ := presented.unique presented'
  exact absurd (isKey.only (by decide)) (by simp [twoKeys, jwksKeys, Json.get])

end NextGCore.Sbi
