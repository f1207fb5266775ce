import NextGCore.Udm.Context

/-!
# Sequence numbers and authentication data
-/

namespace NextGCore.Udm

open Nat

variable (value : ℕ)

abbrev Sqn := Vector UInt8 6

variable (sqn : Sqn)

def sqnValue : ℕ :=
  sqn.toList.foldl (fun value octet => value <<< 8 ||| octet.toNat) 0

def sqnOctets : Sqn :=
  .ofFn fun index => UInt8.ofNat ((value >>> ((5 - index.val) * 8)) &&& 0xFF)

def advanceSqnInd : Sqn :=
  let value := sqnValue sqn
  let seq := value >>> 5
  let ind := value &&& 0x1F
  sqnOctets ((((seq + 1) <<< 5) ||| ind) &&& 0xFFFFFFFFFFFF)

lemma append_octet (octet : UInt8) : value <<< 8 ||| octet.toNat = 256 * value + octet.toNat := by
  rw [← shiftLeft_add_eq_or_of_lt octet.toNat_lt, shiftLeft_eq, Nat.mul_comm]

lemma sqnValue_eq : sqnValue sqn =
    256 * (256 * (256 * (256 * (256 * (sqn.get 0).toNat + (sqn.get 1).toNat) +
      (sqn.get 2).toNat) + (sqn.get 3).toNat) + (sqn.get 4).toNat) + (sqn.get 5).toNat := by
  obtain ⟨⟨octets⟩, size⟩ := sqn
  match octets, size with
  | [_, _, _, _, _, _], _ =>
    simp only [sqnValue, Vector.toList_mk, List.foldl_cons, List.foldl_nil, append_octet,
      Nat.mul_zero, Nat.zero_add]
    rfl

lemma sqnValue_lt : sqnValue sqn < 2 ^ 48 := by
  rw [sqnValue_eq]
  have octet := fun index : Fin 6 => (sqn.get index).toNat_lt
  have := octet 0
  have := octet 1
  have := octet 2
  have := octet 3
  have := octet 4
  have := octet 5
  omega

lemma foldl_octets_lt {left right : List UInt8} (same : left.length = right.length)
  {smaller larger : ℕ} (order : smaller < larger) :
  left.foldl (fun value octet => value <<< 8 ||| octet.toNat) smaller <
    right.foldl (fun value octet => value <<< 8 ||| octet.toNat) larger := by
  induction left generalizing right smaller larger with
  | nil =>
    obtain rfl := List.length_eq_zero_iff.mp same.symm
    exact order
  | cons octet rest ih =>
    cases right with
    | nil => cases same
    | cons octet' rest' =>
      apply ih (Nat.succ.inj same)
      change smaller <<< 8 ||| octet.toNat < larger <<< 8 ||| octet'.toNat
      rw [append_octet, append_octet]
      have := octet.toNat_lt
      omega

lemma foldl_octets_lt_iff {left right : List UInt8} (same : left.length = right.length)
  (value : ℕ) :
  left.foldl (fun value octet => value <<< 8 ||| octet.toNat) value <
      right.foldl (fun value octet => value <<< 8 ||| octet.toNat) value ↔
    left < right := by
  induction left generalizing right value with
  | nil =>
    obtain rfl := List.length_eq_zero_iff.mp same.symm
    simp
  | cons octet rest ih =>
    cases right with
    | nil => cases same
    | cons octet' rest' =>
      have lengths : rest.length = rest'.length := Nat.succ.inj same
      have keepsOrder : ∀ {low high : UInt8}, low < high →
          value <<< 8 ||| low.toNat < value <<< 8 ||| high.toNat := by
        intro low high order
        rw [append_octet, append_octet]
        exact Nat.add_lt_add_left (UInt8.lt_iff_toNat_lt.mp order) _
      rw [List.cons_lt_cons_iff, List.foldl_cons, List.foldl_cons]
      rcases Nat.lt_trichotomy octet.toNat octet'.toNat with below | equal | above
      · have below := UInt8.lt_iff_toNat_lt.mpr below
        exact iff_of_true (foldl_octets_lt lengths (keepsOrder below)) (.inl below)
      · obtain rfl := UInt8.toNat_inj.mp equal
        rw [ih lengths]
        simp
      · have above := UInt8.lt_iff_toNat_lt.mpr above
        refine iff_of_false ?_ ?_
        · apply Nat.lt_asymm
          exact foldl_octets_lt lengths.symm (keepsOrder above)
        · rintro (below | ⟨rfl, -⟩)
          · exact UInt8.lt_asymm above below
          · exact UInt8.lt_irrefl _ above

lemma sqnValue_lt_iff (left right : Sqn) :
  sqnValue left < sqnValue right ↔ left.toList < right.toList :=
  foldl_octets_lt_iff (by simp) 0

lemma sqnOctets_get (index : Fin 6) :
  ((sqnOctets value).get index).toNat = value / 2 ^ ((5 - index.val) * 8) % 256 := by
  have masked := and_two_pow_sub_one_eq_mod (value >>> ((5 - index.val) * 8)) 8
  rw [shiftRight_eq_div_pow] at masked
  have octet : (sqnOctets value).get index =
      UInt8.ofNat (value / 2 ^ ((5 - index.val) * 8) &&& 2 ^ 8 - 1) := by
    rw [← shiftRight_eq_div_pow]
    exact Vector.getElem_ofFn index.isLt
  rw [octet, masked]
  simp

lemma sqnValue_sqnOctets : sqnValue (sqnOctets value) = value % 2 ^ 48 := by
  have octet0 : ((sqnOctets value).get 0).toNat = value / 2 ^ 40 % 256 := sqnOctets_get value 0
  have octet1 : ((sqnOctets value).get 1).toNat = value / 2 ^ 32 % 256 := sqnOctets_get value 1
  have octet2 : ((sqnOctets value).get 2).toNat = value / 2 ^ 24 % 256 := sqnOctets_get value 2
  have octet3 : ((sqnOctets value).get 3).toNat = value / 2 ^ 16 % 256 := sqnOctets_get value 3
  have octet4 : ((sqnOctets value).get 4).toNat = value / 2 ^ 8 % 256 := sqnOctets_get value 4
  have octet5 : ((sqnOctets value).get 5).toNat = value / 2 ^ 0 % 256 := sqnOctets_get value 5
  rw [sqnValue_eq, octet0, octet1, octet2, octet3, octet4, octet5]
  omega

lemma sqnValue_advanceSqnInd : sqnValue (advanceSqnInd sqn) = (sqnValue sqn + 32) % 2 ^ 48 := by
  have ind : sqnValue sqn &&& 0x1F = sqnValue sqn % 32 :=
    and_two_pow_sub_one_eq_mod (sqnValue sqn) 5
  have small : sqnValue sqn % 32 < 2 ^ 5 := mod_lt _ (by decide)
  have mask : ∀ value : ℕ, value &&& 0xFFFFFFFFFFFF = value % 2 ^ 48 :=
    fun value => and_two_pow_sub_one_eq_mod value 48
  unfold advanceSqnInd
  rw [sqnValue_sqnOctets, mask, ind, ← shiftLeft_add_eq_or_of_lt small,
    shiftLeft_eq, shiftRight_eq_div_pow]
  omega

lemma sqnValue_iterate (count : ℕ) :
  sqnValue (advanceSqnInd^[count] sqn) = (sqnValue sqn + 32 * count) % 2 ^ 48 := by
  induction count with
  | zero => simpa using (mod_eq_of_lt (sqnValue_lt sqn)).symm
  | succ count ih =>
    rw [Function.iterate_succ_apply', sqnValue_advanceSqnInd, ih]
    omega

lemma advanceSqnInd_iterate_ne {earlier later : ℕ} (order : earlier < later)
  (bound : later < 2 ^ 43) : advanceSqnInd^[earlier] sqn ≠ advanceSqnInd^[later] sqn := by
  intro same
  have values := congrArg sqnValue same
  rw [sqnValue_iterate, sqnValue_iterate] at values
  omega

lemma advanceSqnInd_iterate_lt {earlier later : ℕ} (order : earlier < later)
  (bound : sqnValue sqn + 32 * later < 2 ^ 48) :
  sqnValue (advanceSqnInd^[earlier] sqn) < sqnValue (advanceSqnInd^[later] sqn) := by
  rw [sqnValue_iterate, sqnValue_iterate]
  omega

/-!
## Generating authentication data

`handle_generate_auth_data` up to its request to store the advanced SQN, and
from the answer to that request on.  Between the two the handler waits, and
other requests run.  MILENAGE's functions and the key derivations are
parameters.
-/

open Sbi
open Crypt (Bytes)

structure AuthPrimitives where
  /-- `milenage_f1(opc, k, rand, sqn, amf)`: MAC-A and MAC-S. -/
  milenageF1 : Vector UInt8 16 → Vector UInt8 16 → Vector UInt8 16 → Sqn → Vector UInt8 2 →
    Option (Vector UInt8 8 × Vector UInt8 8)
  /-- `milenage_f2345(opc, k, rand)`: RES, CK, IK, AK and AK*. -/
  milenageF2345 : Vector UInt8 16 → Vector UInt8 16 → Vector UInt8 16 →
    Option (Vector UInt8 8 × Vector UInt8 16 × Vector UInt8 16 × Vector UInt8 6 × Vector UInt8 6)
  /-- `nextgcore_kdf_ck_ik_prime(ck, ik, snn, sqn_xor_ak)`. -/
  kdfCkIkPrime : Vector UInt8 16 → Vector UInt8 16 → String → Vector UInt8 6 →
    Vector UInt8 16 × Vector UInt8 16
  /-- `nextgcore_kdf_kausf(ck, ik, snn, autn)`. -/
  kdfKausf : Vector UInt8 16 → Vector UInt8 16 → String → Vector UInt8 16 → Vector UInt8 32
  /-- `nextgcore_kdf_xres_star(ck, ik, snn, rand, xres)`. -/
  kdfXresStar : Vector UInt8 16 → Vector UInt8 16 → String → Vector UInt8 16 → Vector UInt8 8 →
    Vector UInt8 16

variable (primitives : AuthPrimitives)

def xor6 (left right : Vector UInt8 6) : Vector UInt8 6 :=
  .zipWith (· ^^^ ·) left right

/-- What `milenage_generate` returns, without AK: AUTN is
`(SQN ^ AK) || AMF || MAC`. -/
structure MilenageVector where
  sqnXorAk : Vector UInt8 6
  amf : Vector UInt8 2
  macA : Vector UInt8 8
  ik : Vector UInt8 16
  ck : Vector UInt8 16
  res : Vector UInt8 8

def MilenageVector.autn (vector : MilenageVector) : Vector UInt8 16 :=
  vector.sqnXorAk ++ vector.amf ++ vector.macA

namespace AuthPrimitives

variable (primitives : AuthPrimitives)

def milenageGenerate (opc : Vector UInt8 16) (amf : Vector UInt8 2) (k : Vector UInt8 16)
  (sqn : Sqn) (rand : Vector UInt8 16) : Option MilenageVector := do
  let (macA, _) ← primitives.milenageF1 opc k rand sqn amf
  let (res, ck, ik, ak, _) ← primitives.milenageF2345 opc k rand
  return { sqnXorAk := xor6 sqn ak, amf := amf, macA := macA, ik := ik, ck := ck, res := res }

def aucSqn (opc k rand : Vector UInt8 16) (concSqnMs : Vector UInt8 6) :
  Option (Sqn × Vector UInt8 8) := do
  let (_, _, _, _, akStar) ← primitives.milenageF2345 opc k rand
  let sqnMs := xor6 akStar concSqnMs
  let (_, macS) ← primitives.milenageF1 opc k rand sqnMs (.replicate 2 0)
  return (sqnMs, macS)

end AuthPrimitives

def mandatoryServingNetworkName (authInfo : Json) : Except Ending String :=
  match authInfo.getStr "servingNetworkName" with
  | some name =>
    if name = "" then
      .error (.respond (sendProblem 400 "MANDATORY_IE_MISSING"
        "AuthenticationInfoRequest.servingNetworkName is missing"))
    else .ok name
  | none =>
    .error (.respond (sendProblem 400 "MANDATORY_IE_MISSING"
      "AuthenticationInfoRequest.servingNetworkName is missing"))

def checkAusfInstanceId (authInfo : Json) : Except Ending Unit :=
  if (authInfo.getStr "ausfInstanceId").getD "" = "" then
    .error (.respond (sendProblem 400 "MANDATORY_IE_MISSING"
      "AuthenticationInfoRequest.ausfInstanceId is missing"))
  else .ok ()

def checkServingNetworkName (name : String) : Except Ending Unit :=
  if validateServingNetworkName name then .ok ()
  else
    .error (.respond (sendProblem 403 "SERVING_NETWORK_NOT_AUTHORIZED"
      ("Invalid serving network name '" ++ name ++ "'")))

def authenticationInfo (request : SbiRequest) : Except Ending (Json × String) := do
  let authInfo ← request.bodyOrEnd
  let servingNetworkName ← mandatoryServingNetworkName authInfo
  checkAusfInstanceId authInfo
  checkServingNetworkName servingNetworkName
  return (authInfo, servingNetworkName)

def authSubscription (get : Answer) : Except Ending Json :=
  match get with
  | .ok response =>
    if response.isSuccess then
      match response.content.parsed with
      | some subscription => .ok subscription
      | none => .error (.respond (sendProblem 500 "UNSPECIFIED" "Invalid UDR response"))
    else if response.status = 404 then
      .error (.respond (sendProblem 404 "USER_NOT_FOUND" "No authentication subscription"))
    else .error (.respond (sendServiceUnavailable "UDR query failed"))
  | .error _ => .error (.respond (sendServiceUnavailable "UDR unavailable"))

structure SubscriptionMaterial where
  authMethod : String
  kHex : String
  opcHex : String
  amfHex : String
  sqnHex : String

def subscriptionMaterial (subscription : Json) : Except Ending SubscriptionMaterial :=
  let authMethod := (subscription.getStr "authenticationMethod").getD "5G_AKA"
  if authMethod ≠ "5G_AKA" ∧ authMethod ≠ "EAP_AKA_PRIME" then
    .error (.respond (sendProblem 501 "UNSUPPORTED_AUTHENTICATION_METHOD"
      ("Authentication method '" ++ authMethod ++ "' is not supported")))
  else
    match subscription.getStr "encPermanentKey", subscription.getStr "encOpcKey",
        subscription.getStr "authenticationManagementField",
        (subscription.get "sequenceNumber").bind (Json.getStr "sqn") with
    | some kHex, some opcHex, some amfHex, some sqnHex =>
      .ok ⟨authMethod, kHex, opcHex, amfHex, sqnHex⟩
    | _, _, _, _ =>
      .error (.respond (sendProblem 500 "UNSPECIFIED"
        "Authentication subscription incomplete (K/OPc/AMF/SQN)"))

def findOrAddUe (deconcealSuci : String → Option String) (context : UdmContext)
  (supiOrSuci supi : String) : Option (UdmContext × UdmUe) :=
  match context.ueFindBySuci supiOrSuci with
  | some ue => some (context, ue)
  | none =>
    match context.ueFindBySupi supi with
    | some ue => some (context, ue)
    | none => context.ueAdd deconcealSuci supiOrSuci

def loadMaterial (material : SubscriptionMaterial) (ue : UdmUe) : Except Ending UdmUe := do
  let kBytes ← orPanic (hexToBytes material.kHex)
  let opcBytes ← orPanic (hexToBytes material.opcHex)
  let amfBytes ← orPanic (hexToBytes material.amfHex)
  let sqnBytes ← orPanic (hexToBytes material.sqnHex)
  match firstOctets 16 kBytes, firstOctets 16 opcBytes, firstOctets 2 amfBytes,
      firstOctets 6 sqnBytes with
  | some k, some opc, some amf, some sqn =>
    -- The separation bit of the authentication management field.
    if amf.toList.headD 0 &&& 0x80 = 0 then
      .error (.respond (sendProblem 403 "AUTHENTICATION_REJECTED"
        "AMF separation bit (TS 33.102 Annex H) not set for 5G authentication"))
    else .ok { ue with k := k, opc := opc, amf := amf, sqn := sqn }
  | _, _, _, _ =>
    .error (.respond (sendProblem 500 "UNSPECIFIED" "Malformed subscription key material"))

def resynchronize (authInfo : Json) (ue : UdmUe) : Except Ending UdmUe :=
  match authInfo.get "resynchronizationInfo" with
  | none => .ok ue
  | some resync => do
    let (randHex, autsHex) ←
      match resync.getStr "rand", resync.getStr "auts" with
      | some randHex, some autsHex =>
        if randHex = "" ∨ autsHex = "" then
          .error (.respond (sendProblem 400 "MANDATORY_IE_MISSING"
            "resynchronizationInfo requires both rand and auts"))
        else .ok (randHex, autsHex)
      | _, _ =>
        .error (.respond (sendProblem 400 "MANDATORY_IE_MISSING"
          "resynchronizationInfo requires both rand and auts"))
    let randBytes ← orPanic (hexToBytes randHex)
    let autsBytes ← orPanic (hexToBytes autsHex)
    if randBytes.length ≠ 16 ∨ autsBytes.length ≠ 14 then
      .error (.respond (sendProblem 400 "INVALID_FORMAT" "Invalid RAND/AUTS length"))
    if randBytes ≠ ue.rand.toList then
      .error (.respond (sendProblem 400 "INVALID_FORMAT" "RAND mismatch in resynchronization"))
    let concSqnMs ← orPanic (firstOctets 6 autsBytes)
    match primitives.aucSqn ue.opc ue.k ue.rand concSqnMs with
    | none => .error (.respond (sendProblem 500 "UNSPECIFIED" "SQN extraction failed"))
    | some (sqnMs, macS) =>
      if macS.toList ≠ autsBytes.drop 6 then
        .error (.respond (sendProblem 403 "AUTHENTICATION_REJECTED"
          "AUTS MAC-S verification failed"))
      else .ok { ue with sqn := sqnOctets ((sqnValue sqnMs + 1) &&& 0xFFFFFFFFFFFF) }

/-- A request whose vector is computed and whose SQN is being stored.  The
vector is MILENAGE's for the SQN of the record. -/
structure PendingVector (primitives : AuthPrimitives) where
  supi : String
  authMethod : String
  servingNetworkName : String
  ue : UdmUe
  vector : MilenageVector
  generated : primitives.milenageGenerate ue.opc ue.amf ue.k ue.sqn ue.rand = some vector

def generateVector (supi authMethod servingNetworkName : String) (ue : UdmUe) :
  Except Ending (PendingVector primitives) :=
  match generated : primitives.milenageGenerate ue.opc ue.amf ue.k ue.sqn ue.rand with
  | some vector => .ok ⟨supi, authMethod, servingNetworkName, ue, vector, generated⟩
  | none => .error (.respond (sendInternalError "Milenage computation failed"))

inductive Begun (primitives : AuthPrimitives) where
  | stopped (stop : Ending)
  | storing (pending : PendingVector primitives)

/-- The handler from the request to the PATCH of the SQN; `get` is the UDR's
answer for a SUPI and `rand` what the generator draws. -/
def beginAuthData (deconcealSuci : String → Option String) (context : UdmContext)
  (supiOrSuci : String) (request : SbiRequest) (get : String → Answer) (rand : Vector UInt8 16) :
  UdmContext × Begun primitives :=
  let prepared : Except Ending (Json × String × String × SubscriptionMaterial) := do
    let (authInfo, servingNetworkName) ← authenticationInfo request
    match deconcealSuci supiOrSuci with
    | none =>
      .error (.respond (sendProblem 403 "AUTHENTICATION_REJECTED"
        "SUCI deconcealment failed (unknown key id, scheme, or MAC failure)"))
    | some supi =>
      let subscription ← authSubscription (get supi)
      let material ← subscriptionMaterial subscription
      return (authInfo, servingNetworkName, supi, material)
  match prepared with
  | .error stop => (context, .stopped stop)
  | .ok (authInfo, servingNetworkName, supi, material) =>
    match findOrAddUe deconcealSuci context supiOrSuci supi with
    | none =>
      (context, .stopped (.respond (sendServiceUnavailable "UE context creation failed")))
    | some (context, ue) =>
      let generated : Except Ending (PendingVector primitives) := do
        let ue ← loadMaterial material
          { ue with servingNetworkName := some servingNetworkName, supi := some supi }
        let ue ← resynchronize primitives authInfo ue
        generateVector primitives supi material.authMethod servingNetworkName
          { ue with rand := rand }
      match generated with
      | .error stop => (context, .stopped stop)
      | .ok pending =>
        ((context.ueUpdate pending.ue).ueSetSupi pending.ue.id supi, .storing pending)

def sqnPatchOutcome (patch : Answer) : Option SbiResponse :=
  match patch with
  | .ok response =>
    if response.isSuccess then none
    else if 500 ≤ response.status then some (sendServiceUnavailable "UDR SQN update failed")
    -- Other refusals are tolerated and the vector is issued.
    else none
  | .error _ => some (sendServiceUnavailable "UDR unavailable")

def authenticationInfoResult (pending : PendingVector primitives) : SbiResponse :=
  let vector := pending.vector
  let snn := pending.servingNetworkName
  let hex {count : ℕ} (octets : Vector UInt8 count) : Json := .string (bytesToHex octets.toList)
  if pending.authMethod = "EAP_AKA_PRIME" then
    let (ckPrime, ikPrime) := primitives.kdfCkIkPrime vector.ck vector.ik snn vector.sqnXorAk
    .withJsonBody 200 <| .object [("authType", .string "EAP_AKA_PRIME"),
        ("authenticationVector", .object
          [("avType", .string "EAP_AKA_PRIME"), ("rand", hex pending.ue.rand),
            ("autn", hex vector.autn), ("xres", hex vector.res),
            ("ckPrime", hex ckPrime), ("ikPrime", hex ikPrime)]),
        ("supi", .string pending.supi)]
  else
    let kausf := primitives.kdfKausf vector.ck vector.ik snn vector.autn
    let xresStar := primitives.kdfXresStar vector.ck vector.ik snn pending.ue.rand vector.res
    .withJsonBody 200 <| .object [("authType", .string "5G_AKA"), ("authenticationVector", .object
          [("avType", .string "5G_HE_AKA"), ("rand", hex pending.ue.rand),
            ("autn", hex vector.autn), ("xresStar", hex xresStar), ("kausf", hex kausf)]),
        ("supi", .string pending.supi)]

def finishAuthData (pending : PendingVector primitives) (patch : Answer) : SbiResponse :=
  match sqnPatchOutcome patch with
  | some refusal => refusal
  | none => authenticationInfoResult primitives pending

lemma authenticationInfoResult_status (pending : PendingVector primitives) :
  (authenticationInfoResult primitives pending).status = 200 := by
  unfold authenticationInfoResult
  split
  · rfl
  · rfl

lemma finishAuthData_status_iff (pending : PendingVector primitives) (patch : Answer) :
  (finishAuthData primitives pending patch).status = 200 ↔ sqnPatchOutcome patch = none := by
  unfold finishAuthData
  cases outcome : sqnPatchOutcome patch with
  | none => simp [authenticationInfoResult_status]
  | some refusal =>
    have unavailable : refusal.status = 503 := by
      unfold sqnPatchOutcome at outcome
      cases patch with
      | error message =>
        cases outcome
        rfl
      | ok response =>
        simp only at outcome
        split at outcome
        · cases outcome
        · split at outcome
          · cases outcome
            rfl
          · cases outcome
    simp [unavailable]

lemma authenticationInfo_eq_ok {request : SbiRequest} {authInfo : Json} {name : String}
  (checked : authenticationInfo request = .ok (authInfo, name)) :
  request.content = .json authInfo := by
  obtain ⟨body, read, afterBody⟩ := bind_eq_ok checked
  obtain ⟨servingNetworkName, -, afterName⟩ := bind_eq_ok afterBody
  obtain ⟨-, -, afterInstance⟩ := bind_eq_ok afterName
  obtain ⟨-, -, result⟩ := bind_eq_ok afterInstance
  cases result
  exact SbiRequest.bodyOrEnd_eq_ok read

lemma subscriptionMaterial_eq_ok {subscription : Json} {material : SubscriptionMaterial}
  (complete : subscriptionMaterial subscription = .ok material) :
  (subscription.get "sequenceNumber").bind (Json.getStr "sqn") = some material.sqnHex := by
  unfold subscriptionMaterial at complete
  simp only at complete
  split at complete
  · cases complete
  · split at complete
    · next sqnPresent =>
        cases complete
        exact sqnPresent
    · cases complete

lemma loadMaterial_eq_ok {material : SubscriptionMaterial} {ue loaded : UdmUe}
  (finished : loadMaterial material ue = .ok loaded) :
  (hexToBytes material.sqnHex).bind (firstOctets 6) = some loaded.sqn := by
  obtain ⟨kBytes, -, afterK⟩ := bind_eq_ok finished
  obtain ⟨opcBytes, -, afterOpc⟩ := bind_eq_ok afterK
  obtain ⟨amfBytes, -, afterAmf⟩ := bind_eq_ok afterOpc
  obtain ⟨sqnBytes, sqnRead, afterSqn⟩ := bind_eq_ok afterAmf
  rw [orPanic_eq_ok sqnRead, Option.bind_some]
  split at afterSqn
  · next sqnPresent =>
      split at afterSqn
      · cases afterSqn
      · cases afterSqn
        exact sqnPresent
  · cases afterSqn

lemma resynchronize_absent {authInfo : Json}
  (absent : authInfo.get "resynchronizationInfo" = none) (ue : UdmUe) :
  resynchronize primitives authInfo ue = .ok ue := by
  unfold resynchronize
  rw [absent]

lemma generateVector_eq_ok {primitives : AuthPrimitives} {supi authMethod name : String}
  {ue : UdmUe} {pending : PendingVector primitives}
  (generated : generateVector primitives supi authMethod name ue = .ok pending) :
  pending.supi = supi ∧ pending.ue = ue := by
  unfold generateVector at generated
  split at generated
  · cases generated
    exact ⟨rfl, rfl⟩
  · cases generated

lemma beginAuthData_storing {primitives : AuthPrimitives}
  {deconcealSuci : String → Option String} {context next : UdmContext}
  {supiOrSuci : String} {request : SbiRequest} {get : String → Answer}
  {rand : Vector UInt8 16} {pending : PendingVector primitives}
  (begun : beginAuthData primitives deconcealSuci context supiOrSuci request get rand =
    (next, .storing pending))
  (absent : ∀ body, request.content = .json body → body.get "resynchronizationInfo" = none) :
  ∃ subscription sqnHex, authSubscription (get pending.supi) = .ok subscription ∧
    (subscription.get "sequenceNumber").bind (Json.getStr "sqn") = some sqnHex ∧
    (hexToBytes sqnHex).bind (firstOctets 6) = some pending.ue.sqn := by
  unfold beginAuthData at begun
  simp only at begun
  split at begun
  · cases begun
  · next authInfo name supi material prepared =>
      split at begun
      · cases begun
      · next found ue added =>
          split at begun
          · cases begun
          · next storing generated =>
              cases begun
              obtain ⟨⟨body, checkedName⟩, checked, afterChecks⟩ := bind_eq_ok prepared
              split at afterChecks
              · cases afterChecks
              · next resolved _ =>
                  obtain ⟨subscription, subscribed, afterGet⟩ := bind_eq_ok afterChecks
                  obtain ⟨ownMaterial, complete, result⟩ := bind_eq_ok afterGet
                  cases result
                  obtain ⟨loaded, loading, afterLoad⟩ := bind_eq_ok generated
                  rw [resynchronize_absent primitives
                    (absent _ (authenticationInfo_eq_ok checked))] at afterLoad
                  obtain ⟨sameSupi, sameUe⟩ := generateVector_eq_ok afterLoad
                  have sqnLoaded := loadMaterial_eq_ok loading
                  rw [sameSupi, sameUe]
                  exact ⟨subscription, material.sqnHex, subscribed,
                    subscriptionMaterial_eq_ok complete, sqnLoaded⟩

end NextGCore.Udm
