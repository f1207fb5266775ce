import NextGCore.Ausf.Context
import NextGCore.Library.Machine

/-!
# The handlers of Nausf_UEAuthentication

A handler that asks the UDM is in two parts: up to the request, and from the
answer on.  What it holds in between is its own copy of the UE record, which
it writes back whole.  The others run in one step.
-/

namespace NextGCore.Ausf

open Sbi
open Crypt (Bytes)

structure PendingAuthentication where
  supiOrSuci : String
  servingNetworkName : String
  resyncInfo : Option ResynchronizationInfo
  ue : AusfUe

structure PendingResync where
  authCtxId : String
  identity : String
  resyncInfo : ResynchronizationInfo
  ue : AusfUe
  session : EapAkaSession

inductive PendingUdm where
  | authentication (pending : PendingAuthentication)
  | resync (pending : PendingResync)

inductive Step where
  | ended (ending : Ending)
  | awaiting (pending : PendingUdm)

def hexJson {count : ℕ} (octets : Vector UInt8 count) : Json :=
  .string (bytesToHex octets.toList)

def confirmationLink (name authCtxId resource : String) : String × Json :=
  ("_links", .object [(name, .object [("href", .string
        ("/nausf-auth/v1/ue-authentications/" ++ authCtxId ++ "/" ++ resource))])])

def validateAuthenticationInfo (supiOrSuci : String) (servingNetworkName : Option String) :
  Except String String :=
  if supiOrSuci = "" then .error "No supiOrSuci"
  else
    match servingNetworkName with
    | some name => if name = "" then .error "No servingNetworkName" else .ok name
    | none => .error "No servingNetworkName"

def normalizeMnc3 (mnc : String) : List Char :=
  if (asBytes mnc).length = 2 then '0' :: mnc.toList else mnc.toList

def snnAuthorizedForConsumer (snn : String) (consumerPlmns : List (String × String)) : Bool :=
  if consumerPlmns.isEmpty then true
  else
    match parseSnnPlmn snn with
    | none => true
    | some (snnMcc, snnMnc) =>
      consumerPlmns.any fun (mcc, mnc) =>
        mcc.toList == snnMcc && normalizeMnc3 mnc == snnMnc

def findOrAddUe (context : AusfContext) (supiOrSuci : String) :
  Option (AusfContext × AusfUe) :=
  match context.ues.ueFindBySuciOrSupi supiOrSuci with
  | some ue => some (context, ue)
  | none => context.ueAdd supiOrSuci

def readResyncInfo (authInfo : Json) : Option ResynchronizationInfo := do
  let info ← authInfo.get "resynchronizationInfo"
  let rand ← info.getStr "rand"
  let auts ← info.getStr "auts"
  return ⟨rand, auts⟩

/-- `consumerPlmns` is what the access token of the request says. -/
def handleUeAuthentication (context : AusfContext) (request : SbiRequest)
  (consumerPlmns : List (String × String)) : AusfContext × Step :=
  match request.body with
  | .error refusal => (context, .ended (.respond refusal))
  | .ok authInfo =>
    let supiOrSuci := (authInfo.getStr "supiOrSuci").getD "unknown"
    match validateAuthenticationInfo supiOrSuci (authInfo.getStr "servingNetworkName") with
    | .error message =>
      (context, .ended (.respond (sendBadRequest message (some "INVALID_REQUEST"))))
    | .ok snn =>
      if ¬ validateServingNetworkName snn then
        (context, .ended (.respond (sendProblem 403 "SERVING_NETWORK_NOT_AUTHORIZED"
          ("Invalid serving network name '" ++ snn ++ "'"))))
      else if ¬ snnAuthorizedForConsumer snn consumerPlmns then
        (context, .ended (.respond (sendProblem 403 "SERVING_NETWORK_NOT_AUTHORIZED"
          ("Serving network '" ++ snn ++ "' not allowed for consumer"))))
      else
        match findOrAddUe context supiOrSuci with
        | none =>
          (context, .ended (.respond
            (sendBadRequest "Failed to allocate UE context" (some "INTERNAL_ERROR"))))
        | some (context, ue) =>
          (context, .awaiting (.authentication
            { supiOrSuci := supiOrSuci
              servingNetworkName := snn
              resyncInfo := readResyncInfo authInfo
              ue := { ue with servingNetworkName := some snn } }))

def storeUe (context : AusfContext) (ue : AusfUe) (supi : Option String) : AusfContext :=
  match supi with
  | none => context.ueUpdate ue
  | some supi => (context.ueUpdate ue).ueSetSupi ue.id supi

section Primitives

variable (primitives : AusfPrimitives)

def createdResponse (ue : AusfUe) (body : List (String × Json)) : SbiResponse :=
  { status := 201
    location := some ("/nausf-auth/v1/ue-authentications/" ++ ue.ctxId)
    content := .json (.object body) }

def withFiveGAka (ue : AusfUe) (supi : Option String) (rand xresStar autn : Vector UInt8 16)
  (kausf : Vector UInt8 32) : AusfUe :=
  AusfUe.calculateHxresStar primitives
    { ue with
      authType := .fiveGAka
      rand := rand
      xresStar := xresStar
      autn := autn
      kausf := kausf
      eapSession := none
      supi := supi.or ue.supi }

def withEapAkaPrime (ue : AusfUe) (supi : Option String) (session : EapAkaSession) : AusfUe :=
  { ue with
    authType := .eapAkaPrime
    supi := supi.or ue.supi
    rand := session.rand
    autn := session.autn
    kausf := session.kausf
    eapSession := some session }

def eapPayload (packet : Bytes) : Json :=
  .string (base64Encode packet)

def resumeUeAuthentication (context : AusfContext) (pending : PendingAuthentication)
  (answer : Answer) : AusfContext × Ending :=
  match udmAuthData answer with
  | .error ending => (context, ending)
  | .ok (.ok (.fiveGAka supi rand xresStar autn kausf)) =>
    let ue := withFiveGAka primitives pending.ue supi rand xresStar autn kausf
    (storeUe context ue supi, .respond <| createdResponse ue [("authType", .string "5G_AKA"),
        ("5gAuthData", .object [("rand", hexJson ue.rand), ("hxresStar", hexJson ue.hxresStar),
            ("autn", hexJson ue.autn)]),
        confirmationLink "5g-aka" ue.ctxId "5g-aka-confirmation",
        ("servingNetworkName", .string pending.servingNetworkName)])
  | .ok (.ok (.eapAkaPrime supi rand xres autn ckPrime ikPrime)) =>
    let identity := (supi.or pending.ue.supi).getD pending.supiOrSuci
    let session := (EapAkaSession.new pending.servingNetworkName).initFromTransformedAv
      primitives rand autn xres ckPrime ikPrime identity
    let ue := withEapAkaPrime pending.ue supi session
    (storeUe context ue supi, .respond <| createdResponse ue [("authType", .string "EAP_AKA_PRIME"),
        ("5gAuthData", eapPayload (session.generateChallenge primitives).encode),
        confirmationLink "eap-session" ue.ctxId "eap-session",
        ("servingNetworkName", .string pending.servingNetworkName)])
  -- The copy taken before the request to the UDM is written back.
  | .ok (.error error) =>
    (context.ueUpdate pending.ue,
      .respond (sendProblem 503 "UDM_UNAVAILABLE" ("Failed to contact UDM: " ++ error)))

def readResStar (confirmation : Json) : Except SbiResponse (Option String) :=
  match confirmation.get "resStar" with
  | none => .ok none
  | some value =>
    if value.isNull then .ok none
    else
      match value.asStr with
      | some hex =>
        if hex = "" then
          .error (sendBadRequest "ConfirmationData.resStar present but not a valid string"
            (some "INVALID_REQUEST"))
        else .ok (some hex)
      | none =>
        .error (sendBadRequest "ConfirmationData.resStar present but not a valid string"
          (some "INVALID_REQUEST"))

def compareResStar (resStar xresStar : Bytes) : Bool :=
  resStar.length == xresStar.length &&
    (resStar.zip xresStar).foldl (fun diff pair => diff ||| (pair.1 ^^^ pair.2)) 0 == 0

def supiMember (ue : AusfUe) (supi : Json) : List (String × Json) :=
  if startsWith "suci-" ue.suci then [("supi", supi)] else []

def failureBody : Json :=
  .object [("authResult", .string "AUTHENTICATION_FAILURE")]

def confirmedUe (ue : AusfUe) (success : Bool) : AusfUe :=
  if success
  then AusfUe.calculateKseaf primitives { ue with authResult := .authenticationSuccess }
  else { ue with authResult := .authenticationFailure }

def confirmResStar (context : AusfContext) (ue : AusfUe) (supi : String)
  (resStar : Vector UInt8 16) : AusfContext × Ending :=
  let success := compareResStar resStar.toList ue.xresStar.toList
  let ue := confirmedUe primitives ue success
  let context := context.ueUpdate ue
  let context := if success then context.anchorRefresh supi ue.kausf else context
  match ue.servingNetworkName with
  -- `expect` on the name for the UDM.
  | none => (context, .panic)
  | some _ =>
    let body :=
      if success then
        .object ([("authResult", .string "AUTHENTICATION_SUCCESS"),
          ("kseaf", hexJson ue.kseaf)] ++ supiMember ue (.string supi))
      else failureBody
    (context, .respond (.withJsonBody 200 body))

def handle5gAkaConfirmation (context : AusfContext) (authCtxId : String)
  (request : SbiRequest) : AusfContext × Ending :=
  match request.body with
  | .error refusal => (context, .respond refusal)
  | .ok confirmation =>
    match readResStar confirmation with
    | .error refusal => (context, .respond refusal)
    | .ok resStarHex =>
      match context.ues.ueFindByCtxId authCtxId with
      | none => (context, .respond (sendNotFound "Authentication context not found" none))
      | some ue =>
        match resStarHex with
        | none =>
          (context.ueUpdate { ue with authResult := .authenticationFailure },
            .respond (.withJsonBody 200 failureBody))
        | some hex =>
          match ue.supi with
          | none =>
            (context, .respond (sendBadRequest "No SUPI available for UE" (some "MISSING_SUPI")))
          | some supi =>
            match hexToBytes hex with
            | none => (context, .panic)
            | some bytes =>
              match exactOctets 16 bytes with
              | none =>
                (context, .respond (sendBadRequest
                  "Invalid ConfirmationData.resStar (bad hex or wrong length)"
                  (some "INVALID_REQUEST")))
              | some resStar => confirmResStar primitives context ue supi resStar

def eapFailureBody (eapId : UInt8) : Json :=
  .object
    [("authResult", .string "AUTHENTICATION_FAILURE"), ("eapPayload", eapPayload [4, eapId, 0, 4])]

def challengeBody (authCtxId : String) (session : EapAkaSession) : Json :=
  .object [("eapPayload", eapPayload (session.generateChallenge primitives).encode),
      confirmationLink "eap-session" authCtxId "eap-session"]

def verifiedUe (ue : AusfUe) (success : Bool) (session : EapAkaSession) : AusfUe :=
  let ue :=
    if success then
      AusfUe.calculateKseaf primitives
        { ue with authResult := .authenticationSuccess, kausf := session.kausf }
    else { ue with authResult := .authenticationFailure }
  { ue with eapSession := some session }

def verifyChallengeResponse (context : AusfContext) (ue : AusfUe) (session : EapAkaSession)
  (eapBytes : Bytes) (eapId : UInt8) : AusfContext × Ending :=
  match session.processChallengeResponseBytes primitives eapBytes with
  | .error ending => (context, ending)
  | .ok (success, session) =>
    let ue := verifiedUe primitives ue success session
    let context := context.ueUpdate ue
    if success then
      let context :=
        match ue.supi with
        | some supi => context.anchorRefresh supi ue.kausf
        | none => context
      (context, .respond <| .withJsonBody 200 <| .object <|
        [("authResult", .string "AUTHENTICATION_SUCCESS"), ("kSeaf", hexJson ue.kseaf)] ++
          supiMember ue (.ofOption ue.supi) ++ [("eapPayload", eapPayload [3, eapId, 0, 4])])
    else (context, .respond (.withJsonBody 200 (eapFailureBody eapId)))

def eapChallengeResponse (context : AusfContext) (authCtxId : String) (ue : AusfUe)
  (session : EapAkaSession) (eapBytes : Bytes) (eapId : UInt8) : AusfContext × Ending :=
  match EapPacket.decode eapBytes with
  | .error ending => (context, ending)
  | .ok decoded =>
    match (decoded.map session.checkKdfAndBidding).getD .accept with
    | .biddingDown | .unsupported _ =>
      (context.ueUpdate
          { ue with authResult := .authenticationFailure, eapSession := some session },
        .respond (.withJsonBody 200 (eapFailureBody eapId)))
    | .renegotiate kdf =>
      let session :=
        { session with
          offeredKdf := kdf
          kdfRenegotiated := true
          identifier := session.identifier + 1 }
      (context.ueUpdate { ue with eapSession := some session },
        .respond (.withJsonBody 200 (challengeBody primitives authCtxId session)))
    | .accept => verifyChallengeResponse primitives context ue session eapBytes eapId

def receivedAuts (decoded : Option EapPacket) : Option Bytes := do
  let packet ← decoded
  let data ← packet.findAttribute .atAuts
  if 14 ≤ data.length then some (data.take 14) else none

def eapSynchronizationFailure (authCtxId : String) (ue : AusfUe) (session : EapAkaSession)
  (eapBytes : Bytes) : Step :=
  match EapPacket.decode eapBytes with
  | .error ending => .ended ending
  | .ok decoded =>
    match receivedAuts decoded with
    | none =>
      .ended (.respond
        (sendBadRequest "Synchronization-Failure without AT_AUTS" (some "INVALID_EAP")))
    | some auts =>
      .awaiting (.resync
        { authCtxId := authCtxId
          identity := ue.supi.getD ue.suci
          resyncInfo := ⟨bytesToHex session.rand.toList, bytesToHex auts⟩
          ue := ue
          session := session })

def resyncedUe (ue : AusfUe) (session : EapAkaSession) : AusfUe :=
  { ue with
    rand := session.rand
    autn := session.autn
    kausf := session.kausf
    eapSession := some session }

def resumeResync (context : AusfContext) (pending : PendingResync) (answer : Answer) :
  AusfContext × Ending :=
  match udmAuthData answer with
  | .error ending => (context, ending)
  | .ok (.ok (.eapAkaPrime _ rand xres autn ckPrime ikPrime)) =>
    let session := pending.session.initFromTransformedAv primitives rand autn xres ckPrime
      ikPrime pending.identity
    (context.ueUpdate (resyncedUe pending.ue session),
      .respond (.withJsonBody 200 (challengeBody primitives pending.authCtxId session)))
  | .ok (.ok (.fiveGAka ..)) =>
    (context, .respond (sendProblem 500 "UNSPECIFIED" "UDM returned non-EAP AV on resync"))
  | .ok (.error _) =>
    (context, .respond (sendProblem 403 "AUTHENTICATION_REJECTED" "Resynchronization failed"))

def dispatchEap (context : AusfContext) (authCtxId : String) (ue : AusfUe)
  (session : EapAkaSession) (eapBytes : Bytes) (eapId subtype : UInt8) : AusfContext × Step :=
  if subtype = 1 then
    let (context, ending) :=
      eapChallengeResponse primitives context authCtxId ue session eapBytes eapId
    (context, .ended ending)
  else if subtype = 2 then
    (context.ueUpdate { ue with authResult := .authenticationFailure },
      .ended (.respond (.withJsonBody 200 (eapFailureBody eapId))))
  else if subtype = 4 then
    (context, eapSynchronizationFailure authCtxId ue session eapBytes)
  else
    (context, .ended (.respond (sendBadRequest
      ("Unsupported EAP-AKA' subtype: " ++ toString subtype.toNat)
      (some "UNSUPPORTED_SUBTYPE"))))

def handleEapSession (context : AusfContext) (authCtxId : String) (request : SbiRequest) :
  AusfContext × Step :=
  match request.body with
  | .error refusal => (context, .ended (.respond refusal))
  | .ok body =>
    match context.ues.ueFindByCtxId authCtxId with
    | none =>
      (context, .ended (.respond (sendNotFound "Authentication context not found" none)))
    | some ue =>
      match base64Decode ((body.getStr "eapPayload").getD "") with
      | none =>
        (context, .ended (.respond
          (sendBadRequest "Invalid EAP payload encoding" (some "INVALID_EAP"))))
      | some eapBytes =>
        match eapBytes with
        | _ :: eapId :: _ :: _ :: eapType :: subtype :: _ =>
          if eapType ≠ 50 then
            (context, .ended (.respond (sendBadRequest
              ("Unsupported EAP type: " ++ toString eapType.toNat ++ " (expected 50 for EAP-AKA')")
              (some "UNSUPPORTED_EAP_TYPE"))))
          else
            match ue.eapSession with
            | none =>
              (context, .ended (.respond (sendBadRequest
                "No EAP-AKA' session for this authentication context"
                (some "INVALID_EAP_SESSION"))))
            | some session =>
              dispatchEap primitives context authCtxId ue session eapBytes eapId subtype
        | _ =>
          (context, .ended (.respond (sendBadRequest "EAP payload too short" (some "INVALID_EAP"))))

end Primitives

def handleAuthContextDelete (context : AusfContext) (authCtxId : String) :
  AusfContext × Ending :=
  match context.ues.ueFindByCtxId authCtxId with
  | none => (context, .respond (sendNotFound "Authentication context not found" none))
  | some ue => (context.ueRemove ue.id, .respond (.withStatus 204))

open Library
open Sbi

structure AusfState where
  context : AusfContext
  pending : List PendingUdm

inductive AusfInput where
  | authenticate (request : SbiRequest) (consumerPlmns : List (String × String))
  | udmAnswer (task : ℕ) (answer : Answer)
  | confirm5gAka (authCtxId : String) (request : SbiRequest)
  | eapSession (authCtxId : String) (request : SbiRequest)
  | deleteContext (authCtxId : String)
  | nextCounter (kind : CounterKind) (supi : String)

inductive AusfOutput where
  | handled (step : Step)
  | counter (kind : CounterKind) (supi : String) (result : Except AnchorCounterError UInt16)
  | noTask

namespace AusfState

def init (maxUe : ℕ) : AusfState :=
  ⟨AusfContext.init maxUe, []⟩

def after (state : AusfState) (result : AusfContext × Step) : AusfState where
  context := result.1
  pending :=
    match result.2 with
    | .ended _ => state.pending
    | .awaiting pending => state.pending ++ [pending]

end AusfState

def resumeUdm (primitives : AusfPrimitives) (context : AusfContext) (pending : PendingUdm)
  (answer : Answer) : AusfContext × Ending :=
  match pending with
  | .authentication pending => resumeUeAuthentication primitives context pending answer
  | .resync pending => resumeResync primitives context pending answer

def ausfMachine (primitives : AusfPrimitives) : Machine AusfState AusfInput AusfOutput where
  step state input :=
    match input with
    | .authenticate request consumerPlmns =>
      let result := handleUeAuthentication state.context request consumerPlmns
      (state.after result, .handled result.2)
    | .udmAnswer task answer =>
      match state.pending[task]? with
      | none => (state, .noTask)
      | some pending =>
        let (context, ending) := resumeUdm primitives state.context pending answer
        (⟨context, state.pending.eraseIdx task⟩, .handled (.ended ending))
    | .confirm5gAka authCtxId request =>
      let (context, ending) :=
        handle5gAkaConfirmation primitives state.context authCtxId request
      ({ state with context := context }, .handled (.ended ending))
    | .eapSession authCtxId request =>
      let result := handleEapSession primitives state.context authCtxId request
      (state.after result, .handled result.2)
    | .deleteContext authCtxId =>
      let (context, ending) := handleAuthContextDelete state.context authCtxId
      ({ state with context := context }, .handled (.ended ending))
    | .nextCounter kind supi =>
      let (result, context) := state.context.anchorNext kind supi
      ({ state with context := context }, .counter kind supi result)

def AusfPrimitives.sample : AusfPrimitives where
  hmacSha256 _ _ := .replicate 32 0
  kdfHxresStar _ _ := .replicate 16 0
  kdfKseaf _ _ := .replicate 32 0

def sampleAuthentication (suci : String) : AusfInput :=
  .authenticate ⟨.json <| .object [("supiOrSuci", .string suci),
        ("servingNetworkName", .string "5G:mnc070.mcc999.3gppnetwork.org")]⟩
    []

def sampleAnswer (authType : String) (vector : List (String × Json)) : Answer :=
  .ok <| .withJsonBody 200 <| .object
    [("authType", .string authType), ("supi", .string "imsi-999700000000001"),
      ("authenticationVector", .object vector)]

def sampleOctets (count : ℕ) (octet : UInt8) : Json :=
  .string (bytesToHex (List.replicate count octet))

def sampleFiveGAka (kausf : UInt8) : Answer :=
  sampleAnswer "5G_AKA" [("rand", sampleOctets 16 1), ("xresStar", sampleOctets 16 2),
      ("autn", sampleOctets 16 3), ("kausf", sampleOctets 32 kausf)]

def sampleEapAkaPrime : Answer :=
  sampleAnswer "EAP_AKA_PRIME"
    [("rand", sampleOctets 16 1), ("xres", sampleOctets 8 2), ("autn", sampleOctets 16 3),
      ("ckPrime", sampleOctets 16 4), ("ikPrime", sampleOctets 16 5)]

def sampleConfirmation (authCtxId : String) (octet : UInt8) : AusfInput :=
  .confirm5gAka authCtxId ⟨.json <| .object [("resStar", sampleOctets 16 octet)]⟩

end NextGCore.Ausf
