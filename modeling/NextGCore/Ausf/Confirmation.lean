import NextGCore.Ausf.Handlers

/-!
# How a confirmation ends

The two handlers that can answer AUTHENTICATION_SUCCESS, each by one relation
that says all it can do: which records and anchors it may write, and what the
request must have shown for a success.
-/

namespace NextGCore.Ausf

open Sbi UeContext
open Crypt (Bytes)

variable {session : EapAkaSession}

def Ending.AnswersSuccess : Ending → Prop
  | .respond response =>
    response.content.parsed.bind (Json.getStr "authResult") = some "AUTHENTICATION_SUCCESS"
  | .panic => False

def AusfOutput.AnswersSuccess : AusfOutput → Prop
  | .handled (.ended ending) => Ending.AnswersSuccess ending
  | _ => False

lemma panic_silent {ending : Ending} (panicked : ending = .panic) :
  ¬ Ending.AnswersSuccess ending := by
  rw [panicked]
  exact id

lemma withJsonBody_silent {status : ℕ} {body : Json}
  (other : body.getStr "authResult" ≠ some "AUTHENTICATION_SUCCESS") :
  ¬ Ending.AnswersSuccess (.respond (.withJsonBody status body)) := other

lemma sendError_silent (status : ℕ) (title detail : String) (cause : Option String) :
  ¬ Ending.AnswersSuccess (.respond (sendError status title detail cause)) := by
  apply withJsonBody_silent
  cases cause with
  | none => exact nofun
  | some cause => exact nofun

lemma sendProblem_silent (status : ℕ) (cause detail : String) :
  ¬ Ending.AnswersSuccess (.respond (sendProblem status cause detail)) :=
  withJsonBody_silent nofun

lemma failureBody_silent :
  ¬ Ending.AnswersSuccess (.respond (.withJsonBody 200 failureBody)) := by
  apply withJsonBody_silent
  decide

lemma eapFailureBody_silent (eapId : UInt8) :
  ¬ Ending.AnswersSuccess (.respond (.withJsonBody 200 (eapFailureBody eapId))) := by
  apply withJsonBody_silent
  have failure : (eapFailureBody eapId).getStr "authResult" = some "AUTHENTICATION_FAILURE" := rfl
  rw [failure]
  decide

lemma body_silent {request : SbiRequest} {refusal : SbiResponse}
  (refused : request.body = .error refusal) :
  ¬ Ending.AnswersSuccess (.respond refusal) := by
  obtain ⟨detail, cause, rfl⟩ := SbiRequest.body_error refused
  exact sendError_silent _ _ _ _

inductive ExpectedResponse where
  | resStar (xresStar : Vector UInt8 16)
  | challenge (xres : Bytes) (kAut : Vector UInt8 32)

def AusfUe.expected (ue : AusfUe) : Option ExpectedResponse :=
  match ue.authType, ue.eapSession with
  | .fiveGAka, none => some (.resStar ue.xresStar)
  | .eapAkaPrime, some session => some (.challenge session.xres session.kAut)
  | _, _ => none

structure SameVector (ue ue' : AusfUe) : Prop where
  id : ue'.id = ue.id
  supi : ue'.supi = ue.supi
  expected : ue'.expected = ue.expected

lemma calculateKseaf_sameVector (primitives : AusfPrimitives) (ue : AusfUe) :
  SameVector ue (ue.calculateKseaf primitives) := by
  unfold AusfUe.calculateKseaf
  split
  · exact ⟨rfl, rfl, rfl⟩
  · exact ⟨rfl, rfl, rfl⟩

lemma expected_of_session {ue : AusfUe} {expected : ExpectedResponse}
  (held : ue.eapSession = some session) (expects : ue.expected = some expected) :
  ue.authType = .eapAkaPrime ∧ expected = .challenge session.xres session.kAut := by
  unfold AusfUe.expected at expects
  rw [held] at expects
  cases method : ue.authType with
  | fiveGAka =>
    rw [method] at expects
    cases expects
  | eapAkaPrime =>
    rw [method] at expects
    exact ⟨rfl, (Option.some.inj expects).symm⟩
  | eapTls =>
    rw [method] at expects
    cases expects

lemma expected_of_fiveGAka {ue : AusfUe} {expected : ExpectedResponse}
  (method : ue.authType = .fiveGAka) (expects : ue.expected = some expected) :
  expected = .resStar ue.xresStar := by
  unfold AusfUe.expected at expects
  rw [method] at expects
  cases held : ue.eapSession with
  | none =>
    rw [held] at expects
    exact (Option.some.inj expects).symm
  | some session =>
    rw [held] at expects
    cases expects

lemma expected_withSession {ue ue' : AusfUe} {session' : EapAkaSession}
  (held : ue.eapSession = some session) (method : ue'.authType = ue.authType)
  (holds : ue'.eapSession = some session') (xres : session'.xres = session.xres)
  (kAut : session'.kAut = session.kAut) : ue'.expected = ue.expected := by
  unfold AusfUe.expected
  rw [held, holds, method]
  cases ue.authType with
  | fiveGAka => rfl
  | eapAkaPrime =>
    simp only
    rw [xres, kAut]
  | eapTls => rfl

def resStarOf (request : SbiRequest) : Option Bytes :=
  (request.content.parsed.bind (Json.getStr "resStar")).bind hexToBytes

def eapPayloadOf (request : SbiRequest) : Option Bytes :=
  request.content.parsed.bind fun body => base64Decode ((body.getStr "eapPayload").getD "")

/-- An EAP-AKA' packet that the session would not answer with a failure or
with another challenge. -/
structure Negotiated (session : EapAkaSession) (raw : Bytes) : Prop where
  eapType : raw[4]? = some 50
  accepts : ∀ packet, EapPacket.decode raw = .ok (some packet) →
    session.checkKdfAndBidding packet = .accept

/-- The request shows what the record `ue` holds, in the sense of the handler
it goes to, and so confirms `kausf`. -/
inductive Confirms (primitives : AusfPrimitives) (context : AusfContext) :
    AusfInput → AusfUe → Vector UInt8 32 → Prop
  | fiveGAka {authCtxId : String} {request : SbiRequest} {ue : AusfUe} {supi : String}
      (found : context.ues.ueFindByCtxId authCtxId = some ue)
      (named : ue.supi = some supi)
      (resStar : resStarOf request = some ue.xresStar.toList) :
      Confirms primitives context (.confirm5gAka authCtxId request) ue ue.kausf
  | eapAkaPrime {authCtxId : String} {request : SbiRequest} {ue : AusfUe}
      {session : EapAkaSession} {raw : Bytes}
      (found : context.ues.ueFindByCtxId authCtxId = some ue)
      (held : ue.eapSession = some session)
      (payload : eapPayloadOf request = some raw)
      (negotiated : Negotiated session raw)
      (valid : ValidChallengeResponse primitives session.kAut session.xres raw) :
      Confirms primitives context (.eapSession authCtxId request) ue session.kausf

lemma Confirms.found {primitives : AusfPrimitives} {context : AusfContext} {input : AusfInput}
  {ue : AusfUe} {kausf : Vector UInt8 32}
  (confirms : Confirms primitives context input ue kausf) :
  context.ues.ueFindById ue.id = some ue := by
  cases confirms with
  | fiveGAka found named resStar => exact ueFindById_of_ueFindByCtxId found
  | eapAkaPrime found held payload negotiated valid =>
    exact ueFindById_of_ueFindByCtxId found

def AusfContext.anchorRefreshFor (context : AusfContext) (supi : Option String)
  (kausf : Vector UInt8 32) : AusfContext :=
  match supi with
  | some supi => context.anchorRefresh supi kausf
  | none => context

@[simp]
lemma AusfContext.anchorRefreshFor_ues (context : AusfContext) (supi : Option String)
  (kausf : Vector UInt8 32) : (context.anchorRefreshFor supi kausf).ues = context.ues := by
  cases supi with
  | none => rfl
  | some supi => rfl

inductive Concludes (primitives : AusfPrimitives) (context : AusfContext) (input : AusfInput) :
    AusfContext → Step → Prop
  | refused {ending : Ending} (silent : ¬ Ending.AnswersSuccess ending) :
      Concludes primitives context input context (.ended ending)
  | revised {ending : Ending} {ue ue' : AusfUe} (silent : ¬ Ending.AnswersSuccess ending)
      (found : context.ues.ueFindById ue.id = some ue) (same : SameVector ue ue') :
      Concludes primitives context input (context.ueUpdate ue') (.ended ending)
  | confirmed {ending : Ending} {ue ue' : AusfUe} {kausf : Vector UInt8 32}
      (confirms : Confirms primitives context input ue kausf) (same : SameVector ue ue') :
      Concludes primitives context input
        ((context.ueUpdate ue').anchorRefreshFor ue.supi kausf) (.ended ending)
  | asked {pending : PendingResync}
      (found : context.ues.ueFindById pending.ue.id = some pending.ue)
      (held : pending.ue.eapSession = some pending.session) :
      Concludes primitives context input context (.awaiting (.resync pending))

lemma foldl_xor_eq_zero (pairs : List (UInt8 × UInt8)) (diff : UInt8) :
  pairs.foldl (fun diff pair => diff ||| (pair.1 ^^^ pair.2)) diff = 0 ↔
    diff = 0 ∧ ∀ pair ∈ pairs, pair.1 = pair.2 := by
  induction pairs generalizing diff with
  | nil => simp
  | cons pair rest ih =>
    rw [List.foldl_cons, ih, UInt8.or_eq_zero_iff, UInt8.xor_eq_zero_iff,
      List.forall_mem_cons, and_assoc]

lemma eq_of_forall_zip {first second : Bytes} (length : first.length = second.length)
  (same : ∀ pair ∈ first.zip second, pair.1 = pair.2) : first = second := by
  induction first generalizing second with
  | nil => exact (List.eq_nil_of_length_eq_zero length.symm).symm
  | cons octet rest ih =>
    cases second with
    | nil => cases length
    | cons other others =>
      rw [List.zip_cons_cons, List.forall_mem_cons] at same
      obtain ⟨head, tail⟩ := same
      rw [ih (Nat.succ.inj length) tail]
      exact congrArg (· :: others) head

lemma eq_of_compareResStar {resStar xresStar : Bytes}
  (agree : compareResStar resStar xresStar = true) : resStar = xresStar := by
  simp only [compareResStar, Bool.and_eq_true, beq_iff_eq, foldl_xor_eq_zero] at agree
  exact eq_of_forall_zip agree.1 agree.2.2

section Handlers

variable (primitives : AusfPrimitives) {confirmation : Json}

lemma confirmedUe_sameVector (ue : AusfUe) (success : Bool) :
  SameVector ue (confirmedUe primitives ue success) := by
  cases success with
  | false => exact ⟨rfl, rfl, rfl⟩
  | true =>
    have kept := calculateKseaf_sameVector primitives
      { ue with authResult := .authenticationSuccess }
    exact ⟨kept.id, kept.supi, kept.expected⟩

lemma confirmedUe_kausf (ue : AusfUe) (success : Bool) :
  (confirmedUe primitives ue success).kausf = ue.kausf := by
  cases success with
  | false => rfl
  | true => exact AusfUe.calculateKseaf_kausf primitives _

lemma confirmResStar_concludes {context : AusfContext} {authCtxId : String}
  {request : SbiRequest} {ue : AusfUe} {supi : String} {resStar : Vector UInt8 16}
  (found : context.ues.ueFindByCtxId authCtxId = some ue) (named : ue.supi = some supi)
  (sent : resStarOf request = some resStar.toList) :
  Concludes primitives context (.confirm5gAka authCtxId request)
    (confirmResStar primitives context ue supi resStar).1
    (.ended (confirmResStar primitives context ue supi resStar).2) := by
  unfold confirmResStar
  cases agree : compareResStar resStar.toList ue.xresStar.toList with
  | false =>
    have same := confirmedUe_sameVector primitives ue false
    have atId := ueFindById_of_ueFindByCtxId found
    simp only [Bool.false_eq_true, if_false]
    split
    · exact .revised id atId same
    · exact .revised failureBody_silent atId same
  | true =>
    have same := confirmedUe_sameVector primitives ue true
    rw [eq_of_compareResStar agree] at sent
    have confirmed (ending : Ending) :
        Concludes primitives context (.confirm5gAka authCtxId request)
          ((context.ueUpdate (confirmedUe primitives ue true)).anchorRefreshFor ue.supi
            ue.kausf) (.ended ending) :=
      .confirmed (.fiveGAka found named sent) same
    rw [named] at confirmed
    simp only [if_true, confirmedUe_kausf]
    split
    · exact confirmed _
    · exact confirmed _

lemma readResStar_error {refusal : SbiResponse}
  (refused : readResStar confirmation = .error refusal) :
  ∃ detail cause, refusal = sendBadRequest detail cause := by
  unfold readResStar at refused
  split at refused
  · cases refused
  · split at refused
    · cases refused
    · split at refused
      · split at refused
        · cases refused
          exact ⟨_, _, rfl⟩
        · cases refused
      · cases refused
        exact ⟨_, _, rfl⟩

lemma readResStar_some {hex : String} (read : readResStar confirmation = .ok (some hex)) :
  confirmation.getStr "resStar" = some hex := by
  unfold readResStar at read
  unfold Json.getStr
  split at read
  · cases read
  · next value present =>
      rw [present]
      split at read
      · cases read
      · split at read
        · next text string =>
            split at read
            · cases read
            · obtain rfl := Option.some.inj (Except.ok.inj read)
              exact string
        · cases read

lemma handle5gAkaConfirmation_concludes (context : AusfContext) (authCtxId : String)
  (request : SbiRequest) :
  Concludes primitives context (.confirm5gAka authCtxId request)
    (handle5gAkaConfirmation primitives context authCtxId request).1
    (.ended (handle5gAkaConfirmation primitives context authCtxId request).2) := by
  unfold handle5gAkaConfirmation
  split
  · next refusal refused => exact .refused (body_silent refused)
  · next confirmation body =>
      have content := SbiRequest.body_ok body
      split
      · next refusal refused =>
          obtain ⟨detail, cause, rfl⟩ := readResStar_error refused
          exact .refused (sendError_silent _ _ _ _)
      · next resStarHex read =>
          split
          · exact .refused (sendError_silent _ _ _ _)
          · next ue found =>
              have atId := ueFindById_of_ueFindByCtxId found
              split
              · exact .revised failureBody_silent atId ⟨rfl, rfl, rfl⟩
              · next hex =>
                  split
                  · exact .refused (sendError_silent _ _ _ _)
                  · next supi named =>
                      split
                      · exact .refused id
                      · next bytes decoded =>
                          split
                          · exact .refused (sendError_silent _ _ _ _)
                          · next resStar sized =>
                              apply confirmResStar_concludes primitives found named
                              unfold resStarOf
                              rw [content, Content.parsed_json, Option.bind_some,
                                readResStar_some read, Option.bind_some, decoded,
                                exactOctets_eq_some sized]

lemma challengeBody_silent (authCtxId : String) (session : EapAkaSession) :
  ¬ Ending.AnswersSuccess
    (.respond (.withJsonBody 200 (challengeBody primitives authCtxId session))) :=
  withJsonBody_silent nofun

lemma verifiedUe_sameVector {ue : AusfUe} {session session' : EapAkaSession} (success : Bool)
  (held : ue.eapSession = some session) (xres : session'.xres = session.xres)
  (kAut : session'.kAut = session.kAut) :
  SameVector ue (verifiedUe primitives ue success session') := by
  cases success with
  | false => exact ⟨rfl, rfl, expected_withSession held rfl rfl xres kAut⟩
  | true =>
    simp only [verifiedUe, AusfUe.calculateKseaf, if_true]
    split
    · exact ⟨rfl, rfl, expected_withSession held rfl rfl xres kAut⟩
    · exact ⟨rfl, rfl, expected_withSession held rfl rfl xres kAut⟩

lemma verifiedUe_kausf (ue : AusfUe) (session : EapAkaSession) :
  (verifiedUe primitives ue true session).kausf = session.kausf :=
  AusfUe.calculateKseaf_kausf primitives _

section Session

variable {primitives} {context : AusfContext} {authCtxId : String} {request : SbiRequest}
  {ue : AusfUe} {session : EapAkaSession} {eapBytes : Bytes}
  (found : context.ues.ueFindByCtxId authCtxId = some ue) (held : ue.eapSession = some session)
  (payload : eapPayloadOf request = some eapBytes)

include found held payload

lemma verifyChallengeResponse_concludes (negotiated : Negotiated session eapBytes)
  (eapId : UInt8) :
  Concludes primitives context (.eapSession authCtxId request)
    (verifyChallengeResponse primitives context ue session eapBytes eapId).1
    (.ended (verifyChallengeResponse primitives context ue session eapBytes eapId).2) := by
  have atId := ueFindById_of_ueFindByCtxId found
  unfold verifyChallengeResponse
  split
  · next ending panicked =>
    exact .refused (panic_silent (processChallengeResponseBytes_error panicked))
  · next success session' processed =>
      obtain ⟨state, rfl⟩ := processChallengeResponseBytes_session processed
      have same : SameVector ue
          (verifiedUe primitives ue success { session with state := state }) :=
        verifiedUe_sameVector primitives success held rfl rfl
      cases success with
      | false =>
        simp only [Bool.false_eq_true, if_false]
        exact .revised (eapFailureBody_silent eapId) atId same
      | true =>
        have valid := processChallengeResponseBytes_accepts processed
        simp only [if_true, verifiedUe_kausf, same.supi]
        exact .confirmed (.eapAkaPrime found held payload negotiated valid) same

lemma eapChallengeResponse_concludes (eapType : eapBytes[4]? = some 50) (eapId : UInt8) :
  Concludes primitives context (.eapSession authCtxId request)
    (eapChallengeResponse primitives context authCtxId ue session eapBytes eapId).1
    (.ended (eapChallengeResponse primitives context authCtxId ue session eapBytes eapId).2) := by
  have atId := ueFindById_of_ueFindByCtxId found
  have failed : SameVector ue
      { ue with authResult := .authenticationFailure, eapSession := some session } :=
    ⟨rfl, rfl, expected_withSession held rfl rfl rfl rfl⟩
  unfold eapChallengeResponse
  split
  · next ending panicked => exact .refused (panic_silent (decode_error panicked))
  · next decoded read =>
      split
      · exact .revised (eapFailureBody_silent eapId) atId failed
      · exact .revised (eapFailureBody_silent eapId) atId failed
      · exact .revised (challengeBody_silent primitives _ _) atId
          ⟨rfl, rfl, expected_withSession held rfl rfl rfl rfl⟩
      · next accepted =>
          refine verifyChallengeResponse_concludes found held payload ⟨eapType, ?_⟩ eapId
          intro packet again
          obtain rfl := Except.ok.inj (read.symm.trans again)
          exact accepted

lemma dispatchEap_concludes (eapType : eapBytes[4]? = some 50) (eapId subtype : UInt8) :
  Concludes primitives context (.eapSession authCtxId request)
    (dispatchEap primitives context authCtxId ue session eapBytes eapId subtype).1
    (dispatchEap primitives context authCtxId ue session eapBytes eapId subtype).2 := by
  have atId := ueFindById_of_ueFindByCtxId found
  unfold dispatchEap
  split
  · exact eapChallengeResponse_concludes found held payload eapType eapId
  · split
    · exact .revised (eapFailureBody_silent eapId) atId ⟨rfl, rfl, rfl⟩
    · split
      · unfold eapSynchronizationFailure
        split
        · next ending panicked => exact .refused (panic_silent (decode_error panicked))
        · split
          · exact .refused (sendError_silent _ _ _ _)
          · exact .asked atId held
      · exact .refused (sendError_silent _ _ _ _)

end Session

lemma handleEapSession_concludes (context : AusfContext) (authCtxId : String)
  (request : SbiRequest) :
  Concludes primitives context (.eapSession authCtxId request)
    (handleEapSession primitives context authCtxId request).1
    (handleEapSession primitives context authCtxId request).2 := by
  unfold handleEapSession
  split
  · next refusal refused => exact .refused (body_silent refused)
  · next body read =>
      have content := SbiRequest.body_ok read
      split
      · exact .refused (sendError_silent _ _ _ _)
      · next ue found =>
          split
          · exact .refused (sendError_silent _ _ _ _)
          · next eapBytes decoded =>
              have payload : eapPayloadOf request = some eapBytes := by
                unfold eapPayloadOf
                rw [content]
                exact decoded
              split
              · next eapId _ _ eapType subtype _ =>
                  split
                  · exact .refused (sendError_silent _ _ _ _)
                  · next akaPrime =>
                      split
                      · exact .refused (sendError_silent _ _ _ _)
                      · next session held =>
                          exact dispatchEap_concludes found held payload
                            (congrArg some (not_not.mp akaPrime)) eapId subtype
              · exact .refused (sendError_silent _ _ _ _)

end Handlers

inductive Starts (context : AusfContext) : AusfContext → Step → Prop
  | refused {ending : Ending} (silent : ¬ Ending.AnswersSuccess ending) :
      Starts context context (.ended ending)
  | found {pending : PendingAuthentication} {ue : AusfUe}
      (found : context.ues.ueFindById ue.id = some ue) (same : SameVector ue pending.ue) :
      Starts context context (.awaiting (.authentication pending))
  | added {next : AusfContext} {pending : PendingAuthentication} {ue : AusfUe} {suci : String}
      (added : context.ueAdd suci = some (next, ue)) (same : SameVector ue pending.ue) :
      Starts context next (.awaiting (.authentication pending))

lemma findOrAddUe_cases {context next : AusfContext} {supiOrSuci : String} {ue : AusfUe}
  (obtained : findOrAddUe context supiOrSuci = some (next, ue)) :
  (next = context ∧ context.ues.ueFindById ue.id = some ue) ∨
    context.ueAdd supiOrSuci = some (next, ue) := by
  unfold findOrAddUe at obtained
  split at obtained
  · next existing found =>
      left
      cases obtained
      exact ⟨rfl, ueFindById_of_ueFindBySuciOrSupi found⟩
  · right
    exact obtained

lemma handleUeAuthentication_starts (context : AusfContext) (request : SbiRequest)
  (consumerPlmns : List (String × String)) :
  Starts context (handleUeAuthentication context request consumerPlmns).1
    (handleUeAuthentication context request consumerPlmns).2 := by
  unfold handleUeAuthentication
  split
  · next refusal refused => exact .refused (body_silent refused)
  · next authInfo body =>
      simp only
      split
      · exact .refused (sendError_silent _ _ _ _)
      · next snn valid =>
          split
          · exact .refused (sendProblem_silent _ _ _)
          · split
            · exact .refused (sendProblem_silent _ _ _)
            · split
              · exact .refused (sendError_silent _ _ _ _)
              · next next ue obtained =>
                  have same : SameVector ue { ue with servingNetworkName := some snn } :=
                    ⟨rfl, rfl, rfl⟩
                  rcases findOrAddUe_cases obtained with ⟨rfl, found⟩ | added
                  · exact .found found same
                  · exact .added added same

def PendingUdm.ue : PendingUdm → AusfUe
  | .authentication pending => pending.ue
  | .resync pending => pending.ue

def PendingUdm.Prepared : PendingUdm → Prop
  | .authentication _ => True
  | .resync pending => pending.ue.authType = .eapAkaPrime

def PendingUdm.expectedFrom (primitives : AusfPrimitives) (pending : PendingUdm)
  (answer : Answer) : Option ExpectedResponse :=
  match pending, udmAuthData answer with
  | .authentication _, .ok (.ok (.fiveGAka _ _ xresStar _ _)) => some (.resStar xresStar)
  | .authentication pending, .ok (.ok (.eapAkaPrime supi _ xres _ ckPrime ikPrime)) =>
    let identity := (supi.or pending.ue.supi).getD pending.supiOrSuci
    some (.challenge xres (deriveKeysAkaPrime primitives ckPrime ikPrime identity).1)
  | .resync pending, .ok (.ok (.eapAkaPrime _ _ xres _ ckPrime ikPrime)) =>
    some (.challenge xres (deriveKeysAkaPrime primitives ckPrime ikPrime pending.identity).1)
  | _, _ => none

/-- The second part of a handler writes a vector, the copy it waited with, or
nothing. -/
inductive Resumes (primitives : AusfPrimitives) (context : AusfContext) (answer : Answer) :
    PendingUdm → AusfContext → Ending → Prop
  | refused {pending : PendingUdm} {ending : Ending}
      (silent : ¬ Ending.AnswersSuccess ending)
      (nothing : pending.expectedFrom primitives answer = none) :
      Resumes primitives context answer pending context ending
  | restored {pending : PendingAuthentication} {ending : Ending} {error : String}
      (silent : ¬ Ending.AnswersSuccess ending)
      (failed : udmAuthData answer = .ok (.error error)) :
      Resumes primitives context answer (.authentication pending)
        (context.ueUpdate pending.ue) ending
  | stored {pending : PendingUdm} {ending : Ending} (ue : AusfUe) (supi : Option String)
      {expected : ExpectedResponse} (silent : ¬ Ending.AnswersSuccess ending)
      (brings : pending.expectedFrom primitives answer = some expected)
      (id : ue.id = pending.ue.id)
      (expects : pending.Prepared → ue.expected = some expected) :
      Resumes primitives context answer pending (storeUe context ue supi) ending

section Resumption

variable (primitives : AusfPrimitives) (context : AusfContext) (answer : Answer)

lemma resumeUeAuthentication_resumes (pending : PendingAuthentication) :
  Resumes primitives context answer (.authentication pending)
    (resumeUeAuthentication primitives context pending answer).1
    (resumeUeAuthentication primitives context pending answer).2 := by
  unfold resumeUeAuthentication
  split
  · next ending failed =>
      refine .refused (panic_silent (udmAuthData_error failed)) ?_
      simp only [PendingUdm.expectedFrom, failed]
  · next supi rand xresStar autn kausf brought =>
      refine .stored (withFiveGAka primitives pending.ue supi rand xresStar autn kausf) supi
        ?_ ?_ rfl (fun _ => rfl)
      · exact nofun
      · simp only [PendingUdm.expectedFrom, brought]
        rfl
  · next supi rand xres autn ckPrime ikPrime brought =>
      refine .stored (withEapAkaPrime pending.ue supi _) supi ?_ ?_ rfl (fun _ => rfl)
      · exact nofun
      · simp only [PendingUdm.expectedFrom, brought]
        rfl
  · next error failed => exact .restored (sendProblem_silent _ _ _) failed

lemma resumeResync_resumes (pending : PendingResync) :
  Resumes primitives context answer (.resync pending)
    (resumeResync primitives context pending answer).1
    (resumeResync primitives context pending answer).2 := by
  unfold resumeResync
  split
  · next ending failed =>
      refine .refused (panic_silent (udmAuthData_error failed)) ?_
      simp only [PendingUdm.expectedFrom, failed]
  · next supi rand xres autn ckPrime ikPrime brought =>
      have brings : (PendingUdm.resync pending).expectedFrom primitives answer =
          some (.challenge xres
            (deriveKeysAkaPrime primitives ckPrime ikPrime pending.identity).1) := by
        simp only [PendingUdm.expectedFrom, brought]
      refine .stored (resyncedUe pending.ue _) none (challengeBody_silent _ _ _) brings rfl ?_
      intro prepared
      have method : pending.ue.authType = .eapAkaPrime := prepared
      simp only [AusfUe.expected, resyncedUe, method]
      rfl
  · next supi rand xresStar autn kausf brought =>
      refine .refused (sendProblem_silent _ _ _) ?_
      simp only [PendingUdm.expectedFrom, brought]
  · next error failed =>
      refine .refused (sendProblem_silent _ _ _) ?_
      simp only [PendingUdm.expectedFrom, failed]

lemma resumeUdm_resumes (pending : PendingUdm) : Resumes primitives context answer pending
    (resumeUdm primitives context pending answer).1
    (resumeUdm primitives context pending answer).2 := by
  cases pending with
  | authentication pending =>
    exact resumeUeAuthentication_resumes primitives context answer pending
  | resync pending => exact resumeResync_resumes primitives context answer pending

end Resumption

end NextGCore.Ausf
