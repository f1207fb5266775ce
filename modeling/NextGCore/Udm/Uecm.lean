import NextGCore.Udm.Context

/-!
# Nudm_UECM: AMF registrations

`uecm.rs` for the registrations of AMFs.  The UDR and the old AMF answer over
the network, so each function takes their answers and returns the requests it
sent along with its response.  Transport errors and refusals other than 5xx
are tolerated on writes, as the source does.
-/

namespace NextGCore.Udm

open Sbi Json

variable (supi : String) (context : UdmContext) (deconcealSuci : String → Option String)

inductive Method where
  | get
  | put (body : Json)
  | patch (body : Json)
  | delete
  | post (body : Json)

structure Request where
  method : Method
  target : String

def Request.writes (request : Request) : Bool :=
  match request.method with
  | .put _ | .patch _ | .delete => true
  | .get | .post _ => false

def contextDataPath (relativePath : String) : String :=
  "/nudr-dr/v2/subscription-data/" ++ supi ++ "/context-data/" ++ relativePath

def amfContextGet : Request :=
  ⟨.get, contextDataPath supi "amf-3gpp-access"⟩

def amfContextPut (body : Json) : Request :=
  ⟨.put body, contextDataPath supi "amf-3gpp-access"⟩

def amfContextPatch (body : Json) : Request :=
  ⟨.patch body, contextDataPath supi "amf-3gpp-access"⟩

def contextDelete (relativePath : String) : Request :=
  ⟨.delete, contextDataPath supi relativePath⟩

def sendDeregNotification (callbackUri : String) (body : Json) : Request :=
  ⟨.post body, callbackUri⟩

structure Handled where
  response : SbiResponse
  sent : List Request

structure ProblemDetails where
  status : ℕ
  cause : String
  detail : String

namespace ProblemDetails

def mandatoryIeMissing (detail : String) : ProblemDetails :=
  ⟨400, "MANDATORY_IE_MISSING", detail⟩

def intoResponse (problem : ProblemDetails) : SbiResponse :=
  sendProblem problem.status problem.cause problem.detail

end ProblemDetails

def requireStr (value : Json) (key label : String) : Except ProblemDetails String :=
  match value.getStr key with
  | some text =>
    if text = "" then .error (.mandatoryIeMissing (label ++ " is missing")) else .ok text
  | none => .error (.mandatoryIeMissing (label ++ " is missing"))

def requireObj (value : Json) (key label : String) : Except ProblemDetails Json :=
  match value.get key with
  | some member =>
    if member.isObject then .ok member
    else .error (.mandatoryIeMissing (label ++ " is missing"))
  | none => .error (.mandatoryIeMissing (label ++ " is missing"))

def validateAmf3gppRegistration (body : Json) : Except ProblemDetails Unit := do
  let _ ← requireStr body "amfInstanceId" "Amf3GppAccessRegistration.amfInstanceId"
  let _ ← requireStr body "deregCallbackUri" "Amf3GppAccessRegistration.deregCallbackUri"
  let guami ← requireObj body "guami" "Amf3GppAccessRegistration.guami"
  let _ ← requireStr guami "amfId" "Amf3GppAccessRegistration.guami.amfId"
  let plmn ← requireObj guami "plmnId" "Amf3GppAccessRegistration.guami.plmnId"
  let _ ← requireStr plmn "mcc" "Amf3GppAccessRegistration.guami.plmnId.mcc"
  let _ ← requireStr plmn "mnc" "Amf3GppAccessRegistration.guami.plmnId.mnc"
  let _ ← requireStr body "ratType" "Amf3GppAccessRegistration.ratType"
  return ()

def cachedPriorAmfRegistration (supi : String) : Option Json := do
  let ue ← context.ueFindBySupi supi
  let amfId ← ue.amfInstanceId
  return .object
    [("amfInstanceId", .string amfId), ("deregCallbackUri", .ofOption ue.deregCallbackUri)]

def readPriorAmfRegistration (supi : String) (get : Answer) : Option Json :=
  let stored :=
    match get with
    | .ok response => if response.isSuccess then response.content.parsed else none
    | .error _ => none
  stored.or (cachedPriorAmfRegistration context supi)

def cacheAmfRegistration (context : UdmContext) (supi : String) (body : Json) : UdmContext :=
  let found :=
    match context.ueFindBySupi supi with
    | some ue => some (context, ue)
    | none => context.ueAdd deconcealSuci supi
  match found with
  | none => context
  | some (context, ue) =>
    context.ueUpdate
      { ue with
        amfInstanceId := body.getStr "amfInstanceId"
        deregCallbackUri := body.getStr "deregCallbackUri" }

def buildDeregNotificationBody : Json :=
  .object
    [("deregReason", .string "UE_INITIAL_REGISTRATION"), ("accessType", .string "3GPP_ACCESS")]

def notifyOldAmfIfChanged (prior new : Json) : List Request :=
  match prior.getStr "amfInstanceId", new.getStr "amfInstanceId",
      prior.getStr "deregCallbackUri" with
  | some oldId, some newId, some oldUri =>
    if oldUri = "" then []
    else if oldId = newId then []
    else [sendDeregNotification oldUri buildDeregNotificationBody]
  | _, _, _ => []

def udrWriteOutcome (answer : Answer) : Option SbiResponse :=
  match answer with
  | .ok response =>
    if response.isSuccess then none
    else if 500 ≤ response.status then some (sendServiceUnavailable "UDR persistence failed")
    else none
  | .error _ => none

def memberOrNull (body : Json) (key : String) : String × Json :=
  (key, (body.get key).getD .null)

def processAmfRegistration (context : UdmContext) (supi : String) (body : Json) (get put : Answer) :
  UdmContext × Handled :=
  match validateAmf3gppRegistration body with
  | .error problem => (context, ⟨problem.intoResponse, []⟩)
  | .ok () =>
    let prior := readPriorAmfRegistration context supi get
    match udrWriteOutcome put with
    | some refusal => (context, ⟨refusal, [amfContextGet supi, amfContextPut supi body]⟩)
    | none =>
      let notified :=
        match prior with
        | some prior => notifyOldAmfIfChanged prior body
        | none => []
      let status := if prior.isSome then 200 else 201
      (cacheAmfRegistration deconcealSuci context supi body,
        { response :=
            { status := status
              location :=
                if status = 201
                then some ("/nudm-uecm/v1/" ++ supi ++ "/registrations/amf-3gpp-access")
                else none
              content := .json <| .object
                [memberOrNull body "amfInstanceId", memberOrNull body "deregCallbackUri",
                  memberOrNull body "guami", memberOrNull body "ratType"] }
          sent := [amfContextGet supi, amfContextPut supi body] ++ notified })

/-- `amfId`, `plmnId.mcc` and `plmnId.mnc`, each compared as an optional string. -/
def guamiMatches (left right : Json) : Bool :=
  left.getStr "amfId" == right.getStr "amfId" && (left.pointer ["plmnId", "mcc"]).bind asStr ==
      (right.pointer ["plmnId", "mcc"]).bind asStr &&
    (left.pointer ["plmnId", "mnc"]).bind asStr ==
      (right.pointer ["plmnId", "mnc"]).bind asStr

def storedRegistration (get : Answer) : Except SbiResponse Json :=
  match get with
  | .ok response =>
    if response.isSuccess then
      match response.content.parsed with
      | some stored => .ok stored
      | none => .error (sendServiceUnavailable "UDR response invalid")
    else if response.status = 404 then
      .error (ProblemDetails.mk 404 "NOT_FOUND"
        "No AMF registration found for this SUPI").intoResponse
    else .error (sendServiceUnavailable "UDR context GET failed")
  | .error _ => .error (sendServiceUnavailable "UDR unavailable")

def guamiRejected (stored body : Json) : Bool :=
  match stored.get "guami", body.get "guami" with
  | some storedGuami, some guami => !guamiMatches storedGuami guami
  | _, _ => false

def processAmfRegistrationUpdate (body : Json) (get patch : Answer) : Handled :=
  match storedRegistration get with
  | .error refusal => ⟨refusal, [amfContextGet supi]⟩
  | .ok stored =>
    if guamiRejected stored body then
      ⟨(ProblemDetails.mk 403 "INVALID_GUAMI"
          "GUAMI in PATCH body does not match stored registration").intoResponse,
        [amfContextGet supi]⟩
    else
      let sent := [amfContextGet supi, amfContextPatch supi body]
      match udrWriteOutcome patch with
      | some refusal => ⟨refusal, sent⟩
      | none => ⟨.withStatus 204, sent⟩

def processAmfDeregistration (supi : String) : UdmContext × Handled :=
  let cleared :=
    match context.ueFindBySupi supi with
    | some ue => context.ueRemove ue.id
    | none => context
  (cleared, ⟨.withStatus 204, [contextDelete supi "amf-3gpp-access"]⟩)

def handleAmfRegistration (context : UdmContext) (supi : String) (request : SbiRequest)
  (get put : Answer) : UdmContext × Handled :=
  match request.body with
  | .error refusal => (context, ⟨refusal, []⟩)
  | .ok body => processAmfRegistration deconcealSuci context supi body get put

def handleAmfRegistrationUpdate (request : SbiRequest) (get patch : Answer) : Handled :=
  match request.body with
  | .error refusal => ⟨refusal, []⟩
  | .ok body => processAmfRegistrationUpdate supi body get patch

/-- The non-3GPP handler calls the same function, which names the 3GPP-access
resource. -/
def handleAmfNon3gppRegistration (context : UdmContext) (supi : String) (request : SbiRequest)
  (get put : Answer) : UdmContext × Handled :=
  match request.body with
  | .error refusal => (context, ⟨refusal, []⟩)
  | .ok body => processAmfRegistration deconcealSuci context supi body get put

def handleAmfDeregistration (supi : String) : UdmContext × Handled :=
  processAmfDeregistration context supi

lemma storedRegistration_refused {get : Answer} {refusal : SbiResponse}
  (refused : storedRegistration get = .error refusal) :
  refusal.status = 404 ∨ refusal.status = 503 := by
  unfold storedRegistration at refused
  cases get with
  | error message =>
    cases refused
    exact .inr rfl
  | ok response =>
    simp only at refused
    split at refused
    · split at refused
      · cases refused
      · cases refused
        exact .inr rfl
    · split at refused
      · cases refused
        exact .inl rfl
      · cases refused
        exact .inr rfl

lemma requireStr_ok {value : Json} {key label text : String}
  (present : requireStr value key label = .ok text) :
  value.getStr key = some text ∧ text ≠ "" := by
  unfold requireStr at present
  cases found : value.getStr key with
  | none =>
    rw [found] at present
    cases present
  | some member =>
    rw [found] at present
    simp only at present
    split at present
    · cases present
    · next nonempty =>
        obtain rfl : member = text := Except.ok.inj present
        exact ⟨rfl, nonempty⟩

lemma validateAmf3gppRegistration_ok {body : Json}
  (valid : validateAmf3gppRegistration body = .ok ()) :
  (∃ amfInstanceId, body.getStr "amfInstanceId" = some amfInstanceId ∧ amfInstanceId ≠ "") ∧
  ∃ deregCallbackUri, body.getStr "deregCallbackUri" = some deregCallbackUri ∧
    deregCallbackUri ≠ "" := by
  obtain ⟨amfInstanceId, amfPresent, afterAmf⟩ := bind_eq_ok valid
  obtain ⟨deregCallbackUri, uriPresent, -⟩ := bind_eq_ok afterAmf
  exact ⟨⟨amfInstanceId, requireStr_ok amfPresent⟩, deregCallbackUri, requireStr_ok uriPresent⟩

def sampleRegistration (amfInstanceId deregCallbackUri amfId : String) : Json :=
  .object [("amfInstanceId", .string amfInstanceId), ("deregCallbackUri", .string deregCallbackUri),
      ("guami", .object [("amfId", .string amfId),
          ("plmnId", .object [("mcc", .string "999"), ("mnc", .string "70")])]),
      ("ratType", .string "NR")]

/-!
## Who may update a registration

An AMF owns a registration when the GUAMI it sends is the stored one.  The
update is to reach the UDR only from the owner.  The check of the source is an
equality of optional strings, made only when both sides carry a GUAMI, so it
decides ownership exactly when `GuamiDecides` holds.
-/

variable (stored : Json) (supi : String)

structure Guami where
  amfId : String
  mcc : String
  mnc : String

def Guami.read (value : Json) : Option Guami := do
  let amfId ← value.getStr "amfId"
  let mcc ← (value.pointer ["plmnId", "mcc"]).bind asStr
  let mnc ← (value.pointer ["plmnId", "mnc"]).bind asStr
  return ⟨amfId, mcc, mnc⟩

def registeredGuami (registration : Json) : Option Guami :=
  (registration.get "guami").bind Guami.read

def Owns (body : Json) : Prop :=
  ∃ guami, registeredGuami stored = some guami ∧ registeredGuami body = some guami

/-- The comparison settles ownership: both sides carry a GUAMI, and one that
matches is complete. -/
def GuamiDecides (body : Json) : Prop :=
  ∃ storedGuami guami, stored.get "guami" = some storedGuami ∧ body.get "guami" = some guami ∧
      (guamiMatches storedGuami guami → (Guami.read guami).isSome)

lemma guamiMatches_iff (left right : Json) : guamiMatches left right ↔
    left.getStr "amfId" = right.getStr "amfId" ∧ (left.pointer ["plmnId", "mcc"]).bind asStr =
        (right.pointer ["plmnId", "mcc"]).bind asStr ∧
      (left.pointer ["plmnId", "mnc"]).bind asStr =
        (right.pointer ["plmnId", "mnc"]).bind asStr := by
  simp only [guamiMatches, Bool.and_eq_true, beq_iff_eq, and_assoc]

lemma Guami.read_eq_some_iff (value : Json) (guami : Guami) : Guami.read value = some guami ↔
    value.getStr "amfId" = some guami.amfId ∧
      (value.pointer ["plmnId", "mcc"]).bind asStr = some guami.mcc ∧
      (value.pointer ["plmnId", "mnc"]).bind asStr = some guami.mnc := by
  unfold Guami.read
  cases value.getStr "amfId" with
  | none => simp
  | some amfId =>
    cases (value.pointer ["plmnId", "mcc"]).bind asStr with
    | none => simp
    | some mcc =>
      cases (value.pointer ["plmnId", "mnc"]).bind asStr with
      | none => simp
      | some mnc =>
        cases guami
        simp

lemma guamiMatches_iff_read {guami : Guami} {right : Json}
  (complete : Guami.read right = some guami) (left : Json) :
  guamiMatches left right ↔ Guami.read left = some guami := by
  obtain ⟨amfId, mcc, mnc⟩ := (Guami.read_eq_some_iff right guami).mp complete
  rw [guamiMatches_iff, Guami.read_eq_some_iff, amfId, mcc, mnc]

lemma guamiRejected_iff (body : Json) : guamiRejected stored body ↔
    ∃ storedGuami guami, stored.get "guami" = some storedGuami ∧
      body.get "guami" = some guami ∧ ¬ guamiMatches storedGuami guami := by
  unfold guamiRejected
  cases stored.get "guami" with
  | none => simp
  | some storedGuami =>
    cases body.get "guami" with
    | none => simp
    | some guami => simp

lemma owner_of_not_rejected_iff (body : Json) :
  (¬ guamiRejected stored body → Owns stored body) ↔ GuamiDecides stored body := by
  constructor
  · intro onlyOwner
    by_cases rejected : guamiRejected stored body
    · obtain ⟨storedGuami, guami, storedMember, bodyMember, differ⟩ :=
        (guamiRejected_iff stored body).mp rejected
      exact ⟨storedGuami, guami, storedMember, bodyMember, fun isMatch => absurd isMatch differ⟩
    · obtain ⟨guami, storedReads, bodyReads⟩ := onlyOwner rejected
      obtain ⟨storedGuami, storedMember, -⟩ := Option.bind_eq_some_iff.mp storedReads
      obtain ⟨sentGuami, bodyMember, complete⟩ := Option.bind_eq_some_iff.mp bodyReads
      exact ⟨storedGuami, sentGuami, storedMember, bodyMember,
        fun _ => Option.isSome_iff_exists.mpr ⟨guami, complete⟩⟩
  · rintro ⟨storedGuami, sentGuami, storedMember, bodyMember, complete⟩ accepted
    have isMatch : guamiMatches storedGuami sentGuami := by
      by_contra differ
      exact accepted ((guamiRejected_iff stored body).mpr
        ⟨storedGuami, sentGuami, storedMember, bodyMember, differ⟩)
    obtain ⟨guami, bodyReads⟩ := Option.isSome_iff_exists.mp (complete isMatch)
    refine ⟨guami, ?_, ?_⟩
    · rw [registeredGuami, storedMember]
      exact (guamiMatches_iff_read bodyReads storedGuami).mp isMatch
    · rw [registeredGuami, bodyMember]
      exact bodyReads

lemma processAmfRegistrationUpdate_cases (body : Json) (get patch : Answer) :
  (∃ stored, storedRegistration get = .ok stored ∧ ¬ guamiRejected stored body ∧
    (processAmfRegistrationUpdate supi body get patch).sent =
      [amfContextGet supi, amfContextPatch supi body]) ∨
  ((∀ stored, storedRegistration get = .ok stored → guamiRejected stored body) ∧
    (processAmfRegistrationUpdate supi body get patch).sent = [amfContextGet supi] ∧
    (processAmfRegistrationUpdate supi body get patch).response.isSuccess = false) := by
  unfold processAmfRegistrationUpdate
  cases read : storedRegistration get with
  | error refusal =>
    refine .inr ⟨fun stored other => (by cases other), rfl, ?_⟩
    rcases storedRegistration_refused read with notFound | unavailable
    · simp [SbiResponse.isSuccess, notFound]
    · simp [SbiResponse.isSuccess, unavailable]
  | ok stored =>
    by_cases rejected : guamiRejected stored body
    · refine .inr ⟨?_, ?_, ?_⟩
      · intro other same
        obtain rfl : stored = other := Except.ok.inj same
        exact rejected
      · simp only [if_pos rejected]
      · simp only [if_pos rejected]
        rfl
    · refine .inl ⟨stored, rfl, rejected, ?_⟩
      simp only [if_neg rejected]
      cases udrWriteOutcome patch with
      | none => rfl
      | some refusal => rfl

lemma amfContextPatch_mem (body : Json) :
  amfContextPatch supi body ∈ [amfContextGet supi, amfContextPatch supi body] :=
  List.mem_cons_of_mem _ (List.mem_singleton.mpr rfl)

lemma amfContextPatch_not_mem (body : Json) :
  amfContextPatch supi body ∉ [amfContextGet supi] := by
  intro membership
  cases List.mem_singleton.mp membership

/-- The PATCH goes to the UDR only for the owner; without ownership the answer
is a refusal and no request that writes is sent. -/
def OwnershipEnforced (body : Json) (get patch : Answer) : Prop :=
  let handled := processAmfRegistrationUpdate supi body get patch
  (amfContextPatch supi body ∈ handled.sent →
      ∃ stored, storedRegistration get = .ok stored ∧ Owns stored body) ∧
    ((¬ ∃ stored, storedRegistration get = .ok stored ∧ Owns stored body) →
      handled.response.isSuccess = false ∧ ∀ request ∈ handled.sent, ¬ request.writes)

/-- Only the owner of the registration changes it exactly if the GUAMIs decide who that is. -/
theorem ownershipEnforced_iff (supi : String) (body : Json) (get patch : Answer) :
  OwnershipEnforced supi body get patch ↔
    ∀ stored, storedRegistration get = .ok stored → GuamiDecides stored body := by
  rcases processAmfRegistrationUpdate_cases supi body get patch with
    ⟨stored, read, accepted, sent⟩ | ⟨rejected, sent, refused⟩
  · constructor
    · rintro ⟨onlyOwner, -⟩ other sameRead
      obtain rfl : stored = other := Except.ok.inj (read.symm.trans sameRead)
      apply (owner_of_not_rejected_iff stored body).mp
      intro _
      rw [sent] at onlyOwner
      obtain ⟨owned, ownedRead, owns⟩ := onlyOwner (amfContextPatch_mem supi body)
      obtain rfl : stored = owned := Except.ok.inj (read.symm.trans ownedRead)
      exact owns
    · intro decides
      have owns := (owner_of_not_rejected_iff stored body).mpr (decides stored read) accepted
      exact ⟨fun _ => ⟨stored, read, owns⟩, fun noOwner => absurd ⟨stored, read, owns⟩ noOwner⟩
  · constructor
    · intro _ stored read
      exact (owner_of_not_rejected_iff stored body).mp
        fun accepted => absurd (rejected stored read) accepted
    · intro _
      refine ⟨?_, ?_⟩
      · intro patched
        rw [sent] at patched
        exact absurd patched (amfContextPatch_not_mem supi body)
      · intro _
        refine ⟨refused, ?_⟩
        rw [sent]
        intro request membership
        obtain rfl := List.mem_singleton.mp membership
        exact Bool.false_ne_true

/-- A body without a GUAMI is applied to another AMF's registration. -/
theorem ownership_not_enforced : ¬ ∀ (supi : String) (body : Json) (get patch : Answer),
    OwnershipEnforced supi body get patch := by
  intro enforced
  obtain ⟨onlyOwner, -⟩ := enforced "imsi-999700000000001" (.object [("purgeFlag", .bool true)])
    (.ok (.withJsonBody 200 (sampleRegistration "amf-1" "http://amf-1/dereg" "cafe01")))
    (.ok (.withStatus 204))
  obtain ⟨stored, -, guami, -, missing⟩ := onlyOwner (amfContextPatch_mem _ _)
  cases missing

end NextGCore.Udm
