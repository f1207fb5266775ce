import NextGCore.Library.Registry
import NextGCore.Udm.Uecm

/-!
# The serving AMF of each access type

What registration keeps is a registry with one slot for each access type.  The
UDM implements it over the UDR, taken here as a store of resources by path
that answers every request.  The non-3GPP handler writes the 3GPP resource, so
the refinement holds exactly for the runs that accept no registration there.
-/

namespace NextGCore.Udm

open Sbi Library List Option Machine AList

variable (supi : String)

inductive AccessType where
  | threeGpp
  | nonThreeGpp
  deriving DecidableEq

def AccessType.resource : AccessType → String
  | .threeGpp => "amf-3gpp-access"
  | .nonThreeGpp => "amf-non-3gpp-access"

structure Registration where
  body : Json
  valid : validateAmf3gppRegistration body = .ok ()

namespace Registration

variable (registration : Registration)

def amfInstanceId (registration : Registration) : String :=
  (registration.body.getStr "amfInstanceId").getD ""

def deregCallbackUri (registration : Registration) : String :=
  (registration.body.getStr "deregCallbackUri").getD ""

lemma getStr_amfInstanceId :
  registration.body.getStr "amfInstanceId" = some registration.amfInstanceId := by
  obtain ⟨⟨amfInstanceId, present, -⟩, -⟩ := validateAmf3gppRegistration_ok registration.valid
  simp [Registration.amfInstanceId, present]

lemma getStr_deregCallbackUri :
  registration.body.getStr "deregCallbackUri" = some registration.deregCallbackUri := by
  obtain ⟨-, deregCallbackUri, present, -⟩ := validateAmf3gppRegistration_ok registration.valid
  simp [Registration.deregCallbackUri, present]

lemma deregCallbackUri_ne : registration.deregCallbackUri ≠ "" := by
  obtain ⟨-, deregCallbackUri, present, nonempty⟩ :=
    validateAmf3gppRegistration_ok registration.valid
  simpa [Registration.deregCallbackUri, present] using nonempty

end Registration

def acceptedRegistration (request : SbiRequest) : Option Registration :=
  match request.body with
  | .error _ => none
  | .ok body =>
    match valid : validateAmf3gppRegistration body with
    | .ok () => some ⟨body, valid⟩
    | .error _ => none

abbrev UdrStore := AList (fun _ : String => Json)

def UdrStore.answerGet (store : UdrStore) (path : String) : Answer :=
  match store.lookup path with
  | some resource => .ok (.withJsonBody 200 resource)
  | none => .ok (sendNotFound "Resource not found" none)

def UdrStore.apply (mergePatch : Json → Json → Json) (store : UdrStore)
  (request : Request) : UdrStore :=
  match request.method with
  | .put body => store.insert request.target body
  | .patch body =>
    match store.lookup request.target with
    | some resource => store.insert request.target (mergePatch resource body)
    | none => store
  | .delete => store.erase request.target
  | .get | .post _ => store

structure RegistrationState where
  context : UdmContext
  udr : UdrStore

inductive RegistrationInput where
  | register (access : AccessType) (request : SbiRequest)
  | deregister

def registrationMachine (deconcealSuci : String → Option String)
  (mergePatch : Json → Json → Json) (supi : String) :
  Machine RegistrationState RegistrationInput Handled where
  step state input :=
    let get := state.udr.answerGet (amfContextGet supi).target
    let put := .ok (.withStatus 204)
    let (context, handled) :=
      match input with
      | .register .threeGpp request =>
        handleAmfRegistration deconcealSuci state.context supi request get put
      | .register .nonThreeGpp request =>
        handleAmfNon3gppRegistration deconcealSuci state.context supi request get put
      | .deregister => handleAmfDeregistration state.context supi
    (⟨context, handled.sent.foldl (UdrStore.apply mergePatch) state.udr⟩, handled)

def Handled.notified (handled : Handled) : List String :=
  handled.sent.filterMap fun request =>
    match request.method with
    | .post _ => some request.target
    | _ => none

def RegistrationInput.event : RegistrationInput → Option (RegistryEvent AccessType Registration)
  | .register access request => (acceptedRegistration request).map (.register access)
  | .deregister => some (.clear .threeGpp)

/-- The registry: an AMF instance owns its registrations, and the answer is the
registration that another instance lost. -/
def servingAmfs :
  Machine (AccessType → Option Registration) RegistrationInput (Option Registration) :=
  (registry Registration.amfInstanceId).through none RegistrationInput.event

def Stores (state : RegistrationState) (serving : AccessType → Option Registration) : Prop :=
  ∀ access : AccessType, state.udr.lookup (contextDataPath supi access.resource) =
      (serving access).map Registration.body

structure Agrees (supi : String) (state : RegistrationState)
  (serving : AccessType → Option Registration) : Prop where
  stores : Stores supi state serving
  uncached : serving .threeGpp = none → cachedPriorAmfRegistration state.context supi = none

lemma contextDataPath_ne : contextDataPath supi AccessType.nonThreeGpp.resource ≠
    contextDataPath supi AccessType.threeGpp.resource := by
  intro same
  have resources := (String.append_right_inj _).mp same
  exact absurd resources (by decide)

def acceptedRequests (prior : Option Json) (body : Json) : List Request :=
  [amfContextGet supi, amfContextPut supi body] ++
    match prior with
    | some prior => notifyOldAmfIfChanged prior body
    | none => []

section Steps

variable (deconcealSuci : String → Option String) (mergePatch : Json → Json → Json) (supi : String)
  (context : UdmContext)

lemma readPrior_of_agrees {state : RegistrationState}
  {serving : AccessType → Option Registration} (agrees : Agrees supi state serving) :
  readPriorAmfRegistration state.context supi (state.udr.answerGet (amfContextGet supi).target) =
    (serving .threeGpp).map Registration.body := by
  have stored := agrees.stores .threeGpp
  unfold readPriorAmfRegistration UdrStore.answerGet
  change state.udr.lookup (amfContextGet supi).target = _ at stored
  rw [stored]
  cases holder : serving .threeGpp with
  | none => exact agrees.uncached holder
  | some registration => rfl

lemma notifyOldAmfIfChanged_eq (old new : Registration) :
  notifyOldAmfIfChanged old.body new.body = if old.amfInstanceId ≠ new.amfInstanceId
    then [sendDeregNotification old.deregCallbackUri buildDeregNotificationBody] else [] := by
  unfold notifyOldAmfIfChanged
  rw [old.getStr_amfInstanceId, new.getStr_amfInstanceId, old.getStr_deregCallbackUri]
  simp only [if_neg old.deregCallbackUri_ne]
  by_cases same : old.amfInstanceId = new.amfInstanceId
  · rw [if_pos same, if_neg (not_not_intro same)]
  · rw [if_neg same, if_pos same]

lemma handleAmfRegistration_cases (request : SbiRequest) (get : Answer) :
  (acceptedRegistration request = none ∧
    ∃ response, handleAmfRegistration deconcealSuci context supi request get
      (.ok (.withStatus 204)) = (context, ⟨response, []⟩)) ∨
  ∃ registration, acceptedRegistration request = some registration ∧
    ∃ response, handleAmfRegistration deconcealSuci context supi request get
        (.ok (.withStatus 204)) =
      (cacheAmfRegistration deconcealSuci context supi registration.body,
        ⟨response, acceptedRequests supi (readPriorAmfRegistration context supi get)
          registration.body⟩) := by
  unfold handleAmfRegistration acceptedRegistration
  cases request.body with
  | error refusal => exact .inl ⟨rfl, refusal, rfl⟩
  | ok body =>
    simp only
    unfold processAmfRegistration
    split
    · next valid =>
        refine .inr ⟨⟨body, valid⟩, rfl, ?_⟩
        rw [valid]
        exact ⟨_, rfl⟩
    · next problem invalid =>
        refine .inl ⟨rfl, ?_⟩
        rw [invalid]
        exact ⟨_, rfl⟩

lemma handleAmfNon3gppRegistration_eq (request : SbiRequest) (get put : Answer) :
  handleAmfNon3gppRegistration deconcealSuci context supi request get put =
    handleAmfRegistration deconcealSuci context supi request get put := by
  rw [handleAmfNon3gppRegistration, handleAmfRegistration]

lemma cachedPrior_deregistered :
  cachedPriorAmfRegistration (handleAmfDeregistration context supi).1 supi = none := by
  unfold handleAmfDeregistration processAmfDeregistration cachedPriorAmfRegistration
  cases found : context.ueFindBySupi supi with
  | none => simp [found]
  | some ue =>
    have gone : (context.ueRemove ue.id).ueFindBySupi supi = none :=
      UeContext.ueFindBySupi_ueRemove found
    simp [gone]

lemma udr_after_notification (store : UdrStore) (prior new : Json) :
  (notifyOldAmfIfChanged prior new).foldl (UdrStore.apply mergePatch) store = store := by
  unfold notifyOldAmfIfChanged
  split
  · split
    · rfl
    · split
      · rfl
      · rfl
  · rfl

lemma udr_after_registration (store : UdrStore) (prior : Option Json) (body : Json) :
  (acceptedRequests supi prior body).foldl (UdrStore.apply mergePatch) store =
    store.insert (contextDataPath supi AccessType.threeGpp.resource) body := by
  cases prior with
  | none => rfl
  | some prior => exact udr_after_notification mergePatch _ prior body

lemma notified_after_registration (response : SbiResponse) (prior : Option Registration)
  (new : Registration) :
  (Handled.mk response (acceptedRequests supi (prior.map Registration.body) new.body)).notified =
    ((prior.filter fun old => old.amfInstanceId ≠ new.amfInstanceId).map
      Registration.deregCallbackUri).toList := by
  cases prior with
  | none => rfl
  | some old =>
    simp only [acceptedRequests, map_some, notifyOldAmfIfChanged_eq, filter_some, decide_eq_true_eq]
    split
    · rfl
    · rfl

section

variable {state : RegistrationState} {serving : AccessType → Option Registration}

lemma stores_insert (stores : Stores supi state serving) (context : UdmContext)
  (new : Registration) :
  Stores supi
    ⟨context, state.udr.insert (contextDataPath supi AccessType.threeGpp.resource) new.body⟩
    (Function.update serving .threeGpp (some new)) := by
  intro access
  cases access with
  | threeGpp => exact lookup_insert state.udr
  | nonThreeGpp =>
    exact (lookup_insert_ne (contextDataPath_ne supi)).trans (stores .nonThreeGpp)

lemma stores_erase (stores : Stores supi state serving) (context : UdmContext) :
  Stores supi ⟨context, state.udr.erase (contextDataPath supi AccessType.threeGpp.resource)⟩
    (Function.update serving .threeGpp none) := by
  intro access
  cases access with
  | threeGpp => exact lookup_erase _ state.udr
  | nonThreeGpp =>
    exact (lookup_erase_ne (contextDataPath_ne supi)).trans (stores .nonThreeGpp)

/-- A step of the handlers beside one of the registry. -/
def Mirrors (state : RegistrationState) (serving : AccessType → Option Registration)
  (input : RegistrationInput) : Prop :=
  Agrees supi ((registrationMachine deconcealSuci mergePatch supi).step state input).1
      (servingAmfs.step serving input).1 ∧
    ((registrationMachine deconcealSuci mergePatch supi).step state input).2.notified =
      ((servingAmfs.step serving input).2.map Registration.deregCallbackUri).toList

lemma register_agrees (agrees : Agrees supi state serving) (request : SbiRequest) :
  Mirrors deconcealSuci mergePatch supi state serving (.register .threeGpp request) := by
  unfold Mirrors registrationMachine servingAmfs through RegistrationInput.event
  rcases handleAmfRegistration_cases deconcealSuci supi state.context request
      (state.udr.answerGet (amfContextGet supi).target) with
    ⟨refused, response, handled⟩ | ⟨registration, accepted, response, handled⟩
  · simp only [refused, handled, map_none]
    exact ⟨⟨agrees.stores, agrees.uncached⟩, rfl⟩
  · rw [readPrior_of_agrees supi agrees] at handled
    simp only [accepted, handled, map_some, registry_register,
      udr_after_registration, notified_after_registration]
    refine ⟨⟨stores_insert supi agrees.stores _ registration, ?_⟩, trivial⟩
    intro vacant
    rw [Function.update_self] at vacant
    cases vacant

lemma deregister_agrees (agrees : Agrees supi state serving) :
  Mirrors deconcealSuci mergePatch supi state serving .deregister :=
  ⟨⟨stores_erase supi agrees.stores _, fun _ => cachedPrior_deregistered supi state.context⟩, rfl⟩

lemma refused_agrees (agrees : Agrees supi state serving) {request : SbiRequest}
  (refused : acceptedRegistration request = none) :
  Mirrors deconcealSuci mergePatch supi state serving (.register .nonThreeGpp request) := by
  unfold Mirrors registrationMachine servingAmfs through RegistrationInput.event
  rcases handleAmfRegistration_cases deconcealSuci supi state.context request
      (state.udr.answerGet (amfContextGet supi).target) with
    ⟨-, response, handled⟩ | ⟨registration, accepted, -⟩
  · simp only [refused, handleAmfNon3gppRegistration_eq, handled, map_none]
    exact ⟨⟨agrees.stores, agrees.uncached⟩, rfl⟩
  · rw [refused] at accepted
    cases accepted

end

lemma nonThreeGpp_unwritten (state : RegistrationState) (input : RegistrationInput) :
  ((registrationMachine deconcealSuci mergePatch supi).step state input).1.udr.lookup
      (contextDataPath supi AccessType.nonThreeGpp.resource) =
    state.udr.lookup (contextDataPath supi AccessType.nonThreeGpp.resource) := by
  unfold registrationMachine
  cases input with
  | deregister => exact lookup_erase_ne (contextDataPath_ne supi)
  | register access request =>
    rcases handleAmfRegistration_cases deconcealSuci supi state.context request
        (state.udr.answerGet (amfContextGet supi).target) with
      ⟨-, response, handled⟩ | ⟨registration, -, response, handled⟩
    · cases access with
      | threeGpp => simp only [handled, foldl_nil]
      | nonThreeGpp => simp only [handleAmfNon3gppRegistration_eq, handled, foldl_nil]
    · cases access with
      | threeGpp =>
        simp only [handled, udr_after_registration]
        exact lookup_insert_ne (contextDataPath_ne supi)
      | nonThreeGpp =>
        simp only [handleAmfNon3gppRegistration_eq, handled, udr_after_registration]
        exact lookup_insert_ne (contextDataPath_ne supi)

/-- The UDR and the notifications follow the registry along the whole run. -/
def BookkeepingCorrect (state : RegistrationState) (inputs : List RegistrationInput) : Prop :=
  Forall₂
    (fun code registry => Stores supi code.1 registry.1 ∧
      code.2.notified = (registry.2.map Registration.deregCallbackUri).toList)
    ((registrationMachine deconcealSuci mergePatch supi).trace state inputs)
    (servingAmfs.trace (fun _ => none) inputs)

def RegistrationInput.KeepsTo3gpp (input : RegistrationInput) : Prop :=
  ∀ request, input = .register .nonThreeGpp request → acceptedRegistration request = none

section

variable {state : RegistrationState} {serving : AccessType → Option Registration}

lemma step_agrees (agrees : Agrees supi state serving) {input : RegistrationInput}
  (keeps : input.KeepsTo3gpp) :
  Mirrors deconcealSuci mergePatch supi state serving input := by
  cases input with
  | deregister => exact deregister_agrees deconcealSuci mergePatch supi agrees
  | register access request =>
    cases access with
    | threeGpp => exact register_agrees deconcealSuci mergePatch supi agrees request
    | nonThreeGpp =>
      exact refused_agrees deconcealSuci mergePatch supi agrees (keeps request rfl)

lemma keepsTo3gpp_of_follows
  (unwritten : state.udr.lookup (contextDataPath supi AccessType.nonThreeGpp.resource) = none)
  {inputs : List RegistrationInput}
  (follows : Forall₂ (fun code registry => Stores supi code.1 registry.1)
    ((registrationMachine deconcealSuci mergePatch supi).trace state inputs)
    (servingAmfs.trace serving inputs)) :
  ∀ input ∈ inputs, input.KeepsTo3gpp := by
  induction inputs generalizing state serving with
  | nil => simp
  | cons input rest ih =>
    rw [trace_cons, trace_cons, forall₂_cons] at follows
    obtain ⟨stores, later⟩ := follows
    have stillUnwritten :=
      (nonThreeGpp_unwritten deconcealSuci mergePatch supi state input).trans unwritten
    rw [forall_mem_cons]
    refine ⟨?_, ih stillUnwritten later⟩
    rintro request rfl
    by_contra notRefused
    obtain ⟨registration, accepted⟩ := ne_none_iff_exists'.mp notRefused
    have stored := stores .nonThreeGpp
    rw [stillUnwritten] at stored
    unfold servingAmfs through RegistrationInput.event at stored
    simp only [accepted, map_some, registry_register, Function.update_self] at stored
    cases stored

end

/-- The serving AMFs are kept right along a run exactly if all that it registers is for 3GPP
access. -/
theorem bookkeepingCorrect_iff {state : RegistrationState}
  (start : Agrees supi state fun _ => none) (inputs : List RegistrationInput) :
  BookkeepingCorrect deconcealSuci mergePatch supi state inputs ↔
    ∀ input ∈ inputs, input.KeepsTo3gpp := by
  constructor
  · intro correct
    apply keepsTo3gpp_of_follows deconcealSuci mergePatch supi (start.stores .nonThreeGpp)
    exact correct.imp fun _ _ both => both.1
  · intro keeps
    have along := (along_iff_forall_mem
      (registrationMachine deconcealSuci mergePatch supi) _ state inputs).mpr keeps
    have simulated := simulation (registrationMachine deconcealSuci mergePatch supi)
      servingAmfs (Agrees supi)
      (fun handled displaced =>
        handled.notified = (displaced.map Registration.deregCallbackUri).toList)
      (fun state serving input agrees keeps =>
        step_agrees deconcealSuci mergePatch supi agrees keeps)
      start along
    exact simulated.imp fun _ _ both => ⟨both.1.stores, both.2⟩

end Steps

def RegistrationState.init (maxUe : ℕ) : RegistrationState :=
  ⟨UeContext.init maxUe, ∅⟩

lemma init_agrees (maxUe : ℕ) : Agrees supi (RegistrationState.init maxUe) fun _ => none where
  stores _ := lookup_empty _
  uncached _ := rfl

def sampleRequest (amfInstanceId : String) : SbiRequest :=
  ⟨.json (sampleRegistration amfInstanceId ("http://" ++ amfInstanceId) "cafe01")⟩

theorem bookkeepingCorrect_sample :
  BookkeepingCorrect some (fun resource _ => resource) "imsi-999700000000001"
    (RegistrationState.init 4)
    [.register .threeGpp (sampleRequest "amf-1"), .register .threeGpp (sampleRequest "amf-2"),
      .deregister] := by
  apply (bookkeepingCorrect_iff some _ _ (init_agrees _ 4) _).mpr
  intro input membership request same
  subst same
  simp at membership

/-- A registration for non-3GPP access lands in the 3GPP resource. -/
theorem bookkeeping_incorrect :
  ¬ ∀ (deconcealSuci : String → Option String) (mergePatch : Json → Json → Json)
      (supi : String) (state : RegistrationState),
    Agrees supi state (fun _ => none) →
      ∀ inputs, BookkeepingCorrect deconcealSuci mergePatch supi state inputs := by
  intro correct
  have follows := correct some (fun resource _ => resource) "imsi-999700000000001"
    (RegistrationState.init 4) (init_agrees _ 4)
    [.register .threeGpp (sampleRequest "amf-1"), .register .nonThreeGpp (sampleRequest "n3iwf-1")]
  have keeps := keepsTo3gpp_of_follows some _ _ (AList.lookup_empty _)
    (follows.imp fun _ _ both => both.1)
  have refused := keeps (.register .nonThreeGpp (sampleRequest "n3iwf-1"))
    (mem_cons_of_mem _ mem_cons_self) _ rfl
  have accepted : (acceptedRegistration (sampleRequest "n3iwf-1")).isSome := by decide
  rw [refused] at accepted
  cases accepted

end NextGCore.Udm
