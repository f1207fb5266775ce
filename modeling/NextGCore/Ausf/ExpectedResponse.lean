import NextGCore.Ausf.Confirmation

/-!
# AUTHENTICATION_SUCCESS only for the expected response

An observer notes, for each authentication context, what the last vector that
was stored for it makes the AUSF expect.  While the records agree with the
observer, a success has shown exactly that.  Two steps break the agreement: a
5G-AKA confirmation of a record that holds an EAP-AKA' vector, and a failed
request to the UDM that writes an older vector back.
-/

namespace NextGCore.Ausf

open Sbi Library Function UeContext AusfState
open Crypt (Bytes)

abbrev Latest := ℕ → Option ExpectedResponse

variable {latest : Latest} {ue : AusfUe} {context context' : AusfContext} {pending : PendingUdm}
  {state : AusfState} {step : Step} {input : AusfInput}

def latestVector (primitives : AusfPrimitives) (latest : Latest) (state : AusfState)
  (input : AusfInput) (_ : AusfState × AusfOutput) : Latest :=
  match input with
  | .udmAnswer task answer =>
    match state.pending[task]? with
    | none => latest
    | some pending =>
      match pending.expectedFrom primitives answer, state.context.ues.ueFindById pending.ue.id with
      | some expected, some _ => update latest pending.ue.id (some expected)
      | _, _ => latest
  | _ => latest

/-- A success is for a context whose latest vector expects what the request
carried. -/
def ConfirmsExpected (primitives : AusfPrimitives) (joint : AusfState × Latest)
  (input : AusfInput) : Prop :=
  ((ausfMachine primitives).step joint.1 input).2.AnswersSuccess →
    match input with
    | .confirm5gAka authCtxId request =>
      ∃ id xresStar, parseU64 authCtxId = some id ∧ joint.2 id = some (.resStar xresStar) ∧
          resStarOf request = some xresStar.toList
    | .eapSession authCtxId request =>
      ∃ id xres kAut raw, parseU64 authCtxId = some id ∧ joint.2 id = some (.challenge xres kAut) ∧
          eapPayloadOf request = some raw ∧ ValidChallengeResponse primitives kAut xres raw
    | _ => False

/-- A 5G-AKA confirmation that shows the stored XRES* is for a record of 5G-AKA;
and when the UDM fails a request, the record still holds the vector that it
held when the request began. -/
def VectorRespected (primitives : AusfPrimitives) (state : AusfState) (input : AusfInput) :
  Prop :=
  match input with
  | .confirm5gAka authCtxId request =>
    ∀ ue kausf, Confirms primitives state.context (.confirm5gAka authCtxId request) ue kausf →
        ue.authType = .fiveGAka
  | .udmAnswer task answer =>
    ∀ pending error, state.pending[task]? = some (.authentication pending) →
      udmAuthData answer = .ok (.error error) →
        ∀ ue, state.context.ues.ueFindById pending.ue.id = some ue →
          pending.ue.expected = ue.expected
  | _ => True

def Carries : Option ExpectedResponse → AusfUe → Prop
  | some expected, ue => ue.expected = some expected
  | none, ue => ue.supi = none ∧ ∃ xresStar, ue.expected = some (.resStar xresStar)

structure Tracks (latest : Latest) (context : AusfContext) : Prop where
  live : ∀ id ue, context.ues.ueFindById id = some ue → Carries (latest id) ue
  unused : ∀ id, context.ues.ueList.next ≤ id → latest id = none

def InFlight (latest : Latest) : PendingUdm → Prop
  | .authentication pending => pending.ue.supi ≠ none → latest pending.ue.id ≠ none
  | .resync pending => pending.ue.authType = .eapAkaPrime

structure Consistent (joint : AusfState × Latest) : Prop where
  context : Tracks joint.2 joint.1.context
  pending : ∀ pending ∈ joint.1.pending, InFlight joint.2 pending

lemma carries_sameVector {latest : Option ExpectedResponse} {ue' : AusfUe}
  (carries : Carries latest ue) (same : SameVector ue ue') : Carries latest ue' := by
  cases latest with
  | none =>
    obtain ⟨unnamed, expects⟩ := carries
    rw [← same.expected] at expects
    exact ⟨same.supi.trans unnamed, expects⟩
  | some expected => exact same.expected.trans carries

lemma expected_of_carries {latest : Option ExpectedResponse} (carries : Carries latest ue) :
  ∃ expected, ue.expected = some expected := by
  cases latest with
  | none =>
    obtain ⟨-, xresStar, expects⟩ := carries
    exact ⟨_, expects⟩
  | some expected => exact ⟨expected, carries⟩

lemma latest_of_named {latest : Option ExpectedResponse} (carries : Carries latest ue)
  (named : ue.supi ≠ none) :
  ∃ expected, latest = some expected ∧ ue.expected = some expected := by
  cases latest with
  | none => exact absurd carries.1 named
  | some expected => exact ⟨expected, rfl, carries⟩

lemma latest_of_session {latest : Option ExpectedResponse} {session : EapAkaSession}
  (carries : Carries latest ue) (held : ue.eapSession = some session) :
  latest = some (.challenge session.xres session.kAut) := by
  cases latest with
  | none =>
    obtain ⟨-, xresStar, expects⟩ := carries
    cases (expected_of_session held expects).2
  | some expected => rw [(expected_of_session held carries).2]

lemma tracks_init (maxUe : ℕ) : Tracks (fun _ => none) (AusfContext.init maxUe) where
  live id ue found := by
    have absent : (AusfContext.init maxUe).ues.ueFindById id = none :=
      ueFindById_init maxUe id
    cases absent.symm.trans found
  unused _ _ := rfl

section

variable (tracks : Tracks latest context)

include tracks

lemma tracks_of_kept (next : context'.ues.ueList.next = context.ues.ueList.next)
  (kept : ∀ id ue', context'.ues.ueFindById id = some ue' →
    ∃ ue, context.ues.ueFindById id = some ue ∧ SameVector ue ue') :
  Tracks latest context' where
  live id ue' found := by
    obtain ⟨ue, before, same⟩ := kept id ue' found
    exact carries_sameVector (tracks.live id ue before) same
  unused id beyond := by
    rw [next] at beyond
    exact tracks.unused id beyond

lemma tracks_of_ues (same : context'.ues = context.ues) : Tracks latest context' := by
  apply tracks_of_kept tracks (by rw [same])
  intro id ue found
  rw [same] at found
  exact ⟨ue, found, rfl, rfl, rfl⟩

lemma tracks_ueRemove (removed : ℕ) : Tracks latest (context.ueRemove removed) := by
  apply tracks_of_kept tracks (ueRemove_next _ _)
  intro id ue found
  exact ⟨ue, of_ueFindById_ueRemove found, rfl, rfl, rfl⟩

lemma tracks_ueUpdate
  (carries : ∀ old, context.ues.ueFindById ue.id = some old → Carries (latest ue.id) ue) :
  Tracks latest (context.ueUpdate ue) where
  live id found after := by
    rcases of_ueFindById_ueUpdate after with ⟨own, rfl, old, before⟩ | ⟨-, before⟩
    · subst own
      exact carries old before
    · exact tracks.live id found before
  unused id beyond := tracks.unused id ((ueUpdate_next context.ues ue).symm ▸ beyond)

end

lemma tracks_revised {ue' : AusfUe} (tracks : Tracks latest context)
  (found : context.ues.ueFindById ue.id = some ue) (same : SameVector ue ue') :
  Tracks latest (context.ueUpdate ue') := by
  apply tracks_ueUpdate tracks
  intro old before
  rw [same.id]
  exact carries_sameVector (tracks.live ue.id ue found) same

lemma carries_new (id : ℕ) (suci : String) : Carries none (AusfUe.new id suci) :=
  ⟨rfl, _, rfl⟩

lemma tracks_ueAdd {next : AusfContext} {suci : String} (tracks : Tracks latest context)
  (added : context.ueAdd suci = some (next, ue)) :
  Tracks latest next ∧ next.ues.ueFindById ue.id = some ue := by
  obtain ⟨⟨ues, new⟩, allocated, same⟩ := Option.map_eq_some_iff.mp added
  cases same
  obtain ⟨rfl, advanced, finds⟩ := ueAdd_cases allocated
  refine ⟨⟨?_, ?_⟩, ?_⟩
  · intro id ue found
    rw [finds id] at found
    split at found
    · next fresh =>
        cases found
        rw [fresh, tracks.unused _ (le_refl _)]
        exact carries_new _ _
    · exact tracks.live id ue found
  · intro id beyond
    rw [advanced] at beyond
    exact tracks.unused id (Nat.le_of_succ_le beyond)
  · exact (finds _).trans (if_pos rfl)

lemma of_ueFindById_storeUe {found : AusfUe} {supi : Option String} {id : ℕ}
  (after : (storeUe context ue supi).ues.ueFindById id = some found) :
  (id = ue.id ∧ found.expected = ue.expected ∧ ∃ old, context.ues.ueFindById id = some old) ∨
    (id ≠ ue.id ∧ context.ues.ueFindById id = some found) := by
  cases supi with
  | none =>
    rcases of_ueFindById_ueUpdate after with ⟨own, rfl, before⟩ | other
    · exact .inl ⟨own, rfl, before⟩
    · exact .inr other
  | some supi =>
    rcases of_ueFindById_ueSetSupi after with ⟨own, stored, now, rfl⟩ | ⟨other, now⟩
    · rcases of_ueFindById_ueUpdate now with ⟨-, rfl, before⟩ | ⟨different, -⟩
      · exact .inl ⟨own, rfl, before⟩
      · exact absurd own different
    · rcases of_ueFindById_ueUpdate now with ⟨own, -⟩ | before
      · exact absurd own other
      · exact .inr before

lemma storeUe_next (context : AusfContext) (ue : AusfUe) (supi : Option String) :
  (storeUe context ue supi).ues.ueList.next = context.ues.ueList.next := by
  cases supi with
  | none => exact ueUpdate_next _ _
  | some supi => exact (ueSetSupi_next _ _ _).trans (ueUpdate_next _ _)

lemma tracks_stored {expected : ExpectedResponse} (supi : Option String)
  (tracks : Tracks latest context) (expects : ue.expected = some expected) {live : AusfUe}
  (found : context.ues.ueFindById ue.id = some live) :
  Tracks (update latest ue.id (some expected)) (storeUe context ue supi) where
  live id other after := by
    rcases of_ueFindById_storeUe after with ⟨rfl, same, -⟩ | ⟨different, before⟩
    · rw [update_self]
      exact same.trans expects
    · rw [update_of_ne different]
      exact tracks.live id other before
  unused id beyond := by
    rw [storeUe_next] at beyond
    have different : id ≠ ue.id := by
      rintro rfl
      cases (ueFindById_fresh beyond).symm.trans found
    rw [update_of_ne different]
    exact tracks.unused id beyond

lemma tracks_storeUe_absent (supi : Option String) (tracks : Tracks latest context)
  (absent : context.ues.ueFindById ue.id = none) : Tracks latest (storeUe context ue supi) := by
  apply tracks_of_kept tracks (storeUe_next _ _ _)
  intro id other after
  rcases of_ueFindById_storeUe after with ⟨rfl, -, old, before⟩ | ⟨-, before⟩
  · cases absent.symm.trans before
  · exact ⟨other, before, rfl, rfl, rfl⟩

lemma inFlight_update (id : ℕ) (expected : ExpectedResponse)
  (inFlight : InFlight latest pending) :
  InFlight (update latest id (some expected)) pending := by
  cases pending with
  | resync pending => exact inFlight
  | authentication pending =>
    intro named
    by_cases own : pending.ue.id = id
    · rw [own, update_self]
      exact nofun
    · rw [update_of_ne own]
      exact inFlight named

lemma prepared_of_inFlight (inFlight : InFlight latest pending) : pending.Prepared := by
  cases pending with
  | authentication pending => trivial
  | resync pending => exact inFlight

variable {primitives : AusfPrimitives}

lemma inFlight_started {pending : PendingAuthentication} (tracks : Tracks latest context)
  (found : context.ues.ueFindById ue.id = some ue) (same : SameVector ue pending.ue) :
  InFlight latest (.authentication pending) := by
  intro named
  rw [same.supi] at named
  obtain ⟨expected, latest, -⟩ := latest_of_named (tracks.live ue.id ue found) named
  rw [same.id, latest]
  exact nofun

lemma consistent_awaiting (consistent : Consistent (state, latest))
  (tracks : Tracks latest context) (inFlight : InFlight latest pending) :
  Consistent (state.after (context, .awaiting pending), latest) where
  context := tracks
  pending other membership := by
    rcases List.mem_append.mp membership with before | own
    · exact consistent.pending other before
    · rw [List.mem_singleton.mp own]
      exact inFlight

lemma consistent_starts (consistent : Consistent (state, latest))
  (starts : Starts state.context context step) :
  Consistent (state.after (context, step), latest) := by
  cases starts with
  | refused silent => exact ⟨consistent.context, consistent.pending⟩
  | found found same =>
    exact consistent_awaiting consistent consistent.context
      (inFlight_started consistent.context found same)
  | added added same =>
    obtain ⟨tracks, found⟩ := tracks_ueAdd consistent.context added
    exact consistent_awaiting consistent tracks (inFlight_started tracks found same)

lemma consistent_concludes (consistent : Consistent (state, latest))
  (concludes : Concludes primitives state.context input context step) :
  Consistent (state.after (context, step), latest) := by
  cases concludes with
  | refused silent => exact ⟨consistent.context, consistent.pending⟩
  | revised silent found same =>
    exact ⟨tracks_revised consistent.context found same, consistent.pending⟩
  | confirmed confirms same =>
    have revised := tracks_revised consistent.context confirms.found same
    exact ⟨tracks_of_ues revised (AusfContext.anchorRefreshFor_ues _ _ _), consistent.pending⟩
  | @asked pending found held =>
    apply consistent_awaiting consistent consistent.context
    obtain ⟨expected, expects⟩ :=
      expected_of_carries (consistent.context.live pending.ue.id pending.ue found)
    exact (expected_of_session held expects).1

lemma tracks_restored {pending : PendingAuthentication} (tracks : Tracks latest context)
  (inFlight : InFlight latest (.authentication pending))
  (respected : ∀ ue, context.ues.ueFindById pending.ue.id = some ue →
    pending.ue.expected = ue.expected) : Tracks latest (context.ueUpdate pending.ue) := by
  apply tracks_ueUpdate tracks
  intro old before
  have carries := tracks.live pending.ue.id old before
  have expects := respected old before
  cases stored : latest pending.ue.id with
  | some expected =>
    rw [stored] at carries
    exact expects.trans carries
  | none =>
    rw [stored] at carries
    obtain ⟨-, xresStar, held⟩ := carries
    refine ⟨?_, xresStar, expects.trans held⟩
    by_contra named
    exact inFlight named stored

lemma consistent_resumes {task : ℕ} {answer : Answer} {ending : Ending}
  (consistent : Consistent (state, latest)) (found : state.pending[task]? = some pending)
  (respected : VectorRespected primitives state (.udmAnswer task answer))
  (resumes : Resumes primitives state.context answer pending context ending)
  (output : AusfState × AusfOutput) :
  Consistent (⟨context, state.pending.eraseIdx task⟩,
    latestVector primitives latest state (.udmAnswer task answer) output) := by
  have inFlight := consistent.pending pending (List.mem_of_getElem? found)
  have others : ∀ other ∈ state.pending.eraseIdx task, InFlight latest other :=
    fun other membership => consistent.pending other (List.mem_of_mem_eraseIdx membership)
  simp only [latestVector, found]
  cases resumes with
  | refused silent nothing =>
    rw [nothing]
    exact ⟨consistent.context, others⟩
  | @restored authentication _ error silent failed =>
    have nothing :
        (PendingUdm.authentication authentication).expectedFrom primitives answer = none := by
      simp only [PendingUdm.expectedFrom, failed]
    rw [nothing]
    exact ⟨tracks_restored consistent.context inFlight
      (respected authentication error found failed), others⟩
  | stored ue supi silent brings id expects =>
    have expected := expects (prepared_of_inFlight inFlight)
    rw [brings, ← id]
    cases live : state.context.ues.ueFindById ue.id with
    | none => exact ⟨tracks_storeUe_absent supi consistent.context live, others⟩
    | some old =>
      exact ⟨tracks_stored supi consistent.context expected live,
        fun other membership => inFlight_update _ _ (others other membership)⟩

lemma consistent_step {joint : AusfState × Latest} (consistent : Consistent joint)
  (respected : VectorRespected primitives joint.1 input) :
  Consistent
    (((ausfMachine primitives).observed (latestVector primitives)).step joint input).1 := by
  cases input with
  | authenticate request consumerPlmns =>
    exact consistent_starts consistent (handleUeAuthentication_starts _ _ _)
  | udmAnswer task answer =>
    rw [Machine.observed_step]
    cases found : joint.1.pending[task]? with
    | none =>
      have idle : (ausfMachine primitives).step joint.1 (.udmAnswer task answer) =
          (joint.1, .noTask) := by
        simp only [ausfMachine, found]
      simp only [latestVector, found, idle]
      exact consistent
    | some pending =>
      have resumed := consistent_resumes consistent found respected
        (resumeUdm_resumes primitives joint.1.context answer pending)
      simp only [ausfMachine, found]
      exact resumed _
  | confirm5gAka authCtxId request =>
    exact consistent_concludes consistent (handle5gAkaConfirmation_concludes primitives _ _ _)
  | eapSession authCtxId request =>
    exact consistent_concludes consistent (handleEapSession_concludes primitives _ _ _)
  | deleteContext authCtxId =>
    refine ⟨?_, consistent.pending⟩
    simp only [Machine.observed_step, ausfMachine, handleAuthContextDelete]
    split
    · exact consistent.context
    · exact tracks_ueRemove consistent.context _
  | nextCounter kind supi =>
    exact ⟨tracks_of_ues consistent.context (AusfContext.anchorNext_ues _ _ _), consistent.pending⟩

lemma confirms_of_success (concludes : Concludes primitives context input context' step)
  (success : (AusfOutput.handled step).AnswersSuccess) :
  ∃ ue kausf, Confirms primitives context input ue kausf := by
  cases concludes with
  | refused silent | revised silent found same => exact absurd success silent
  | confirmed confirms same => exact ⟨_, _, confirms⟩
  | asked found held => exact success.elim

lemma Starts.silent (starts : Starts context context' step) :
  ¬ (AusfOutput.handled step).AnswersSuccess := by
  cases starts with
  | refused silent => exact silent
  | found found same => exact id
  | added added same => exact id

lemma Resumes.silent {answer : Answer} {ending : Ending}
  (resumes : Resumes primitives context answer pending context' ending) :
  ¬ Ending.AnswersSuccess ending := by
  cases resumes with
  | refused silent nothing | restored silent failed | stored ue supi silent brings id expects =>
    exact silent

lemma handleAuthContextDelete_silent (context : AusfContext) (authCtxId : String) :
  ¬ Ending.AnswersSuccess (handleAuthContextDelete context authCtxId).2 := by
  unfold handleAuthContextDelete
  split
  · exact sendError_silent _ _ _ _
  · exact nofun

lemma confirmsExpected_of_consistent {joint : AusfState × Latest}
  (consistent : Consistent joint) (respected : VectorRespected primitives joint.1 input) :
  ConfirmsExpected primitives joint input := by
  intro success
  cases input with
  | authenticate request consumerPlmns =>
    have starts := handleUeAuthentication_starts joint.1.context request consumerPlmns
    exact starts.silent success
  | udmAnswer task answer =>
    cases found : joint.1.pending[task]? with
    | none =>
      simp only [ausfMachine, found] at success
      exact success
    | some pending =>
      simp only [ausfMachine, found] at success
      exact (resumeUdm_resumes primitives joint.1.context answer pending).silent success
  | confirm5gAka authCtxId request =>
    obtain ⟨ue, kausf, confirms⟩ := confirms_of_success
      (handle5gAkaConfirmation_concludes primitives joint.1.context authCtxId request) success
    have method := respected ue kausf confirms
    cases confirms with
    | fiveGAka found named resStar =>
      obtain ⟨id, parsed, stored⟩ := Option.bind_eq_some_iff.mp found
      have carries := consistent.context.live id ue stored
      have isNamed : ue.supi ≠ none := by
        rw [named]
        exact Option.some_ne_none _
      obtain ⟨expected, latest, expects⟩ := latest_of_named carries isNamed
      rw [expected_of_fiveGAka method expects] at latest
      exact ⟨id, ue.xresStar, parsed, latest, resStar⟩
  | eapSession authCtxId request =>
    obtain ⟨ue, kausf, confirms⟩ := confirms_of_success
      (handleEapSession_concludes primitives joint.1.context authCtxId request) success
    cases confirms with
    | @eapAkaPrime _ _ _ session raw found held payload negotiated valid =>
      obtain ⟨id, parsed, stored⟩ := Option.bind_eq_some_iff.mp found
      have latest := latest_of_session (consistent.context.live id ue stored) held
      exact ⟨id, session.xres, session.kAut, raw, parsed, latest, payload, valid⟩
  | deleteContext authCtxId =>
    exact handleAuthContextDelete_silent joint.1.context authCtxId success
  | nextCounter kind supi => exact success

/-- Along every run that respects the vectors, a success is for the response
that the latest vector expects. -/
theorem confirms_only_expected (primitives : AusfPrimitives) (maxUe : ℕ) (inputs : List AusfInput)
  (along : (ausfMachine primitives).Along (VectorRespected primitives)
    (AusfState.init maxUe) inputs) :
  ((ausfMachine primitives).observed (latestVector primitives)).Along
    (ConfirmsExpected primitives) (AusfState.init maxUe, fun _ => none) inputs := by
  have initially : Consistent (AusfState.init maxUe, fun _ => none) :=
    ⟨tracks_init maxUe, fun _ membership => by cases membership⟩
  have respected := ((ausfMachine primitives).along_observed (latestVector primitives)
    (VectorRespected primitives) (AusfState.init maxUe, fun _ => none) inputs).mpr along
  refine Machine.along_of_invariant _ ?_ ?_ initially respected
  · intro joint input consistent respected
    exact consistent_step consistent respected
  · intro joint input consistent respected
    exact confirmsExpected_of_consistent consistent respected

def sampleRun : List AusfInput :=
  [sampleAuthentication "suci-a", .udmAnswer 0 (sampleFiveGAka 4), sampleConfirmation "1" 2]

def broughtMethod (answer : Answer) : Option AuthType :=
  match udmAuthData answer with
  | .ok (.ok (.fiveGAka ..)) => some .fiveGAka
  | .ok (.ok (.eapAkaPrime ..)) => some .eapAkaPrime
  | _ => none

lemma sampleRun_method (found : ((ausfMachine .sample).run (AusfState.init 4)
    [sampleAuthentication "suci-a", .udmAnswer 0 (sampleFiveGAka 4)]).context.ues.ueFindByCtxId
      "1" =
      some ue) : ue.authType = .fiveGAka := by
  have method := congrArg (Option.map AusfUe.authType) found
  have computed : (((ausfMachine .sample).run (AusfState.init 4)
      [sampleAuthentication "suci-a", .udmAnswer 0 (sampleFiveGAka 4)]).context.ues.ueFindByCtxId
        "1").map AusfUe.authType = some .fiveGAka := by decide
  exact Option.some.inj (method.symm.trans computed)

theorem confirms_only_expected_sample :
  ((ausfMachine .sample).observed (latestVector .sample)).Along
    (ConfirmsExpected .sample) (AusfState.init 4, fun _ => none) sampleRun := by
  apply confirms_only_expected .sample 4 sampleRun
  refine ⟨trivial, ?_, ?_, trivial⟩
  · intro pending error _ failed
    have answered : broughtMethod (sampleFiveGAka 4) = some .fiveGAka := by decide
    rw [broughtMethod, failed] at answered
    cases answered
  · intro ue kausf confirms
    cases confirms with
    | fiveGAka found named resStar => exact sampleRun_method found

def AusfInput.NonZeroXresStar : AusfInput → Prop
  | .udmAnswer _ answer =>
    ∀ supi rand xresStar autn kausf,
      udmAuthData answer = .ok (.ok (.fiveGAka supi rand xresStar autn kausf)) →
        xresStar ≠ .replicate 16 0
  | _ => True

def unexpectedRun : List AusfInput :=
  [sampleAuthentication "suci-a", .udmAnswer 0 sampleEapAkaPrime, sampleConfirmation "1" 0]

lemma unexpectedRun_nonZero : ∀ input ∈ unexpectedRun, input.NonZeroXresStar := by
  simp only [unexpectedRun, List.forall_mem_cons, List.not_mem_nil, false_implies, implies_true,
    and_true]
  refine ⟨trivial, ?_, trivial⟩
  intro supi rand xresStar autn kausf fiveGAka
  have brought : broughtMethod sampleEapAkaPrime = some .eapAkaPrime := by decide
  rw [broughtMethod, fiveGAka] at brought
  cases brought

/-- An EAP-AKA' context is confirmed by an RES* of zeros. -/
theorem unexpected_confirmed :
  ¬ ∀ (primitives : AusfPrimitives) (maxUe : ℕ) (inputs : List AusfInput),
    (∀ input ∈ inputs, input.NonZeroXresStar) →
      ((ausfMachine primitives).observed (latestVector primitives)).Along
        (ConfirmsExpected primitives) (AusfState.init maxUe, fun _ => none) inputs := by
  intro expected
  obtain ⟨-, -, confirmed, -⟩ := expected .sample 4 unexpectedRun unexpectedRun_nonZero
  obtain ⟨id, xresStar, parsed, latest, -⟩ := confirmed rfl
  have first : parseU64 "1" = some 1 := by decide
  obtain rfl : 1 = id := Option.some.inj (first.symm.trans parsed)
  have stored : (((ausfMachine .sample).observed (latestVector .sample)).run
      (AusfState.init 4, fun _ => none)
      [sampleAuthentication "suci-a", .udmAnswer 0 sampleEapAkaPrime]).2 1 =
        some (.challenge (List.replicate 8 2) (.replicate 32 0)) := rfl
  cases stored.symm.trans latest

end NextGCore.Ausf
