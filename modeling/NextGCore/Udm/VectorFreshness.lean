import NextGCore.Library.Counters
import NextGCore.Udm.AuthData

/-!
# One vector for each sequence number

The handlers of the UDM against a UDR that keeps one SQN for each SUPI, with
their GET and PATCH steps interleaved in any order.  Reading and storing are
two round trips without a comparison in between, and some refusals of the
PATCH are tolerated.  Where no step falls into either gap the SQNs issued are
successive values of one counter.
-/

namespace NextGCore.Udm

open Sbi Library

structure AuthSubscription where
  sqn : Sqn
  members : List (String × Json)

def AuthSubscription.resource (subscription : AuthSubscription) : Json :=
  .object <| ("sequenceNumber", .object [("sqn", .string (bytesToHex subscription.sqn.toList))]) ::
      subscription.members

structure AuthState (primitives : AuthPrimitives) where
  context : UdmContext
  subscriptions : String → AuthSubscription
  pending : List (PendingVector primitives)

inductive GetOutcome where
  | served
  | refused (status : ℕ)
  | unreachable (error : String)

structure PatchOutcome where
  written : Bool
  answer : Answer

inductive AuthInput where
  | request (supiOrSuci : String) (request : SbiRequest) (get : GetOutcome)
      (rand : Vector UInt8 16)
  | patched (task : ℕ) (outcome : PatchOutcome)

inductive AuthOutput (primitives : AuthPrimitives) where
  | stopped (stop : Ending)
  | storing (pending : PendingVector primitives)
  | finished (pending : PendingVector primitives) (written : Bool) (response : SbiResponse)
  | idle

def getAnswer (subscriptions : String → AuthSubscription) (outcome : GetOutcome)
  (supi : String) : Answer :=
  match outcome with
  | .served => .ok (.withJsonBody 200 (subscriptions supi).resource)
  | .refused status => .ok (.withStatus status)
  | .unreachable error => .error error

def storeSqn (subscriptions : String → AuthSubscription) (supi : String) (sqn : Sqn) :
  String → AuthSubscription :=
  Function.update subscriptions supi { subscriptions supi with sqn := sqn }

def authMachine (primitives : AuthPrimitives) (deconcealSuci : String → Option String) :
  Machine (AuthState primitives) AuthInput (AuthOutput primitives) where
  step state input :=
    match input with
    | .request supiOrSuci request get rand =>
      match beginAuthData primitives deconcealSuci state.context supiOrSuci request
          (getAnswer state.subscriptions get) rand with
      | (context, .stopped stop) => ({ state with context := context }, .stopped stop)
      | (context, .storing pending) =>
        ({ state with context := context, pending := state.pending ++ [pending] }, .storing pending)
    | .patched task outcome =>
      match state.pending[task]? with
      | none => (state, .idle)
      | some pending =>
        ({ state with
            pending := state.pending.eraseIdx task
            subscriptions :=
              if outcome.written
              then storeSqn state.subscriptions pending.supi (advanceSqnInd pending.ue.sqn)
              else state.subscriptions },
          .finished pending outcome.written (finishAuthData primitives pending outcome.answer))

variable {primitives : AuthPrimitives} (deconcealSuci : String → Option String)

def issuedSqn (supi : String) : AuthState primitives × AuthOutput primitives → Option Sqn
  | (_, .finished pending _ response) =>
    if pending.supi = supi ∧ response.status = 200 then some pending.ue.sqn else none
  | _ => none

def storedSqn (supi : String) : AuthState primitives × AuthOutput primitives → Option Sqn
  | (_, .finished pending written _) =>
    if pending.supi = supi ∧ written then some (advanceSqnInd pending.ue.sqn) else none
  | _ => none

/-- A PATCH that is stored or lets the vector go out finds the SQN of the
vector still stored, and is itself stored. -/
def Undisturbed (supi : String) (state : AuthState primitives) : AuthInput → Prop
  | .request _ _ _ _ => True
  | .patched task outcome =>
    ∀ pending, state.pending[task]? = some pending → pending.supi = supi →
      outcome.written ∨ sqnPatchOutcome outcome.answer = none →
        outcome.written ∧ (state.subscriptions supi).sqn = pending.ue.sqn

def AuthInput.WithoutResynchronization : AuthInput → Prop
  | .request _ message _ _ =>
    ∀ body, message.content = .json body → body.get "resynchronizationInfo" = none
  | .patched _ _ => True

/-- Requests one after the other, whose PATCH is stored when it is tolerated. -/
def Sequential (state : AuthState primitives) (input : AuthInput) : Prop :=
  input.WithoutResynchronization ∧
    match input with
    | .request _ _ _ _ => state.pending = []
    | .patched _ outcome => sqnPatchOutcome outcome.answer = none → outcome.written

lemma authMachine_step_cases (state : AuthState primitives) (input : AuthInput) :
  (((authMachine primitives deconcealSuci).step state input).1.subscriptions =
      state.subscriptions ∧
    ∀ supi, issuedSqn supi ((authMachine primitives deconcealSuci).step state input) = none ∧
      storedSqn supi ((authMachine primitives deconcealSuci).step state input) = none) ∨
  ∃ task outcome pending, input = .patched task outcome ∧ state.pending[task]? = some pending ∧
    (authMachine primitives deconcealSuci).step state input =
      ({ state with
          pending := state.pending.eraseIdx task
          subscriptions :=
            if outcome.written
            then storeSqn state.subscriptions pending.supi (advanceSqnInd pending.ue.sqn)
            else state.subscriptions },
        .finished pending outcome.written
          (finishAuthData primitives pending outcome.answer)) := by
  unfold authMachine
  cases input with
  | request supiOrSuci request get rand =>
    left
    simp only
    split
    · exact ⟨rfl, fun _ => ⟨rfl, rfl⟩⟩
    · exact ⟨rfl, fun _ => ⟨rfl, rfl⟩⟩
  | patched task outcome =>
    cases found : state.pending[task]? with
    | none =>
      left
      simp only [found]
      exact ⟨trivial, fun _ => ⟨rfl, rfl⟩⟩
    | some pending =>
      right
      refine ⟨task, outcome, pending, rfl, found, ?_⟩
      simp only [found]

lemma storeSqn_self (subscriptions : String → AuthSubscription) (supi : String) (sqn : Sqn) :
  (storeSqn subscriptions supi sqn supi).sqn = sqn := by
  rw [storeSqn, Function.update_self]

lemma storeSqn_ne (subscriptions : String → AuthSubscription) {supi other : String}
  (different : supi ≠ other) (sqn : Sqn) :
  storeSqn subscriptions other sqn supi = subscriptions supi :=
  Function.update_of_ne different _ _

section Counter

variable (supi : String)

lemma idle_of_not_stored {state : AuthState primitives} {input : AuthInput}
  (undisturbed : Undisturbed supi state input)
  (notStored : storedSqn supi ((authMachine primitives deconcealSuci).step state input) = none) :
  (((authMachine primitives deconcealSuci).step state input).1.subscriptions supi).sqn =
      (state.subscriptions supi).sqn ∧
    issuedSqn supi ((authMachine primitives deconcealSuci).step state input) = none := by
  rcases authMachine_step_cases deconcealSuci state input with
    ⟨same, silent⟩ | ⟨task, outcome, pending, rfl, found, step⟩
  · rw [same]
    exact ⟨rfl, (silent supi).1⟩
  · rw [step] at notStored ⊢
    by_cases own : pending.supi = supi
    · have unwritten : outcome.written = false := by
        by_contra written
        simp [storedSqn, own, written] at notStored
      have refused : sqnPatchOutcome outcome.answer ≠ none := by
        intro tolerated
        have stored := (undisturbed pending found own (.inr tolerated)).1
        rw [unwritten] at stored
        cases stored
      have notReturned : (finishAuthData primitives pending outcome.answer).status ≠ 200 :=
        fun returned => refused ((finishAuthData_status_iff primitives pending _).mp returned)
      refine ⟨?_, ?_⟩
      · simp [unwritten]
      · simp [issuedSqn, notReturned]
    · refine ⟨?_, ?_⟩
      · cases outcome.written with
        | false => rfl
        | true => exact congrArg _ (storeSqn_ne _ (Ne.symm own) _)
      · simp [issuedSqn, own]

lemma advances_of_stored {state : AuthState primitives} {input : AuthInput} {sqn : Sqn}
  (undisturbed : Undisturbed supi state input)
  (stored : storedSqn supi ((authMachine primitives deconcealSuci).step state input) = some sqn) :
  (((authMachine primitives deconcealSuci).step state input).1.subscriptions supi).sqn =
      advanceSqnInd (state.subscriptions supi).sqn ∧
    ∀ value ∈ issuedSqn supi ((authMachine primitives deconcealSuci).step state input),
      value = (state.subscriptions supi).sqn := by
  rcases authMachine_step_cases deconcealSuci state input with
    ⟨-, silent⟩ | ⟨task, outcome, pending, rfl, found, step⟩
  · rw [(silent supi).2] at stored
    cases stored
  · rw [step] at stored ⊢
    simp only [storedSqn] at stored
    split at stored
    · next both =>
        obtain ⟨own, written⟩ := both
        have current := (undisturbed pending found own (.inl written)).2
        refine ⟨?_, ?_⟩
        · rw [if_pos written, own, storeSqn_self, current]
        · intro value issued
          simp only [issuedSqn] at issued
          split at issued
          · rw [current]
            exact (Option.some.inj issued).symm
          · cases issued
    · cases stored

def issuedBy (state : AuthState primitives) (inputs : List AuthInput) : List Sqn :=
  (authMachine primitives deconcealSuci).emitted (issuedSqn supi) state inputs

def storedBy (state : AuthState primitives) (inputs : List AuthInput) : List Sqn :=
  (authMachine primitives deconcealSuci).emitted (storedSqn supi) state inputs

def BeforeWrap (state : AuthState primitives) (inputs : List AuthInput) : Prop :=
  sqnValue (state.subscriptions supi).sqn +
    32 * ((storedBy deconcealSuci supi state inputs).length - 1) < 2 ^ 48

section

variable {state : AuthState primitives} {inputs : List AuthInput}
  (along : (authMachine primitives deconcealSuci).Along (Undisturbed supi) state inputs)

include along

lemma issued_sublist_iterate :
  (issuedBy deconcealSuci supi state inputs).Sublist
    (List.iterate advanceSqnInd (state.subscriptions supi).sqn
      (storedBy deconcealSuci supi state inputs).length) :=
  emitted_sublist_iterate (authMachine primitives deconcealSuci) advanceSqnInd
    (fun current : AuthState primitives => (current.subscriptions supi).sqn)
    (storedSqn supi) (issuedSqn supi)
    (fun _ _ undisturbed => idle_of_not_stored deconcealSuci supi undisturbed)
    (fun _ _ _ undisturbed => advances_of_stored deconcealSuci supi undisturbed) along

lemma issued_distinct (bound : (storedBy deconcealSuci supi state inputs).length ≤ 2 ^ 43) :
  (issuedBy deconcealSuci supi state inputs).Pairwise (· ≠ ·) :=
  pairwise_of_sublist_iterate
    (fun _ _ order below => advanceSqnInd_iterate_ne _ order (below.trans_le bound))
    (issued_sublist_iterate deconcealSuci supi along)

lemma issued_increasing (bound : BeforeWrap deconcealSuci supi state inputs) :
  (issuedBy deconcealSuci supi state inputs).Pairwise
    (fun earlier later => sqnValue earlier < sqnValue later) := by
  unfold BeforeWrap at bound
  exact pairwise_of_sublist_iterate
    (fun _ _ order below => advanceSqnInd_iterate_lt _ order (by omega))
    (issued_sublist_iterate deconcealSuci supi along)

end

end Counter

lemma authSubscription_getAnswer {subscriptions : String → AuthSubscription}
  {outcome : GetOutcome} {supi : String} {subscription : Json}
  (subscribed : authSubscription (getAnswer subscriptions outcome supi) = .ok subscription) :
  subscription = (subscriptions supi).resource := by
  cases outcome with
  | served => exact (Except.ok.inj subscribed).symm
  | unreachable error => cases subscribed
  | refused status =>
    unfold authSubscription getAnswer at subscribed
    simp only at subscribed
    split at subscribed
    · cases subscribed
    · split at subscribed
      · cases subscribed
      · cases subscribed

lemma sqn_of_storing {context next : UdmContext}
  {subscriptions : String → AuthSubscription} {supiOrSuci : String} {request : SbiRequest}
  {get : GetOutcome} {rand : Vector UInt8 16} {pending : PendingVector primitives}
  (begun : beginAuthData primitives deconcealSuci context supiOrSuci request
    (getAnswer subscriptions get) rand = (next, .storing pending))
  (absent : (AuthInput.request supiOrSuci request get rand).WithoutResynchronization) :
  pending.ue.sqn = (subscriptions pending.supi).sqn := by
  obtain ⟨subscription, sqnHex, subscribed, member, read⟩ := beginAuthData_storing begun absent
  rw [authSubscription_getAnswer subscribed] at member
  obtain rfl : bytesToHex (subscriptions pending.supi).sqn.toList = sqnHex :=
    Option.some.inj member
  rw [hexToBytes_bytesToHex, Option.bind_some, firstOctets_toList] at read
  exact (Option.some.inj read).symm

structure Settled (state : AuthState primitives) : Prop where
  alone : state.pending.length ≤ 1
  current : ∀ pending ∈ state.pending, pending.ue.sqn = (state.subscriptions pending.supi).sqn

lemma settled_of_none {state : AuthState primitives} (empty : state.pending = []) :
  Settled state where
  alone := by simp [empty]
  current := by simp [empty]

lemma settled_step {state : AuthState primitives} {input : AuthInput}
  (settled : Settled state) (sequential : Sequential state input) :
  Settled ((authMachine primitives deconcealSuci).step state input).1 := by
  unfold authMachine
  cases input with
  | request supiOrSuci request get rand =>
    obtain ⟨absent, empty⟩ := sequential
    simp only at empty ⊢
    split
    · exact settled_of_none empty
    · next context pending begun =>
        refine ⟨by simp [empty], ?_⟩
        intro other membership
        simp only [empty, List.nil_append, List.mem_singleton] at membership
        subst membership
        exact sqn_of_storing deconcealSuci begun absent
  | patched task outcome =>
    simp only
    split
    · exact settled
    · next pending found =>
        apply settled_of_none
        have inRange := (List.getElem?_eq_some_iff.mp found).1
        have alone := settled.alone
        apply List.eq_nil_of_length_eq_zero
        rw [List.length_eraseIdx_of_lt inRange]
        omega

lemma undisturbed_of_sequential (supi : String) {state : AuthState primitives}
  {input : AuthInput} (settled : Settled state) (sequential : Sequential state input) :
  Undisturbed supi state input := by
  cases input with
  | request supiOrSuci request get rand => trivial
  | patched task outcome =>
    rintro pending found rfl storedOrReturned
    have current := settled.current pending (List.mem_of_getElem? found)
    exact ⟨storedOrReturned.elim id sequential.2, current.symm⟩

lemma along_undisturbed (supi : String) {state : AuthState primitives}
  {inputs : List AuthInput} (empty : state.pending = [])
  (along : (authMachine primitives deconcealSuci).Along Sequential state inputs) :
  (authMachine primitives deconcealSuci).Along (Undisturbed supi) state inputs := by
  have withInvariant := Machine.along_invariant (authMachine primitives deconcealSuci)
    (fun _ _ => settled_step deconcealSuci) (settled_of_none empty) along
  exact Machine.along_imp _
    (fun _ _ both => undisturbed_of_sequential supi both.1 both.2) withInvariant

/-- No SQN is issued twice while no step falls into a gap, however the requests
interleave; requests one after the other get greater and greater ones. -/
theorem sqn_not_reissued (supi : String) (state : AuthState primitives) (inputs : List AuthInput) :
  ((authMachine primitives deconcealSuci).Along (Undisturbed supi) state inputs →
    ((storedBy deconcealSuci supi state inputs).length ≤ 2 ^ 43 →
      (issuedBy deconcealSuci supi state inputs).Pairwise (· ≠ ·)) ∧
    (BeforeWrap deconcealSuci supi state inputs →
      (issuedBy deconcealSuci supi state inputs).Pairwise
        (fun earlier later => sqnValue earlier < sqnValue later))) ∧
  (state.pending = [] → (authMachine primitives deconcealSuci).Along Sequential state inputs →
    BeforeWrap deconcealSuci supi state inputs →
    (issuedBy deconcealSuci supi state inputs).Pairwise
      (fun earlier later => sqnValue earlier < sqnValue later)) := by
  constructor
  · intro along
    exact ⟨issued_distinct deconcealSuci supi along, issued_increasing deconcealSuci supi along⟩
  · intro empty along bound
    exact issued_increasing deconcealSuci supi (along_undisturbed deconcealSuci supi empty along)
      bound

def AuthPrimitives.sample : AuthPrimitives where
  milenageF1 _ _ _ _ _ := some (.replicate 8 0, .replicate 8 0)
  milenageF2345 _ _ _ :=
    some (.replicate 8 0, .replicate 16 0, .replicate 16 0, .replicate 6 0, .replicate 6 0)
  kdfCkIkPrime _ _ _ _ := (.replicate 16 0, .replicate 16 0)
  kdfKausf _ _ _ _ := .replicate 32 0
  kdfXresStar _ _ _ _ _ := .replicate 16 1

def sampleAuthState : AuthState .sample where
  context := UeContext.init 4
  subscriptions _ :=
    { sqn := sqnOctets 32
      members :=
        [("encPermanentKey", .string "465b5ce8b199b49faa5f0a2ee238a6bc"),
          ("encOpcKey", .string "e8ed289deba952e4283b54e88e6183ca"),
          ("authenticationManagementField", .string "8000")] }
  pending := []

def sampleAuthInput : AuthInput :=
  .request "imsi-999700000000001" ⟨.json <| .object
      [("servingNetworkName", .string "5G:mnc070.mcc999.3gppnetwork.org"),
        ("ausfInstanceId", .string "ausf-1")]⟩
    .served (.replicate 16 0)

def samplePatched : AuthInput := .patched 0 ⟨true, .ok (.withStatus 204)⟩

lemma sampleAuthInput_withoutResynchronization :
  sampleAuthInput.WithoutResynchronization := by
  intro body content
  cases content
  rfl

theorem sqn_not_reissued_sample : (issuedBy some "imsi-999700000000001" sampleAuthState
    [sampleAuthInput, sampleAuthInput, samplePatched]).Pairwise (· ≠ ·) ∧
  (issuedBy some "imsi-999700000000001" sampleAuthState
    [sampleAuthInput, samplePatched, sampleAuthInput, samplePatched]).Pairwise
      (fun earlier later => sqnValue earlier < sqnValue later) := by
  refine ⟨((sqn_not_reissued some _ sampleAuthState _).1 ?_).1 (by decide),
    (sqn_not_reissued some _ sampleAuthState _).2 rfl ?_ (by unfold BeforeWrap; decide)⟩
  · refine ⟨trivial, trivial, ?_, trivial⟩
    intro pending found _ _
    obtain rfl := Option.some.inj found
    exact ⟨rfl, rfl⟩
  · exact ⟨⟨sampleAuthInput_withoutResynchronization, rfl⟩, ⟨trivial, fun _ => rfl⟩,
      ⟨sampleAuthInput_withoutResynchronization, rfl⟩, ⟨trivial, fun _ => rfl⟩, trivial⟩

/-- Two requests that overlap read the same SQN, and both vectors go out. -/
theorem sqn_reissued : ¬ ∀ (primitives : AuthPrimitives) (deconcealSuci : String → Option String)
      (supi : String) (state : AuthState primitives) (inputs : List AuthInput),
    state.pending = [] → (∀ input ∈ inputs, input.WithoutResynchronization) →
      (issuedBy deconcealSuci supi state inputs).Pairwise (· ≠ ·) := by
  intro distinct
  have patched : samplePatched.WithoutResynchronization := trivial
  have twice := distinct .sample some "imsi-999700000000001" sampleAuthState
    [sampleAuthInput, sampleAuthInput, samplePatched, samplePatched] rfl
    (by simp only [List.forall_mem_cons, sampleAuthInput_withoutResynchronization, patched,
      List.not_mem_nil, false_implies, implies_true, and_self])
  revert twice
  decide

end NextGCore.Udm
