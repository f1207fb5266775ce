import NextGCore.Smf.Gsm

/-!
# The order of an EPC establishment

An observer notes the requests that wait for an answer, the codes of the answers
that were processed, and whether the session is one of the 5GC.  An answer without a
code counts as a success, a second answer on an interface hides a failure of the
first, an entry event forgets the requests that are in flight, and a session of the
5GC is released through the EPC's state.
-/

namespace NextGCore.Smf

open Library

def answeredInterface : SmfEventId → Option EpcInterface
  | .s6bMessage => some .s6b
  | .gxMessage => some .gx
  | .gyMessage => some .gy
  | _ => none

def SmfEvent.resultCode (event : SmfEvent) : Option UInt32 :=
  event.diameter.bind DiameterEventData.resultCode

structure GsmHistory where
  unanswered : List EpcRequest
  answers : List (EpcInterface × Option UInt32)
  is5gc : Bool

namespace GsmHistory

variable {history : GsmHistory} {event : SmfEvent}

def start : GsmHistory := ⟨[], [], false⟩

def answered (history : GsmHistory) (request : EpcRequest) : GsmHistory :=
  { history with unanswered := history.unanswered.filter (· ≠ request) }

def note (history : GsmHistory) (fsm : GsmFsm) (input : GsmInput)
  (answer : GsmFsm × GsmFsmResult) : GsmHistory :=
  match input with
  | .send request => { history with unanswered := request :: history.unanswered }
  | .dispatch event =>
    match fsm.state, answeredInterface event.id with
    | .initial, _ =>
      { history with
        is5gc := answer.1.state ≠ .initial ∧
          (event.id = .sbiServer ∨ event.id = .gsmMessage) }
    | .waitEpcAuthInitial, some interface =>
      { history.answered (.initial interface) with
        answers := (interface, event.resultCode) :: history.answers }
    | .waitEpcAuthRelease, some interface => history.answered (.release interface)
    | _, _ => history

variable {fsm : GsmFsm}

lemma note_initial (initial : fsm.state = .initial) (event : SmfEvent)
  (answer : GsmFsm × GsmFsmResult) :
  history.note fsm (.dispatch event) answer = { history with
      is5gc := answer.1.state ≠ .initial ∧
        (event.id = .sbiServer ∨ event.id = .gsmMessage) } := by
  simp [note, initial]

lemma note_answer (waiting : fsm.state = .waitEpcAuthInitial) {interface : EpcInterface}
  (answers : answeredInterface event.id = some interface) (answer : GsmFsm × GsmFsmResult) :
  history.note fsm (.dispatch event) answer = { history.answered (.initial interface) with
      answers := (interface, event.resultCode) :: history.answers } := by
  simp [note, waiting, answers]

lemma note_other (waiting : fsm.state = .waitEpcAuthInitial)
  (other : answeredInterface event.id = none) (answer : GsmFsm × GsmFsmResult) :
  history.note fsm (.dispatch event) answer = history := by
  simp [note, waiting, other]

lemma note_is5gc (left : fsm.state ≠ .initial) (input : GsmInput)
  (answer : GsmFsm × GsmFsmResult) : (history.note fsm input answer).is5gc = history.is5gc := by
  unfold note
  split
  · rfl
  · split
    case h_1 initial => exact absurd initial left
    all_goals rfl

end GsmHistory

def gsmObserved : Machine (GsmFsm × GsmHistory) GsmInput GsmFsmResult :=
  gsmMachine.observed GsmHistory.note

def GsmState.EpcOnly (state : GsmState) : Prop :=
  state = .waitEpcAuthInitial ∨ state = .waitEpcAuthRelease

instance decidableEpcOnly (state : GsmState) : Decidable state.EpcOnly :=
  inferInstanceAs (Decidable (_ ∨ _))

namespace SmData

def inFlight (data : SmData) : EpcRequest → Bool
  | .initial .s6b => data.s6bAarInFlight
  | .initial .gx => data.gxCcrInitInFlight
  | .initial .gy => data.gyCcrInitInFlight
  | .release .s6b => data.s6bStrInFlight
  | .release .gx => data.gxCcrTermInFlight
  | .release .gy => data.gyCcrTermInFlight

def code (data : SmData) : EpcInterface → UInt32
  | .s6b => data.s6bAaaErr
  | .gx => data.gxCcaInitErr
  | .gy => data.gyCcaInitErr

end SmData

def EpcRequest.isInitial : EpcRequest → Bool
  | .initial _ => true
  | .release _ => false

/-- The codes that `check_epc_auth_complete` takes for a success. -/
def CountsAsSuccess (code : UInt32) : Prop := code = diameterSuccess ∨ code = 0

instance decidableCountsAsSuccess (code : UInt32) : Decidable (CountsAsSuccess code) :=
  inferInstanceAs (Decidable (_ ∨ _))

def GsmState.Establishing (state : GsmState) : Prop :=
  state = .initial ∨ state = .waitEpcAuthInitial

instance decidableEstablishing (state : GsmState) : Decidable state.Establishing :=
  inferInstanceAs (Decidable (_ ∨ _))

def InOrder (joint : GsmFsm × GsmHistory) : GsmInput → Prop
  -- Nothing checks the requests of the release before the session is established.
  | .send request => joint.1.state.Establishing → request.isInitial = true
  | .dispatch event =>
    -- An entry event resets the requests in flight.
    (joint.1.state = .initial → event.id = .fsmEntry → joint.2.unanswered = []) ∧
      -- An answer without a code is a success, and a success hides a failure.
      (joint.1.state = .waitEpcAuthInitial → ∀ interface ∈ answeredInterface event.id,
        event.resultCode ≠ none ∧ event.resultCode ≠ some 0 ∧
          (event.resultCode = some diameterSuccess →
            CountsAsSuccess (joint.1.smData.code interface))) ∧
      -- A deletion response leads to the release of an EPC session.
      (joint.2.is5gc = true → joint.1.state = .waitPfcpDeletion → event.id ≠ .n4Message)

instance decidableInOrder (joint : GsmFsm × GsmHistory) (input : GsmInput) :
  Decidable (InOrder joint input) :=
  match input with
  | .send _ => inferInstanceAs (Decidable (_ → _))
  | .dispatch _ => inferInstanceAs (Decidable (_ ∧ _ ∧ _))

/-- What the step does not do: establish the PFCP session of an EPC session with a
request unanswered or after an answer other than a success, or enter a state of the EPC
alone in a session of the 5GC. -/
def StepsSafely (joint : GsmFsm × GsmHistory) (input : GsmInput) : Prop :=
  let next := (gsmObserved.step joint input).1
  (joint.1.state = .waitEpcAuthInitial → next.1.state = .waitPfcpEstablishment →
      next.2.unanswered = [] ∧ ∀ answer ∈ next.2.answers, answer.2 = some diameterSuccess) ∧
    (next.2.is5gc = true → ¬ next.1.state.EpcOnly)

instance decidableStepsSafely (joint : GsmFsm × GsmHistory) (input : GsmInput) :
  Decidable (StepsSafely joint input) :=
  inferInstanceAs (Decidable ((_ → _ → _ ∧ _) ∧ (_ → _)))

structure Orderly (fsm : GsmFsm) (history : GsmHistory) : Prop where
  marked : fsm.state.Establishing → ∀ request ∈ history.unanswered,
    request.isInitial = true ∧ fsm.smData.inFlight request = true
  unasked : fsm.state = .initial → history.answers = []
  recorded : fsm.state = .waitEpcAuthInitial → ∀ answer ∈ history.answers,
    answer.2 = some diameterSuccess ∨ ¬ CountsAsSuccess (fsm.smData.code answer.1)
  notEpc : history.is5gc = true → ¬ fsm.state.Establishing ∧ ¬ fsm.state.EpcOnly

namespace GsmFsm

variable {fsm : GsmFsm} {event : SmfEvent} {data : SmData} {interface : EpcInterface}

lemma checkEpcAuthComplete_established
  (established : checkEpcAuthComplete data = .transition .waitPfcpEstablishment) :
  (∀ interface, data.inFlight (.initial interface) = false) ∧
    ∀ interface, CountsAsSuccess (data.code interface) := by
  unfold checkEpcAuthComplete at established
  split at established
  case isFalse => cases established
  case isTrue idle =>
    split at established
    case isFalse => cases established
    case isTrue success =>
      simp only [Bool.and_eq_true, Bool.not_eq_true'] at idle
      obtain ⟨⟨s6bIdle, gxIdle⟩, gyIdle⟩ := idle
      obtain ⟨s6b, gx, gy⟩ := success
      constructor
      · intro interface
        cases interface with
        | s6b => exact s6bIdle
        | gx => exact gxIdle
        | gy => exact gyIdle
      · intro interface
        cases interface with
        | s6b => exact s6b
        | gx => exact gx
        | gy => exact gy

lemma checkEpcAuthComplete_cases (data : SmData) :
  checkEpcAuthComplete data = .transition .waitPfcpEstablishment ∨
    checkEpcAuthComplete data = .transition .exception ∨
    checkEpcAuthComplete data = .handled := by
  unfold checkEpcAuthComplete
  split
  · split
    · exact .inl rfl
    · exact .inr (.inl rfl)
  · exact .inr (.inr rfl)

lemma handleWaitEpcAuthInitial_answer (fsm : GsmFsm)
  (answers : answeredInterface event.id = some interface) :
  ∃ data, fsm.handleWaitEpcAuthInitial event =
      ({ fsm with smData := data }, checkEpcAuthComplete data) ∧
    (∀ request, request ≠ .initial interface →
      data.inFlight request = fsm.smData.inFlight request) ∧
    data.code interface = codeAfter (fsm.smData.code interface) event ∧
    ∀ other, other ≠ interface → data.code other = fsm.smData.code other := by
  obtain ⟨id, timerId, sbi, pfcp, diameter⟩ := event
  cases id <;> cases answers
  all_goals
    refine ⟨_, rfl, ?_, rfl, ?_⟩
    · intro request apart
      rcases request with (_ | _ | _) | (_ | _ | _) <;> first | rfl | exact absurd rfl apart
    · intro other apart
      cases other <;> first | rfl | exact absurd rfl apart

lemma codeAfter_of_resultCode {code : UInt32} (found : event.resultCode = some code)
  (before : UInt32) : codeAfter before event = code := by
  obtain ⟨diameter, carried, answered⟩ := Option.bind_eq_some_iff.mp found
  simp [codeAfter, carried, answered]

lemma handleWaitEpcAuthInitial_other (fsm : GsmFsm) (other : answeredInterface event.id = none) :
  (fsm.handleWaitEpcAuthInitial event).1 = fsm ∧
    stateAfter .waitEpcAuthInitial (fsm.handleWaitEpcAuthInitial event).2 =
      .waitEpcAuthInitial := by
  obtain ⟨id, timerId, sbi, pfcp, diameter⟩ := event
  cases id <;> first | exact ⟨rfl, rfl⟩ | cases other

lemma dispatch_waiting (waiting : fsm.state = .waitEpcAuthInitial) : (fsm.dispatch event).1 =
    { (fsm.handleWaitEpcAuthInitial event).1 with
      state := stateAfter .waitEpcAuthInitial (fsm.handleWaitEpcAuthInitial event).2 } := by
  simp only [dispatch, handle, waiting]

lemma handle_later {next : GsmState} (later : ¬ fsm.state.Establishing)
  (entered : (fsm.handle event).2 = .transition next) :
  ¬ next.Establishing ∧
    (next = .waitEpcAuthRelease → fsm.state = .waitPfcpDeletion ∧ event.id = .n4Message) := by
  obtain ⟨id, timerId, sbi, pfcp, diameter⟩ := event
  obtain ⟨state, sessId, data⟩ := fsm
  cases state with
  | initial => exact absurd (.inl rfl) later
  | waitEpcAuthInitial => exact absurd (.inr rfl) later
  | wait5gcSmPolicyAssociation =>
    simp only [handle, handleWait5gcSmPolicyAssociation, handleSbiClientSmPolicy] at entered
    grind [GsmState.Establishing]
  | waitPfcpEstablishment =>
    simp only [handle, handleWaitPfcpEstablishment, handlePfcpEstablishmentResponse] at entered
    grind [GsmState.Establishing]
  | operational =>
    simp only [handle, handleOperational, handleGyOperational,
      handleSbiServerOperational] at entered
    grind [GsmState.Establishing]
  | waitPfcpDeletion =>
    simp only [handle, handleWaitPfcpDeletion] at entered
    grind [GsmState.Establishing]
  | waitEpcAuthRelease =>
    simp only [handle, handleWaitEpcAuthRelease, checkEpcAuthReleaseComplete] at entered
    grind [GsmState.Establishing]
  | wait5gcN1N2Release =>
    simp only [handle, handleWait5gcN1N2Release] at entered
    grind [GsmState.Establishing]
  | n1N2Reject5gc =>
    simp only [handle, handle5gcN1N2Reject] at entered
    grind [GsmState.Establishing]
  | sessionWillDeregister5gc =>
    simp only [handle, handle5gcSessionWillDeregister] at entered
    grind [GsmState.Establishing]
  | sessionWillRelease =>
    simp only [handle, handleSessionWillRelease] at entered
    grind [GsmState.Establishing]
  | exception =>
    simp only [handle, handleException] at entered
    grind [GsmState.Establishing]
  | final => cases entered

lemma handleInitial_cases (fsm : GsmFsm) (event : SmfEvent) :
  (event.id = .fsmEntry ∧ fsm.handleInitial event = ({ fsm with smData := .default }, .handled)) ∨
    event.id ≠ .fsmEntry ∧ (fsm.handleInitial event).1 = fsm ∧
      (stateAfter .initial (fsm.handleInitial event).2 = .initial ∨
        stateAfter .initial (fsm.handleInitial event).2 =
          if event.id = .sbiServer ∨ event.id = .gsmMessage then .wait5gcSmPolicyAssociation
          else .waitEpcAuthInitial) := by
  obtain ⟨id, timerId, sbi, pfcp, diameter⟩ := event
  simp only [handleInitial, handleSbiServerInitial]
  grind [stateAfter]

@[simp]
lemma markInFlight_state (fsm : GsmFsm) (request : EpcRequest) :
  (fsm.markInFlight request).state = fsm.state := by
  rcases request with (_ | _ | _) | (_ | _ | _) <;> rfl

@[simp]
lemma markInFlight_code (fsm : GsmFsm) (request : EpcRequest) (interface : EpcInterface) :
  (fsm.markInFlight request).smData.code interface = fsm.smData.code interface := by
  rcases request with (_ | _ | _) | (_ | _ | _) <;> cases interface <;> rfl

@[simp]
lemma markInFlight_inFlight (fsm : GsmFsm) (request other : EpcRequest) :
  (fsm.markInFlight request).smData.inFlight other =
    (decide (other = request) || fsm.smData.inFlight other) := by
  rcases request with (_ | _ | _) | (_ | _ | _) <;>
    rcases other with (_ | _ | _) | (_ | _ | _) <;> rfl

end GsmFsm

namespace Orderly

variable {fsm : GsmFsm} {history : GsmHistory} {event : SmfEvent} {request : EpcRequest}
  {data : SmData} {interface : EpcInterface} {input : GsmInput}

lemma start (sessId : ℕ) : Orderly (GsmFsm.new sessId) .start where
  marked := by simp [GsmHistory.start]
  unasked := by simp [GsmHistory.start]
  recorded := by simp [GsmHistory.start]
  notEpc := by simp [GsmHistory.start]

lemma send (orderly : Orderly fsm history) (inOrder : InOrder (fsm, history) (.send request)) :
  Orderly (fsm.markInFlight request)
    (history.note fsm (.send request) (fsm.markInFlight request, .handled)) where
  marked establishing other membership := by
    rw [GsmFsm.markInFlight_state] at establishing
    rcases List.mem_cons.mp membership with rfl | earlier
    · exact ⟨inOrder establishing, by simp⟩
    · have before := orderly.marked establishing other earlier
      exact ⟨before.1, by simp [before.2]⟩
  unasked initial := orderly.unasked (by simpa using initial)
  recorded waiting answer membership := by
    simpa using orderly.recorded (by simpa using waiting) answer membership
  notEpc is5gc := by simpa using orderly.notEpc is5gc

lemma of_past (past : ¬ fsm.state.Establishing)
  (notEpc : history.is5gc = true → ¬ fsm.state.EpcOnly) : Orderly fsm history where
  marked establishing := absurd establishing past
  unasked initial := absurd (.inl initial) past
  recorded waiting := absurd (.inr waiting) past
  notEpc is5gc := ⟨past, notEpc is5gc⟩

section

variable (orderly : Orderly fsm history)

include orderly

lemma dispatch_past (past : ¬ fsm.state.Establishing)
  (inOrder : InOrder (fsm, history) (.dispatch event)) :
  Orderly (fsm.dispatch event).1 (history.note fsm (.dispatch event) (fsm.dispatch event)) := by
  have noted : (history.note fsm (.dispatch event) (fsm.dispatch event)).is5gc =
      history.is5gc := GsmHistory.note_is5gc (fun initial => past (.inl initial)) _ _
  cases result : (fsm.handle event).2 with
  | transition next =>
    have reached : (fsm.dispatch event).1.state = next := by
      simp [GsmFsm.dispatch, GsmFsm.stateAfter, result]
    obtain ⟨after, released⟩ := GsmFsm.handle_later past result
    refine of_past (by rwa [reached]) fun is5gc epcOnly => ?_
    rw [noted] at is5gc
    rw [reached] at epcOnly
    rcases epcOnly with waiting | releasing
    · exact after (.inr waiting)
    · obtain ⟨deleting, deleted⟩ := released releasing
      exact inOrder.2.2 is5gc deleting deleted
  | _ =>
    have kept : (fsm.dispatch event).1.state = fsm.state := by
      simp [GsmFsm.dispatch, GsmFsm.stateAfter, result]
    exact of_past (by rwa [kept]) fun is5gc => by
      simpa [kept] using (orderly.notEpc (noted ▸ is5gc)).2

lemma dispatch_initial (initial : fsm.state = .initial)
  (inOrder : InOrder (fsm, history) (.dispatch event)) :
  Orderly (fsm.dispatch event).1 (history.note fsm (.dispatch event) (fsm.dispatch event)) := by
  have unasked := orderly.unasked initial
  rw [GsmHistory.note_initial initial]
  rcases GsmFsm.handleInitial_cases fsm event with
    ⟨entry, reset⟩ | ⟨_, kept, reached⟩
  · have nothing : history.unanswered = [] := inOrder.1 initial entry
    have stays : (fsm.dispatch event).1.state = .initial := by
      simp [GsmFsm.dispatch, GsmFsm.handle, GsmFsm.stateAfter, initial, reset]
    exact
      { marked := by simp [nothing]
        unasked := fun _ => unasked
        recorded := by simp [unasked]
        notEpc := by simp [stays] }
  · have dispatched : (fsm.dispatch event).1.smData = fsm.smData := by
      simp [GsmFsm.dispatch, GsmFsm.handle, initial, kept]
    have moves : (fsm.dispatch event).1.state =
        GsmFsm.stateAfter .initial (fsm.handleInitial event).2 := by
      simp [GsmFsm.dispatch, GsmFsm.handle, initial]
    exact
      { marked := by simpa [dispatched] using fun _ => orderly.marked (.inl initial)
        unasked := fun _ => unasked
        recorded := by simp [unasked]
        notEpc := by
          intro is5gc
          rcases reached with stays | leaves
          · simp [moves, stays] at is5gc
          · have source : event.id = .sbiServer ∨ event.id = .gsmMessage := by
              simpa using (of_decide_eq_true is5gc).2
            rw [moves, leaves, if_pos source]
            exact ⟨by simp [GsmState.Establishing], by simp [GsmState.EpcOnly]⟩ }

lemma recorded_answer (waiting : fsm.state = .waitEpcAuthInitial)
  (answers : answeredInterface event.id = some interface)
  (inOrder : InOrder (fsm, history) (.dispatch event))
  (own : data.code interface = GsmFsm.codeAfter (fsm.smData.code interface) event)
  (others : ∀ other, other ≠ interface → data.code other = fsm.smData.code other) :
  ∀ answer ∈ (interface, event.resultCode) :: history.answers,
    answer.2 = some diameterSuccess ∨ ¬ CountsAsSuccess (data.code answer.1) := by
  obtain ⟨coded, nonzero, uncovered⟩ := inOrder.2.1 waiting interface answers
  obtain ⟨code, found⟩ := Option.ne_none_iff_exists'.mp coded
  rw [GsmFsm.codeAfter_of_resultCode found] at own
  -- A code is the one of a success, or it does not count as one.
  have fails : code ≠ diameterSuccess → ¬ CountsAsSuccess code := fun differs counts =>
    counts.elim differs fun zero => nonzero (by rw [found, zero])
  rintro answer membership
  rcases List.mem_cons.mp membership with rfl | earlier
  · by_cases success : code = diameterSuccess
    · exact .inl (by rw [found, success])
    · exact .inr (by rw [own]; exact fails success)
  · rcases orderly.recorded waiting answer earlier with success | failed
    · exact .inl success
    · refine .inr ?_
      by_cases same : answer.1 = interface
      · rw [same, own]
        refine fails fun success => failed ?_
        rw [same]
        exact uncovered (by rw [found, success])
      · rwa [others answer.1 same]

lemma marked_answer (waiting : fsm.state = .waitEpcAuthInitial)
  (others : ∀ request, request ≠ .initial interface →
    data.inFlight request = fsm.smData.inFlight request) :
  ∀ request ∈ (history.answered (.initial interface)).unanswered,
    request.isInitial = true ∧ data.inFlight request = true := by
  intro request membership
  obtain ⟨earlier, apart⟩ := List.mem_filter.mp membership
  have before := orderly.marked (.inr waiting) request earlier
  exact ⟨before.1, by rw [others request (by simpa using apart), before.2]⟩

lemma dispatch_waiting (waiting : fsm.state = .waitEpcAuthInitial)
  (inOrder : InOrder (fsm, history) (.dispatch event)) :
  Orderly (fsm.dispatch event).1 (history.note fsm (.dispatch event) (fsm.dispatch event)) := by
  have epc : history.is5gc ≠ true := fun is5gc => (orderly.notEpc is5gc).1 (.inr waiting)
  cases interface : answeredInterface event.id with
  | none =>
    obtain ⟨kept, stays⟩ := GsmFsm.handleWaitEpcAuthInitial_other fsm interface
    have unmoved : (fsm.dispatch event).1 = fsm := by
      rw [GsmFsm.dispatch_waiting waiting, kept, stays, ← waiting]
    rwa [GsmHistory.note_other waiting interface, unmoved]
  | some interface =>
    obtain ⟨data, handled, flights, own, others⟩ :=
      GsmFsm.handleWaitEpcAuthInitial_answer fsm interface
    rw [GsmHistory.note_answer waiting interface, GsmFsm.dispatch_waiting waiting, handled]
    rcases GsmFsm.checkEpcAuthComplete_cases data with established | failed | waits
    · rw [established]
      exact of_past (by simp [GsmFsm.stateAfter, GsmState.Establishing])
        fun is5gc => absurd is5gc epc
    · rw [failed]
      exact of_past (by simp [GsmFsm.stateAfter, GsmState.Establishing])
        fun is5gc => absurd is5gc epc
    · rw [waits]
      exact
        { marked := fun _ => orderly.marked_answer waiting flights
          unasked := by simp [GsmFsm.stateAfter]
          recorded := fun _ => orderly.recorded_answer waiting interface inOrder own others
          notEpc := fun is5gc => absurd is5gc epc }

lemma step (inOrder : InOrder (fsm, history) input) :
  Orderly (gsmObserved.step (fsm, history) input).1.1
    (gsmObserved.step (fsm, history) input).1.2 := by
  cases input with
  | send request => exact orderly.send inOrder
  | dispatch event =>
    by_cases initial : fsm.state = .initial
    · exact orderly.dispatch_initial initial inOrder
    · by_cases waiting : fsm.state = .waitEpcAuthInitial
      · exact orderly.dispatch_waiting waiting inOrder
      · exact orderly.dispatch_past (fun establishing => establishing.elim initial waiting) inOrder

lemma established (waiting : fsm.state = .waitEpcAuthInitial)
  (inOrder : InOrder (fsm, history) (.dispatch event))
  (entered : (fsm.dispatch event).1.state = .waitPfcpEstablishment) :
  let noted := history.note fsm (.dispatch event) (fsm.dispatch event)
  noted.unanswered = [] ∧ ∀ answer ∈ noted.answers, answer.2 = some diameterSuccess := by
  rw [GsmFsm.dispatch_waiting waiting] at entered
  cases interface : answeredInterface event.id with
  | none =>
    obtain ⟨kept, stays⟩ := GsmFsm.handleWaitEpcAuthInitial_other fsm interface
    cases stays.symm.trans entered
  | some interface =>
    obtain ⟨data, handled, flights, own, others⟩ :=
      GsmFsm.handleWaitEpcAuthInitial_answer fsm interface
    rw [GsmHistory.note_answer waiting interface]
    rw [handled] at entered
    rcases GsmFsm.checkEpcAuthComplete_cases data with complete | failed | waits
    · obtain ⟨idle, success⟩ := GsmFsm.checkEpcAuthComplete_established complete
      constructor
      · refine List.eq_nil_iff_forall_not_mem.mpr fun request waits => ?_
        obtain ⟨initial, marked⟩ := orderly.marked_answer waiting flights request waits
        cases request with
        | initial interface => simp [idle interface] at marked
        | release interface => cases initial
      · intro answer membership
        exact (orderly.recorded_answer waiting interface inOrder own others answer
          membership).resolve_right fun failed => failed (success answer.1)
    · simp [failed, GsmFsm.stateAfter] at entered
    · simp [waits, GsmFsm.stateAfter] at entered

lemma stepsSafely (inOrder : InOrder (fsm, history) input) :
  StepsSafely (fsm, history) input := by
  constructor
  · intro waiting entered
    cases input with
    | send request =>
      have kept : fsm.state = .waitPfcpEstablishment := by
        simpa [gsmObserved, gsmMachine] using entered
      cases waiting.symm.trans kept
    | dispatch event => exact orderly.established waiting inOrder entered
  · exact fun is5gc => ((orderly.step inOrder).notEpc is5gc).2

end

end Orderly

/-- In a run in order the EPC establishes a session only after successes, and a session
of the 5GC enters no state of the EPC. -/
theorem epc_establishment_in_order (sessId : ℕ) (inputs : List GsmInput)
  (inOrder : gsmObserved.Along InOrder (GsmFsm.new sessId, .start) inputs) :
  gsmObserved.Along StepsSafely (GsmFsm.new sessId, .start) inputs :=
  gsmObserved.along_of_invariant
    (fun joint _ (orderly : Orderly joint.1 joint.2) inOrder => orderly.step inOrder)
    (fun _ _ orderly inOrder => orderly.stepsSafely inOrder) (Orderly.start sessId) inOrder

def plainEvent (id : SmfEventId) : GsmInput := .dispatch ⟨id, none, none, none, none⟩

def diameterEvent (id : SmfEventId) (resultCode : Option UInt32) : GsmInput :=
  .dispatch ⟨id, none, none, none, some ⟨none, resultCode⟩⟩

def n4Event : GsmInput := .dispatch ⟨.n4Message, none, none, some ⟨none⟩, none⟩

def sbiEvent (id : SmfEventId) (serviceName : String) (components : List String)
  (status : Option ℕ) : GsmInput :=
  .dispatch ⟨id, none, some ⟨some ⟨serviceName, components, status⟩⟩, none, none⟩

def successes : List GsmInput :=
  [plainEvent .gnMessage, .send (.initial .gx), .send (.initial .gy),
    diameterEvent .gxMessage (some 2001), diameterEvent .gyMessage (some 2001), n4Event]

def successes5gc : List GsmInput :=
  [plainEvent .gsmMessage,
    sbiEvent .sbiClient "npcf-smpolicycontrol" ["sm-policies"] (some 201), n4Event]

theorem epc_establishment_in_order_successes :
  ((gsmObserved.run (GsmFsm.new 1, .start) successes).1.state = .operational ∧
    gsmObserved.Along StepsSafely (GsmFsm.new 1, .start) successes) ∧
  (gsmObserved.run (GsmFsm.new 1, .start) successes5gc).1.state = .operational ∧
    gsmObserved.Along StepsSafely (GsmFsm.new 1, .start) successes5gc :=
  ⟨⟨by decide, epc_establishment_in_order 1 successes (by decide)⟩, by decide,
    epc_establishment_in_order 1 successes5gc (by decide)⟩

def codeless : List GsmInput :=
  [plainEvent .gnMessage, .send (.initial .gx), diameterEvent .gxMessage none]

def hidden : List GsmInput :=
  [plainEvent .gnMessage, .send (.initial .gx), .send (.initial .gy),
    diameterEvent .gxMessage (some 5012), diameterEvent .gxMessage (some 2001),
    diameterEvent .gyMessage (some 2001)]

def forgotten : List GsmInput :=
  [.send (.initial .gx), plainEvent .fsmEntry, plainEvent .gnMessage,
    diameterEvent .s6bMessage (some 2001)]

def release5gc : List GsmInput :=
  successes5gc ++
    [sbiEvent .sbiServer "nsmf-pdusession" ["sm-contexts", "1", "release"] none, n4Event]

/-- The failures of the machine, one run for each. -/
theorem epc_establishment_out_of_order :
  ¬ gsmObserved.Along StepsSafely (GsmFsm.new 1, .start) codeless ∧
    ¬ gsmObserved.Along StepsSafely (GsmFsm.new 1, .start) hidden ∧
    ¬ gsmObserved.Along StepsSafely (GsmFsm.new 1, .start) forgotten ∧
    ¬ gsmObserved.Along StepsSafely (GsmFsm.new 1, .start) release5gc := by
  decide

end NextGCore.Smf
