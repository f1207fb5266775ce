import NextGCore.Ausf.Confirmation
import NextGCore.Library.Counters

/-!
# SoR and UPU counters under a KAUSF

The anchor of a SUPI is a keyed counter, twice.  Only a confirmation rekeys
it, and it compares the KAUSF with the one that is stored, not with those that
were stored before: an older authentication context that is confirmed again
brings its KAUSF back with counters that start again.
-/

namespace NextGCore.Ausf

open Library Option
open Sbi

variable {primitives : AusfPrimitives} {supi : String} (kind : CounterKind)

abbrev Kausf := Vector UInt8 32

instance isStrictOrder_uint16 : IsStrictOrder UInt16 (· < ·) where
  irrefl := UInt16.lt_irrefl
  trans _ _ _ := UInt16.lt_trans

def SorUpuAnchor.keyed (anchor : SorUpuAnchor) : Kausf × UInt16 :=
  (anchor.kausf, (anchor.counter kind).val)

def keyedCounter (supi : String) (state : AusfState) : Option (Kausf × UInt16) :=
  (state.context.anchors.lookup supi).map (SorUpuAnchor.keyed kind)

def handedOut (supi : String) (answer : AusfState × AusfOutput) : Option (Kausf × UInt16) :=
  match answer.2 with
  | .counter kind' supi' (.ok value) =>
    if kind' = kind ∧ supi' = supi
    then (answer.1.context.anchors.lookup supi).map fun anchor => (anchor.kausf, value)
    else none
  | _ => none

/-- A confirmation for the SUPI brings the KAUSF that its anchor holds, or one
that no counter was handed out under. -/
def KausfNotReturning (primitives : AusfPrimitives) (supi : String)
  (joint : AusfState × List (Kausf × UInt16)) (input : AusfInput) : Prop :=
  ∀ ue kausf, Confirms primitives joint.1.context input ue kausf → ue.supi = some supi →
    (joint.1.context.anchors.lookup supi).map SorUpuAnchor.kausf = some kausf ∨
      ∀ pair ∈ joint.2, pair.1 ≠ kausf

namespace AnchorStore

lemma lookup_refresh (store : AnchorStore) (supi : String) (kausf : Kausf) :
  (store.refresh supi kausf).lookup supi =
    some (((store.lookup supi).map (SorUpuAnchor.refresh · kausf)).getD (.new kausf)) := by
  unfold refresh
  cases store.lookup supi with
  | none | some anchor => exact AList.lookup_insert store

lemma lookup_refresh_ne (store : AnchorStore) {supi other : String} (kausf : Kausf)
  (different : supi ≠ other) :
  (store.refresh other kausf).lookup supi = store.lookup supi := by
  unfold refresh
  cases store.lookup other with
  | none | some anchor => exact AList.lookup_insert_ne different

lemma lookup_next_ne (kind : CounterKind) (store : AnchorStore) {supi other : String}
  (different : supi ≠ other) :
  (AnchorStore.next kind store other).2.lookup supi = store.lookup supi := by
  unfold AnchorStore.next
  cases store.lookup other with
  | none => rfl
  | some anchor => exact AList.lookup_insert_ne different

end AnchorStore

def AusfState.withAnchor (state : AusfState) (supi : String) (anchor : SorUpuAnchor) :
  AusfState :=
  { state with
    context :=
      { state.context with anchors := state.context.anchors.insert supi anchor } }

lemma AusfState.lookup_withAnchor (state : AusfState) (supi : String) (anchor : SorUpuAnchor) :
  (state.withAnchor supi anchor).context.anchors.lookup supi = some anchor :=
  AList.lookup_insert state.context.anchors

lemma lt_succ_of_ne_max {counter : UInt16} (notMax : counter ≠ 0xFFFF) :
  counter < counter + 1 := by
  rw [UInt16.lt_iff_toNat_lt, UInt16.toNat_add]
  have bound := counter.toNat_lt
  have below : counter.toNat ≠ 65535 := fun full => notMax (UInt16.toNat_inj.mp full)
  simp only [UInt16.reduceToNat]
  omega

lemma keyed_next (anchor : SorUpuAnchor) :
  ((∃ problem, (anchor.next kind).1 = .error problem) ∧ (anchor.next kind).2 = anchor) ∨
    ∃ next, (anchor.next kind).1 = .ok (anchor.counter kind).val ∧
      (anchor.counter kind).val < next ∧
      (anchor.next kind).2.keyed kind = (anchor.kausf, next) := by
  unfold SorUpuAnchor.next SorUpuAnchor.nextCounter
  by_cases full : (anchor.counter kind).val = 0xFFFF
  · left
    rw [dif_pos full]
    exact ⟨⟨_, rfl⟩, rfl⟩
  · right
    rw [dif_neg full]
    refine ⟨_, rfl, lt_succ_of_ne_max full, ?_⟩
    cases kind with
    | sor => rfl
    | upu => rfl

lemma keyed_next_ne {kind other : CounterKind} (anchor : SorUpuAnchor)
  (different : other ≠ kind) : (anchor.next other).2.keyed kind = anchor.keyed kind := by
  unfold SorUpuAnchor.next SorUpuAnchor.nextCounter
  split
  · rfl
  · cases kind with
    | sor =>
      cases other with
      | sor => exact absurd rfl different
      | upu => rfl
    | upu =>
      cases other with
      | sor => rfl
      | upu => exact absurd rfl different

lemma kausf_next (anchor : SorUpuAnchor) : (anchor.next kind).2.kausf = anchor.kausf := by
  unfold SorUpuAnchor.next
  split
  · rfl
  · cases kind with
    | sor => rfl
    | upu => rfl

section Step

variable {primitives : AusfPrimitives} (kind : CounterKind) (supi : String)
  {used : List (Kausf × UInt16)} {context : AusfContext}

lemma keyedStep_idle {state state' : AusfState} (step : Step)
  (same : state'.context.anchors = state.context.anchors) :
  KeyedStep used (keyedCounter kind supi state) (keyedCounter kind supi state')
    (handedOut kind supi (state', .handled step)) := by
  unfold keyedCounter
  rw [same]
  exact .idle _

lemma keyedStep_refresh {store : AnchorStore} {kausf : Kausf}
  (notReturning : (store.lookup supi).map SorUpuAnchor.kausf = some kausf ∨
    ∀ pair ∈ used, pair.1 ≠ kausf) :
  KeyedStep used ((store.lookup supi).map (SorUpuAnchor.keyed kind))
    (((store.refresh supi kausf).lookup supi).map (SorUpuAnchor.keyed kind)) none := by
  rw [AnchorStore.lookup_refresh]
  cases found : store.lookup supi with
  | none =>
    rw [found] at notReturning
    rcases notReturning with absent | unused
    · cases absent
    · exact .rekey _ _ unused
  | some anchor =>
    simp only [map_some, getD_some, SorUpuAnchor.refresh]
    by_cases same : anchor.kausf = kausf
    · rw [if_pos same]
      exact .idle _
    · rw [found] at notReturning
      rw [if_neg same]
      rcases notReturning with held | unused
      · exact absurd (some.inj held) same
      · exact .rekey _ _ unused

lemma ueAdd_anchors {next : AusfContext} {suci : String} {ue : AusfUe}
  (added : context.ueAdd suci = some (next, ue)) : next.anchors = context.anchors := by
  obtain ⟨⟨ues, new⟩, -, same⟩ := map_eq_some_iff.mp added
  cases same
  rfl

lemma Starts.anchors {context' : AusfContext} {step : Step}
  (starts : Starts context context' step) : context'.anchors = context.anchors := by
  cases starts with
  | refused silent => rfl
  | found found same => rfl
  | added added same => exact ueAdd_anchors added

lemma Resumes.anchors {context' : AusfContext} {answer : Answer} {pending : PendingUdm}
  {ending : Ending} (resumes : Resumes primitives context answer pending context' ending) :
  context'.anchors = context.anchors := by
  cases resumes with
  | refused silent nothing => rfl
  | restored silent failed => rfl
  | stored ue supi silent brings id expects =>
    cases supi with
    | none => rfl
    | some supi => rfl

lemma handleAuthContextDelete_anchors (context : AusfContext) (authCtxId : String) :
  (handleAuthContextDelete context authCtxId).1.anchors = context.anchors := by
  unfold handleAuthContextDelete
  split
  · rfl
  · rfl

lemma keyedStep_concludes {joint : AusfState × List (Kausf × UInt16)} {input : AusfInput}
  {step : Step} (notReturning : KausfNotReturning primitives supi joint input)
  (concludes : Concludes primitives joint.1.context input context step) :
  KeyedStep joint.2 (keyedCounter kind supi joint.1)
    (keyedCounter kind supi (joint.1.after (context, step)))
    (handedOut kind supi (joint.1.after (context, step), .handled step)) := by
  cases concludes with
  | refused silent | revised silent found same | asked found held =>
    exact keyedStep_idle kind supi _ rfl
  | @confirmed ending ue ue' kausf confirms same =>
    cases named : ue.supi with
    | none => exact keyedStep_idle kind supi _ rfl
    | some own =>
      by_cases other : supi = own
      · subst other
        exact keyedStep_refresh kind supi (notReturning ue kausf confirms named)
      · have kept : keyedCounter kind supi (joint.1.after
            ((joint.1.context.ueUpdate ue').anchorRefreshFor (some own) kausf,
              .ended ending)) = keyedCounter kind supi joint.1 :=
          congrArg (Option.map (SorUpuAnchor.keyed kind))
            (AnchorStore.lookup_refresh_ne _ kausf other)
        rw [kept]
        exact .idle _

lemma handedOut_other {state : AusfState} {own : CounterKind} {name : String}
  (result : Except AnchorCounterError UInt16) (other : ¬ (own = kind ∧ name = supi)) :
  handedOut kind supi (state, .counter own name result) = none := by
  cases result with
  | error problem => rfl
  | ok value => exact if_neg other

lemma keyedStep_next (state : AusfState) (own : CounterKind) (anchor : SorUpuAnchor) :
  KeyedStep used (some (anchor.keyed kind)) (some ((anchor.next own).2.keyed kind))
    (handedOut kind supi
      (state.withAnchor supi (anchor.next own).2, .counter own supi (anchor.next own).1)) := by
  by_cases mine : own = kind
  · subst mine
    rcases keyed_next own anchor with ⟨⟨problem, refused⟩, same⟩ | ⟨next, value, rises, kept⟩
    · rw [refused, same]
      exact .idle _
    · have stored := state.lookup_withAnchor supi (anchor.next own).2
      have handed : handedOut own supi (state.withAnchor supi (anchor.next own).2,
          .counter own supi (.ok (anchor.counter own).val)) = some (anchor.keyed own) := by
        simp only [handedOut, and_self, if_true, stored, map_some, kausf_next]
        rfl
      rw [value, handed, kept]
      exact .use rises
  · rw [handedOut_other kind supi _ (fun both => mine both.1), keyed_next_ne anchor mine]
    exact .idle _

lemma keyedStep_nextCounter (state : AusfState) (own : CounterKind) (name : String) :
  KeyedStep used (keyedCounter kind supi state)
    (keyedCounter kind supi ((ausfMachine primitives).step state (.nextCounter own name)).1)
    (handedOut kind supi ((ausfMachine primitives).step state (.nextCounter own name))) := by
  by_cases same : supi = name
  · subst same
    cases found : state.context.anchors.lookup supi with
    | none =>
      have refused : (ausfMachine primitives).step state (.nextCounter own supi) =
          (state, .counter own supi (.error .noAnchor)) := by
        simp only [ausfMachine, AusfContext.anchorNext, AnchorStore.next, found]
      rw [refused]
      exact .idle _
    | some anchor =>
      have stepped : (ausfMachine primitives).step state (.nextCounter own supi) =
          (state.withAnchor supi (anchor.next own).2, .counter own supi (anchor.next own).1) := by
        simp only [ausfMachine, AusfContext.anchorNext, AnchorStore.next, found,
          AusfState.withAnchor]
      have before : keyedCounter kind supi state = some (anchor.keyed kind) :=
        congrArg (Option.map (SorUpuAnchor.keyed kind)) found
      have after : keyedCounter kind supi (state.withAnchor supi (anchor.next own).2) =
          some ((anchor.next own).2.keyed kind) :=
        congrArg (Option.map (SorUpuAnchor.keyed kind)) (state.lookup_withAnchor _ _)
      rw [stepped, before, after]
      exact keyedStep_next kind supi state own anchor
  · have silent : handedOut kind supi
        ((ausfMachine primitives).step state (.nextCounter own name)) = none :=
      handedOut_other kind supi _ (fun both => same both.2.symm)
    have kept : keyedCounter kind supi
        ((ausfMachine primitives).step state (.nextCounter own name)).1 =
          keyedCounter kind supi state :=
      congrArg (Option.map (SorUpuAnchor.keyed kind))
        (AnchorStore.lookup_next_ne own state.context.anchors same)
    rw [silent, kept]
    exact .idle _

lemma keyedStep_step {joint : AusfState × List (Kausf × UInt16)} {input : AusfInput}
  (notReturning : KausfNotReturning primitives supi joint input) :
  KeyedStep joint.2 (keyedCounter kind supi joint.1)
    (keyedCounter kind supi ((ausfMachine primitives).step joint.1 input).1)
    (handedOut kind supi ((ausfMachine primitives).step joint.1 input)) := by
  cases input with
  | authenticate request consumerPlmns =>
    exact keyedStep_idle kind supi _ (handleUeAuthentication_starts _ _ _).anchors
  | udmAnswer task answer =>
    cases found : joint.1.pending[task]? with
    | none =>
      simp only [ausfMachine, found]
      exact .idle _
    | some pending =>
      simp only [ausfMachine, found]
      exact keyedStep_idle kind supi _ (resumeUdm_resumes primitives _ answer pending).anchors
  | confirm5gAka authCtxId request =>
    exact keyedStep_concludes kind supi notReturning
      (handle5gAkaConfirmation_concludes primitives _ _ _)
  | eapSession authCtxId request =>
    exact keyedStep_concludes kind supi notReturning (handleEapSession_concludes primitives _ _ _)
  | deleteContext authCtxId =>
    exact keyedStep_idle kind supi _ (handleAuthContextDelete_anchors _ _)
  | nextCounter own name => exact keyedStep_nextCounter kind supi joint.1 own name

end Step

def handedOutBy (primitives : AusfPrimitives) (kind : CounterKind) (supi : String)
  (state : AusfState) (inputs : List AusfInput) : List (Kausf × UInt16) :=
  (ausfMachine primitives).emitted (handedOut kind supi) state inputs

def AlongHandedOut (primitives : AusfPrimitives) (kind : CounterKind) (supi : String)
  (condition : AusfState × List (Kausf × UInt16) → AusfInput → Prop) (state : AusfState)
  (inputs : List AusfInput) : Prop :=
  ((ausfMachine primitives).observed (noteUses (handedOut kind supi))).Along condition
    (state, []) inputs

lemma handedOut_ne_zero {kind : CounterKind} {state : AusfState} {input : AusfInput}
  {pair : Kausf × UInt16}
  (handed : handedOut kind supi ((ausfMachine primitives).step state input) = some pair) :
  pair.2 ≠ 0 := by
  have unused : KausfNotReturning primitives supi (state, []) input :=
    fun _ _ _ _ => .inr (fun _ membership => by cases membership)
  have step := keyedStep_step kind supi unused
  rw [handed] at step
  have current := step.current_of_use
  obtain ⟨anchor, -, rfl⟩ := map_eq_some_iff.mp current
  exact (anchor.counter kind).property

/-- No counter value is handed out twice under one KAUSF while no used KAUSF
comes back, and 0 is never handed out. -/
theorem counters_not_reused (primitives : AusfPrimitives) (kind : CounterKind) (supi : String)
  (state : AusfState) (inputs : List AusfInput) :
  (AlongHandedOut primitives kind supi (KausfNotReturning primitives supi) state inputs →
    (handedOutBy primitives kind supi state inputs).Pairwise (· ≠ ·)) ∧
  ∀ pair ∈ handedOutBy primitives kind supi state inputs, pair.2 ≠ 0 := by
  constructor
  · intro along
    apply uses_distinct (ausfMachine primitives) (keyedCounter kind supi) _ ?_ along
    intro joint input notReturning
    exact keyedStep_step kind supi notReturning
  · have always := Machine.along_of_forall (ausfMachine primitives)
      (fun _ _ => trivial) state inputs
    exact Machine.emitted_forall _ (fun _ _ _ _ handed => handedOut_ne_zero handed) always

def sampleSupi : String := "imsi-999700000000001"

def confirmedRun (suci authCtxId : String) (kausf : UInt8) : List AusfInput :=
  [sampleAuthentication suci, .udmAnswer 0 (sampleFiveGAka kausf),
    sampleConfirmation authCtxId 2, .nextCounter .sor sampleSupi]

def returningRun : List AusfInput :=
  confirmedRun "suci-a" "1" 4 ++ confirmedRun "suci-b" "2" 5 ++
    [sampleConfirmation "1" 2, .nextCounter .sor sampleSupi]

lemma notReturning_of_found {authCtxId : String} {joint : AusfState × List (Kausf × UInt16)}
  {request : SbiRequest} (kausf : Kausf)
  (held : (joint.1.context.ues.ueFindByCtxId authCtxId).map AusfUe.kausf = some kausf)
  (unused : ∀ pair ∈ joint.2, pair.1 ≠ kausf) :
  KausfNotReturning primitives supi joint (.confirm5gAka authCtxId request) := by
  intro ue confirmed confirms _
  cases confirms with
  | fiveGAka found named resStar =>
    rw [found] at held
    obtain rfl : ue.kausf = kausf := some.inj held
    exact .inr unused

def AusfInput.isConfirmation : AusfInput → Bool
  | .confirm5gAka .. => true
  | .eapSession .. => true
  | _ => false

lemma notReturning_of_other {joint : AusfState × List (Kausf × UInt16)} {input : AusfInput}
  (other : input.isConfirmation = false) : KausfNotReturning primitives supi joint input := by
  intro ue kausf confirms
  cases confirms with
  | fiveGAka found named resStar => cases other
  | eapAkaPrime found held payload negotiated valid => cases other

theorem counters_not_reused_sample : (handedOutBy .sample .sor sampleSupi (AusfState.init 4)
    (confirmedRun "suci-a" "1" 4 ++ confirmedRun "suci-b" "2" 5)).Pairwise (· ≠ ·) := by
  apply (counters_not_reused .sample .sor sampleSupi (AusfState.init 4) _).1
  have other := @notReturning_of_other .sample sampleSupi
  refine ⟨other rfl, other rfl, ?_, other rfl, other rfl, other rfl, ?_, other rfl, trivial⟩
  · exact notReturning_of_found (.replicate 32 4) (by decide) (by decide)
  · exact notReturning_of_found (.replicate 32 5) (by decide) (by decide)

theorem counters_reused :
  ¬ ∀ (primitives : AusfPrimitives) (kind : CounterKind) (supi : String) (maxUe : ℕ)
      (inputs : List AusfInput),
    (handedOutBy primitives kind supi (AusfState.init maxUe) inputs).Pairwise (· ≠ ·) ∧
      ∀ pair ∈ handedOutBy primitives kind supi (AusfState.init maxUe) inputs, pair.2 ≠ 0 := by
  intro distinct
  have twice := (distinct .sample .sor sampleSupi 4 returningRun).1
  revert twice
  decide

end NextGCore.Ausf
