import NextGCore.Nsacf.Context

/-!
# Admission limits

An admission checks the ceilings, a move to another access does not.  In every run whose moves
find room, and only in such runs, all counts stay below their ceilings.
-/

namespace NextGCore.Nsacf

open Library Roster

namespace Enrolment

structure Within (enrolment : Enrolment) (maximum : UInt64)
  (ceilingFor : AccessType → Option UInt64) : Prop where
  inStep : enrolment.InStep
  total : enrolment.members.length ≤ maximum.toNat
  each : ∀ access ceiling, ceilingFor access = some ceiling →
    enrolment.countOf access ≤ ceiling.toNat

def MoveFits (enrolment : Enrolment) (ceiling : Option UInt64) (who : String)
  (newAccess : AccessType) : Prop :=
  who ∈ enrolment.members → Members.get enrolment.labels who ≠ some newAccess →
    ∀ limit, ceiling = some limit → enrolment.countOf newAccess < limit.toNat

variable {enrolment after : Enrolment} {maximum : UInt64}
  {ceilingFor : AccessType → Option UInt64} {who : String} {access : AccessType}

lemma within_empty (maximum : UInt64) (ceilingFor : AccessType → Option UInt64) :
  Within .empty maximum ceilingFor :=
  ⟨inStep_empty, Nat.zero_le _, fun _ _ _ => Nat.zero_le _⟩

section

variable (within : enrolment.Within maximum ceilingFor)

include within

lemma Within.admitMember {result : AdmissionResult}
  (admitted : enrolment.admitMember maximum (ceilingFor access) who
    access = (result, some after)) :
  who ∉ enrolment.members ∧ after = enrolment.enrol who access ∧
    after.Within maximum ceilingFor := by
  unfold Enrolment.admitMember at admitted
  by_cases isMember : who ∈ enrolment.members
  · rw [if_pos isMember] at admitted
    cases admitted
  rw [if_neg isMember] at admitted
  by_cases full : maximum.toNat ≤ enrolment.members.length
  · rw [if_pos full] at admitted
    cases admitted
  rw [if_neg full] at admitted
  split at admitted
  · cases admitted
  · next free =>
      cases admitted
      refine ⟨isMember, rfl, within.inStep.enrol isMember, ?_, fun other limit ceiling => ?_⟩
      · exact Nat.not_le.mp full
      · rw [countOf_enrol within.inStep isMember]
        have before := within.each other limit ceiling
        by_cases same : access = other
        · subst same
          rw [ceiling, Option.any_some, decide_eq_true_eq] at free
          rw [if_pos rfl]
          omega
        · rw [if_neg same]
          exact before

lemma Within.release (released : enrolment.release who = some after) :
  after.Within maximum ceilingFor := by
  unfold Enrolment.release at released
  split at released
  · cases released
    exact ⟨within.inStep.strike, Nat.le_trans (List.length_filter_le _ _) within.total,
      fun other limit ceiling => Nat.le_trans (countOf_strike_le who other)
        (within.each other limit ceiling)⟩
  · cases released

lemma Within.move_iff {changed : Bool}
  (moved : enrolment.move who access = some (after, changed)) :
  after.Within maximum ceilingFor ↔ enrolment.MoveFits (ceilingFor access) who access := by
  unfold Enrolment.move at moved
  split at moved
  · next isMember =>
      obtain ⟨old, held⟩ := within.inStep.get_of_mem isMember
      cases moved
      constructor
      · intro withinAfter _ another limit ceiling
        have counted := countOf_relabel held access access
        have below := withinAfter.each access limit ceiling
        rw [held] at another
        rw [if_pos rfl, if_neg fun same => another (congrArg some same)] at counted
        omega
      · intro fits
        refine ⟨within.inStep.relabel isMember, within.total, fun other limit ceiling => ?_⟩
        have counted := countOf_relabel held access other
        have before := within.each other limit ceiling
        by_cases same : access = other
        · subst same
          by_cases stays : old = access
          · rw [if_pos rfl, if_pos stays] at counted
            omega
          · have moved : some old ≠ some access := fun same => stays (Option.some.inj same)
            have room := fits isMember (held ▸ moved) limit ceiling
            rw [if_pos rfl, if_neg stays] at counted
            omega
        · rw [if_neg same] at counted
          split at counted <;> omega
  · cases moved

end

lemma move_none (absent : enrolment.move who access = none) (ceiling : Option UInt64) :
  enrolment.MoveFits ceiling who access := by
  intro isMember
  rw [Enrolment.move, if_pos isMember] at absent
  cases absent

end Enrolment

namespace SliceQuota

structure Limited (quota : SliceQuota) : Prop where
  ues : quota.ues.Within quota.maxUes quota.maxUesFor
  pduSessions : quota.pduSessions.Within quota.maxPduSessions quota.maxPduFor

variable {quota : SliceQuota}

lemma Limited.updateEac (limited : quota.Limited) (threshold : UInt8) :
  (updateEac quota threshold).1.Limited := by
  obtain ⟨flag, same⟩ := quota.exists_updateEac threshold
  rw [same]
  exact ⟨limited.ues, limited.pduSessions⟩

lemma limited_new (id : ℕ) (s : SNssai) (maxUes maxPduSessions : UInt64) (limits : AccessLimits) :
  ((SliceQuota.new id s maxUes maxPduSessions).withAccessLimits limits).Limited :=
  ⟨Enrolment.within_empty _ _, Enrolment.within_empty _ _⟩

namespace Limited

variable (limited : quota.Limited)
include limited

lemma admitUe (threshold : UInt8) (supi : String) (anType : AccessType) :
  (quota.admitUe threshold supi anType).quota.Limited := by
  unfold SliceQuota.admitUe
  split
  · exact limited
  · next admitted =>
      obtain ⟨-, -, within⟩ := limited.ues.admitMember admitted
      refine Limited.updateEac ?_ threshold
      exact ⟨within, limited.pduSessions⟩

lemma releaseUe (threshold : UInt8) (supi : String) :
  (quota.releaseUe threshold supi).quota.Limited := by
  unfold SliceQuota.releaseUe
  split
  · exact limited
  · next released =>
      refine Limited.updateEac ?_ threshold
      exact ⟨limited.ues.release released, limited.pduSessions⟩

lemma updateUeAccess_iff (supi : String) (newAccess : AccessType) :
  (quota.updateUeAccess supi newAccess).quota.Limited ↔
    quota.ues.MoveFits (quota.maxUesFor newAccess) supi newAccess := by
  unfold SliceQuota.updateUeAccess
  split
  · next absent => exact iff_of_true limited (Enrolment.move_none absent _)
  · next moved =>
      rw [← limited.ues.move_iff moved]
      exact ⟨fun after => after.ues, fun within => ⟨within, limited.pduSessions⟩⟩

lemma admitPduSession (sessionKey : String) (anType : AccessType) :
  (quota.admitPduSession sessionKey anType).quota.Limited := by
  unfold SliceQuota.admitPduSession
  split
  · exact limited
  · next admitted =>
      obtain ⟨-, -, within⟩ := limited.pduSessions.admitMember admitted
      exact ⟨limited.ues, within⟩

lemma releasePduSession (sessionKey : String) :
  (quota.releasePduSession sessionKey).quota.Limited := by
  unfold SliceQuota.releasePduSession
  split
  · exact limited
  · next released => exact ⟨limited.ues, limited.pduSessions.release released⟩

lemma updatePduAccess_iff (sessionKey : String) (newAccess : AccessType) :
  (quota.updatePduAccess sessionKey newAccess).quota.Limited ↔
    quota.pduSessions.MoveFits (quota.maxPduFor newAccess) sessionKey newAccess := by
  unfold SliceQuota.updatePduAccess
  split
  · next absent => exact iff_of_true limited (Enrolment.move_none absent _)
  · next moved =>
      rw [← limited.pduSessions.move_iff moved]
      exact ⟨fun after => after.pduSessions, fun within => ⟨limited.ues, within⟩⟩

end Limited

end SliceQuota

namespace NsacfContext

def Limited (context : NsacfContext) : Prop :=
  ∀ id quota, context.quotaFindById id = some quota → quota.Limited

/-- An update of a quota leaves its ceilings as they are. -/
def KeepsCeilings (context : NsacfContext) : Operation → Prop
  | .quotaUpdateOrAdd s maxUes maxPduSessions limits => context.OnQuota s fun quota =>
    quota.maxUes = maxUes ∧ quota.maxPduSessions = maxPduSessions ∧ quota.limits = limits
  | _ => True

/-- A move to another access has room there. -/
def MovesFit (context : NsacfContext) : Operation → Prop
  | .updateUeAccess s supi newAccess => context.OnQuota s fun quota =>
    quota.ues.MoveFits (quota.maxUesFor newAccess) supi newAccess
  | .updatePduAccess s sessionKey newAccess => context.OnQuota s fun quota =>
    quota.pduSessions.MoveFits (quota.maxPduFor newAccess) sessionKey newAccess
  | _ => True

variable {context : NsacfContext}

lemma limited_onQuota_iff (limited : context.Limited) (s : SNssai) (missing : Answer)
  (change : SliceQuota → Change) :
  (context.onQuota s missing change).context.Limited ↔
    context.OnQuota s fun quota => (change quota).quota.Limited := by
  rcases context.onQuota_cases s missing change with
    ⟨unresolved, same⟩ | ⟨id, quota, resolved, found, changed⟩
  · rw [same]
    exact iff_of_true limited fun id quota leads found => absurd found (unresolved id quota leads)
  · rw [changed]
    constructor
    · intro after other own leads foundOwn
      rw [resolved] at leads
      cases leads
      rw [found] at foundOwn
      cases foundOwn
      exact after id _ ((get_insert_quotaList id).trans (if_pos rfl))
    · intro own other stored foundStored
      replace foundStored := (get_insert_quotaList other).symm.trans foundStored
      by_cases same : id = other
      · rw [if_pos same] at foundStored
        cases foundStored
        exact own id quota resolved found
      · rw [if_neg same] at foundStored
        exact limited other stored foundStored

lemma limited_quotaAddWithLimits (limited : context.Limited) (s : SNssai)
  (maxUes maxPduSessions : UInt64) (limits : AccessLimits) :
  (context.quotaAddWithLimits s maxUes maxPduSessions limits).context.Limited := by
  unfold quotaAddWithLimits
  split
  · exact limited
  · intro id quota found
    rw [quotaFindById, Members.get_insert] at found
    split at found
    · cases found
      exact SliceQuota.limited_new _ _ _ _ _
    · exact limited id quota found

lemma limited_perform_iff (limited : context.Limited) {operation : Operation}
  (kept : context.KeepsCeilings operation) :
  (context.perform operation).context.Limited ↔ context.MovesFit operation := by
  cases operation with
  | quotaAdd s maxUes maxPduSessions limits =>
    exact iff_of_true (limited_quotaAddWithLimits limited _ _ _ _) trivial
  | quotaUpdateOrAdd s maxUes maxPduSessions limits =>
    refine iff_of_true ?_ trivial
    change (context.quotaUpdateOrAdd s maxUes maxPduSessions limits).context.Limited
    unfold quotaUpdateOrAdd
    split
    · refine (limited_onQuota_iff limited _ _ _).mpr fun id quota leads found => ?_
      obtain ⟨rfl, rfl, rfl⟩ := kept id quota leads found
      exact limited id quota found
    · exact limited_quotaAddWithLimits limited _ _ _ _
  | quotaRemove id =>
    refine iff_of_true ?_ trivial
    change (context.quotaRemove id).context.Limited
    unfold quotaRemove
    split
    · exact limited
    · intro other quota found
      rw [quotaFindById, Members.get_remove] at found
      split at found
      · cases found
      · exact limited other quota found
  | admitUe s supi anType =>
    exact iff_of_true ((limited_onQuota_iff limited _ _ _).mpr fun id quota _ found =>
      (limited id quota found).admitUe _ _ _) trivial
  | releaseUe s supi =>
    exact iff_of_true ((limited_onQuota_iff limited _ _ _).mpr fun id quota _ found =>
      (limited id quota found).releaseUe _ _) trivial
  | updateUeAccess s supi newAccess =>
    refine (limited_onQuota_iff limited _ _ _).trans ?_
    exact forall₄_congr fun id quota _ found =>
      (limited id quota found).updateUeAccess_iff supi newAccess
  | admitPduSession s sessionKey anType =>
    exact iff_of_true ((limited_onQuota_iff limited _ _ _).mpr fun id quota _ found =>
      (limited id quota found).admitPduSession _ _) trivial
  | releasePduSession s sessionKey =>
    exact iff_of_true ((limited_onQuota_iff limited _ _ _).mpr fun id quota _ found =>
      (limited id quota found).releasePduSession _) trivial
  | updatePduAccess s sessionKey newAccess =>
    refine (limited_onQuota_iff limited _ _ _).trans ?_
    exact forall₄_congr fun id quota _ found =>
      (limited id quota found).updatePduAccess_iff sessionKey newAccess

end NsacfContext

/-- The counts as the NSACF reads them; the set and the map of each kind have the same names. -/
structure SliceQuota.WithinLimits (quota : SliceQuota) : Prop where
  ues : quota.currentUes ≤ quota.maxUes.toNat
  pduSessions : quota.currentPduSessions ≤ quota.maxPduSessions.toNat
  uesAccess : ∀ access limit, quota.maxUesFor access = some limit →
    quota.currentUesAccess access ≤ limit.toNat
  pduAccess : ∀ access limit, quota.maxPduFor access = some limit →
    quota.currentPduAccess access ≤ limit.toNat
  ueNames : quota.ues.InStep
  pduNames : quota.pduSessions.InStep
  uesSum : quota.currentUesAccess .threeGpp + quota.currentUesAccess .nonThreeGpp = quota.currentUes
  pduSum : quota.currentPduAccess .threeGpp + quota.currentPduAccess .nonThreeGpp =
    quota.currentPduSessions

lemma SliceQuota.withinLimits_iff {quota : SliceQuota} :
  quota.WithinLimits ↔ quota.Limited := by
  constructor
  · intro within
    exact ⟨⟨within.ueNames, within.ues, within.uesAccess⟩,
      ⟨within.pduNames, within.pduSessions, within.pduAccess⟩⟩
  · intro limited
    have apart : AccessType.threeGpp ≠ .nonThreeGpp := by decide
    exact
      { ues := limited.ues.total
        pduSessions := limited.pduSessions.total
        uesAccess := limited.ues.each
        pduAccess := limited.pduSessions.each
        ueNames := limited.ues.inStep
        pduNames := limited.pduSessions.inStep
        uesSum := countOf_add limited.ues.inStep apart AccessType.eq_threeGpp_or
        pduSum := countOf_add limited.pduSessions.inStep apart AccessType.eq_threeGpp_or }

lemma limited_init (maxQuotas : ℕ) (eacThreshold : UInt8) :
  (NsacfContext.init maxQuotas eacThreshold).Limited := by
  intro id quota found
  cases found

/-- Over a run that changes no ceiling, every quota stays within its limits in every state that
is reached if and only if every move to another access finds room there. -/
theorem within_limits_iff_moves_fit (maxQuotas : ℕ) (eacThreshold : UInt8)
  {operations : List Operation}
  (kept : nsacf.Along NsacfContext.KeepsCeilings (.init maxQuotas eacThreshold) operations) :
  (∀ steps id quota,
    (nsacf.run (.init maxQuotas eacThreshold) (operations.take steps)).quotaFindById id =
      some quota → quota.WithinLimits) ↔
    nsacf.Along NsacfContext.MovesFit (.init maxQuotas eacThreshold) operations := by
  have step (context : NsacfContext) (operation : Operation) (limited : context.Limited)
      (kept : context.KeepsCeilings operation) :
      (nsacf.step context operation).1.Limited ↔ context.MovesFit operation :=
    NsacfContext.limited_perform_iff limited kept
  have reached := nsacf.reached_iff_along_given (fun _ limited => limited)
    (fun context operation limited kept => (step context operation limited kept).mpr)
    (fun context operation limited kept => (step context operation limited kept).mp)
    (limited_init maxQuotas eacThreshold) kept
  rw [← reached]
  exact forall_congr' fun _ => forall₃_congr fun _ _ _ => SliceQuota.withinLimits_iff

def crowdedMove : List Operation :=
  [.quotaAdd ⟨1, none⟩ 10 10 { AccessLimits.default with maxUes3gpp := some 1 },
    .admitUe ⟨1, none⟩ "imsi-1" .threeGpp,
    .admitUe ⟨1, none⟩ "imsi-2" .nonThreeGpp,
    .updateUeAccess ⟨1, none⟩ "imsi-2" .threeGpp]

theorem crowdedMove_exceeds : nsacf.Along NsacfContext.KeepsCeilings (.init 64 80) crowdedMove ∧
    ¬∀ steps id quota,
      (nsacf.run (.init 64 80) (crowdedMove.take steps)).quotaFindById id = some quota →
        quota.WithinLimits := by
  refine ⟨⟨trivial, trivial, trivial, trivial, trivial⟩, fun within => ?_⟩
  obtain ⟨quota, found, count⟩ : ∃ quota,
      (nsacf.run (.init 64 80) (crowdedMove.take 4)).quotaFindById 1 = some quota ∧
        quota.currentUesAccess .threeGpp = 2 ∧ quota.maxUesFor .threeGpp = some 1 :=
    ⟨_, rfl, by decide, by decide⟩
  have limit := (within 4 1 quota found).uesAccess .threeGpp 1 count.2
  rw [count.1] at limit
  exact absurd limit (by decide)

def roomyMove : List Operation :=
  [.quotaAdd ⟨1, none⟩ 10 10 { AccessLimits.default with maxUes3gpp := some 1 },
    .admitUe ⟨1, none⟩ "imsi-1" .nonThreeGpp,
    .updateUeAccess ⟨1, none⟩ "imsi-1" .threeGpp]

theorem roomyMove_within_limits : nsacf.Along NsacfContext.MovesFit (.init 64 80) roomyMove ∧
    ∀ steps id quota,
      (nsacf.run (.init 64 80) (roomyMove.take steps)).quotaFindById id = some quota →
        quota.WithinLimits := by
  have kept : nsacf.Along NsacfContext.KeepsCeilings (.init 64 80) roomyMove :=
    ⟨trivial, trivial, trivial, trivial⟩
  have fits : nsacf.Along NsacfContext.MovesFit (.init 64 80) roomyMove := by
    refine ⟨trivial, trivial, fun id quota leads found => ?_, trivial⟩
    cases leads
    cases found
    intro _ _ limit ceiling
    cases ceiling
    decide
  exact ⟨fits, (within_limits_iff_moves_fit 64 80 kept).mpr fits⟩

end NextGCore.Nsacf
