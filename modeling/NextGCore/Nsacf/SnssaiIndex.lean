import NextGCore.Nsacf.Context

/-!
# The index by S-NSSAI

What the index leads to is a live quota of that S-NSSAI, whatever is added, replaced or removed.
-/

namespace NextGCore.Nsacf

open Library Members

def SliceQuota.Enrolled (quota : SliceQuota) : Prop :=
  quota.ues.InStep ∧ quota.pduSessions.InStep

/-- The change keeps the number and the S-NSSAI of the quota, and its sets and maps in step. -/
def Change.Keeps (changed : Change) (quota : SliceQuota) : Prop :=
  changed.quota.id = quota.id ∧ changed.quota.sNssai = quota.sNssai ∧
    (quota.Enrolled → changed.quota.Enrolled)

namespace Enrolment

variable {enrolment after : Enrolment} {who : String} {access : AccessType}

lemma inStep_admit (inStep : enrolment.InStep) {maximum : UInt64} {ceiling : Option UInt64}
  {result : AdmissionResult}
  (admitted : enrolment.admitMember maximum ceiling who access = (result, some after)) :
  after.InStep := by
  unfold Enrolment.admitMember at admitted
  split at admitted
  · cases admitted
  · next absent =>
      split at admitted
      · cases admitted
      · split at admitted
        · cases admitted
        · cases admitted
          exact inStep.enrol absent

lemma inStep_release (inStep : enrolment.InStep)
  (released : enrolment.release who = some after) : after.InStep := by
  unfold Enrolment.release at released
  split at released
  · cases released
    exact inStep.strike
  · cases released

lemma inStep_move (inStep : enrolment.InStep) {changed : Bool}
  (moved : enrolment.move who access = some (after, changed)) : after.InStep := by
  unfold Enrolment.move at moved
  split at moved
  · next isMember =>
      cases moved
      exact inStep.relabel isMember
  · cases moved

end Enrolment

namespace SliceQuota

variable (quota : SliceQuota) (sessionKey : String)

lemma keeps_admitUe (threshold : UInt8) (supi : String) (anType : AccessType) :
  (quota.admitUe threshold supi anType).Keeps quota := by
  unfold admitUe
  split
  · exact ⟨rfl, rfl, fun enrolled => enrolled⟩
  · next ues admitted =>
      obtain ⟨flag, same⟩ := exists_updateEac { quota with ues := ues } threshold
      simp only [Change.Keeps, same, true_and]
      exact fun enrolled => ⟨Enrolment.inStep_admit enrolled.1 admitted, enrolled.2⟩

lemma keeps_releaseUe (threshold : UInt8) (supi : String) :
  (quota.releaseUe threshold supi).Keeps quota := by
  unfold releaseUe
  split
  · exact ⟨rfl, rfl, fun enrolled => enrolled⟩
  · next ues released =>
      obtain ⟨flag, same⟩ := exists_updateEac { quota with ues := ues } threshold
      simp only [Change.Keeps, same, true_and]
      exact fun enrolled => ⟨Enrolment.inStep_release enrolled.1 released, enrolled.2⟩

lemma keeps_updateUeAccess (supi : String) (newAccess : AccessType) :
  (quota.updateUeAccess supi newAccess).Keeps quota := by
  unfold updateUeAccess
  split
  · exact ⟨rfl, rfl, fun enrolled => enrolled⟩
  · next moved =>
      exact ⟨rfl, rfl, fun enrolled => ⟨Enrolment.inStep_move enrolled.1 moved, enrolled.2⟩⟩

lemma keeps_admitPduSession (anType : AccessType) :
  (quota.admitPduSession sessionKey anType).Keeps quota := by
  unfold admitPduSession
  split
  · exact ⟨rfl, rfl, fun enrolled => enrolled⟩
  · next admitted =>
      exact ⟨rfl, rfl, fun enrolled => ⟨enrolled.1, Enrolment.inStep_admit enrolled.2 admitted⟩⟩

lemma keeps_releasePduSession : (quota.releasePduSession sessionKey).Keeps quota := by
  unfold releasePduSession
  split
  · exact ⟨rfl, rfl, fun enrolled => enrolled⟩
  · next released =>
      exact ⟨rfl, rfl, fun enrolled => ⟨enrolled.1, Enrolment.inStep_release enrolled.2 released⟩⟩

lemma keeps_updatePduAccess (newAccess : AccessType) :
  (quota.updatePduAccess sessionKey newAccess).Keeps quota := by
  unfold updatePduAccess
  split
  · exact ⟨rfl, rfl, fun enrolled => enrolled⟩
  · next moved =>
      exact ⟨rfl, rfl, fun enrolled => ⟨enrolled.1, Enrolment.inStep_move enrolled.2 moved⟩⟩

end SliceQuota

namespace NsacfContext

variable {context : NsacfContext} {s : SNssai}

def resolvedKey (context : NsacfContext) (s : SNssai) : SNssai :=
  if (Members.get context.snssaiHash s).isSome then s else s.wide

lemma quotaIdFor_eq (context : NsacfContext) (s : SNssai) :
  context.quotaIdFor s = (Members.get context.snssaiHash s).or
    (if s.sd.isSome then Members.get context.snssaiHash s.wide else none) := by
  unfold quotaIdFor
  cases Members.get context.snssaiHash s <;> rfl

lemma get_resolvedKey {id : ℕ} (resolved : context.quotaIdFor s = some id) :
  Members.get context.snssaiHash (context.resolvedKey s) = some id := by
  rw [quotaIdFor_eq] at resolved
  unfold resolvedKey
  cases own : Members.get context.snssaiHash s with
  | some other =>
    rw [own] at resolved
    cases resolved
    exact own
  | none =>
    rw [own, Option.none_or] at resolved
    split at resolved
    · exact resolved
    · cases resolved

lemma quotaIdFor_congr {next : NsacfContext}
  (own : Members.get next.snssaiHash s = Members.get context.snssaiHash s)
  (shared : Members.get context.snssaiHash s = none →
    Members.get next.snssaiHash s.wide = Members.get context.snssaiHash s.wide) :
  next.quotaIdFor s = context.quotaIdFor s := by
  rw [quotaIdFor_eq, quotaIdFor_eq, own]
  cases absent : Members.get context.snssaiHash s with
  | some id => rfl
  | none => rw [shared absent]

lemma onQuota_snssaiHash (s : SNssai) (missing : Answer) (change : SliceQuota → Change) :
  (context.onQuota s missing change).context.snssaiHash = context.snssaiHash ∧
    (context.onQuota s missing change).context.nextQuotaId = context.nextQuotaId := by
  rcases context.onQuota_cases s missing change with ⟨-, same⟩ | ⟨id, quota, -, -, changed⟩
  · rw [same]
    exact ⟨rfl, rfl⟩
  · rw [changed]
    exact ⟨rfl, rfl⟩

lemma quotaFindById_onQuota (s : SNssai) (missing : Answer) (change : SliceQuota → Change)
  (id : ℕ) :
  (context.onQuota s missing change).context.quotaFindById id =
    (context.quotaFindById id).map fun quota =>
      if context.quotaIdFor s = some id then (change quota).quota else quota := by
  rcases context.onQuota_cases s missing change with
    ⟨unresolved, same⟩ | ⟨own, quota, resolved, found, changed⟩
  · rw [same]
    cases found : context.quotaFindById id with
    | none => rfl
    | some quota =>
      rw [Option.map_some, if_neg fun leads => unresolved id quota leads found]
  · rw [changed]
    refine (get_insert _ _ _ _).trans ?_
    by_cases isOwn : own = id
    · subst isOwn
      rw [if_pos rfl, found, Option.map_some, if_pos resolved]
    · have other : context.quotaIdFor s ≠ some id := by
        rw [resolved]
        exact fun same => isOwn (Option.some.inj same)
      rw [if_neg isOwn]
      simp only [if_neg other, Option.map_id']
      rfl

/-- Every quota is stored under its number, below the next one, and the index leads to quotas of
the S-NSSAI that is looked up. -/
structure Sound (context : NsacfContext) : Prop where
  quotaKeys : (keys context.quotaList).Nodup
  hashKeys : (keys context.snssaiHash).Nodup
  numbered : ∀ id quota, context.quotaFindById id = some quota →
    quota.id = id ∧ id < context.nextQuotaId
  leads : ∀ s id, Members.get context.snssaiHash s = some id →
    ∃ quota, context.quotaFindById id = some quota ∧ quota.sNssai = s
  enrolled : ∀ id quota, context.quotaFindById id = some quota → quota.Enrolled

lemma sound_init (maxQuotas : ℕ) (eacThreshold : UInt8) : (init maxQuotas eacThreshold).Sound :=
  ⟨List.nodup_nil, List.nodup_nil, fun _ _ found => (by cases found),
    fun _ _ leads => (by cases leads), fun _ _ found => by cases found⟩

section

variable (sound : context.Sound)

include sound

lemma Sound.onQuota (s : SNssai) (missing : Answer) {change : SliceQuota → Change}
  (keeps : ∀ quota, (change quota).Keeps quota) :
  (context.onQuota s missing change).context.Sound := by
  rcases context.onQuota_cases s missing change with ⟨-, same⟩ | ⟨id, quota, -, found, changed⟩
  · rw [same]
    exact sound
  · rw [changed]
    refine ⟨nodup_keys_insert sound.quotaKeys _ _, sound.hashKeys, ?_, ?_, ?_⟩
    · intro other stored foundStored
      replace foundStored := (get_insert_quotaList other).symm.trans foundStored
      by_cases same : id = other
      · subst same
        rw [if_pos rfl] at foundStored
        cases foundStored
        rw [(keeps quota).1]
        exact sound.numbered id quota found
      · rw [if_neg same] at foundStored
        exact sound.numbered other stored foundStored
    · intro key other isKey
      obtain ⟨stored, foundStored, named⟩ := sound.leads key other isKey
      by_cases same : id = other
      · subst same
        rw [found] at foundStored
        cases foundStored
        exact ⟨_, (get_insert_quotaList id).trans (if_pos rfl), (keeps quota).2.1.trans named⟩
      · exact ⟨stored, (get_insert_quotaList other).trans ((if_neg same).trans foundStored), named⟩
    · intro other stored foundStored
      replace foundStored := (get_insert_quotaList other).symm.trans foundStored
      by_cases same : id = other
      · rw [if_pos same] at foundStored
        cases foundStored
        exact (keeps quota).2.2 (sound.enrolled id quota found)
      · rw [if_neg same] at foundStored
        exact sound.enrolled other stored foundStored

lemma Sound.fresh : context.quotaFindById context.nextQuotaId = none := by
  cases found : context.quotaFindById context.nextQuotaId with
  | none => rfl
  | some quota => exact absurd (sound.numbered _ _ found).2 (Nat.lt_irrefl _)

lemma Sound.quotaAddWithLimits (s : SNssai) (maxUes maxPduSessions : UInt64)
  (limits : AccessLimits) :
  (context.quotaAddWithLimits s maxUes maxPduSessions limits).context.Sound := by
  unfold NsacfContext.quotaAddWithLimits
  split
  · exact sound
  · refine ⟨nodup_keys_insert sound.quotaKeys _ _,
      nodup_keys_insert sound.hashKeys _ _, fun id quota found => ?_,
      fun key id leads => ?_, fun id quota found => ?_⟩
    · rw [quotaFindById, get_insert] at found
      split at found
      · next same =>
          cases found
          exact ⟨same, same ▸ Nat.lt_succ_self _⟩
      · have before := sound.numbered id quota found
        exact ⟨before.1, Nat.lt_succ_of_lt before.2⟩
    · rw [get_insert] at leads
      simp only [quotaFindById, get_insert]
      split at leads
      · next same =>
          cases leads
          exact ⟨_, if_pos rfl, same⟩
      · obtain ⟨quota, found, named⟩ := sound.leads key id leads
        have older : context.nextQuotaId ≠ id :=
          Nat.ne_of_gt (sound.numbered id quota found).2
        exact ⟨quota, (if_neg older).trans found, named⟩
    · rw [quotaFindById, get_insert] at found
      split at found
      · cases found
        exact ⟨Roster.inStep_empty, Roster.inStep_empty⟩
      · exact sound.enrolled id quota found

lemma Sound.quotaRemove (id : ℕ) : (context.quotaRemove id).context.Sound := by
  unfold NsacfContext.quotaRemove
  split
  · exact sound
  · next removed foundRemoved =>
      refine ⟨nodup_keys_filter sound.quotaKeys _,
        nodup_keys_filter sound.hashKeys _, fun other quota found => ?_,
        fun key other leads => ?_, fun other quota found => ?_⟩
      · rw [quotaFindById, get_remove] at found
        split at found
        · cases found
        · exact sound.numbered other quota found
      · rw [get_remove] at leads
        simp only [quotaFindById, get_remove]
        split at leads
        · cases leads
        · next apart =>
            obtain ⟨quota, found, named⟩ := sound.leads key other leads
            refine ⟨quota, (if_neg fun same => apart ?_).trans found, named⟩
            subst same
            rw [foundRemoved] at found
            cases found
            exact named
      · rw [quotaFindById, get_remove] at found
        split at found
        · cases found
        · exact sound.enrolled other quota found

lemma Sound.perform (operation : Operation) : (context.perform operation).context.Sound := by
  cases operation with
  | quotaAdd s maxUes maxPduSessions limits => exact sound.quotaAddWithLimits _ _ _ _
  | quotaUpdateOrAdd s maxUes maxPduSessions limits =>
    change (context.quotaUpdateOrAdd s maxUes maxPduSessions limits).context.Sound
    unfold quotaUpdateOrAdd
    split
    · exact sound.onQuota _ _ fun _ => ⟨rfl, rfl, fun enrolled => enrolled⟩
    · exact sound.quotaAddWithLimits _ _ _ _
  | quotaRemove id => exact sound.quotaRemove id
  | admitUe s supi anType => exact sound.onQuota _ _ fun quota => quota.keeps_admitUe _ _ _
  | releaseUe s supi => exact sound.onQuota _ _ fun quota => quota.keeps_releaseUe _ _
  | updateUeAccess s supi newAccess =>
    exact sound.onQuota _ _ fun quota => quota.keeps_updateUeAccess _ _
  | admitPduSession s sessionKey anType =>
    exact sound.onQuota _ _ fun quota => quota.keeps_admitPduSession _ _
  | releasePduSession s sessionKey =>
    exact sound.onQuota _ _ fun quota => quota.keeps_releasePduSession _
  | updatePduAccess s sessionKey newAccess =>
    exact sound.onQuota _ _ fun quota => quota.keeps_updatePduAccess _ _

end

lemma sound_run (maxQuotas : ℕ) (eacThreshold : UInt8) (operations : List Operation) :
  (nsacf.run (.init maxQuotas eacThreshold) operations).Sound :=
  nsacf.invariant_run_always (fun _ operation sound => sound.perform operation)
    (sound_init maxQuotas eacThreshold) operations

end NsacfContext

end NextGCore.Nsacf
