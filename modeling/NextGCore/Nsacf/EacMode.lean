import Mathlib.Data.UInt
import NextGCore.Library.Registry
import NextGCore.Nsacf.SnssaiIndex

/-!
# EAC mode

The flag of a quota is set anew when a UE is admitted or released, with products of 64 bits, and
not when the ceiling changes.  It says that the threshold is reached in every run in which the
products do not wrap around into another answer and an update does not move the threshold past
the count.
-/

namespace NextGCore.Nsacf

open Library Option Members

def ThresholdReached (threshold : UInt8) (count : ℕ) (maxUes : UInt64) : Prop :=
  threshold.toNat * maxUes.toNat ≤ 100 * count

def ComparesExactly (threshold : UInt8) (count : ℕ) (maxUes : UInt64) : Prop :=
  maxUes * threshold.toUInt64 ≤ UInt64.ofNat count * 100 ↔ ThresholdReached threshold count maxUes

instance decidableThresholdReached (threshold : UInt8) (count : ℕ) (maxUes : UInt64) :
  Decidable (ThresholdReached threshold count maxUes) :=
  inferInstanceAs (Decidable (_ ≤ _))

lemma comparesExactly_of_lt {threshold : UInt8} {count : ℕ} {maxUes : UInt64}
  (few : 100 * count < 2 ^ 64) (small : threshold.toNat * maxUes.toNat < 2 ^ 64) :
  ComparesExactly threshold count maxUes := by
  have left : (maxUes * threshold.toUInt64).toNat = threshold.toNat * maxUes.toNat := by
    rw [UInt64.toNat_mul, UInt8.toNat_toUInt64, Nat.mul_comm, Nat.mod_eq_of_lt small]
  have right : (UInt64.ofNat count * 100).toNat = 100 * count := by
    have count' : (UInt64.ofNat count).toNat = count :=
      UInt64.toNat_ofNat_of_lt (show count < 2 ^ 64 by omega)
    rw [UInt64.toNat_mul, count', Nat.mul_comm]
    exact Nat.mod_eq_of_lt few
  rw [ComparesExactly, UInt64.le_iff_toNat_le, left, right, ThresholdReached]

namespace SliceQuota

/-- The flag of a quota that may have members says whether the threshold is reached. -/
def Flagged (threshold : UInt8) (quota : SliceQuota) : Prop :=
  quota.maxUes ≠ 0 →
    (quota.eacActive = true ↔ ThresholdReached threshold quota.currentUes quota.maxUes)

lemma flagged_updateEac {threshold : UInt8} {quota : SliceQuota}
  (compares : ComparesExactly threshold quota.currentUes quota.maxUes) :
  (updateEac quota threshold).1.Flagged threshold := by
  unfold updateEac
  by_cases closed : quota.maxUes = 0
  · rw [if_pos closed]
    exact fun opened => absurd closed opened
  · rw [if_neg closed]
    dsimp only
    split
    · intro _
      exact decide_eq_true_iff.trans compares
    · next same =>
        intro _
        rw [← not_ne_iff.mp same]
        exact decide_eq_true_iff.trans compares

lemma updateEac_announced (quota : SliceQuota) (threshold : UInt8) :
  (updateEac quota threshold).2 =
    if (updateEac quota threshold).1.eacActive = quota.eacActive then none
    else some ⟨quota.sNssai, (updateEac quota threshold).1.eacActive⟩ := by
  unfold updateEac
  by_cases closed : quota.maxUes = 0
  · rw [if_pos closed, if_pos rfl]
  · rw [if_neg closed]
    dsimp only
    split
    · rfl
    · exact (if_pos rfl).symm

end SliceQuota

def Answer.eac : Answer → Option EacTransition
  | .admission _ eac => eac
  | .release (.released eac) => eac
  | _ => none

/-- A change answers with a transition if and only if it changes the flag. -/
def Change.Announced (changed : Change) (quota : SliceQuota) : Prop :=
  changed.answer.eac =
    if changed.quota.eacActive = quota.eacActive then none
    else some ⟨quota.sNssai, changed.quota.eacActive⟩

lemma Change.announced_of_eq {changed : Change} {quota : SliceQuota}
  (silent : changed.answer.eac = none) (same : changed.quota.eacActive = quota.eacActive) :
  changed.Announced quota :=
  silent.trans (if_pos same).symm

namespace SliceQuota

variable (quota : SliceQuota) {supi : String}

lemma announced_admitUe (threshold : UInt8) (supi : String) (anType : AccessType) :
  (quota.admitUe threshold supi anType).Announced quota := by
  unfold admitUe
  split
  · exact Change.announced_of_eq rfl rfl
  · next ues _ => exact updateEac_announced { quota with ues := ues } threshold

lemma announced_releaseUe (threshold : UInt8) (supi : String) :
  (quota.releaseUe threshold supi).Announced quota := by
  unfold releaseUe
  split
  · exact Change.announced_of_eq rfl rfl
  · next ues _ => exact updateEac_announced { quota with ues := ues } threshold

lemma announced_updateUeAccess (supi : String) (newAccess : AccessType) :
  (quota.updateUeAccess supi newAccess).Announced quota := by
  unfold updateUeAccess
  split <;> exact Change.announced_of_eq rfl rfl

lemma announced_admitPduSession (sessionKey : String) (anType : AccessType) :
  (quota.admitPduSession sessionKey anType).Announced quota := by
  unfold admitPduSession
  split <;> exact Change.announced_of_eq rfl rfl

lemma announced_releasePduSession (sessionKey : String) :
  (quota.releasePduSession sessionKey).Announced quota := by
  unfold releasePduSession
  split <;> exact Change.announced_of_eq rfl rfl

lemma announced_updatePduAccess (sessionKey : String) (newAccess : AccessType) :
  (quota.updatePduAccess sessionKey newAccess).Announced quota := by
  unfold updatePduAccess
  split <;> exact Change.announced_of_eq rfl rfl

variable {quota} {threshold : UInt8}

lemma Flagged.admitUe (flagged : quota.Flagged threshold) (anType : AccessType)
  (compares : supi ∉ quota.ues.members → quota.currentUes < quota.maxUes.toNat →
    (∀ ceiling ∈ quota.maxUesFor anType, quota.ues.countOf anType < ceiling.toNat) →
      ComparesExactly threshold (quota.currentUes + 1) quota.maxUes) :
  (quota.admitUe threshold supi anType).quota.Flagged threshold := by
  unfold SliceQuota.admitUe
  split
  · exact flagged
  · next ues admitted =>
      unfold Enrolment.admitMember at admitted
      split at admitted
      · cases admitted
      · next absent =>
          split at admitted
          · cases admitted
          · next room =>
              split at admitted
              · cases admitted
              · next open' =>
                  cases admitted
                  refine flagged_updateEac (compares absent (Nat.not_le.mp room) ?_)
                  intro ceiling isCeiling
                  refine Nat.not_le.mp fun full => open' ?_
                  rw [isCeiling]
                  exact decide_eq_true full

lemma Flagged.congr {after : SliceQuota} (flagged : quota.Flagged threshold)
  (active : after.eacActive = quota.eacActive) (members : after.currentUes = quota.currentUes)
  (maximum : after.maxUes = quota.maxUes) : after.Flagged threshold := by
  rw [Flagged, active, members, maximum]
  exact flagged

section

variable (flagged : quota.Flagged threshold)

include flagged

lemma Flagged.updateUeAccess (supi : String) (newAccess : AccessType) :
  (quota.updateUeAccess supi newAccess).quota.Flagged threshold := by
  unfold SliceQuota.updateUeAccess
  split
  · exact flagged
  · next ues changed moved =>
      unfold Enrolment.move at moved
      split at moved
      · cases moved
        exact flagged.congr rfl rfl rfl
      · cases moved

lemma Flagged.admitPduSession (sessionKey : String) (anType : AccessType) :
  (quota.admitPduSession sessionKey anType).quota.Flagged threshold := by
  unfold SliceQuota.admitPduSession
  split
  · exact flagged
  · exact flagged.congr rfl rfl rfl

lemma Flagged.releasePduSession (sessionKey : String) :
  (quota.releasePduSession sessionKey).quota.Flagged threshold := by
  unfold SliceQuota.releasePduSession
  split
  · exact flagged
  · exact flagged.congr rfl rfl rfl

lemma Flagged.updatePduAccess (sessionKey : String) (newAccess : AccessType) :
  (quota.updatePduAccess sessionKey newAccess).quota.Flagged threshold := by
  unfold SliceQuota.updatePduAccess
  split
  · exact flagged
  · exact flagged.congr rfl rfl rfl

lemma Flagged.releaseUe
  (compares : supi ∈ quota.ues.members →
    ComparesExactly threshold (quota.ues.strike supi).members.length quota.maxUes) :
  (quota.releaseUe threshold supi).quota.Flagged threshold := by
  unfold SliceQuota.releaseUe
  split
  · exact flagged
  · next ues released =>
      unfold Enrolment.release at released
      split at released
      · next isMember =>
          cases released
          exact flagged_updateEac (compares isMember)
      · cases released

end

end SliceQuota

namespace NsacfContext

variable {operation : Operation} {missing : Answer} {change : SliceQuota → Change} {s : SNssai}

def sliceActive (context : NsacfContext) (s : SNssai) : Bool :=
  ((Members.get context.snssaiHash s).bind context.quotaFindById).any SliceQuota.eacActive

def Flagged (context : NsacfContext) : Prop :=
  ∀ id quota, context.quotaFindById id = some quota → quota.Flagged context.eacThreshold

def announced (answered : NsacfContext × Answer) : Option (SNssai × Bool) :=
  answered.2.eac.map fun transition => (transition.sNssai, transition.activated)

variable {context : NsacfContext}

lemma Sound.announces_onQuota (sound : context.Sound) (s : SNssai) (silent : missing.eac = none)
  (tells : ∀ quota, (change quota).Announced quota) :
  Announces context.sliceActive (context.onQuota s missing change).context.sliceActive
    ((context.onQuota s missing change).answer.eac.map fun transition =>
      (transition.sNssai, transition.activated)) := by
  rcases context.onQuota_cases s missing change with
    ⟨-, same⟩ | ⟨id, quota, resolved, found, changed⟩
  · rw [same, silent]
    exact announces_none rfl
  · have leadsOwn := get_resolvedKey resolved
    obtain ⟨stored, foundStored, named⟩ := sound.leads _ id leadsOwn
    rw [found] at foundStored
    cases foundStored
    have before : context.sliceActive quota.sNssai = quota.eacActive := by
      rw [sliceActive, named, leadsOwn, bind_some, found, any_some]
    have after : (context.onQuota s missing change).context.sliceActive =
        Function.update context.sliceActive quota.sNssai (change quota).quota.eacActive := by
      funext key
      rw [changed]
      by_cases isOwn : key = quota.sNssai
      · subst isOwn
        rw [Function.update_self, sliceActive, named, leadsOwn, bind_some]
        exact congrArg (Option.any SliceQuota.eacActive)
          ((get_insert_quotaList id).trans (if_pos rfl))
      · rw [Function.update_of_ne isOwn, sliceActive, sliceActive]
        cases leads : Members.get context.snssaiHash key with
        | none => rfl
        | some other =>
          have apart : id ≠ other := by
            rintro rfl
            obtain ⟨stored, foundStored, namedKey⟩ := sound.leads key id leads
            rw [found] at foundStored
            cases foundStored
            exact isOwn namedKey.symm
          rw [bind_some, bind_some]
          exact congrArg (Option.any SliceQuota.eacActive)
            ((get_insert_quotaList other).trans (if_neg apart))
    rw [after, changed]
    have announcement := tells quota
    rw [Change.Announced] at announcement
    simp only [announcement]
    split
    · next unchanged =>
        refine announces_none ?_
        rw [unchanged, ← before, Function.update_eq_self]
    · next flipped =>
        refine ⟨fun key value isAnnounced => ?_, rfl⟩
        cases isAnnounced
        rw [before]
        exact Bool.eq_not_of_ne flipped

lemma Flagged.quotaAddWithLimits (flagged : context.Flagged) (positive : context.eacThreshold ≠ 0)
  (s : SNssai) (maxUes maxPduSessions : UInt64) (limits : AccessLimits) :
  (context.quotaAddWithLimits s maxUes maxPduSessions limits).context.Flagged := by
  unfold NsacfContext.quotaAddWithLimits
  split
  · exact flagged
  · intro id quota found
    rw [quotaFindById, get_insert] at found
    split at found
    · cases found
      intro opened
      have thresholds : 0 < context.eacThreshold.toNat :=
        Nat.pos_of_ne_zero fun zero => positive (UInt8.toNat_inj.mp zero)
      have maxima : 0 < maxUes.toNat :=
        Nat.pos_of_ne_zero fun zero => opened (UInt64.toNat_inj.mp zero)
      refine iff_of_false Bool.false_ne_true fun reached => ?_
      exact absurd (Nat.mul_pos thresholds maxima) (Nat.not_lt.mpr reached)
    · exact flagged id quota found

lemma Sound.announces_quotaAddWithLimits (sound : context.Sound)
  (maxUes maxPduSessions : UInt64) (limits : AccessLimits)
  (idle : context.maxQuotas ≤ context.quotaList.length ∨ context.sliceActive s = false) :
  Announces context.sliceActive
    (context.quotaAddWithLimits s maxUes maxPduSessions limits).context.sliceActive none := by
  unfold NsacfContext.quotaAddWithLimits
  by_cases full : context.maxQuotas ≤ context.quotaList.length
  · rw [if_pos full]
    exact announces_none rfl
  · rw [if_neg full]
    refine announces_none (funext fun key => ?_)
    rw [sliceActive, get_insert]
    by_cases same : s = key
    · subst same
      rw [if_pos rfl, bind_some, idle.resolve_left full]
      exact congrArg (Option.any SliceQuota.eacActive) ((get_insert_quotaList _).trans (if_pos rfl))
    · rw [if_neg same, sliceActive]
      cases leads : Members.get context.snssaiHash key with
      | none => rfl
      | some id =>
        obtain ⟨quota, found, -⟩ := sound.leads key id leads
        have older : context.nextQuotaId ≠ id := Nat.ne_of_gt (sound.numbered id quota found).2
        rw [bind_some, bind_some]
        exact congrArg (Option.any SliceQuota.eacActive)
          ((get_insert_quotaList id).trans (if_neg older))

lemma flagged_onQuota (flagged : context.Flagged)
  (changed : context.OnQuota s fun quota => (change quota).quota.Flagged context.eacThreshold) :
  (context.onQuota s missing change).context.Flagged := by
  intro id quota found
  have threshold : (context.onQuota s missing change).context.eacThreshold =
      context.eacThreshold := by
    rcases context.onQuota_cases s missing change with ⟨-, same⟩ | ⟨_, _, -, -, same⟩ <;> rw [same]
  rw [quotaFindById_onQuota] at found
  obtain ⟨before, foundBefore, rfl⟩ := map_eq_some_iff.mp found
  rw [threshold]
  split
  · next resolved => exact changed id before resolved foundBefore
  · exact flagged id before foundBefore

/-- The operation leaves a flag that is right: the count that an accepted UE brings or a released
one leaves compares exactly, a new ceiling keeps the answer, and no quota whose flag is set is replaced
or removed. -/
def KeepsEac (context : NsacfContext) : Operation → Prop
  | .quotaAdd s _ _ _ =>
    context.maxQuotas ≤ context.quotaList.length ∨ context.sliceActive s = false
  | .quotaUpdateOrAdd s maxUes _ _ => context.OnQuota s fun quota => maxUes ≠ 0 →
      (quota.eacActive = true ↔ ThresholdReached context.eacThreshold quota.currentUes maxUes)
  | .quotaRemove id => ∀ quota, context.quotaFindById id = some quota →
      context.sliceActive quota.sNssai = false
  | .admitUe s supi anType => context.OnQuota s fun quota =>
    supi ∉ quota.ues.members → quota.currentUes < quota.maxUes.toNat →
      (∀ ceiling ∈ quota.maxUesFor anType, quota.ues.countOf anType < ceiling.toNat) →
        ComparesExactly context.eacThreshold (quota.currentUes + 1) quota.maxUes
  | .releaseUe s supi => context.OnQuota s fun quota => supi ∈ quota.ues.members →
      ComparesExactly context.eacThreshold (quota.ues.strike supi).members.length quota.maxUes
  | _ => True

structure EacSound (threshold : UInt8) (context : NsacfContext) : Prop where
  sound : context.Sound
  flagged : context.Flagged
  threshold : context.eacThreshold = threshold

lemma eacThreshold_perform (context : NsacfContext) (operation : Operation) :
  (context.perform operation).context.eacThreshold = context.eacThreshold := by
  have onQuota (s : SNssai) (missing : Answer) (change : SliceQuota → Change) :
      (context.onQuota s missing change).context.eacThreshold = context.eacThreshold := by
    rcases context.onQuota_cases s missing change with ⟨-, same⟩ | ⟨_, _, -, -, same⟩ <;> rw [same]
  have add (s : SNssai) (maxUes maxPduSessions : UInt64) (limits : AccessLimits) :
      (context.quotaAddWithLimits s maxUes maxPduSessions limits).context.eacThreshold =
        context.eacThreshold := by
    unfold quotaAddWithLimits
    split <;> rfl
  cases operation with
  | quotaAdd s maxUes maxPduSessions limits => exact add _ _ _ _
  | quotaUpdateOrAdd s maxUes maxPduSessions limits =>
    rw [perform, quotaUpdateOrAdd]
    split
    · exact onQuota _ _ _
    · exact add _ _ _ _
  | quotaRemove id =>
    rw [perform, quotaRemove]
    split <;> rfl
  | admitUe s supi anType | releaseUe s supi | updateUeAccess s supi newAccess
  | admitPduSession s sessionKey anType | releasePduSession s sessionKey
  | updatePduAccess s sessionKey newAccess => exact onQuota _ _ _

lemma flagged_perform (flagged : context.Flagged) (positive : context.eacThreshold ≠ 0)
  (kept : context.KeepsEac operation) : (context.perform operation).context.Flagged := by
  cases operation with
  | quotaAdd s maxUes maxPduSessions limits => exact flagged.quotaAddWithLimits positive _ _ _ _
  | quotaUpdateOrAdd s maxUes maxPduSessions limits =>
    rw [perform, quotaUpdateOrAdd]
    split
    · exact flagged_onQuota flagged kept
    · exact flagged.quotaAddWithLimits positive _ _ _ _
  | quotaRemove id =>
    rw [perform, quotaRemove]
    split
    · exact flagged
    · intro other quota found
      rw [quotaFindById, get_remove] at found
      split at found
      · cases found
      · exact flagged other quota found
  | admitUe s supi anType =>
    exact flagged_onQuota flagged fun id quota leads found =>
      (flagged id quota found).admitUe anType (kept id quota leads found)
  | releaseUe s supi =>
    exact flagged_onQuota flagged fun id quota leads found =>
      (flagged id quota found).releaseUe (kept id quota leads found)
  | updateUeAccess s supi newAccess =>
    exact flagged_onQuota flagged fun id quota _ found =>
      (flagged id quota found).updateUeAccess supi newAccess
  | admitPduSession s sessionKey anType =>
    exact flagged_onQuota flagged fun id quota _ found =>
      (flagged id quota found).admitPduSession sessionKey anType
  | releasePduSession s sessionKey =>
    exact flagged_onQuota flagged fun id quota _ found =>
      (flagged id quota found).releasePduSession sessionKey
  | updatePduAccess s sessionKey newAccess =>
    exact flagged_onQuota flagged fun id quota _ found =>
      (flagged id quota found).updatePduAccess sessionKey newAccess

lemma Sound.announces_quotaRemove (sound : context.Sound) {id : ℕ}
  (idle : ∀ quota, context.quotaFindById id = some quota →
    context.sliceActive quota.sNssai = false) :
  Announces context.sliceActive (context.quotaRemove id).context.sliceActive none := by
  unfold NsacfContext.quotaRemove
  cases found : context.quotaFindById id with
  | none => exact announces_none rfl
  | some quota =>
    refine announces_none (funext fun key => ?_)
    have lookups (other : ℕ) : Members.get (remove context.quotaList id) other =
        if id = other then none else context.quotaFindById other :=
      get_remove _ _ _
    rw [sliceActive, get_remove]
    by_cases same : quota.sNssai = key
    · subst same
      rw [if_pos rfl, idle quota found]
      rfl
    · rw [if_neg same, sliceActive]
      cases leads : Members.get context.snssaiHash key with
      | none => rfl
      | some other =>
        have apart : id ≠ other := by
          rintro rfl
          obtain ⟨stored, foundStored, named⟩ := sound.leads key id leads
          rw [found] at foundStored
          cases foundStored
          exact same named
        rw [bind_some, bind_some]
        exact congrArg (Option.any SliceQuota.eacActive) ((lookups other).trans (if_neg apart))

lemma Sound.announces_perform (sound : context.Sound) (kept : context.KeepsEac operation) :
  Announces context.sliceActive (context.perform operation).context.sliceActive
    (announced (nsacf.step context operation)) := by
  have silentAdd (s : SNssai) (maxUes maxPduSessions : UInt64) (limits : AccessLimits) :
      (context.quotaAddWithLimits s maxUes maxPduSessions limits).answer.eac = none := by
    unfold NsacfContext.quotaAddWithLimits
    split <;> rfl
  have adds (s : SNssai) (maxUes maxPduSessions : UInt64) (limits : AccessLimits)
      (idle : context.maxQuotas ≤ context.quotaList.length ∨ context.sliceActive s = false) :
      Announces context.sliceActive
        (context.quotaAddWithLimits s maxUes maxPduSessions limits).context.sliceActive
        ((context.quotaAddWithLimits s maxUes maxPduSessions limits).answer.eac.map
          fun transition => (transition.sNssai, transition.activated)) := by
    rw [silentAdd]
    exact sound.announces_quotaAddWithLimits _ _ _ idle
  cases operation with
  | quotaAdd s maxUes maxPduSessions limits => exact adds _ _ _ _ kept
  | quotaUpdateOrAdd s maxUes maxPduSessions limits =>
    change Announces _ (context.quotaUpdateOrAdd s maxUes maxPduSessions limits).context.sliceActive
      ((context.quotaUpdateOrAdd s maxUes maxPduSessions limits).answer.eac.map _)
    unfold quotaUpdateOrAdd
    split
    · exact sound.announces_onQuota s rfl fun _ => Change.announced_of_eq rfl rfl
    · next absent =>
        refine adds _ _ _ _ (.inr ?_)
        rw [quotaIdFor_eq] at absent
        cases own : Members.get context.snssaiHash s with
        | none =>
          rw [sliceActive, own]
          rfl
        | some id =>
          rw [own] at absent
          exact absurd rfl absent
  | quotaRemove id =>
    have silent : (context.quotaRemove id).answer.eac = none := by
      unfold NsacfContext.quotaRemove
      split <;> rfl
    change Announces _ _ ((context.quotaRemove id).answer.eac.map _)
    rw [silent]
    exact sound.announces_quotaRemove kept
  | admitUe s supi anType =>
    exact sound.announces_onQuota s rfl fun quota => quota.announced_admitUe _ _ _
  | releaseUe s supi =>
    exact sound.announces_onQuota s rfl fun quota => quota.announced_releaseUe _ _
  | updateUeAccess s supi newAccess =>
    exact sound.announces_onQuota s rfl fun quota => quota.announced_updateUeAccess _ _
  | admitPduSession s sessionKey anType =>
    exact sound.announces_onQuota s rfl fun quota => quota.announced_admitPduSession _ _
  | releasePduSession s sessionKey =>
    exact sound.announces_onQuota s rfl fun quota => quota.announced_releasePduSession _
  | updatePduAccess s sessionKey newAccess =>
    exact sound.announces_onQuota s rfl fun quota => quota.announced_updatePduAccess _ _

lemma EacSound.perform {threshold : UInt8} (before : context.EacSound threshold)
  (positive : threshold ≠ 0) (kept : context.KeepsEac operation) :
  (context.perform operation).context.EacSound threshold where
  sound := before.sound.perform operation
  flagged := flagged_perform before.flagged (before.threshold ▸ positive) kept
  threshold := (eacThreshold_perform context operation).trans before.threshold

lemma eacSound_init (maxQuotas : ℕ) (threshold : UInt8) :
  (init maxQuotas threshold).EacSound threshold :=
  ⟨sound_init maxQuotas threshold, fun _ _ found => (by cases found), rfl⟩

end NsacfContext

/-- In every run that leaves the flags right, they say in every state whether the threshold is
reached, every change of one is announced and nothing else, and what is announced of a slice
alternates from its activation on. -/
theorem eac_follows_count (maxQuotas : ℕ) {threshold : UInt8} (positive : threshold ≠ 0)
  {operations : List Operation}
  (kept : nsacf.Along NsacfContext.KeepsEac (.init maxQuotas threshold) operations) :
  (∀ id quota, (nsacf.run (.init maxQuotas threshold) operations).quotaFindById id = some quota →
    quota.maxUes ≠ 0 → (quota.eacActive = true ↔
        threshold.toNat * quota.maxUes.toNat ≤ 100 * quota.currentUes)) ∧
  nsacf.Along (fun context operation =>
    Announces context.sliceActive (nsacf.step context operation).1.sliceActive
      (NsacfContext.announced (nsacf.step context operation)))
    (.init maxQuotas threshold) operations ∧
  ∀ s, Alternates false (announcedOf s
    (nsacf.emitted NsacfContext.announced (.init maxQuotas threshold) operations)) := by
  have preserved (context : NsacfContext) (operation : Operation)
      (before : context.EacSound threshold) (kept : context.KeepsEac operation) :
      (nsacf.step context operation).1.EacSound threshold :=
    before.perform positive kept
  have start := NsacfContext.eacSound_init maxQuotas threshold
  have announces := nsacf.along_of_invariant preserved
    (fun context operation before kept => before.sound.announces_perform kept) start kept
  have reached := nsacf.invariant_run preserved start kept
  refine ⟨fun id quota found opened => ?_, announces, fun s => ?_⟩
  · rw [← reached.threshold]
    exact reached.flagged id quota found opened
  · exact alternates_announced nsacf NsacfContext.sliceActive NsacfContext.announced announces s

def loweredCeiling : List Operation :=
  [.quotaAdd ⟨1, none⟩ 10 10 .default, .admitUe ⟨1, none⟩ "imsi-1" .threeGpp,
    .quotaUpdateOrAdd ⟨1, none⟩ 1 10 .default]

def wrappingCeiling : List Operation :=
  [.quotaAdd ⟨1, none⟩ 230584300921369396 10 .default, .admitUe ⟨1, none⟩ "imsi-1" .threeGpp]

def replacedQuota : List Operation :=
  [.quotaAdd ⟨1, none⟩ 1 10 .default, .admitUe ⟨1, none⟩ "imsi-1" .threeGpp,
    .quotaAdd ⟨1, none⟩ 1 10 .default, .admitUe ⟨1, none⟩ "imsi-1" .threeGpp]

theorem not_eac_follows_count :
  ((nsacf.run (.init 64 80) loweredCeiling).quotaFindById 1).any (fun quota =>
      !quota.eacActive && decide (ThresholdReached 80 quota.currentUes quota.maxUes)) = true ∧
    ((nsacf.run (.init 64 80) wrappingCeiling).quotaFindById 1).any (fun quota =>
      quota.eacActive && !decide (ThresholdReached 80 quota.currentUes quota.maxUes)) = true ∧
    ¬Alternates false (announcedOf ⟨1, none⟩
      (nsacf.emitted NsacfContext.announced (.init 64 80) replacedQuota)) := by
  refine ⟨by decide, by decide, ?_⟩
  have twice : announcedOf ⟨1, none⟩
      (nsacf.emitted NsacfContext.announced (.init 64 80) replacedQuota) = [true, true] := by
    decide
  rw [twice]
  simp [Alternates]

def halfFull : List Operation :=
  [.quotaAdd ⟨1, none⟩ 2 10 .default, .admitUe ⟨1, none⟩ "imsi-1" .threeGpp]

theorem halfFull_eac :
  (∀ id quota, (nsacf.run (.init 64 80) halfFull).quotaFindById id = some quota →
    quota.maxUes ≠ 0 → (quota.eacActive = true ↔ (80 : UInt8).toNat * quota.maxUes.toNat ≤
        100 * quota.currentUes)) ∧
    Alternates false (announcedOf ⟨1, none⟩
      (nsacf.emitted NsacfContext.announced (.init 64 80) halfFull)) := by
  have kept : nsacf.Along NsacfContext.KeepsEac (.init 64 80) halfFull := by
    refine ⟨.inr rfl, fun id quota leads found => ?_, trivial⟩
    cases leads
    cases found
    exact fun _ _ _ => comparesExactly_of_lt (by decide) (by decide)
  have follows := eac_follows_count 64 (by decide) kept
  exact ⟨follows.1, follows.2.2 ⟨1, none⟩⟩

end NextGCore.Nsacf
