import NextGCore.Nsacf.SnssaiIndex

/-!
# Releasing what was admitted

An admission and the release that follows look up the quota each on its own.  They find the same
one as long as no quota is put before it or taken out from under it in between.  An update of the
ceilings goes through the same lookup, and finds the quota that is shared.
-/

namespace NextGCore.Nsacf

open Library Members

namespace NsacfContext

variable {context : NsacfContext}

/-- The operation leaves what an S-NSSAI leads to, or the quota is gone already or goes with it. -/
def KeepsResolution (s : SNssai) (id : ℕ) (context : NsacfContext) : Operation → Prop
  | .quotaAdd s' _ _ _ =>
    context.quotaFindById id = none ∨ context.maxQuotas ≤ context.quotaList.length ∨
      s' ≠ s ∧ s' ≠ context.resolvedKey s
  | .quotaRemove id' =>
    context.quotaFindById id = none ∨ id' = id ∨ ∀ quota, context.quotaFindById id' = some quota →
      quota.sNssai ≠ context.resolvedKey s
  | _ => True

def Holds (s : SNssai) (id : ℕ) (context : NsacfContext) : Prop :=
  context.quotaFindById id = none ∧ id < context.nextQuotaId ∨ context.quotaIdFor s = some id

variable {s : SNssai} {id : ℕ}

lemma Holds.lt (sound : context.Sound) (holds : context.Holds s id) :
  id < context.nextQuotaId := by
  rcases holds with ⟨-, issued⟩ | resolved
  · exact issued
  · obtain ⟨quota, found, -⟩ := sound.leads _ id (get_resolvedKey resolved)
    exact (sound.numbered id quota found).2

lemma Holds.onQuota (holds : context.Holds s id) (s' : SNssai) (missing : Answer)
  (change : SliceQuota → Change) : (context.onQuota s' missing change).context.Holds s id := by
  obtain ⟨hash, next⟩ := context.onQuota_snssaiHash s' missing change
  rcases holds with ⟨gone, issued⟩ | resolved
  · refine .inl ⟨?_, next ▸ issued⟩
    rw [quotaFindById_onQuota, gone]
    rfl
  · refine .inr ((quotaIdFor_congr ?_ fun _ => ?_).trans resolved) <;> rw [hash]

section

variable (sound : context.Sound) (holds : context.Holds s id)

include sound holds

lemma Holds.quotaAddWithLimits {s' : SNssai} {maxUes maxPduSessions : UInt64}
  {limits : AccessLimits}
  (kept : context.quotaFindById id = none ∨ context.maxQuotas ≤ context.quotaList.length ∨
    s' ≠ s ∧ s' ≠ context.resolvedKey s) :
  (context.quotaAddWithLimits s' maxUes maxPduSessions limits).context.Holds s id := by
  have issued := holds.lt sound
  unfold NsacfContext.quotaAddWithLimits
  by_cases full : context.maxQuotas ≤ context.quotaList.length
  · rw [if_pos full]
    exact holds
  · rw [if_neg full]
    have stays (gone : context.quotaFindById id = none) : Members.get (insert
        context.quotaList context.nextQuotaId ((SliceQuota.new context.nextQuotaId s' maxUes
          maxPduSessions).withAccessLimits limits)) id = none := by
      rw [get_insert, if_neg (Nat.ne_of_gt issued)]
      exact gone
    rcases kept with gone | room | apart
    · exact .inl ⟨stays gone, Nat.lt_succ_of_lt issued⟩
    · exact absurd room full
    · rcases holds with ⟨gone, -⟩ | resolved
      · exact .inl ⟨stays gone, Nat.lt_succ_of_lt issued⟩
      · refine .inr ((quotaIdFor_congr ?_ fun absent => ?_).trans resolved)
        · exact (get_insert _ _ _ _).trans (if_neg apart.1)
        · refine (get_insert _ _ _ _).trans (if_neg ?_)
          have key : context.resolvedKey s = s.wide := by
            rw [resolvedKey, absent]
            rfl
          exact key ▸ apart.2

lemma Holds.perform {operation : Operation} (kept : context.KeepsResolution s id operation) :
  (context.perform operation).context.Holds s id := by
  cases operation with
  | quotaAdd s' maxUes maxPduSessions limits => exact holds.quotaAddWithLimits sound kept
  | quotaUpdateOrAdd s' maxUes maxPduSessions limits =>
    change (context.quotaUpdateOrAdd s' maxUes maxPduSessions limits).context.Holds s id
    unfold quotaUpdateOrAdd
    split
    · exact holds.onQuota _ _ _
    · next unresolved =>
        refine holds.quotaAddWithLimits sound ?_
        rcases holds with ⟨gone, -⟩ | resolved
        · exact .inl gone
        · refine .inr (.inr ⟨?_, ?_⟩)
          · rintro rfl
            rw [resolved] at unresolved
            exact unresolved rfl
          · rintro rfl
            -- The key leads to the quota itself.
            have own := get_resolvedKey resolved
            rw [quotaIdFor_eq, own] at unresolved
            exact unresolved rfl
  | quotaRemove id' =>
    have issued := holds.lt sound
    change (context.quotaRemove id').context.Holds s id
    unfold quotaRemove
    split
    · exact holds
    · next quota found =>
        have stays (gone : id' = id ∨ context.quotaFindById id = none) :
            Members.get (remove context.quotaList id') id = none := by
          rw [get_remove]
          split
          · rfl
          · next apart => exact gone.resolve_left apart
        rcases kept with gone | isOwn | apart
        · exact .inl ⟨stays (.inr gone), issued⟩
        · exact .inl ⟨stays (.inl isOwn), issued⟩
        · rcases holds with ⟨gone, -⟩ | resolved
          · exact .inl ⟨stays (.inr gone), issued⟩
          · have other := apart quota found
            refine .inr ((quotaIdFor_congr ?_ fun absent => ?_).trans resolved)
            · refine (get_remove _ _ _).trans ?_
              by_cases same : quota.sNssai = s
              · rw [if_pos same]
                cases own : Members.get context.snssaiHash s with
                | none => rfl
                | some other' =>
                  refine absurd (same.trans ?_) other
                  rw [resolvedKey, own]
                  rfl
              · rw [if_neg same]
            · refine (get_remove _ _ _).trans (if_neg fun same => other ?_)
              rw [resolvedKey, absent]
              exact same
  | admitUe s' supi anType | releaseUe s' supi | updateUeAccess s' supi newAccess
  | admitPduSession s' sessionKey anType | releasePduSession s' sessionKey
  | updatePduAccess s' sessionKey newAccess => exact holds.onQuota _ _ _

lemma holds_run {operations : List Operation}
  (kept : nsacf.Along (KeepsResolution s id) context operations) :
  (nsacf.run context operations).Sound ∧ (nsacf.run context operations).Holds s id :=
  nsacf.invariant_run
    (fun _ operation (both : _ ∧ _) kept =>
      ⟨both.1.perform operation, both.2.perform both.1 kept⟩) ⟨sound, holds⟩ kept

end

end NsacfContext

lemma notMem_releaseUe (quota : SliceQuota) (threshold : UInt8) (supi : String) :
  supi ∉ (quota.releaseUe threshold supi).quota.ues.members := by
  unfold SliceQuota.releaseUe
  split
  · next absent =>
      unfold Enrolment.release at absent
      split at absent
      · cases absent
      · next notMember => exact notMember
  · next ues released =>
      unfold Enrolment.release at released
      split at released
      · cases released
        obtain ⟨flag, same⟩ := SliceQuota.exists_updateEac
          { quota with ues := quota.ues.strike supi } threshold
        simp only [same]
        simp [Roster.strike]
      · cases released

namespace NsacfContext

variable {context : NsacfContext} {s : SNssai} {id : ℕ}

lemma notMem_releaseUe_iff (context : NsacfContext) (s : SNssai) (supi : String) (id : ℕ) :
  (∀ quota, (context.releaseUe s supi).context.quotaFindById id = some quota →
      supi ∉ quota.ues.members) ↔
    context.quotaIdFor s = some id ∨
      ∀ quota, context.quotaFindById id = some quota → supi ∉ quota.ues.members := by
  rw [releaseUe]
  simp only [quotaFindById_onQuota, Option.map_eq_some_iff]
  by_cases resolved : context.quotaIdFor s = some id
  · refine iff_of_true ?_ (.inl resolved)
    rintro quota ⟨before, -, rfl⟩
    rw [if_pos resolved]
    exact Nsacf.notMem_releaseUe before context.eacThreshold supi
  · rw [or_iff_right resolved]
    constructor
    · intro after quota found
      exact after quota ⟨quota, found, if_neg resolved⟩
    · rintro before quota ⟨_, found, rfl⟩
      rw [if_neg resolved]
      exact before _ found

/-- Nothing but the quota of the S-NSSAI itself is changed, and one is created only if there is
none. -/
structure UpdatesOwn (context : NsacfContext) (s : SNssai) (maxUes maxPduSessions : UInt64)
  (limits : AccessLimits) : Prop where
  others : ∀ id quota, context.quotaFindById id = some quota → quota.sNssai ≠ s →
    (context.quotaUpdateOrAdd s maxUes maxPduSessions limits).context.quotaFindById id = some quota
  own : ∀ quota,
    (context.quotaUpdateOrAdd s maxUes maxPduSessions limits).answer = .quota (some quota) →
    quota.sNssai = s ∧ quota.maxUes = maxUes ∧ quota.maxPduSessions = maxPduSessions ∧
      quota.limits = limits ∧
      (context.quotaUpdateOrAdd s maxUes maxPduSessions limits).context.quotaFindById quota.id =
        some quota ∧
      (context.quotaFindById quota.id = none →
        ∀ id other, context.quotaFindById id = some other → other.sNssai ≠ s)

/-- The S-NSSAI has an entry of its own; or it shares no quota, and there is none of its own
outside of the index, or no room for another one. -/
def OwnsQuota (context : NsacfContext) (s : SNssai) : Prop :=
  (Members.get context.snssaiHash s).isSome ∨ context.quotaIdFor s = none ∧
      (context.maxQuotas ≤ context.quotaList.length ∨
        ∀ id quota, context.quotaFindById id = some quota → quota.sNssai ≠ s)

lemma resolvedKey_eq_self_iff (resolved : context.quotaIdFor s = some id) :
  context.resolvedKey s = s ↔ (Members.get context.snssaiHash s).isSome := by
  unfold resolvedKey
  split
  · next own => exact iff_of_true rfl own
  · next shared =>
      refine iff_of_false (fun same => ?_) shared
      have wide : s.sd = none := (congrArg SNssai.sd same).symm
      rw [quotaIdFor_eq, wide] at resolved
      rw [Option.not_isSome_iff_eq_none.mp shared] at resolved
      cases resolved

lemma Sound.updatesOwn_iff_of_resolved (sound : context.Sound)
  (resolved : context.quotaIdFor s = some id) (maxUes maxPduSessions : UInt64)
  (limits : AccessLimits) :
  context.UpdatesOwn s maxUes maxPduSessions limits ↔
    (Members.get context.snssaiHash s).isSome := by
  rw [← resolvedKey_eq_self_iff resolved]
  obtain ⟨quota, found, named⟩ := sound.leads _ id (get_resolvedKey resolved)
  have updates : context.quotaUpdateOrAdd s maxUes maxPduSessions limits =
      context.onQuota s (.quota none) fun quota =>
        ⟨{ quota with maxUes := maxUes, maxPduSessions := maxPduSessions, limits := limits },
          .quota (some { quota with
            maxUes := maxUes, maxPduSessions := maxPduSessions, limits := limits }), true⟩ := by
    rw [quotaUpdateOrAdd, resolved]
    rfl
  have answers : (context.quotaUpdateOrAdd s maxUes maxPduSessions limits).answer =
      .quota (some { quota with
        maxUes := maxUes, maxPduSessions := maxPduSessions, limits := limits }) := by
    rw [updates, NsacfContext.onQuota, resolved]
    simp only [found]
  constructor
  · intro updatesOwn
    exact named.symm.trans (updatesOwn.own _ answers).1
  · intro isOwn
    constructor
    · intro other stored foundStored apart
      rw [updates, quotaFindById_onQuota, foundStored, Option.map_some, if_neg]
      intro leads
      rw [resolved] at leads
      cases leads
      rw [found] at foundStored
      cases foundStored
      exact apart (named.trans isOwn)
    · intro updated answered
      rw [answers] at answered
      cases answered
      have number := (sound.numbered id quota found).1
      refine ⟨named.trans isOwn, rfl, rfl, rfl, ?_, fun absent => ?_⟩
      · change (context.quotaUpdateOrAdd s maxUes maxPduSessions limits).context.quotaFindById
          quota.id = _
        rw [number, updates, quotaFindById_onQuota, found, Option.map_some, if_pos resolved]
        subst number
        rfl
      · rw [number, found] at absent
        cases absent

lemma Sound.updatesOwn_iff_of_unresolved (sound : context.Sound)
  (unresolved : context.quotaIdFor s = none) (maxUes maxPduSessions : UInt64)
  (limits : AccessLimits) :
  context.UpdatesOwn s maxUes maxPduSessions limits ↔
    context.maxQuotas ≤ context.quotaList.length ∨
      ∀ id quota, context.quotaFindById id = some quota → quota.sNssai ≠ s := by
  have adds : context.quotaUpdateOrAdd s maxUes maxPduSessions limits =
      context.quotaAddWithLimits s maxUes maxPduSessions limits := by
    rw [quotaUpdateOrAdd, unresolved]
    rfl
  by_cases full : context.maxQuotas ≤ context.quotaList.length
  · refine iff_of_true ⟨fun id quota found _ => ?_, fun quota answered => ?_⟩ (.inl full)
    · rw [adds, NsacfContext.quotaAddWithLimits, if_pos full]
      exact found
    · rw [adds, NsacfContext.quotaAddWithLimits, if_pos full] at answered
      cases answered
  · have added : context.quotaUpdateOrAdd s maxUes maxPduSessions limits =
        ⟨{ context with
            quotaList := insert context.quotaList context.nextQuotaId
              ((SliceQuota.new context.nextQuotaId s maxUes maxPduSessions).withAccessLimits limits)
            snssaiHash := insert context.snssaiHash s context.nextQuotaId
            nextQuotaId := context.nextQuotaId + 1 },
          .quota (some ((SliceQuota.new context.nextQuotaId s maxUes
            maxPduSessions).withAccessLimits limits)), true⟩ := by
      rw [adds, NsacfContext.quotaAddWithLimits, if_neg full]
    rw [or_iff_right full]
    constructor
    · intro updatesOwn
      exact (updatesOwn.own _ (congrArg Outcome.answer added)).2.2.2.2.2 sound.fresh
    · intro absent
      constructor
      · intro id quota found _
        have older := (sound.numbered id quota found).2
        rw [added]
        exact (get_insert _ _ _ _).trans ((if_neg (Nat.ne_of_gt older)).trans found)
      · intro quota answered
        rw [added] at answered
        cases answered
        refine ⟨rfl, rfl, rfl, rfl, ?_, fun _ => absent⟩
        rw [added]
        exact (get_insert _ _ _ _).trans (if_pos rfl)

lemma Sound.updatesOwn_iff (sound : context.Sound) (s : SNssai)
  (maxUes maxPduSessions : UInt64) (limits : AccessLimits) :
  context.UpdatesOwn s maxUes maxPduSessions limits ↔ context.OwnsQuota s := by
  cases resolved : context.quotaIdFor s with
  | some id =>
    rw [sound.updatesOwn_iff_of_resolved resolved, OwnsQuota, resolved]
    exact ⟨.inl, fun owns => owns.resolve_right fun shared => by cases shared.1⟩
  | none =>
    rw [sound.updatesOwn_iff_of_unresolved resolved, OwnsQuota, resolved]
    refine ⟨fun room => .inr ⟨rfl, room⟩, fun owns => ?_⟩
    rcases owns with own | ⟨-, room⟩
    · obtain ⟨id, leads⟩ := Option.isSome_iff_exists.mp own
      rw [quotaIdFor_eq, leads] at resolved
      cases resolved
    · exact room

end NsacfContext

/-- An admission of a UE in a slice, whatever happens next, and its release: no quota counts the
UE for the admission. -/
def ReleasedAfter (context : NsacfContext) (s : SNssai) (supi : String) (anType : AccessType)
  (id : ℕ) (next : List Operation) : Prop :=
  ∀ quota, ((nsacf.run (context.admitUe s supi anType).context next).releaseUe s
    supi).context.quotaFindById id = some quota → supi ∉ quota.ues.members

/-- The slice leads to the quota, or the quota is gone or does not count the UE. -/
def LedBack (context : NsacfContext) (s : SNssai) (supi : String) (id : ℕ) : Prop :=
  context.quotaIdFor s = some id ∨
    ∀ quota, context.quotaFindById id = some quota → supi ∉ quota.ues.members

lemma NsacfContext.Holds.ledBack {context : NsacfContext} {s : SNssai} {id : ℕ}
  (holds : context.Holds s id) (supi : String) : LedBack context s supi id := by
  rcases holds with ⟨gone, -⟩ | resolved
  · refine .inr fun quota found => ?_
    rw [gone] at found
    cases found
  · exact .inl resolved

/-- In every state that is reached, what a slice admits is released if and only if the slice is
led back to the quota; it is, if no quota is put before that one or taken from under it in
between.  And an update of ceilings changes the quota of its own S-NSSAI if and only if there is
one, or none to be found in its place. -/
theorem releases_and_updates (maxQuotas : ℕ) (eacThreshold : UInt8) (operations : List Operation) :
  (∀ s supi anType id next,
    (nsacf.run (.init maxQuotas eacThreshold) operations).quotaIdFor s = some id →
    (ReleasedAfter (nsacf.run (.init maxQuotas eacThreshold) operations) s supi anType id next ↔
      LedBack (nsacf.run ((nsacf.run (.init maxQuotas eacThreshold) operations).admitUe s supi
        anType).context next) s supi id) ∧
    (nsacf.Along (NsacfContext.KeepsResolution s id)
        ((nsacf.run (.init maxQuotas eacThreshold) operations).admitUe s supi anType).context
        next →
      ReleasedAfter (nsacf.run (.init maxQuotas eacThreshold) operations) s supi anType id
        next)) ∧
  ∀ s maxUes maxPduSessions limits,
    (nsacf.run (.init maxQuotas eacThreshold) operations).UpdatesOwn s maxUes maxPduSessions
        limits ↔
      (nsacf.run (.init maxQuotas eacThreshold) operations).OwnsQuota s := by
  have sound := NsacfContext.sound_run maxQuotas eacThreshold operations
  refine ⟨fun s supi anType id next resolved => ⟨?_, fun kept => ?_⟩, sound.updatesOwn_iff⟩
  · exact NsacfContext.notMem_releaseUe_iff _ s supi id
  · have admitted := sound.perform (.admitUe s supi anType)
    have holds : ((nsacf.run (.init maxQuotas eacThreshold) operations).admitUe s supi
        anType).context.Holds s id := NsacfContext.Holds.onQuota (.inr resolved) _ _ _
    refine (NsacfContext.notMem_releaseUe_iff _ s supi id).mpr ?_
    exact (NsacfContext.holds_run admitted holds kept).2.ledBack supi

/-- A slice with an SD is admitted by the quota of its SST, and then gets a quota of its own. -/
theorem not_releases : ¬(∀ operations s supi anType id next,
    (nsacf.run (.init 64 80) operations).quotaIdFor s = some id →
    ((nsacf.run (.init 64 80) operations).admitUe s supi anType).answer =
      .admission .admitted none →
    ReleasedAfter (nsacf.run (.init 64 80) operations) s supi anType id next) ∧
  ¬∀ operations s maxUes maxPduSessions limits,
    (nsacf.run (.init 64 80) operations).UpdatesOwn s maxUes maxPduSessions limits := by
  constructor
  · intro releases
    have counted := releases [.quotaAdd ⟨1, none⟩ 10 10 .default] ⟨1, some 5⟩ "imsi-1" .threeGpp 1
      [.quotaAdd ⟨1, some 5⟩ 10 10 .default] rfl rfl _ rfl
    exact counted (by decide)
  · intro updates
    have shared := ((updates [.quotaAdd ⟨1, none⟩ 10 10 .default] ⟨1, some 5⟩ 1 1 .default).own _
      rfl).1
    exact absurd shared (by decide)

/-- Another slice gets a quota while a UE is admitted. -/
theorem releases_beside_other_slice :
  ReleasedAfter (nsacf.run (.init 64 80) [.quotaAdd ⟨1, none⟩ 10 10 .default]) ⟨1, some 5⟩
    "imsi-1" .threeGpp 1 [.quotaAdd ⟨2, none⟩ 10 10 .default] :=
  ((releases_and_updates 64 80 [.quotaAdd ⟨1, none⟩ 10 10 .default]).1 ⟨1, some 5⟩ "imsi-1"
    .threeGpp 1 [.quotaAdd ⟨2, none⟩ 10 10 .default] rfl).2
    ⟨.inr (.inr ⟨by decide, by decide⟩), trivial⟩

end NextGCore.Nsacf
