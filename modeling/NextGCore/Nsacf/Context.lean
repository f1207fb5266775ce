import NextGCore.Library.Machine
import NextGCore.Library.Members

/-!
# The context of the NSACF

`context.rs`: the quotas of the slices, the index by S-NSSAI, and the operations that admit,
release and move UEs and PDU sessions.  A hash map is the list of its entries.
-/

namespace NextGCore.Nsacf

open Library Members

structure SNssai where
  sst : UInt8
  sd : Option UInt32
  deriving DecidableEq

def SNssai.wide (s : SNssai) : SNssai := ⟨s.sst, none⟩

inductive AccessType where
  | threeGpp
  | nonThreeGpp
  deriving DecidableEq

namespace AccessType

def fromAnType (text : Option String) : AccessType :=
  if text = some "NON_3GPP_ACCESS" then nonThreeGpp else threeGpp

def asStr : AccessType → String
  | threeGpp => "3GPP_ACCESS"
  | nonThreeGpp => "NON_3GPP_ACCESS"

@[simp] lemma fromAnType_asStr (access : AccessType) :
  fromAnType (some access.asStr) = access := by
  cases access <;> rfl

lemma eq_threeGpp_or (access : AccessType) : access = threeGpp ∨ access = nonThreeGpp := by
  cases access
  · exact .inl rfl
  · exact .inr rfl

end AccessType

structure AccessLimits where
  maxUes3gpp : Option UInt64
  maxUesN3gpp : Option UInt64
  maxPdu3gpp : Option UInt64
  maxPduN3gpp : Option UInt64

def AccessLimits.default : AccessLimits := ⟨none, none, none, none⟩

structure EacTransition where
  sNssai : SNssai
  activated : Bool

inductive ReleaseOutcome where
  | released (eac : Option EacTransition)
  | memberAbsent
  | sliceNotFound

inductive UpdateOutcome where
  | updated
  | notFound

inductive AdmissionResult where
  | admitted
  | rejectedQuotaExceeded
  | rejectedQuotaExceededPerAccess (access : AccessType)
  | rejectedSliceNotAvailable
  deriving DecidableEq

abbrev Enrolment := Roster String AccessType

structure SliceQuota where
  id : ℕ
  sNssai : SNssai
  maxUes : UInt64
  maxPduSessions : UInt64
  limits : AccessLimits
  /-- `ues` and `ue_access`. -/
  ues : Enrolment
  /-- `pdu_sessions` and `pdu_access`. -/
  pduSessions : Enrolment
  eacActive : Bool

namespace SliceQuota

def new (id : ℕ) (sNssai : SNssai) (maxUes maxPduSessions : UInt64) : SliceQuota where
  id := id
  sNssai := sNssai
  maxUes := maxUes
  maxPduSessions := maxPduSessions
  limits := .default
  ues := .empty
  pduSessions := .empty
  eacActive := false

def withAccessLimits (quota : SliceQuota) (limits : AccessLimits) : SliceQuota :=
  { quota with limits := limits }

variable (quota : SliceQuota)

def currentUes : ℕ := quota.ues.members.length

def currentPduSessions : ℕ := quota.pduSessions.members.length

def currentUesAccess (access : AccessType) : ℕ := quota.ues.countOf access

def currentPduAccess (access : AccessType) : ℕ := quota.pduSessions.countOf access

def maxUesFor : AccessType → Option UInt64
  | .threeGpp => quota.limits.maxUes3gpp
  | .nonThreeGpp => quota.limits.maxUesN3gpp

def maxPduFor : AccessType → Option UInt64
  | .threeGpp => quota.limits.maxPdu3gpp
  | .nonThreeGpp => quota.limits.maxPduN3gpp

end SliceQuota

def updateEac (quota : SliceQuota) (thresholdPercent : UInt8) :
  SliceQuota × Option EacTransition :=
  if quota.maxUes = 0 then (quota, none)
  else
    let shouldBeActive :=
      decide (quota.maxUes * thresholdPercent.toUInt64 ≤ UInt64.ofNat quota.currentUes * 100)
    if shouldBeActive ≠ quota.eacActive then
      ({ quota with eacActive := shouldBeActive }, some ⟨quota.sNssai, shouldBeActive⟩)
    else (quota, none)

lemma SliceQuota.exists_updateEac (quota : SliceQuota) (threshold : UInt8) :
  ∃ flag, (updateEac quota threshold).1 = { quota with eacActive := flag } := by
  unfold updateEac
  split
  · exact ⟨_, rfl⟩
  · dsimp only
    split
    · exact ⟨_, rfl⟩
    · exact ⟨_, rfl⟩

namespace Enrolment

variable (enrolment : Enrolment)

/-- What both kinds of admission do: the aggregate is checked first, and a member is counted
already. -/
def admitMember (maximum : UInt64) (ceiling : Option UInt64) (who : String) (anType : AccessType) :
  AdmissionResult × Option Enrolment :=
  if who ∈ enrolment.members then (.admitted, none)
  else if maximum.toNat ≤ enrolment.members.length then (.rejectedQuotaExceeded, none)
  else if ceiling.any fun ceiling => ceiling.toNat ≤ enrolment.countOf anType then
    (.rejectedQuotaExceededPerAccess anType, none)
  else (.admitted, some (enrolment.enrol who anType))

def release (who : String) : Option Enrolment :=
  if who ∈ enrolment.members then some (enrolment.strike who) else none

def move (who : String) (newAccess : AccessType) : Option (Enrolment × Bool) :=
  if who ∈ enrolment.members then
    some (enrolment.relabel who newAccess, Members.get enrolment.labels who ≠ some newAccess)
  else none

end Enrolment

inductive Answer where
  | quota (quota : Option SliceQuota)
  | removed (existed : Bool)
  | admission (result : AdmissionResult) (eac : Option EacTransition)
  | release (outcome : ReleaseOutcome)
  | update (outcome : UpdateOutcome)

/-- A quota after an operation on it, the answer, and whether the state is saved. -/
structure Change where
  quota : SliceQuota
  answer : Answer
  saves : Bool

namespace SliceQuota

variable (quota : SliceQuota)

def admitUe (threshold : UInt8) (supi : String) (anType : AccessType) : Change :=
  match quota.ues.admitMember quota.maxUes (quota.maxUesFor anType) supi anType with
  | (result, none) => ⟨quota, .admission result none, result = .admitted⟩
  | (result, some ues) =>
    let (quota, eac) := updateEac { quota with ues := ues } threshold
    ⟨quota, .admission result eac, true⟩

def releaseUe (threshold : UInt8) (supi : String) : Change :=
  match quota.ues.release supi with
  | none => ⟨quota, .release .memberAbsent, false⟩
  | some ues =>
    let (quota, eac) := updateEac { quota with ues := ues } threshold
    ⟨quota, .release (.released eac), true⟩

def updateUeAccess (supi : String) (newAccess : AccessType) : Change :=
  match quota.ues.move supi newAccess with
  | none => ⟨quota, .update .notFound, false⟩
  | some (ues, changed) => ⟨{ quota with ues := ues }, .update .updated, changed⟩

def admitPduSession (sessionKey : String) (anType : AccessType) : Change :=
  match quota.pduSessions.admitMember quota.maxPduSessions (quota.maxPduFor anType) sessionKey
      anType with
  | (result, none) => ⟨quota, .admission result none, result = .admitted⟩
  | (result, some pduSessions) =>
    ⟨{ quota with pduSessions := pduSessions }, .admission result none, true⟩

def releasePduSession (sessionKey : String) : Change :=
  match quota.pduSessions.release sessionKey with
  | none => ⟨quota, .release .memberAbsent, false⟩
  | some pduSessions =>
    ⟨{ quota with pduSessions := pduSessions }, .release (.released none), true⟩

def updatePduAccess (sessionKey : String) (newAccess : AccessType) : Change :=
  match quota.pduSessions.move sessionKey newAccess with
  | none => ⟨quota, .update .notFound, false⟩
  | some (pduSessions, changed) =>
    ⟨{ quota with pduSessions := pduSessions }, .update .updated, changed⟩

end SliceQuota

structure NsacfContext where
  quotaList : List (ℕ × SliceQuota)
  snssaiHash : List (SNssai × ℕ)
  nextQuotaId : ℕ
  maxQuotas : ℕ
  eacThreshold : UInt8

/-- The context after an operation, the answer, and whether the state is saved. -/
structure Outcome where
  context : NsacfContext
  answer : Answer
  saves : Bool

namespace NsacfContext

def init (maxQuotas : ℕ) (eacThreshold : UInt8) : NsacfContext where
  quotaList := []
  snssaiHash := []
  nextQuotaId := 1
  maxQuotas := maxQuotas
  eacThreshold := eacThreshold

variable (context : NsacfContext)

def quotaFindById (id : ℕ) : Option SliceQuota := Members.get context.quotaList id

variable {context} in
lemma get_insert_quotaList {id : ℕ} {quota : SliceQuota} (other : ℕ) :
  Members.get (insert context.quotaList id quota) other =
    if id = other then some quota else context.quotaFindById other :=
  get_insert _ _ _ _

def quotaIdFor (s : SNssai) : Option ℕ :=
  match Members.get context.snssaiHash s with
  | some id => some id
  | none => if s.sd.isSome then Members.get context.snssaiHash s.wide else none

def quotaAddWithLimits (s : SNssai) (maxUes maxPduSessions : UInt64) (limits : AccessLimits) :
  Outcome :=
  if context.maxQuotas ≤ context.quotaList.length then ⟨context, .quota none, false⟩
  else
    let id := context.nextQuotaId
    let quota := (SliceQuota.new id s maxUes maxPduSessions).withAccessLimits limits
    ⟨{ context with
        quotaList := insert context.quotaList id quota
        snssaiHash := insert context.snssaiHash s id
        nextQuotaId := id + 1 }, .quota (some quota), true⟩

def quotaAdd (s : SNssai) (maxUes maxPduSessions : UInt64) : Outcome :=
  context.quotaAddWithLimits s maxUes maxPduSessions .default

def onQuota (s : SNssai) (missing : Answer) (change : SliceQuota → Change) : Outcome :=
  match context.quotaIdFor s with
  | none => ⟨context, missing, false⟩
  | some id =>
    match context.quotaFindById id with
    | none => ⟨context, missing, false⟩
    | some quota =>
      let changed := change quota
      ⟨{ context with quotaList := insert context.quotaList id changed.quota },
        changed.answer, changed.saves⟩

/-- The quota that an S-NSSAI leads to meets the condition, if there is one. -/
def OnQuota (s : SNssai) (condition : SliceQuota → Prop) : Prop :=
  ∀ id quota, context.quotaIdFor s = some id → context.quotaFindById id = some quota →
    condition quota

lemma onQuota_cases (s : SNssai) (missing : Answer) (change : SliceQuota → Change) :
  ((∀ id quota, context.quotaIdFor s = some id → context.quotaFindById id ≠ some quota) ∧
      context.onQuota s missing change = ⟨context, missing, false⟩) ∨
    ∃ id quota, context.quotaIdFor s = some id ∧ context.quotaFindById id = some quota ∧
      context.onQuota s missing change =
        ⟨{ context with quotaList := insert context.quotaList id (change quota).quota },
          (change quota).answer, (change quota).saves⟩ := by
  unfold onQuota
  cases resolved : context.quotaIdFor s with
  | none => exact .inl ⟨fun _ _ leads => (by cases leads), rfl⟩
  | some id =>
    cases found : context.quotaFindById id with
    | none =>
      refine .inl ⟨fun other quota leads => ?_, by simp only [found]⟩
      cases leads
      rw [found]
      exact Option.some_ne_none quota |>.symm
    | some quota => exact .inr ⟨id, quota, rfl, found, by simp only [found]⟩

def quotaUpdateOrAdd (s : SNssai) (maxUes maxPduSessions : UInt64) (limits : AccessLimits) :
  Outcome :=
  if (context.quotaIdFor s).isSome then
    context.onQuota s (.quota none) fun quota =>
      let quota :=
        { quota with maxUes := maxUes, maxPduSessions := maxPduSessions, limits := limits }
      ⟨quota, .quota (some quota), true⟩
  else context.quotaAddWithLimits s maxUes maxPduSessions limits

def quotaRemove (id : ℕ) : Outcome :=
  match context.quotaFindById id with
  | none => ⟨context, .removed false, false⟩
  | some quota =>
    ⟨{ context with
        quotaList := remove context.quotaList id
        snssaiHash := remove context.snssaiHash quota.sNssai }, .removed true, true⟩

def admitUe (s : SNssai) (supi : String) (anType : AccessType) : Outcome :=
  context.onQuota s (.admission .rejectedSliceNotAvailable none) fun quota =>
    quota.admitUe context.eacThreshold supi anType

def releaseUe (s : SNssai) (supi : String) : Outcome :=
  context.onQuota s (.release .sliceNotFound) fun quota =>
    quota.releaseUe context.eacThreshold supi

def updateUeAccess (s : SNssai) (supi : String) (newAccess : AccessType) : Outcome :=
  context.onQuota s (.update .notFound) fun quota => quota.updateUeAccess supi newAccess

def admitPduSession (s : SNssai) (sessionKey : String) (anType : AccessType) : Outcome :=
  context.onQuota s (.admission .rejectedSliceNotAvailable none) fun quota =>
    quota.admitPduSession sessionKey anType

def releasePduSession (s : SNssai) (sessionKey : String) : Outcome :=
  context.onQuota s (.release .sliceNotFound) fun quota => quota.releasePduSession sessionKey

def updatePduAccess (s : SNssai) (sessionKey : String) (newAccess : AccessType) : Outcome :=
  context.onQuota s (.update .notFound) fun quota => quota.updatePduAccess sessionKey newAccess

end NsacfContext

inductive Operation where
  | quotaAdd (s : SNssai) (maxUes maxPduSessions : UInt64) (limits : AccessLimits)
  | quotaUpdateOrAdd (s : SNssai) (maxUes maxPduSessions : UInt64) (limits : AccessLimits)
  | quotaRemove (id : ℕ)
  | admitUe (s : SNssai) (supi : String) (anType : AccessType)
  | releaseUe (s : SNssai) (supi : String)
  | updateUeAccess (s : SNssai) (supi : String) (newAccess : AccessType)
  | admitPduSession (s : SNssai) (sessionKey : String) (anType : AccessType)
  | releasePduSession (s : SNssai) (sessionKey : String)
  | updatePduAccess (s : SNssai) (sessionKey : String) (newAccess : AccessType)

def NsacfContext.perform (context : NsacfContext) : Operation → Outcome
  | .quotaAdd s maxUes maxPduSessions limits =>
    context.quotaAddWithLimits s maxUes maxPduSessions limits
  | .quotaUpdateOrAdd s maxUes maxPduSessions limits =>
    context.quotaUpdateOrAdd s maxUes maxPduSessions limits
  | .quotaRemove id => context.quotaRemove id
  | .admitUe s supi anType => context.admitUe s supi anType
  | .releaseUe s supi => context.releaseUe s supi
  | .updateUeAccess s supi newAccess => context.updateUeAccess s supi newAccess
  | .admitPduSession s sessionKey anType => context.admitPduSession s sessionKey anType
  | .releasePduSession s sessionKey => context.releasePduSession s sessionKey
  | .updatePduAccess s sessionKey newAccess => context.updatePduAccess s sessionKey newAccess

def nsacf : Machine NsacfContext Operation Answer where
  step context operation :=
    let outcome := context.perform operation
    (outcome.context, outcome.answer)

end NextGCore.Nsacf
