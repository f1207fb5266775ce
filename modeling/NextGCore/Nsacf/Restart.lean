import NextGCore.Nsacf.SnssaiIndex
import NextGCore.Sbi.Json

/-!
# Persistence and restarts
-/

namespace NextGCore.Nsacf

open Library Sbi List Option Json Members

def ofOptionNat : Option ℕ → Json
  | none => .null
  | some value => .ofNat value

def ofOptionU64 (value : Option UInt64) : Json := ofOptionNat (value.map UInt64.toNat)

def accessDocument (access : List (String × AccessType)) : Json :=
  .object (collect (access.map fun entry => (entry.1, .string entry.2.asStr)))

def quotaDocument (quota : SliceQuota) : Json :=
  .object [("id", .ofNat quota.id), ("sst", .ofNat quota.sNssai.sst.toNat),
      ("sd", ofOptionNat (quota.sNssai.sd.map UInt32.toNat)),
      ("maxUes", .ofNat quota.maxUes.toNat),
      ("maxPduSessions", .ofNat quota.maxPduSessions.toNat),
      ("maxUes3gpp", ofOptionU64 quota.limits.maxUes3gpp),
      ("maxUesN3gpp", ofOptionU64 quota.limits.maxUesN3gpp),
      ("maxPdu3gpp", ofOptionU64 quota.limits.maxPdu3gpp),
      ("maxPduN3gpp", ofOptionU64 quota.limits.maxPduN3gpp),
      ("ues", .array (quota.ues.members.map .string)),
      ("pduSessions", .array (quota.pduSessions.members.map .string)),
      ("uesAccess", accessDocument quota.ues.labels),
      ("pduSessionsAccess", accessDocument quota.pduSessions.labels),
      ("eacActive", .bool quota.eacActive)]

/-- The document of `save_state`, for the order in which the map lists its quotas. -/
def stateDocument (nextQuotaId : ℕ) (quotas : List SliceQuota) : Json :=
  .object [("nextQuotaId", .ofNat nextQuotaId), ("quotas", .array (quotas.map quotaDocument))]

def WrittenAs (context : NsacfContext) (document : Json) : Prop :=
  ∃ quotas, quotas.Perm (context.quotaList.map Prod.snd) ∧
    document = stateDocument context.nextQuotaId quotas

def asArray : Json → Option (List Json)
  | .array items => some items
  | _ => none

def asBool : Json → Option Bool
  | .bool value => some value
  | _ => none

def asObject : Json → Option (List (String × Json))
  | .object members => some members
  | _ => none

section Read

variable (value : Json)

def getU64 (name : String) : Option ℕ := (value.get name).bind asU64

def names (name : String) : List String :=
  (((value.get name).bind asArray).getD []).filterMap asStr |>.dedup

def accessOf (name : String) (who : String) : AccessType :=
  match (((value.get name).bind asObject).bind fun members => members.lookup who).bind
    asStr with
  | some text => .fromAnType (some text)
  | none => .threeGpp

def readEnrolment (members access : String) : Enrolment where
  members := names value members
  labels := (names value members).map fun who => (who, accessOf value access who)

def readQuota : Option SliceQuota := do
  let id ← getU64 value "id"
  let sst ← getU64 value "sst"
  let maxUes ← getU64 value "maxUes"
  let maxPdu ← getU64 value "maxPduSessions"
  return {
    id := id
    sNssai := ⟨UInt8.ofNat sst, (getU64 value "sd").map UInt32.ofNat⟩
    maxUes := UInt64.ofNat maxUes
    maxPduSessions := UInt64.ofNat maxPdu
    limits :=
      { maxUes3gpp := (getU64 value "maxUes3gpp").map UInt64.ofNat
        maxUesN3gpp := (getU64 value "maxUesN3gpp").map UInt64.ofNat
        maxPdu3gpp := (getU64 value "maxPdu3gpp").map UInt64.ofNat
        maxPduN3gpp := (getU64 value "maxPduN3gpp").map UInt64.ofNat }
    ues := readEnrolment value "ues" "uesAccess"
    pduSessions := readEnrolment value "pduSessions" "pduSessionsAccess"
    eacActive := ((value.get "eacActive").bind asBool).getD false }

end Read

def NsacfContext.restoreQuota (context : NsacfContext) (quota : SliceQuota) : NsacfContext :=
  { context with
    quotaList := insert context.quotaList quota.id quota
    snssaiHash := insert context.snssaiHash quota.sNssai quota.id }

def NsacfContext.loadState (context : NsacfContext) : Option Json → NsacfContext
  | none => context
  | some document =>
    let restored := ((((document.get "quotas").bind asArray).getD []).filterMap readQuota).foldl
      restoreQuota context
    { restored with
      nextQuotaId := ((document.get "nextQuotaId").bind asU64).getD restored.nextQuotaId }

structure Process where
  context : NsacfContext
  /-- The copies that are still to be written, in the order of the snapshots. -/
  pending : List NsacfContext
  file : Option NsacfContext

inductive PersistenceInput where
  | operate (operation : Operation)
  | complete (index : ℕ)

def persistence : Machine Process PersistenceInput (Option Answer) where
  step process input :=
    match input with
    | .operate operation =>
      let outcome := process.context.perform operation
      ({ process with
          context := outcome.context
          pending := if outcome.saves then process.pending ++ [outcome.context]
            else process.pending }, some outcome.answer)
    | .complete index =>
      match process.pending[index]? with
      | none => (process, none)
      | some copy =>
        ({ process with pending := process.pending.eraseIdx index, file := some copy }, none)

/-!
## The NSACF across a restart

A context whose slices have one quota each is restored from its document as it was.  The file has
the document of the context in the end if no write of an outdated copy is the last one.
-/

variable {Value : Type} {enrolment : Enrolment}

structure SameEnrolment (enrolment restored : Enrolment) : Prop where
  members : ∀ name, name ∈ restored.members ↔ name ∈ enrolment.members
  access : ∀ name, Members.get restored.labels name = Members.get enrolment.labels name

structure SameQuota (quota restored : SliceQuota) : Prop where
  id : restored.id = quota.id
  sNssai : restored.sNssai = quota.sNssai
  maxUes : restored.maxUes = quota.maxUes
  maxPduSessions : restored.maxPduSessions = quota.maxPduSessions
  limits : restored.limits = quota.limits
  ues : SameEnrolment quota.ues restored.ues
  pduSessions : SameEnrolment quota.pduSessions restored.pduSessions
  eacActive : restored.eacActive = quota.eacActive

/-- The same quotas under the same numbers and S-NSSAIs, and new numbers from then on. -/
structure Survives (context restored : NsacfContext) : Prop where
  quotas : ∀ id, Option.Rel SameQuota (context.quotaFindById id) (restored.quotaFindById id)
  index : ∀ s, Members.get restored.snssaiHash s = Members.get context.snssaiHash s
  newNumbers : ∀ id quota count, restored.quotaFindById id = some quota →
    id ≠ restored.nextQuotaId + count

lemma Survives.counts_same {context restored : NsacfContext}
  (survives : Survives context restored) (id : ℕ) (supi : String) :
  (restored.quotaFindById id).any (fun quota => quota.ues.members.contains supi) =
    (context.quotaFindById id).any fun quota => quota.ues.members.contains supi := by
  have same := survives.quotas id
  generalize context.quotaFindById id = before, restored.quotaFindById id = after at same
  cases same with
  | none => rfl
  | some same =>
    rw [any_some, any_some, Bool.eq_iff_iff, contains_iff_mem, contains_iff_mem]
    exact same.ues.members supi

lemma getU64_ofOptionNat {value : Option ℕ} (small : ∀ n, value = some n → n < 2 ^ 64) :
  (ofOptionNat value).asU64 = value := by
  cases value with
  | none => rfl
  | some n => exact asU64_ofNat (small n rfl)

lemma asU64_ofOptionU64 (value : Option UInt64) :
  (ofOptionU64 value).asU64.map UInt64.ofNat = value := by
  rw [ofOptionU64, getU64_ofOptionNat]
  · cases value with
    | none => rfl
    | some value => exact congrArg some UInt64.ofNat_toNat
  · intro n isValue
    obtain ⟨value, -, rfl⟩ := map_eq_some_iff.mp isValue
    exact value.toNat_lt

lemma lookup_eq_get (members : List (String × Json)) (name : String) :
  members.lookup name = Members.get members name := by
  induction members with
  | nil => rfl
  | cons first rest ih =>
    rw [lookup_cons, Members.get, ih]
    by_cases same : first.1 = name
    · rw [if_pos same, same, beq_self_eq_true]
    · rw [if_neg same, beq_eq_false_iff_ne.mpr (Ne.symm same)]

lemma get_map_value {Other : Type} (entries : List (String × Value)) (write : Value → Other)
  (name : String) :
  Members.get (entries.map fun entry => (entry.1, write entry.2)) name =
    (Members.get entries name).map write := by
  induction entries with
  | nil => rfl
  | cons first rest ih =>
    rw [map_cons, Members.get, Members.get, ih]
    split <;> rfl

lemma get_map_names (names : List String) (read : String → Value) (name : String) :
  Members.get (names.map fun who => (who, read who)) name =
    if name ∈ names then some (read name) else none := by
  induction names with
  | nil => rfl
  | cons first rest ih =>
    rw [map_cons, Members.get, ih]
    by_cases same : first = name
    · subst same
      simp
    · simp [same, Ne.symm same]

lemma sameEnrolment_read (inStep : enrolment.InStep) {value : Json} {members access : String}
  (membersAt : value.get members = some (.array (enrolment.members.map .string)))
  (accessAt : value.get access = some (accessDocument enrolment.labels)) :
  SameEnrolment enrolment (readEnrolment value members access) := by
  have read : names value members = enrolment.members := by
    have texts : (enrolment.members.map string).filterMap asStr = enrolment.members := by
      rw [filterMap_map]
      exact (filterMap_eq_map_iff_forall_eq_some.mpr fun _ _ => rfl).trans (List.map_id _)
    rw [names, membersAt]
    exact (congrArg dedup texts).trans inStep.members.dedup
  refine ⟨fun name => by rw [readEnrolment, read], fun name => ?_⟩
  rw [readEnrolment, read, get_map_names]
  by_cases isMember : name ∈ enrolment.members
  · obtain ⟨label, held⟩ := inStep.get_of_mem isMember
    have distinct : (Members.keys (enrolment.labels.map fun entry =>
        (entry.1, string entry.2.asStr))).Nodup := by
      rw [Members.keys, List.map_map]
      exact inStep.labels
    have stored : (((value.get access).bind asObject).bind fun members =>
        members.lookup name).bind asStr = some label.asStr := by
      rw [accessAt, accessDocument, collect_of_nodup distinct]
      simp only [bind_some, asObject, lookup_eq_get]
      rw [get_map_value enrolment.labels fun access => string access.asStr, held]
      rfl
    rw [if_pos isMember, held, accessOf, stored]
    exact congrArg some (AccessType.fromAnType_asStr label)
  · have unlabelled : name ∉ Members.keys enrolment.labels :=
      fun there => isMember ((inStep.same name).mp there)
    rw [if_neg isMember, get_of_notMem unlabelled]

lemma exists_readQuota {quota : SliceQuota} (enrolled : quota.Enrolled)
  (small : quota.id < 2 ^ 64) :
  ∃ restored, readQuota (quotaDocument quota) = some restored ∧ SameQuota quota restored := by
  have id : getU64 (quotaDocument quota) "id" = some quota.id := asU64_ofNat small
  have sst : getU64 (quotaDocument quota) "sst" = some quota.sNssai.sst.toNat :=
    asU64_ofNat (quota.sNssai.sst.toNat_lt.trans (by decide))
  have maxUes : getU64 (quotaDocument quota) "maxUes" = some quota.maxUes.toNat :=
    asU64_ofNat quota.maxUes.toNat_lt
  have maxPdu : getU64 (quotaDocument quota) "maxPduSessions" = some quota.maxPduSessions.toNat :=
    asU64_ofNat quota.maxPduSessions.toNat_lt
  have sd : (getU64 (quotaDocument quota) "sd").map UInt32.ofNat = quota.sNssai.sd := by
    have read : getU64 (quotaDocument quota) "sd" = quota.sNssai.sd.map UInt32.toNat := by
      refine getU64_ofOptionNat fun n isValue => ?_
      obtain ⟨value, -, rfl⟩ := map_eq_some_iff.mp isValue
      exact value.toNat_lt.trans (by decide)
    rw [read]
    cases quota.sNssai.sd with
    | none => rfl
    | some value => exact congrArg some UInt32.ofNat_toNat
  refine ⟨_, by simp only [readQuota, id, sst, maxUes, maxPdu, bind_eq_bind,
    bind_some]; rfl, ?_⟩
  constructor
  · rfl
  · change SNssai.mk _ _ = _
    rw [sd, UInt8.ofNat_toNat]
  · exact UInt64.ofNat_toNat
  · exact UInt64.ofNat_toNat
  · change AccessLimits.mk _ _ _ _ = _
    congr 1 <;> exact asU64_ofOptionU64 _
  · exact sameEnrolment_read enrolled.1 rfl rfl
  · exact sameEnrolment_read enrolled.2 rfl rfl
  · rfl

namespace NsacfContext

/-- The index leads to every quota, so that no two of them have one S-NSSAI; and the numbers are
of 64 bits. -/
structure Restorable (context : NsacfContext) : Prop where
  sound : context.Sound
  single : ∀ id quota, context.quotaFindById id = some quota →
    Members.get context.snssaiHash quota.sNssai = some id
  small : context.nextQuotaId < 2 ^ 64

variable {context : NsacfContext}

lemma restoreQuota_foldl (quotas : List SliceQuota) (context : NsacfContext) :
  (quotas.foldl restoreQuota context).quotaList =
      (quotas.map fun quota => (quota.id, quota)).foldl
        (fun built entry => insert built entry.1 entry.2) context.quotaList ∧
    (quotas.foldl restoreQuota context).snssaiHash =
      (quotas.map fun quota => (quota.sNssai, quota.id)).foldl
        (fun built entry => insert built entry.1 entry.2) context.snssaiHash := by
  induction quotas generalizing context with
  | nil => exact ⟨rfl, rfl⟩
  | cons quota rest ih => exact ih (context.restoreQuota quota)

lemma Restorable.mem_iff (restorable : context.Restorable) {quota : SliceQuota} :
  quota ∈ context.quotaList.map Prod.snd ↔ context.quotaFindById quota.id = some quota := by
  rw [quotaFindById, get_eq_some_iff restorable.sound.quotaKeys, List.mem_map]
  constructor
  · rintro ⟨⟨id, stored⟩, isEntry, rfl⟩
    have found := (get_eq_some_iff restorable.sound.quotaKeys).mpr isEntry
    rw [(restorable.sound.numbered id stored found).1]
    exact isEntry
  · exact fun isEntry => ⟨_, isEntry, rfl⟩

lemma Restorable.nodup_quotas (restorable : context.Restorable) :
  (context.quotaList.map Prod.snd).Nodup := by
  have entries : context.quotaList.Nodup := Nodup.of_map Prod.fst restorable.sound.quotaKeys
  refine entries.map_on fun first isFirst second isSecond same => ?_
  have foundFirst := (get_eq_some_iff restorable.sound.quotaKeys).mpr isFirst
  have foundSecond := (get_eq_some_iff restorable.sound.quotaKeys).mpr isSecond
  refine Prod.ext ?_ same
  rw [← (restorable.sound.numbered _ _ foundFirst).1, same,
    (restorable.sound.numbered _ _ foundSecond).1]

def restored (quota : SliceQuota) : SliceQuota :=
  (readQuota (quotaDocument quota)).getD quota

lemma loadState_eq {quotas : List SliceQuota} {nextQuotaId : ℕ} (small : nextQuotaId < 2 ^ 64)
  (read : ∀ quota ∈ quotas, readQuota (quotaDocument quota) = some (restored quota))
  (ids : (quotas.map fun quota => (restored quota).id).Nodup)
  (slices : (quotas.map fun quota => (restored quota).sNssai).Nodup) (maxQuotas : ℕ)
  (eacThreshold : UInt8) {loaded : NsacfContext}
  (isLoaded : (init maxQuotas eacThreshold).loadState
    (some (stateDocument nextQuotaId quotas)) = loaded) :
  loaded.quotaList = quotas.map (fun quota => ((restored quota).id, restored quota)) ∧
    loaded.snssaiHash = quotas.map (fun quota => ((restored quota).sNssai, (restored quota).id)) ∧
    loaded.nextQuotaId = nextQuotaId := by
  have all : (quotas.map quotaDocument).filterMap readQuota = quotas.map restored := by
    rw [filterMap_map]
    exact filterMap_eq_map_iff_forall_eq_some.mpr read
  have number : (Json.ofNat nextQuotaId).asU64 = some nextQuotaId := asU64_ofNat small
  obtain ⟨list, hash⟩ := restoreQuota_foldl (quotas.map restored) (init maxQuotas eacThreshold)
  rw [List.map_map] at list hash
  subst isLoaded
  refine ⟨?_, ?_, ?_⟩
  · change (((quotas.map quotaDocument).filterMap readQuota).foldl restoreQuota
      (init maxQuotas eacThreshold)).quotaList = _
    rw [all, list]
    refine collect_of_nodup ?_
    rw [Members.keys, List.map_map]
    exact ids
  · change (((quotas.map quotaDocument).filterMap readQuota).foldl restoreQuota
      (init maxQuotas eacThreshold)).snssaiHash = _
    rw [all, hash]
    refine collect_of_nodup ?_
    rw [Members.keys, List.map_map]
    exact slices
  · change (Json.ofNat nextQuotaId).asU64.getD _ = _
    rw [number, getD_some]

lemma Restorable.survives (restorable : context.Restorable) {document : Json}
  (written : WrittenAs context document) (maxQuotas : ℕ) (eacThreshold : UInt8) :
  Survives context ((init maxQuotas eacThreshold).loadState (some document)) := by
  obtain ⟨quotas, perm, rfl⟩ := written
  have found {quota : SliceQuota} (isIn : quota ∈ quotas) :
      context.quotaFindById quota.id = some quota :=
    restorable.mem_iff.mp (perm.mem_iff.mp isIn)
  have read (quota : SliceQuota) (isIn : quota ∈ quotas) :
      readQuota (quotaDocument quota) = some (restored quota) ∧
        SameQuota quota (restored quota) := by
    have issued := (restorable.sound.numbered _ _ (found isIn)).2
    obtain ⟨back, isRead, same⟩ := exists_readQuota (restorable.sound.enrolled _ _ (found isIn))
      (issued.trans restorable.small)
    have isBack : restored quota = back := by rw [restored, isRead, getD_some]
    exact isBack ▸ ⟨isRead, same⟩
  have distinct : quotas.Nodup := perm.nodup_iff.mpr restorable.nodup_quotas
  have ids : (quotas.map fun quota => (restored quota).id).Nodup := by
    refine distinct.map_on fun first isFirst second isSecond same => ?_
    rw [(read first isFirst).2.id, (read second isSecond).2.id] at same
    exact Option.some.inj ((found isFirst).symm.trans (same ▸ found isSecond))
  have slices : (quotas.map fun quota => (restored quota).sNssai).Nodup := by
    refine distinct.map_on fun first isFirst second isSecond same => ?_
    rw [(read first isFirst).2.sNssai, (read second isSecond).2.sNssai] at same
    have one := restorable.single _ _ (found isFirst)
    rw [same, restorable.single _ _ (found isSecond)] at one
    exact Option.some.inj ((found isFirst).symm.trans (Option.some.inj one ▸ found isSecond))
  obtain ⟨list, hash, next⟩ := loadState_eq restorable.small
    (fun quota isIn => (read quota isIn).1) ids slices maxQuotas eacThreshold rfl
  have lookups (id : ℕ) (back : SliceQuota) :
      ((init maxQuotas eacThreshold).loadState (some (stateDocument context.nextQuotaId
        quotas))).quotaFindById id = some back ↔
        ∃ quota, context.quotaFindById id = some quota ∧ restored quota = back := by
    rw [quotaFindById, list,
      get_eq_some_iff (by rw [Members.keys, List.map_map]; exact ids), List.mem_map]
    constructor
    · rintro ⟨quota, isIn, same⟩
      cases same
      rw [(read quota isIn).2.id]
      exact ⟨quota, found isIn, rfl⟩
    · rintro ⟨quota, there, rfl⟩
      have number := (restorable.sound.numbered id quota there).1
      have isIn := perm.mem_iff.mpr (restorable.mem_iff.mpr (number.symm ▸ there))
      exact ⟨quota, isIn, by rw [(read quota isIn).2.id, number]⟩
  constructor
  · intro id
    cases there : context.quotaFindById id with
    | none =>
      cases back : ((init maxQuotas eacThreshold).loadState (some (stateDocument
          context.nextQuotaId quotas))).quotaFindById id with
      | none => exact .none
      | some quota =>
        obtain ⟨stored, stored', -⟩ := (lookups id quota).mp back
        rw [there] at stored'
        cases stored'
    | some quota =>
      have number := (restorable.sound.numbered id quota there).1
      have isIn := perm.mem_iff.mpr (restorable.mem_iff.mpr (number.symm ▸ there))
      rw [(lookups id _).mpr ⟨quota, there, rfl⟩]
      exact .some (read quota isIn).2
  · intro s
    refine ext fun id => ?_
    rw [hash, get_eq_some_iff (by rw [Members.keys, List.map_map]; exact slices),
      List.mem_map]
    constructor
    · rintro ⟨quota, isIn, same⟩
      cases same
      rw [(read quota isIn).2.id, (read quota isIn).2.sNssai]
      exact restorable.single _ _ (found isIn)
    · intro leads
      obtain ⟨quota, there, named⟩ := restorable.sound.leads s id leads
      have number := (restorable.sound.numbered id quota there).1
      have isIn := perm.mem_iff.mpr (restorable.mem_iff.mpr (number.symm ▸ there))
      exact ⟨quota, isIn, by rw [(read quota isIn).2.id, (read quota isIn).2.sNssai, named, number]⟩
  · intro id quota count back
    obtain ⟨stored, there, -⟩ := (lookups id quota).mp back
    have issued := (restorable.sound.numbered id stored there).2
    rw [next]
    omega

/-- A quota is added for an S-NSSAI that has none, and there is a number left for it. -/
def KeepsSingle (context : NsacfContext) : Operation → Prop
  | .quotaAdd s _ _ _ => context.maxQuotas ≤ context.quotaList.length ∨
      Members.get context.snssaiHash s = none ∧ context.nextQuotaId + 1 < 2 ^ 64
  | .quotaUpdateOrAdd s _ _ _ => context.quotaIdFor s = none →
      context.maxQuotas ≤ context.quotaList.length ∨ context.nextQuotaId + 1 < 2 ^ 64
  | _ => True

section

variable (restorable : context.Restorable)

include restorable

lemma Restorable.quotaAddWithLimits {s : SNssai} (maxUes maxPduSessions : UInt64)
  (limits : AccessLimits)
  (new : context.maxQuotas ≤ context.quotaList.length ∨ Members.get context.snssaiHash s = none ∧
    context.nextQuotaId + 1 < 2 ^ 64) :
  (context.quotaAddWithLimits s maxUes maxPduSessions limits).context.Restorable := by
  have sound := restorable.sound.quotaAddWithLimits s maxUes maxPduSessions limits
  unfold NsacfContext.quotaAddWithLimits at sound ⊢
  by_cases full : context.maxQuotas ≤ context.quotaList.length
  · rw [if_pos full]
    exact restorable
  · rw [if_neg full] at sound ⊢
    obtain ⟨absent, small⟩ := new.resolve_left full
    refine ⟨sound, fun id quota found => ?_, small⟩
    rw [quotaFindById, get_insert] at found
    rw [get_insert]
    split at found
    · next same =>
        cases found
        exact (if_pos rfl).trans (congrArg some same)
    · have leads := restorable.single id quota found
      have apart : s ≠ quota.sNssai := by
        rintro rfl
        rw [absent] at leads
        cases leads
      rw [if_neg apart]
      exact leads

lemma Restorable.onQuota (s : SNssai) (missing : Answer) {change : SliceQuota → Change}
  (keeps : ∀ quota, (change quota).Keeps quota) :
  (context.onQuota s missing change).context.Restorable := by
  obtain ⟨hash, next⟩ := context.onQuota_snssaiHash s missing change
  refine ⟨restorable.sound.onQuota s missing keeps, fun id quota found => ?_,
    next ▸ restorable.small⟩
  rw [quotaFindById_onQuota] at found
  obtain ⟨before, foundBefore, rfl⟩ := map_eq_some_iff.mp found
  rw [hash]
  split
  · rw [(keeps before).2.1]
    exact restorable.single id before foundBefore
  · exact restorable.single id before foundBefore

lemma Restorable.quotaRemove (id : ℕ) : (context.quotaRemove id).context.Restorable := by
  have sound := restorable.sound.quotaRemove id
  unfold NsacfContext.quotaRemove at sound ⊢
  split
  · exact restorable
  · next removed there =>
      rw [there] at sound
      refine ⟨sound, fun other quota found => ?_, restorable.small⟩
      rw [quotaFindById, get_remove] at found
      rw [get_remove]
      split at found
      · cases found
      · next apart =>
          have leads := restorable.single other quota found
          rw [if_neg fun same => apart ?_]
          · exact leads
          · rw [← same, restorable.single id removed there] at leads
            exact Option.some.inj leads

lemma Restorable.perform {operation : Operation} (kept : context.KeepsSingle operation) :
  (context.perform operation).context.Restorable := by
  cases operation with
  | quotaAdd s maxUes maxPduSessions limits => exact restorable.quotaAddWithLimits _ _ _ kept
  | quotaUpdateOrAdd s maxUes maxPduSessions limits =>
    rw [NsacfContext.perform, quotaUpdateOrAdd]
    split
    · exact restorable.onQuota _ _ fun _ => ⟨rfl, rfl, fun enrolled => enrolled⟩
    · next unresolved =>
        have none' := not_isSome_iff_eq_none.mp unresolved
        refine restorable.quotaAddWithLimits _ _ _ ((kept none').imp_right fun small => ⟨?_, small⟩)
        rw [quotaIdFor_eq] at none'
        exact (or_eq_none_iff.mp none').1
  | quotaRemove id => exact restorable.quotaRemove id
  | admitUe s supi anType => exact restorable.onQuota _ _ fun quota => quota.keeps_admitUe _ _ _
  | releaseUe s supi => exact restorable.onQuota _ _ fun quota => quota.keeps_releaseUe _ _
  | updateUeAccess s supi newAccess =>
    exact restorable.onQuota _ _ fun quota => quota.keeps_updateUeAccess _ _
  | admitPduSession s sessionKey anType =>
    exact restorable.onQuota _ _ fun quota => quota.keeps_admitPduSession _ _
  | releasePduSession s sessionKey =>
    exact restorable.onQuota _ _ fun quota => quota.keeps_releasePduSession _
  | updatePduAccess s sessionKey newAccess =>
    exact restorable.onQuota _ _ fun quota => quota.keeps_updatePduAccess _ _

end

end NsacfContext

def Change.Saved (changed : Change) (quota : SliceQuota) : Prop :=
  changed.saves = false → changed.quota = quota

lemma Enrolment.move_unchanged {after : Enrolment} {who : String} {access : AccessType}
  (moved : enrolment.move who access = some (after, false)) : after = enrolment := by
  unfold Enrolment.move at moved
  split at moved
  · simp only [Option.some.injEq, Prod.mk.injEq, decide_eq_false_iff_not, not_not] at moved
    obtain ⟨rfl, same⟩ := moved
    rw [Roster.relabel, insert_self same]
  · cases moved

namespace SliceQuota

variable (quota : SliceQuota)

lemma saved_admitUe (threshold : UInt8) (supi : String) (anType : AccessType) :
  (quota.admitUe threshold supi anType).Saved quota := by
  unfold admitUe
  split
  · exact fun _ => rfl
  · exact fun unsaved => by cases unsaved

lemma saved_releaseUe (threshold : UInt8) (supi : String) :
  (quota.releaseUe threshold supi).Saved quota := by
  unfold releaseUe
  split
  · exact fun _ => rfl
  · exact fun unsaved => by cases unsaved

lemma saved_updateUeAccess (supi : String) (newAccess : AccessType) :
  (quota.updateUeAccess supi newAccess).Saved quota := by
  unfold updateUeAccess
  split
  · exact fun _ => rfl
  · next moved =>
      rintro rfl
      rw [Enrolment.move_unchanged moved]

lemma saved_admitPduSession (sessionKey : String) (anType : AccessType) :
  (quota.admitPduSession sessionKey anType).Saved quota := by
  unfold admitPduSession
  split
  · exact fun _ => rfl
  · exact fun unsaved => by cases unsaved

lemma saved_releasePduSession (sessionKey : String) :
  (quota.releasePduSession sessionKey).Saved quota := by
  unfold releasePduSession
  split
  · exact fun _ => rfl
  · exact fun unsaved => by cases unsaved

lemma saved_updatePduAccess (sessionKey : String) (newAccess : AccessType) :
  (quota.updatePduAccess sessionKey newAccess).Saved quota := by
  unfold updatePduAccess
  split
  · exact fun _ => rfl
  · next moved =>
      rintro rfl
      rw [Enrolment.move_unchanged moved]

end SliceQuota

namespace NsacfContext

variable {context : NsacfContext}

lemma onQuota_unsaved {s : SNssai} {missing : Answer} {change : SliceQuota → Change}
  (saved : ∀ quota, (change quota).Saved quota)
  (unsaved : (context.onQuota s missing change).saves = false) :
  (context.onQuota s missing change).context = context := by
  rcases context.onQuota_cases s missing change with ⟨-, same⟩ | ⟨id, quota, -, found, changed⟩
  · rw [same]
  · rw [changed] at unsaved ⊢
    rw [saved quota unsaved, insert_self found]

lemma perform_unsaved {operation : Operation}
  (unsaved : (context.perform operation).saves = false) :
  (context.perform operation).context = context := by
  have add (s : SNssai) (maxUes maxPduSessions : UInt64) (limits : AccessLimits)
      (unsaved : (context.quotaAddWithLimits s maxUes maxPduSessions limits).saves = false) :
      (context.quotaAddWithLimits s maxUes maxPduSessions limits).context = context := by
    unfold NsacfContext.quotaAddWithLimits at unsaved ⊢
    split
    · rfl
    · next room =>
        rw [if_neg room] at unsaved
        cases unsaved
  cases operation with
  | quotaAdd s maxUes maxPduSessions limits => exact add _ _ _ _ unsaved
  | quotaUpdateOrAdd s maxUes maxPduSessions limits =>
    rw [NsacfContext.perform, quotaUpdateOrAdd] at unsaved ⊢
    split
    · next resolved =>
        rw [if_pos resolved] at unsaved
        exact onQuota_unsaved (fun _ unsaved => by cases unsaved) unsaved
    · next unresolved =>
        rw [if_neg unresolved] at unsaved
        exact add _ _ _ _ unsaved
  | quotaRemove id =>
    rw [NsacfContext.perform, NsacfContext.quotaRemove] at unsaved ⊢
    split
    · rfl
    · next found =>
        rw [found] at unsaved
        cases unsaved
  | admitUe s supi anType => exact onQuota_unsaved (fun quota => quota.saved_admitUe _ _ _) unsaved
  | releaseUe s supi => exact onQuota_unsaved (fun quota => quota.saved_releaseUe _ _) unsaved
  | updateUeAccess s supi newAccess =>
    exact onQuota_unsaved (fun quota => quota.saved_updateUeAccess _ _) unsaved
  | admitPduSession s sessionKey anType =>
    exact onQuota_unsaved (fun quota => quota.saved_admitPduSession _ _) unsaved
  | releasePduSession s sessionKey =>
    exact onQuota_unsaved (fun quota => quota.saved_releasePduSession _) unsaved
  | updatePduAccess s sessionKey newAccess =>
    exact onQuota_unsaved (fun quota => quota.saved_updatePduAccess _ _) unsaved

end NsacfContext

namespace Process

variable {process : Process} {input : PersistenceInput}

def start (maxQuotas : ℕ) (eacThreshold : UInt8) : Process :=
  ⟨.init maxQuotas eacThreshold, [], none⟩

/-- The file holds the context as it is, or one of the writes to come has it. -/
def Covered (initial : NsacfContext) (process : Process) : Prop :=
  process.file.getD initial = process.context ∨ process.context ∈ process.pending

/-- Operations keep one quota for each S-NSSAI; a write of an outdated copy completes only while
one of the context as it is goes on. -/
def Careful (process : Process) : PersistenceInput → Prop
  | .operate operation => process.context.KeepsSingle operation
  | .complete index => ∀ copy, process.pending[index]? = some copy →
      copy = process.context ∨ process.context ∈ process.pending.eraseIdx index

lemma covered_step {initial : NsacfContext} (covered : process.Covered initial)
  (careful : process.Careful input) : (persistence.step process input).1.Covered initial := by
  cases input with
  | operate operation =>
    cases saves : (process.context.perform operation).saves with
    | true =>
      refine .inr ?_
      simp only [persistence, saves, if_true]
      exact mem_append_right _ mem_cons_self
    | false =>
      have same := NsacfContext.perform_unsaved saves
      have step : (persistence.step process (.operate operation)).1 = process := by
        simp only [persistence, saves, same, Bool.false_eq_true, if_false]
      rw [step]
      exact covered
  | complete index =>
    cases found : process.pending[index]? with
    | none =>
      have step : (persistence.step process (.complete index)).1 = process := by
        simp only [persistence, found]
      rw [step]
      exact covered
    | some copy =>
      have step : (persistence.step process (.complete index)).1 =
          { process with pending := process.pending.eraseIdx index, file := some copy } := by
        simp only [persistence, found]
      rw [step]
      exact careful copy found

lemma restorable_step (restorable : process.context.Restorable)
  (careful : process.Careful input) : (persistence.step process input).1.context.Restorable := by
  cases input with
  | operate operation => exact restorable.perform careful
  | complete index =>
    cases found : process.pending[index]? <;> simp only [persistence, found] <;> exact restorable

end Process

lemma restorable_init (maxQuotas : ℕ) (eacThreshold : UInt8) :
  (NsacfContext.init maxQuotas eacThreshold).Restorable :=
  ⟨NsacfContext.sound_init maxQuotas eacThreshold, fun _ _ found => (by cases found),
    show 1 < 2 ^ 64 by decide⟩

/-- What the state file reads as, for some order in which the maps of the copy are listed. -/
def FileHolds (file : Option NsacfContext) (document : Option Json) : Prop :=
  Option.Rel WrittenAs file document

/-- When all writes have completed, a new context is restored to what the old one is, if every
S-NSSAI has one quota at a time and no outdated copy is the last to be written. -/
theorem survives_restart (maxQuotas : ℕ) (eacThreshold : UInt8) {inputs : List PersistenceInput}
  (careful : persistence.Along Process.Careful (.start maxQuotas eacThreshold) inputs)
  (done : (persistence.run (.start maxQuotas eacThreshold) inputs).pending = [])
  {document : Option Json}
  (holds : FileHolds (persistence.run (.start maxQuotas eacThreshold) inputs).file document) :
  Survives (persistence.run (.start maxQuotas eacThreshold) inputs).context
    ((NsacfContext.init maxQuotas eacThreshold).loadState document) := by
  have step (process : Process) (input : PersistenceInput) (before : process.context.Restorable ∧
        process.Covered (.init maxQuotas eacThreshold)) (careful : process.Careful input) :
      (persistence.step process input).1.context.Restorable ∧
        (persistence.step process input).1.Covered (.init maxQuotas eacThreshold) :=
    ⟨Process.restorable_step before.1 careful, Process.covered_step before.2 careful⟩
  obtain ⟨restorable, covered⟩ := persistence.invariant_run step
    ⟨restorable_init maxQuotas eacThreshold, .inl rfl⟩ careful
  rw [Process.Covered, done, or_iff_left not_mem_nil] at covered
  generalize persistence.run (.start maxQuotas eacThreshold) inputs = process at *
  obtain ⟨context, pending, file⟩ := process
  cases holds with
  | none =>
    -- Nothing was ever saved.
    cases covered
    exact ⟨fun _ => .none, fun _ => rfl, fun _ _ _ found => by cases found⟩
  | some written =>
    cases covered
    exact restorable.survives written maxQuotas eacThreshold

def firstWriteLast : List PersistenceInput :=
  [.operate (.quotaAdd ⟨1, none⟩ 10 10 .default),
    .operate (.admitUe ⟨1, none⟩ "imsi-1" .threeGpp), .complete 1, .complete 0]

def secondWriteLast : List PersistenceInput :=
  [.operate (.quotaAdd ⟨1, none⟩ 10 10 .default),
    .operate (.admitUe ⟨1, none⟩ "imsi-1" .threeGpp), .complete 0, .complete 0]

def twoQuotas : List PersistenceInput :=
  [.operate (.quotaAdd ⟨1, none⟩ 10 10 .default), .complete 0,
    .operate (.quotaAdd ⟨1, none⟩ 10 10 .default), .complete 0]

/-- The state file and the new context agree with the old one, whatever the order of the lists. -/
def RestartsWell (process : Process) : Prop :=
  ∀ document, FileHolds process.file document →
    Survives process.context ((NsacfContext.init 64 80).loadState document)

/-- The UE is forgotten; the S-NSSAI comes back as that of the first quota. -/
theorem not_survives_restart : (persistence.run (.start 64 80) firstWriteLast).pending = [] ∧
    ¬RestartsWell (persistence.run (.start 64 80) firstWriteLast) ∧
    (persistence.run (.start 64 80) twoQuotas).pending = [] ∧
    ¬RestartsWell (persistence.run (.start 64 80) twoQuotas) := by
  refine ⟨rfl, fun restarts => ?_, rfl, fun restarts => ?_⟩
  · have survives := restarts (some (stateDocument 2 [SliceQuota.new 1 ⟨1, none⟩ 10 10]))
      (.some ⟨_, .refl _, rfl⟩)
    have counted : ((persistence.run (.start 64 80) firstWriteLast).context.quotaFindById 1).any
        (fun quota => quota.ues.members.contains "imsi-1") = true := by
      decide
    have forgotten : (((NsacfContext.init 64 80).loadState (some (stateDocument 2
        [SliceQuota.new 1 ⟨1, none⟩ 10 10]))).quotaFindById 1).any
          (fun quota => quota.ues.members.contains "imsi-1") = false := by
      decide
    rw [survives.counts_same 1 "imsi-1", counted] at forgotten
    cases forgotten
  · have survives := restarts (some (stateDocument 3 [SliceQuota.new 2 ⟨1, none⟩ 10 10,
      SliceQuota.new 1 ⟨1, none⟩ 10 10])) (.some ⟨_, .swap _ _ _, rfl⟩)
    have index := survives.index ⟨1, none⟩
    revert index
    decide

theorem secondWriteLast_survives :
  RestartsWell (persistence.run (.start 64 80) secondWriteLast) := by
  have careful : persistence.Along Process.Careful (.start 64 80) secondWriteLast := by
    refine ⟨.inr ⟨rfl, by decide⟩, trivial, fun copy found => ?_, fun copy found => ?_, trivial⟩
    · exact .inr mem_cons_self
    · cases found
      exact .inl rfl
  exact fun document holds => survives_restart 64 80 careful rfl holds

end NextGCore.Nsacf
