import NextGCore.Library.Machine
import NextGCore.Pcf.Context

/-!
# Cascades and coherence of the PCF hash maps

Beside the context an observer notes which entity each key was given to last, and which
application sessions were created for a live session.  The removals delete a key whoever it
leads to, the removal of a session forgets the keys of its application sessions, and that of
a UE the keys of its sessions and all that they own.
-/

namespace NextGCore.Pcf

open Library List Option NumberedTable NamedTable

structure PcfOwners where
  supiAm : String → Option ℕ
  associationId : String → Option ℕ
  supiSm : String → Option ℕ
  smPolicyId : String → Option ℕ
  ipv4addr : UInt32 → Option ℕ
  ipv6prefix : String → Option ℕ
  appSessionId : String → Option ℕ
  bound : ℕ → Bool

def PcfOwners.none : PcfOwners :=
  ⟨fun _ => .none, fun _ => .none, fun _ => .none, fun _ => .none, fun _ => .none, fun _ => .none,
    fun _ => .none, fun _ => false⟩

namespace PcfContext

def ownersAfter (owners : PcfOwners) (context : PcfContext) : PcfOperation → PcfOwners
  | .ueAmAdd supi uuid =>
    match (context.ueAmAdd supi uuid).2 with
    | none => owners
    | some ueAm =>
      { owners with
        supiAm := assign owners.supiAm ueAm.id (some supi)
        associationId := assign owners.associationId ueAm.id (some uuid) }
  | .ueSmAdd supi =>
    match (context.ueSmAdd supi).2 with
    | none => owners
    | some ueSm => { owners with supiSm := assign owners.supiSm ueSm.id (some supi) }
  | .sessAdd pcfUeSmId psi uuid =>
    match (context.sessAdd pcfUeSmId psi uuid).2 with
    | none => owners
    | some sess => { owners with smPolicyId := assign owners.smPolicyId sess.id (some uuid) }
  | .sessUpdate sess =>
    match context.sessFindById sess.id with
    | none => owners
    | some existing =>
      { owners with
        ipv4addr := reown owners.ipv4addr existing.ipv4Key sess.id sess.ipv4Key
        ipv6prefix :=
          reown owners.ipv6prefix existing.ipv6prefixString sess.id sess.ipv6prefixString }
  | .appAdd sessId uuid =>
    let id := (context.appAdd sessId uuid).2.id
    { owners with
      appSessionId := assign owners.appSessionId id (some uuid)
      bound := Function.update owners.bound id (context.sessFindById sessId).isSome }
  | .ueAmRemove _ | .ueSmRemove _ | .sessRemove _ | .appRemove _ => owners

def NoSess (context : PcfContext) (condition : PcfSess → Prop) : Prop :=
  ∀ sess ∈ context.sessList.records, ¬ condition sess

def NoApp (context : PcfContext) (sessId : ℕ) : Prop :=
  ∀ app ∈ context.appList.records, app.sessId ≠ sessId

/-- A removal or an update takes only keys that lead to no other entity, what is removed owns
nothing, and a PSI is new to its UE; an update keeps all of a session but its addresses and
application sessions. -/
def TakesOwn (context : PcfContext) : PcfOperation → Prop
  | .ueAmAdd _ _ | .ueSmAdd _ | .appAdd _ _ => True
  | .ueAmRemove id =>
    ∀ ueAm ∈ context.ueAmFindById id,
      LeadsOnlyTo context.ueAmFindBySupi PcfUeAm.id id (some ueAm.supi) ∧
        LeadsOnlyTo context.ueAmFindByAssociationId PcfUeAm.id id (some ueAm.associationId)
  | .ueSmRemove id =>
    ∀ ueSm ∈ context.ueSmFindById id,
      LeadsOnlyTo context.ueSmFindBySupi PcfUeSm.id id (some ueSm.supi) ∧
        context.NoSess fun sess => sess.pcfUeSmId = id
  | .sessAdd pcfUeSmId psi _ =>
    context.NoSess fun sess => sess.pcfUeSmId = pcfUeSmId ∧ sess.psi = psi
  | .sessRemove id =>
    ∀ sess ∈ context.sessFindById id,
      LeadsOnlyTo context.sessFindBySmPolicyId PcfSess.id id (some sess.smPolicyId) ∧
        LeadsOnlyTo context.sessFindByIpv4Key PcfSess.id id sess.ipv4Key ∧
        LeadsOnlyTo context.sessFindByIpv6addr PcfSess.id id sess.ipv6prefixString ∧
        context.NoApp id
  | .sessUpdate sess =>
    ∀ existing ∈ context.sessFindById sess.id,
      (sess.smPolicyId = existing.smPolicyId ∧ sess.psi = existing.psi ∧
          sess.pcfUeSmId = existing.pcfUeSmId) ∧
        (existing.ipv4Key ≠ sess.ipv4Key →
          LeadsOnlyTo context.sessFindByIpv4Key PcfSess.id sess.id existing.ipv4Key) ∧
        (existing.ipv6prefixString ≠ sess.ipv6prefixString →
          LeadsOnlyTo context.sessFindByIpv6addr PcfSess.id sess.id existing.ipv6prefixString)
  | .appRemove id =>
    ∀ app ∈ context.appFindById id,
      LeadsOnlyTo context.appFindByAppSessionId PcfApp.id id (some app.appSessionId)

instance decidableNoSess (context : PcfContext) (condition : PcfSess → Prop)
  [DecidablePred condition] : Decidable (context.NoSess condition) :=
  inferInstanceAs (Decidable (∀ _ ∈ _, ¬ _))

instance decidableNoApp (context : PcfContext) (sessId : ℕ) : Decidable (context.NoApp sessId) :=
  inferInstanceAs (Decidable (∀ _ ∈ _, _ ≠ _))

instance decidableTakesOwn (context : PcfContext) :
    (operation : PcfOperation) → Decidable (context.TakesOwn operation)
  | .ueAmAdd _ _ | .ueSmAdd _ | .appAdd _ _ => inferInstanceAs (Decidable True)
  | .ueAmRemove _ | .ueSmRemove _ => inferInstanceAs (Decidable (∀ _ ∈ _, _ ∧ _))
  | .sessAdd _ _ _ => decidableNoSess _ _
  | .sessRemove _ => inferInstanceAs (Decidable (∀ _ ∈ _, _ ∧ _ ∧ _ ∧ _))
  | .sessUpdate _ => inferInstanceAs (Decidable (∀ _ ∈ _, (_ ∧ _ ∧ _) ∧ (_ → _) ∧ (_ → _)))
  | .appRemove _ => inferInstanceAs (Decidable (∀ _ ∈ _, _))

def NoStaleKey {Record Key : Type} [DecidableEq Key] (find : ℕ → Option Record)
  (keyOf : Record → Option Key) (hash : AList (fun _ : Key => ℕ)) : Prop :=
  ∀ key id, hash.lookup key = some id → ∃ record, find id = some record ∧ keyOf record = some key

/-- Each lookup finds the owners of the keys and nothing but live entities with the key. -/
structure Found (context : PcfContext) (owners : PcfOwners) : Prop where
  supiAm : AnswersByName context.ueAmFindById (fun ueAm => some ueAm.supi) PcfUeAm.id
    context.ueAmFindBySupi owners.supiAm
  associationId : AnswersByName context.ueAmFindById (fun ueAm => some ueAm.associationId)
    PcfUeAm.id context.ueAmFindByAssociationId owners.associationId
  supiSm : AnswersByName context.ueSmFindById (fun ueSm => some ueSm.supi) PcfUeSm.id
    context.ueSmFindBySupi owners.supiSm
  smPolicyId : AnswersByName context.sessFindById (fun sess => some sess.smPolicyId) PcfSess.id
    context.sessFindBySmPolicyId owners.smPolicyId
  ipv4addr : AnswersByName context.sessFindById PcfSess.ipv4Key PcfSess.id
    context.sessFindByIpv4Key owners.ipv4addr
  ipv6prefix : AnswersByName context.sessFindById PcfSess.ipv6prefixString PcfSess.id
    context.sessFindByIpv6addr owners.ipv6prefix
  appSessionId : AnswersByName context.appFindById (fun app => some app.appSessionId) PcfApp.id
    context.appFindByAppSessionId owners.appSessionId
  psi : ∀ id sess, context.sessFindById id = some sess →
    context.sessFindByPsi sess.pcfUeSmId sess.psi = some sess

structure WithoutStaleKeys (context : PcfContext) : Prop where
  supiAm : NoStaleKey context.ueAmFindById (fun ueAm => some ueAm.supi) context.supiAmHash
  associationId : NoStaleKey context.ueAmFindById (fun ueAm => some ueAm.associationId)
    context.associationIdHash
  supiSm : NoStaleKey context.ueSmFindById (fun ueSm => some ueSm.supi) context.supiSmHash
  smPolicyId : NoStaleKey context.sessFindById (fun sess => some sess.smPolicyId)
    context.smPolicyIdHash
  ipv4addr : NoStaleKey context.sessFindById PcfSess.ipv4Key context.ipv4addrHash
  ipv6prefix : NoStaleKey context.sessFindById PcfSess.ipv6prefixString context.ipv6prefixHash
  appSessionId : NoStaleKey context.appFindById (fun app => some app.appSessionId)
    context.appSessionIdHash

structure Coherent (context : PcfContext) (owners : PcfOwners) : Prop where
  found : context.Found owners
  withoutStaleKeys : context.WithoutStaleKeys
  apps : ∀ id app, context.appFindById id = some app → owners.bound id = true →
    context.sessFindById app.sessId ≠ none

/-- No lookup leads to the session any more. -/
structure Forgotten (context : PcfContext) (sessId : ℕ) : Prop where
  byId : context.sessFindById sessId = none
  bySmPolicyId : ∀ key, ∀ sess ∈ context.sessFindBySmPolicyId key, sess.id ≠ sessId
  byIpv4addr : ∀ text, ∀ sess ∈ context.sessFindByIpv4addr text, sess.id ≠ sessId
  byIpv6addr : ∀ text, ∀ sess ∈ context.sessFindByIpv6addr text, sess.id ≠ sessId
  byPsi : ∀ pcfUeSmId psi, ∀ sess ∈ context.sessFindByPsi pcfUeSmId psi, sess.id ≠ sessId
  appById : ∀ id, ∀ app ∈ context.appFindById id, app.sessId ≠ sessId
  appByAppSessionId : ∀ key, ∀ app ∈ context.appFindByAppSessionId key, app.sessId ≠ sessId

def removes (context : PcfContext) : PcfOperation → ℕ → Prop
  | .ueSmRemove id => fun sessId =>
    context.ueSmFindById id ≠ none ∧ ∃ sess ∈ context.sessFindById sessId, sess.pcfUeSmId = id
  | .sessRemove id => fun sessId => sessId = id ∧ context.sessFindById id ≠ none
  | _ => fun _ => False

section Forgetting

variable {context : PcfContext} {sessId : ℕ}

lemma mem_records_of_lookup {Record : Type} {number : Record → ℕ}
  {table : NumberedTable Record number} {id : ℕ} {record : Record}
  (found : table.lookup id = some record) : record ∈ table.records := by
  obtain rfl := number_eq found
  exact mem_records.mpr found

lemma forgotten_of_lookup (gone : context.sessFindById sessId = none)
  (noApp : ∀ id, ∀ app ∈ context.appFindById id, app.sessId ≠ sessId) :
  context.Forgotten sessId := by
  have stored {id : ℕ} {sess : PcfSess} (found : context.sessFindById id = some sess) :
      sess.id ≠ sessId := by
    rintro rfl
    rw [number_eq found, found] at gone
    cases gone
  refine ⟨gone, ?_, ?_, ?_, ?_, noApp, ?_⟩
  · intro key sess found
    obtain ⟨id, -, live⟩ := bind_eq_some_iff.mp found
    exact stored live
  · intro text sess found
    obtain ⟨key, -, foundByKey⟩ := bind_eq_some_iff.mp found
    obtain ⟨id, -, live⟩ := bind_eq_some_iff.mp foundByKey
    exact stored live
  · intro key sess found
    obtain ⟨id, -, live⟩ := bind_eq_some_iff.mp found
    exact stored live
  · intro pcfUeSmId psi sess found
    exact stored (mem_records.mp (List.mem_of_find?_eq_some found))
  · intro key app found
    obtain ⟨id, -, live⟩ := bind_eq_some_iff.mp found
    exact noApp id app live

lemma forgotten_sessRemove (live : context.sessFindById sessId ≠ none) :
  (context.operate (.sessRemove sessId)).Forgotten sessId := by
  obtain ⟨sess, found⟩ := ne_none_iff_exists'.mp live
  apply forgotten_of_lookup
  · simp only [operate, sessRemove, found, appRemoveAllForSess]
    exact (context.sessList.lookup_erase sessId sessId).trans (if_pos rfl)
  · intro id app stays
    simp only [operate, sessRemove, found, appRemoveAllForSess, appFindById,
      lookup_foldl_erase, mem_def] at stays
    split at stays
    · cases stays
    · rename_i notRemoved
      intro isOwn
      apply notRemoved
      refine List.mem_map.mpr ⟨app, ?_, number_eq stays⟩
      exact mem_filter.mpr ⟨mem_records_of_lookup stays, by simpa using isOwn⟩

lemma forgotten_of_removes {operation : PcfOperation} (takesOwn : context.TakesOwn operation)
  (isRemoved : context.removes operation sessId) :
  (context.operate operation).Forgotten sessId := by
  cases operation with
  | sessRemove id =>
    obtain ⟨rfl, live⟩ := isRemoved
    exact forgotten_sessRemove live
  | ueSmRemove id =>
    obtain ⟨live, sess, found, isOwn⟩ := isRemoved
    obtain ⟨ueSm, foundUe⟩ := ne_none_iff_exists'.mp live
    exact absurd isOwn ((takesOwn ueSm foundUe).2 sess (mem_records_of_lookup found))
  | _ => exact isRemoved.elim

end Forgetting

def DistinctPsis (context : PcfContext) : Prop :=
  ∀ first ∈ context.sessList.records, ∀ second ∈ context.sessList.records,
    first.pcfUeSmId = second.pcfUeSmId → first.psi = second.psi → first.id = second.id

structure Indexed (context : PcfContext) (owners : PcfOwners) : Prop where
  supiAm : Led (fun ueAm => some ueAm.supi)
    ⟨context.ueAmList, context.supiAmHash, owners.supiAm⟩
  associationId : Led (fun ueAm => some ueAm.associationId)
    ⟨context.ueAmList, context.associationIdHash, owners.associationId⟩
  supiSm : Led (fun ueSm => some ueSm.supi)
    ⟨context.ueSmList, context.supiSmHash, owners.supiSm⟩
  smPolicyId : Led (fun sess => some sess.smPolicyId)
    ⟨context.sessList, context.smPolicyIdHash, owners.smPolicyId⟩
  ipv4addr : Led PcfSess.ipv4Key
    ⟨context.sessList, context.ipv4addrHash, owners.ipv4addr⟩
  ipv6prefix : Led PcfSess.ipv6prefixString
    ⟨context.sessList, context.ipv6prefixHash, owners.ipv6prefix⟩
  appSessionId : Led (fun app => some app.appSessionId)
    ⟨context.appList, context.appSessionIdHash, owners.appSessionId⟩
  psi : context.DistinctPsis
  apps : ∀ id app, context.appList.lookup id = some app → owners.bound id = true →
    context.sessList.lookup app.sessId ≠ none

lemma indexed_init (maxUe maxSess : ℕ) : Indexed (.init maxUe maxSess) .none where
  supiAm := led_empty 1
  associationId := led_empty 1
  supiSm := led_empty 1
  smPolicyId := led_empty 1
  ipv4addr := led_empty 1
  ipv6prefix := led_empty 1
  appSessionId := led_empty 1
  psi first isFirst := by cases isFirst
  apps id app found := by cases found

section Coherence

variable {context : PcfContext} {owners : PcfOwners} {sess existing : PcfSess} {sessId : ℕ}
  (indexed : Indexed context owners)

include indexed

lemma Indexed.sessFindByPsi_eq {id : ℕ} (live : context.sessFindById id = some sess) :
  context.sessFindByPsi sess.pcfUeSmId sess.psi = some sess := by
  have isRecord := mem_records_of_lookup live
  cases found : context.sessFindByPsi sess.pcfUeSmId sess.psi with
  | none =>
    have missed := List.find?_eq_none.mp found sess isRecord
    simp at missed
  | some other =>
    have isOther : other ∈ context.sessList.records := List.mem_of_find?_eq_some found
    have fits := List.find?_some found
    simp only [decide_eq_true_eq] at fits
    have same := indexed.psi other isOther sess isRecord fits.1 fits.2
    have stored := mem_records.mp isOther
    rw [same, number_eq live] at stored
    exact stored.symm.trans live

lemma Indexed.coherent : context.Coherent owners where
  found :=
    { supiAm := indexed.supiAm.indexed.answers
      associationId := indexed.associationId.indexed.answers
      supiSm := indexed.supiSm.indexed.answers
      smPolicyId := indexed.smPolicyId.indexed.answers
      ipv4addr := indexed.ipv4addr.indexed.answers
      ipv6prefix := indexed.ipv6prefix.indexed.answers
      appSessionId := indexed.appSessionId.indexed.answers
      psi := fun _ _ live => indexed.sessFindByPsi_eq live }
  withoutStaleKeys :=
    ⟨fun _ _ entry => indexed.supiAm.bears entry,
      fun _ _ entry => indexed.associationId.bears entry,
      fun _ _ entry => indexed.supiSm.bears entry, fun _ _ entry => indexed.smPolicyId.bears entry,
      fun _ _ entry => indexed.ipv4addr.bears entry,
      fun _ _ entry => indexed.ipv6prefix.bears entry,
      fun _ _ entry => indexed.appSessionId.bears entry⟩
  apps := indexed.apps

lemma Indexed.changeSessIds (pcfUeSmId : ℕ) (change : List ℕ → List ℕ) :
  Led (fun ueSm => some ueSm.supi)
    ⟨context.changeSessIds pcfUeSmId change, context.supiSmHash, owners.supiSm⟩ := by
  unfold PcfContext.changeSessIds
  cases found : context.ueSmFindById pcfUeSmId with
  | none => exact indexed.supiSm
  | some ueSm =>
    obtain rfl := number_eq found
    exact indexed.supiSm.update found rfl

omit indexed

lemma distinctPsis_update (distinct : context.DistinctPsis)
  (found : context.sessFindById sess.id = some existing) (psi : sess.psi = existing.psi)
  (ue : sess.pcfUeSmId = existing.pcfUeSmId) :
  { context with sessList := context.sessList.update sess }.DistinctPsis := by
  have earlier (other : PcfSess) (isOther : other ∈ (context.sessList.update sess).records) :
      ∃ before ∈ context.sessList.records, before.id = other.id ∧ before.psi = other.psi ∧
        before.pcfUeSmId = other.pcfUeSmId := by
    have stored := mem_records.mp isOther
    rw [lookup_update] at stored
    split at stored
    · rename_i same
      rw [same] at stored
      obtain ⟨old, isOld, rfl⟩ := map_eq_some_iff.mp stored
      exact ⟨existing, mem_records_of_lookup found, number_eq found, psi.symm, ue.symm⟩
    · exact ⟨other, mem_records_of_lookup stored, rfl, rfl, rfl⟩
  intro first isFirst second isSecond sameUe samePsi
  obtain ⟨first', isFirst', firstId, firstPsi, firstUe⟩ := earlier first isFirst
  obtain ⟨second', isSecond', secondId, secondPsi, secondUe⟩ := earlier second isSecond
  have same := distinct first' isFirst' second' isSecond'
    (firstUe.trans (sameUe.trans secondUe.symm)) (firstPsi.trans (samePsi.trans secondPsi.symm))
  exact firstId.symm.trans (same.trans secondId)

lemma lookup_update_ne_none {id : ℕ} (live : context.sessList.lookup id ≠ none) :
  (context.sessList.update sess).lookup id ≠ none := by
  obtain ⟨record, found⟩ := ne_none_iff_exists'.mp live
  rw [lookup_update, found]
  split <;> exact some_ne_none _

include indexed

lemma Indexed.restoreSess (found : context.sessFindById sess.id = some existing)
  (smPolicyId : sess.smPolicyId = existing.smPolicyId) (psi : sess.psi = existing.psi)
  (ue : sess.pcfUeSmId = existing.pcfUeSmId) (ipv4 : sess.ipv4Key = existing.ipv4Key)
  (ipv6 : sess.ipv6prefixString = existing.ipv6prefixString) :
  Indexed { context with sessList := context.sessList.update sess } owners :=
  { indexed with
    smPolicyId := indexed.smPolicyId.update found (congrArg some smPolicyId)
    ipv4addr := indexed.ipv4addr.update found ipv4
    ipv6prefix := indexed.ipv6prefix.update found ipv6
    psi := distinctPsis_update indexed.psi found psi ue
    apps := fun id app live bound => lookup_update_ne_none (indexed.apps id app live bound) }

lemma Indexed.changeAppIds (sessId : ℕ) (change : List ℕ → List ℕ) :
  Indexed { context with sessList := context.changeAppIds sessId change } owners := by
  unfold PcfContext.changeAppIds
  cases found : context.sessFindById sessId with
  | none => exact indexed
  | some sess =>
    obtain rfl := number_eq found
    exact indexed.restoreSess found rfl rfl rfl rfl rfl

omit indexed

lemma distinctPsis_allocate {pcfUeSmId : ℕ} {psi : UInt8} {uuid : String}
  (distinct : context.DistinctPsis)
  (fresh : context.NoSess fun sess => sess.pcfUeSmId = pcfUeSmId ∧ sess.psi = psi) :
  { context with
    sessList := context.sessList.allocate (.new pcfUeSmId psi uuid)
      (PcfSess.new_id pcfUeSmId psi uuid) }.DistinctPsis := by
  have cases (other : PcfSess) (isOther : other ∈ (context.sessList.allocate
      (.new pcfUeSmId psi uuid) (PcfSess.new_id pcfUeSmId psi uuid)).records) :
      other = .new pcfUeSmId psi uuid context.sessList.next ∨ other ∈ context.sessList.records := by
    have stored := mem_records.mp isOther
    rw [lookup_allocate] at stored
    split at stored
    · rename_i same
      rw [same] at stored
      exact .inl (Option.some.inj stored).symm
    · exact .inr (mem_records.mpr stored)
  intro first isFirst second isSecond sameUe samePsi
  rcases cases first isFirst with rfl | old <;> rcases cases second isSecond with rfl | old'
  · rfl
  · exact absurd ⟨sameUe.symm, samePsi.symm⟩ (fresh second old')
  · exact absurd ⟨sameUe, samePsi⟩ (fresh first old)
  · exact distinct first old second old' sameUe samePsi

lemma filter_eq_nil_of_noApp (noApp : context.NoApp sessId) :
  context.appList.records.filter (fun app => app.sessId = sessId) = [] :=
  filter_eq_nil_iff.mpr fun app isApp => by simpa using noApp app isApp

include indexed

lemma Indexed.addSess (pcfUeSmId : ℕ) (psi : UInt8) (uuid : String)
  (fresh : context.NoSess fun sess => sess.pcfUeSmId = pcfUeSmId ∧ sess.psi = psi) :
  Indexed
    { context with
      smPolicyIdHash := context.smPolicyIdHash.insert uuid context.sessList.next
      sessList := context.sessList.allocate (.new pcfUeSmId psi uuid)
        (PcfSess.new_id pcfUeSmId psi uuid)
      ueSmList := context.changeSessIds pcfUeSmId fun sessIds =>
        sessIds ++ [context.sessList.next] }
    { owners with
      smPolicyId := assign owners.smPolicyId context.sessList.next (some uuid) } :=
  { indexed with
    supiSm := indexed.changeSessIds pcfUeSmId fun sessIds => sessIds ++ [context.sessList.next]
    smPolicyId := indexed.smPolicyId.allocateNamed _ (PcfSess.new_id pcfUeSmId psi uuid) rfl
    ipv4addr := indexed.ipv4addr.allocate _ (PcfSess.new_id pcfUeSmId psi uuid)
    ipv6prefix := indexed.ipv6prefix.allocate _ (PcfSess.new_id pcfUeSmId psi uuid)
    psi := distinctPsis_allocate indexed.psi fresh
    apps := fun id app live bound => by
      simp only [lookup_allocate]
      split
      · exact some_ne_none _
      · exact indexed.apps id app live bound }

lemma Indexed.removeSess {id : ℕ}
  (found : context.sessFindById id = some sess) (takesOwn : context.TakesOwn (.sessRemove id)) :
  Indexed (context.operate (.sessRemove id)) owners := by
  obtain ⟨smPolicyId, ipv4, ipv6, noApp⟩ := takesOwn sess found
  have unused := filter_eq_nil_of_noApp noApp
  simp only [operate, sessRemove, found, appRemoveAllForSess, unused, map_nil, foldl_nil]
  exact
    { indexed with
      supiSm := indexed.changeSessIds sess.pcfUeSmId fun sessIds => sessIds.filter (· ≠ id)
      smPolicyId := indexed.smPolicyId.erase found smPolicyId
      ipv4addr := indexed.ipv4addr.erase found ipv4
      ipv6prefix := indexed.ipv6prefix.erase found ipv6
      psi := fun first isFirst second isSecond => by
        have earlier (other : PcfSess) (isOther : other ∈ (context.sessList.erase id).records) :
            other ∈ context.sessList.records := by
          have stored := mem_records.mp isOther
          rw [lookup_erase] at stored
          split at stored
          · cases stored
          · exact mem_records.mpr stored
        exact indexed.psi first (earlier first isFirst) second (earlier second isSecond)
      apps := fun appId app live bound => by
        have other : app.sessId ≠ id := noApp app (mem_records_of_lookup live)
        simp only [lookup_erase, if_neg other]
        exact indexed.apps appId app live bound }

lemma Indexed.updateSess (found : context.sessFindById sess.id = some existing)
  (takesOwn : context.TakesOwn (.sessUpdate sess)) :
  Indexed (context.operate (.sessUpdate sess))
    (ownersAfter owners context (.sessUpdate sess)) := by
  obtain ⟨⟨smPolicyId, psi, ue⟩, ipv4, ipv6⟩ := takesOwn existing found
  have sameIpv4 : existing.ipv4addr ≠ sess.ipv4addr ↔ existing.ipv4Key ≠ sess.ipv4Key := by
    unfold PcfSess.ipv4Key
    split <;> split <;> simp_all [eq_comm]
  have hashes {Key : Type} [DecidableEq Key] (hash : AList fun _ : Key => ℕ)
      (old new : Option Key) :
      (if old ≠ new then name (unname hash old) sess.id new else hash) =
        rekey hash old sess.id new := by
    rw [rekey, ite_not]
  simp only [operate, sessUpdate, ownersAfter, found, sameIpv4, hashes]
  exact
    { indexed with
      smPolicyId := indexed.smPolicyId.update found (congrArg some smPolicyId)
      ipv4addr := indexed.ipv4addr.rekey found ipv4
      ipv6prefix := indexed.ipv6prefix.rekey found ipv6
      psi := distinctPsis_update indexed.psi found psi ue
      apps := fun id app live bound => lookup_update_ne_none (indexed.apps id app live bound) }

omit indexed

lemma changed_ne_none {change : List ℕ → List ℕ}
  (live : (context.sessFindById sessId).isSome = true) :
  (context.changeAppIds sessId change).lookup sessId ≠ none := by
  obtain ⟨sess, found⟩ := isSome_iff_exists.mp live
  simp only [PcfContext.changeAppIds, found]
  exact lookup_update_ne_none (by rw [← sessFindById, found]; exact some_ne_none sess)

include indexed

lemma Indexed.addApp (sessId : ℕ) (uuid : String) :
  Indexed (context.operate (.appAdd sessId uuid))
    (ownersAfter owners context (.appAdd sessId uuid)) := by
  have changed := indexed.changeAppIds sessId fun appIds => appIds ++ [context.appList.next]
  exact
    { changed with
      appSessionId := indexed.appSessionId.allocateNamed _ (PcfApp.new_id sessId uuid) rfl
      apps := fun id app live bound => by
        simp only [operate, appAdd, lookup_allocate] at live
        simp only [ownersAfter, appAdd, PcfApp.new_id] at bound
        split at live
        · rename_i isNew
          obtain rfl := Option.some.inj live
          rw [isNew, Function.update_self] at bound
          exact changed_ne_none bound
        · rename_i isOld
          rw [Function.update_of_ne isOld] at bound
          exact changed.apps id app live bound }

lemma Indexed.removeApp {id : ℕ} {app : PcfApp} (found : context.appFindById id = some app)
  (takesOwn : context.TakesOwn (.appRemove id)) :
  Indexed (context.operate (.appRemove id)) owners := by
  have changed := indexed.changeAppIds app.sessId fun appIds => appIds.filter (· ≠ id)
  simp only [operate, appRemove, found]
  exact
    { changed with
      appSessionId := indexed.appSessionId.erase found (takesOwn app found)
      apps := fun other record live bound => by
        simp only [lookup_erase] at live
        split at live
        · cases live
        · exact changed.apps other record live bound }

lemma Indexed.step {operation : PcfOperation} (takesOwn : context.TakesOwn operation) :
  Indexed (context.operate operation) (ownersAfter owners context operation) := by
  cases operation with
  | ueAmAdd supi uuid =>
    simp only [operate, ueAmAdd, ownersAfter]
    split
    · exact indexed
    · have numbered := PcfUeAm.new_id supi uuid
      exact
        { indexed with
          supiAm := indexed.supiAm.allocateNamed _ numbered rfl
          associationId := indexed.associationId.allocateNamed _ numbered rfl }
  | ueAmRemove id =>
    simp only [operate, ueAmRemove, ownersAfter]
    cases found : context.ueAmFindById id with
    | none => exact indexed
    | some ueAm =>
      obtain ⟨supi, associationId⟩ := takesOwn ueAm found
      exact
        { indexed with
          supiAm := indexed.supiAm.erase found supi
          associationId := indexed.associationId.erase found associationId }
  | ueSmAdd supi =>
    simp only [operate, ueSmAdd, ownersAfter]
    split
    · exact indexed
    · exact
        { indexed with
          supiSm := indexed.supiSm.allocateNamed _ (PcfUeSm.new_id supi) rfl }
  | ueSmRemove id =>
    simp only [operate, ueSmRemove, ownersAfter]
    cases found : context.ueSmFindById id with
    | none => exact indexed
    | some ueSm =>
      obtain ⟨supi, noSess⟩ := takesOwn ueSm found
      have unused : context.sessList.records.filter (fun sess => sess.pcfUeSmId = id) = [] :=
        filter_eq_nil_iff.mpr fun sess isSess => by simpa using noSess sess isSess
      simp only [sessRemoveAllForUe, unused, map_nil, foldl_nil]
      exact { indexed with supiSm := indexed.supiSm.erase found supi }
  | sessAdd pcfUeSmId psi uuid =>
    have added := indexed.addSess pcfUeSmId psi uuid takesOwn
    simp only [operate, sessAdd, ownersAfter]
    split
    · exact indexed
    · exact added
  | sessRemove id =>
    cases found : context.sessFindById id with
    | none =>
      simp only [operate, sessRemove, found]
      exact indexed
    | some sess => exact indexed.removeSess found takesOwn
  | sessUpdate sess =>
    cases found : context.sessFindById sess.id with
    | none =>
      simp only [operate, sessUpdate, ownersAfter, found]
      exact indexed
    | some existing => exact indexed.updateSess found takesOwn
  | appAdd sessId uuid => exact indexed.addApp sessId uuid
  | appRemove id =>
    cases found : context.appFindById id with
    | none =>
      simp only [operate, appRemove, found]
      exact indexed
    | some app => exact indexed.removeApp found takesOwn

omit indexed

end Coherence

def indexMachine : Machine (PcfContext × PcfOwners) PcfOperation Unit where
  step joint operation :=
    ((joint.1.operate operation, ownersAfter joint.2 joint.1 operation), ())

/-- The removed sessions and their application sessions are found no more, the hash maps are
coherent and without stale keys, and application sessions have live sessions. -/
structure Cascades (context : PcfContext) (owners : PcfOwners) : Prop where
  coherent : context.Coherent owners
  forgets : ∀ operation sessId, context.TakesOwn operation → context.removes operation sessId →
    (context.operate operation).Forgotten sessId

/-- In every run of operations that take only their own keys and remove nothing that owns
something, the lookups are coherent in every state; and a session that is removed by its number
is forgotten with all its application sessions in whatever state. -/
theorem pcf_cascades (maxUe maxSess : ℕ) (operations : List PcfOperation) :
  (indexMachine.Along (fun joint operation => joint.1.TakesOwn operation)
      (.init maxUe maxSess, .none) operations →
    Cascades (indexMachine.run (.init maxUe maxSess, .none) operations).1
      (indexMachine.run (.init maxUe maxSess, .none) operations).2) ∧
  ∀ (context : PcfContext) (sessId : ℕ), context.sessFindById sessId ≠ none →
    (context.operate (.sessRemove sessId)).Forgotten sessId := by
  refine ⟨fun along => ?_, fun context sessId live => forgotten_sessRemove live⟩
  have kept : ∀ (joint : PcfContext × PcfOwners) operation, Indexed joint.1 joint.2 →
      joint.1.TakesOwn operation →
        Indexed (indexMachine.step joint operation).1.1 (indexMachine.step joint operation).1.2 :=
    fun _ _ indexed takesOwn => indexed.step takesOwn
  have atEnd := indexMachine.invariant_run kept (indexed_init maxUe maxSess) along
  exact ⟨atEnd.coherent, fun _ _ takesOwn isRemoved => forgotten_of_removes takesOwn isRemoved⟩

/-- Two sessions of one UE, of which the second takes the address of the first and gives it
up before the first goes. -/
def inOrder : List PcfOperation :=
  [.ueSmAdd "imsi-1", .sessAdd 1 5 "policy-1", .sessAdd 1 6 "policy-2", .appAdd 2 "app-1",
    .sessUpdate ⟨2, "policy-2", 6, none, 10, [1], 1⟩,
    .sessUpdate ⟨2, "policy-2", 6, some "2001:db8::/64", 11, [1], 1⟩,
    .sessUpdate ⟨1, "policy-1", 5, none, 10, [], 1⟩, .appRemove 1, .sessRemove 2,
    .sessRemove 1, .ueSmRemove 1, .ueAmAdd "imsi-1" "association-1", .ueAmRemove 1]

theorem pcf_cascades_in_order : Cascades (indexMachine.run (.init 4 4, .none) inOrder).1
    (indexMachine.run (.init 4 4, .none) inOrder).2 ∧
  ((indexMachine.run (.init 4 4, .none) (inOrder.take 4)).1.operate (.sessRemove 2)).Forgotten
    2 :=
  ⟨(pcf_cascades 4 4 inOrder).1 (by decide),
    (pcf_cascades 4 4 []).2 _ 2 (by decide)⟩

def ueGoes : List PcfOperation :=
  [.ueSmAdd "imsi-1", .sessAdd 1 5 "policy-1", .appAdd 1 "app-1", .ueSmRemove 1]

def addressMoves : List PcfOperation :=
  [.ueSmAdd "imsi-1", .sessAdd 1 5 "policy-1", .sessAdd 1 6 "policy-2",
    .sessUpdate ⟨1, "policy-1", 5, none, 10, [], 1⟩,
    .sessUpdate ⟨2, "policy-2", 6, none, 10, [], 1⟩, .sessRemove 1]

/-- The application session of a session that went with its UE is still found, and the SM
policy id of the session stays; and a session is not found by the address that it was given
last. -/
theorem pcf_cascade_incomplete : ¬ (indexMachine.run (.init 4 4, .none) ueGoes).1.Forgotten 1 ∧
    ¬ Coherent (indexMachine.run (.init 4 4, .none) ueGoes).1
      (indexMachine.run (.init 4 4, .none) ueGoes).2 ∧
    ¬ Coherent (indexMachine.run (.init 4 4, .none) addressMoves).1
      (indexMachine.run (.init 4 4, .none) addressMoves).2 := by
  refine ⟨?_, ?_, ?_⟩
  · intro forgotten
    exact forgotten.appByAppSessionId "app-1" ⟨1, "app-1", 1⟩ (by decide) rfl
  · intro coherent
    have gone : (indexMachine.run (.init 4 4, .none) ueGoes).1.sessFindById 1 = none := by
      decide
    obtain ⟨sess, live, -⟩ := coherent.withoutStaleKeys.smPolicyId "policy-1" 1 (by decide)
    rw [gone] at live
    cases live
  · intro coherent
    have found := coherent.found.ipv4addr.finds 2 ⟨2, "policy-2", 6, none, 10, [], 1⟩ 10
      (by decide) (by decide) (by decide)
    exact absurd (congrArg isSome found) (by decide)

end PcfContext

end NextGCore.Pcf
