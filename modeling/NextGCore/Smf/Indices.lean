import NextGCore.Smf.Operations

/-!
# The indices of the SMF context

Eight tables are edited by the operations on UEs and sessions.  Keys are deleted
by value, whoever they lead to, and a whole record may be overwritten.  Beside
the context stands the record of what each key was given to last; as long as
operations take only their own keys, every lookup agrees with it.
-/

namespace NextGCore.Smf

open Library Option Nat OwnedIndex
open Crypt (Bytes)

structure SmfOwners where
  supi : String → Option ℕ
  imsi : Bytes → Option ℕ
  seid : ℕ → Option ℕ
  teid : UInt32 → Option ℕ
  ipv4 : Ipv4Addr → Option ℕ
  ipv6 : Vector UInt8 8 → Option ℕ
  n1n2 : String → Option ℕ

variable (owners : SmfOwners)

def SmfOwners.none : SmfOwners where
  supi _ := .none
  imsi _ := .none
  seid _ := .none
  teid _ := .none
  ipv4 _ := .none
  ipv6 _ := .none
  n1n2 _ := .none

def SmfOwners.withSess (sess : SmfSess) : SmfOwners :=
  { owners with
    seid := assign owners.seid sess.id (some sess.smfN4Seid)
    teid := assign owners.teid sess.id (some sess.smfN4Teid) }

@[simp]
lemma SmfOwners.withSess_seid (sess : SmfSess) :
  (owners.withSess sess).seid = assign owners.seid sess.id (some sess.smfN4Seid) := rfl

def reassign {Field Key : Type} [DecidableEq Field] [DecidableEq Key]
  (owner : Key → Option ℕ) (id : ℕ) (old new : Field) (key : Option Key) : Key → Option ℕ :=
  if old = new then owner else assign owner id key

namespace SmfContext

/-- An addition gives a UE its name and a session its SEID and TEID; an update
gives the keys of the fields in which the records differ. -/
def ownersAfter (owners : SmfOwners) (context : SmfContext) : SmfOperation → SmfOwners
  | .ueAddBySupi supi =>
    match context.ueAddBySupi supi with
    | none => owners
    | some (_, ue) => { owners with supi := assign owners.supi ue.id (some supi) }
  | .ueAddByImsi imsi =>
    match context.ueAddByImsi imsi with
    | none => owners
    | some (_, ue) => { owners with imsi := assign owners.imsi ue.id (some imsi) }
  | .ueUpdate ue =>
    match context.ueFindById ue.id with
    | none => owners
    | some existing =>
      { owners with
        supi := reassign owners.supi ue.id existing.supi ue.supi ue.supi
        imsi := reassign owners.imsi ue.id existing.imsi ue.imsi (some ue.imsi) }
  | .sessAddByPsi smfUeId psi =>
    match context.sessAddByPsi smfUeId psi with
    | none => owners
    | some (_, sess) => owners.withSess sess
  | .sessAddByApn smfUeId apn ratType =>
    match context.sessAddByApn smfUeId apn ratType with
    | none => owners
    | some (_, sess) => owners.withSess sess
  | .sessUpdate sess =>
    match context.sessFindById sess.id with
    | none => owners
    | some existing =>
      { owners with
        seid := reassign owners.seid sess.id existing.smfN4Seid sess.smfN4Seid (some sess.smfN4Seid)
        teid := reassign owners.teid sess.id existing.smfN4Teid sess.smfN4Teid (some sess.smfN4Teid)
        ipv4 := reassign owners.ipv4 sess.id existing.ipv4Addr sess.ipv4Addr sess.ipv4Addr
        ipv6 := reassign owners.ipv6 sess.id existing.ipv6Prefix sess.ipv6Prefix sess.ipv6Key
        n1n2 := reassign owners.n1n2 sess.id existing.pagingN1n2messageLocation
          sess.pagingN1n2messageLocation sess.pagingN1n2messageLocation }
  | .ueRemove _ _ | .ueRemoveAll | .sessRemove _ | .allocate | .release _ => owners

/-- Every live UE and session is found by the keys it was the last to be given,
what is found is live, and each UE lists its live sessions. -/
structure Coherent (context : SmfContext) (owners : SmfOwners) : Prop where
  supi : FindsOwners context.ueFindById SmfUe.supi context.ueFindBySupi owners.supi
  imsi : FindsOwners context.ueFindById (fun ue => some ue.imsi) context.ueFindByImsi owners.imsi
  seid : FindsOwners context.sessFindById (fun sess => some sess.smfN4Seid)
    context.sessFindBySeid owners.seid
  teid : FindsOwners context.sessFindById (fun sess => some sess.smfN4Teid)
    context.sessFindByTeid owners.teid
  ipv4 : FindsOwners context.sessFindById SmfSess.ipv4Addr context.sessFindByIpv4 owners.ipv4
  ipv6 : FindsOwners context.sessFindById SmfSess.ipv6Key context.sessFindByIpv6 owners.ipv6
  n1n2 : FindsOwners context.sessFindById SmfSess.pagingN1n2messageLocation
    context.sessFindByPagingN1n2messageLocation owners.n1n2
  liveUes : FindsStored context.ueFindById SmfUe.id context.ueFindBySupi ∧
    FindsStored context.ueFindById SmfUe.id context.ueFindByImsi
  liveSessions : FindsStored context.sessFindById SmfSess.id context.sessFindBySeid ∧
    FindsStored context.sessFindById SmfSess.id context.sessFindByTeid ∧
    FindsStored context.sessFindById SmfSess.id context.sessFindByIpv4 ∧
    FindsStored context.sessFindById SmfSess.id context.sessFindByIpv6 ∧
    FindsStored context.sessFindById SmfSess.id context.sessFindByPagingN1n2messageLocation
  sessIds : ∀ id ue, context.ueFindById id = some ue →
    ∀ sid, sid ∈ ue.sessIds ↔ ∃ sess, context.sessFindById sid = some sess ∧ sess.smfUeId = id

def targetUes (context : SmfContext) : SmfOperation → ℕ → Prop
  | .ueAddBySupi _ | .ueAddByImsi _ => (· = context.smfUeList.next)
  | .ueUpdate ue => (· = ue.id)
  | .ueRemove id _ => (· = id)
  | .ueRemoveAll => fun _ => True
  | _ => fun _ => False

def targetSessions (context : SmfContext) : SmfOperation → ℕ → Prop
  | .sessAddByPsi _ _ | .sessAddByApn _ _ _ => (· = context.sessList.next)
  | .sessUpdate sess => (· = sess.id)
  | .sessRemove id => (· = id)
  | .ueRemove id _ => (· ∈ context.sessIdsOf id)
  | .ueRemoveAll => fun _ => True
  | _ => fun _ => False

/-- What a key finds before an operation it finds after, unless it is a target of
the operation or makes way for one. -/
structure SparesOthers (context next : SmfContext) (operation : SmfOperation) : Prop where
  supi : Spares SmfUe.id (context.targetUes operation) context.ueFindBySupi next.ueFindBySupi
  imsi : Spares SmfUe.id (context.targetUes operation) context.ueFindByImsi next.ueFindByImsi
  seid : Spares SmfSess.id (context.targetSessions operation)
    context.sessFindBySeid next.sessFindBySeid
  teid : Spares SmfSess.id (context.targetSessions operation)
    context.sessFindByTeid next.sessFindByTeid
  ipv4 : Spares SmfSess.id (context.targetSessions operation)
    context.sessFindByIpv4 next.sessFindByIpv4
  ipv6 : Spares SmfSess.id (context.targetSessions operation)
    context.sessFindByIpv6 next.sessFindByIpv6
  n1n2 : Spares SmfSess.id (context.targetSessions operation)
    context.sessFindByPagingN1n2messageLocation next.sessFindByPagingN1n2messageLocation

def FindsOnly {Key Record : Type} (find : Key → Option Record) (number : Record → ℕ)
  (ids : List ℕ) (key : Option Key) : Prop :=
  ∀ name ∈ key, ∀ found ∈ find name, number found ∈ ids

instance decidableFindsOnly {Key Record : Type} (find : Key → Option Record) (number : Record → ℕ)
  (ids : List ℕ) (key : Option Key) : Decidable (FindsOnly find number ids key) :=
  inferInstanceAs (Decidable (∀ _ ∈ _, ∀ _ ∈ _, _ ∈ _))

structure OwnKeys (context : SmfContext) (ids : List ℕ) (sess : SmfSess) : Prop where
  ipv4 : FindsOnly context.sessFindByIpv4 SmfSess.id ids sess.ipv4Addr
  ipv6 : FindsOnly context.sessFindByIpv6 SmfSess.id ids sess.ipv6Key
  n1n2 : FindsOnly context.sessFindByPagingN1n2messageLocation SmfSess.id ids
    sess.pagingN1n2messageLocation

instance decidableOwnKeys (context : SmfContext) (ids : List ℕ) (sess : SmfSess) :
  Decidable (context.OwnKeys ids sess) :=
  decidable_of_iff (FindsOnly context.sessFindByIpv4 SmfSess.id ids sess.ipv4Addr ∧
      FindsOnly context.sessFindByIpv6 SmfSess.id ids sess.ipv6Key ∧
      FindsOnly context.sessFindByPagingN1n2messageLocation SmfSess.id ids
        sess.pagingN1n2messageLocation)
    ⟨fun keys => ⟨keys.1, keys.2.1, keys.2.2⟩, fun keys => ⟨keys.ipv4, keys.ipv6, keys.n1n2⟩⟩

def SameMembers (left right : List ℕ) : Prop := left ⊆ right ∧ right ⊆ left

instance decidableSameMembers (left right : List ℕ) : Decidable (SameMembers left right) :=
  inferInstanceAs (Decidable ((∀ sid ∈ left, sid ∈ right) ∧ ∀ sid ∈ right, sid ∈ left))

def TakesOwn (context : SmfContext) : SmfOperation → Prop
  -- A new UE lists no sessions.
  | .ueAddBySupi _ | .ueAddByImsi _ => context.sessIdsOf context.smfUeList.next = []
  -- The names are not indexed again, and the sessions are taken from the record.
  | .ueUpdate ue =>
    ∀ existing ∈ context.ueFindById ue.id, existing.supi = ue.supi ∧ existing.imsi = ue.imsi ∧
        SameMembers existing.sessIds ue.sessIds
  | .ueRemove id _ =>
    (∀ ue ∈ context.ueFindById id, FindsOnly context.ueFindBySupi SmfUe.id [id] ue.supi ∧
        (ue.imsi ≠ [] → FindsOnly context.ueFindByImsi SmfUe.id [id] (some ue.imsi))) ∧
      ∀ sid ∈ context.sessIdsOf id, ∀ sess ∈ context.sessFindById sid,
        context.OwnKeys (context.sessIdsOf id) sess
  -- The TEID is the SEID cut to 32 bits, but it is looked up as a SEID.
  | .sessAddByPsi _ _ | .sessAddByApn _ _ _ => context.n4SeidGenerator < 2 ^ 32
  | .sessUpdate sess =>
    ∀ existing ∈ context.sessFindById sess.id,
      existing.smfN4Seid = sess.smfN4Seid ∧ existing.smfN4Teid = sess.smfN4Teid ∧
      existing.smfUeId = sess.smfUeId ∧
      (existing.ipv4Addr ≠ sess.ipv4Addr →
        FindsOnly context.sessFindByIpv4 SmfSess.id [sess.id] existing.ipv4Addr) ∧
      (existing.ipv6Key ≠ sess.ipv6Key →
        FindsOnly context.sessFindByIpv6 SmfSess.id [sess.id] existing.ipv6Key) ∧
      (existing.pagingN1n2messageLocation ≠ sess.pagingN1n2messageLocation →
        FindsOnly context.sessFindByPagingN1n2messageLocation SmfSess.id [sess.id]
          existing.pagingN1n2messageLocation)
  | .sessRemove id => ∀ sess ∈ context.sessFindById id, context.OwnKeys [id] sess
  | .ueRemoveAll | .allocate | .release _ => True

instance decidableTakesOwn (context : SmfContext) :
    (operation : SmfOperation) → Decidable (context.TakesOwn operation)
  | .ueAddBySupi _ | .ueAddByImsi _ => inferInstanceAs (Decidable (_ = _))
  | .ueUpdate _ => inferInstanceAs (Decidable (∀ _ ∈ _, _ ∧ _ ∧ SameMembers _ _))
  | .ueRemove _ _ =>
    inferInstanceAs (Decidable ((∀ _ ∈ _, FindsOnly _ _ _ _ ∧ (_ → FindsOnly _ _ _ _)) ∧
      ∀ _ ∈ _, ∀ _ ∈ _, OwnKeys _ _ _))
  | .sessAddByPsi _ _ | .sessAddByApn _ _ _ => inferInstanceAs (Decidable (_ < _))
  | .sessUpdate _ =>
    inferInstanceAs (Decidable (∀ _ ∈ _, _ ∧ _ ∧ _ ∧ (_ → FindsOnly _ _ _ _) ∧
      (_ → FindsOnly _ _ _ _) ∧ (_ → FindsOnly _ _ _ _)))
  | .sessRemove _ => inferInstanceAs (Decidable (∀ _ ∈ _, OwnKeys _ _ _))
  | .ueRemoveAll | .allocate | .release _ => inferInstanceAs (Decidable True)

variable {context next : SmfContext} {owners : SmfOwners}

/-- The names of the UEs agree with their owners, and none was given to a UE to
come. -/
structure UesIndexed (context : SmfContext) (owners : SmfOwners) : Prop where
  supi : OwnedIndex context.ueFindById SmfUe.supi context.supiHash.lookup owners.supi
  imsi : OwnedIndex context.ueFindById (fun ue => some ue.imsi) context.imsiHash.lookup owners.imsi
  supiIssued : ∀ supi id, owners.supi supi = some id → id < context.smfUeList.next
  imsiIssued : ∀ imsi id, owners.imsi imsi = some id → id < context.smfUeList.next

/-- The keys of the sessions agree with their owners, and each session has a
SEID of its own that fits its TEID. -/
structure SessionsIndexed (context : SmfContext) (owners : SmfOwners) : Prop where
  seid : OwnedIndex context.sessFindById (fun sess => some sess.smfN4Seid)
    context.smfN4SeidHash.lookup owners.seid
  ipv4 : OwnedIndex context.sessFindById SmfSess.ipv4Addr context.ipv4Hash.lookup owners.ipv4
  ipv6 : OwnedIndex context.sessFindById SmfSess.ipv6Key context.ipv6Hash.lookup owners.ipv6
  n1n2 : OwnedIndex context.sessFindById SmfSess.pagingN1n2messageLocation
    context.n1n2messageHash.lookup owners.n1n2
  ipv4Issued : ∀ addr id, owners.ipv4 addr = some id → id < context.sessList.next
  ipv6Issued : ∀ addr id, owners.ipv6 addr = some id → id < context.sessList.next
  n1n2Issued : ∀ location id, owners.n1n2 location = some id → id < context.sessList.next
  seidIssued : ∀ seid id, owners.seid seid = some id →
    id < context.sessList.next ∧ seid < context.n4SeidGenerator
  ownSeid : ∀ id sess, context.sessFindById id = some sess → owners.seid sess.smfN4Seid = some id
  teid : ∀ id sess, context.sessFindById id = some sess → sess.smfN4Teid.toNat = sess.smfN4Seid

def ListsSessions (context : SmfContext) : Prop :=
  ∀ id ue, context.ueFindById id = some ue →
    ∀ sid, sid ∈ ue.sessIds ↔ ∃ sess, context.sessFindById sid = some sess ∧ sess.smfUeId = id

lemma ownKey_of_findsOnly {Key Record : Type} {records : ℕ → Option Record}
  {index : Key → Option ℕ} {number : Record → ℕ}
  (numbered : ∀ id record, records id = some record → number record = id)
  {id : ℕ} {key : Option Key} (only : FindsOnly (search records index) number [id] key) :
  OwnKey records index id key := by
  intro name other isKey entry
  rcases own_of_search numbered only name other isKey entry with here | missing
  · exact .inl (List.mem_singleton.mp here)
  · exact .inr missing

namespace UesIndexed

variable {ue : SmfUe}

lemma init (maxUe maxSess : ℕ) : UesIndexed (.init maxUe maxSess) .none where
  supi := .empty
  imsi := .empty
  supiIssued _ _ given := by cases given
  imsiIssued _ _ given := by cases given

lemma keeps {owners' : SmfOwners} (indexed : UesIndexed context owners)
  (keeps : KeepsUes context next)
  (sameSupi : owners'.supi = owners.supi) (sameImsi : owners'.imsi = owners.imsi) :
  UesIndexed next owners' := by
  have supis : ∀ id, (next.ueFindById id).map SmfUe.supi =
      (context.ueFindById id).map SmfUe.supi := by
    intro id
    have names := congrArg (Option.map Prod.fst) (keeps.names id)
    rwa [map_map, map_map] at names
  have imsis : ∀ id, (next.ueFindById id).map (fun ue => some ue.imsi) =
      (context.ueFindById id).map fun ue => some ue.imsi := by
    intro id
    have names := congrArg (Option.map fun names => some names.2) (keeps.names id)
    rwa [map_map, map_map] at names
  constructor
  · rw [keeps.supiHash, sameSupi]
    exact indexed.supi.relabel supis
  · rw [keeps.imsiHash, sameImsi]
    exact indexed.imsi.relabel imsis
  · rw [keeps.issued, sameSupi]
    exact indexed.supiIssued
  · rw [keeps.issued, sameImsi]
    exact indexed.imsiIssued

lemma fresh_supi (indexed : UesIndexed context owners) (supi : String) :
  owners.supi supi ≠ some context.smfUeList.next := by
  intro given
  exact absurd (indexed.supiIssued supi _ given) (Nat.lt_irrefl _)

lemma fresh_imsi (indexed : UesIndexed context owners) (imsi : Bytes) :
  owners.imsi imsi ≠ some context.smfUeList.next := by
  intro given
  exact absurd (indexed.imsiIssued imsi _ given) (Nat.lt_irrefl _)

lemma ueAddBySupi {supi : String} (indexed : UesIndexed context owners)
  (added : context.ueAddBySupi supi = some (next, ue)) :
  UesIndexed next { owners with supi := assign owners.supi ue.id (some supi) } := by
  obtain ⟨same, rfl, counted, table, supiHash⟩ := ueAddBySupi_eq added
  have imsiHash : next.imsiHash = context.imsiHash := by rw [same]
  constructor
  · rw [table, supiHash]
    apply indexed.supi.give
    intro key entry
    exact absurd (indexed.supi.owned entry) (indexed.fresh_supi key)
  · rw [table, imsiHash]
    exact indexed.imsi.store indexed.fresh_imsi _
  · rw [counted]
    exact assign_lt indexed.supiIssued (le_succ _) (lt_succ_self _) (some supi)
  · intro key id given
    rw [counted]
    exact lt_succ_of_lt (indexed.imsiIssued key id given)

lemma ueAddByImsi {imsi : Bytes} (indexed : UesIndexed context owners)
  (added : context.ueAddByImsi imsi = some (next, ue)) :
  UesIndexed next { owners with imsi := assign owners.imsi ue.id (some imsi) } := by
  obtain ⟨same, rfl, counted, table, imsiHash⟩ := ueAddByImsi_eq added
  have supiHash : next.supiHash = context.supiHash := by rw [same]
  constructor
  · rw [table, supiHash]
    exact indexed.supi.store indexed.fresh_supi _
  · rw [table, imsiHash]
    apply indexed.imsi.give
    intro key entry
    exact absurd (indexed.imsi.owned entry) (indexed.fresh_imsi key)
  · intro key id given
    rw [counted]
    exact lt_succ_of_lt (indexed.supiIssued key id given)
  · rw [counted]
    exact assign_lt indexed.imsiIssued (le_succ _) (lt_succ_self _) (some imsi)

lemma keepsUes_ueUpdate {existing : SmfUe} (found : context.ueFindById ue.id = some existing)
  (sameSupi : existing.supi = ue.supi) (sameImsi : existing.imsi = ue.imsi) :
  KeepsUes context (context.ueUpdate ue) where
  supiHash := rfl
  imsiHash := rfl
  issued := NumberedTable.update_next _ _
  names id := by
    rw [ueUpdate_eq found, Function.update_apply]
    by_cases same : id = ue.id
    · rw [if_pos same, same, found, map_some, map_some, sameSupi, sameImsi]
    · rw [if_neg same]

lemma dropUe {id : ℕ} (indexed : UesIndexed context owners) (own : ∀ ue ∈ context.ueFindById id,
    FindsOnly context.ueFindBySupi SmfUe.id [id] ue.supi ∧
      (ue.imsi ≠ [] → FindsOnly context.ueFindByImsi SmfUe.id [id] (some ue.imsi))) :
  UesIndexed (context.dropUe id) owners := by
  cases found : context.ueFindById id with
  | none =>
    rw [dropUe_of_missing found]
    exact indexed
  | some ue =>
    obtain ⟨ownSupi, ownImsi⟩ := own ue found
    obtain ⟨table, supiHash, imsiHash, issued⟩ := dropUe_eq found
    have numbered : ∀ id ue, context.ueFindById id = some ue → ue.id = id :=
      fun _ _ found => numberedUe found
    constructor
    · rw [table, supiHash]
      exact indexed.supi.remove (ownKey_of_findsOnly numbered ownSupi)
    · rw [table, imsiHash]
      by_cases empty : ue.imsi = []
      · rw [if_pos empty]
        exact indexed.imsi.vacate id
      · rw [if_neg empty]
        exact indexed.imsi.remove (ownKey_of_findsOnly numbered (ownImsi empty))
    · rw [issued]
      exact indexed.supiIssued
    · rw [issued]
      exact indexed.imsiIssued

lemma ueRemoveAll (indexed : UesIndexed context owners) :
  UesIndexed context.ueRemoveAll owners where
  supi := by
    rw [ueRemoveAll_ues]
    exact .empty
  imsi := by
    rw [ueRemoveAll_ues]
    exact .empty
  supiIssued := indexed.supiIssued
  imsiIssued := indexed.imsiIssued

end UesIndexed

namespace SessionsIndexed

variable {Key : Type} {sess : SmfSess} {ids : List ℕ} {owner : Key → Option ℕ}

lemma init (maxUe maxSess : ℕ) : SessionsIndexed (.init maxUe maxSess) .none where
  seid := .empty
  ipv4 := .empty
  ipv6 := .empty
  n1n2 := .empty
  ipv4Issued _ _ given := by cases given
  ipv6Issued _ _ given := by cases given
  n1n2Issued _ _ given := by cases given
  seidIssued _ _ given := by cases given
  ownSeid _ _ found := by cases found
  teid _ _ found := by cases found

lemma fresh_of_issued {bound : ℕ} (issued : ∀ key id, owner key = some id → id < bound)
  (key : Key) : owner key ≠ some bound := by
  intro given
  exact absurd (issued key bound given) (Nat.lt_irrefl _)

lemma sessAdd {smfUeId : ℕ} (indexed : SessionsIndexed context owners)
  (fits : context.n4SeidGenerator < 2 ^ 32) (added : SessAdded context next smfUeId sess) :
  SessionsIndexed next (owners.withSess sess) := by
  obtain ⟨ipv4Hash, ipv6Hash, n1n2Hash⟩ := added.hashes
  have stored : ∀ {id other}, next.sessFindById id = some other →
      (id = context.sessList.next ∧ sess = other) ∨
        (id ≠ context.sessList.next ∧ context.sessFindById id = some other) := by
    intro id other found
    rw [added.table] at found
    exact of_update_some found
  have seidFresh : ∀ id, owners.seid context.n4SeidGenerator ≠ some id := by
    intro id given
    exact absurd (indexed.seidIssued _ id given).2 (Nat.lt_irrefl _)
  constructor
  · rw [added.table, added.seidHash, ← added.seid, SmfOwners.withSess_seid, added.id]
    apply indexed.seid.give
    intro seid entry
    exact absurd (indexed.seidIssued seid _ (indexed.seid.owned entry)).1 (Nat.lt_irrefl _)
  · rw [added.table, ipv4Hash]
    exact indexed.ipv4.store (fresh_of_issued indexed.ipv4Issued) sess
  · rw [added.table, ipv6Hash]
    exact indexed.ipv6.store (fresh_of_issued indexed.ipv6Issued) sess
  · rw [added.table, n1n2Hash]
    exact indexed.n1n2.store (fresh_of_issued indexed.n1n2Issued) sess
  · intro addr id given
    rw [added.issued]
    exact lt_succ_of_lt (indexed.ipv4Issued addr id given)
  · intro addr id given
    rw [added.issued]
    exact lt_succ_of_lt (indexed.ipv6Issued addr id given)
  · intro location id given
    rw [added.issued]
    exact lt_succ_of_lt (indexed.n1n2Issued location id given)
  · intro seid id given
    rw [added.issued, added.generated]
    rw [SmfOwners.withSess_seid] at given
    rcases of_assign given with ⟨isSeid, rfl⟩ | ⟨-, before⟩
    · rw [← Option.some.inj isSeid, added.id, added.seid]
      exact ⟨lt_succ_self _, lt_succ_self _⟩
    · obtain ⟨issued, generated⟩ := indexed.seidIssued seid id before
      exact ⟨lt_succ_of_lt issued, lt_succ_of_lt generated⟩
  · intro id other found
    rcases stored found with ⟨rfl, rfl⟩ | ⟨_, before⟩
    · rw [SmfOwners.withSess_seid, assign_self, added.id]
    · have own := indexed.ownSeid id other before
      rw [SmfOwners.withSess_seid]
      refine (assign_of_ne ?_).trans own
      intro same
      apply seidFresh id
      rw [← added.seid, Option.some.inj same]
      exact own
  · intro id other found
    rcases stored found with ⟨rfl, rfl⟩ | ⟨_, before⟩
    · rw [added.teid, added.seid]
      exact mod_eq_of_lt fits
    · exact indexed.teid id other before

lemma sessUpdate {existing : SmfSess} (indexed : SessionsIndexed context owners)
  (found : context.sessFindById sess.id = some existing)
  (takesOwn : context.TakesOwn (.sessUpdate sess)) :
  SessionsIndexed (context.sessUpdate sess) (ownersAfter owners context (.sessUpdate sess)) := by
  obtain ⟨sameSeid, sameTeid, -, ownIpv4, ownIpv6, ownN1n2⟩ := takesOwn existing found
  obtain ⟨table, seidHash, ipv4Hash, ipv6Hash, n1n2Hash, issued, generated, -⟩ :=
    sessUpdate_eq found
  have numbered : ∀ id sess, context.sessFindById id = some sess → sess.id = id :=
    fun _ _ found => numberedSess found
  have inTable : sess.id < context.sessList.next := NumberedTable.lt_next_of_lookup found
  have reassigned : ∀ {Field Key : Type} [DecidableEq Field] [DecidableEq Key]
      {owner : Key → Option ℕ} {old new : Field} {key : Option Key},
      (∀ key id, owner key = some id → id < context.sessList.next) →
      ∀ name id, reassign owner sess.id old new key name = some id →
        id < context.sessList.next := by
    intro Field Key _ _ owner old new key below
    unfold reassign
    split
    · exact below
    · exact assign_lt below (Nat.le_refl _) inTable key
  have stored : ∀ {id other}, (context.sessUpdate sess).sessFindById id = some other →
      (id = sess.id ∧ sess = other) ∨ (id ≠ sess.id ∧ context.sessFindById id = some other) := by
    intro id other later
    rw [table] at later
    exact of_update_some later
  simp only [ownersAfter, found]
  constructor
  · rw [table, seidHash]
    simp only [reassign, if_pos sameSeid]
    exact indexed.seid.restore found (congrArg some sameSeid.symm)
  · rw [table, ipv4Hash]
    exact indexed.ipv4.rekeyUnless _ found id
      (fun differ => ownKey_of_findsOnly numbered (ownIpv4 differ))
  · rw [table, ipv6Hash]
    exact indexed.ipv6.rekeyUnless _ found (fun same => by rw [SmfSess.ipv6Key, same]; rfl)
      (fun differ => ownKey_of_findsOnly numbered (ownIpv6 differ))
  · rw [table, n1n2Hash]
    exact indexed.n1n2.rekeyUnless _ found id
      (fun differ => ownKey_of_findsOnly numbered (ownN1n2 differ))
  · rw [issued]
    exact reassigned indexed.ipv4Issued
  · rw [issued]
    exact reassigned indexed.ipv6Issued
  · rw [issued]
    exact reassigned indexed.n1n2Issued
  · rw [issued, generated]
    simp only [reassign, if_pos sameSeid]
    exact indexed.seidIssued
  · intro id other later
    simp only [reassign, if_pos sameSeid]
    rcases stored later with ⟨rfl, rfl⟩ | ⟨_, before⟩
    · rw [← sameSeid]
      exact indexed.ownSeid _ existing found
    · exact indexed.ownSeid id other before
  · intro id other later
    rcases stored later with ⟨rfl, rfl⟩ | ⟨_, before⟩
    · rw [← sameSeid, ← sameTeid]
      exact indexed.teid _ existing found
    · exact indexed.teid id other before

lemma removedEach [DecidableEq Key] (hash : SmfContext → Key → Option ℕ)
  (keyOf : SmfSess → Option Key)
  (edits : ∀ context id sess, context.sessFindById id = some sess →
    hash (context.sessRemove id) = forget (hash context) (keyOf sess))
  (coherent : OwnedIndex context.sessFindById keyOf (hash context) owner)
  (own : ∀ sid ∈ ids, ∀ sess ∈ context.sessFindById sid,
    FindsOnly (search context.sessFindById (hash context)) SmfSess.id ids (keyOf sess)) :
  OwnedIndex (ids.foldl sessRemove context).sessFindById keyOf
    (hash (ids.foldl sessRemove context)) owner := by
  have removed := coherent.removeEach (fun sid gone sess found =>
    own_of_search (fun _ _ found => numberedSess found) (own sid gone sess found))
  have views := view_foldl edits ids context
  unfold view at views
  rwa [← views] at removed

lemma removeEach (indexed : SessionsIndexed context owners)
  (own : ∀ sid ∈ ids, ∀ sess ∈ context.sessFindById sid, context.OwnKeys ids sess) :
  SessionsIndexed (ids.foldl sessRemove context) owners := by
  obtain ⟨issued, generated⟩ := foldl_counters ids context
  have stayed : ∀ {id sess}, (ids.foldl sessRemove context).sessFindById id = some sess →
      context.sessFindById id = some sess := by
    intro id sess found
    rw [sessFindById_foldl] at found
    split at found
    · cases found
    · exact found
  -- A SEID leads to its own session, which is one that goes.
  have ownSeid : ∀ sid ∈ ids, ∀ sess ∈ context.sessFindById sid,
      FindsOnly (search context.sessFindById context.smfN4SeidHash.lookup) SmfSess.id ids
        (some sess.smfN4Seid) := by
    intro sid gone sess found seid isSeid other led
    obtain rfl := Option.some.inj isSeid
    obtain ⟨entry, -⟩ :=
      (search_eq_some_iff (fun _ _ found => numberedSess found)).mp led
    have owner := (indexed.ownSeid sid sess found).symm.trans (indexed.seid.owned entry)
    rw [← Option.some.inj owner]
    exact gone
  constructor
  · exact removedEach (fun context => context.smfN4SeidHash.lookup)
      (fun sess => some sess.smfN4Seid) seid_sessRemove indexed.seid ownSeid
  · exact removedEach (fun context => context.ipv4Hash.lookup) SmfSess.ipv4Addr ipv4_sessRemove
      indexed.ipv4 fun sid gone sess found => (own sid gone sess found).ipv4
  · exact removedEach (fun context => context.ipv6Hash.lookup) SmfSess.ipv6Key ipv6_sessRemove
      indexed.ipv6 fun sid gone sess found => (own sid gone sess found).ipv6
  · exact removedEach (fun context => context.n1n2messageHash.lookup)
      SmfSess.pagingN1n2messageLocation n1n2_sessRemove indexed.n1n2
      fun sid gone sess found => (own sid gone sess found).n1n2
  · rw [issued]
    exact indexed.ipv4Issued
  · rw [issued]
    exact indexed.ipv6Issued
  · rw [issued]
    exact indexed.n1n2Issued
  · rw [issued, generated]
    exact indexed.seidIssued
  · intro id sess found
    exact indexed.ownSeid id sess (stayed found)
  · intro id sess found
    exact indexed.teid id sess (stayed found)

lemma ueRemoveAll (indexed : SessionsIndexed context owners) :
  SessionsIndexed context.ueRemoveAll owners := by
  constructor
  · rw [ueRemoveAll_sessions]
    exact .empty
  · rw [ueRemoveAll_sessions]
    exact .empty
  · rw [ueRemoveAll_sessions]
    exact .empty
  · rw [ueRemoveAll_sessions]
    exact .empty
  · exact indexed.ipv4Issued
  · exact indexed.ipv6Issued
  · exact indexed.n1n2Issued
  · exact indexed.seidIssued
  · intro id sess found
    rw [ueRemoveAll_sessions] at found
    cases found
  · intro id sess found
    rw [ueRemoveAll_sessions] at found
    cases found

end SessionsIndexed

end SmfContext

end NextGCore.Smf
