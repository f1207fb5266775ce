import NextGCore.Smf.Indices

/-!
# Coherence of the SMF indices

Runs of operations that take only their own keys.  One operation keeps the
indices of the UEs, the indices of the sessions and the lists of sessions; what
it finds afterwards follows from their coherence before and after it.
-/

namespace NextGCore.Smf.SmfContext

open Library Option Function OwnedIndex
open Crypt (Bytes)

variable {context next : SmfContext} {owners : SmfOwners} {operation : SmfOperation}

namespace ListsSessions

variable {ue : SmfUe} {sess : SmfSess}

lemma init (maxUe maxSess : ℕ) : ListsSessions (.init maxUe maxSess) := by
  intro id ue found
  cases found

lemma addUe (lists : context.ListsSessions) (new : ue.sessIds = [])
  (noSessions : context.sessIdsOf context.smfUeList.next = [])
  (table : next.ueFindById = update context.ueFindById context.smfUeList.next (some ue))
  (sessions : next.sessFindById = context.sessFindById) : next.ListsSessions := by
  intro id other found sid
  rw [table] at found
  rw [sessions]
  rcases of_update_some found with ⟨rfl, rfl⟩ | ⟨-, before⟩
  · rw [new, ← mem_sessIdsOf, noSessions]
  · exact lists id other before sid

lemma ueUpdate {existing : SmfUe} (lists : context.ListsSessions)
  (found : context.ueFindById ue.id = some existing)
  (same : SameMembers existing.sessIds ue.sessIds) : (context.ueUpdate ue).ListsSessions := by
  intro id other later sid
  rw [ueUpdate_eq found] at later
  rcases of_update_some later with ⟨rfl, rfl⟩ | ⟨-, before⟩
  · rw [show sid ∈ ue.sessIds ↔ sid ∈ existing.sessIds from
      ⟨fun new => same.2 new, fun old => same.1 old⟩]
    exact lists ue.id existing found sid
  · exact lists id other before sid

lemma dropUe (lists : context.ListsSessions) (id : ℕ) : (context.dropUe id).ListsSessions := by
  cases found : context.ueFindById id with
  | none =>
    rw [dropUe_of_missing found]
    exact lists
  | some ue =>
    have sessions : (context.dropUe id).sessFindById = context.sessFindById := by
      unfold SmfContext.dropUe
      rw [found]
      rfl
    intro other otherUe later sid
    rw [(dropUe_eq found).1] at later
    rw [sessions]
    exact lists other otherUe (of_update_none later).2 sid

lemma sessAdd {smfUeId : ℕ} (lists : context.ListsSessions)
  (added : SessAdded context next smfUeId sess) : next.ListsSessions := by
  intro id ue found sid
  rw [added.ues, ueFindById_withSessIds] at found
  obtain ⟨before, was, rfl⟩ := map_eq_some_iff.mp found
  have unused : context.sessFindById context.sessList.next = none :=
    NumberedTable.lookup_eq_none (Nat.le_refl _)
  rw [added.table]
  by_cases isNew : sid = context.sessList.next
  · subst isNew
    rw [update_self]
    have notListed : context.sessList.next ∉ before.sessIds := by
      intro listed
      obtain ⟨other, stored, -⟩ := (lists id before was _).mp listed
      rw [unused] at stored
      cases stored
    by_cases own : id = smfUeId
    · rw [if_pos own]
      exact iff_of_true (by simp) ⟨sess, rfl, added.ue.trans own.symm⟩
    · rw [if_neg own]
      refine iff_of_false notListed ?_
      rintro ⟨other, isSess, isOwn⟩
      obtain rfl := Option.some.inj isSess
      exact own (isOwn.symm.trans added.ue)
  · rw [update_of_ne isNew, ← lists id before was sid]
    split
    · simp [isNew]
    · exact Iff.rfl

lemma sessUpdate {existing : SmfSess} (lists : context.ListsSessions)
  (found : context.sessFindById sess.id = some existing)
  (sameUe : existing.smfUeId = sess.smfUeId) : (context.sessUpdate sess).ListsSessions := by
  have ues : (context.sessUpdate sess).ueFindById = context.ueFindById := by
    unfold SmfContext.sessUpdate
    rw [found]
    rfl
  intro id ue live sid
  rw [ues] at live
  rw [(sessUpdate_eq found).1, lists id ue live sid]
  by_cases same : sid = sess.id
  · subst same
    rw [update_self, found]
    simp only [Option.some.injEq, exists_eq_left', sameUe]
  · rw [update_of_ne same]

lemma sessRemove (lists : context.ListsSessions) (id : ℕ) :
  (context.sessRemove id).ListsSessions := by
  cases found : context.sessFindById id with
  | none =>
    rw [sessRemove_of_missing found]
    exact lists
  | some sess =>
    intro ueId ue live sid
    rw [sessFindById_sessRemove found]
    rw [sessRemove_eq found, ueFindById_withSessIds] at live
    obtain ⟨before, was, rfl⟩ := map_eq_some_iff.mp live
    have listed := lists ueId before was sid
    by_cases same : sid = id
    · subst same
      rw [update_self]
      refine iff_of_false ?_ (by rintro ⟨_, gone, -⟩; cases gone)
      by_cases own : ueId = sess.smfUeId
      · rw [if_pos own]
        simp
      · rw [if_neg own, listed]
        rintro ⟨other, stored, isOwn⟩
        rw [found] at stored
        obtain rfl := Option.some.inj stored
        exact own isOwn.symm
    · rw [update_of_ne same, ← listed]
      split
      · simp [same]
      · exact Iff.rfl

lemma removeEach (lists : context.ListsSessions) (ids : List ℕ) :
  (ids.foldl SmfContext.sessRemove context).ListsSessions := by
  induction ids generalizing context with
  | nil => exact lists
  | cons id ids ih => exact ih (lists.sessRemove id)

lemma ueRemoveAll (context : SmfContext) : context.ueRemoveAll.ListsSessions := by
  intro id ue found
  rw [ueRemoveAll_ues] at found
  cases found

end ListsSessions

structure Indexed (context : SmfContext) (owners : SmfOwners) : Prop where
  ues : UesIndexed context owners
  sessions : SessionsIndexed context owners
  lists : context.ListsSessions

lemma indexed_init (maxUe maxSess : ℕ) : Indexed (.init maxUe maxSess) .none where
  ues := .init maxUe maxSess
  sessions := .init maxUe maxSess
  lists := .init maxUe maxSess

lemma SessionsIndexed.keeps {owners' : SmfOwners} (indexed : SessionsIndexed context owners)
  (sessions : next.sessList = context.sessList)
  (hashes : next.smfN4SeidHash = context.smfN4SeidHash ∧ next.ipv4Hash = context.ipv4Hash ∧
    next.ipv6Hash = context.ipv6Hash ∧ next.n1n2messageHash = context.n1n2messageHash)
  (generated : next.n4SeidGenerator = context.n4SeidGenerator)
  (sameOwners : owners'.seid = owners.seid ∧ owners'.ipv4 = owners.ipv4 ∧
    owners'.ipv6 = owners.ipv6 ∧ owners'.n1n2 = owners.n1n2) :
  SessionsIndexed next owners' := by
  obtain ⟨seidHash, ipv4Hash, ipv6Hash, n1n2Hash⟩ := hashes
  obtain ⟨seid, ipv4, ipv6, n1n2⟩ := sameOwners
  have table : next.sessFindById = context.sessFindById := by
    unfold sessFindById
    rw [sessions]
  constructor
  · rw [table, seidHash, seid]
    exact indexed.seid
  · rw [table, ipv4Hash, ipv4]
    exact indexed.ipv4
  · rw [table, ipv6Hash, ipv6]
    exact indexed.ipv6
  · rw [table, n1n2Hash, n1n2]
    exact indexed.n1n2
  · rw [sessions, ipv4]
    exact indexed.ipv4Issued
  · rw [sessions, ipv6]
    exact indexed.ipv6Issued
  · rw [sessions, n1n2]
    exact indexed.n1n2Issued
  · rw [sessions, generated, seid]
    exact indexed.seidIssued
  · rw [table, seid]
    exact indexed.ownSeid
  · rw [table]
    exact indexed.teid

lemma KeepsUes.before {id : ℕ} {ue : SmfUe} (keeps : KeepsUes context next)
  (found : next.ueFindById id = some ue) :
  ∃ before, context.ueFindById id = some before ∧
    (before.supi, before.imsi) = (ue.supi, ue.imsi) := by
  have names := keeps.names id
  rw [found] at names
  exact map_eq_some_iff.mp names.symm

lemma KeepsUes.findsOnly {Key : Type} [DecidableEq Key] {hash hash' : AList (fun _ : Key => ℕ)}
  {ids : List ℕ} {key : Option Key} (keeps : KeepsUes context next) (same : hash' = hash)
  (only : FindsOnly (search context.ueFindById hash.lookup) SmfUe.id ids key) :
  FindsOnly (search next.ueFindById hash'.lookup) SmfUe.id ids key := by
  intro name isKey found led
  rw [same] at led
  obtain ⟨entry, live⟩ :=
    (search_eq_some_iff (fun _ _ found => numberedUe found)).mp led
  obtain ⟨before, was, -⟩ := keeps.before live
  rw [← numberedUe was]
  apply only name isKey before
  exact bind_eq_some_iff.mpr ⟨found.id, entry, was⟩

namespace Indexed

variable {sess : SmfSess}

lemma addSess {smfUeId : ℕ} (indexed : Indexed context owners)
  (fits : context.n4SeidGenerator < 2 ^ 32) (added : SessAdded context next smfUeId sess) :
  Indexed next (owners.withSess sess) where
  ues := indexed.ues.keeps added.names rfl rfl
  sessions := indexed.sessions.sessAdd fits added
  lists := indexed.lists.sessAdd added

lemma ueUpdate {ue existing : SmfUe} (indexed : Indexed context owners)
  (found : context.ueFindById ue.id = some existing)
  (takesOwn : context.TakesOwn (.ueUpdate ue)) :
  Indexed (context.ueUpdate ue) (ownersAfter owners context (.ueUpdate ue)) := by
  obtain ⟨sameSupi, sameImsi, sameMembers⟩ := takesOwn existing found
  simp only [ownersAfter, found, reassign, if_pos sameSupi, if_pos sameImsi]
  exact
    { ues := indexed.ues.keeps (UesIndexed.keepsUes_ueUpdate found sameSupi sameImsi) rfl rfl
      sessions := indexed.sessions.keeps rfl ⟨rfl, rfl, rfl, rfl⟩ rfl ⟨rfl, rfl, rfl, rfl⟩
      lists := indexed.lists.ueUpdate found sameMembers }

lemma sessUpdate {existing : SmfSess} (indexed : Indexed context owners)
  (found : context.sessFindById sess.id = some existing)
  (takesOwn : context.TakesOwn (.sessUpdate sess)) :
  Indexed (context.sessUpdate sess) (ownersAfter owners context (.sessUpdate sess)) where
  ues := by
    refine indexed.ues.keeps (keepsUes_sessUpdate context sess) ?_ ?_
    · simp only [ownersAfter, found]
    · simp only [ownersAfter, found]
  sessions := indexed.sessions.sessUpdate found takesOwn
  lists := indexed.lists.sessUpdate found (takesOwn existing found).2.2.1

lemma removeSessions {ids : List ℕ} (indexed : Indexed context owners)
  (own : ∀ sid ∈ ids, ∀ sess ∈ context.sessFindById sid, context.OwnKeys ids sess) :
  Indexed (ids.foldl sessRemove context) owners where
  ues := indexed.ues.keeps (keepsUes_foldl ids) rfl rfl
  sessions := indexed.sessions.removeEach own
  lists := indexed.lists.removeEach ids

lemma ueRemove {id : ℕ} {order : List ℕ} (indexed : Indexed context owners)
  (takesOwn : context.TakesOwn (.ueRemove id order)) :
  Indexed (context.ueRemove id order) owners := by
  obtain ⟨ownNames, ownSessions⟩ := takesOwn
  have removed : Indexed (context.sessRemoveAllForUe id order) owners := by
    apply indexed.removeSessions
    intro sid gone sess found
    have own := ownSessions sid (mem_removalOrder.mp gone) sess found
    constructor
    · exact fun key isKey other led => mem_removalOrder.mpr (own.ipv4 key isKey other led)
    · exact fun key isKey other led => mem_removalOrder.mpr (own.ipv6 key isKey other led)
    · exact fun key isKey other led => mem_removalOrder.mpr (own.n1n2 key isKey other led)
  have keeps : KeepsUes context (context.sessRemoveAllForUe id order) := keepsUes_foldl _
  have ues : UesIndexed ((context.sessRemoveAllForUe id order).dropUe id) owners := by
    apply removed.ues.dropUe
    intro ue found
    obtain ⟨before, was, names⟩ := keeps.before found
    obtain ⟨ownSupi, ownImsi⟩ := ownNames before was
    obtain ⟨sameSupi, sameImsi⟩ := Prod.mk.injEq _ _ _ _ ▸ names
    rw [← sameSupi, ← sameImsi]
    constructor
    · exact keeps.findsOnly keeps.supiHash ownSupi
    · exact fun named => keeps.findsOnly keeps.imsiHash (ownImsi named)
  have sessions : SessionsIndexed ((context.sessRemoveAllForUe id order).dropUe id) owners := by
    refine removed.sessions.keeps ?_ ?_ ?_ ⟨rfl, rfl, rfl, rfl⟩ <;>
      simp only [dropUe] <;> split <;> simp
  exact ⟨ues, sessions, removed.lists.dropUe id⟩

section

variable (indexed : Indexed context owners)

include indexed

lemma ueRemoveAll : Indexed context.ueRemoveAll owners where
  ues := indexed.ues.ueRemoveAll
  sessions := indexed.sessions.ueRemoveAll
  lists := .ueRemoveAll context

lemma withPool (pool : Ipv4Pool) : Indexed { context with ipv4Pool := pool } owners where
  ues := indexed.ues.keeps ⟨rfl, rfl, rfl, fun _ => rfl⟩ rfl rfl
  sessions := indexed.sessions.keeps rfl ⟨rfl, rfl, rfl, rfl⟩ rfl ⟨rfl, rfl, rfl, rfl⟩
  lists := indexed.lists

lemma operate {operation : SmfOperation} (takesOwn : context.TakesOwn operation) :
  Indexed (context.operate operation) (ownersAfter owners context operation) := by
  cases operation with
  | ueAddBySupi supi =>
    cases added : context.ueAddBySupi supi with
    | none =>
      simp only [SmfContext.operate, ownersAfter, added, orElse]
      exact indexed
    | some result =>
      simp only [SmfContext.operate, ownersAfter, added, orElse]
      obtain ⟨next, ue⟩ := result
      obtain ⟨same, isNew, -, table, -⟩ := ueAddBySupi_eq added
      have sessions : next.sessList = context.sessList := by rw [same]
      refine ⟨indexed.ues.ueAddBySupi added, indexed.sessions.keeps sessions ?_ ?_
        ⟨rfl, rfl, rfl, rfl⟩, indexed.lists.addUe ?_ takesOwn table ?_⟩
      · rw [same]
        exact ⟨rfl, rfl, rfl, rfl⟩
      · rw [same]
      · rw [isNew]
        rfl
      · unfold sessFindById
        rw [sessions]
  | ueAddByImsi imsi =>
    cases added : context.ueAddByImsi imsi with
    | none =>
      simp only [SmfContext.operate, ownersAfter, added, orElse]
      exact indexed
    | some result =>
      simp only [SmfContext.operate, ownersAfter, added, orElse]
      obtain ⟨next, ue⟩ := result
      obtain ⟨same, isNew, -, table, -⟩ := ueAddByImsi_eq added
      have sessions : next.sessList = context.sessList := by rw [same]
      refine ⟨indexed.ues.ueAddByImsi added, indexed.sessions.keeps sessions ?_ ?_
        ⟨rfl, rfl, rfl, rfl⟩, indexed.lists.addUe ?_ takesOwn table ?_⟩
      · rw [same]
        exact ⟨rfl, rfl, rfl, rfl⟩
      · rw [same]
      · rw [isNew]
        rfl
      · unfold sessFindById
        rw [sessions]
  | ueUpdate ue =>
    cases found : context.ueFindById ue.id with
    | none =>
      simp only [SmfContext.operate, ownersAfter, found, ueUpdate_of_missing found]
      exact indexed
    | some existing => exact indexed.ueUpdate found takesOwn
  | ueRemove id order => exact indexed.ueRemove takesOwn
  | ueRemoveAll => exact indexed.ueRemoveAll
  | sessAddByPsi smfUeId psi =>
    cases added : context.sessAddByPsi smfUeId psi with
    | none =>
      simp only [SmfContext.operate, ownersAfter, added, orElse]
      exact indexed
    | some result =>
      simp only [SmfContext.operate, ownersAfter, added, orElse]
      exact indexed.addSess takesOwn (sessAddByPsi_added added)
  | sessAddByApn smfUeId apn ratType =>
    cases added : context.sessAddByApn smfUeId apn ratType with
    | none =>
      simp only [SmfContext.operate, ownersAfter, added, orElse]
      exact indexed
    | some result =>
      simp only [SmfContext.operate, ownersAfter, added, orElse]
      exact indexed.addSess takesOwn (sessAddByApn_added added)
  | sessUpdate sess =>
    cases found : context.sessFindById sess.id with
    | none =>
      simp only [SmfContext.operate, ownersAfter, found, sessUpdate_of_missing found]
      exact indexed
    | some existing => exact indexed.sessUpdate found takesOwn
  | sessRemove id =>
    apply @removeSessions _ _ [id] indexed
    intro sid isId sess found
    obtain rfl := List.mem_singleton.mp isId
    exact takesOwn sess found
  | allocate =>
    cases allocates : context.ipv4Pool.allocate with
    | none =>
      simp only [SmfContext.operate, ownersAfter, allocates]
      exact indexed
    | some result =>
      simp only [SmfContext.operate, ownersAfter, allocates]
      exact indexed.withPool result.2
  | release addr => exact indexed.withPool _

lemma coherent : Coherent context owners where
  supi := search_findsOwners indexed.ues.supi
  imsi := search_findsOwners indexed.ues.imsi
  seid := search_findsOwners indexed.sessions.seid
  teid id sess teid live bears _ := by
    obtain rfl := Option.some.inj bears
    have seid := indexed.sessions.teid id sess live
    unfold sessFindByTeid
    rw [seid]
    exact search_findsOwners indexed.sessions.seid id sess _ live rfl
      (indexed.sessions.ownSeid id sess live)
  ipv4 := search_findsOwners indexed.sessions.ipv4
  ipv6 := search_findsOwners indexed.sessions.ipv6
  n1n2 := search_findsOwners indexed.sessions.n1n2
  liveUes := ⟨search_findsStored fun _ _ found => numberedUe found,
    search_findsStored fun _ _ found => numberedUe found⟩
  liveSessions :=
    have numbered : ∀ id sess, context.sessFindById id = some sess → sess.id = id :=
      fun _ _ found => numberedSess found
    have bySeid : FindsStored context.sessFindById SmfSess.id context.sessFindBySeid :=
      search_findsStored numbered
    ⟨bySeid, fun teid => bySeid teid.toNat, search_findsStored numbered,
      search_findsStored numbered, search_findsStored numbered⟩
  sessIds := indexed.lists

end

end Indexed

lemma sessions_orElse_ue {result : Option (SmfContext × SmfUe)}
  (same : ∀ next ue, result = some (next, ue) → next.sessList = context.sessList) :
  (context.orElse result).sessFindById = context.sessFindById := by
  cases result with
  | none => rfl
  | some added =>
    unfold orElse sessFindById
    rw [same added.1 added.2 rfl]

lemma frameSessions {id : ℕ} (spared : ¬ context.targetSessions operation id) :
  (context.operate operation).sessFindById id = context.sessFindById id := by
  cases operation with
  | ueAddBySupi supi =>
    refine congrFun (sessions_orElse_ue fun next ue added => ?_) id
    rw [(ueAddBySupi_eq added).1]
  | ueAddByImsi imsi =>
    refine congrFun (sessions_orElse_ue fun next ue added => ?_) id
    rw [(ueAddByImsi_eq added).1]
  | ueUpdate ue => rfl
  | ueRemove ueId order =>
    have dropped : ((context.sessRemoveAllForUe ueId order).dropUe ueId).sessFindById =
        (context.sessRemoveAllForUe ueId order).sessFindById := by
      unfold dropUe
      split <;> rfl
    refine (congrFun dropped id).trans ((sessFindById_foldl _ _ _).trans (if_neg ?_))
    rwa [mem_removalOrder]
  | ueRemoveAll => exact absurd trivial spared
  | sessAddByPsi smfUeId psi =>
    simp only [operate]
    cases added : context.sessAddByPsi smfUeId psi with
    | none => rfl
    | some result =>
      rw [orElse, (sessAddByPsi_added added).table]
      exact update_of_ne spared _ _
  | sessAddByApn smfUeId apn ratType =>
    simp only [operate]
    cases added : context.sessAddByApn smfUeId apn ratType with
    | none => rfl
    | some result =>
      rw [orElse, (sessAddByApn_added added).table]
      exact update_of_ne spared _ _
  | sessUpdate sess =>
    simp only [operate]
    cases found : context.sessFindById sess.id with
    | none => rw [sessUpdate_of_missing found]
    | some existing =>
      rw [(sessUpdate_eq found).1]
      exact update_of_ne spared _ _
  | sessRemove sid =>
    simp only [operate]
    cases found : context.sessFindById sid with
    | none => rw [sessRemove_of_missing found]
    | some sess =>
      rw [sessFindById_sessRemove found]
      exact update_of_ne spared _ _
  | allocate =>
    simp only [operate]
    split <;> rfl
  | release addr => rfl

lemma frameUes {id : ℕ} (spared : ¬ context.targetUes operation id) :
  ((context.operate operation).ueFindById id).map (fun ue => (ue.supi, ue.imsi)) =
    (context.ueFindById id).map fun ue => (ue.supi, ue.imsi) := by
  cases operation with
  | ueAddBySupi supi =>
    simp only [operate]
    cases added : context.ueAddBySupi supi with
    | none => rfl
    | some result =>
      rw [orElse, (ueAddBySupi_eq added).2.2.2.1, update_of_ne spared]
  | ueAddByImsi imsi =>
    simp only [operate]
    cases added : context.ueAddByImsi imsi with
    | none => rfl
    | some result =>
      rw [orElse, (ueAddByImsi_eq added).2.2.2.1, update_of_ne spared]
  | ueUpdate ue =>
    simp only [operate]
    cases found : context.ueFindById ue.id with
    | none => rw [ueUpdate_of_missing found]
    | some existing => rw [ueUpdate_eq found, update_of_ne spared]
  | ueRemove ueId order =>
    have keeps : KeepsUes context (context.sessRemoveAllForUe ueId order) := keepsUes_foldl _
    simp only [operate, ueRemove]
    cases found : (context.sessRemoveAllForUe ueId order).ueFindById ueId with
    | none =>
      rw [dropUe_of_missing found]
      exact keeps.names id
    | some ue =>
      rw [(dropUe_eq found).1, update_of_ne spared]
      exact keeps.names id
  | ueRemoveAll => exact absurd trivial spared
  | sessAddByPsi smfUeId psi =>
    simp only [operate]
    cases added : context.sessAddByPsi smfUeId psi with
    | none => rfl
    | some result => exact (sessAddByPsi_added added).names.names id
  | sessAddByApn smfUeId apn ratType =>
    simp only [operate]
    cases added : context.sessAddByApn smfUeId apn ratType with
    | none => rfl
    | some result => exact (sessAddByApn_added added).names.names id
  | sessUpdate sess => exact (keepsUes_sessUpdate context sess).names id
  | sessRemove sid => exact (keepsUes_sessRemove context sid).names id
  | allocate =>
    simp only [operate]
    split <;> rfl
  | release addr => rfl

section Given

variable {Key Record : Type} [DecidableEq Key] {owner : Key → Option ℕ} {id : ℕ}
  {records : ℕ → Option Record} {keyOf : Record → Option Key} {targets : ℕ → Prop} {Field : Type}
  {record : Record} {key : Option Key}

lemma given_of_assign (key : Option Key) (name : Key) : assign owner id key name = owner name ∨
    (key = some name ∧ assign owner id key name = some id) := by
  by_cases same : key = some name
  · subst same
    exact .inr ⟨rfl, assign_self _ _ _⟩
  · exact .inl (assign_of_ne same)

lemma given_of_reassign [DecidableEq Field] (old new : Field) (key : Option Key) (name : Key) :
  reassign owner id old new key name = owner name ∨
    (key = some name ∧ reassign owner id old new key name = some id) := by
  unfold reassign
  split
  · exact .inl rfl
  · exact given_of_assign key name

def GivenToTargets (records : ℕ → Option Record) (keyOf : Record → Option Key)
  (targets : ℕ → Prop) (owner owner' : Key → Option ℕ) : Prop :=
  ∀ name, owner' name = owner name ∨
    ∃ id record, targets id ∧ records id = some record ∧ keyOf record = some name ∧
      owner' name = some id

omit [DecidableEq Key] in
lemma GivenToTargets.same : GivenToTargets records keyOf targets owner owner :=
  fun _ => .inl rfl

lemma GivenToTargets.of_assign (isTarget : targets id) (live : records id = some record)
  (bears : keyOf record = key) :
  GivenToTargets records keyOf targets owner (assign owner id key) := by
  intro name
  rcases given_of_assign key name with kept | ⟨isKey, given⟩
  · exact .inl kept
  · exact .inr ⟨id, record, isTarget, live, bears.trans isKey, given⟩

lemma GivenToTargets.of_reassign [DecidableEq Field] {old new : Field} (isTarget : targets id)
  (live : records id = some record) (bears : keyOf record = key) :
  GivenToTargets records keyOf targets owner (reassign owner id old new key) := by
  intro name
  rcases given_of_reassign old new key name with kept | ⟨isKey, given⟩
  · exact .inl kept
  · exact .inr ⟨id, record, isTarget, live, bears.trans isKey, given⟩

end Given

lemma givenUes (owners : SmfOwners) (context : SmfContext) (operation : SmfOperation) :
  GivenToTargets (context.operate operation).ueFindById SmfUe.supi
      (context.targetUes operation) owners.supi (ownersAfter owners context operation).supi ∧
    GivenToTargets (context.operate operation).ueFindById (fun ue => some ue.imsi)
      (context.targetUes operation) owners.imsi (ownersAfter owners context operation).imsi := by
  cases operation with
  | ueAddBySupi supi =>
    simp only [operate, ownersAfter]
    cases added : context.ueAddBySupi supi with
    | none => exact ⟨.same, .same⟩
    | some result =>
      obtain ⟨next, ue⟩ := result
      obtain ⟨-, isNew, -, table, -⟩ := ueAddBySupi_eq added
      have number : ue.id = context.smfUeList.next := by rw [isNew]; rfl
      have live : next.ueFindById ue.id = some ue := by
        rw [table, number, update_self]
      have named : ue.supi = some supi := by rw [isNew]
      have given : GivenToTargets next.ueFindById SmfUe.supi
          (context.targetUes (.ueAddBySupi supi)) owners.supi
          (assign owners.supi ue.id (some supi)) :=
        .of_assign number live named
      exact ⟨given, .same⟩
  | ueAddByImsi imsi =>
    simp only [operate, ownersAfter]
    cases added : context.ueAddByImsi imsi with
    | none => exact ⟨.same, .same⟩
    | some result =>
      obtain ⟨next, ue⟩ := result
      obtain ⟨-, isNew, -, table, -⟩ := ueAddByImsi_eq added
      have number : ue.id = context.smfUeList.next := by rw [isNew]; rfl
      have live : next.ueFindById ue.id = some ue := by
        rw [table, number, update_self]
      have named : some ue.imsi = some imsi := by rw [isNew]
      have given : GivenToTargets next.ueFindById (fun ue => some ue.imsi)
          (context.targetUes (.ueAddByImsi imsi)) owners.imsi
          (assign owners.imsi ue.id (some imsi)) :=
        .of_assign number live named
      exact ⟨.same, given⟩
  | ueUpdate ue =>
    simp only [operate, ownersAfter]
    cases found : context.ueFindById ue.id with
    | none => exact ⟨.same, .same⟩
    | some existing =>
      have live : (context.ueUpdate ue).ueFindById ue.id = some ue := by
        rw [ueUpdate_eq found, update_self]
      exact ⟨.of_reassign rfl live rfl, .of_reassign rfl live rfl⟩
  | sessAddByPsi smfUeId psi =>
    simp only [operate, ownersAfter]
    cases context.sessAddByPsi smfUeId psi <;> exact ⟨.same, .same⟩
  | sessAddByApn smfUeId apn ratType =>
    simp only [operate, ownersAfter]
    cases context.sessAddByApn smfUeId apn ratType <;> exact ⟨.same, .same⟩
  | sessUpdate sess =>
    simp only [operate, ownersAfter]
    cases context.sessFindById sess.id <;> exact ⟨.same, .same⟩
  | ueRemove id order | ueRemoveAll | sessRemove id | allocate | release addr =>
    exact ⟨.same, .same⟩

structure GivenSessions (context : SmfContext) (operation : SmfOperation)
  (owners owners' : SmfOwners) : Prop where
  seid : GivenToTargets (context.operate operation).sessFindById
    (fun sess => some sess.smfN4Seid) (context.targetSessions operation) owners.seid owners'.seid
  ipv4 : GivenToTargets (context.operate operation).sessFindById SmfSess.ipv4Addr
    (context.targetSessions operation) owners.ipv4 owners'.ipv4
  ipv6 : GivenToTargets (context.operate operation).sessFindById SmfSess.ipv6Key
    (context.targetSessions operation) owners.ipv6 owners'.ipv6
  n1n2 : GivenToTargets (context.operate operation).sessFindById SmfSess.pagingN1n2messageLocation
    (context.targetSessions operation) owners.n1n2 owners'.n1n2

lemma GivenSessions.same : GivenSessions context operation owners owners :=
  ⟨.same, .same, .same, .same⟩

lemma GivenSessions.of_added {smfUeId : ℕ} {sess : SmfSess}
  (isTarget : context.targetSessions operation context.sessList.next)
  (operates : context.operate operation = next) (added : SessAdded context next smfUeId sess) :
  GivenSessions context operation owners (owners.withSess sess) := by
  refine ⟨.of_assign ?_ ?_ rfl, .same, .same, .same⟩
  · rw [added.id]
    exact isTarget
  · rw [operates, added.table, added.id, update_self]

lemma givenSessions (owners : SmfOwners) (context : SmfContext) (operation : SmfOperation) :
  GivenSessions context operation owners (ownersAfter owners context operation) := by
  cases operation with
  | sessAddByPsi smfUeId psi =>
    simp only [ownersAfter]
    cases added : context.sessAddByPsi smfUeId psi with
    | none => exact .same
    | some result =>
      refine .of_added ?_ ?_ (sessAddByPsi_added added)
      · exact rfl
      · simp only [operate, added, orElse]
  | sessAddByApn smfUeId apn ratType =>
    simp only [ownersAfter]
    cases added : context.sessAddByApn smfUeId apn ratType with
    | none => exact .same
    | some result =>
      refine .of_added ?_ ?_ (sessAddByApn_added added)
      · exact rfl
      · simp only [operate, added, orElse]
  | sessUpdate sess =>
    simp only [ownersAfter]
    cases found : context.sessFindById sess.id with
    | none => exact .same
    | some existing =>
      have live : (context.sessUpdate sess).sessFindById sess.id = some sess := by
        rw [(sessUpdate_eq found).1, update_self]
      exact ⟨.of_reassign rfl live rfl, .of_reassign rfl live rfl, .of_reassign rfl live rfl,
        .of_reassign rfl live rfl⟩
  | ueAddBySupi supi =>
    simp only [ownersAfter]
    cases context.ueAddBySupi supi <;> exact ⟨.same, .same, .same, .same⟩
  | ueAddByImsi imsi =>
    simp only [ownersAfter]
    cases context.ueAddByImsi imsi <;> exact ⟨.same, .same, .same, .same⟩
  | ueUpdate ue =>
    simp only [ownersAfter]
    cases context.ueFindById ue.id <;> exact ⟨.same, .same, .same, .same⟩
  | ueRemove id order | ueRemoveAll | sessRemove id | allocate | release addr => exact .same

lemma Indexed.sparesOthers (indexed : Indexed context owners)
  (takesOwn : context.TakesOwn operation) :
  SparesOthers context (context.operate operation) operation := by
  have after : Indexed (context.operate operation) (ownersAfter owners context operation) :=
    indexed.operate takesOwn
  obtain ⟨givenSupi, givenImsi⟩ := givenUes owners context operation
  have given := givenSessions owners context operation
  have supis : ∀ id, ¬ context.targetUes operation id →
      ((context.operate operation).ueFindById id).map SmfUe.supi =
        (context.ueFindById id).map SmfUe.supi := by
    intro id spared
    have names := congrArg (Option.map Prod.fst) (frameUes spared)
    rwa [map_map, map_map] at names
  have imsis : ∀ id, ¬ context.targetUes operation id →
      ((context.operate operation).ueFindById id).map (fun ue => some ue.imsi) =
        (context.ueFindById id).map fun ue => some ue.imsi := by
    intro id spared
    have names := congrArg (Option.map fun names => some names.2) (frameUes spared)
    rwa [map_map, map_map] at names
  have keys : ∀ {Key : Type} (keyOf : SmfSess → Option Key) id,
      ¬ context.targetSessions operation id →
        ((context.operate operation).sessFindById id).map keyOf =
          (context.sessFindById id).map keyOf := by
    intro Key keyOf id spared
    rw [frameSessions spared]
  have seid : Spares SmfSess.id (context.targetSessions operation) context.sessFindBySeid
      (context.operate operation).sessFindBySeid :=
    indexed.sessions.seid.spares after.sessions.seid (fun _ _ found => numberedSess found)
      (fun _ _ found => numberedSess found) (keys _) given.seid
  constructor
  · exact indexed.ues.supi.spares after.ues.supi (fun _ _ found => numberedUe found)
      (fun _ _ found => numberedUe found) supis givenSupi
  · exact indexed.ues.imsi.spares after.ues.imsi (fun _ _ found => numberedUe found)
      (fun _ _ found => numberedUe found) imsis givenImsi
  · exact seid
  · exact fun teid => seid teid.toNat
  · exact indexed.sessions.ipv4.spares after.sessions.ipv4 (fun _ _ found => numberedSess found)
      (fun _ _ found => numberedSess found) (keys _) given.ipv4
  · exact indexed.sessions.ipv6.spares after.sessions.ipv6 (fun _ _ found => numberedSess found)
      (fun _ _ found => numberedSess found) (keys _) given.ipv6
  · exact indexed.sessions.n1n2.spares after.sessions.n1n2 (fun _ _ found => numberedSess found)
      (fun _ _ found => numberedSess found) (keys _) given.n1n2

def indexMachine : Machine (SmfContext × SmfOwners) SmfOperation Unit :=
  machine.observed fun owners context operation _ => ownersAfter owners context operation

/-- In every run of operations that take only their own keys, each live UE and
session is found by the keys it was the last to be given, what is found is live,
each UE lists its live sessions, and no operation on one makes another
unfindable. -/
theorem indices_coherent (maxUe maxSess : ℕ) (operations : List SmfOperation)
  (along : indexMachine.Along (fun joint operation => joint.1.TakesOwn operation)
    (.init maxUe maxSess, .none) operations) :
  ∀ context owners, indexMachine.run (.init maxUe maxSess, .none) operations = (context, owners) →
    context.Coherent owners ∧ ∀ operation, context.TakesOwn operation →
        context.SparesOthers (context.operate operation) operation := by
  have kept : ∀ (joint : SmfContext × SmfOwners) operation,
      Indexed joint.1 joint.2 → joint.1.TakesOwn operation →
        Indexed (indexMachine.step joint operation).1.1 (indexMachine.step joint operation).1.2 :=
    fun _ _ indexed takesOwn => indexed.operate takesOwn
  intro context owners reached
  have atEnd := indexMachine.invariant_run kept (indexed_init maxUe maxSess) along
  rw [reached] at atEnd
  exact ⟨atEnd.coherent, fun _ takesOwn => atEnd.sparesOthers takesOwn⟩

/-- The first two sessions of UE 1, as `sess_add_by_psi` makes them, with an
address. -/
def leasedSess (id : ℕ) (host : UInt8) : SmfSess :=
  { SmfSess.new id (UInt32.ofNat id) 1 with
    psi := UInt8.ofNat id
    smContextRef := some (toString id)
    pduSessionRef := some (toString id)
    chargingId := UInt32.ofNat id
    smfN4Seid := id
    smfN4Teid := UInt32.ofNat id
    ipv4Addr := some ⟨10, 45, 0, host⟩ }

/-- Two sessions with an address each; the first of them takes another one, and
then the UE is removed. -/
def ownUpdates : List SmfOperation :=
  [.ueAddBySupi "imsi-1", .sessAddByPsi 1 1, .sessAddByPsi 1 2,
    .sessUpdate (leasedSess 1 2), .sessUpdate (leasedSess 2 3),
    .sessUpdate (leasedSess 1 4), .sessRemove 2, .ueRemove 1 [1]]

theorem indices_coherent_sample : Coherent (indexMachine.run (.init 8 8, .none) ownUpdates).1
    (indexMachine.run (.init 8 8, .none) ownUpdates).2 :=
  (indices_coherent 8 8 ownUpdates (by decide) _ _ rfl).1

def sharedAddress : List SmfOperation :=
  [.ueAddBySupi "imsi-1", .sessAddByPsi 1 1, .sessAddByPsi 1 2,
    .sessUpdate (leasedSess 1 2), .sessUpdate (leasedSess 2 2), .sessRemove 1]

/-- Session 2 is live and was given the address last, and is not found by it. -/
theorem shared_address_lost : ¬ Coherent (indexMachine.run (.init 8 8, .none) sharedAddress).1
    (indexMachine.run (.init 8 8, .none) sharedAddress).2 := by
  intro coherent
  have found := coherent.ipv4 2 (leasedSess 2 2) ⟨10, 45, 0, 2⟩
    (by decide) (by decide) (by decide)
  exact absurd (congrArg isSome found) (by decide)

end NextGCore.Smf.SmfContext
