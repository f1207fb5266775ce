import NextGCore.Smf.Context

/-!
# What the operations of the SMF context change

Each operation as a change of the tables, as functions, and of the hash tables.
Operations on sessions keep the names of the UEs; a removal of several sessions
is read off from the removal of one.
-/

namespace NextGCore.Smf.SmfContext

open Library Function OwnedIndex NumberedTable Option
open Crypt (Bytes)

variable {context next : SmfContext} {ue : SmfUe} {sess : SmfSess} {smfUeId : ℕ} {Key : Type}
  (ids : List ℕ)

lemma numberedUe {id : ℕ} (found : context.ueFindById id = some ue) : ue.id = id :=
  number_eq found

lemma numberedSess {id : ℕ} (found : context.sessFindById id = some sess) : sess.id = id :=
  number_eq found

lemma ueFindById_withSessIds (context : SmfContext) (ueId : ℕ) (change : List ℕ → List ℕ)
  (id : ℕ) :
  (context.withSessIds ueId change).ueFindById id = (context.ueFindById id).map fun ue =>
      if id = ueId then { ue with sessIds := change ue.sessIds } else ue := by
  unfold withSessIds
  cases found : context.ueFindById ueId with
  | none =>
    change context.ueFindById id = _
    by_cases same : id = ueId
    · rw [same, found]
      rfl
    · simp [same]
  | some ue =>
    obtain rfl := numberedUe found
    refine (lookup_update _ _ _).trans ?_
    change (if id = ue.id then (context.ueFindById id).map _ else context.ueFindById id) = _
    by_cases same : id = ue.id
    · rw [if_pos same, same, found]
      simp
    · simp [same]

@[simp]
lemma withSessIds_next (context : SmfContext) (ueId : ℕ) (change : List ℕ → List ℕ) :
  (context.withSessIds ueId change).smfUeList.next = context.smfUeList.next := by
  unfold withSessIds
  cases context.ueFindById ueId with
  | none => rfl
  | some ue => exact update_next _ _

lemma ueAdd_eq {build : ℕ → SmfUe} {built : ∀ id, (build id).id = id}
  (added : context.ueAdd build built = some (next, ue)) :
  next = { context with smfUeList := next.smfUeList } ∧ ue = build context.smfUeList.next ∧
    next.smfUeList.next = context.smfUeList.next + 1 ∧
    next.ueFindById = Function.update context.ueFindById context.smfUeList.next (some ue) := by
  unfold ueAdd at added
  split at added
  · cases added
  · obtain ⟨rfl, rfl⟩ := Prod.mk.injEq _ _ _ _ ▸ some.inj added
    exact ⟨rfl, rfl, rfl, lookup_allocate_eq context.smfUeList build built⟩

lemma ueAddBySupi_eq {supi : String} (added : context.ueAddBySupi supi = some (next, ue)) :
  next = { context with smfUeList := next.smfUeList, supiHash := next.supiHash } ∧
    ue = { SmfUe.new context.smfUeList.next with supi := some supi } ∧
    next.smfUeList.next = context.smfUeList.next + 1 ∧
    next.ueFindById = Function.update context.ueFindById context.smfUeList.next (some ue) ∧
    next.supiHash.lookup = assign context.supiHash.lookup context.smfUeList.next (some supi) := by
  obtain ⟨⟨grown, ue'⟩, stored, result⟩ := map_eq_some_iff.mp added
  obtain ⟨rfl, rfl⟩ := Prod.mk.injEq _ _ _ _ ▸ result
  obtain ⟨same, isNew, counted, table⟩ := ueAdd_eq stored
  refine ⟨?_, isNew, counted, table, ?_⟩
  · rw [same]
  · rw [same, isNew]
    exact lookup_insert_eq _ _ _

lemma ueAddByImsi_eq {imsi : Bytes} (added : context.ueAddByImsi imsi = some (next, ue)) :
  next = { context with smfUeList := next.smfUeList, imsiHash := next.imsiHash } ∧
    ue = { SmfUe.new context.smfUeList.next with imsi := imsi } ∧
    next.smfUeList.next = context.smfUeList.next + 1 ∧
    next.ueFindById = Function.update context.ueFindById context.smfUeList.next (some ue) ∧
    next.imsiHash.lookup = assign context.imsiHash.lookup context.smfUeList.next (some imsi) := by
  obtain ⟨⟨grown, ue'⟩, stored, result⟩ := map_eq_some_iff.mp added
  obtain ⟨rfl, rfl⟩ := Prod.mk.injEq _ _ _ _ ▸ result
  obtain ⟨same, isNew, counted, table⟩ := ueAdd_eq stored
  refine ⟨?_, isNew, counted, table, ?_⟩
  · rw [same]
  · rw [same, isNew]
    exact lookup_insert_eq _ _ _

lemma ueUpdate_eq {existing : SmfUe} (found : context.ueFindById ue.id = some existing) :
  (context.ueUpdate ue).ueFindById = Function.update context.ueFindById ue.id (some ue) :=
  lookup_update_eq found

lemma ueUpdate_of_missing (missing : context.ueFindById ue.id = none) :
  context.ueUpdate ue = context := by
  unfold ueUpdate
  rw [update_of_missing missing]

lemma dropUe_eq {id : ℕ} (found : context.ueFindById id = some ue) :
  (context.dropUe id).ueFindById = Function.update context.ueFindById id none ∧
    (context.dropUe id).supiHash.lookup = forget context.supiHash.lookup ue.supi ∧
    (context.dropUe id).imsiHash.lookup = (if ue.imsi = [] then context.imsiHash.lookup
      else forget context.imsiHash.lookup (some ue.imsi)) ∧
    (context.dropUe id).smfUeList.next = context.smfUeList.next := by
  unfold dropUe
  rw [found]
  refine ⟨NumberedTable.lookup_erase_eq context.smfUeList id, lookup_eraseKey _ _, ?_, rfl⟩
  simp only [List.isEmpty_iff]
  split
  · rfl
  · exact lookup_erase_eq _ _

lemma dropUe_of_missing {id : ℕ} (missing : context.ueFindById id = none) :
  context.dropUe id = context := by
  unfold dropUe
  rw [missing]

lemma ueRemoveAll_ues (context : SmfContext) : context.ueRemoveAll.ueFindById = fun _ => none :=
  funext fun id => lookup_clear context.smfUeList id

lemma ueRemoveAll_sessions (context : SmfContext) :
  context.ueRemoveAll.sessFindById = fun _ => none :=
  funext fun id => lookup_clear context.sessList id

structure KeepsUes (context next : SmfContext) : Prop where
  supiHash : next.supiHash = context.supiHash
  imsiHash : next.imsiHash = context.imsiHash
  issued : next.smfUeList.next = context.smfUeList.next
  names : ∀ id, (next.ueFindById id).map (fun ue => (ue.supi, ue.imsi)) =
    (context.ueFindById id).map fun ue => (ue.supi, ue.imsi)

lemma KeepsUes.refl (context : SmfContext) : KeepsUes context context :=
  ⟨rfl, rfl, rfl, fun _ => rfl⟩

lemma KeepsUes.trans {last : SmfContext} (first : KeepsUes context next)
  (second : KeepsUes next last) : KeepsUes context last where
  supiHash := second.supiHash.trans first.supiHash
  imsiHash := second.imsiHash.trans first.imsiHash
  issued := second.issued.trans first.issued
  names id := (second.names id).trans (first.names id)

lemma keepsUes_withSessIds (context : SmfContext) (ueId : ℕ) (change : List ℕ → List ℕ) :
  KeepsUes context (context.withSessIds ueId change) where
  supiHash := rfl
  imsiHash := rfl
  issued := withSessIds_next context ueId change
  names id := by
    rw [ueFindById_withSessIds, map_map]
    apply congrArg (fun read => Option.map read (context.ueFindById id))
    funext ue
    rw [comp_apply]
    split <;> rfl

lemma keepsUes_sessAdd {fill : SmfSess → SmfSess} {filled : ∀ sess, (fill sess).id = sess.id}
  (added : context.sessAdd smfUeId fill filled = some (next, sess)) : KeepsUes context next := by
  unfold sessAdd at added
  split at added
  · cases added
  · obtain ⟨rfl, -⟩ := Prod.mk.injEq _ _ _ _ ▸ some.inj added
    have stored : KeepsUes context
        (context.storeSess (fun id => fill (context.blankSess smfUeId id)) (fun _ => filled _)) :=
      ⟨rfl, rfl, rfl, fun _ => rfl⟩
    exact stored.trans (keepsUes_withSessIds _ smfUeId _)

lemma sessRemove_eq {id : ℕ} (found : context.sessFindById id = some sess) :
  context.sessRemove id =
    (context.dropSess sess).withSessIds sess.smfUeId (·.filter (· ≠ id)) := by
  unfold sessRemove
  rw [found]

lemma sessRemove_of_missing {id : ℕ} (missing : context.sessFindById id = none) :
  context.sessRemove id = context := by
  unfold sessRemove
  rw [missing]

lemma keepsUes_sessRemove (context : SmfContext) (id : ℕ) :
  KeepsUes context (context.sessRemove id) := by
  cases found : context.sessFindById id with
  | none =>
    rw [sessRemove_of_missing found]
    exact .refl context
  | some sess =>
    have dropped : KeepsUes context (context.dropSess sess) := ⟨rfl, rfl, rfl, fun _ => rfl⟩
    rw [sessRemove_eq found]
    exact dropped.trans (keepsUes_withSessIds _ _ _)

lemma keepsUes_sessUpdate (context : SmfContext) (sess : SmfSess) :
  KeepsUes context (context.sessUpdate sess) := by
  unfold sessUpdate
  cases context.sessFindById sess.id with
  | none => exact .refl context
  | some existing => exact ⟨rfl, rfl, rfl, fun _ => rfl⟩

lemma keepsUes_foldl : KeepsUes context (ids.foldl sessRemove context) := by
  induction ids generalizing context with
  | nil => exact .refl context
  | cons id ids ih =>
    exact (keepsUes_sessRemove context id).trans ih

def view {Key : Type} (hash : SmfContext → Key → Option ℕ) (context : SmfContext) :
  (ℕ → Option SmfSess) × (Key → Option ℕ) :=
  (context.sessFindById, hash context)

lemma sessFindById_sessRemove {id : ℕ} (found : context.sessFindById id = some sess) :
  (context.sessRemove id).sessFindById = Function.update context.sessFindById id none := by
  rw [sessRemove_eq found]
  obtain rfl := numberedSess found
  exact NumberedTable.lookup_erase_eq context.sessList sess.id

lemma view_sessRemove [DecidableEq Key] {hash : SmfContext → Key → Option ℕ}
  {keyOf : SmfSess → Option Key}
  (edits : ∀ context id sess, context.sessFindById id = some sess →
    hash (context.sessRemove id) = forget (hash context) (keyOf sess)) (context : SmfContext)
  (id : ℕ) :
  view hash (context.sessRemove id) = dropRecord keyOf (view hash context) id := by
  unfold view dropRecord
  cases found : context.sessFindById id with
  | none =>
    rw [sessRemove_of_missing found]
    simp only [found]
  | some sess =>
    rw [sessFindById_sessRemove found, edits context id sess found]
    simp only [found]

lemma view_foldl [DecidableEq Key] {hash : SmfContext → Key → Option ℕ}
  {keyOf : SmfSess → Option Key}
  (edits : ∀ context id sess, context.sessFindById id = some sess →
    hash (context.sessRemove id) = forget (hash context) (keyOf sess)) (ids : List ℕ)
  (context : SmfContext) :
  view hash (ids.foldl sessRemove context) = ids.foldl (dropRecord keyOf) (view hash context) :=
  (List.foldl_hom (view hash) (fun context id => (view_sessRemove edits context id).symm)).symm

lemma seid_sessRemove (context : SmfContext) (id : ℕ) (sess : SmfSess)
  (found : context.sessFindById id = some sess) :
  (context.sessRemove id).smfN4SeidHash.lookup =
    forget context.smfN4SeidHash.lookup (some sess.smfN4Seid) := by
  rw [sessRemove_eq found]
  exact lookup_eraseKey _ _

lemma ipv4_sessRemove (context : SmfContext) (id : ℕ) (sess : SmfSess)
  (found : context.sessFindById id = some sess) :
  (context.sessRemove id).ipv4Hash.lookup = forget context.ipv4Hash.lookup sess.ipv4Addr := by
  rw [sessRemove_eq found]
  exact lookup_eraseKey _ _

lemma ipv6_sessRemove (context : SmfContext) (id : ℕ) (sess : SmfSess)
  (found : context.sessFindById id = some sess) :
  (context.sessRemove id).ipv6Hash.lookup = forget context.ipv6Hash.lookup sess.ipv6Key := by
  rw [sessRemove_eq found]
  exact lookup_eraseKey _ _

lemma n1n2_sessRemove (context : SmfContext) (id : ℕ) (sess : SmfSess)
  (found : context.sessFindById id = some sess) :
  (context.sessRemove id).n1n2messageHash.lookup =
    forget context.n1n2messageHash.lookup sess.pagingN1n2messageLocation := by
  rw [sessRemove_eq found]
  exact lookup_eraseKey _ _

structure SessAdded (context next : SmfContext) (smfUeId : ℕ) (sess : SmfSess) : Prop where
  id : sess.id = context.sessList.next
  ue : sess.smfUeId = smfUeId
  seid : sess.smfN4Seid = context.n4SeidGenerator
  teid : sess.smfN4Teid = UInt32.ofNat context.n4SeidGenerator
  bare : sess.ipv4Addr = none ∧ sess.ipv6Prefix = none ∧ sess.pagingN1n2messageLocation = none
  ues : next.ueFindById = (context.withSessIds smfUeId (· ++ [context.sessList.next])).ueFindById
  table : next.sessFindById = Function.update context.sessFindById context.sessList.next (some sess)
  seidHash : next.smfN4SeidHash.lookup =
    assign context.smfN4SeidHash.lookup context.sessList.next (some context.n4SeidGenerator)
  hashes : next.ipv4Hash = context.ipv4Hash ∧ next.ipv6Hash = context.ipv6Hash ∧
    next.n1n2messageHash = context.n1n2messageHash
  issued : next.sessList.next = context.sessList.next + 1
  generated : next.n4SeidGenerator = context.n4SeidGenerator + 1
  pool : next.ipv4Pool = context.ipv4Pool
  names : KeepsUes context next

def KeepsKeys (fill : SmfSess → SmfSess) : Prop :=
  ∀ sess, (fill sess).smfUeId = sess.smfUeId ∧ (fill sess).smfN4Seid = sess.smfN4Seid ∧
    (fill sess).smfN4Teid = sess.smfN4Teid ∧ (fill sess).ipv4Addr = sess.ipv4Addr ∧
    (fill sess).ipv6Prefix = sess.ipv6Prefix ∧
    (fill sess).pagingN1n2messageLocation = sess.pagingN1n2messageLocation

lemma sessAdd_added {fill : SmfSess → SmfSess} {filled : ∀ sess, (fill sess).id = sess.id}
  (keeps : KeepsKeys fill) (added : context.sessAdd smfUeId fill filled = some (next, sess)) :
  SessAdded context next smfUeId sess := by
  have names := keepsUes_sessAdd added
  unfold sessAdd at added
  split at added
  · cases added
  · obtain ⟨rfl, rfl⟩ := Prod.mk.injEq _ _ _ _ ▸ some.inj added
    obtain ⟨ue, seid, teid, ipv4, ipv6, location⟩ :=
      keeps (context.blankSess smfUeId context.sessList.next)
    exact
      { id := filled _
        ue := ue
        seid := seid
        teid := teid
        bare := ⟨ipv4, ipv6, location⟩
        ues := rfl
        table := lookup_allocate_eq context.sessList _ (fun _ => filled _)
        seidHash := lookup_insert_eq _ _ _
        hashes := ⟨rfl, rfl, rfl⟩
        issued := rfl
        generated := rfl
        pool := rfl
        names := names }

lemma sessAddByPsi_added {psi : UInt8}
  (added : context.sessAddByPsi smfUeId psi = some (next, sess)) :
  SessAdded context next smfUeId sess := by
  refine sessAdd_added ?_ added
  intro sess
  exact ⟨rfl, rfl, rfl, rfl, rfl, rfl⟩

lemma sessAddByApn_added {apn : String} {ratType : UInt8}
  (added : context.sessAddByApn smfUeId apn ratType = some (next, sess)) :
  SessAdded context next smfUeId sess := by
  refine sessAdd_added ?_ added
  intro sess
  exact ⟨rfl, rfl, rfl, rfl, rfl, rfl⟩

lemma lookup_rehash_unless [DecidableEq Key] (unchanged : Prop) [Decidable unchanged]
  (hash : AList (fun _ : Key => ℕ)) (id : ℕ) (old new : Option Key) :
  (if unchanged then hash else rehash hash id old new).lookup =
    if unchanged then hash.lookup else assign (forget hash.lookup old) id new := by
  split
  · rfl
  · exact lookup_rehash hash id old new

lemma sessUpdate_eq {existing : SmfSess} (found : context.sessFindById sess.id = some existing) :
  (context.sessUpdate sess).sessFindById =
      Function.update context.sessFindById sess.id (some sess) ∧
    (context.sessUpdate sess).smfN4SeidHash = context.smfN4SeidHash ∧
    (context.sessUpdate sess).ipv4Hash.lookup =
      (if existing.ipv4Addr = sess.ipv4Addr then context.ipv4Hash.lookup
      else assign (forget context.ipv4Hash.lookup existing.ipv4Addr) sess.id sess.ipv4Addr) ∧
    (context.sessUpdate sess).ipv6Hash.lookup =
      (if existing.ipv6Prefix = sess.ipv6Prefix then context.ipv6Hash.lookup
      else assign (forget context.ipv6Hash.lookup existing.ipv6Key) sess.id sess.ipv6Key) ∧
    (context.sessUpdate sess).n1n2messageHash.lookup =
      (if existing.pagingN1n2messageLocation = sess.pagingN1n2messageLocation then
        context.n1n2messageHash.lookup
      else
        assign (forget context.n1n2messageHash.lookup existing.pagingN1n2messageLocation)
          sess.id sess.pagingN1n2messageLocation) ∧
    (context.sessUpdate sess).sessList.next = context.sessList.next ∧
    (context.sessUpdate sess).n4SeidGenerator = context.n4SeidGenerator ∧
    (context.sessUpdate sess).ipv4Pool = context.ipv4Pool := by
  unfold sessUpdate
  rw [found]
  exact ⟨lookup_update_eq found, rfl, lookup_rehash_unless _ _ _ _ _,
    lookup_rehash_unless _ _ _ _ _, lookup_rehash_unless _ _ _ _ _,
    update_next _ _, rfl, rfl⟩

lemma sessUpdate_of_missing (missing : context.sessFindById sess.id = none) :
  context.sessUpdate sess = context := by
  unfold sessUpdate
  rw [missing]

lemma sessRemove_counters (context : SmfContext) (id : ℕ) :
  (context.sessRemove id).sessList.next = context.sessList.next ∧
    (context.sessRemove id).n4SeidGenerator = context.n4SeidGenerator := by
  cases found : context.sessFindById id with
  | none =>
    rw [sessRemove_of_missing found]
    exact ⟨rfl, rfl⟩
  | some sess =>
    rw [sessRemove_eq found]
    exact ⟨rfl, rfl⟩

lemma foldl_counters (context : SmfContext) :
  (ids.foldl sessRemove context).sessList.next = context.sessList.next ∧
    (ids.foldl sessRemove context).n4SeidGenerator = context.n4SeidGenerator := by
  induction ids generalizing context with
  | nil => exact ⟨rfl, rfl⟩
  | cons id ids ih =>
    obtain ⟨issued, generated⟩ := ih (context.sessRemove id)
    obtain ⟨first, second⟩ := sessRemove_counters context id
    exact ⟨issued.trans first, generated.trans second⟩

lemma sessFindById_foldl (context : SmfContext) (id : ℕ) :
  (ids.foldl sessRemove context).sessFindById id =
    if id ∈ ids then none else context.sessFindById id := by
  have views := @view_foldl _ _ (fun context => context.ipv4Hash.lookup) _ ipv4_sessRemove
    ids context
  have records := congrFun (congrArg Prod.fst views) id
  rw [foldl_dropRecord_records] at records
  exact records

lemma mem_sessIdsOf {ueId sid : ℕ} : sid ∈ context.sessIdsOf ueId ↔
    ∃ sess, context.sessFindById sid = some sess ∧ sess.smfUeId = ueId := by
  unfold sessIdsOf
  simp only [List.mem_map, List.mem_filter, decide_eq_true_eq]
  constructor
  · rintro ⟨sess, ⟨stored, own⟩, rfl⟩
    exact ⟨sess, mem_records.mp stored, own⟩
  · rintro ⟨sess, found, own⟩
    have isId := numberedSess found
    refine ⟨sess, ⟨mem_records.mpr ?_, own⟩, isId⟩
    rw [isId]
    exact found

lemma mem_removalOrder {ueId sid : ℕ} {order : List ℕ} :
  sid ∈ context.removalOrder ueId order ↔ sid ∈ context.sessIdsOf ueId := by
  unfold removalOrder
  split
  case isTrue permuted => exact permuted.mem_iff
  case isFalse => exact Iff.rfl

end NextGCore.Smf.SmfContext
