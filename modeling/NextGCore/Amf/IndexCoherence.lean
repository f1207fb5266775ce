import NextGCore.Amf.Context
import NextGCore.Library.Machine

/-!
# Coherence of the AMF indices

Five hash maps find the UEs and the gNBs by the names they were given.  The
setters and the removals delete a name whoever it leads to, and an update of a
whole record changes the names behind the back of the hash maps.  Runs whose
operations take only their own names keep every index coherent.
-/

namespace NextGCore.Amf

open Library NumberedTable NamedTable

structure AmfOwners where
  suci : String → Option ℕ
  supi : String → Option ℕ
  guti : Guti5gs → Option ℕ
  addr : String → Option ℕ
  gnbId : UInt32 → Option ℕ

def AmfOwners.none : AmfOwners :=
  ⟨fun _ => .none, fun _ => .none, fun _ => .none, fun _ => .none, fun _ => .none⟩

def renamed {Key : Type} [DecidableEq Key] (owner : Key → Option ℕ) (id : ℕ)
  (old new : Option Key) : Key → Option ℕ :=
  if old = new then owner else assign owner id new

namespace AmfContext

/-- A setter gives its name, and so does an update that changes one; a new gNB is
given its address, a new UE nothing. -/
def ownersAfter (owners : AmfOwners) (context : AmfContext) : AmfOperation → AmfOwners
  | .amfUeAdd _ _ | .amfUeRemove _ | .gnbRemove _ => owners
  | .amfUeSetSuci id suci =>
    match context.amfUeFindById id with
    | none => owners
    | some _ => { owners with suci := assign owners.suci id (some suci) }
  | .amfUeSetSupi id supi =>
    match context.amfUeFindById id with
    | none => owners
    | some _ => { owners with supi := assign owners.supi id (some supi) }
  | .amfUeUpdateGuti id guti =>
    match context.amfUeFindById id with
    | none => owners
    | some _ => { owners with guti := assign owners.guti id (some guti) }
  | .amfUeUpdate amfUe =>
    match context.amfUeFindById amfUe.id with
    | none => owners
    | some existing =>
      { owners with
        suci := renamed owners.suci amfUe.id existing.suci amfUe.suci
        supi := renamed owners.supi amfUe.id existing.supi amfUe.supi
        guti := renamed owners.guti amfUe.id (some existing.currentGuti)
          (some amfUe.currentGuti) }
  | .gnbAdd addr =>
    match context.gnbAdd addr with
    | none => owners
    | some (_, gnb) => { owners with addr := assign owners.addr gnb.id (some addr) }
  | .gnbSetGnbId id gnbId =>
    match context.gnbFindById id with
    | none => owners
    | some _ => { owners with gnbId := assign owners.gnbId id (some gnbId) }
  | .gnbUpdate gnb =>
    match context.gnbFindById gnb.id with
    | none => owners
    | some existing =>
      { owners with
        addr := renamed owners.addr gnb.id (some existing.addr) (some gnb.addr)
        gnbId := renamed owners.gnbId gnb.id existing.presentGnbId gnb.presentGnbId }

/-- An operation takes from its record only names that lead to no other record, and an
update takes none. -/
def TakesOwn (context : AmfContext) : AmfOperation → Prop
  | .amfUeAdd _ _ | .gnbAdd _ => True
  | .amfUeSetSuci id suci =>
    ∀ amfUe ∈ context.amfUeFindById id, amfUe.suci ≠ some suci →
      LeadsOnlyTo context.amfUeFindBySuci AmfUeContext.id id amfUe.suci
  | .amfUeSetSupi id supi =>
    ∀ amfUe ∈ context.amfUeFindById id, amfUe.supi ≠ some supi →
      LeadsOnlyTo context.amfUeFindBySupi AmfUeContext.id id amfUe.supi
  | .amfUeUpdateGuti id guti =>
    ∀ amfUe ∈ context.amfUeFindById id, some amfUe.currentGuti ≠ some guti →
      LeadsOnlyTo context.amfUeFindByGuti AmfUeContext.id id (some amfUe.currentGuti)
  | .amfUeUpdate amfUe =>
    ∀ existing ∈ context.amfUeFindById amfUe.id,
      existing.suci = amfUe.suci ∧ existing.supi = amfUe.supi ∧
        existing.currentGuti = amfUe.currentGuti
  | .amfUeRemove id =>
    ∀ amfUe ∈ context.amfUeFindById id,
      LeadsOnlyTo context.amfUeFindBySuci AmfUeContext.id id amfUe.suci ∧
        LeadsOnlyTo context.amfUeFindBySupi AmfUeContext.id id amfUe.supi ∧
        LeadsOnlyTo context.amfUeFindByGuti AmfUeContext.id id (some amfUe.currentGuti)
  | .gnbSetGnbId id gnbId =>
    ∀ gnb ∈ context.gnbFindById id, gnb.presentGnbId ≠ some gnbId →
      LeadsOnlyTo context.gnbFindByGnbId AmfGnb.id id gnb.presentGnbId
  | .gnbUpdate gnb =>
    ∀ existing ∈ context.gnbFindById gnb.id,
      existing.addr = gnb.addr ∧ existing.presentGnbId = gnb.presentGnbId
  | .gnbRemove id =>
    ∀ gnb ∈ context.gnbFindById id, LeadsOnlyTo context.gnbFindByAddr AmfGnb.id id (some gnb.addr) ∧
        LeadsOnlyTo context.gnbFindByGnbId AmfGnb.id id gnb.presentGnbId

instance decidableTakesOwn (context : AmfContext) :
    (operation : AmfOperation) → Decidable (context.TakesOwn operation)
  | .amfUeAdd _ _ | .gnbAdd _ => inferInstanceAs (Decidable True)
  | .amfUeSetSuci _ _ | .amfUeSetSupi _ _ | .amfUeUpdateGuti _ _ | .gnbSetGnbId _ _ =>
    inferInstanceAs (Decidable (∀ _ ∈ _, _ → _))
  | .amfUeUpdate _ | .amfUeRemove _ => inferInstanceAs (Decidable (∀ _ ∈ _, _ ∧ _ ∧ _))
  | .gnbUpdate _ | .gnbRemove _ => inferInstanceAs (Decidable (∀ _ ∈ _, _ ∧ _))

/-- Each lookup finds the owners of the names and nothing but live records that carry
the name. -/
structure Coherent (context : AmfContext) (owners : AmfOwners) : Prop where
  suci : AnswersByName context.amfUeFindById AmfUeContext.suci AmfUeContext.id
    context.amfUeFindBySuci owners.suci
  supi : AnswersByName context.amfUeFindById AmfUeContext.supi AmfUeContext.id
    context.amfUeFindBySupi owners.supi
  guti : AnswersByName context.amfUeFindById (fun amfUe => some amfUe.currentGuti)
    AmfUeContext.id context.amfUeFindByGuti owners.guti
  addr : AnswersByName context.gnbFindById (fun gnb => some gnb.addr) AmfGnb.id
    context.gnbFindByAddr owners.addr
  gnbId : AnswersByName context.gnbFindById AmfGnb.presentGnbId AmfGnb.id
    context.gnbFindByGnbId owners.gnbId

def targetUes (context : AmfContext) : AmfOperation → ℕ → Prop
  | .amfUeAdd _ _ => (· = context.amfUeList.next)
  | .amfUeRemove id | .amfUeSetSuci id _ | .amfUeSetSupi id _ | .amfUeUpdateGuti id _ => (· = id)
  | .amfUeUpdate amfUe => (· = amfUe.id)
  | _ => fun _ => False

def targetGnbs (context : AmfContext) : AmfOperation → ℕ → Prop
  | .gnbAdd _ => (· = context.gnbList.next)
  | .gnbRemove id | .gnbSetGnbId id _ => (· = id)
  | .gnbUpdate gnb => (· = gnb.id)
  | _ => fun _ => False

structure SparesOthers (context next : AmfContext) (operation : AmfOperation) : Prop where
  suci : Spares AmfUeContext.id (context.targetUes operation) context.amfUeFindBySuci
    next.amfUeFindBySuci
  supi : Spares AmfUeContext.id (context.targetUes operation) context.amfUeFindBySupi
    next.amfUeFindBySupi
  guti : Spares AmfUeContext.id (context.targetUes operation) context.amfUeFindByGuti
    next.amfUeFindByGuti
  addr : Spares AmfGnb.id (context.targetGnbs operation) context.gnbFindByAddr next.gnbFindByAddr
  gnbId : Spares AmfGnb.id (context.targetGnbs operation) context.gnbFindByGnbId next.gnbFindByGnbId

def bySuci (context : AmfContext) (owners : AmfOwners) :
  NamedTable AmfUeContext AmfUeContext.id String :=
  ⟨context.amfUeList, context.suciHash, owners.suci⟩

def bySupi (context : AmfContext) (owners : AmfOwners) :
  NamedTable AmfUeContext AmfUeContext.id String :=
  ⟨context.amfUeList, context.supiHash, owners.supi⟩

def byGuti (context : AmfContext) (owners : AmfOwners) :
  NamedTable AmfUeContext AmfUeContext.id Guti5gs :=
  ⟨context.amfUeList, context.gutiUeHash, owners.guti⟩

def byAddr (context : AmfContext) (owners : AmfOwners) : NamedTable AmfGnb AmfGnb.id String :=
  ⟨context.gnbList, context.gnbAddrHash, owners.addr⟩

def byGnbId (context : AmfContext) (owners : AmfOwners) : NamedTable AmfGnb AmfGnb.id UInt32 :=
  ⟨context.gnbList, context.gnbIdHash, owners.gnbId⟩

structure Indexed (context : AmfContext) (owners : AmfOwners) : Prop where
  suci : (context.bySuci owners).Indexed AmfUeContext.suci
  supi : (context.bySupi owners).Indexed AmfUeContext.supi
  guti : (context.byGuti owners).Indexed fun amfUe => some amfUe.currentGuti
  addr : (context.byAddr owners).Indexed fun gnb => some gnb.addr
  gnbId : (context.byGnbId owners).Indexed AmfGnb.presentGnbId

lemma indexed_init (maxGnb maxUe : ℕ) : Indexed (.init maxGnb maxUe) .none where
  suci := indexed_empty 1
  supi := indexed_empty 1
  guti := indexed_empty 1
  addr := indexed_empty 1
  gnbId := indexed_empty 1

structure UesAfter (context next : AmfContext) (owners owners' : AmfOwners)
  (targets : ℕ → Prop) : Prop where
  suci : After AmfUeContext.suci targets (context.bySuci owners) (next.bySuci owners')
  supi : After AmfUeContext.supi targets (context.bySupi owners) (next.bySupi owners')
  guti : After (fun amfUe => some amfUe.currentGuti) targets (context.byGuti owners)
    (next.byGuti owners')

structure GnbsAfter (context next : AmfContext) (owners owners' : AmfOwners)
  (targets : ℕ → Prop) : Prop where
  addr : After (fun gnb => some gnb.addr) targets (context.byAddr owners)
    (next.byAddr owners')
  gnbId : After AmfGnb.presentGnbId targets (context.byGnbId owners)
    (next.byGnbId owners')

variable {context : AmfContext} {owners : AmfOwners}

namespace Indexed

variable {targets : ℕ → Prop} {operation : AmfOperation} {next : AmfContext} {owners' : AmfOwners}

lemma sameUes (indexed : Indexed context owners)
  (suci : next.bySuci owners' = context.bySuci owners)
  (supi : next.bySupi owners' = context.bySupi owners)
  (guti : next.byGuti owners' = context.byGuti owners) :
  UesAfter context next owners owners' targets :=
  ⟨.same indexed.suci suci, .same indexed.supi supi, .same indexed.guti guti⟩

lemma sameGnbs (indexed : Indexed context owners)
  (addr : next.byAddr owners' = context.byAddr owners)
  (gnbId : next.byGnbId owners' = context.byGnbId owners) :
  GnbsAfter context next owners owners' targets :=
  ⟨.same indexed.addr addr, .same indexed.gnbId gnbId⟩

section

variable (indexed : Indexed context owners) (takesOwn : context.TakesOwn operation)

include indexed takesOwn

lemma ues :
  UesAfter context (context.operate operation) owners (ownersAfter owners context operation)
    (context.targetUes operation) := by
  cases operation with
  | amfUeAdd ranUeId nasSecurityCanary =>
    have isTarget : context.targetUes (.amfUeAdd ranUeId nasSecurityCanary)
      context.amfUeList.next := rfl
    simp only [operate, amfUeAdd, ownersAfter]
    split
    · exact indexed.sameUes rfl rfl rfl
    · have numbered : ∀ id, (AmfUeContext.new id ranUeId nasSecurityCanary).id = id :=
        fun _ => rfl
      exact ⟨indexed.suci.allocate _ numbered isTarget,
        indexed.supi.allocate _ numbered isTarget, indexed.guti.allocate _ numbered isTarget⟩
  | amfUeRemove id =>
    have isTarget : context.targetUes (.amfUeRemove id) id := rfl
    simp only [operate, amfUeRemove, ownersAfter]
    cases found : context.amfUeFindById id with
    | none => exact indexed.sameUes rfl rfl rfl
    | some amfUe =>
      obtain ⟨suci, supi, guti⟩ := takesOwn amfUe found
      exact ⟨indexed.suci.erase suci isTarget, indexed.supi.erase supi isTarget,
        indexed.guti.erase guti isTarget⟩
  | amfUeSetSuci id suci =>
    simp only [operate, amfUeSetSuci, ownersAfter]
    cases found : context.amfUeFindById id with
    | none => exact indexed.sameUes rfl rfl rfl
    | some amfUe =>
      obtain rfl : amfUe.id = id := number_eq found
      have isTarget : context.targetUes (.amfUeSetSuci amfUe.id suci) amfUe.id := rfl
      exact ⟨indexed.suci.rename found rfl (takesOwn amfUe found) isTarget,
        indexed.supi.update found rfl, indexed.guti.update found rfl⟩
  | amfUeSetSupi id supi =>
    simp only [operate, amfUeSetSupi, ownersAfter]
    cases found : context.amfUeFindById id with
    | none => exact indexed.sameUes rfl rfl rfl
    | some amfUe =>
      obtain rfl : amfUe.id = id := number_eq found
      have isTarget : context.targetUes (.amfUeSetSupi amfUe.id supi) amfUe.id := rfl
      exact ⟨indexed.suci.update found rfl,
        indexed.supi.rename found rfl (takesOwn amfUe found) isTarget,
        indexed.guti.update found rfl⟩
  | amfUeUpdateGuti id guti =>
    simp only [operate, amfUeUpdateGuti, ownersAfter]
    cases found : context.amfUeFindById id with
    | none => exact indexed.sameUes rfl rfl rfl
    | some amfUe =>
      obtain rfl : amfUe.id = id := number_eq found
      have isTarget : context.targetUes (.amfUeUpdateGuti amfUe.id guti) amfUe.id := rfl
      exact ⟨indexed.suci.update found rfl, indexed.supi.update found rfl,
        indexed.guti.rename found rfl (takesOwn amfUe found) isTarget⟩
  | amfUeUpdate amfUe =>
    simp only [operate, amfUeUpdate, ownersAfter]
    cases found : context.amfUeFindById amfUe.id with
    | none =>
      rw [update_of_missing found]
      exact indexed.sameUes rfl rfl rfl
    | some existing =>
      obtain ⟨suci, supi, guti⟩ := takesOwn existing found
      simp only [suci, supi, guti, renamed, if_true]
      exact ⟨indexed.suci.update found suci.symm, indexed.supi.update found supi.symm,
        indexed.guti.update found (congrArg some guti.symm)⟩
  | gnbAdd addr =>
    simp only [operate, gnbAdd, ownersAfter]
    split <;> exact indexed.sameUes rfl rfl rfl
  | gnbRemove id =>
    simp only [operate, gnbRemove, ownersAfter]
    cases context.gnbFindById id <;> exact indexed.sameUes rfl rfl rfl
  | gnbSetGnbId id gnbId =>
    simp only [operate, gnbSetGnbId, ownersAfter]
    cases context.gnbFindById id <;> exact indexed.sameUes rfl rfl rfl
  | gnbUpdate gnb =>
    simp only [operate, gnbUpdate, ownersAfter]
    cases context.gnbFindById gnb.id <;> exact indexed.sameUes rfl rfl rfl

lemma gnbs :
  GnbsAfter context (context.operate operation) owners (ownersAfter owners context operation)
    (context.targetGnbs operation) := by
  cases operation with
  | gnbAdd addr =>
    have isTarget : context.targetGnbs (.gnbAdd addr) context.gnbList.next := rfl
    simp only [operate, gnbAdd, ownersAfter]
    split
    · exact indexed.sameGnbs rfl rfl
    · have numbered : ∀ id, (AmfGnb.new id addr).id = id := fun _ => rfl
      exact ⟨indexed.addr.allocateNamed _ numbered rfl isTarget,
        indexed.gnbId.allocate _ numbered isTarget⟩
  | gnbRemove id =>
    have isTarget : context.targetGnbs (.gnbRemove id) id := rfl
    simp only [operate, gnbRemove, ownersAfter]
    cases found : context.gnbFindById id with
    | none => exact indexed.sameGnbs rfl rfl
    | some gnb =>
      obtain ⟨addr, gnbId⟩ := takesOwn gnb found
      exact ⟨indexed.addr.erase addr isTarget, indexed.gnbId.erase gnbId isTarget⟩
  | gnbSetGnbId id gnbId =>
    simp only [operate, gnbSetGnbId, ownersAfter]
    cases found : context.gnbFindById id with
    | none => exact indexed.sameGnbs rfl rfl
    | some gnb =>
      obtain rfl : gnb.id = id := number_eq found
      have isTarget : context.targetGnbs (.gnbSetGnbId gnb.id gnbId) gnb.id := rfl
      exact ⟨indexed.addr.update found rfl,
        indexed.gnbId.rename found rfl (takesOwn gnb found) isTarget⟩
  | gnbUpdate gnb =>
    simp only [operate, gnbUpdate, ownersAfter]
    cases found : context.gnbFindById gnb.id with
    | none =>
      rw [update_of_missing found]
      exact indexed.sameGnbs rfl rfl
    | some existing =>
      obtain ⟨addr, gnbId⟩ := takesOwn existing found
      simp only [addr, gnbId, renamed, if_true]
      exact ⟨indexed.addr.update found (congrArg some addr.symm),
        indexed.gnbId.update found gnbId.symm⟩
  | amfUeAdd ranUeId nasSecurityCanary =>
    simp only [operate, amfUeAdd, ownersAfter]
    split <;> exact indexed.sameGnbs rfl rfl
  | amfUeRemove id =>
    simp only [operate, amfUeRemove, ownersAfter]
    cases context.amfUeFindById id <;> exact indexed.sameGnbs rfl rfl
  | amfUeSetSuci id suci =>
    simp only [operate, amfUeSetSuci, ownersAfter]
    cases context.amfUeFindById id <;> exact indexed.sameGnbs rfl rfl
  | amfUeSetSupi id supi =>
    simp only [operate, amfUeSetSupi, ownersAfter]
    cases context.amfUeFindById id <;> exact indexed.sameGnbs rfl rfl
  | amfUeUpdateGuti id guti =>
    simp only [operate, amfUeUpdateGuti, ownersAfter]
    cases context.amfUeFindById id <;> exact indexed.sameGnbs rfl rfl
  | amfUeUpdate amfUe =>
    simp only [operate, amfUeUpdate, ownersAfter]
    cases context.amfUeFindById amfUe.id <;> exact indexed.sameGnbs rfl rfl

lemma step : Indexed (context.operate operation) (ownersAfter owners context operation) :=
  have ues := indexed.ues takesOwn
  have gnbs := indexed.gnbs takesOwn
  ⟨ues.suci.indexed, ues.supi.indexed, ues.guti.indexed, gnbs.addr.indexed, gnbs.gnbId.indexed⟩

lemma sparesOthers : SparesOthers context (context.operate operation) operation :=
  have ues := indexed.ues takesOwn
  have gnbs := indexed.gnbs takesOwn
  ⟨ues.suci.spares, ues.supi.spares, ues.guti.spares, gnbs.addr.spares, gnbs.gnbId.spares⟩

end

lemma coherent (indexed : Indexed context owners) : context.Coherent owners :=
  ⟨indexed.suci.answers, indexed.supi.answers, indexed.guti.answers, indexed.addr.answers,
    indexed.gnbId.answers⟩

end Indexed

def indexMachine : Machine (AmfContext × AmfOwners) AmfOperation Unit where
  step joint operation :=
    ((joint.1.operate operation, ownersAfter joint.2 joint.1 operation), ())

/-- In every run of operations that take only their own names, each live UE and gNB is
found by the names it was the last to be given, what is found is live and carries the
name, and no operation on one makes another unfindable. -/
theorem amf_indices_coherent (maxGnb maxUe : ℕ) (operations : List AmfOperation)
  (along : indexMachine.Along (fun joint operation => joint.1.TakesOwn operation)
    (.init maxGnb maxUe, .none) operations) :
  ∀ context owners, indexMachine.run (.init maxGnb maxUe, .none) operations = (context, owners) →
    context.Coherent owners ∧ ∀ operation, context.TakesOwn operation →
        context.SparesOthers (context.operate operation) operation := by
  have kept : ∀ (joint : AmfContext × AmfOwners) operation, Indexed joint.1 joint.2 →
      joint.1.TakesOwn operation →
        Indexed (indexMachine.step joint operation).1.1 (indexMachine.step joint operation).1.2 :=
    fun _ _ indexed takesOwn => indexed.step takesOwn
  intro context owners reached
  have atEnd := indexMachine.invariant_run kept (indexed_init maxGnb maxUe) along
  rw [reached] at atEnd
  exact ⟨atEnd.coherent, fun _ takesOwn => atEnd.sparesOthers takesOwn⟩

/-- Two UEs of one subscriber, of which the one that has the SUPI goes first, and a gNB
that takes another id. -/
def ownNames : List AmfOperation :=
  [.amfUeAdd 1 false, .amfUeSetSupi 1 "imsi-1", .amfUeAdd 2 false, .amfUeSetSupi 2 "imsi-1",
    .gnbAdd "10.0.0.1", .gnbSetGnbId 1 7, .gnbSetGnbId 1 8, .amfUeRemove 2, .amfUeRemove 1]

theorem amf_indices_coherent_own_names : Coherent (indexMachine.run (.init 4 4, .none) ownNames).1
    (indexMachine.run (.init 4 4, .none) ownNames).2 :=
  (amf_indices_coherent 4 4 ownNames (by decide) _ _ rfl).1

def registeredAgain : List AmfOperation :=
  [.amfUeAdd 1 false, .amfUeSetSupi 1 "imsi-1", .amfUeAdd 2 false, .amfUeSetSupi 2 "imsi-1",
    .amfUeRemove 1]

def staleClone : List AmfOperation :=
  [.amfUeAdd 1 false, .amfUeSetSupi 1 "imsi-1", .amfUeSetSupi 1 "imsi-2",
    .amfUeUpdate { AmfUeContext.new 1 1 false with supi := some "imsi-1" }]

/-- The second UE is live and was given the SUPI last, and is not found by it; and the
SUPI of the clone is one that its UE is found by, which carries another. -/
theorem amf_indices_incoherent : (¬ Coherent (indexMachine.run (.init 4 4, .none) registeredAgain).1
      (indexMachine.run (.init 4 4, .none) registeredAgain).2) ∧
    ¬ Coherent (indexMachine.run (.init 4 4, .none) staleClone).1
      (indexMachine.run (.init 4 4, .none) staleClone).2 := by
  constructor
  · intro coherent
    have found := coherent.supi.finds 2 _ "imsi-1" rfl rfl rfl
    exact absurd (congrArg Option.isSome found) (by decide)
  · intro coherent
    have carried := coherent.supi.bears "imsi-2" _ rfl
    exact absurd carried (by decide)

end AmfContext

end NextGCore.Amf
