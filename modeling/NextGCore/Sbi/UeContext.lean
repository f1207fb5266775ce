import NextGCore.Library.NumberedTable
import NextGCore.Sbi.Text

/-!
# UE contexts

AUSF and UDM keep their UEs in the same way: records under their pool
identifiers, with one index by SUCI and one by SUPI.  The operations are those
of `context.rs` in both; each takes its locks for its own duration, so each is
one step.
-/

namespace NextGCore.Sbi

open Library NumberedTable

/-- What the context needs to know of a UE record. -/
class UeRecord (Ue : Type) where
  id : Ue → ℕ
  suci : Ue → String
  supi : Ue → Option String
  withSupi : Ue → String → Ue
  id_withSupi : ∀ ue supi, id (withSupi ue supi) = id ue

structure UeContext (Ue : Type) [UeRecord Ue] where
  ueList : NumberedTable Ue UeRecord.id
  suciHash : AList (fun _ : String => ℕ)
  supiHash : AList (fun _ : String => ℕ)
  maxNumOfUe : ℕ

namespace UeContext

variable {Ue : Type} [UeRecord Ue] {context : UeContext Ue} {ue : Ue} {name supi : String}
  {other : ℕ} {found : Ue}

def init (maxUe : ℕ) : UeContext Ue where
  ueList := .empty 1
  suciHash := ∅
  supiHash := ∅
  maxNumOfUe := maxUe

def ueFindById (context : UeContext Ue) (id : ℕ) : Option Ue :=
  context.ueList.lookup id

def ueFindBySuci (context : UeContext Ue) (suci : String) : Option Ue :=
  (context.suciHash.lookup suci).bind context.ueFindById

def ueFindBySupi (context : UeContext Ue) (supi : String) : Option Ue :=
  (context.supiHash.lookup supi).bind context.ueFindById

def ueFindBySuciOrSupi (context : UeContext Ue) (suciOrSupi : String) : Option Ue :=
  if startsWith "suci-" suciOrSupi
  then context.ueFindBySuci suciOrSupi
  else context.ueFindBySupi suciOrSupi

def ueFindByCtxId (context : UeContext Ue) (ctxId : String) : Option Ue :=
  (parseU64 ctxId).bind context.ueFindById

def ueAdd (context : UeContext Ue) (build : ℕ → Ue)
  (built : ∀ id, UeRecord.id (build id) = id) : Option (UeContext Ue × Ue) :=
  if context.maxNumOfUe ≤ context.ueList.size then none
  else
    let ue := build context.ueList.next
    some
      ({ context with
          ueList := context.ueList.allocate build built
          suciHash := context.suciHash.insert (UeRecord.suci ue) context.ueList.next
          supiHash :=
            match UeRecord.supi ue with
            | none => context.supiHash
            | some supi => context.supiHash.insert supi context.ueList.next },
        ue)

def ueRemove (context : UeContext Ue) (id : ℕ) : UeContext Ue :=
  match context.ueFindById id with
  | none => context
  | some ue =>
    { context with
      ueList := context.ueList.erase id
      suciHash := context.suciHash.erase (UeRecord.suci ue)
      supiHash :=
        match UeRecord.supi ue with
        | none => context.supiHash
        | some supi => context.supiHash.erase supi }

def ueUpdate (context : UeContext Ue) (ue : Ue) : UeContext Ue :=
  match context.ueFindById (UeRecord.id ue) with
  | none => context
  | some existing =>
    { context with
      ueList := context.ueList.update ue
      supiHash :=
        if UeRecord.supi existing = UeRecord.supi ue then context.supiHash
        else
          let forgotten :=
            match UeRecord.supi existing with
            | none => context.supiHash
            | some old => context.supiHash.erase old
          match UeRecord.supi ue with
          | none => forgotten
          | some new => forgotten.insert new (UeRecord.id ue) }

def ueSetSupi (context : UeContext Ue) (id : ℕ) (supi : String) : UeContext Ue :=
  match context.ueFindById id with
  | none => context
  | some ue =>
    { context with
      ueList := context.ueList.update (UeRecord.withSupi ue supi)
      supiHash :=
        match UeRecord.supi ue with
        | none => context.supiHash.insert supi id
        | some old => (context.supiHash.erase old).insert supi id }

lemma id_of_ueFindById {id : ℕ} (found : context.ueFindById id = some ue) : UeRecord.id ue = id :=
  number_eq found

lemma ueFindById_of_hash {hash : AList (fun _ : String => ℕ)}
  (found : (hash.lookup name).bind context.ueFindById = some ue) :
  context.ueFindById (UeRecord.id ue) = some ue := by
  cases entry : hash.lookup name with
  | none =>
    rw [entry] at found
    cases found
  | some id =>
    rw [entry] at found
    have atId : context.ueFindById id = some ue := found
    rwa [id_of_ueFindById atId]

lemma ueFindById_of_ueFindBySuciOrSupi (found : context.ueFindBySuciOrSupi name = some ue) :
  context.ueFindById (UeRecord.id ue) = some ue := by
  unfold ueFindBySuciOrSupi at found
  split at found
  · exact ueFindById_of_hash found
  · exact ueFindById_of_hash found

lemma ueFindById_of_ueFindByCtxId {ctxId : String}
  (found : context.ueFindByCtxId ctxId = some ue) :
  context.ueFindById (UeRecord.id ue) = some ue := by
  unfold ueFindByCtxId at found
  cases parsed : parseU64 ctxId with
  | none =>
    rw [parsed] at found
    cases found
  | some id =>
    rw [parsed] at found
    have atId : context.ueFindById id = some ue := found
    rwa [id_of_ueFindById atId]

@[simp]
lemma ueFindById_init (maxUe id : ℕ) :
  (init maxUe : UeContext Ue).ueFindById id = none :=
  lookup_empty 1 id

lemma ueFindById_fresh {id : ℕ} (unused : context.ueList.next ≤ id) :
  context.ueFindById id = none :=
  lookup_eq_none unused

lemma ueAdd_cases {next : UeContext Ue} {build : ℕ → Ue}
  {built : ∀ id, UeRecord.id (build id) = id}
  (added : context.ueAdd build built = some (next, ue)) :
  ue = build context.ueList.next ∧ next.ueList.next = context.ueList.next + 1 ∧
    ∀ id, next.ueFindById id =
      if id = context.ueList.next then some ue else context.ueFindById id := by
  unfold ueAdd at added
  split at added
  · cases added
  · obtain ⟨rfl, rfl⟩ := Prod.mk.injEq _ _ _ _ ▸ Option.some.inj added
    refine ⟨rfl, rfl, ?_⟩
    intro id
    have found := context.ueList.lookup_allocate build built id
    by_cases same : id = context.ueList.next
    · subst same
      rw [if_pos rfl] at found ⊢
      exact found
    · rw [if_neg same] at found ⊢
      exact found

lemma ueFindById_ueRemove (context : UeContext Ue) (id other : ℕ) :
  (context.ueRemove id).ueFindById other =
    if other = id then none else context.ueFindById other := by
  unfold ueRemove
  cases found : context.ueFindById id with
  | none =>
    by_cases same : other = id
    · rw [if_pos same, same]
      exact found
    · rw [if_neg same]
  | some ue => exact context.ueList.lookup_erase id other

lemma ueFindById_ueUpdate (context : UeContext Ue) (ue : Ue) (id : ℕ) :
  (context.ueUpdate ue).ueFindById id =
    if id = UeRecord.id ue then (context.ueFindById id).map fun _ => ue
    else context.ueFindById id := by
  unfold ueUpdate
  cases found : context.ueFindById (UeRecord.id ue) with
  | none =>
    by_cases same : id = UeRecord.id ue
    · rw [if_pos same, same, found]
      rfl
    · rw [if_neg same]
  | some existing => exact context.ueList.lookup_update ue id

lemma ueFindById_ueSetSupi (context : UeContext Ue) (id other : ℕ) (supi : String) :
  (context.ueSetSupi id supi).ueFindById other =
    if other = id then (context.ueFindById other).map (UeRecord.withSupi · supi)
    else context.ueFindById other := by
  unfold ueSetSupi
  cases found : context.ueFindById id with
  | none =>
    by_cases same : other = id
    · rw [if_pos same, same, found]
      rfl
    · rw [if_neg same]
  | some ue =>
    have updated := context.ueList.lookup_update (UeRecord.withSupi ue supi) other
    rw [UeRecord.id_withSupi, id_of_ueFindById found] at updated
    refine updated.trans ?_
    by_cases same : other = id
    · subst same
      rw [if_pos rfl, if_pos rfl, found]
      exact congrArg (Option.map fun _ => UeRecord.withSupi ue supi) found
    · rw [if_neg same, if_neg same]
      rfl

lemma of_ueFindById_ueRemove {id : ℕ} (found : (context.ueRemove id).ueFindById other = some ue) :
  context.ueFindById other = some ue := by
  rw [ueFindById_ueRemove] at found
  split at found
  · cases found
  · exact found

lemma of_ueFindById_ueUpdate {id : ℕ} (after : (context.ueUpdate ue).ueFindById id = some found) :
  (id = UeRecord.id ue ∧ found = ue ∧ ∃ old, context.ueFindById id = some old) ∨
    (id ≠ UeRecord.id ue ∧ context.ueFindById id = some found) := by
  rw [ueFindById_ueUpdate] at after
  split at after
  · next own =>
      obtain ⟨old, before, rfl⟩ := Option.map_eq_some_iff.mp after
      exact .inl ⟨own, rfl, old, before⟩
  · next other => exact .inr ⟨other, after⟩

lemma of_ueFindById_ueSetSupi {id : ℕ}
  (after : (context.ueSetSupi id supi).ueFindById other = some found) :
  (other = id ∧ ∃ old, context.ueFindById other = some old ∧ found = UeRecord.withSupi old supi) ∨
    (other ≠ id ∧ context.ueFindById other = some found) := by
  rw [ueFindById_ueSetSupi] at after
  split at after
  · next own =>
      obtain ⟨old, before, rfl⟩ := Option.map_eq_some_iff.mp after
      exact .inl ⟨own, old, before, rfl⟩
  · next different => exact .inr ⟨different, after⟩

lemma ueFindBySupi_ueRemove (found : context.ueFindBySupi supi = some ue) :
  (context.ueRemove (UeRecord.id ue)).ueFindBySupi supi = none := by
  have atId := ueFindById_of_hash found
  have gone := context.ueFindById_ueRemove (UeRecord.id ue)
  unfold ueRemove at gone ⊢
  rw [atId] at gone ⊢
  unfold ueFindBySupi
  -- The index may still name the identifier, but nothing is stored under it.
  cases entry : AList.lookup supi _ with
  | none => rfl
  | some id =>
    have before : context.supiHash.lookup supi = some id := by
      cases name : UeRecord.supi ue with
      | none => simpa only [name] using entry
      | some old =>
        simp only [name] at entry
        by_cases same : supi = old
        · subst same
          rw [AList.lookup_erase] at entry
          cases entry
        · rwa [AList.lookup_erase_ne same] at entry
    have sameId : UeRecord.id ue = id := by
      unfold ueFindBySupi at found
      rw [before] at found
      exact id_of_ueFindById found
    exact (gone id).trans (if_pos sameId.symm)

@[simp]
lemma ueRemove_next (context : UeContext Ue) (id : ℕ) :
  (context.ueRemove id).ueList.next = context.ueList.next := by
  unfold ueRemove
  split <;> rfl

@[simp]
lemma ueUpdate_next (context : UeContext Ue) (ue : Ue) :
  (context.ueUpdate ue).ueList.next = context.ueList.next := by
  unfold ueUpdate
  split
  · rfl
  · exact update_next _ _

@[simp]
lemma ueSetSupi_next (context : UeContext Ue) (id : ℕ) (supi : String) :
  (context.ueSetSupi id supi).ueList.next = context.ueList.next := by
  unfold ueSetSupi
  split
  · rfl
  · exact update_next _ _

end UeContext

end NextGCore.Sbi
